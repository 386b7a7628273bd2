import Commissioning.Proofs.Json.Slots

set_option autoImplicit false

/-! # Records of two fields that have been taken

A record of two fields is taken for an object or for an array. Of an object each field got the only
member with its name, if there is one, and of an array the fields got the elements in their order
(`Slots.recognises_record`). -/

namespace Commissioning.Json

open Reader Grammar

variable {β γ σ : Type}

/-! ## One slot -/

/-- The terms of the members with a name. -/
def termsNamed (name : String) (pairs : List (String × Term)) : List Term :=
  pairs.filterMap fun p => if p.1 = name then some p.2 else none

theorem termsNamed_cons_self (name : String) (t : Term) (pairs : List (String × Term)) :
    termsNamed name ((name, t) :: pairs) = t :: termsNamed name pairs := by
  simp [termsNamed]

theorem termsNamed_cons_of_ne {name other : String} (h : other ≠ name) (t : Term)
    (pairs : List (String × Term)) :
    termsNamed name ((other, t) :: pairs) = termsNamed name pairs := by
  simp [termsNamed, h]

/-- What becomes of a slot: it stays as it is, or it is filled by one term, once. -/
inductive SlotRun (allowed : Term → β → Prop) : List Term → Option β → Option β → Prop where
  | unfilled (x : Option β) : SlotRun allowed [] x x
  | filled {t : Term} {b : β} (h : allowed t b) : SlotRun allowed [t] none (some b)

theorem SlotRun.cons {allowed : Term → β → Prop} {t : Term} {b : β} {ts : List Term}
    {x : Option β} (ht : allowed t b) (h : SlotRun allowed ts (some b) x) :
    SlotRun allowed (t :: ts) none x := by
  cases h with
  | unfilled => exact .filled ht

/-! ## Two slots -/

/-- How the terms for two fields stand in a record: as the members with their names, or as the first
elements of an array. -/
inductive FilledBy (first second : String) : Term → List Term → List Term → Prop where
  | members {inside : List Blank} {ms : List (Member Term)} {pairs : List (String × Term)}
      (hnamed : named? ms = some pairs) :
      FilledBy first second (.object inside ms) (termsNamed first pairs) (termsNamed second pairs)
  | elements {inside : List Blank} {items : List (Item Term)} {ts us : List Term}
      (hterms : items.map (·.term) = ts ++ us) (horder : us ≠ [] → ts ≠ []) :
      FilledBy first second (.array inside items) ts us

namespace Slots

variable {k : Slots σ β γ} {first : Slot β} {second : Slot γ} {allowedFirst : Term → β → Prop}
  {allowedSecond : Term → γ → Prop}

/-- By which terms either field is filled. -/
structure Fills (k : Slots σ β γ) (first : Slot β) (second : Slot γ) (allowedFirst : Term → β → Prop)
    (allowedSecond : Term → γ → Prop) (f : Field σ) (s : σ) (t : Term) (s' : σ) : Prop where
  atFirst : f.name = first.name → ∃ b, allowedFirst t b ∧ s' = k.setFirst s b
  atSecond : f.name = second.name → ∃ c, allowedSecond t c ∧ s' = k.setSecond s c

theorem recognises_fields (hdistinct : first.name ≠ second.name)
    (hfirst : Recognises Mended first.read allowedFirst)
    (hsecond : Recognises Mended second.read allowedSecond) :
    ∀ f ∈ k.fields first second, ∀ s,
      Recognises Mended (f.read s) (Fills k first second allowedFirst allowedSecond f s) := by
  intro f hf s
  simp only [fields, List.mem_cons, List.not_mem_nil, or_false] at hf
  rcases hf with rfl | rfl
  · exact (hfirst.map (k.setFirst s)).mono fun t s' h =>
      ⟨fun _ => h, fun hname => absurd hname hdistinct⟩
  · exact (hsecond.map (k.setSecond s)).mono fun t s' h =>
      ⟨fun hname => absurd hname.symm hdistinct, fun _ => h⟩

theorem find?_fields {name : String} {f : Field σ}
    (hfind : (k.fields first second).find? (fun f => f.name == name) = some f) :
    (name = first.name ∧ f = .ofLens first.name first.required k.getFirst k.setFirst first.read) ∨
      (name = second.name ∧
        f = .ofLens second.name second.required k.getSecond k.setSecond second.read) := by
  have hname : f.name = name := by simpa using List.find?_some hfind
  have hmem := List.mem_of_find?_eq_some hfind
  simp only [fields, List.mem_cons, List.not_mem_nil, or_false] at hmem
  rcases hmem with rfl | rfl
  · exact .inl ⟨hname.symm, rfl⟩
  · exact .inr ⟨hname.symm, rfl⟩

/-- Members of an object fill the two slots each from the only member with its name. -/
theorem slotRuns_of_members {ms : List (Member Term)} {s s' : σ}
    (h : MemberRun (FieldStep (k.fields first second) (Fills k first second allowedFirst allowedSecond))
      s ms s') (hdistinct : first.name ≠ second.name) {x : Option β} {y : Option γ}
    (hs : s = k.make x y) :
    ∃ pairs x' y', named? ms = some pairs ∧ s' = k.make x' y' ∧
      SlotRun allowedFirst (termsNamed first.name pairs) x x' ∧
      SlotRun allowedSecond (termsNamed second.name pairs) y y' := by
  induction h generalizing x y with
  | nil => exact ⟨[], x, y, rfl, hs, .unfilled x, .unfilled y⟩
  | @cons s between s' name m ms hname hstep _ ih =>
    subst hs
    have hnamed : ∀ {pairs}, named? ms = some pairs →
        named? (m :: ms) = some ((name, m.item.term) :: pairs) := by
      intro pairs hpairs
      rw [named?] at hpairs ⊢
      rw [List.mapM_cons, hname, hpairs]
      rfl
    cases hstep with
    | field hfind hfree hfills =>
      rcases find?_fields hfind with ⟨rfl, rfl⟩ | ⟨rfl, rfl⟩
      · obtain ⟨b, hb, rfl⟩ := hfills.atFirst rfl
        obtain rfl : x = none := by simpa [Field.ofLens, k.getFirst_make] using hfree
        obtain ⟨pairs, x', y', hpairs, hs', hx, hy⟩ := ih (k.setFirst_make none y b)
        refine ⟨_, x', y', hnamed hpairs, hs', ?_, ?_⟩
        · rw [termsNamed_cons_self]
          exact hx.cons hb
        · rwa [termsNamed_cons_of_ne hdistinct]
      · obtain ⟨c, hc, rfl⟩ := hfills.atSecond rfl
        obtain rfl : y = none := by simpa [Field.ofLens, k.getSecond_make] using hfree
        obtain ⟨pairs, x', y', hpairs, hs', hx, hy⟩ := ih (k.setSecond_make x none c)
        refine ⟨_, x', y', hnamed hpairs, hs', ?_, ?_⟩
        · rwa [termsNamed_cons_of_ne (Ne.symm hdistinct)]
        · rw [termsNamed_cons_self]
          exact hy.cons hc
    | other hfind =>
      have hother := List.find?_eq_none.mp hfind
      have hfirst : name ≠ first.name := by
        rintro rfl
        exact hother _ List.mem_cons_self (beq_self_eq_true first.name)
      have hsecond : name ≠ second.name := by
        rintro rfl
        exact hother _ (List.mem_cons_of_mem _ List.mem_cons_self) (beq_self_eq_true second.name)
      obtain ⟨pairs, x', y', hpairs, hs', hx, hy⟩ := ih rfl
      refine ⟨_, x', y', hnamed hpairs, hs', ?_, ?_⟩
      · rwa [termsNamed_cons_of_ne hfirst]
      · rwa [termsNamed_cons_of_ne hsecond]

/-- Elements of an array fill the first slot and then the second one. -/
theorem slotRuns_of_elements {items : List (Item Term)} {s : σ}
    (h : ElementRun (Fills k first second allowedFirst allowedSecond) (k.fields first second)
      (k.make none none) items s) :
    ∃ ts us x y, items.map (·.term) = ts ++ us ∧ (us ≠ [] → ts ≠ []) ∧ s = k.make x y ∧
      SlotRun allowedFirst ts none x ∧ SlotRun allowedSecond us none y := by
  cases h with
  | nil => exact ⟨[], [], none, none, rfl, id, rfl, .unfilled none, .unfilled none⟩
  | cons hfirst hrest =>
    obtain ⟨b, hb, rfl⟩ := hfirst.atFirst rfl
    rw [k.setFirst_make] at hrest
    cases hrest with
    | nil => exact ⟨[_], [], some b, none, rfl, by simp, rfl, .filled hb, .unfilled none⟩
    | cons hsecond hrest =>
      obtain ⟨c, hc, rfl⟩ := hsecond.atSecond rfl
      rw [k.setSecond_make] at hrest
      cases hrest
      exact ⟨[_], [_], some b, some c, rfl, by simp, rfl, .filled hb, .filled hc⟩

/-- **A record of two fields is taken for a term that fills them.** -/
theorem recognises_record (k : Slots σ β γ) (first : Slot β) (second : Slot γ)
    (hdistinct : first.name ≠ second.name)
    (hfirst : Recognises Mended first.read allowedFirst)
    (hsecond : Recognises Mended second.read allowedSecond) (type : String) :
    Recognises Mended (record type (k.fields first second) (k.make none none)) fun t s =>
      ∃ ts us x y, FilledBy first.name second.name t ts us ∧ s = k.make x y ∧
        SlotRun allowedFirst ts none x ∧ SlotRun allowedSecond us none y := by
  refine (Json.recognises_record (recognises_fields hdistinct hfirst hsecond)).mono fun t s h => ?_
  cases h with
  | members h =>
    obtain ⟨pairs, x, y, hpairs, hs, hx, hy⟩ := slotRuns_of_members h hdistinct rfl
    exact ⟨_, _, x, y, .members hpairs, hs, hx, hy⟩
  | elements h =>
    obtain ⟨ts, us, x, y, hterms, horder, hs, hx, hy⟩ := slotRuns_of_elements h
    exact ⟨ts, us, x, y, .elements hterms horder, hs, hx, hy⟩

end Slots

end Commissioning.Json
