import Commissioning.Proofs.Json.Meaning
import Mathlib.Data.List.Nodup

set_option autoImplicit false

/-! # Records of two fields

A record of two fields is read from an object that repeats no member as what the two members with
the names of the fields are, wherever they stand and whatever stands between them. -/

namespace Commissioning.Json

open Reader Grammar

variable {α β γ σ : Type}

/-! ## Members by their names -/

theorem Value.member?_cons (name : String) (p : String × Value) (pairs : List (String × Value)) :
    member? name (p :: pairs)
      = (member? name pairs).or (if p.1 == name then some p.2 else none) := by
  unfold member?
  rw [List.reverse_cons, List.find?_append, Option.map_or]
  congr 1
  simp only [List.find?_cons, List.find?_nil]
  cases p.1 == name <;> rfl

theorem Value.member?_eq_none {name : String} {pairs : List (String × Value)}
    (h : name ∉ pairs.map Prod.fst) : member? name pairs = none := by
  rw [member?, Option.map_eq_none_iff, List.find?_eq_none]
  intro p hp hname
  exact h (List.mem_map.mpr ⟨p, List.mem_reverse.mp hp, by simpa using hname⟩)

/-- Where no name is repeated, a member is the one with its name. -/
theorem Value.member?_of_mem {name : String} {v : Value} {pairs : List (String × Value)}
    (hnodup : (pairs.map Prod.fst).Nodup) (h : (name, v) ∈ pairs) :
    member? name pairs = some v := by
  induction pairs with
  | nil => exact absurd h List.not_mem_nil
  | cons pair pairs ih =>
    rw [List.map_cons, List.nodup_cons] at hnodup
    rw [member?_cons]
    rcases List.mem_cons.mp h with rfl | hmem
    · rw [member?_eq_none hnodup.1, if_pos (beq_self_eq_true name), Option.none_or]
    · rw [ih hnodup.2 hmem, Option.some_or]

/-- A member is looked up as well among those whose names have a property that its name has. -/
theorem Value.member?_filter {name : String} {p : String → Bool} (h : p name = true)
    (pairs : List (String × Value)) :
    member? name (pairs.filter fun pair => p pair.1) = member? name pairs := by
  induction pairs with
  | nil => rfl
  | cons pair pairs ih =>
    rw [member?_cons, List.filter_cons]
    by_cases hpair : p pair.1 = true
    · rw [if_pos hpair, member?_cons, ih]
    · have hne : pair.1 ≠ name := by
        rintro rfl
        exact hpair h
      rw [if_neg hpair, if_neg (by simpa using hne), Option.or_none, ih]

/-- Where a name is not repeated, the order of the members does not count. -/
theorem Value.member?_perm {name : String} {pairs pairs' : List (String × Value)}
    (hperm : pairs.Perm pairs') (h : (pairs.map Prod.fst).count name ≤ 1) :
    member? name pairs = member? name pairs' := by
  induction hperm with
  | nil => rfl
  | @cons pair pairs pairs' _ ih =>
    rw [List.map_cons, List.count_cons] at h
    rw [member?_cons, member?_cons, ih (by omega)]
  | swap pair pair' pairs =>
    simp only [List.map_cons, List.count_cons] at h
    simp only [member?_cons, Option.or_assoc]
    -- Of two members next to each other one at most has the name.
    by_cases hfirst : pair.1 == name <;> by_cases hsecond : pair'.1 == name
    · rw [if_pos hfirst, if_pos hsecond] at h
      omega
    · simp [hfirst, hsecond]
    · simp [hfirst, hsecond]
    · simp [hfirst, hsecond]
  | trans hfirst _ ih ih' =>
    have hcount := (hfirst.map Prod.fst).count_eq name
    rw [ih h, ih' (by omega)]

/-! ## Steps on two slots -/

/-- What a step makes of the two fields of a record, whose state is a pair of slots. -/
structure TwoSlots (step : σ → String × Value → Option σ) (make : Option β → Option γ → σ)
    (first second : String) (f : Value → Option β) (g : Value → Option γ) : Prop where
  distinct : first ≠ second
  atFirst : ∀ b v, step (make none b) (first, v) = (f v).map fun a => make (some a) b
  atSecond : ∀ a v, step (make a none) (second, v) = (g v).map fun b => make a (some b)
  elsewhere : ∀ s name v, name ≠ first → name ≠ second → step s (name, v) = some s

/-- What a slot holds in the end: what it has, or what a function makes of the member with its
name. -/
def filled (f : Value → Option β) (a : Option β) : Option Value → Option (Option β)
  | none => some a
  | some v => (f v).map some

/-- Members whose names differ fill the slots one by one, in whatever order they stand. -/
theorem TwoSlots.foldlM {step : σ → String × Value → Option σ} {make : Option β → Option γ → σ}
    {first second : String} {f : Value → Option β} {g : Value → Option γ}
    (h : TwoSlots step make first second f g) {pairs : List (String × Value)}
    (hnodup : (pairs.map Prod.fst).Nodup) (a : Option β) (b : Option γ)
    (hfirst : first ∈ pairs.map Prod.fst → a = none)
    (hsecond : second ∈ pairs.map Prod.fst → b = none) :
    pairs.foldlM step (make a b)
      = (filled f a (Value.member? first pairs)).bind fun a' =>
          (filled g b (Value.member? second pairs)).map fun b' => make a' b' := by
  induction pairs generalizing a b with
  | nil => rfl
  | cons pair pairs ih =>
    obtain ⟨name, v⟩ := pair
    rw [List.map_cons, List.nodup_cons] at hnodup
    obtain ⟨hfresh, hnodup⟩ := hnodup
    simp only [List.map_cons, List.mem_cons] at hfirst hsecond hfresh
    rw [List.foldlM_cons, Value.member?_cons, Value.member?_cons]
    -- No later member has the name of this one, so a slot that it fills is not met again.
    by_cases hisFirst : name = first
    · subst hisFirst
      obtain rfl := hfirst (.inl rfl)
      have hb := fun hmem => hsecond (.inr hmem)
      rw [h.atFirst, Value.member?_eq_none hfresh, if_pos (beq_self_eq_true name),
        if_neg (by simpa using h.distinct), Option.or_none, Option.none_or]
      cases hf : f v with
      | none => simp [filled, hf]
      | some a =>
        have hrest := ih hnodup (some a) b (fun hmem => absurd hmem hfresh) hb
        rw [Value.member?_eq_none hfresh] at hrest
        simp only [filled, hf, Option.map_some, Option.bind_eq_bind, Option.bind_some] at hrest ⊢
        exact hrest
    · by_cases hisSecond : name = second
      · subst hisSecond
        obtain rfl := hsecond (.inl rfl)
        have ha := fun hmem => hfirst (.inr hmem)
        rw [h.atSecond, Value.member?_eq_none hfresh, if_pos (beq_self_eq_true name),
          if_neg (by simpa using hisFirst), Option.or_none, Option.none_or]
        cases hg : g v with
        | none => cases filled f a (Value.member? first pairs) <;> simp [filled, hg]
        | some b =>
          have hrest := ih hnodup a (some b) ha (fun hmem => absurd hmem hfresh)
          rw [Value.member?_eq_none hfresh] at hrest
          simp only [filled, hg, Option.map_some, Option.bind_eq_bind, Option.bind_some] at hrest ⊢
          exact hrest
      · rw [h.elsewhere _ _ _ hisFirst hisSecond, if_neg (by simpa using hisFirst),
          if_neg (by simpa using hisSecond), Option.or_none, Option.or_none]
        exact ih hnodup a b (fun hmem => hfirst (.inr hmem)) (fun hmem => hsecond (.inr hmem))

/-! ## Records with two fields -/

/-- A state of two slots, each of which is read and filled without the other. -/
structure Slots (σ β γ : Type) where
  make : Option β → Option γ → σ
  getFirst : σ → Option β
  setFirst : σ → β → σ
  getSecond : σ → Option γ
  setSecond : σ → γ → σ
  getFirst_make : ∀ a b, getFirst (make a b) = a
  setFirst_make : ∀ a b x, setFirst (make a b) x = make (some x) b
  getSecond_make : ∀ a b, getSecond (make a b) = b
  setSecond_make : ∀ a b x, setSecond (make a b) x = make a (some x)

/-- A field of a record apart from its lens: its name, whether it has to be there, how its value is
read, and what its value means. -/
structure Slot (β : Type) where
  name : String
  required : Bool
  read : Reader β
  meaning : Value → Option β
  domain : Value → Prop

namespace Slots

/-- The fields of a record with two slots. -/
def fields (k : Slots σ β γ) (first : Slot β) (second : Slot γ) : List (Field σ) :=
  [.ofLens first.name first.required k.getFirst k.setFirst first.read,
   .ofLens second.name second.required k.getSecond k.setSecond second.read]

/-- What either field makes of a value. -/
def sense (k : Slots σ β γ) (first : Slot β) (second : Slot γ) (name : String) (s : σ)
    (v : Value) : Option σ :=
  if name = first.name then (first.meaning v).map (k.setFirst s)
  else (second.meaning v).map (k.setSecond s)

variable {k : Slots σ β γ} {first : Slot β} {second : Slot γ}

theorem twoSlots (hdistinct : first.name ≠ second.name) :
    TwoSlots (recordStep (k.fields first second) (k.sense first second)) k.make first.name
      second.name first.meaning second.meaning where
  distinct := hdistinct
  atFirst b v := by
    simp only [recordStep, fields, Field.ofLens, List.find?_cons, beq_self_eq_true,
      k.getFirst_make, Option.isSome_none, Bool.false_eq_true, if_false, sense, if_true]
    exact congrArg (fun set => (first.meaning v).map set) (funext (k.setFirst_make none b))
  atSecond a v := by
    have hname : (first.name == second.name) = false := by simpa using hdistinct
    simp only [recordStep, fields, Field.ofLens, List.find?_cons, hname, beq_self_eq_true,
      k.getSecond_make, Option.isSome_none, Bool.false_eq_true, if_false, sense, hdistinct.symm]
    exact congrArg (fun set => (second.meaning v).map set) (funext (k.setSecond_make a none))
  elsewhere s name v hfirst hsecond := by
    simp [recordStep, fields, Field.ofLens, hfirst.symm, hsecond.symm]

/-- What a record with two slots makes of a value. -/
def meaning (k : Slots σ β γ) (first : Slot β) (second : Slot γ) : Value → Option σ
  | .object pairs => do
    let a ← filled first.meaning none (Value.member? first.name pairs)
    let b ← filled second.meaning none (Value.member? second.name pairs)
    if (first.required && a.isNone) || (second.required && b.isNone) then none
    else some (k.make a b)
  | _ => none

/-- A slot that has to be filled is filled from the member with its name. -/
theorem filled_bind {τ : Type} (f : Value → Option β) (o : Option Value)
    {next : Option β → Option τ} (h : next none = none) :
    (filled f none o).bind next = (o.bind f).bind fun a => next (some a) := by
  cases o with
  | none => exact h
  | some v =>
    rw [filled, Option.bind_some]
    cases f v <;> rfl

/-- A record both of whose fields have to be there, from the members with their names. -/
theorem meaning_required (hfirst : first.required = true) (hsecond : second.required = true)
    (pairs : List (String × Value)) :
    k.meaning first second (.object pairs)
      = ((Value.member? first.name pairs).bind first.meaning).bind fun a =>
        ((Value.member? second.name pairs).bind second.meaning).map fun b =>
          k.make (some a) (some b) := by
  simp only [meaning, hfirst, hsecond, Bool.true_and, Option.bind_eq_bind]
  rw [filled_bind]
  · congr 1
    funext a
    rw [filled_bind _ _ (by simp)]
    simp only [Option.isNone_some, Bool.false_or, Bool.false_eq_true, if_false]
    exact Option.map_eq_bind.symm
  · cases filled second.meaning none (Value.member? second.name pairs) <;> rfl

/-- Whether a value is no array and, if it is an object, repeats no member and has the two members
in their domains. -/
def domain (first : Slot β) (second : Slot γ) (v : Value) : Prop :=
  (∀ items, v ≠ .array items) ∧ ∀ pairs, v = .object pairs →
    (pairs.map Prod.fst).Nodup ∧
    (∀ w, Value.member? first.name pairs = some w → first.domain w) ∧
    ∀ w, Value.member? second.name pairs = some w → second.domain w

theorem missing?_make (a : Option β) (b : Option γ) :
    (missing? (k.fields first second) (k.make a b)).isNone
      = !((first.required && a.isNone) || (second.required && b.isNone)) := by
  simp only [missing?, fields, Field.ofLens, List.find?_cons, List.find?_nil, k.getFirst_make,
    k.getSecond_make, Option.not_isSome]
  cases first.required && a.isNone <;> cases second.required && b.isNone <;> rfl

theorem recordOf_object (hdistinct : first.name ≠ second.name) {pairs : List (String × Value)}
    (hnodup : (pairs.map Prod.fst).Nodup) :
    recordOf (k.fields first second) (k.sense first second) (k.make none none) (.object pairs)
      = k.meaning first second (.object pairs) := by
  have hfold := (twoSlots (k := k) hdistinct).foldlM hnodup none none (fun _ => rfl) fun _ => rfl
  rw [recordOf, hfold, meaning]
  cases filled first.meaning none (Value.member? first.name pairs) with
  | none => rfl
  | some a =>
    cases filled second.meaning none (Value.member? second.name pairs) with
    | none => rfl
    | some b =>
      simp only [Option.bind_some, Option.map_some, Option.filter_some, missing?_make,
        Option.bind_eq_bind]
      cases (first.required && a.isNone) || (second.required && b.isNone) <;> rfl

/-- Names that are those of neither field may be repeated. -/
theorem recordOf_object_of_once (hdistinct : first.name ≠ second.name)
    {pairs : List (String × Value)} (hfirst : (pairs.map Prod.fst).count first.name ≤ 1)
    (hsecond : (pairs.map Prod.fst).count second.name ≤ 1) :
    recordOf (k.fields first second) (k.sense first second) (k.make none none) (.object pairs)
      = k.meaning first second (.object pairs) := by
  let isField (name : String) : Bool := name == first.name || name == second.name
  have hother : ∀ name, isField name = false →
      name ∉ (k.fields first second).map (·.name) := by
    intro name hname
    simpa [isField, fields, Field.ofLens] using hname
  have hnodup : ((pairs.filter fun pair => isField pair.1).map Prod.fst).Nodup := by
    have hnames : (pairs.filter fun pair => isField pair.1).map Prod.fst
        = (pairs.map Prod.fst).filter isField := by
      rw [List.filter_map]
      rfl
    rw [hnames, List.nodup_iff_count_le_one]
    intro name
    by_cases hname : isField name = true
    · rw [List.count_filter hname]
      rcases Bool.or_eq_true_iff.mp hname with heq | heq
      · rwa [beq_iff_eq.mp heq]
      · rwa [beq_iff_eq.mp heq]
    · have hnot : name ∉ (pairs.map Prod.fst).filter isField :=
        fun hmem => hname (List.mem_filter.mp hmem).2
      rw [List.count_eq_zero_of_not_mem hnot]
      exact Nat.zero_le 1
  have hmeaning : k.meaning first second (.object (pairs.filter fun pair => isField pair.1))
      = k.meaning first second (.object pairs) := by
    simp only [meaning]
    rw [Value.member?_filter (by simp [isField]), Value.member?_filter (by simp [isField])]
  rw [← recordOf_filter hother, recordOf_object hdistinct hnodup, hmeaning]

theorem recordOf_eq_meaning (hdistinct : first.name ≠ second.name) {v : Value}
    (hv : domain first second v) :
    recordOf (k.fields first second) (k.sense first second) (k.make none none) v
      = k.meaning first second v := by
  cases v with
  | object pairs => exact recordOf_object hdistinct (hv.2 pairs rfl).1
  | _ => rfl

/-- Whether a value is in the domain of the field with a name. -/
def Within (first : Slot β) (second : Slot γ) (name : String) (v : Value) : Prop :=
  (name = first.name → first.domain v) ∧ (name = second.name → second.domain v)

theorem means_recordOf (k : Slots σ β γ) (first : Slot β) (second : Slot γ)
    (hdistinct : first.name ≠ second.name) {depth : Nat}
    (hfirst : Means depth first.domain first.read first.meaning)
    (hsecond : Means depth second.domain second.read second.meaning) (type : String) :
    Means (depth + 1) (RecordDomain (Within first second))
      (record type (k.fields first second) (k.make none none))
      (recordOf (k.fields first second) (k.sense first second) (k.make none none)) := by
  have hfields : ∀ f ∈ k.fields first second, ∀ s,
      Means depth (Within first second f.name) (f.read s) (k.sense first second f.name s) := by
    intro f hf s
    simp only [fields, List.mem_cons, List.not_mem_nil, or_false] at hf
    rcases hf with rfl | rfl
    · exact (means_ofLens hfirst first.name first.required k.getFirst k.setFirst s).congr
        fun v hv => ⟨hv.1 rfl, (if_pos rfl).symm⟩
    · exact (means_ofLens hsecond second.name second.required k.getSecond k.setSecond s).congr
        fun v hv => ⟨hv.2 rfl, (if_neg hdistinct.symm).symm⟩
  exact Json.means_record hfields type (k.make none none)

/-- **A record with two slots is read from the two members that have the names of its fields.** -/
theorem means_record (k : Slots σ β γ) (first : Slot β) (second : Slot γ)
    (hdistinct : first.name ≠ second.name) {depth : Nat}
    (hfirst : Means depth first.domain first.read first.meaning)
    (hsecond : Means depth second.domain second.read second.meaning) (type : String) :
    Means (depth + 1) (domain first second)
      (record type (k.fields first second) (k.make none none)) (k.meaning first second) := by
  refine (means_recordOf k first second hdistinct hfirst hsecond type).congr fun v hv =>
    ⟨⟨hv.1, fun pairs hpairs p hp => ?_⟩, recordOf_eq_meaning hdistinct hv⟩
  -- The domains of the members are those of the members that have the names.
  obtain ⟨hnodup, hdomainFirst, hdomainSecond⟩ := hv.2 pairs hpairs
  obtain ⟨name, w⟩ := p
  refine ⟨fun hname => hdomainFirst w ?_, fun hname => hdomainSecond w ?_⟩
  · exact Value.member?_of_mem hnodup (hname ▸ hp)
  · exact Value.member?_of_mem hnodup (hname ▸ hp)

end Slots

end Commissioning.Json
