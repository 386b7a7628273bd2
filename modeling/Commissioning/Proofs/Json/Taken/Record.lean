import Commissioning.Json.Record
import Commissioning.Proofs.Json.Record
import Commissioning.Proofs.Json.Taken.Value

set_option autoImplicit false

/-! # Records that have been taken

Whatever a typed reader has taken is taken for a term, and so a whole text that it has taken follows
the grammar once it is mended. Of a record it is also known which of its fields have been filled, and
by which terms (`RecordRun`). -/

namespace Commissioning.Json

open Reader Grammar

variable {α β σ : Type} {alike : List UInt8 → List UInt8 → Prop}

/-! ## Single values -/

/-- A value of another type is never taken. -/
theorem unexpected_ne_ok {expected : String} {bytes rest : List UInt8} {a : α} :
    unexpected expected bytes ≠ .ok (a, rest) := by
  intro h
  unfold unexpected located at h
  split at h
  next pair hread =>
    -- Whatever the value turns out to be, it goes into the refusal.
    have hrefused : ∀ {β : Type} {r : Reader β} {reason : β → Reason} {bytes : List UInt8},
        (r >>= fun b => failWhole (reason b)) bytes ≠ .ok pair := by
      intro β r reason bytes hok
      obtain ⟨b, mid, -, hfail⟩ := bind_eq_ok.mp hok
      exact absurd hfail (by simp)
    obtain ⟨ahead, mid, -, hread⟩ := bind_eq_ok.mp hread
    split at hread
    case h_5 | h_6 | h_8 => exact absurd hread (by simp)
    case h_7 =>
      split at hread
      · exact hrefused hread
      · exact absurd hread (by simp)
    all_goals exact hrefused hread
  next => exact absurd h (by simp)

/-- Whether a term is a text with some characters. -/
def IsText (t : Term) (s : String) : Prop :=
  t.value? = some (.text s)

theorem recognises_textAs (expected : String) : Recognises Eq (textAs expected) IsText := by
  intro bytes s rest h
  rw [textAs, bind_eq_ok] at h
  obtain ⟨ahead, mid, hpeek, h⟩ := h
  obtain ⟨blanks, rfl, hahead⟩ := peekToken_eq_ok hpeek
  split at h
  · exact absurd h (by simp)
  · obtain ⟨glyphs, hglyphs, hbytes⟩ :=
      memberName_eq_ok (by rw [eq_cons_of_head? hahead]; rfl) h
    refine ⟨blanks, .text glyphs, congrArg _ hbytes, ?_⟩
    rw [IsText, Term.value?, hglyphs]
    rfl
  · exact absurd h unexpected_ne_ok

/-- Null for nothing, and a term that allows what it comes out as. -/
inductive OrNull (allowed : Term → α → Prop) : Term → Option α → Prop where
  | null : OrNull allowed .null none
  | given {t : Term} {a : α} (h : allowed t a) : OrNull allowed t (some a)

theorem recognises_optional (hlike : Likeness alike) {r : Reader α} {allowed : Term → α → Prop}
    (hr : Recognises alike r allowed) : Recognises alike (optional r) (OrNull allowed) := by
  intro bytes a rest h
  rw [optional, bind_eq_ok] at h
  obtain ⟨ahead, mid, hpeek, h⟩ := h
  obtain ⟨blanks, rfl, hahead⟩ := peekToken_eq_ok hpeek
  split at h
  · obtain ⟨rfl, rfl⟩ := literal_eq_ok hahead h
    exact ⟨blanks, .null, hlike.refl _, .null⟩
  · rw [bind_eq_ok] at h
    obtain ⟨a', mid', hread, h⟩ := h
    obtain ⟨rfl, rfl⟩ := pure_eq_ok.mp h
    obtain ⟨blanks', t, hbytes, ht⟩ := hr _ _ _ hread
    refine ⟨blanks ++ blanks', t, ?_, .given ht⟩
    rw [← blankBytes_append_append]
    exact hlike.prepend (isUtf8_blankBytes blanks) hbytes

theorem Recognises.map {r : Reader β} {allowed : Term → β → Prop} (hr : Recognises alike r allowed)
    (g : β → α) :
    Recognises alike (r >>= fun b => pure (g b)) fun t a => ∃ b, allowed t b ∧ a = g b := by
  intro bytes a rest h
  obtain ⟨b, mid, hread, h⟩ := bind_eq_ok.mp h
  obtain ⟨rfl, rfl⟩ := pure_eq_ok.mp h
  obtain ⟨blanks, t, hbytes, ht⟩ := hr _ _ _ hread
  exact ⟨blanks, t, hbytes, b, ht, rfl⟩

/-! ## Members of a record -/

/-- What has been taken from behind a name is taken for a colon and a term. -/
theorem Recognises.behindColon (hlike : Likeness alike) {r : Reader α} {allowed : Term → α → Prop}
    (hr : Recognises alike r allowed) {bytes rest : List UInt8} {a : α}
    (h : (colon >>= fun _ => r) bytes = .ok (a, rest)) :
    ∃ beforeColon before t,
      alike bytes (blankBytes beforeColon ++ 58 :: (blankBytes before ++ (Term.bytes t ++ rest))) ∧
        allowed t a := by
  rw [bind_eq_ok] at h
  obtain ⟨⟨⟩, mid, hcolon, hread⟩ := h
  obtain ⟨beforeColon, rfl⟩ := colon_eq_ok hcolon
  obtain ⟨before, t, hbytes, ht⟩ := hr _ _ _ hread
  exact ⟨beforeColon, before, t, hlike.behindColon beforeColon hbytes, ht⟩

/-- What a member of an object does to a record, where a relation says by which terms the fields are
filled: a field is filled, once, and any other member is passed over. -/
inductive FieldStep (fields : List (Field σ)) (fills : Field σ → σ → Term → σ → Prop) (s : σ)
    (name : String) (t : Term) : σ → Prop where
  | field {f : Field σ} {s' : σ} (hfind : fields.find? (fun f => f.name == name) = some f)
      (hfree : f.present s = false) (hfills : fills f s t s') : FieldStep fields fills s name t s'
  | other (hfind : fields.find? (fun f => f.name == name) = none) :
      FieldStep fields fills s name t s

variable {fields : List (Field σ)} {fills : Field σ → σ → Term → σ → Prop}

theorem recognisesMember_fieldMember
    (hfields : ∀ f ∈ fields, ∀ s, Recognises Mended (f.read s) (fills f s)) :
    RecognisesMember Mended (fieldMember fields) (FieldStep fields fills) := by
  intro s name bytes s' rest h
  unfold fieldMember at h
  cases hfind : fields.find? (fun f => f.name == name) with
  | none =>
    rw [hfind] at h
    obtain ⟨beforeColon, before, t, hbytes, _, -, rfl⟩ :=
      (takesTerms_skip.map fun _ => s).behindColon likeness_mended h
    exact ⟨beforeColon, before, t, hbytes, .other hfind⟩
  | some f =>
    rw [hfind] at h
    simp only at h
    split at h
    · exact absurd h (by simp)
    next hfree =>
      obtain ⟨beforeColon, before, t, hbytes, ht⟩ :=
        (hfields f (List.mem_of_find?_eq_some hfind) s).behindColon likeness_mended h
      rw [Bool.not_eq_true] at hfree
      exact ⟨beforeColon, before, t, hbytes, .field hfind hfree ht⟩

theorem fieldsOfMembers_eq_ok
    (hfields : ∀ f ∈ fields, ∀ s, Recognises Mended (f.read s) (fills f s)) {start s : σ}
    {bytes rest : List UInt8} (h : fieldsOfMembers fields start bytes = .ok (s, rest)) :
    ∃ lead ms, Mended bytes (blankBytes lead ++ (memberBytes true ms ++ rest)) ∧
      rest.head? = some 125 ∧ MemberRun (FieldStep fields fills) start ms s := by
  rw [fieldsOfMembers, bind_eq_ok] at h
  obtain ⟨s', mid, hread, h⟩ := h
  obtain ⟨lead, ms, hbytes, hend, hrun⟩ :=
    membersWithin_eq_ok likeness_mended (recognisesMember_fieldMember hfields) hread
  cases hmissing : missing? fields s' with
  | some name => exact absurd h (by simp [hmissing])
  | none =>
    rw [hmissing] at h
    obtain ⟨rfl, rfl⟩ := pure_eq_ok.mp h
    exact ⟨lead, ms, hbytes, hend, hrun⟩

/-! ## Elements of a record -/

/-- Elements of an array that fill the fields of a record in their order. The last fields may be left
as they are. -/
inductive ElementRun (fills : Field σ → σ → Term → σ → Prop) :
    List (Field σ) → σ → List (Item Term) → σ → Prop where
  | nil (fields : List (Field σ)) (s : σ) : ElementRun fills fields s [] s
  | cons {f : Field σ} {fields : List (Field σ)} {s s' s'' : σ} {item : Item Term}
      {items : List (Item Term)} (hfills : fills f s item.term s')
      (hrest : ElementRun fills fields s' items s'') :
      ElementRun fills (f :: fields) s (item :: items) s''

/-- With the bracket ahead nothing more is read. -/
theorem fieldsOfElements_of_bracket {expected : String} {fields : List (Field σ)} {i : Nat}
    {s s' : σ} {bytes rest : List UInt8} (hend : bytes.head? = some 93)
    (h : fieldsOfElements expected (i + 1) fields s bytes = .ok (s', rest)) :
    s = s' ∧ bytes = rest := by
  induction fields generalizing i with
  | nil => exact pure_eq_ok.mp h
  | cons f fields ih =>
    obtain ⟨tail, rfl⟩ := List.head?_eq_some_iff.mp hend
    have hnext : nextElement false (93 :: tail) = .ok (false, 93 :: tail) :=
      nextElement_end false [] tail
    rw [fieldsOfElements, show (i + 1 == 0) = false from rfl, bind_of_ok hnext] at h
    simp only [Bool.false_eq_true, if_false] at h
    split at h
    · exact absurd h (by simp)
    · exact ih h

/-- The fields that have been read as the elements of an array are taken for those of one, from the
first one on or from a later one, with any blanks that are left behind them. -/
theorem fieldsOfElements_eq_ok {expected : String} {fields : List (Field σ)}
    (hfields : ∀ f ∈ fields, ∀ s, Recognises Mended (f.read s) (fills f s)) {i : Nat} {s s' : σ}
    {bytes rest : List UInt8} {blanks : List Blank}
    (h : fieldsOfElements expected i fields s bytes = .ok (s', blankBytes blanks ++ rest)) :
    ∃ lead items, Mended bytes (blankBytes lead ++ (itemBytes (i == 0) items ++ rest)) ∧
      ElementRun fills fields s items s' := by
  induction fields generalizing i s bytes with
  | nil =>
    obtain ⟨rfl, rfl⟩ := pure_eq_ok.mp h
    exact ⟨blanks, [], mended_refl _, .nil [] s⟩
  | cons f fields ih =>
    rw [fieldsOfElements, bind_eq_ok] at h
    obtain ⟨more, mid, hnext, h⟩ := h
    obtain ⟨lead, hlead⟩ := nextElement_eq_ok hnext
    cases more with
    | true =>
      obtain ⟨before, rfl⟩ := hlead
      simp only [if_true, bind_eq_ok] at h
      obtain ⟨s'', mid', hread, h⟩ := h
      obtain ⟨blanks', t, hmid, ht⟩ := hfields f List.mem_cons_self s _ _ _ hread
      obtain ⟨after, items, hmid', hitems⟩ :=
        ih (fun g hg => hfields g (List.mem_cons_of_mem f hg)) h
      rw [show (i + 1 == 0) = false from rfl] at hmid'
      refine ⟨lead, ⟨before ++ blanks', t, after⟩ :: items, ?_, .cons ht hitems⟩
      have hterm := likeness_mended.behindTerm hmid hmid'
      have hitem := likeness_mended.prepend (isUtf8_blankBytes lead)
        (likeness_mended.prepend (isUtf8_comma (i == 0))
          (likeness_mended.prepend (isUtf8_blankBytes before) hterm))
      rw [itemBytes_cons]
      simpa only [blankBytes_append, List.append_assoc] using hitem
    | false =>
      obtain ⟨rfl, hend⟩ := hlead
      simp only [Bool.false_eq_true, if_false] at h
      split at h
      · exact absurd h (by simp)
      · obtain ⟨rfl, rfl⟩ := fieldsOfElements_of_bracket hend h
        refine ⟨lead ++ blanks, [], ?_, .nil _ s⟩
        rw [← blankBytes_append_append]
        exact mended_refl _

/-! ## Records -/

/-- How a record is filled by a term: by the members of an object, or by the elements of an
array. -/
inductive RecordRun (fields : List (Field σ)) (fills : Field σ → σ → Term → σ → Prop) (start : σ) :
    Term → σ → Prop where
  | members {inside : List Blank} {ms : List (Member Term)} {s : σ}
      (h : MemberRun (FieldStep fields fills) start ms s) :
      RecordRun fields fills start (.object inside ms) s
  | elements {inside : List Blank} {items : List (Item Term)} {s : σ}
      (h : ElementRun fills fields start items s) :
      RecordRun fields fills start (.array inside items) s

theorem recognises_record {type : String} {start : σ}
    (hfields : ∀ f ∈ fields, ∀ s, Recognises Mended (f.read s) (fills f s)) :
    Recognises Mended (record type fields start) (RecordRun fields fills start) := by
  intro bytes s rest h
  rw [record, bind_eq_ok] at h
  obtain ⟨ahead, mid, hpeek, h⟩ := h
  obtain ⟨blanks, rfl, hahead⟩ := peekToken_eq_ok hpeek
  suffices hterm : ∃ t : Term, Mended mid (t.bytes ++ rest) ∧ RecordRun fields fills start t s by
    obtain ⟨t, hmid, hrun⟩ := hterm
    exact ⟨blanks, t, likeness_mended.prepend (isUtf8_blankBytes blanks) hmid, hrun⟩
  split at h
  · exact absurd h (by simp)
  · have hcons := eq_cons_of_head? hahead
    rw [hcons] at h
    obtain ⟨inside, ms, hbytes, hrun⟩ := inObject_eq_ok likeness_mended _
      (fun _ hinside => fieldsOfMembers_eq_ok hfields hinside) h
    exact ⟨.object inside ms, hcons ▸ hbytes, .members hrun⟩
  · have hcons := eq_cons_of_head? hahead
    rw [hcons, inArray, bind_of_ok (advance_cons _ _)] at h
    obtain ⟨behind, hinside, hclose⟩ := enclosed_eq_ok h
    obtain ⟨after, rfl⟩ := closeArray_eq_ok hclose
    obtain ⟨inside, items, hbytes, hrun⟩ := fieldsOfElements_eq_ok hfields hinside
    refine ⟨.array inside items, ?_, .elements hrun⟩
    rw [Term.bytes]
    simpa using hbytes.behindSign (b := 91) hahead (by decide)
  · exact absurd h unexpected_ne_ok

/-! ## Whole texts -/

/-- **A whole text that has been taken follows the grammar**: it is taken for the bytes of a term with
the blanks around it. -/
theorem readBytes_eq_ok {r : Reader α} {allowed : Term → α → Prop} (hr : Recognises alike r allowed)
    {bytes : List UInt8} {a : α} (h : r.readBytes bytes = .ok a) :
    ∃ text : Item Term, alike bytes text.bytes ∧ allowed text.term a := by
  unfold readBytes at h
  split at h
  next a' rest hcomplete =>
    rw [complete, bind_eq_ok] at hcomplete
    obtain ⟨b, mid, hread, hcomplete⟩ := hcomplete
    rw [bind_eq_ok] at hcomplete
    obtain ⟨ahead, mid', hpeek, hcomplete⟩ := hcomplete
    obtain ⟨after, rfl, hahead⟩ := peekToken_eq_ok hpeek
    obtain ⟨before, t, hbytes, ht⟩ := hr _ _ _ hread
    split at hcomplete
    · obtain ⟨rfl, rfl⟩ := pure_eq_ok.mp hcomplete
      obtain rfl := Except.ok.inj h
      obtain rfl : mid' = [] := by
        cases mid' with
        | nil => rfl
        | cons b mid' => exact absurd hahead (by simp)
      refine ⟨⟨before, t, after⟩, ?_, ht⟩
      rw [Item.bytes]
      simpa using hbytes
    · exact absurd hcomplete (by simp)
  next => exact absurd h (by simp)

end Commissioning.Json
