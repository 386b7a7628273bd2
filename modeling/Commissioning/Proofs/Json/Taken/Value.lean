import Commissioning.Proofs.Json.Taken.Structure
import Commissioning.Proofs.Json.Value

set_option autoImplicit false

/-! # Values that have been taken

Whatever has been read as a value is a term that stands for it and does not nest too deep. Whatever
has been passed over as a value is a term too, once the texts in it are mended. -/

namespace Commissioning.Json

open Reader Grammar

/-! ## Values that have been read -/

theorem literal_eq_ok {α : Type} {name : List Char} {a b : α} {c : Char} {bytes rest : List UInt8}
    (hahead : some c = bytes.head?.map charOfByte)
    (h : literal name a bytes = .ok (b, rest)) :
    bytes = (c :: name).map (fun c => UInt8.ofNat c.toNat) ++ rest ∧ b = a := by
  rw [literal, advance_bind_apply] at h
  rw [bind_eq_ok] at h
  obtain ⟨⟨⟩, mid, hletters, h⟩ := h
  obtain ⟨rfl, rfl⟩ := pure_eq_ok.mp h
  refine ⟨?_, rfl⟩
  rw [eq_cons_of_head? hahead, letters_eq_ok hletters]
  rfl

/-- Whether a term stands for a value and nests no deeper than allowed. -/
def StandsFor (depth : Nat) (t : Term) (v : Value) : Prop :=
  t.value? = some v ∧ t.depth ≤ depth

/-- A member that is kept leads from some pairs to one pair more. -/
def keptStep (depth : Nat) (pairs : List (String × Value)) (name : String) (t : Term)
    (pairs' : List (String × Value)) : Prop :=
  ∃ v, StandsFor depth t v ∧ pairs' = pairs ++ [(name, v)]

theorem recognisesMember_keptMember {inner : Reader Value} {depth : Nat}
    (h : Recognises Eq inner (StandsFor depth)) :
    RecognisesMember Eq (keptMember inner) (keptStep depth) := by
  intro pairs name bytes pairs' rest hread
  rw [keptMember, bind_eq_ok] at hread
  obtain ⟨⟨⟩, mid, hcolon, hread⟩ := hread
  obtain ⟨beforeColon, rfl⟩ := colon_eq_ok hcolon
  rw [bind_eq_ok] at hread
  obtain ⟨v, mid', hvalue, hread⟩ := hread
  obtain ⟨rfl, rfl⟩ := pure_eq_ok.mp hread
  obtain ⟨before, t, rfl, ht⟩ := h _ _ _ hvalue
  exact ⟨beforeColon, before, t, rfl, v, ht, rfl⟩

theorem itemValues?_of_forall₂ {depth : Nat} {items : List (Item Term)} {values : List Value}
    (h : List.Forall₂ (fun item v => StandsFor depth item.term v) items values) :
    itemValues? items = some values ∧ itemDepth items ≤ depth := by
  induction h with
  | nil => exact ⟨rfl, Nat.zero_le _⟩
  | @cons item v items values hitem _ ih =>
    obtain ⟨before, t, after⟩ := item
    obtain ⟨hvalue, hdepth⟩ := hitem
    refine ⟨?_, Nat.max_le.mpr ⟨hdepth, ih.2⟩⟩
    rw [itemValues?, hvalue, ih.1]
    rfl

theorem memberValues?_of_run {depth : Nat} {ms : List (Member Term)}
    {pairs pairs' : List (String × Value)} (h : MemberRun (keptStep depth) pairs ms pairs') :
    ∃ more, memberValues? ms = some more ∧ memberDepth ms ≤ depth ∧ pairs' = pairs ++ more := by
  induction h with
  | nil pairs => exact ⟨[], rfl, Nat.zero_le _, (List.append_nil _).symm⟩
  | @cons pairs _ pairs' name m ms hname hstep _ ih =>
    obtain ⟨before, glyphs, beforeColon, ⟨beforeTerm, t, after⟩⟩ := m
    obtain ⟨v, ⟨hvalue, hdepth⟩, rfl⟩ := hstep
    obtain ⟨more, hmore, hdepths, rfl⟩ := ih
    refine ⟨(name, v) :: more, ?_, Nat.max_le.mpr ⟨hdepth, hdepths⟩, by simp⟩
    simp only at hname hvalue
    rw [memberValues?, hname, hvalue, hmore]
    rfl

theorem standsFor_array {depth : Nat} {inside : List Blank} {items : List (Item Term)}
    {values : List Value}
    (h : List.Forall₂ (fun item v => StandsFor depth item.term v) items values) :
    StandsFor (depth + 1) (.array inside items) (.array values) := by
  obtain ⟨hvalues, hdepth⟩ := itemValues?_of_forall₂ h
  refine ⟨?_, Nat.succ_le_succ hdepth⟩
  rw [Term.value?, hvalues]
  rfl

theorem standsFor_object {depth : Nat} {inside : List Blank} {ms : List (Member Term)}
    {pairs : List (String × Value)} (h : MemberRun (keptStep depth) [] ms pairs) :
    StandsFor (depth + 1) (.object inside ms) (.object pairs) := by
  obtain ⟨more, hvalues, hdepth, rfl⟩ := memberValues?_of_run h
  refine ⟨?_, Nat.succ_le_succ hdepth⟩
  rw [Term.value?, hvalues]
  rfl

theorem valueWith_eq_ok {inner : Option (Reader Value)} {depth : Nat}
    (hinner : ∀ r, inner = some r → ∃ d, depth = d + 1 ∧
      Recognises Eq r (StandsFor d)) :
    Recognises Eq (valueWith inner) (StandsFor depth) := by
  intro bytes v rest h
  unfold valueWith at h
  rw [bind_eq_ok] at h
  obtain ⟨ahead, mid, hpeek, h⟩ := h
  obtain ⟨blanks, rfl, hahead⟩ := peekToken_eq_ok hpeek
  refine ⟨blanks, ?_⟩
  split at h
  · exact absurd h (by simp)
  · obtain ⟨rfl, rfl⟩ := literal_eq_ok hahead h
    exact ⟨.null, rfl, rfl, Nat.zero_le _⟩
  · obtain ⟨rfl, rfl⟩ := literal_eq_ok hahead h
    exact ⟨.boolean true, rfl, rfl, Nat.zero_le _⟩
  · obtain ⟨rfl, rfl⟩ := literal_eq_ok hahead h
    exact ⟨.boolean false, rfl, rfl, Nat.zero_le _⟩
  · rw [bind_eq_ok] at h
    obtain ⟨s, mid', htext, h⟩ := h
    obtain ⟨rfl, rfl⟩ := pure_eq_ok.mp h
    obtain ⟨glyphs, hglyphs, hbytes⟩ :=
      memberName_eq_ok (by rw [eq_cons_of_head? hahead]; rfl) htext
    exact ⟨.text glyphs, congrArg _ hbytes, by rw [Term.value?, hglyphs]; rfl, Nat.zero_le _⟩
  · split at h
    · exact absurd h (by simp)
    next r =>
      obtain ⟨d, rfl, hr⟩ := hinner r rfl
      rw [bind_eq_ok] at h
      obtain ⟨values, mid', harray, h⟩ := h
      obtain ⟨rfl, rfl⟩ := pure_eq_ok.mp h
      have hmid := eq_cons_of_head? hahead
      rw [hmid] at harray
      obtain ⟨inside, items, hbytes, hitems⟩ := inArray_eq_ok hr harray
      exact ⟨.array inside items, congrArg _ (hmid.trans hbytes), standsFor_array hitems⟩
  · split at h
    · exact absurd h (by simp)
    next r =>
      obtain ⟨d, rfl, hr⟩ := hinner r rfl
      rw [bind_eq_ok] at h
      obtain ⟨pairs, mid', hobject, h⟩ := h
      obtain ⟨rfl, rfl⟩ := pure_eq_ok.mp h
      have hmid := eq_cons_of_head? hahead
      rw [hmid] at hobject
      obtain ⟨inside, ms, hbytes, hms⟩ := inObject_eq_ok likeness_eq _
        (fun _ hinside => membersWithin_eq_ok likeness_eq (recognisesMember_keptMember hr) hinside)
        hobject
      exact ⟨.object inside ms, congrArg _ (hmid.trans hbytes), standsFor_object hms⟩
  · split at h
    · rw [bind_eq_ok] at h
      obtain ⟨x, mid', hnumber, h⟩ := h
      obtain ⟨rfl, rfl⟩ := pure_eq_ok.mp h
      obtain ⟨n, rfl, hn⟩ := signedNumber_eq_ok hnumber
      exact ⟨.number n, rfl, by rw [Term.value?, hn]; rfl, Nat.zero_le _⟩
    · exact absurd h (by simp)

/-- **What is read as a value is a term that stands for it.** -/
theorem recognises_value (depth : Nat) :
    Recognises Eq (value depth) (StandsFor depth) := by
  induction depth with
  | zero => exact valueWith_eq_ok fun r hr => absurd hr (by simp)
  | succ depth ih =>
    refine valueWith_eq_ok fun r hr => ⟨depth, rfl, ?_⟩
    rw [← Option.some.inj hr]
    exact ih

/-! ## Values that have been passed over -/

/-- Whether what a reader takes is taken for a term. -/
def TakesTerms (r : Reader Unit) : Prop :=
  Recognises Mended r fun _ _ => True

/-- Whether what is passed over is taken for the elements of an array, one at least, and the
bracket. -/
def RecognisesItems (r : Reader Unit) : Prop :=
  ∀ bytes rest, r bytes = .ok ((), rest) →
    ∃ item items, Mended bytes (itemBytes true (item :: items) ++ 93 :: rest)

/-- Whether what is passed over is taken for the members of an object, one at least, and the
brace. -/
def RecognisesMembers (r : Reader Unit) : Prop :=
  ∀ bytes rest, r bytes = .ok ((), rest) →
    ∃ m ms, Mended bytes (memberBytes true (m :: ms) ++ 125 :: rest)

theorem itemBytes_false_cons (item : Item Term) (items : List (Item Term)) :
    itemBytes false (item :: items) = 44 :: itemBytes true (item :: items) := by
  simp [itemBytes_cons, comma]

theorem memberBytes_false_cons (m : Member Term) (ms : List (Member Term)) :
    memberBytes false (m :: ms) = 44 :: memberBytes true (m :: ms) := by
  simp [memberBytes_cons, comma]

/-- A sign that has been recognised stands in front of what is mended. -/
theorem Mended.behindSign {c : Char} {b : UInt8} {bytes text : List UInt8}
    (h : Mended bytes.tail text) (hahead : some c = bytes.head?.map charOfByte)
    (hb : UInt8.ofNat c.toNat = b ∧ b.toNat < 0x80) : Mended bytes (b :: text) := by
  obtain ⟨rfl, hascii⟩ := hb
  rw [eq_cons_of_head? hahead]
  exact likeness_mended.prepend (Text.isUtf8_cons hascii Text.isUtf8_nil) h

/-- A text with its quotes that has been passed over. -/
theorem quotedBytes_of_skipText {bytes rest : List UInt8}
    (hahead : some '"' = bytes.head?.map charOfByte) (h : skipText bytes.tail = .ok ((), rest)) :
    ∃ glyphs, Mended bytes (quotedBytes glyphs ++ rest) := by
  obtain ⟨glyphs, htail⟩ := skipText_eq_ok h
  refine ⟨glyphs, ?_⟩
  have hquoted := htail.behindSign (b := 34) hahead (by decide)
  rw [quotedBytes]
  simpa only [List.append_assoc, List.cons_append, List.nil_append] using hquoted

theorem recognisesItems_skipElements {fuel : Nat}
    (hterm : TakesTerms (skipWithin fuel))
    (hrest : RecognisesItems (skipElements fuel)) :
    RecognisesItems (skipElements (fuel + 1)) := by
  intro bytes rest h
  rw [skipElements, bind_eq_ok] at h
  obtain ⟨⟨⟩, mid, hskip, h⟩ := h
  obtain ⟨before, t, hbytes, -⟩ := hterm _ _ _ hskip
  rw [bind_eq_ok] at h
  obtain ⟨ahead, mid', hpeek, h⟩ := h
  obtain ⟨after, rfl, hahead⟩ := peekToken_eq_ok hpeek
  have hitems : ∀ items, Mended mid' (itemBytes false items ++ 93 :: rest) →
      Mended bytes (itemBytes true (⟨before, t, after⟩ :: items) ++ 93 :: rest) := by
    intro items hitems
    have hafter := likeness_mended.prepend (isUtf8_blankBytes after) hitems
    have hitem := likeness_mended.behindTerm hbytes hafter
    rw [itemBytes_cons, comma, if_pos rfl]
    simpa only [List.append_assoc, List.nil_append] using hitem
  split at h
  · exact absurd h (by simp)
  · rw [advance_bind_apply] at h
    obtain ⟨item, items, htail⟩ := hrest _ _ h
    refine ⟨_, item :: items, hitems _ ?_⟩
    rw [itemBytes_false_cons]
    exact htail.behindSign hahead (by decide)
  · obtain rfl := advance_eq_ok.mp h
    refine ⟨_, [], hitems _ ?_⟩
    exact (mended_refl _).behindSign hahead (by decide)
  · exact absurd h (by simp)

theorem recognisesMembers_skipMembers {fuel : Nat}
    (hterm : TakesTerms (skipWithin fuel))
    (hrest : RecognisesMembers (skipMembers fuel)) :
    RecognisesMembers (skipMembers (fuel + 1)) := by
  intro bytes rest h
  rw [skipMembers, bind_eq_ok] at h
  obtain ⟨ahead, mid, hpeek, h⟩ := h
  obtain ⟨lead, rfl, hahead⟩ := peekToken_eq_ok hpeek
  split at h
  · exact absurd (bind_eq_ok.mp h) (by simp)
  · rw [advance_bind_apply] at h
    rw [bind_eq_ok] at h
    obtain ⟨⟨⟩, behindName, hname, h⟩ := h
    obtain ⟨glyphs, hquoted⟩ := quotedBytes_of_skipText hahead hname
    rw [bind_eq_ok] at h
    obtain ⟨⟨⟩, behindColon, hcolon, h⟩ := h
    obtain ⟨beforeColon, rfl⟩ := colon_eq_ok hcolon
    rw [bind_eq_ok] at h
    obtain ⟨⟨⟩, behind, hskip, h⟩ := h
    obtain ⟨before, t, hbehindColon, -⟩ := hterm _ _ _ hskip
    rw [bind_eq_ok] at h
    obtain ⟨ahead', mid', hpeek', h⟩ := h
    obtain ⟨after, rfl, hahead'⟩ := peekToken_eq_ok hpeek'
    let m : Member Term := ⟨lead, glyphs, beforeColon, ⟨before, t, after⟩⟩
    have htail := likeness_mended.behindColon beforeColon hbehindColon
    rw [← append_tail m] at htail
    have hmembers : ∀ ms, Mended mid' (memberBytes false ms ++ 125 :: rest) →
        Mended (blankBytes lead ++ mid) (memberBytes true (m :: ms) ++ 125 :: rest) := by
      intro ms hms
      have hafter := likeness_mended.prepend (isUtf8_blankBytes after) hms
      have hname := likeness_mended.behindMember m hquoted htail hafter
      have hlead := likeness_mended.prepend (isUtf8_blankBytes lead) hname
      rw [memberBytes_cons, comma, if_pos rfl, List.nil_append]
      simpa only [List.append_assoc] using hlead
    split at h
    · exact absurd h (by simp)
    · rw [advance_bind_apply] at h
      obtain ⟨next, ms, htail⟩ := hrest _ _ h
      refine ⟨m, next :: ms, hmembers _ ?_⟩
      rw [memberBytes_false_cons]
      exact htail.behindSign hahead' (by decide)
    · obtain rfl := advance_eq_ok.mp h
      refine ⟨m, [], hmembers _ ?_⟩
      exact (mended_refl _).behindSign hahead' (by decide)
    · exact absurd h (by simp)
  · exact absurd (bind_eq_ok.mp h) (by simp)

/-- What stands behind a bracket that opens an array, the end of the array included. -/
theorem behindBracket_eq_ok {fuel : Nat} (hitems : RecognisesItems (skipElements fuel))
    {bytes rest : List UInt8}
    (h : (peekToken >>= fun ahead => match ahead with
      | none => failAhead (.endOfText .list)
      | some ']' => advance
      | some _ => skipElements fuel) bytes = .ok ((), rest)) :
    ∃ inside items, Mended bytes (blankBytes inside ++ (itemBytes true items ++ 93 :: rest)) := by
  rw [bind_eq_ok] at h
  obtain ⟨ahead, mid, hpeek, h⟩ := h
  obtain ⟨inside, rfl, hahead⟩ := peekToken_eq_ok hpeek
  split at h
  · exact absurd h (by simp)
  · obtain rfl := advance_eq_ok.mp h
    exact ⟨inside, [], likeness_mended.prepend (isUtf8_blankBytes inside)
      ((mended_refl _).behindSign hahead (by decide))⟩
  · obtain ⟨item, items, hbytes⟩ := hitems _ _ h
    exact ⟨inside, item :: items, likeness_mended.prepend (isUtf8_blankBytes inside) hbytes⟩

/-- What stands behind a brace that opens an object, the end of the object included. -/
theorem behindBrace_eq_ok {fuel : Nat} (hmembers : RecognisesMembers (skipMembers fuel))
    {bytes rest : List UInt8}
    (h : (peekToken >>= fun ahead => match ahead with
      | none => failAhead (.endOfText .object)
      | some '}' => advance
      | some _ => skipMembers fuel) bytes = .ok ((), rest)) :
    ∃ inside ms, Mended bytes (blankBytes inside ++ (memberBytes true ms ++ 125 :: rest)) := by
  rw [bind_eq_ok] at h
  obtain ⟨ahead, mid, hpeek, h⟩ := h
  obtain ⟨inside, rfl, hahead⟩ := peekToken_eq_ok hpeek
  split at h
  · exact absurd h (by simp)
  · obtain rfl := advance_eq_ok.mp h
    exact ⟨inside, [], likeness_mended.prepend (isUtf8_blankBytes inside)
      ((mended_refl _).behindSign hahead (by decide))⟩
  · obtain ⟨m, ms, hbytes⟩ := hmembers _ _ h
    exact ⟨inside, m :: ms, likeness_mended.prepend (isUtf8_blankBytes inside) hbytes⟩

theorem takesTerms_skipWithin_succ {fuel : Nat} (hitems : RecognisesItems (skipElements fuel))
    (hmembers : RecognisesMembers (skipMembers fuel)) :
    TakesTerms (skipWithin (fuel + 1)) := by
  intro bytes a rest h
  rw [skipWithin, bind_eq_ok] at h
  obtain ⟨ahead, mid, hpeek, h⟩ := h
  obtain ⟨blanks, rfl, hahead⟩ := peekToken_eq_ok hpeek
  suffices hterm : ∃ t : Term, Mended mid (t.bytes ++ rest) by
    obtain ⟨t, ht⟩ := hterm
    exact ⟨blanks, t, likeness_mended.prepend (isUtf8_blankBytes blanks) ht, trivial⟩
  split at h
  · exact absurd h (by simp)
  · obtain ⟨rfl, -⟩ := literal_eq_ok hahead h
    exact ⟨.null, mended_refl _⟩
  · obtain ⟨rfl, -⟩ := literal_eq_ok hahead h
    exact ⟨.boolean true, mended_refl _⟩
  · obtain ⟨rfl, -⟩ := literal_eq_ok hahead h
    exact ⟨.boolean false, mended_refl _⟩
  · rw [advance_bind_apply] at h
    obtain ⟨glyphs, hbytes⟩ := quotedBytes_of_skipText hahead h
    exact ⟨.text glyphs, hbytes⟩
  · rw [advance_bind_apply] at h
    obtain ⟨inside, items, htail⟩ := behindBracket_eq_ok hitems h
    refine ⟨.array inside items, ?_⟩
    rw [Term.bytes]
    simpa using htail.behindSign (b := 91) hahead (by decide)
  · rw [advance_bind_apply] at h
    obtain ⟨inside, ms, htail⟩ := behindBrace_eq_ok hmembers h
    refine ⟨.object inside ms, ?_⟩
    rw [Term.bytes]
    simpa using htail.behindSign (b := 123) hahead (by decide)
  · rw [advance_bind_apply] at h
    obtain ⟨n, hnegative, hbytes⟩ := skipNumber_eq_ok h true
    refine ⟨.number n, ?_⟩
    have hsigned := (mended_refl _).behindSign (b := 45) hahead (by decide)
    rw [hbytes] at hsigned
    rw [Term.bytes, NumberForm.bytes, hnegative, if_pos rfl]
    exact hsigned
  · split at h
    · obtain ⟨n, hnegative, rfl⟩ := skipNumber_eq_ok h false
      refine ⟨.number n, ?_⟩
      rw [Term.bytes, NumberForm.bytes, hnegative, if_neg Bool.false_ne_true]
      exact mended_refl _
    · exact absurd h (by simp)

mutual

theorem takesTerms_skipWithin : (fuel : Nat) → TakesTerms (skipWithin fuel)
  | 0 => fun _ _ _ h => absurd h (by simp [skipWithin])
  | fuel + 1 => takesTerms_skipWithin_succ (recognisesItems_of_fuel fuel)
      (recognisesMembers_of_fuel fuel)

theorem recognisesItems_of_fuel : (fuel : Nat) → RecognisesItems (skipElements fuel)
  | 0 => fun _ _ h => absurd h (by simp [skipElements])
  | fuel + 1 => recognisesItems_skipElements (takesTerms_skipWithin fuel)
      (recognisesItems_of_fuel fuel)

theorem recognisesMembers_of_fuel : (fuel : Nat) → RecognisesMembers (skipMembers fuel)
  | 0 => fun _ _ h => absurd h (by simp [skipMembers])
  | fuel + 1 => recognisesMembers_skipMembers (takesTerms_skipWithin fuel)
      (recognisesMembers_of_fuel fuel)

end

/-- **What is passed over as a value is taken for a term.** -/
theorem takesTerms_skip : TakesTerms skip :=
  fun bytes a rest h => takesTerms_skipWithin _ bytes a rest h

end Commissioning.Json
