import Commissioning.Proofs.Json.Structure
import Commissioning.Proofs.Json.Taken.Number
import Commissioning.Proofs.Json.Taken.Text

set_option autoImplicit false

/-! # Arrays and objects that have been taken

The punctuation that has led a reader from element to element and from member to member is that of
an array or object, provided that what was read for each of them is taken for a term. -/

namespace Commissioning.Json

open Reader Grammar

variable {α σ : Type} {alike : List UInt8 → List UInt8 → Prop}

/-! ## Terms at the front -/

/-- Whether what a reader takes from the front of some bytes is taken for a term behind some blanks,
and comes out as something that the term allows. -/
def Recognises (alike : List UInt8 → List UInt8 → Prop) (r : Reader α)
    (allowed : Term → α → Prop) : Prop :=
  ∀ bytes a rest, r bytes = .ok (a, rest) →
    ∃ blanks t, alike bytes (blankBytes blanks ++ (t.bytes ++ rest)) ∧ allowed t a

theorem Recognises.mono {r : Reader α} {allowed allowed' : Term → α → Prop}
    (h : Recognises alike r allowed) (hallowed : ∀ t a, allowed t a → allowed' t a) :
    Recognises alike r allowed' := by
  intro bytes a rest hread
  obtain ⟨blanks, t, hbytes, ht⟩ := h bytes a rest hread
  exact ⟨blanks, t, hbytes, hallowed t a ht⟩

/-- What is a term is taken for it. -/
theorem Recognises.of_eq (hlike : Likeness alike) {r : Reader α} {allowed : Term → α → Prop}
    (h : Recognises Eq r allowed) : Recognises alike r allowed := by
  intro bytes a rest hread
  obtain ⟨blanks, t, rfl, ht⟩ := h bytes a rest hread
  exact ⟨blanks, t, hlike.refl _, ht⟩

/-- The blanks before two parts that nothing stands between run together. -/
theorem blankBytes_append_append (first second : List Blank) (rest : List UInt8) :
    blankBytes first ++ (blankBytes second ++ rest) = blankBytes (first ++ second) ++ rest := by
  rw [blankBytes_append, List.append_assoc]

theorem isUtf8_comma (first : Bool) : Text.IsUtf8 (comma first) :=
  Text.isUtf8_of_ascii (by cases first <;> rfl)

mutual

/-- The bytes of a term are a text. -/
theorem Grammar.Term.isUtf8_bytes : (t : Term) → Text.IsUtf8 t.bytes
  | .null => Text.isUtf8_of_ascii rfl
  | .boolean true => Text.isUtf8_of_ascii rfl
  | .boolean false => Text.isUtf8_of_ascii rfl
  | .number n => n.isUtf8_bytes
  | .text glyphs => isUtf8_quotedBytes glyphs
  | .array inside items => by
    rw [Term.bytes]
    exact ((Text.isUtf8_cons (by decide) (isUtf8_blankBytes inside)).append
      (isUtf8_itemBytes true items)).append (Text.isUtf8_of_ascii rfl)
  | .object inside ms => by
    rw [Term.bytes]
    exact ((Text.isUtf8_cons (by decide) (isUtf8_blankBytes inside)).append
      (isUtf8_memberBytes true ms)).append (Text.isUtf8_of_ascii rfl)

theorem isUtf8_itemBytes : (first : Bool) → (items : List (Item Term)) →
    Text.IsUtf8 (itemBytes first items)
  | _, [] => Text.isUtf8_nil
  | first, ⟨before, t, after⟩ :: items => by
    rw [itemBytes]
    exact ((((isUtf8_comma first).append (isUtf8_blankBytes before)).append t.isUtf8_bytes).append
      (isUtf8_blankBytes after)).append (isUtf8_itemBytes false items)

theorem isUtf8_memberBytes : (first : Bool) → (ms : List (Member Term)) →
    Text.IsUtf8 (memberBytes first ms)
  | _, [] => Text.isUtf8_nil
  | first, ⟨before, name, beforeColon, ⟨beforeTerm, t, after⟩⟩ :: ms => by
    have hterm := (((isUtf8_blankBytes beforeTerm).append t.isUtf8_bytes).append
      (isUtf8_blankBytes after)).append (isUtf8_memberBytes false ms)
    have hname := (((isUtf8_comma first).append (isUtf8_blankBytes before)).append
      (isUtf8_quotedBytes name)).append (isUtf8_blankBytes beforeColon)
    have hall := hname.append (Text.isUtf8_cons (b := 58) (by decide) hterm)
    rw [memberBytes]
    simp only [List.append_assoc, List.cons_append] at hall ⊢
    exact hall

end

/-- Behind a term more may be taken for something else. -/
theorem Likeness.behindTerm (h : Likeness alike) {blanks : List Blank} {t : Term}
    {bytes mid text : List UInt8} (hbytes : alike bytes (blankBytes blanks ++ (t.bytes ++ mid)))
    (hmid : alike mid text) : alike bytes (blankBytes blanks ++ (t.bytes ++ text)) := by
  rw [← List.append_assoc] at hbytes ⊢
  exact h.behind hbytes ((isUtf8_blankBytes blanks).append t.isUtf8_bytes) hmid

/-- Behind a colon more may be taken for something else. -/
theorem Likeness.behindColon (h : Likeness alike) (blanks : List Blank) {bytes text : List UInt8}
    (hbytes : alike bytes text) :
    alike (blankBytes blanks ++ 58 :: bytes) (blankBytes blanks ++ 58 :: text) :=
  h.prepend (isUtf8_blankBytes blanks)
    (h.prepend (Text.isUtf8_of_ascii rfl : Text.IsUtf8 [58]) hbytes)

/-- No blanks stand before what is solid. -/
theorem eq_of_blankBytes {blanks : List Blank} {bytes rest : List UInt8} {b : UInt8}
    (h : bytes = blankBytes blanks ++ rest) (hhead : bytes.head? = some b)
    (hb : isBlank b = false) : bytes = rest := by
  cases blanks with
  | nil => exact h
  | cons blank blanks =>
    rw [h] at hhead
    obtain rfl := Option.some.inj hhead
    exact absurd (isBlank_byte blank) (by rw [hb]; decide)

/-! ## Punctuation -/

/-- Up to the next element or to the bracket: the blanks behind the last element, and the comma
and the blanks in front of the next one. -/
theorem nextElement_eq_ok {first more : Bool} {bytes rest : List UInt8}
    (h : nextElement first bytes = .ok (more, rest)) :
    ∃ lead, if more then
        ∃ before, bytes = blankBytes lead ++ (comma first ++ (blankBytes before ++ rest))
      else bytes = blankBytes lead ++ rest ∧ rest.head? = some 93 := by
  rw [nextElement, bind_eq_ok] at h
  obtain ⟨ahead, mid, hpeek, h⟩ := h
  obtain ⟨lead, rfl, hahead⟩ := peekToken_eq_ok hpeek
  refine ⟨lead, ?_⟩
  split at h
  · exact absurd h (by simp)
  · obtain ⟨rfl, rfl⟩ := pure_eq_ok.mp h
    exact ⟨rfl, by rw [eq_cons_of_head? hahead]; rfl⟩
  next c hc =>
    split at h
    next hfirst =>
      obtain ⟨rfl, rfl⟩ := pure_eq_ok.mp h
      rw [if_pos rfl, hfirst]
      exact ⟨[], rfl⟩
    next hfirst =>
      split at h
      next hcomma =>
        subst hcomma
        rw [advance_bind_apply] at h
        rw [bind_eq_ok] at h
        obtain ⟨ahead', mid', hpeek', h⟩ := h
        obtain ⟨before, hbefore, -⟩ := peekToken_eq_ok hpeek'
        split at h
        · exact absurd h (by simp)
        · exact absurd h (by simp)
        · obtain ⟨rfl, rfl⟩ := pure_eq_ok.mp h
          rw [if_pos rfl, comma, if_neg hfirst]
          refine ⟨before, ?_⟩
          rw [← hbefore]
          exact congrArg _ (eq_cons_of_head? hahead)
      next => exact absurd h (by simp)

/-- Up to the quote of the next name or to the brace. -/
theorem nextMember_eq_ok {first more : Bool} {bytes rest : List UInt8}
    (h : nextMember first bytes = .ok (more, rest)) :
    ∃ lead, if more then
        ∃ before, bytes = blankBytes lead ++ (comma first ++ (blankBytes before ++ rest)) ∧
          rest.head? = some 34
      else bytes = blankBytes lead ++ rest ∧ rest.head? = some 125 := by
  rw [nextMember, bind_eq_ok] at h
  obtain ⟨ahead, mid, hpeek, h⟩ := h
  obtain ⟨lead, rfl, hahead⟩ := peekToken_eq_ok hpeek
  refine ⟨lead, ?_⟩
  split at h
  · exact absurd h (by simp)
  · obtain ⟨rfl, rfl⟩ := pure_eq_ok.mp h
    exact ⟨rfl, by rw [eq_cons_of_head? hahead]; rfl⟩
  next c hc =>
    split at h
    next hfirst =>
      split at h
      next hquote =>
        subst hquote
        obtain ⟨rfl, rfl⟩ := pure_eq_ok.mp h
        rw [if_pos rfl, hfirst]
        exact ⟨[], rfl, by rw [eq_cons_of_head? hahead]; rfl⟩
      next => exact absurd h (by simp)
    next hfirst =>
      split at h
      next hcomma =>
        subst hcomma
        rw [advance_bind_apply] at h
        rw [bind_eq_ok] at h
        obtain ⟨ahead', mid', hpeek', h⟩ := h
        obtain ⟨before, hbefore, hahead'⟩ := peekToken_eq_ok hpeek'
        split at h
        · exact absurd h (by simp)
        · obtain ⟨rfl, rfl⟩ := pure_eq_ok.mp h
          rw [if_pos rfl, comma, if_neg hfirst]
          refine ⟨before, ?_, by rw [eq_cons_of_head? hahead']; rfl⟩
          rw [← hbefore]
          exact congrArg _ (eq_cons_of_head? hahead)
        · exact absurd h (by simp)
        · exact absurd h (by simp)
      next => exact absurd h (by simp)

theorem colon_eq_ok {bytes rest : List UInt8} (h : colon bytes = .ok ((), rest)) :
    ∃ blanks, bytes = blankBytes blanks ++ 58 :: rest := by
  rw [colon, bind_eq_ok] at h
  obtain ⟨ahead, mid, hpeek, h⟩ := h
  obtain ⟨blanks, rfl, hahead⟩ := peekToken_eq_ok hpeek
  split at h
  · exact absurd h (by simp)
  · obtain rfl := advance_eq_ok.mp h
    exact ⟨blanks, congrArg _ (eq_cons_of_head? hahead)⟩
  · exact absurd h (by simp)

theorem closeArray_eq_ok {bytes rest : List UInt8} (h : closeArray bytes = .ok ((), rest)) :
    ∃ blanks, bytes = blankBytes blanks ++ 93 :: rest := by
  rw [closeArray, bind_eq_ok] at h
  obtain ⟨ahead, mid, hpeek, h⟩ := h
  obtain ⟨blanks, rfl, hahead⟩ := peekToken_eq_ok hpeek
  split at h
  · exact absurd h (by simp)
  · obtain rfl := advance_eq_ok.mp h
    exact ⟨blanks, congrArg _ (eq_cons_of_head? hahead)⟩
  · rw [bind_eq_ok] at h
    obtain ⟨⟨⟩, tail, -, h⟩ := h
    rw [bind_eq_ok] at h
    obtain ⟨ahead', mid', -, h⟩ := h
    split at h <;> exact absurd h (by simp)
  · exact absurd h (by simp)

theorem closeObject_eq_ok {bytes rest : List UInt8} (h : closeObject bytes = .ok ((), rest)) :
    ∃ blanks, bytes = blankBytes blanks ++ 125 :: rest := by
  rw [closeObject, bind_eq_ok] at h
  obtain ⟨ahead, mid, hpeek, h⟩ := h
  obtain ⟨blanks, rfl, hahead⟩ := peekToken_eq_ok hpeek
  split at h
  · exact absurd h (by simp)
  · obtain rfl := advance_eq_ok.mp h
    exact ⟨blanks, congrArg _ (eq_cons_of_head? hahead)⟩
  · exact absurd h (by simp)
  · exact absurd h (by simp)

/-- Between the marks of an array or object stands what its inside and its end have taken. -/
theorem enclosed_eq_ok {inside : Reader α} {close : Reader Unit}
    {past : List UInt8 → List UInt8} {bytes rest : List UInt8} {a : α}
    (h : enclosed inside close past bytes = .ok (a, rest)) :
    ∃ mid, inside bytes = .ok (a, mid) ∧ close mid = .ok ((), rest) := by
  unfold enclosed at h
  split at h
  next hinside =>
    split at h
    next hclose =>
      obtain ⟨rfl, rfl⟩ := Prod.mk.inj (Except.ok.inj h)
      exact ⟨_, hinside, hclose⟩
    next => exact absurd h (by simp)
  next => exact absurd h (by simp)

/-! ## Elements -/

/-- The elements that have been read are those of an array, from the first one on or from a later
one, and the bracket is ahead. -/
theorem elementsWithin_eq_ok {element : Reader α} {allowed : Term → α → Prop}
    (helement : Recognises Eq element allowed) {fuel : Nat} {first : Bool}
    {bytes rest : List UInt8} {values : List α}
    (h : elementsWithin element fuel first bytes = .ok (values, rest)) :
    ∃ lead items, bytes = blankBytes lead ++ (itemBytes first items ++ rest) ∧
      rest.head? = some 93 ∧ List.Forall₂ (fun item a => allowed item.term a) items values := by
  induction fuel generalizing first bytes values with
  | zero => exact absurd h (by simp [elementsWithin])
  | succ fuel ih =>
    rw [elementsWithin, bind_eq_ok] at h
    obtain ⟨more, mid, hnext, h⟩ := h
    obtain ⟨lead, hlead⟩ := nextElement_eq_ok hnext
    cases more with
    | false =>
      obtain ⟨rfl, rfl⟩ := pure_eq_ok.mp h
      obtain ⟨rfl, hend⟩ := hlead
      exact ⟨lead, [], rfl, hend, .nil⟩
    | true =>
      obtain ⟨before, rfl⟩ := hlead
      simp only [if_true, bind_eq_ok] at h
      obtain ⟨a, mid', hread, values', mid'', hrest, h⟩ := h
      obtain ⟨rfl, rfl⟩ := pure_eq_ok.mp h
      obtain ⟨blanks, t, rfl, ht⟩ := helement _ _ _ hread
      -- The blanks behind this element are those that led to what follows it.
      obtain ⟨after, items, rfl, hend, hitems⟩ := ih hrest
      refine ⟨lead, ⟨before ++ blanks, t, after⟩ :: items, ?_, hend, .cons ht hitems⟩
      rw [itemBytes_cons]
      simp only [blankBytes_append, List.append_assoc]

/-- **What is read as the elements of an array is one.** -/
theorem inArray_eq_ok {element : Reader α} {allowed : Term → α → Prop}
    (helement : Recognises Eq element allowed) {bytes rest : List UInt8}
    {values : List α} (h : inArray (elements element) (91 :: bytes) = .ok (values, rest)) :
    ∃ inside items, 91 :: bytes = (Term.array inside items).bytes ++ rest ∧
      List.Forall₂ (fun item a => allowed item.term a) items values := by
  rw [inArray, bind_of_ok (advance_cons _ _)] at h
  obtain ⟨mid, hinside, hclose⟩ := enclosed_eq_ok h
  obtain ⟨lead, items, rfl, hend, hitems⟩ := elementsWithin_eq_ok helement hinside
  obtain ⟨blanks, hmid⟩ := closeArray_eq_ok hclose
  obtain rfl := eq_of_blankBytes hmid hend rfl
  refine ⟨lead, items, ?_, hitems⟩
  rw [Term.bytes]
  simp only [List.append_assoc, List.cons_append, List.nil_append]

/-! ## Members -/

theorem append_tail (m : Member Term) (rest : List UInt8) :
    m.tail ++ rest
      = blankBytes m.beforeColon ++ 58 :: (blankBytes m.item.before ++ (m.item.term.bytes ++ rest)) := by
  rw [Member.tail]
  simp only [List.append_assoc, List.cons_append]

theorem Grammar.Member.isUtf8_tail (m : Member Term) : Text.IsUtf8 m.tail :=
  (isUtf8_blankBytes m.beforeColon).append
    (Text.isUtf8_cons (by decide) ((isUtf8_blankBytes m.item.before).append m.item.term.isUtf8_bytes))

/-- Behind the name of a member, behind its term, and behind both more may be taken for something
else. -/
theorem Likeness.behindMember (h : Likeness alike) (m : Member Term)
    {bytes tail behind text : List UInt8} (hbytes : alike bytes (quotedBytes m.name ++ tail))
    (htail : alike tail (m.tail ++ behind)) (hbehind : alike behind text) :
    alike bytes (quotedBytes m.name ++ (m.tail ++ text)) :=
  h.behind hbytes (isUtf8_quotedBytes m.name) (h.behind htail m.isUtf8_tail hbehind)

/-- Members that lead from one state to another, where a relation says what each of them does. -/
inductive MemberRun (step : σ → String → Term → σ → Prop) :
    σ → List (Member Term) → σ → Prop where
  | nil (s : σ) : MemberRun step s [] s
  | cons {s s' s'' : σ} {name : String} {m : Member Term} {ms : List (Member Term)}
    (hname : text? m.name = some name) (hstep : step s name m.item.term s')
    (hrest : MemberRun step s' ms s'') : MemberRun step s (m :: ms) s''

/-- Whether what a reader takes for a member, from behind the name, is taken for a colon and a term
that leads from the one state to the other. -/
def RecognisesMember (alike : List UInt8 → List UInt8 → Prop) (member : σ → String → Reader σ)
    (step : σ → String → Term → σ → Prop) : Prop :=
  ∀ s name bytes s' rest, member s name bytes = .ok (s', rest) →
    ∃ beforeColon before t,
      alike bytes (blankBytes beforeColon ++ 58 :: (blankBytes before ++ (t.bytes ++ rest))) ∧
        step s name t s'

theorem memberName_eq_ok {bytes rest : List UInt8} {name : String}
    (hquote : bytes.head? = some 34) (h : memberName bytes = .ok (name, rest)) :
    ∃ glyphs, text? glyphs = some name ∧ bytes = quotedBytes glyphs ++ rest := by
  obtain ⟨tail, rfl⟩ := List.head?_eq_some_iff.mp hquote
  rw [memberName, bind_of_ok (advance_cons _ _)] at h
  obtain ⟨glyphs, htext, rfl⟩ := textBody_eq_ok h
  refine ⟨glyphs, htext, ?_⟩
  rw [quotedBytes]
  simp only [List.append_assoc, List.cons_append, List.nil_append]

/-- The members that have been read are taken for those of an object, from the first one on or from
a later one, and the brace is ahead. -/
theorem membersWithin_eq_ok (hlike : Likeness alike) {member : σ → String → Reader σ}
    {step : σ → String → Term → σ → Prop} (hmember : RecognisesMember alike member step)
    {fuel : Nat} {first : Bool} {s s' : σ} {bytes rest : List UInt8}
    (h : membersWithin member fuel first s bytes = .ok (s', rest)) :
    ∃ lead ms, alike bytes (blankBytes lead ++ (memberBytes first ms ++ rest)) ∧
      rest.head? = some 125 ∧ MemberRun step s ms s' := by
  induction fuel generalizing first s bytes with
  | zero => exact absurd h (by simp [membersWithin])
  | succ fuel ih =>
    rw [membersWithin, bind_eq_ok] at h
    obtain ⟨more, mid, hnext, h⟩ := h
    obtain ⟨lead, hlead⟩ := nextMember_eq_ok hnext
    cases more with
    | false =>
      obtain ⟨rfl, rfl⟩ := pure_eq_ok.mp h
      obtain ⟨rfl, hend⟩ := hlead
      exact ⟨lead, [], hlike.refl _, hend, .nil s⟩
    | true =>
      obtain ⟨before, rfl, hquote⟩ := hlead
      simp only [if_true, bind_eq_ok] at h
      obtain ⟨name, behindName, hname, s'', behind, hread, hrest⟩ := h
      obtain ⟨glyphs, htext, rfl⟩ := memberName_eq_ok hquote hname
      obtain ⟨beforeColon, blanks, t, hterm, hstep⟩ := hmember _ _ _ _ _ hread
      obtain ⟨after, ms, hbehind, hend, hms⟩ := ih hrest
      let m : Member Term := ⟨before, glyphs, beforeColon, ⟨blanks, t, after⟩⟩
      refine ⟨lead, m :: ms, ?_, hend, .cons htext hstep hms⟩
      rw [← append_tail m] at hterm
      have hquoted := hlike.behindMember m (hlike.refl _) hterm hbehind
      have hmember := hlike.prepend (isUtf8_blankBytes lead)
        (hlike.prepend (isUtf8_comma first) (hlike.prepend (isUtf8_blankBytes before) hquoted))
      rw [memberBytes_cons]
      simpa only [List.append_assoc] using hmember

/-- **What is read as an object is taken for one** when its inside is taken for members up to a
brace. -/
theorem inObject_eq_ok (hlike : Likeness alike) {inner : Reader α} {bytes rest : List UInt8} {a : α}
    (allowed : List (Member Term) → Prop)
    (hinner : ∀ mid, inner bytes = .ok (a, mid) → ∃ lead ms,
      alike bytes (blankBytes lead ++ (memberBytes true ms ++ mid)) ∧ mid.head? = some 125 ∧
        allowed ms)
    (h : inObject inner (123 :: bytes) = .ok (a, rest)) :
    ∃ inside ms, alike (123 :: bytes) ((Term.object inside ms).bytes ++ rest) ∧ allowed ms := by
  rw [inObject, bind_of_ok (advance_cons _ _)] at h
  obtain ⟨mid, hinside, hclose⟩ := enclosed_eq_ok h
  obtain ⟨lead, ms, hbytes, hend, hms⟩ := hinner mid hinside
  obtain ⟨blanks, hmid⟩ := closeObject_eq_ok hclose
  obtain rfl := eq_of_blankBytes hmid hend rfl
  refine ⟨lead, ms, ?_, hms⟩
  have hbrace := hlike.prepend (Text.isUtf8_of_ascii rfl : Text.IsUtf8 [123]) hbytes
  rw [Term.bytes]
  simpa only [List.append_assoc, List.cons_append, List.nil_append] using hbrace

end Commissioning.Json
