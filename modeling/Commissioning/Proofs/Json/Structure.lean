import Commissioning.Proofs.Json.Number
import Commissioning.Proofs.Json.Text

set_option autoImplicit false

/-! # Reading arrays and objects

The punctuation of an array or object that a tree writes leads a reader from element to element
and from member to member, whatever it reads them as. The readers of whole values follow by
recursion over the tree. -/

namespace Commissioning.Json

open Reader Grammar

/-! ## What stands in front of a value -/

/-- A value starts with a byte that is neither a blank nor a closing bracket. -/
theorem Grammar.Term.bytes_eq_cons (t : Term) :
    ∃ b tail, t.bytes = b :: tail ∧ isBlank b = false ∧ charOfByte b ≠ ']' := by
  cases t with
  | null => exact ⟨_, _, rfl, rfl, by decide⟩
  | boolean b => cases b <;> exact ⟨_, _, rfl, rfl, by decide⟩
  | number n =>
    obtain ⟨b, tail, hbytes, hstart, -⟩ := n.bytes_eq_cons
    exact ⟨b, tail, hbytes, hstart.notBlank, hstart.notEnd⟩
  | text glyphs => exact ⟨_, _, rfl, rfl, by decide⟩
  | array inside items => exact ⟨_, _, rfl, rfl, by decide⟩
  | object inside members => exact ⟨_, _, rfl, rfl, by decide⟩

/-- Nothing but a number starts as numbers do. -/
theorem Grammar.Term.eq_number_of_starts {t : Term} {b : UInt8} {tail : List UInt8}
    (h : t.bytes = b :: tail) (hb : StartsNumber b) : ∃ n, t = .number n := by
  cases t with
  | number n => exact ⟨n, rfl⟩
  | null =>
    obtain rfl := (List.cons.inj h).1
    exact absurd (by decide) hb.notNull
  | boolean value =>
    cases value with
    | true =>
      obtain rfl := (List.cons.inj h).1
      exact absurd (by decide) hb.notTrue
    | false =>
      obtain rfl := (List.cons.inj h).1
      exact absurd (by decide) hb.notFalse
  | text glyphs =>
    obtain rfl := (List.cons.inj h).1
    exact absurd (by decide) hb.notQuote
  | array inside items =>
    obtain rfl := (List.cons.inj h).1
    exact absurd (by decide) hb.notBracket
  | object inside members =>
    obtain rfl := (List.cons.inj h).1
    exact absurd (by decide) hb.notBrace

/-- Nothing but a text starts with a quote. -/
theorem Grammar.Term.eq_text_of_quote {t : Term} {tail : List UInt8} (h : t.bytes = 34 :: tail) :
    ∃ glyphs, t = .text glyphs := by
  cases t with
  | text glyphs => exact ⟨glyphs, rfl⟩
  | number n =>
    obtain ⟨b, rest, hbytes, hb, -⟩ := n.bytes_eq_cons
    obtain rfl : b = 34 := (List.cons.inj (hbytes.symm.trans h)).1
    exact absurd (by decide) hb.notQuote
  | boolean value => cases value <;> exact absurd (List.cons.inj h).1 (by decide)
  | _ => exact absurd (List.cons.inj h).1 (by decide)

theorem Grammar.Term.length_bytes_pos (t : Term) : 0 < t.bytes.length := by
  obtain ⟨b, tail, hbytes, -⟩ := t.bytes_eq_cons
  rw [hbytes]
  exact Nat.succ_pos _

/-! ## Punctuation -/

theorem nextElement_end (first : Bool) (blanks : List Blank) (rest : List UInt8) :
    nextElement first (blankBytes blanks ++ 93 :: rest) = .ok (false, 93 :: rest) := by
  unfold nextElement
  rw [bind_of_ok (peekToken_cons blanks rfl rest)]
  rfl

/-- Up to the next element, over the blanks behind the last one, a comma, and the blanks in
front. -/
theorem nextElement_bytes (first : Bool) (lead before : List Blank) (t : Term)
    (rest : List UInt8) :
    nextElement first
        (blankBytes lead ++ (comma first ++ (blankBytes before ++ (t.bytes ++ rest))))
      = .ok (true, t.bytes ++ rest) := by
  obtain ⟨b, tail, hbytes, hblank, hbracket⟩ := t.bytes_eq_cons
  have hahead : peekToken (blankBytes before ++ (t.bytes ++ rest))
      = .ok (some (charOfByte b), t.bytes ++ rest) := by
    rw [hbytes, List.cons_append]
    exact peekToken_cons before hblank _
  unfold nextElement
  cases first with
  | true =>
    -- Without a comma between them, the blanks of the bracket and of the element run together.
    have hlead : peekToken (blankBytes lead ++ (blankBytes before ++ (t.bytes ++ rest)))
        = .ok (some (charOfByte b), t.bytes ++ rest) := by
      rw [← List.append_assoc, ← blankBytes_append,
        hbytes, List.cons_append]
      exact peekToken_cons (lead ++ before) hblank _
    rw [comma, if_pos rfl, List.nil_append, bind_of_ok hlead]
    simp only [if_true]
    rfl
  | false =>
    rw [comma, if_neg Bool.false_ne_true, List.singleton_append,
      bind_of_ok (peekToken_cons lead rfl _)]
    show (advance >>= _) _ = _
    rw [bind_of_ok (advance_cons _ _), bind_of_ok hahead]
    simp only
    rfl

theorem nextMember_end (first : Bool) (blanks : List Blank) (rest : List UInt8) :
    nextMember first (blankBytes blanks ++ 125 :: rest) = .ok (false, 125 :: rest) := by
  unfold nextMember
  rw [bind_of_ok (peekToken_cons blanks rfl rest)]
  rfl

/-- Up to the quote of the next name. -/
theorem nextMember_bytes (first : Bool) (lead before : List Blank) (rest : List UInt8) :
    nextMember first (blankBytes lead ++ (comma first ++ (blankBytes before ++ 34 :: rest)))
      = .ok (true, 34 :: rest) := by
  unfold nextMember
  cases first with
  | true =>
    rw [comma, if_pos rfl, List.nil_append, ← List.append_assoc,
      ← blankBytes_append,
      bind_of_ok (peekToken_cons (lead ++ before) rfl _)]
    rfl
  | false =>
    rw [comma, if_neg Bool.false_ne_true, List.singleton_append,
      bind_of_ok (peekToken_cons lead rfl _)]
    show (advance >>= _) _ = _
    rw [bind_of_ok (advance_cons _ _), bind_of_ok (peekToken_cons before rfl _)]
    rfl

theorem colon_bytes (blanks : List Blank) (rest : List UInt8) :
    colon (blankBytes blanks ++ 58 :: rest) = .ok ((), rest) := by
  unfold colon
  rw [bind_of_ok (peekToken_cons blanks rfl rest)]
  exact advance_cons _ _

theorem memberName_quotedBytes {name : List Glyph} {s : String} (h : text? name = some s)
    (rest : List UInt8) : memberName (quotedBytes name ++ rest) = .ok (s, rest) :=
  quotedText_quotedBytes h rest

/-! ## Elements -/

variable {α σ : Type}

/-- Whether a reader takes a term, behind any blanks and in front of the end of a token, as a
given value. -/
def Reads (r : Reader α) (t : Term) (a : α) : Prop :=
  ∀ (blanks : List Blank) (rest : List UInt8), Delimited rest →
    r (blankBytes blanks ++ (t.bytes ++ rest)) = .ok (a, rest)

theorem Reads.at_once {r : Reader α} {t : Term} {a : α} (h : Reads r t a) {rest : List UInt8}
    (hrest : Delimited rest) : r (t.bytes ++ rest) = .ok (a, rest) :=
  h [] rest hrest

/-- Behind an element come a comma, with the other elements, or the bracket. -/
theorem delimited_itemBytes (after : List Blank) (items : List (Item Term)) (rest : List UInt8) :
    Delimited (blankBytes after ++ (itemBytes false items ++ 93 :: rest)) := by
  refine delimited_blankBytes after ?_
  cases items with
  | nil => exact delimited_cons rfl rest
  | cons item items => exact delimited_cons rfl _

theorem Grammar.itemBytes_cons (first : Bool) (item : Item Term) (items : List (Item Term)) :
    itemBytes first (item :: items)
      = comma first ++ (blankBytes item.before ++ (item.term.bytes
          ++ (blankBytes item.after ++ itemBytes false items))) := by
  obtain ⟨before, t, after⟩ := item
  rw [itemBytes]
  simp only [List.append_assoc]

theorem length_le_itemBytes (first : Bool) (items : List (Item Term)) :
    items.length ≤ (itemBytes first items).length := by
  induction items generalizing first with
  | nil => exact Nat.zero_le _
  | cons item items ih =>
    have hpos := item.term.length_bytes_pos
    have hle := ih false
    rw [itemBytes_cons]
    simp only [List.length_append, List.length_cons]
    omega

theorem elementsWithin_itemBytes {element : Reader α} {items : List (Item Term)} {values : List α}
    (h : List.Forall₂ (fun item a => Reads element item.term a) items values)
    (fuel : Nat) (hfuel : items.length < fuel) (first : Bool) (lead : List Blank)
    (rest : List UInt8) :
    elementsWithin element fuel first (blankBytes lead ++ (itemBytes first items ++ 93 :: rest))
      = .ok (values, 93 :: rest) := by
  -- The blanks behind an element are those that lead to the next one, or to the bracket.
  induction h generalizing fuel first lead with
  | nil =>
    obtain ⟨fuel, rfl⟩ : ∃ n, fuel = n + 1 := ⟨fuel - 1, by omega⟩
    rw [elementsWithin, itemBytes, List.nil_append, bind_of_ok (nextElement_end first lead rest)]
    rfl
  | @cons item a items values hitem _ ih =>
    rw [List.length_cons] at hfuel
    obtain ⟨fuel, rfl⟩ : ∃ n, fuel = n + 1 := ⟨fuel - 1, by omega⟩
    rw [elementsWithin, itemBytes_cons]
    simp only [List.append_assoc]
    rw [bind_of_ok (nextElement_bytes first lead item.before item.term _)]
    simp only [if_true]
    rw [bind_of_ok (hitem.at_once (delimited_itemBytes item.after items rest)),
      bind_of_ok (ih fuel (by omega) false item.after)]
    rfl

/-- The elements of an array are read one by one. -/
theorem inArray_elements {element : Reader α} {items : List (Item Term)} {values : List α}
    (h : List.Forall₂ (fun item a => Reads element item.term a) items values)
    (inside : List Blank) (rest : List UInt8) :
    inArray (elements element) ((Term.array inside items).bytes ++ rest) = .ok (values, rest) := by
  have hinside : elements element (blankBytes inside ++ (itemBytes true items ++ 93 :: rest))
      = .ok (values, 93 :: rest) := by
    refine elementsWithin_itemBytes h _ ?_ true inside rest
    have hle := length_le_itemBytes true items
    simp only [List.length_append]
    omega
  have hclose : closeArray (93 :: rest) = .ok ((), rest) := rfl
  rw [Term.bytes]
  simp only [List.append_assoc, List.cons_append, List.nil_append]
  unfold inArray
  rw [bind_of_ok (advance_cons _ _)]
  unfold enclosed
  rw [hinside]
  simp only [hclose]

/-! ## Members -/

/-- What stands behind the name of a member, up to the end of its value. -/
def Grammar.Member.tail (m : Member Term) : List UInt8 :=
  blankBytes m.beforeColon ++ 58 :: (blankBytes m.item.before ++ m.item.term.bytes)

theorem Grammar.memberBytes_cons (first : Bool) (m : Member Term) (ms : List (Member Term)) :
    memberBytes first (m :: ms)
      = comma first ++ (blankBytes m.before ++ (quotedBytes m.name ++ (m.tail
          ++ (blankBytes m.item.after ++ memberBytes false ms)))) := by
  obtain ⟨before, name, beforeColon, ⟨beforeTerm, t, after⟩⟩ := m
  rw [memberBytes, Member.tail]
  simp only [List.append_assoc, List.cons_append]

/-- Whether a reader takes a member with the given name from one state to another. -/
def TakesMember (member : σ → String → Reader σ) (s : σ) (name : String) (m : Member Term)
    (s' : σ) : Prop :=
  ∀ rest, Delimited rest → member s name (m.tail ++ rest) = .ok (s', rest)

/-- Members that are taken one after another, from one state to another. -/
inductive Takes (member : σ → String → Reader σ) : σ → List (Member Term) → σ → Prop where
  | nil (s : σ) : Takes member s [] s
  | cons {s s' s'' : σ} {name : String} {m : Member Term} {ms : List (Member Term)}
    (hname : text? m.name = some name) (hmember : TakesMember member s name m s')
    (hrest : Takes member s' ms s'') : Takes member s (m :: ms) s''

theorem delimited_memberBytes (after : List Blank) (ms : List (Member Term)) (rest : List UInt8) :
    Delimited (blankBytes after ++ (memberBytes false ms ++ 125 :: rest)) := by
  refine delimited_blankBytes after ?_
  cases ms with
  | nil => exact delimited_cons rfl rest
  | cons m ms => exact delimited_cons rfl _

theorem length_le_memberBytes (first : Bool) (ms : List (Member Term)) :
    ms.length ≤ (memberBytes first ms).length := by
  induction ms generalizing first with
  | nil => exact Nat.zero_le _
  | cons m ms ih =>
    have hle := ih false
    simp only [memberBytes_cons, quotedBytes, List.length_append, List.length_cons]
    omega

theorem membersWithin_memberBytes {member : σ → String → Reader σ} {s s' : σ}
    {ms : List (Member Term)} (h : Takes member s ms s') (fuel : Nat) (hfuel : ms.length < fuel)
    (first : Bool) (lead : List Blank) (rest : List UInt8) :
    membersWithin member fuel first s (blankBytes lead ++ (memberBytes first ms ++ 125 :: rest))
      = .ok (s', 125 :: rest) := by
  induction h generalizing fuel first lead with
  | nil s =>
    obtain ⟨fuel, rfl⟩ : ∃ n, fuel = n + 1 := ⟨fuel - 1, by omega⟩
    rw [membersWithin, memberBytes, List.nil_append, bind_of_ok (nextMember_end first lead rest)]
    rfl
  | @cons s s' s'' name m ms hname hmember _ ih =>
    rw [List.length_cons] at hfuel
    obtain ⟨fuel, rfl⟩ : ∃ n, fuel = n + 1 := ⟨fuel - 1, by omega⟩
    have hquoted : ∀ bytes, nextMember first
        (blankBytes lead ++ (comma first ++ (blankBytes m.before ++ (quotedBytes m.name ++ bytes))))
          = .ok (true, quotedBytes m.name ++ bytes) :=
      fun bytes => nextMember_bytes first lead m.before _
    have htail := hmember _ (delimited_memberBytes m.item.after ms rest)
    rw [membersWithin, memberBytes_cons]
    simp only [List.append_assoc]
    rw [bind_of_ok (hquoted _)]
    simp only [if_true]
    rw [bind_of_ok (memberName_quotedBytes hname _), bind_of_ok htail]
    exact ih fuel (by omega) false m.item.after

/-- The members of an object are taken one by one. -/
theorem members_memberBytes {member : σ → String → Reader σ} {s s' : σ}
    {ms : List (Member Term)} (h : Takes member s ms s') (inside : List Blank)
    (rest : List UInt8) :
    members member s (blankBytes inside ++ (memberBytes true ms ++ 125 :: rest))
      = .ok (s', 125 :: rest) := by
  refine membersWithin_memberBytes h _ ?_ true inside rest
  have hle := length_le_memberBytes true ms
  simp only [List.length_append]
  omega

/-- An object is left behind its brace when its inside is read up to the brace. -/
theorem inObject_bytes {inner : Reader α} {ms : List (Member Term)} {inside : List Blank}
    {rest : List UInt8} {a : α}
    (h : inner (blankBytes inside ++ (memberBytes true ms ++ 125 :: rest)) = .ok (a, 125 :: rest)) :
    inObject inner ((Term.object inside ms).bytes ++ rest) = .ok (a, rest) := by
  have hclose : closeObject (125 :: rest) = .ok ((), rest) := rfl
  rw [Term.bytes]
  simp only [List.append_assoc, List.cons_append, List.nil_append]
  unfold inObject
  rw [bind_of_ok (advance_cons _ _)]
  unfold enclosed
  rw [h]
  simp only [hclose]

end Commissioning.Json
