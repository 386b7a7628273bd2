import Commissioning.Proofs.Json.Structure

set_option autoImplicit false

/-! # Reading values

A value that does not nest too deep is read as what its tree stands for. One that is passed over
may nest to any depth, and may hold numbers and texts without a value. -/

namespace Commissioning.Json

open Reader Grammar

/-! ## Values that are read -/

/-- A member that is kept behind the ones read before it. -/
def keptMember (inner : Reader Value) (pairs : List (String × Value)) (name : String) :
    Reader (List (String × Value)) := do
  colon
  let v ← inner
  pure (pairs ++ [(name, v)])

/-- The reader inside the elements and members at a depth. -/
def innerValue : Nat → Option (Reader Value)
  | 0 => none
  | depth + 1 => some (value depth)

theorem value_eq_valueWith (depth : Nat) : value depth = valueWith (innerValue depth) := by
  cases depth <;> rfl

theorem valueWith_number (inner : Option (Reader Value)) {n : NumberForm} {x : Number}
    (hn : n.number? = some x) : Reads (valueWith inner) (.number n) (.number x) := by
  intro blanks rest h
  have hnumber := signedNumber_bytes hn h
  obtain ⟨b, tail, hbytes, ⟨hblank, hn, ht, hf, hquote, hbracket, hbrace, -⟩, hdigit⟩ :=
    n.bytes_eq_cons
  rw [hbytes, List.cons_append] at hnumber
  rw [Term.bytes, hbytes, List.cons_append]
  unfold valueWith
  rw [bind_of_ok (peekToken_cons blanks hblank _)]
  simp only [hdigit, if_true]
  rw [bind_of_ok hnumber]
  rfl

theorem valueWith_text (inner : Option (Reader Value)) {glyphs : List Glyph} {s : String}
    (h : text? glyphs = some s) : Reads (valueWith inner) (.text glyphs) (.text s) := by
  intro blanks rest _
  have htext := quotedText_quotedBytes h rest
  rw [quotedBytes, List.cons_append, List.cons_append] at htext
  rw [Term.bytes, quotedBytes, List.cons_append, List.cons_append]
  unfold valueWith
  rw [bind_of_ok (peekToken_cons blanks rfl _)]
  show (quotedText >>= fun s => pure (Value.text s)) _ = _
  rw [bind_of_ok htext]
  rfl

theorem valueWith_array {inner : Reader Value} {items : List (Item Term)} {values : List Value}
    (h : List.Forall₂ (fun item v => Reads inner item.term v) items values)
    (inside : List Blank) :
    Reads (valueWith (some inner)) (.array inside items) (.array values) := by
  intro blanks rest _
  have harray := inArray_elements h inside rest
  rw [Term.bytes] at harray ⊢
  simp only [List.cons_append] at harray ⊢
  unfold valueWith
  rw [bind_of_ok (peekToken_cons blanks rfl _)]
  show (inArray (elements inner) >>= fun items => pure (Value.array items)) _ = _
  rw [bind_of_ok harray]
  rfl

theorem valueWith_object {inner : Reader Value} {ms : List (Member Term)}
    {pairs : List (String × Value)} (h : Takes (keptMember inner) [] ms pairs)
    (inside : List Blank) : Reads (valueWith (some inner)) (.object inside ms) (.object pairs) := by
  intro blanks rest _
  have hobject := inObject_bytes (members_memberBytes h inside rest)
  rw [Term.bytes] at hobject ⊢
  simp only [List.cons_append] at hobject ⊢
  unfold valueWith
  rw [bind_of_ok (peekToken_cons blanks rfl _)]
  show (inObject (members (keptMember inner) []) >>= fun pairs => pure (Value.object pairs)) _ = _
  rw [bind_of_ok hobject]
  rfl

/-- A member whose value is read is kept. -/
theorem takesMember_keptMember {inner : Reader Value} {m : Member Term} {v : Value}
    (h : Reads inner m.item.term v) (pairs : List (String × Value)) (name : String) :
    TakesMember (keptMember inner) pairs name m (pairs ++ [(name, v)]) := by
  intro rest hrest
  unfold keptMember Member.tail
  simp only [List.append_assoc, List.cons_append]
  rw [bind_of_ok (colon_bytes m.beforeColon _), bind_of_ok (h m.item.before rest hrest)]
  rfl

mutual

/-- **A value is read as what it stands for** when it does not nest too deep. -/
theorem reads_value : (t : Term) → (depth : Nat) → (v : Value) → t.value? = some v →
    t.depth ≤ depth → Reads (value depth) t v
  | .null, depth, v, hv, _ => by
    rw [Term.value?, Option.some.injEq] at hv
    subst hv
    intro blanks rest _
    rw [value_eq_valueWith, Term.bytes, List.cons_append]
    unfold valueWith
    rw [bind_of_ok (peekToken_cons blanks rfl _)]
    rfl
  | .boolean b, depth, v, hv, _ => by
    rw [Term.value?, Option.some.injEq] at hv
    subst hv
    intro blanks rest _
    cases b
    all_goals
      rw [value_eq_valueWith, Term.bytes, List.cons_append]
      unfold valueWith
      rw [bind_of_ok (peekToken_cons blanks rfl _)]
      rfl
  | .number n, depth, v, hv, _ => by
    rw [Term.value?, Option.map_eq_some_iff] at hv
    obtain ⟨x, hx, rfl⟩ := hv
    rw [value_eq_valueWith]
    exact valueWith_number _ hx
  | .text glyphs, depth, v, hv, _ => by
    rw [Term.value?, Option.map_eq_some_iff] at hv
    obtain ⟨s, hs, rfl⟩ := hv
    rw [value_eq_valueWith]
    exact valueWith_text _ hs
  | .array inside items, depth, v, hv, hdepth => by
    rw [Term.value?, Option.map_eq_some_iff] at hv
    obtain ⟨values, hvalues, rfl⟩ := hv
    rw [Term.depth] at hdepth
    obtain ⟨depth, rfl⟩ : ∃ n, depth = n + 1 := ⟨depth - 1, by omega⟩
    exact valueWith_array (reads_items items depth values hvalues (by omega)) inside
  | .object inside ms, depth, v, hv, hdepth => by
    rw [Term.value?, Option.map_eq_some_iff] at hv
    obtain ⟨pairs, hpairs, rfl⟩ := hv
    rw [Term.depth] at hdepth
    obtain ⟨depth, rfl⟩ : ∃ n, depth = n + 1 := ⟨depth - 1, by omega⟩
    exact valueWith_object (takes_members ms depth [] pairs hpairs (by omega)) inside

theorem reads_items : (items : List (Item Term)) → (depth : Nat) → (values : List Value) →
    itemValues? items = some values → itemDepth items ≤ depth →
    List.Forall₂ (fun item v => Reads (value depth) item.term v) items values
  | [], depth, values, hvalues, _ => by
    rw [itemValues?, Option.some.injEq] at hvalues
    subst hvalues
    exact .nil
  | ⟨before, t, after⟩ :: items, depth, values, hvalues, hdepth => by
    rw [itemValues?] at hvalues
    simp only [Option.bind_eq_bind, Option.bind_eq_some_iff, Option.pure_def,
      Option.some.injEq] at hvalues
    obtain ⟨v, hv, values, hrest, rfl⟩ := hvalues
    rw [itemDepth] at hdepth
    refine .cons ?_ ?_
    · exact reads_value t depth v hv (by omega)
    · exact reads_items items depth values hrest (by omega)

theorem takes_members : (ms : List (Member Term)) → (depth : Nat) →
    (start pairs : List (String × Value)) → memberValues? ms = some pairs →
    memberDepth ms ≤ depth → Takes (keptMember (value depth)) start ms (start ++ pairs)
  | [], depth, start, pairs, hpairs, _ => by
    rw [memberValues?, Option.some.injEq] at hpairs
    subst hpairs
    rw [List.append_nil]
    exact .nil start
  | ⟨before, name, beforeColon, ⟨beforeTerm, t, after⟩⟩ :: ms, depth, start, pairs, hpairs,
      hdepth => by
    rw [memberValues?] at hpairs
    simp only [Option.bind_eq_bind, Option.bind_eq_some_iff, Option.pure_def,
      Option.some.injEq] at hpairs
    obtain ⟨s, hs, v, hv, pairs, hrest, rfl⟩ := hpairs
    rw [memberDepth] at hdepth
    have hvalue := reads_value t depth v hv (by omega)
    -- The member that has been read is kept behind those before it.
    have htakes := takes_members ms depth (start ++ [(s, v)]) pairs hrest (by omega)
    rw [List.append_assoc, List.singleton_append] at htakes
    exact .cons hs (takesMember_keptMember hvalue start s) htakes

end

/-! ## Values that are passed over -/

/-- Whether a term is passed over in as many steps as it has bytes. -/
def Skips (t : Term) : Prop :=
  ∀ fuel, t.bytes.length ≤ fuel → Reads (skipWithin fuel) t ()

theorem skips_null : Skips .null := by
  intro fuel hfuel blanks rest _
  obtain ⟨fuel, rfl⟩ : ∃ n, fuel = n + 1 := ⟨fuel - 1, by simp [Term.bytes] at hfuel; omega⟩
  rw [Term.bytes, List.cons_append, skipWithin, bind_of_ok (peekToken_cons blanks rfl _)]
  rfl

theorem skips_boolean (b : Bool) : Skips (.boolean b) := by
  intro fuel hfuel blanks rest _
  cases b
  all_goals
    obtain ⟨fuel, rfl⟩ : ∃ n, fuel = n + 1 := ⟨fuel - 1, by simp [Term.bytes] at hfuel; omega⟩
    rw [Term.bytes, List.cons_append, skipWithin, bind_of_ok (peekToken_cons blanks rfl _)]
    rfl

theorem skips_text (glyphs : List Glyph) : Skips (.text glyphs) := by
  intro fuel hfuel blanks rest _
  have hpos := Term.length_bytes_pos (.text glyphs)
  obtain ⟨fuel, rfl⟩ : ∃ n, fuel = n + 1 := ⟨fuel - 1, by omega⟩
  rw [Term.bytes, quotedBytes]
  simp only [List.append_assoc, List.cons_append, List.nil_append]
  rw [skipWithin, bind_of_ok (peekToken_cons blanks rfl _)]
  show (advance >>= fun _ => skipText) _ = _
  rw [bind_of_ok (advance_cons _ _), skipText_glyphBytes]

theorem skips_number (n : NumberForm) : Skips (.number n) := by
  intro fuel hfuel blanks rest h
  have hpos := Term.length_bytes_pos (.number n)
  have hskip := skipNumber_unsignedBytes n h
  obtain ⟨fuel, rfl⟩ : ∃ n, fuel = n + 1 := ⟨fuel - 1, by omega⟩
  rw [Term.bytes, NumberForm.bytes]
  cases n.negative with
  | true =>
    rw [if_pos rfl, List.singleton_append, List.cons_append, skipWithin,
      bind_of_ok (peekToken_cons blanks rfl _)]
    show (advance >>= fun _ => skipNumber) _ = _
    rw [bind_of_ok (advance_cons _ _), hskip]
  | false =>
    obtain ⟨d, tail, hbytes⟩ := n.unsignedBytes_eq_cons
    obtain ⟨hblank, hn, ht, hf, hquote, hbracket, hbrace, -⟩ := startsNumber_digitByte d
    have hminus := charOfByte_digitByte_ne_minus d
    rw [hbytes, List.cons_append] at hskip
    rw [if_neg Bool.false_ne_true, List.nil_append, hbytes, List.cons_append, skipWithin,
      bind_of_ok (peekToken_cons blanks hblank _)]
    simp only [isDigit_charOfByte, isDigit_digitByte, if_true]
    exact hskip

/-- Elements are passed over up to the bracket, one at least. -/
theorem skipElements_itemBytes {item : Item Term} {items : List (Item Term)}
    (hitem : Skips item.term) (hitems : ∀ x ∈ items, Skips x.term) (fuel : Nat)
    (hfuel : item.term.bytes.length + (itemBytes false items).length < fuel) (lead : List Blank)
    (rest : List UInt8) :
    skipElements fuel (blankBytes lead ++ (item.term.bytes
        ++ (blankBytes item.after ++ (itemBytes false items ++ 93 :: rest))))
      = .ok ((), rest) := by
  have hpos := item.term.length_bytes_pos
  -- Each element takes one step and has one byte at least, the comma in front of it another.
  induction items generalizing item fuel lead with
  | nil =>
    obtain ⟨fuel, rfl⟩ : ∃ n, fuel = n + 1 := ⟨fuel - 1, by omega⟩
    have hskip := hitem fuel (by omega) lead _ (delimited_itemBytes item.after [] rest)
    rw [itemBytes, List.nil_append] at hskip ⊢
    rw [skipElements, bind_of_ok hskip, bind_of_ok (peekToken_cons item.after rfl rest)]
    exact advance_cons _ _
  | cons next items ih =>
    obtain ⟨fuel, rfl⟩ : ∃ n, fuel = n + 1 := ⟨fuel - 1, by omega⟩
    have hskip := hitem fuel (by omega) lead _ (delimited_itemBytes item.after (next :: items) rest)
    have hnext := hitems next List.mem_cons_self
    have hrest := ih hnext (fun x hx => hitems x (List.mem_cons_of_mem next hx)) fuel
    simp only [itemBytes_cons, comma, Bool.false_eq_true, if_false, List.append_assoc,
      List.cons_append, List.nil_append, List.length_cons, List.length_append]
      at hfuel hskip hrest ⊢
    rw [skipElements, bind_of_ok hskip, bind_of_ok (peekToken_cons item.after rfl _)]
    show (advance >>= fun _ => skipElements fuel) _ = _
    rw [bind_of_ok (advance_cons _ _)]
    exact hrest (by omega) next.before next.term.length_bytes_pos

theorem skips_array {items : List (Item Term)} (h : ∀ item ∈ items, Skips item.term)
    (inside : List Blank) : Skips (.array inside items) := by
  intro fuel hfuel blanks rest _
  rw [Term.bytes] at hfuel ⊢
  simp only [List.length_cons, List.length_append, List.length_nil] at hfuel
  simp only [List.append_assoc, List.cons_append, List.nil_append]
  obtain ⟨fuel, rfl⟩ : ∃ n, fuel = n + 1 := ⟨fuel - 1, by omega⟩
  rw [skipWithin, bind_of_ok (peekToken_cons blanks rfl _)]
  cases items with
  | nil =>
    rw [itemBytes, List.nil_append]
    show (advance >>= _) _ = _
    rw [bind_of_ok (advance_cons _ _), bind_of_ok (peekToken_cons inside rfl _)]
    exact advance_cons _ _
  | cons item items =>
    have hskip := skipElements_itemBytes (h item List.mem_cons_self)
      (fun x hx => h x (List.mem_cons_of_mem item hx)) fuel
    obtain ⟨b, tail, hbytes, hblank, hbracket⟩ := item.term.bytes_eq_cons
    simp only [itemBytes_cons, comma, if_true, List.append_assoc, List.nil_append,
      List.length_append] at hfuel ⊢
    rw [← List.append_assoc, ← blankBytes_append, hbytes, List.cons_append]
    rw [hbytes] at hskip hfuel
    show (advance >>= _) _ = _
    rw [bind_of_ok (advance_cons _ _), bind_of_ok (peekToken_cons (inside ++ item.before) hblank _)]
    simp only
    exact hskip (by omega) [] rest

/-- Behind the first member, passing over members goes on with a comma or ends with the brace. -/
theorem skipMembers_member {m : Member Term} (hm : Skips m.item.term) (fuel : Nat)
    (hfuel : m.item.term.bytes.length ≤ fuel) (lead : List Blank) {bytes : List UInt8}
    (hbytes : Delimited bytes) :
    skipMembers (fuel + 1) (blankBytes lead ++ (quotedBytes m.name ++ (m.tail ++ bytes)))
      = (peekToken >>= fun c => match c with
        | none => failAhead (.endOfText .object)
        | some ',' => advance >>= fun _ => skipMembers fuel
        | some '}' => advance
        | some _ => failAhead .expectedCommaOrBrace) bytes := by
  rw [quotedBytes]
  simp only [Member.tail, List.append_assoc, List.cons_append, List.nil_append]
  rw [skipMembers, bind_of_ok (peekToken_cons lead rfl _)]
  show (advance >>= fun _ => skipText >>= fun _ => colon >>= fun _ => skipWithin fuel >>= _) _ = _
  rw [bind_of_ok (advance_cons _ _), bind_of_ok (skipText_glyphBytes m.name _),
    bind_of_ok (colon_bytes m.beforeColon _)]
  exact bind_of_ok (hm fuel hfuel m.item.before _ hbytes)

/-- Members are passed over up to the brace, one at least. -/
theorem skipMembers_memberBytes {m : Member Term} {ms : List (Member Term)}
    (hm : Skips m.item.term) (hms : ∀ x ∈ ms, Skips x.item.term) (fuel : Nat)
    (hfuel : m.item.term.bytes.length + (memberBytes false ms).length < fuel)
    (lead : List Blank) (rest : List UInt8) :
    skipMembers fuel (blankBytes lead ++ (quotedBytes m.name ++ (m.tail
        ++ (blankBytes m.item.after ++ (memberBytes false ms ++ 125 :: rest)))))
      = .ok ((), rest) := by
  have hpos := m.item.term.length_bytes_pos
  induction ms generalizing m fuel lead with
  | nil =>
    obtain ⟨fuel, rfl⟩ : ∃ n, fuel = n + 1 := ⟨fuel - 1, by omega⟩
    rw [skipMembers_member hm fuel (by omega) lead (delimited_memberBytes m.item.after [] rest),
      memberBytes, List.nil_append, bind_of_ok (peekToken_cons m.item.after rfl rest)]
    exact advance_cons _ _
  | cons next ms ih =>
    obtain ⟨fuel, rfl⟩ : ∃ n, fuel = n + 1 := ⟨fuel - 1, by omega⟩
    have hnext := hms next List.mem_cons_self
    have hrest := ih hnext (fun x hx => hms x (List.mem_cons_of_mem next hx)) fuel
    rw [skipMembers_member hm fuel (by omega) lead
      (delimited_memberBytes m.item.after (next :: ms) rest)]
    simp only [memberBytes_cons, comma, Bool.false_eq_true, if_false, Member.tail,
      List.append_assoc, List.cons_append, List.nil_append, List.length_cons, List.length_append]
      at hfuel hrest ⊢
    rw [bind_of_ok (peekToken_cons m.item.after rfl _)]
    show (advance >>= fun _ => skipMembers fuel) _ = _
    rw [bind_of_ok (advance_cons _ _)]
    exact hrest (by omega) next.before next.item.term.length_bytes_pos

theorem skips_object {ms : List (Member Term)} (h : ∀ m ∈ ms, Skips m.item.term)
    (inside : List Blank) : Skips (.object inside ms) := by
  intro fuel hfuel blanks rest _
  rw [Term.bytes] at hfuel ⊢
  simp only [List.length_cons, List.length_append, List.length_nil] at hfuel
  simp only [List.append_assoc, List.cons_append, List.nil_append]
  obtain ⟨fuel, rfl⟩ : ∃ n, fuel = n + 1 := ⟨fuel - 1, by omega⟩
  rw [skipWithin, bind_of_ok (peekToken_cons blanks rfl _)]
  cases ms with
  | nil =>
    rw [memberBytes, List.nil_append]
    show (advance >>= _) _ = _
    rw [bind_of_ok (advance_cons _ _), bind_of_ok (peekToken_cons inside rfl _)]
    exact advance_cons _ _
  | cons m ms =>
    have hskip := skipMembers_memberBytes (h m List.mem_cons_self)
      (fun x hx => h x (List.mem_cons_of_mem m hx)) fuel
    simp only [memberBytes_cons, comma, if_true, Member.tail, quotedBytes, List.append_assoc,
      List.cons_append, List.nil_append, List.length_cons, List.length_append] at hfuel hskip ⊢
    rw [← List.append_assoc, ← blankBytes_append]
    show (advance >>= _) _ = _
    rw [bind_of_ok (advance_cons _ _), bind_of_ok (peekToken_cons (inside ++ m.before) rfl _)]
    show skipMembers fuel _ = _
    exact hskip (by omega) [] rest

mutual

/-- **Every value is passed over**, whatever it stands for. -/
theorem skips : (t : Term) → Skips t
  | .null => skips_null
  | .boolean b => skips_boolean b
  | .number n => skips_number n
  | .text glyphs => skips_text glyphs
  | .array inside items => skips_array (skips_items items) inside
  | .object inside ms => skips_object (skips_members ms) inside

theorem skips_items : (items : List (Item Term)) → ∀ item ∈ items, Skips item.term
  | [], _, h => absurd h List.not_mem_nil
  | ⟨before, t, after⟩ :: items, item, h => by
    rcases List.mem_cons.mp h with rfl | h
    · exact skips t
    · exact skips_items items item h

theorem skips_members : (ms : List (Member Term)) → ∀ m ∈ ms, Skips m.item.term
  | [], _, h => absurd h List.not_mem_nil
  | ⟨before, name, beforeColon, ⟨beforeTerm, t, after⟩⟩ :: ms, m, h => by
    rcases List.mem_cons.mp h with rfl | h
    · exact skips t
    · exact skips_members ms m h

end

theorem reads_skip (t : Term) : Reads skip t () := by
  intro blanks rest hrest
  refine skips t _ ?_ blanks rest hrest
  simp only [List.length_append]
  omega

end Commissioning.Json
