import Commissioning.Proofs.Json.Record
import Commissioning.Proofs.Json.Taken.Record

set_option autoImplicit false

/-! # What typed readers make of values

A typed reader decides on the value that a text stands for: what it makes of the text is a function
of the value, whatever the blanks, the escapes and the order of the members. Faults are forgotten
on both sides, so that a reader refuses exactly where the function gives nothing. -/

namespace Commissioning.Json

open Reader Grammar

variable {α β σ : Type}

/-- Whether a reader makes of every term that stands for a value of a domain, nested no deeper than
allowed, what a function makes of the value. -/
def Means (depth : Nat) (domain : Value → Prop) (r : Reader α) (f : Value → Option α) : Prop :=
  ∀ t v, StandsFor depth t v → domain v → ∀ blanks rest, Delimited rest →
    (r (blankBytes blanks ++ (t.bytes ++ rest))).toOption = (f v).map (·, rest)

/-- On a part of the domain the function may be another one that agrees there. -/
theorem Means.congr {depth : Nat} {domain domain' : Value → Prop} {r : Reader α}
    {f f' : Value → Option α} (hr : Means depth domain r f)
    (h : ∀ v, domain' v → domain v ∧ f v = f' v) : Means depth domain' r f' := by
  intro t v hstands hdomain
  obtain ⟨hdomain, heq⟩ := h v hdomain
  rw [← heq]
  exact hr t v hstands hdomain

/-! ## Outcomes without their faults -/

theorem toOption_of_ok {r : Reader α} {bytes rest : List UInt8} {a : α}
    (h : r bytes = .ok (a, rest)) : (r bytes).toOption = some (a, rest) := by
  rw [h]
  rfl

theorem eq_ok_of_toOption {ε : Type} {x : Except ε α} {a : α} (h : x.toOption = some a) :
    x = .ok a := by
  cases x with
  | error e => exact absurd h (by simp [Except.toOption])
  | ok b => rw [Option.some.inj h]

theorem toOption_bind (r : Reader α) (f : α → Reader β) (bytes : List UInt8) :
    ((r >>= f) bytes).toOption
      = (r bytes).toOption.bind fun p => (f p.1 p.2).toOption := by
  show (Reader.bind r f bytes).toOption = _
  unfold Reader.bind
  cases r bytes <;> rfl

theorem toOption_eq_none {r : Reader α} {bytes : List UInt8}
    (h : ∀ a rest, r bytes ≠ .ok (a, rest)) : (r bytes).toOption = none := by
  cases hr : r bytes with
  | error fault => rfl
  | ok pair => exact absurd hr (h pair.1 pair.2)

theorem toOption_unexpected (expected : String) (bytes : List UInt8) :
    (unexpected expected bytes : Except Fault (α × List UInt8)).toOption = none :=
  toOption_eq_none fun _ _ => unexpected_ne_ok

theorem toOption_enclosed (inside : Reader α) (close : Reader Unit)
    (past : List UInt8 → List UInt8) (bytes : List UInt8) :
    (enclosed inside close past bytes).toOption
      = (inside bytes).toOption.bind fun p => (close p.2).toOption.map fun q => (p.1, q.2) := by
  unfold enclosed
  cases inside bytes with
  | error fault => rfl
  | ok p =>
    simp only
    cases hclose : close p.2 <;> simp [hclose, Except.toOption]

/-! ## What the first byte says -/

/-- What the first byte of a term says about the value of the term. -/
structure Announces (b : UInt8) (v : Value) : Prop where
  notBlank : isBlank b = false
  null : charOfByte b = 'n' → v = .null
  text : charOfByte b = '"' → ∃ s, v = .text s
  array : charOfByte b = '[' → ∃ items, v = .array items
  object : charOfByte b = '{' → ∃ members, v = .object members
  number : charOfByte b = '-' ∨ (charOfByte b).isDigit = true → ∃ x, v = .number x

theorem Grammar.Term.announces {t : Term} {v : Value} (h : t.value? = some v) :
    ∃ b tail, t.bytes = b :: tail ∧ Announces b v := by
  cases t with
  | null =>
    obtain rfl := Option.some.inj h
    refine ⟨_, _, rfl, rfl, fun _ => rfl, ?_, ?_, ?_, ?_⟩ <;> exact fun hb => absurd hb (by decide)
  | boolean b =>
    obtain rfl := Option.some.inj h
    cases b <;> refine ⟨_, _, rfl, rfl, ?_, ?_, ?_, ?_, ?_⟩ <;>
      exact fun hb => absurd hb (by decide)
  | number n =>
    rw [Term.value?, Option.map_eq_some_iff] at h
    obtain ⟨x, -, rfl⟩ := h
    obtain ⟨b, tail, hbytes, hstart, -⟩ := n.bytes_eq_cons
    refine ⟨b, tail, hbytes, hstart.notBlank, ?_, ?_, ?_, ?_, fun _ => ⟨x, rfl⟩⟩
    · exact fun hb => absurd hb hstart.notNull
    · exact fun hb => absurd hb hstart.notQuote
    · exact fun hb => absurd hb hstart.notBracket
    · exact fun hb => absurd hb hstart.notBrace
  | text glyphs =>
    rw [Term.value?, Option.map_eq_some_iff] at h
    obtain ⟨s, -, rfl⟩ := h
    refine ⟨_, _, rfl, rfl, ?_, fun _ => ⟨s, rfl⟩, ?_, ?_, ?_⟩ <;>
      exact fun hb => absurd hb (by decide)
  | array inside items =>
    rw [Term.value?, Option.map_eq_some_iff] at h
    obtain ⟨values, -, rfl⟩ := h
    refine ⟨_, _, rfl, rfl, ?_, ?_, fun _ => ⟨values, rfl⟩, ?_, ?_⟩ <;>
      exact fun hb => absurd hb (by decide)
  | object inside ms =>
    rw [Term.value?, Option.map_eq_some_iff] at h
    obtain ⟨pairs, -, rfl⟩ := h
    refine ⟨_, _, rfl, rfl, ?_, ?_, ?_, fun _ => ⟨pairs, rfl⟩, ?_⟩ <;>
      exact fun hb => absurd hb (by decide)

theorem Grammar.Term.value?_eq_null {t : Term} (h : t.value? = some .null) : t = .null := by
  cases t <;> simp_all [Term.value?]

theorem Grammar.Term.value?_eq_text {t : Term} {s : String} (h : t.value? = some (.text s)) :
    ∃ glyphs, t = .text glyphs ∧ text? glyphs = some s := by
  cases t <;> simp_all [Term.value?]

theorem Grammar.Term.value?_eq_number {t : Term} {x : Number} (h : t.value? = some (.number x)) :
    ∃ n, t = .number n ∧ n.number? = some x := by
  cases t <;> simp_all [Term.value?]

theorem Grammar.Term.value?_eq_array {t : Term} {values : List Value}
    (h : t.value? = some (.array values)) :
    ∃ inside items, t = .array inside items ∧ itemValues? items = some values := by
  cases t <;> simp_all [Term.value?]

theorem Grammar.Term.value?_eq_object {t : Term} {pairs : List (String × Value)}
    (h : t.value? = some (.object pairs)) :
    ∃ inside ms, t = .object inside ms ∧ memberValues? ms = some pairs := by
  cases t <;> simp_all [Term.value?]

/-! ## Single values -/

theorem means_value (depth : Nat) : Means depth (fun _ => True) (value depth) some := by
  intro t v ⟨hvalue, hdepth⟩ _ blanks rest hrest
  exact toOption_of_ok (reads_value t depth v hvalue hdepth blanks rest hrest)

/-- The text that a value is. -/
def Value.text? : Value → Option String
  | .text s => some s
  | _ => none

theorem Value.text?_eq_some {v : Value} {s : String} : v.text? = some s ↔ v = .text s := by
  cases v <;> simp [text?]

theorem means_textAs (depth : Nat) (expected : String) :
    Means depth (fun _ => True) (textAs expected) Value.text? := by
  intro t v hstands _ blanks rest _
  have hvalue := hstands.1
  obtain ⟨b, tail, hbytes, hb⟩ := Term.announces hvalue
  have hahead := peekToken_cons blanks hb.notBlank (tail ++ rest)
  by_cases hquote : charOfByte b = '"'
  · obtain ⟨s, rfl⟩ := hb.text hquote
    obtain ⟨glyphs, rfl, hglyphs⟩ := Term.value?_eq_text hvalue
    have hread := quotedText_quotedBytes hglyphs rest
    rw [Term.bytes] at hbytes ⊢
    rw [hbytes, List.cons_append] at hread ⊢
    refine toOption_of_ok ?_
    rw [textAs, bind_of_ok hahead, hquote]
    exact hread
  · have hnone : v.text? = none := by
      cases v with
      | text s =>
        obtain ⟨glyphs, rfl, -⟩ := Term.value?_eq_text hvalue
        obtain ⟨rfl, -⟩ := List.cons.inj hbytes
        exact absurd rfl hquote
      | _ => rfl
    have hb : some (charOfByte b) ≠ some '"' := fun he => hquote (Option.some.inj he)
    rw [hbytes, List.cons_append, textAs, toOption_bind, hahead, hnone]
    simp only [Except.toOption, Option.bind_some, Option.map_none]
    exact toOption_unexpected expected _

/-- What has been read is what a function makes of it. -/
theorem Means.map {depth : Nat} {domain : Value → Prop} {r : Reader α} {f : Value → Option α}
    (hr : Means depth domain r f) (g : α → β) :
    Means depth domain (r >>= fun a => pure (g a)) fun v => (f v).map g := by
  intro t v hstands hdomain blanks rest hrest
  rw [toOption_bind, hr t v hstands hdomain blanks rest hrest]
  show _ = ((f v).map g).map (·, rest)
  cases f v <;> rfl

/-- What an optional value is: nothing for null, and what the value is otherwise. -/
def Value.optional? (f : Value → Option α) : Value → Option (Option α)
  | .null => some none
  | v => (f v).map some

theorem Value.optional?_of_ne_null (f : Value → Option α) {v : Value} (h : v ≠ .null) :
    optional? f v = (f v).map some := by
  cases v with
  | null => exact absurd rfl h
  | _ => rfl

theorem means_optional {depth : Nat} {domain : Value → Prop} {r : Reader α}
    {f : Value → Option α} (hr : Means depth domain r f) :
    Means depth domain (optional r) (Value.optional? f) := by
  intro t v hstands hdomain blanks rest hrest
  obtain ⟨b, tail, hbytes, hb⟩ := Term.announces hstands.1
  by_cases hnull : v = .null
  · subst hnull
    obtain rfl := Term.value?_eq_null hstands.1
    exact toOption_of_ok (reads_optional_null r blanks rest hrest)
  · have hread := hr t v hstands hdomain [] rest hrest
    have hn : some (charOfByte b) ≠ some 'n' := fun he => hnull (hb.null (Option.some.inj he))
    rw [blankBytes, List.map_nil, List.nil_append, hbytes, List.cons_append] at hread
    rw [hbytes, List.cons_append, Value.optional?_of_ne_null f hnull, Json.optional,
      bind_of_ok (peekToken_cons blanks hb.notBlank _)]
    simp only
    rw [toOption_bind, hread]
    cases f v <;> rfl

/-- A value that has been read and is then put into a state. -/
theorem means_ofLens {depth : Nat} {domain : Value → Prop} {r : Reader β} {f : Value → Option β}
    (hr : Means depth domain r f) (name : String) (required : Bool) (get : σ → Option β)
    (set : σ → β → σ) (s : σ) :
    Means depth domain ((Field.ofLens name required get set r).read s)
      fun v => (f v).map (set s) :=
  hr.map (set s)

/-! ## Elements -/

/-- The elements of an array are read up to the first one that is refused. -/
theorem elementsWithin_means {depth : Nat} {r : Reader α} {f : Value → Option α}
    (hr : Means depth (fun _ => True) r f) {items : List (Item Term)} {values : List Value}
    (hvalues : itemValues? items = some values) (hdepth : itemDepth items ≤ depth) (fuel : Nat)
    (hfuel : items.length < fuel) (first : Bool) (lead : List Blank) (rest : List UInt8) :
    (elementsWithin r fuel first
        (blankBytes lead ++ (itemBytes first items ++ 93 :: rest))).toOption
      = (values.mapM f).map (·, 93 :: rest) := by
  induction items generalizing values fuel first lead with
  | nil =>
    obtain rfl := Option.some.inj hvalues
    obtain ⟨fuel, rfl⟩ : ∃ n, fuel = n + 1 := ⟨fuel - 1, by omega⟩
    rw [elementsWithin, itemBytes, List.nil_append, bind_of_ok (nextElement_end first lead rest)]
    rfl
  | cons item items ih =>
    rw [List.length_cons] at hfuel
    obtain ⟨fuel, rfl⟩ : ∃ n, fuel = n + 1 := ⟨fuel - 1, by omega⟩
    obtain ⟨v, values, hvalue, hrest, rfl⟩ : ∃ v more, item.term.value? = some v ∧
        itemValues? items = some more ∧ values = v :: more := by
      obtain ⟨before, t, after⟩ := item
      rw [itemValues?] at hvalues
      simp only [Option.bind_eq_bind, Option.bind_eq_some_iff, Option.pure_def,
        Option.some.injEq] at hvalues
      obtain ⟨v, hvalue, more, hmore, rfl⟩ := hvalues
      exact ⟨v, more, hvalue, hmore, rfl⟩
    rw [show itemDepth (item :: items) = max item.term.depth (itemDepth items) from rfl] at hdepth
    have hread := hr item.term v ⟨hvalue, by omega⟩ trivial [] _
      (delimited_itemBytes item.after items rest)
    rw [blankBytes, List.map_nil, List.nil_append] at hread
    rw [elementsWithin, itemBytes_cons]
    simp only [List.append_assoc]
    rw [bind_of_ok (nextElement_bytes first lead item.before item.term _)]
    simp only [if_true]
    rw [toOption_bind, hread, List.mapM_cons]
    cases f v with
    | none => rfl
    | some a =>
      simp only [Option.map_some, Option.bind_some]
      rw [toOption_bind, ih hrest (by omega) fuel (by omega) false item.after]
      cases values.mapM f <;> rfl

/-- The texts that a value lists. -/
def Value.texts? : Value → Option (List String)
  | .array items => items.mapM Value.text?
  | _ => none

theorem means_texts (depth : Nat) : Means (depth + 1) (fun _ => True) texts Value.texts? := by
  intro t v hstands _ blanks rest _
  obtain ⟨b, tail, hbytes, hb⟩ := Term.announces hstands.1
  by_cases harray : ∃ items, v = .array items
  · obtain ⟨values, rfl⟩ := harray
    obtain ⟨inside, items, rfl, hvalues⟩ := Term.value?_eq_array hstands.1
    have hinside :
        (elements text (blankBytes inside ++ (itemBytes true items ++ 93 :: rest))).toOption
          = (values.mapM Value.text?).map (·, 93 :: rest) := by
      refine elementsWithin_means (means_textAs depth _) hvalues
        (Nat.le_of_succ_le_succ hstands.2) _ ?_ true inside rest
      have hle := length_le_itemBytes true items
      simp only [List.length_append]
      omega
    rw [Term.bytes]
    simp only [List.append_assoc, List.cons_append, List.nil_append]
    unfold texts inArray
    rw [bind_of_ok (peekToken_cons blanks rfl _)]
    show ((advance >>= fun _ => enclosed (elements text) closeArray pastArray) _).toOption = _
    rw [bind_of_ok (advance_cons _ _), toOption_enclosed, hinside, Value.texts?]
    cases values.mapM Value.text? <;> rfl
  · have hnone : v.texts? = none := by
      cases v with
      | array items => exact absurd ⟨items, rfl⟩ harray
      | _ => rfl
    rw [hbytes, List.cons_append, hnone]
    refine toOption_eq_none fun list rest' hread => ?_
    rw [texts, bind_eq_ok] at hread
    obtain ⟨ahead, mid, hpeek, hread⟩ := hread
    rw [peekToken_cons blanks hb.notBlank] at hpeek
    obtain ⟨hahead, -⟩ := Prod.mk.inj (Except.ok.inj hpeek)
    split at hread
    · exact absurd hread (by simp)
    · exact harray (hb.array (Option.some.inj hahead))
    · exact unexpected_ne_ok hread

/-! ## Members -/

/-- Whether a reader makes of every member whose value is in the domain of its name what a step
makes of the name and the value. -/
def MemberMeans (depth : Nat) (domain : String → Value → Prop) (member : σ → String → Reader σ)
    (step : σ → String × Value → Option σ) : Prop :=
  ∀ s name (m : Member Term) v, StandsFor depth m.item.term v → domain name v →
    ∀ rest, Delimited rest →
      (member s name (m.tail ++ rest)).toOption = (step s (name, v)).map (·, rest)

/-- The members of an object are read as the steps from the first state on, up to the first member
that is refused. -/
theorem membersWithin_means {member : σ → String → Reader σ} {step : σ → String × Value → Option σ}
    {depth : Nat} {domain : String → Value → Prop} (hmember : MemberMeans depth domain member step)
    {ms : List (Member Term)} {pairs : List (String × Value)}
    (hvalues : memberValues? ms = some pairs) (hdepth : memberDepth ms ≤ depth)
    (hdomain : ∀ p ∈ pairs, domain p.1 p.2) (s : σ) (fuel : Nat) (hfuel : ms.length < fuel)
    (first : Bool) (lead : List Blank) (rest : List UInt8) :
    (membersWithin member fuel first s
        (blankBytes lead ++ (memberBytes first ms ++ 125 :: rest))).toOption
      = (pairs.foldlM step s).map (·, 125 :: rest) := by
  induction ms generalizing pairs s fuel first lead with
  | nil =>
    obtain rfl := Option.some.inj hvalues
    obtain ⟨fuel, rfl⟩ : ∃ n, fuel = n + 1 := ⟨fuel - 1, by omega⟩
    rw [membersWithin, memberBytes, List.nil_append, bind_of_ok (nextMember_end first lead rest)]
    rfl
  | cons m ms ih =>
    rw [List.length_cons] at hfuel
    obtain ⟨fuel, rfl⟩ : ∃ n, fuel = n + 1 := ⟨fuel - 1, by omega⟩
    obtain ⟨name, v, pairs, hname, hvalue, hrest, rfl⟩ : ∃ name v more, text? m.name = some name ∧
        m.item.term.value? = some v ∧ memberValues? ms = some more ∧
        pairs = (name, v) :: more := by
      obtain ⟨before, glyphs, beforeColon, ⟨beforeTerm, t, after⟩⟩ := m
      rw [memberValues?] at hvalues
      simp only [Option.bind_eq_bind, Option.bind_eq_some_iff, Option.pure_def,
        Option.some.injEq] at hvalues
      obtain ⟨name, hname, v, hvalue, more, hmore, rfl⟩ := hvalues
      exact ⟨name, v, more, hname, hvalue, hmore, rfl⟩
    rw [show memberDepth (m :: ms) = max m.item.term.depth (memberDepth ms) from rfl] at hdepth
    have hstands : StandsFor depth m.item.term v := ⟨hvalue, by omega⟩
    have hread := hmember s name m v hstands (hdomain _ List.mem_cons_self) _
      (delimited_memberBytes m.item.after ms rest)
    have hnext := nextMember_bytes first lead m.before (glyphBytes m.name ++ ([34] ++ (m.tail
      ++ (blankBytes m.item.after ++ (memberBytes false ms ++ 125 :: rest)))))
    have hmemberName := memberName_quotedBytes hname (m.tail
      ++ (blankBytes m.item.after ++ (memberBytes false ms ++ 125 :: rest)))
    rw [membersWithin, memberBytes_cons]
    simp only [quotedBytes, List.append_assoc, List.cons_append] at hnext hmemberName hread ⊢
    rw [bind_of_ok hnext]
    simp only [if_true]
    rw [bind_of_ok hmemberName, toOption_bind, hread, List.foldlM_cons]
    cases step s (name, v) with
    | none => rfl
    | some s' =>
      exact ih hrest (by omega) (fun p hp => hdomain p (List.mem_cons_of_mem _ hp)) s' fuel
        (by omega) false m.item.after

/-! ## Records -/

/-- What a record makes of a member of an object: a field takes the state further, once, and any
other member leaves the state as it is. -/
def recordStep (fields : List (Field σ)) (sense : String → σ → Value → Option σ) (s : σ)
    (member : String × Value) : Option σ :=
  match fields.find? fun f => f.name == member.1 with
  | some f => if f.present s then none else sense member.1 s member.2
  | none => some s

/-- A member that is no field is passed over. -/
theorem recordStep_of_not_mem {fields : List (Field σ)} {name : String}
    (h : name ∉ fields.map (·.name)) (sense : String → σ → Value → Option σ) (s : σ) (v : Value) :
    recordStep fields sense s (name, v) = some s := by
  have hnone : fields.find? (fun f => f.name == name) = none := by
    rw [List.find?_eq_none]
    intro f hf hsame
    exact h (List.mem_map.mpr ⟨f, hf, beq_iff_eq.mp hsame⟩)
  unfold recordStep
  simp only [hnone]

/-- What a record makes of a value. -/
def recordOf (fields : List (Field σ)) (sense : String → σ → Value → Option σ) (start : σ) :
    Value → Option σ
  | .object pairs =>
    (pairs.foldlM (recordStep fields sense) start).filter fun s => (missing? fields s).isNone
  | _ => none

/-- Members that are no fields may be left out. -/
theorem recordOf_filter {fields : List (Field σ)} {p : String → Bool}
    (h : ∀ name, p name = false → name ∉ fields.map (·.name))
    (sense : String → σ → Value → Option σ) (start : σ) (pairs : List (String × Value)) :
    recordOf fields sense start (.object (pairs.filter fun pair => p pair.1))
      = recordOf fields sense start (.object pairs) := by
  have hfold : ∀ s, (pairs.filter fun pair => p pair.1).foldlM (recordStep fields sense) s
      = pairs.foldlM (recordStep fields sense) s := by
    induction pairs with
    | nil => exact fun s => rfl
    | cons pair pairs ih =>
      intro s
      obtain ⟨name, v⟩ := pair
      rw [List.filter_cons, List.foldlM_cons]
      by_cases hname : p name = true
      · simp only [hname, if_true, List.foldlM_cons, ih]
      · have hnot := h name (by simpa using hname)
        rw [if_neg hname, recordStep_of_not_mem hnot, ih]
        rfl
  rw [recordOf, recordOf, hfold]

/-- Whether a value is no array and, if it is an object, has members of a domain. -/
def RecordDomain (domain : String → Value → Prop) (v : Value) : Prop :=
  (∀ items, v ≠ .array items) ∧ ∀ pairs, v = .object pairs → ∀ p ∈ pairs, domain p.1 p.2

theorem memberMeans_fieldMember {depth : Nat} {domain : String → Value → Prop}
    {fields : List (Field σ)} {sense : String → σ → Value → Option σ}
    (hfields : ∀ f ∈ fields, ∀ s, Means depth (domain f.name) (f.read s) (sense f.name s)) :
    MemberMeans depth domain (fieldMember fields) (recordStep fields sense) := by
  intro s name m v hstands hdomain rest hrest
  have hcolon := colon_bytes m.beforeColon (blankBytes m.item.before ++ (m.item.term.bytes ++ rest))
  unfold fieldMember recordStep Member.tail
  simp only [List.append_assoc, List.cons_append]
  cases hfind : fields.find? (fun f => f.name == name) with
  | none =>
    simp only
    rw [bind_of_ok hcolon, bind_of_ok (reads_skip m.item.term m.item.before rest hrest)]
    rfl
  | some f =>
    obtain rfl : f.name = name := by simpa using List.find?_some hfind
    simp only
    split
    · rfl
    · rw [bind_of_ok hcolon]
      exact hfields f (List.mem_of_find?_eq_some hfind) s _ v hstands hdomain m.item.before rest
        hrest

theorem toOption_inObject {inner : Reader α} {ms : List (Member Term)} {inside : List Blank}
    {rest : List UInt8} {outcome : Option α}
    (h : (inner (blankBytes inside ++ (memberBytes true ms ++ 125 :: rest))).toOption
      = outcome.map (·, 125 :: rest)) :
    (inObject inner ((Term.object inside ms).bytes ++ rest)).toOption
      = outcome.map (·, rest) := by
  rw [Term.bytes]
  simp only [List.append_assoc, List.cons_append, List.nil_append]
  unfold inObject
  rw [bind_of_ok (advance_cons _ _), toOption_enclosed, h]
  cases outcome <;> rfl

theorem toOption_fieldsOfMembers {depth : Nat} {domain : String → Value → Prop}
    {fields : List (Field σ)} {sense : String → σ → Value → Option σ}
    (hfields : ∀ f ∈ fields, ∀ s, Means depth (domain f.name) (f.read s) (sense f.name s))
    {ms : List (Member Term)} {pairs : List (String × Value)}
    (hvalues : memberValues? ms = some pairs) (hdepth : memberDepth ms ≤ depth)
    (hdomain : ∀ p ∈ pairs, domain p.1 p.2) (start : σ) (inside : List Blank)
    (rest : List UInt8) :
    (fieldsOfMembers fields start
        (blankBytes inside ++ (memberBytes true ms ++ 125 :: rest))).toOption
      = (recordOf fields sense start (.object pairs)).map (·, 125 :: rest) := by
  have hlength : ms.length
      < (blankBytes inside ++ (memberBytes true ms ++ 125 :: rest)).length + 1 := by
    have hle := length_le_memberBytes true ms
    simp only [List.length_append]
    omega
  have hmembers := membersWithin_means (memberMeans_fieldMember hfields) hvalues hdepth hdomain
    start _ hlength true inside rest
  rw [fieldsOfMembers, toOption_bind]
  show (Except.toOption (membersWithin _ _ _ _ _)).bind _ = _
  rw [hmembers, recordOf]
  cases pairs.foldlM (recordStep fields sense) start with
  | none => rfl
  | some s =>
    simp only [Option.map_some, Option.bind_some, Option.filter_some]
    cases missing? fields s <;> rfl

/-- **A record is read from the values of its members.** -/
theorem means_record {depth : Nat} {domain : String → Value → Prop} {fields : List (Field σ)}
    {sense : String → σ → Value → Option σ}
    (hfields : ∀ f ∈ fields, ∀ s, Means depth (domain f.name) (f.read s) (sense f.name s))
    (type : String) (start : σ) :
    Means (depth + 1) (RecordDomain domain) (record type fields start)
      (recordOf fields sense start) := by
  intro t v hstands hdomain blanks rest hrest
  obtain ⟨b, tail, hbytes, hb⟩ := Term.announces hstands.1
  by_cases hobject : ∃ pairs, v = .object pairs
  · obtain ⟨pairs, rfl⟩ := hobject
    obtain ⟨inside, ms, rfl, hvalues⟩ := Term.value?_eq_object hstands.1
    have hread := toOption_inObject (toOption_fieldsOfMembers hfields hvalues
      (Nat.le_of_succ_le_succ hstands.2) (hdomain.2 pairs rfl) start inside rest)
    rw [Term.bytes] at hread ⊢
    simp only [List.cons_append] at hread ⊢
    unfold record
    rw [bind_of_ok (peekToken_cons blanks rfl _)]
    exact hread
  · have hnone : recordOf fields sense start v = none := by
      cases v with
      | object pairs => exact absurd ⟨pairs, rfl⟩ hobject
      | _ => rfl
    rw [hbytes, List.cons_append, hnone]
    refine toOption_eq_none fun s rest' hread => ?_
    rw [record, bind_eq_ok] at hread
    obtain ⟨ahead, mid, hpeek, hread⟩ := hread
    rw [peekToken_cons blanks hb.notBlank] at hpeek
    obtain ⟨hahead, -⟩ := Prod.mk.inj (Except.ok.inj hpeek)
    split at hread
    · exact absurd hread (by simp)
    · exact hobject (hb.object (Option.some.inj hahead))
    · obtain ⟨items, rfl⟩ := hb.array (Option.some.inj hahead)
      exact hdomain.1 items rfl
    · exact unexpected_ne_ok hread

/-! ## Whole texts -/

/-- What is made of a whole text is what is made of the value that it stands for. -/
theorem readBytes_means {depth : Nat} {domain : Value → Prop} {r : Reader α} {f : Value → Option α}
    (hr : Means depth domain r f) {text : Item Term} {v : Value}
    (hstands : StandsFor depth text.term v) (hv : domain v) :
    (r.readBytes text.bytes).toOption = f v := by
  have hread := hr text.term v hstands hv text.before _
    (delimited_blankBytes text.after delimited_nil)
  rw [List.append_nil, ← List.append_assoc] at hread
  have hend : peekToken (blankBytes text.after) = .ok (none, []) := by
    have hend := peekToken_blankBytes text.after solid_nil
    rwa [List.append_nil] at hend
  have hcomplete : (r.complete text.bytes).toOption = (f v).map (·, []) := by
    rw [complete, toOption_bind, Item.bytes, hread]
    cases f v with
    | none => rfl
    | some a =>
      simp only [Option.map_some, Option.bind_some]
      rw [bind_of_ok hend]
      rfl
  unfold readBytes
  cases hr : r.complete text.bytes with
  | error fault =>
    rw [hr] at hcomplete
    cases hf : f v with
    | none => rfl
    | some a => exact absurd hcomplete (by simp [hf, Except.toOption])
  | ok pair =>
    rw [hr] at hcomplete
    cases hf : f v with
    | none => exact absurd hcomplete (by simp [hf, Except.toOption])
    | some a =>
      rw [hf] at hcomplete
      obtain rfl := Option.some.inj hcomplete
      rfl

/-- What is made of a text that has been read as a value is what is made of the value. -/
theorem read_means {domain : Value → Prop} {r : Reader α} {f : Value → Option α}
    (hr : Means nesting domain r f) {text : String} {v : Value} (h : parse text = .ok v)
    (hv : domain v) : (r.read text).toOption = f v := by
  obtain ⟨item, hbytes, hstands⟩ := readBytes_eq_ok (recognises_value nesting) h
  rw [Reader.read, hbytes]
  exact readBytes_means hr hstands hv

end Commissioning.Json
