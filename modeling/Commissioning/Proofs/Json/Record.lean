import Commissioning.Json.Record
import Commissioning.Proofs.Json.Value

set_option autoImplicit false

/-! # Reading records

A record reads the members of an object in any order: those that it knows into its state, each
once, and all others it passes over. Nothing but blanks may stand around a whole text. -/

namespace Commissioning.Json

open Reader Grammar

variable {α σ : Type}

/-! ## Optional values -/

theorem reads_optional_null (r : Reader α) : Reads (optional r) .null none := by
  intro blanks rest _
  rw [Term.bytes, List.cons_append]
  unfold optional
  rw [bind_of_ok (peekToken_cons blanks rfl _)]
  rfl

/-- A value that does not start like null is read as it would be without the choice. -/
theorem reads_optional {r : Reader α} {t : Term} {a : α} (h : Reads r t a) {b : UInt8}
    {tail : List UInt8} (hbytes : t.bytes = b :: tail) (hblank : isBlank b = false)
    (hb : charOfByte b ≠ 'n') : Reads (optional r) t (some a) := by
  intro blanks rest hrest
  have hread := h.at_once hrest
  have hb : some (charOfByte b) ≠ some 'n' := fun he => hb (Option.some.inj he)
  rw [hbytes, List.cons_append] at hread ⊢
  unfold optional
  rw [bind_of_ok (peekToken_cons blanks hblank _)]
  simp only
  rw [bind_of_ok hread]
  rfl

/-! ## Members of a record -/

theorem reads_ofLens {β : Type} (name : String) (required : Bool) (get : σ → Option β)
    (set : σ → β → σ) {r : Reader β} {t : Term} {b : β} (h : Reads r t b) (s : σ) :
    Reads ((Field.ofLens name required get set r).read s) t (set s b) := by
  intro blanks rest hrest
  show (r >>= fun b => pure (set s b)) _ = _
  rw [bind_of_ok (h blanks rest hrest)]
  rfl

/-- A field is read from behind the colon of its member. -/
theorem takesMember_field {fields : List (Field σ)} {f : Field σ} {s s' : σ} {name : String}
    {m : Member Term} (hfind : fields.find? (fun f => f.name == name) = some f)
    (habsent : f.present s = false) (hread : Reads (f.read s) m.item.term s') :
    TakesMember (fieldMember fields) s name m s' := by
  intro rest hrest
  unfold fieldMember Member.tail
  simp only [hfind, habsent, Bool.false_eq_true, if_false, List.append_assoc, List.cons_append]
  rw [bind_of_ok (colon_bytes m.beforeColon _)]
  exact hread m.item.before rest hrest

/-- A member that no field has the name of is passed over. -/
theorem takesMember_unknown {fields : List (Field σ)} {s : σ} {name : String} {m : Member Term}
    (hfind : fields.find? (fun f => f.name == name) = none) :
    TakesMember (fieldMember fields) s name m s := by
  intro rest hrest
  unfold fieldMember Member.tail
  simp only [hfind, List.append_assoc, List.cons_append]
  rw [bind_of_ok (colon_bytes m.beforeColon _),
    bind_of_ok (reads_skip m.item.term m.item.before rest hrest)]
  rfl

/-- Members that a record reads one after another, each by its name: fields that it does not have
yet, and members that no field has the name of. -/
inductive FieldRun (fields : List (Field σ)) : σ → List (String × Term) → σ → Prop where
  | nil (s : σ) : FieldRun fields s [] s
  | field {s s' s'' : σ} {name : String} {t : Term} {pairs : List (String × Term)} {f : Field σ}
    (hfind : fields.find? (fun f => f.name == name) = some f) (habsent : f.present s = false)
    (hread : Reads (f.read s) t s') (hrest : FieldRun fields s' pairs s'') :
    FieldRun fields s ((name, t) :: pairs) s''
  | other {s s' : σ} {name : String} {t : Term} {pairs : List (String × Term)}
    (hfind : fields.find? (fun f => f.name == name) = none)
    (hrest : FieldRun fields s pairs s') : FieldRun fields s ((name, t) :: pairs) s'

theorem FieldRun.takes {fields : List (Field σ)} {s s' : σ} {pairs : List (String × Term)}
    (h : FieldRun fields s pairs s') {ms : List (Member Term)} (hnamed : named? ms = some pairs) :
    Takes (fieldMember fields) s ms s' := by
  -- The run is over the names and terms of the members, one pair for each.
  induction ms generalizing s pairs with
  | nil =>
    rw [named?, List.mapM_nil, Option.pure_def, Option.some.injEq] at hnamed
    subst hnamed
    cases h
    exact .nil _
  | cons m ms ih =>
    rw [named?, List.mapM_cons] at hnamed
    simp only [Option.bind_eq_bind, Option.bind_eq_some_iff, Option.map_eq_some_iff,
      Option.pure_def, Option.some.injEq] at hnamed
    obtain ⟨_, ⟨name, hname, rfl⟩, pairs, hnamed, rfl⟩ := hnamed
    cases h with
    | field hfind habsent hread hrest =>
      exact .cons hname (takesMember_field hfind habsent hread) (ih hrest hnamed)
    | other hfind hrest => exact .cons hname (takesMember_unknown hfind) (ih hrest hnamed)

/-! ## Records -/

/-- **A record is read from the members of an object** when they lead to a state that misses no
field. -/
theorem reads_record {type : String} {fields : List (Field σ)} {start s : σ} {t : Term}
    {pairs : List (String × Term)} (hmembers : t.members? = some pairs)
    (h : FieldRun fields start pairs s) (hmissing : missing? fields s = none) :
    Reads (record type fields start) t s := by
  obtain ⟨inside, ms, rfl, hnamed⟩ :
      ∃ inside ms, t = .object inside ms ∧ named? ms = some pairs := by
    cases t with
    | object inside ms => exact ⟨inside, ms, rfl, hmembers⟩
    | _ => exact absurd hmembers (by simp [Term.members?])
  have htakes := h.takes hnamed
  intro blanks rest _
  have hinside : fieldsOfMembers fields start
      (blankBytes inside ++ (memberBytes true ms ++ 125 :: rest)) = .ok (s, 125 :: rest) := by
    unfold fieldsOfMembers
    rw [bind_of_ok (members_memberBytes htakes inside rest), hmissing]
    rfl
  have hobject := inObject_bytes hinside
  rw [Term.bytes] at hobject ⊢
  simp only [List.cons_append] at hobject ⊢
  unfold record
  rw [bind_of_ok (peekToken_cons blanks rfl _)]
  exact hobject

/-! ## Whole texts -/

/-- The bytes of a whole text: a value with the blanks around it. -/
def Grammar.Item.bytes (text : Item Term) : List UInt8 :=
  blankBytes text.before ++ text.term.bytes ++ blankBytes text.after

theorem readBytes_of_reads {r : Reader α} {text : Item Term} {a : α} (h : Reads r text.term a) :
    r.readBytes text.bytes = .ok a := by
  have hread : r text.bytes = .ok (a, blankBytes text.after) := by
    have hrest := delimited_blankBytes text.after delimited_nil
    have hread := h text.before _ hrest
    rwa [List.append_nil, ← List.append_assoc] at hread
  have hend : peekToken (blankBytes text.after) = .ok (none, []) := by
    have hend := peekToken_blankBytes text.after solid_nil
    rwa [List.append_nil] at hend
  have hcomplete : r.complete text.bytes = .ok (a, []) := by
    unfold complete
    rw [bind_of_ok hread, bind_of_ok hend]
    rfl
  unfold readBytes
  rw [hcomplete]

end Commissioning.Json
