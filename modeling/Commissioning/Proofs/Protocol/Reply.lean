import Commissioning.Proofs.Json.Record
import Commissioning.Protocol.Reply
import Mathlib.Data.List.Nodup

set_option autoImplicit false

/-! # Answers with a payload

However an answer is written down, with its members in any order, members that nobody asked for
between them, and any escapes in its texts, the payload in it is what comes out. -/

namespace Commissioning.Protocol

open Json Json.Reader Json.Grammar

/-! ## Answers that carry a payload -/

/-- Whether a term is an answer with a payload: an object that repeats no member, has no error or
null for one, and has a result whose only payload is the given text. The result may nest as deep
as a value may inside an object. -/
def CarriesPayload (answer : Term) (payload : String) : Prop :=
  ∃ pairs, answer.members? = some pairs ∧ (pairs.map Prod.fst).Nodup ∧
    (∀ t, ("error", t) ∈ pairs → t = .null) ∧
    ∃ t fields, ("result", t) ∈ pairs ∧ t.depth < nesting ∧ t.value? = some (.object fields) ∧
      ∀ v, ("payload", v) ∈ fields ↔ v = .text payload

/-! ## The members of an answer -/

theorem find?_result :
    Reply.fields.find? (fun f => f.name == "result")
      = some (.ofLens "result" false (·.result) (fun d v => { d with result := some v })
          (optional (value (nesting - 1)))) :=
  rfl

theorem find?_error :
    Reply.fields.find? (fun f => f.name == "error")
      = some (.ofLens "error" false (·.error) (fun d e => { d with error := some e })
          (optional CallError.reader)) :=
  rfl

theorem find?_other {name : String} (hresult : name ≠ "result") (herror : name ≠ "error") :
    Reply.fields.find? (fun f => f.name == name) = none := by
  rw [List.find?_eq_none]
  intro f hf
  simp only [Reply.fields, List.mem_cons, List.not_mem_nil, or_false] at hf
  rcases hf with rfl | rfl
  · simpa [Field.ofLens] using hresult.symm
  · simpa [Field.ofLens] using herror.symm

/-- Members whose names differ are read one after another: the result into the draft, an error of
null as none, and the others not at all. -/
theorem fieldRun_reply {pairs : List (String × Term)} (hnodup : (pairs.map Prod.fst).Nodup)
    (hnull : ∀ t, ("error", t) ∈ pairs → t = .null) {v : Value}
    (hresult : ∀ t, ("result", t) ∈ pairs → Reads (optional (value (nesting - 1))) t (some v))
    (d : Reply.Draft) (hfreeResult : "result" ∈ pairs.map Prod.fst → d.result = none)
    (hfreeError : "error" ∈ pairs.map Prod.fst → d.error = none)
    (hnoError : d.error.getD none = none) :
    ∃ d', FieldRun Reply.fields d pairs d' ∧ d'.error.getD none = none ∧
      d'.result = if "result" ∈ pairs.map Prod.fst then some (some v) else d.result := by
  induction pairs generalizing d with
  | nil => exact ⟨d, .nil d, hnoError, by simp⟩
  | cons pair pairs ih =>
    obtain ⟨name, t⟩ := pair
    rw [List.map_cons, List.nodup_cons] at hnodup
    obtain ⟨hfresh, hnodup⟩ := hnodup
    have hrun := ih hnodup (fun t ht => hnull t (List.mem_cons_of_mem _ ht))
      (fun t ht => hresult t (List.mem_cons_of_mem _ ht))
    rw [List.map_cons] at hfreeResult hfreeError ⊢
    -- No later member has the name of this one, so a field that it fills is not met again.
    by_cases hisResult : name = "result"
    · subst hisResult
      have habsent : d.result = none := hfreeResult List.mem_cons_self
      have hread := reads_ofLens "result" false (·.result)
        (fun (d : Reply.Draft) v => { d with result := some v }) (hresult t List.mem_cons_self) d
      obtain ⟨d', hrest, hnone, hend⟩ := hrun { d with result := some (some v) }
        (fun hmem => absurd hmem hfresh)
        (fun hmem => hfreeError (List.mem_cons_of_mem _ hmem)) hnoError
      refine ⟨d', .field find?_result ?_ hread hrest, hnone, ?_⟩
      · simp [Field.ofLens, habsent]
      · rw [hend, if_neg hfresh, if_pos List.mem_cons_self]
    · have hmem : "result" ∈ name :: pairs.map Prod.fst ↔ "result" ∈ pairs.map Prod.fst := by
        rw [List.mem_cons, or_iff_right (Ne.symm hisResult)]
      have hfreeResult' : "result" ∈ pairs.map Prod.fst → d.result = none :=
        fun h => hfreeResult (hmem.mpr h)
      by_cases hisError : name = "error"
      · subst hisError
        have habsent : d.error = none := hfreeError List.mem_cons_self
        obtain rfl : t = .null := hnull t List.mem_cons_self
        have hread := reads_ofLens "error" false (·.error)
          (fun (d : Reply.Draft) e => { d with error := some e })
          (reads_optional_null CallError.reader) d
        obtain ⟨d', hrest, hnone, hend⟩ := hrun { d with error := some none } hfreeResult'
          (fun hmem => absurd hmem hfresh) rfl
        refine ⟨d', .field find?_error ?_ hread hrest, hnone, ?_⟩
        · simp [Field.ofLens, habsent]
        · rw [hend, if_congr hmem rfl rfl]
      · obtain ⟨d', hrest, hnone, hend⟩ := hrun d hfreeResult'
          (fun hmem => hfreeError (List.mem_cons_of_mem _ hmem)) hnoError
        refine ⟨d', .other (find?_other hisResult hisError) hrest, hnone, ?_⟩
        rw [hend, if_congr hmem rfl rfl]

/-! ## The payload -/

theorem member?_of_unique {name : String} {fields : List (String × Value)} {v : Value}
    (h : ∀ w, (name, w) ∈ fields ↔ w = v) : Value.member? name fields = some v := by
  unfold Value.member?
  cases hfind : fields.reverse.find? (fun m => m.1 == name) with
  | none =>
    have hmem := List.mem_reverse.mpr ((h v).mpr rfl)
    have hne := List.find?_eq_none.mp hfind _ hmem
    exact absurd (beq_self_eq_true name) hne
  | some pair =>
    obtain ⟨other, w⟩ := pair
    have hmem := List.mem_reverse.mp (List.mem_of_find?_eq_some hfind)
    obtain rfl : other = name := by simpa using List.find?_some hfind
    rw [Option.map_some, (h w).mp hmem]

/-- The bytes of an object start with its brace, so that nobody takes it for null. -/
theorem reads_optional_object {r : Reader Value} {t : Term} {fields : List (String × Value)}
    (hvalue : t.value? = some (.object fields)) (h : Reads r t (.object fields)) :
    Reads (optional r) t (some (.object fields)) := by
  cases t with
  | object inside ms => exact reads_optional h (by rw [Term.bytes]; rfl) rfl (by decide)
  | null | boolean => simp [Term.value?] at hvalue
  | number | text | array =>
    rw [Term.value?, Option.map_eq_some_iff] at hvalue
    obtain ⟨_, -, hne⟩ := hvalue
    exact absurd hne (by simp)

theorem payload_of_result {fields : List (String × Value)} {payload : String}
    (h : ∀ v, ("payload", v) ∈ fields ↔ v = .text payload) :
    Reply.payload { result := some (.object fields), error := none } = .ok payload := by
  have hmember := member?_of_unique h
  unfold Reply.payload PayloadResult.ofJson
  simp only [hmember]
  rfl

/-- An answer with a payload is read as one with that result and no error. -/
theorem reads_reply {answer : Term} {payload : String} (h : CarriesPayload answer payload) :
    ∃ reply, Reads Reply.reader answer reply ∧ reply.payload = .ok payload := by
  obtain ⟨pairs, hmembers, hnodup, hnull, result, fields, hresult, hdepth, hvalue, hpayload⟩ := h
  have hread : Reads (optional (value (nesting - 1))) result (some (.object fields)) :=
    reads_optional_object hvalue (reads_value result _ _ hvalue (Nat.le_sub_one_of_lt hdepth))
  -- Names are not repeated, so every result of the answer is the one that it carries.
  have honly : ∀ t, ("result", t) ∈ pairs →
      Reads (optional (value (nesting - 1))) t (some (.object fields)) := by
    intro t ht
    have hsame := List.inj_on_of_nodup_map hnodup ht hresult rfl
    rwa [(Prod.mk.inj hsame).2]
  have hmem : "result" ∈ pairs.map Prod.fst := List.mem_map.mpr ⟨_, hresult, rfl⟩
  obtain ⟨d, hrun, hnone, hend⟩ :=
    fieldRun_reply hnodup hnull honly {} (fun _ => rfl) (fun _ => rfl) rfl
  rw [if_pos hmem] at hend
  have hrecord : Reads (record "struct JsonRpcResponse" Reply.fields {}) answer d :=
    reads_record hmembers hrun rfl
  refine ⟨_, fun blanks rest hrest => ?_, payload_of_result hpayload⟩
  unfold Reply.reader
  rw [bind_of_ok (hrecord blanks rest hrest), hnone, hend]
  rfl

/-- **The payload of an answer is what comes out**, whatever else the answer holds. -/
theorem payloadOfResponse_eq_ok {response : Http.Response} {answer : Item Term} {payload : String}
    (hstatus : Http.isSuccess response.status = true) (hwhole : response.isWhole = true)
    (hbody : response.body = answer.bytes) (h : CarriesPayload answer.term payload) :
    payloadOfResponse response = .ok payload := by
  obtain ⟨reply, hreads, hpayload⟩ := reads_reply h
  unfold payloadOfResponse
  simp only [hstatus, hwhole, Bool.not_true, Bool.false_eq_true, if_false, hbody,
    readBytes_of_reads hreads, hpayload]

end Commissioning.Protocol
