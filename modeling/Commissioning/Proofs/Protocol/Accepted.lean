import Commissioning.Proofs.Protocol.Classification
import Commissioning.Proofs.Sequence

set_option autoImplicit false

/-! # Answers that are accepted

The converse of `Proofs.Protocol.Reply`: what the body of a response is when a payload has come out
of it. Records are read from objects and from arrays alike, and nobody looks for UTF-8 in what is
passed over, so there are a few more shapes than the one that backends write
(`Service.eq_ok_of_outcome`). -/

namespace Commissioning.Protocol

open Json Json.Grammar

/-! ## Results -/

/-- Whether a value gives a payload: as the member of an object, or as the only element of an
array. -/
def GivesPayload (v : Value) (payload : String) : Prop :=
  IsPayload v payload ∨ v = .array [.text payload]

theorem PayloadResult.payloadOf_eq_ok {v : Value} {payload : String} :
    payloadOf v = .ok payload ↔ v = .text payload := by
  cases v <;> simp [payloadOf]

theorem PayloadResult.ofJson_eq_ok_iff {v : Value} {payload : String} :
    ofJson v = .ok ⟨payload⟩ ↔ GivesPayload v payload := by
  by_cases harray : ∃ items, v = .array items
  · obtain ⟨items, rfl⟩ := harray
    have hnot : ¬ IsPayload (.array items) payload := by
      rintro ⟨fields, hfields, -⟩
      exact absurd hfields (by simp)
    rw [GivesPayload, or_iff_right hnot, Value.array.injEq]
    cases items with
    | nil => simp [ofJson]
    | cons w rest =>
      have hread : ofJson (.array (w :: rest)) = .ok ⟨payload⟩
          ↔ ∃ s, payloadOf w = .ok s ∧ (if rest.isEmpty then .ok ⟨s⟩ else
            .error (.wrongLength (rest.length + 1) "fewer elements in array"))
              = (.ok ⟨payload⟩ : Except Reason PayloadResult) :=
        bind_eq_ok_iff
      rw [hread]
      cases rest <;> simp [payloadOf_eq_ok]
  · have hnot : ∀ items, v ≠ .array items := fun items heq => harray ⟨items, heq⟩
    rw [GivesPayload, or_iff_left (hnot _)]
    exact ofJson_eq_ok hnot

theorem Reply.payload_eq_ok_iff {r : Reply} {payload : String} :
    r.payload = .ok payload ↔ r.error = none ∧ ∃ v, r.result = some v ∧ GivesPayload v payload := by
  obtain ⟨result, error⟩ := r
  cases error with
  | some e => simp [Reply.payload]
  | none =>
    cases result with
    | none => simp [Reply.payload]
    | some v =>
      simp only [Reply.payload, true_and, Option.some.injEq, exists_eq_left',
        ← PayloadResult.ofJson_eq_ok_iff]
      cases PayloadResult.ofJson v with
      | ok r => cases r with | mk s => simp
      | error reason => simp

/-! ## Answers -/

/-- Whether the result of an answer is given by a term, and no error is given but null. -/
def GivesResult (answer result : Term) : Prop :=
  FilledBy "result" "error" answer [result] [] ∨ FilledBy "result" "error" answer [result] [.null]

/-- A slot that has come out empty was filled by null if at all. -/
theorem eq_null_of_slotRun {α : Type} {allowed : Term → α → Prop} {ts : List Term}
    {x : Option (Option α)} (h : SlotRun (OrNull allowed) ts none x) (hx : x.getD none = none) :
    ts = [] ∨ ts = [.null] := by
  cases h with
  | unfilled => exact .inl rfl
  | filled hterm =>
    cases hterm with
    | null => exact .inr rfl
    | given => exact absurd hx (by simp)

/-- A slot with something in it was filled by a term for it. -/
theorem exists_term_of_slotRun {α : Type} {allowed : Term → α → Prop} {ts : List Term}
    {x : Option (Option α)} {a : α} (h : SlotRun (OrNull allowed) ts none x)
    (hx : x.getD none = some a) : ∃ t, ts = [t] ∧ allowed t a := by
  cases h with
  | unfilled => exact absurd hx (by simp)
  | filled hterm =>
    cases hterm with
    | null => exact absurd hx (by simp)
    | given hterm =>
      obtain rfl : _ = a := Option.some.inj hx
      exact ⟨_, rfl, hterm⟩

/-- An answer with a payload was filled by a result that gives it, and by no error. -/
theorem Reply.result_of_payload {t : Term} {r : Reply} {payload : String} (h : FilledFrom t r)
    (hpayload : r.payload = .ok payload) :
    ∃ result v, GivesResult t result ∧ result.value? = some v ∧ GivesPayload v payload := by
  obtain ⟨ts, us, result, error, hfilled, rfl, hts, hus⟩ := h
  obtain ⟨hnoError, v, hresult, hgives⟩ := payload_eq_ok_iff.mp hpayload
  obtain ⟨result, rfl, hstands⟩ := exists_term_of_slotRun hts hresult
  refine ⟨result, v, ?_, hstands.1, hgives⟩
  rcases eq_null_of_slotRun hus hnoError with rfl | rfl
  · exact .inl hfilled
  · exact .inr hfilled

/-! ## Responses -/

/-- A response that has been accepted: it has a success status, has been read to its end, and its
body is taken for an answer with the payload. -/
structure Accepts (response : Http.Response) (payload : String) : Prop where
  status : 200 ≤ response.status ∧ response.status ≤ 299
  isWhole : response.isWhole = true
  body : ∃ answer : Item Term, Mended response.body answer.bytes ∧
    ∃ result v, GivesResult answer.term result ∧ result.value? = some v ∧ GivesPayload v payload

theorem accepts_of_payloadOfResponse {response : Http.Response} {payload : String}
    (h : payloadOfResponse response = .ok payload) : Accepts response payload := by
  unfold payloadOfResponse at h
  cases hstatus : Http.isSuccess response.status with
  | false => exact absurd h (by simp [hstatus])
  | true =>
    cases hwhole : response.isWhole with
    | false => exact absurd h (by simp [hstatus, hwhole])
    | true =>
      cases hread : Reply.reader.readBytes response.body with
      | error fault => exact absurd h (by simp [hstatus, hwhole, hread])
      | ok reply =>
        simp only [hstatus, hwhole, hread, Bool.not_true, Bool.false_eq_true, if_false] at h
        obtain ⟨answer, hbody, hfilled⟩ := readBytes_eq_ok Reply.recognises_reader hread
        exact ⟨isSuccess_iff.mp hstatus, hwhole, answer, hbody, Reply.result_of_payload hfilled h⟩

end Commissioning.Protocol

namespace Commissioning.Service

open Protocol

variable {σ : Type} [Host (StateM σ)]

/-- **Only an answer with a payload is accepted.** If a payload has come out of a request, there was
a response with a success status whose whole body is JSON, once it is mended, and the result in it
gives just this payload. -/
theorem accepts_of_outcome (s : Service) (r : Protocol.Request) (host : σ) {payload : String}
    (h : s.outcome r host = .ok payload) :
    ∃ response, s.response? r host = some response ∧ Accepts response payload := by
  rw [outcome_eq] at h
  cases hresponse : s.response? r host with
  | none => exact absurd h (by simp [hresponse, payloadOf])
  | some response =>
    rw [hresponse] at h
    exact ⟨response, rfl, accepts_of_payloadOfResponse h⟩

/-! ### Answers with names and without -/

/-- A backend with one answer. -/
def answering (body : List UInt8) : Rehearsal where
  files := { entries := [], here := [] }
  date := (Date.of? 2024 3 5).get rfl
  server := some
    { host := .domain "desk", port := 80, responses := [some { status := 200, body := body }] }

/-- An answer whose result has a payload by that name. -/
def namedAnswer : List UInt8 :=
  Text.encodeUtf8 (.object [("result", .object [("payload", .text "cGRm")])] : Json.Value).compact

/-- An answer that is an array, as is the result in it. -/
def unnamedAnswer : String :=
  "[[\"cGRm\"], null]"

theorem accepts_of_outcome_named :
    ∃ response, deskService.response? { setupProtocolId := .number 42 } (answering namedAnswer)
        = some response ∧ Accepts response "cGRm" := by
  have houtcome : deskService.outcome { setupProtocolId := .number 42 } (answering namedAnswer)
      = .ok "cGRm" := by
    decide +kernel
  exact accepts_of_outcome deskService _ (answering namedAnswer) houtcome

/-- A payload comes out of a body that is no object. -/
theorem accepts_array :
    deskService.response? { setupProtocolId := .number 42 }
        (answering (Text.encodeUtf8 unnamedAnswer))
      = some { status := 200, body := Text.encodeUtf8 unnamedAnswer } ∧
    deskService.outcome { setupProtocolId := .number 42 }
        (answering (Text.encodeUtf8 unnamedAnswer)) = .ok "cGRm" ∧
    Json.parse unnamedAnswer = .ok (.array [.array [.text "cGRm"], .null]) :=
  ⟨rfl, by decide +kernel, rfl⟩

end Commissioning.Service
