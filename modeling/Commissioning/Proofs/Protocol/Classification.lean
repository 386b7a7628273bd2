import Commissioning.Proofs.Protocol.Answer
import Commissioning.Rehearsal
import Commissioning.Service

set_option autoImplicit false

/-! # The classification of answers

What is made of an answer is decided from the outside in: by its status, by whether its body is
JSON at all, by its error, and only then by its result. A body that is a JSON object is classified
by what it gives for an error and for a result; nothing else in it counts. -/

namespace Commissioning.Protocol

open Json Json.Reader Json.Grammar

/-! ## Bodies that are objects -/

/-- Whether a value is no array and, if it is an object, repeats no member. -/
def IsDistinct (v : Value) : Prop :=
  (∀ items, v ≠ .array items) ∧ ∀ fields, v = .object fields → (fields.map Prod.fst).Nodup

/-- Whether a body is an object with the given members that repeats none of them, and whose error
and result are no arrays and repeat none of theirs. -/
structure IsAnswer (body : List UInt8) (members : List (String × Value)) : Prop where
  read : (value nesting).readBytes body = .ok (.object members)
  distinct : (members.map Prod.fst).Nodup
  error : ∀ v, Value.member? "error" members = some v → IsDistinct v
  result : ∀ v, Value.member? "result" members = some v → IsDistinct v

/-- Whether a value is an object with the code and the message of an error. -/
def IsCallError (v : Value) (e : CallError) : Prop :=
  ∃ fields, v = .object fields ∧
    Value.member? "code" fields = some (.number (.integer e.code)) ∧
    -9223372036854775808 ≤ e.code ∧ e.code ≤ 9223372036854775807 ∧
    Value.member? "message" fields = some (.text e.message)

/-- Whether a value is an object with the given payload. -/
def IsPayload (v : Value) (payload : String) : Prop :=
  ∃ fields, v = .object fields ∧ Value.member? "payload" fields = some (.text payload)

/-- Whether an outcome is that the answer is malformed, in whatever way. -/
def IsMalformed (outcome : Except Error String) : Prop :=
  ∃ malformation, outcome = .error (.malformedResponse malformation)

/-- What an object comes out as by what it gives for an error and for a result. -/
structure Verdict (members : List (String × Value)) (outcome : Except Error String) : Prop where
  callError : ∀ v e, given? "error" members = some v → IsCallError v e →
    outcome = .error (.rpc e.code e.message)
  noCallError : ∀ v, given? "error" members = some v → (∀ e, ¬ IsCallError v e) →
    IsMalformed outcome
  noResult : given? "error" members = none → given? "result" members = none →
    IsMalformed outcome
  payload : given? "error" members = none → ∀ v, given? "result" members = some v →
    ∀ p, outcome = .ok p ↔ IsPayload v p
  noPayload : given? "error" members = none → ∀ v, given? "result" members = some v →
    (∀ p, ¬ IsPayload v p) → IsMalformed outcome

/-- What a response comes out as, from its status on. -/
structure Classified (response : Http.Response) (outcome : Except Error String) : Prop where
  status : ¬ (200 ≤ response.status ∧ response.status ≤ 299) →
    outcome = .error (.httpStatus response.status)
  verdict : 200 ≤ response.status ∧ response.status ≤ 299 → response.isWhole = true →
    ∀ members, IsAnswer response.body members → Verdict members outcome
  /-- A text that no tree of the grammar writes. -/
  noJson : 200 ≤ response.status ∧ response.status ≤ 299 →
    ∀ text, response.body = Text.encodeUtf8 text →
      (∀ tree : Item Term, response.body ≠ tree.bytes) → IsMalformed outcome

/-! ## Objects -/

theorem CallError.integer?_eq_some {v : Value} {n : Int} :
    integer? v = some n ↔
      v = .number (.integer n) ∧ -9223372036854775808 ≤ n ∧ n ≤ 9223372036854775807 := by
  cases v with
  | number x =>
    cases x with
    | integer m =>
      simp only [integer?]
      split
      next h =>
        simp only [Option.some.injEq, Value.number.injEq, Number.integer.injEq]
        exact ⟨fun hm => ⟨hm, hm ▸ h⟩, fun hm => hm.1⟩
      next h =>
        simp only [Value.number.injEq, Number.integer.injEq, reduceCtorEq, false_iff]
        rintro ⟨rfl, hm⟩
        exact h hm
    | real x => simp [integer?]
  | _ => simp [integer?]

theorem CallError.ofValue?_eq_some {v : Value} {e : CallError} :
    ofValue? v = some e ↔ IsCallError v e := by
  cases v with
  | object fields =>
    obtain ⟨code, message⟩ := e
    rw [ofValue?_object]
    simp only [Option.bind_eq_some_iff, Option.map_eq_some_iff, integer?_eq_some,
      Value.text?_eq_some, CallError.mk.injEq, IsCallError, Value.object.injEq]
    constructor
    · rintro ⟨n, ⟨c, hcode, rfl, hlow, hhigh⟩, s, ⟨m, hmessage, rfl⟩, rfl, rfl⟩
      exact ⟨fields, rfl, hcode, hlow, hhigh, hmessage⟩
    · rintro ⟨_, rfl, hcode, hlow, hhigh, hmessage⟩
      exact ⟨code, ⟨_, hcode, rfl, hlow, hhigh⟩, message, ⟨_, hmessage, rfl⟩, rfl, rfl⟩
  | _ => exact iff_of_false (by simp [ofValue?, Slots.meaning]) (by simp [IsCallError])

/-- The payload of an object that is not read as an answer, or what the answer has instead. -/
def answerOf (members : List (String × Value)) : Except Error String :=
  match Reply.ofValue? (.object members) with
  | none => .error (.malformedResponse .body)
  | some reply => reply.payload

/-- A response with an object for a body comes out as what the object says. -/
theorem payloadOfResponse_of_isAnswer {response : Http.Response}
    {members : List (String × Value)} (hstatus : Http.isSuccess response.status = true)
    (hwhole : response.isWhole = true) (h : IsAnswer response.body members) :
    payloadOfResponse response = answerOf members := by
  obtain ⟨text, hbody, hstands⟩ := readBytes_eq_ok (recognises_value nesting) h.read
  have hdomain : Slots.domain Reply.resultSlot Reply.errorSlot (.object members) := by
    refine ⟨fun _ => by simp, fun pairs hpairs => ?_⟩
    obtain rfl := Value.object.inj hpairs
    refine ⟨h.distinct, fun _ _ => trivial, fun v hv => ?_⟩
    obtain ⟨hnoArray, hdistinct⟩ := h.error v hv
    exact ⟨hnoArray, fun fields hfields =>
      ⟨hdistinct fields hfields, fun _ _ => trivial, fun _ _ => trivial⟩⟩
  have hreads := readBytes_means Reply.means_reader hstands hdomain
  rw [← hbody] at hreads
  unfold payloadOfResponse answerOf
  simp only [hstatus, hwhole, Bool.not_true, Bool.false_eq_true, if_false, ← hreads]
  cases Reply.reader.readBytes response.body <;> rfl

/-! ## The verdict on an object -/

theorem given?_eq_some {name : String} {members : List (String × Value)} {v : Value}
    (h : given? name members = some v) : Value.member? name members = some v := by
  unfold given? at h
  split at h
  · exact absurd h (by simp)
  · exact h

theorem PayloadResult.ofJson_eq_ok {v : Value} (hv : ∀ items, v ≠ .array items) {p : String} :
    ofJson v = .ok ⟨p⟩ ↔ IsPayload v p := by
  cases v with
  | object fields =>
    simp only [ofJson, IsPayload, Value.object.injEq]
    cases hpayload : Value.member? "payload" fields with
    | none => simp [hpayload]
    | some w => cases w <;> simp [payloadOf, Except.map, hpayload]
  | array items => exact absurd rfl (hv items)
  | _ => exact iff_of_false (by simp [ofJson]) (by simp [IsPayload])

/-- What comes out by whether there is an error, which one, and whether there is a result, with
which payload. -/
def decided : Option (Option CallError) → Option (Except Json.Reason PayloadResult) →
    Except Error String
  | some (some e), _ => .error (.rpc e.code e.message)
  | some none, _ => .error (.malformedResponse .body)
  | none, none => .error (.malformedResponse .noResult)
  | none, some (.ok result) => .ok result.payload
  | none, some (.error reason) => .error (.malformedResponse (.result reason))

theorem answerOf_eq_decided (members : List (String × Value)) :
    answerOf members = decided ((given? "error" members).map CallError.ofValue?)
      ((given? "result" members).map PayloadResult.ofJson) := by
  rw [answerOf, Reply.ofValue?_object]
  cases given? "error" members with
  | some v =>
    simp only [Option.map_some]
    cases CallError.ofValue? v <;> rfl
  | none =>
    simp only [Option.map_none, Reply.payload]
    cases given? "result" members with
    | none => rfl
    | some v =>
      simp only [Option.map_some]
      cases PayloadResult.ofJson v <;> rfl

theorem verdict_answerOf {members : List (String × Value)}
    (hresult : ∀ items, Value.member? "result" members ≠ some (.array items)) :
    Verdict members (answerOf members) := by
  have hnoArray : ∀ v, given? "result" members = some v → ∀ items, v ≠ .array items :=
    fun v hv items heq => hresult items (heq ▸ given?_eq_some hv)
  rw [answerOf_eq_decided]
  constructor
  case callError =>
    intro v e hv he
    rw [hv, Option.map_some, CallError.ofValue?_eq_some.mpr he]
    rfl
  case noCallError =>
    intro v hv hnone
    rw [hv, Option.map_some]
    cases hread : CallError.ofValue? v with
    | none => exact ⟨_, rfl⟩
    | some e => exact absurd (CallError.ofValue?_eq_some.mp hread) (hnone e)
  case noResult =>
    intro herror hnone
    rw [herror, hnone]
    exact ⟨_, rfl⟩
  case payload =>
    intro herror v hv p
    rw [herror, hv, Option.map_some, Option.map_none, ← PayloadResult.ofJson_eq_ok (hnoArray v hv)]
    cases PayloadResult.ofJson v with
    | ok result => cases result with | mk payload => simp [decided]
    | error reason => simp [decided]
  case noPayload =>
    intro herror v hv hnone
    rw [herror, hv, Option.map_some, Option.map_none]
    cases hread : PayloadResult.ofJson v with
    | ok result =>
      exact absurd ((PayloadResult.ofJson_eq_ok (hnoArray v hv)).mp hread) (hnone _)
    | error reason => exact ⟨_, rfl⟩

/-! ## What never counts -/

/-- Whether two values are the same, or objects with the same members of the given names. -/
def AgreeOn (names : List String) (v w : Value) : Prop :=
  v = w ∨ ∃ fields fields', v = .object fields ∧ w = .object fields' ∧
    ∀ name ∈ names, Value.member? name fields = Value.member? name fields'

/-- Whether two objects give the same for an error and for a result, as far as it counts. -/
structure SaySame (members members' : List (String × Value)) : Prop where
  error : Option.Rel (AgreeOn ["code", "message"]) (given? "error" members)
    (given? "error" members')
  result : Option.Rel (AgreeOn ["payload"]) (given? "result" members) (given? "result" members')

theorem CallError.ofValue?_congr {v w : Value} (h : AgreeOn ["code", "message"] v w) :
    ofValue? v = ofValue? w := by
  obtain rfl | ⟨fields, fields', rfl, rfl, hsame⟩ := h
  · rfl
  · rw [ofValue?_object, ofValue?_object, hsame "code" (by simp), hsame "message" (by simp)]

theorem PayloadResult.ofJson_congr {v w : Value} (h : AgreeOn ["payload"] v w) :
    ofJson v = ofJson w := by
  obtain rfl | ⟨fields, fields', rfl, rfl, hsame⟩ := h
  · rfl
  · simp only [ofJson, hsame "payload" (by simp)]

theorem map_eq_of_rel {α β : Type} {related : α → α → Prop} {f : α → β} {a b : Option α}
    (h : Option.Rel related a b) (hf : ∀ x y, related x y → f x = f y) : a.map f = b.map f := by
  cases h with
  | none => rfl
  | some hxy => exact congrArg some (hf _ _ hxy)

/-- **Nothing but the error and the result counts**, and of these only the members that are asked
for. -/
theorem answerOf_congr {members members' : List (String × Value)} (h : SaySame members members') :
    answerOf members = answerOf members' := by
  rw [answerOf_eq_decided, answerOf_eq_decided,
    map_eq_of_rel h.error fun _ _ => CallError.ofValue?_congr,
    map_eq_of_rel h.result fun _ _ => PayloadResult.ofJson_congr]

/-! ## Responses -/

theorem isSuccess_iff {status : Nat} :
    Http.isSuccess status = true ↔ 200 ≤ status ∧ status ≤ 299 := by
  simp only [Http.isSuccess, Bool.and_eq_true, decide_eq_true_eq]
  omega

theorem classified_payloadOfResponse (response : Http.Response) :
    Classified response (payloadOfResponse response) where
  status hstatus := by
    have hfailed : Http.isSuccess response.status = false := by
      rw [← Bool.not_eq_true, isSuccess_iff]
      exact hstatus
    unfold payloadOfResponse
    simp only [hfailed, Bool.not_false, if_true]
  verdict hstatus hwhole members h := by
    rw [payloadOfResponse_of_isAnswer (isSuccess_iff.mpr hstatus) hwhole h]
    exact verdict_answerOf fun items hitems => (h.result _ hitems).1 items rfl
  noJson hstatus text htext hnoTree := by
    unfold payloadOfResponse
    simp only [isSuccess_iff.mpr hstatus, Bool.not_true, Bool.false_eq_true, if_false]
    split
    · exact ⟨_, rfl⟩
    · cases hread : Reply.reader.readBytes response.body with
      | error fault => exact ⟨_, rfl⟩
      | ok reply =>
        obtain ⟨tree, hbody, -⟩ := readBytes_eq_ok Reply.recognises_reader hread
        exact absurd (hbody.eq_of_isUtf8 ⟨text.toList, htext⟩) (hnoTree tree)

/-- Whether two responses have the same status and whole objects for bodies that say the same. -/
structure Alike (response response' : Http.Response) : Prop where
  status : response.status = response'.status
  isWhole : response.isWhole = true ∧ response'.isWhole = true
  bodies : ∃ members members', IsAnswer response.body members ∧
    IsAnswer response'.body members' ∧ SaySame members members'

theorem payloadOfResponse_congr {response response' : Http.Response}
    (h : Alike response response') : payloadOfResponse response = payloadOfResponse response' := by
  obtain ⟨hstatus, ⟨hwhole, hwhole'⟩, members, members', hbody, hbody', hsame⟩ := h
  cases hsuccess : Http.isSuccess response.status with
  | true =>
    have hsuccess' := hstatus ▸ hsuccess
    rw [payloadOfResponse_of_isAnswer hsuccess hwhole hbody,
      payloadOfResponse_of_isAnswer hsuccess' hwhole' hbody', answerOf_congr hsame]
  | false =>
    unfold payloadOfResponse
    simp only [← hstatus, hsuccess, Bool.not_false, if_true]

end Commissioning.Protocol

namespace Commissioning.Service

open Protocol Json Json.Grammar

/-! ## Requests and their outcomes -/

variable {σ : Type} [Host (StateM σ)]

/-- The response that a host has for a request for a setup protocol. -/
def response? (s : Service) (r : Protocol.Request) (host : σ) : Option Http.Response :=
  ((do
    let callId ← Host.freshId
    Host.log (s.sending callId r)
    Host.exchange (s.request callId r) : StateM σ (Option Http.Response)).run host).1

/-- What comes out of a request for a setup protocol. -/
def outcome (s : Service) (r : Protocol.Request) (host : σ) : Except Protocol.Error String :=
  ((s.ask r : StateM σ (Except Protocol.Error String)).run host).1

theorem outcome_eq (s : Service) (r : Protocol.Request) (host : σ) :
    s.outcome r host = s.payloadOf (s.response? r host) :=
  rfl

/-- **Every answer is classified.** Whatever the backend and the request, a response comes out by
its status, by whether its body is JSON, by its error and by its result, in this order; two
responses whose bodies say the same come out as the same, whatever else the bodies hold. -/
theorem outcome_classified (s : Service) (r : Protocol.Request) (host : σ)
    {response : Http.Response} (hresponse : s.response? r host = some response) :
    Classified response (s.outcome r host) ∧
      ∀ (s' : Service) (r' : Protocol.Request) (host' : σ) (response' : Http.Response),
        s'.response? r' host' = some response' → Alike response response' →
          s'.outcome r' host' = s.outcome r host := by
  have houtcome : s.outcome r host = payloadOfResponse response := by
    rw [outcome_eq, hresponse]
    rfl
  rw [houtcome]
  refine ⟨classified_payloadOfResponse response, fun s' r' host' response' hresponse' halike => ?_⟩
  rw [outcome_eq, hresponse', payloadOfResponse_congr halike]
  rfl

/-! ### An error beside a result

The answer has a valid result in front of its error, and a member that nobody asked for inside the
error. -/

/-- A service whose backend is called desk. -/
def deskService : Service where
  endpoint := ⟨"http", some { host := some (.domain "desk") }, "/", none, none⟩

/-- An answer with a result and an error. -/
def refusal : Item Term where
  term := .object [] [
    { name := plainGlyphs ['r', 'e', 's', 'u', 'l', 't']
      item := { term := .object [] [
        { name := plainGlyphs ['p', 'a', 'y', 'l', 'o', 'a', 'd']
          item := { term := .text (plainGlyphs ['J', 'V', 'B', 'E']) } }] } },
    { name := plainGlyphs ['e', 'r', 'r', 'o', 'r']
      item := { term := .object [.space] [
        { name := plainGlyphs ['m', 'e', 's', 's', 'a', 'g', 'e']
          item := { term := .text (plainGlyphs ['n', 'o']) } },
        { name := plainGlyphs ['d', 'a', 't', 'a'], item := { term := .array [] [] } },
        { name := plainGlyphs ['c', 'o', 'd', 'e']
          item := { term := .number { negative := true, whole := .positive 4 [] } } }] } }]

/-- The members of the answer. -/
def refusalMembers : List (String × Value) :=
  [("result", .object [("payload", .text "JVBE")]),
   ("error", .object [("message", .text "no"), ("data", .array []),
     ("code", .number (.integer (-5)))])]

/-- A backend that gives this one answer. -/
def refusalHost : Rehearsal where
  files := { entries := [], here := [] }
  date := (Date.of? 2024 3 6).get rfl
  server := some
    { host := .domain "desk", port := 80,
      responses := [some { status := 200, body := refusal.bytes }] }

theorem isAnswer_refusal : IsAnswer refusal.bytes refusalMembers where
  read := readBytes_of_reads (reads_value refusal.term nesting _ rfl (by decide))
  distinct := by decide
  error v hv := by
    obtain rfl := Option.some.inj hv
    refine ⟨fun _ => by simp, fun fields hfields => ?_⟩
    obtain rfl := Value.object.inj hfields
    decide
  result v hv := by
    obtain rfl := Option.some.inj hv
    refine ⟨fun _ => by simp, fun fields hfields => ?_⟩
    obtain rfl := Value.object.inj hfields
    decide

theorem outcome_classified_refusal :
    deskService.response? { setupProtocolId := .number 7 } refusalHost
        = some { status := 200, body := refusal.bytes } ∧
      deskService.outcome { setupProtocolId := .number 7 } refusalHost
        = .error (.rpc (-5) "no") := by
  have hresponse : deskService.response? { setupProtocolId := .number 7 } refusalHost
      = some { status := 200, body := refusal.bytes } := rfl
  have hclassified := (outcome_classified deskService _ refusalHost hresponse).1
  have hverdict := hclassified.verdict (by decide) rfl refusalMembers isAnswer_refusal
  refine ⟨hresponse, hverdict.callError _ ⟨-5, "no"⟩ rfl ⟨_, rfl, rfl, by decide, by decide, rfl⟩⟩

end Commissioning.Service
