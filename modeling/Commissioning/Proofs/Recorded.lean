import Commissioning.Proofs.Downloader.Apart

set_option autoImplicit false

/-! # Hosts that are recorded

Everything that a host is asked for can be written down, with what it answered (`Recorded`). What a
computation adds to a recording is put together from what its steps add (`Recorded.Runs`). Two
computations that are recorded go in lockstep when they ask for the same at every step, up to what
is masked in requests, and so cannot be told apart by anyone who does not look behind the mask
(`Lockstep`). -/

namespace Commissioning

variable {σ κ α β γ δ : Type}

/-! ## Calls -/

/-- Something that a host has been asked for, with its answer. -/
inductive Call where
  | readFile (path : Path) (answer : Except Files.Error (List UInt8))
  | pathExists (path : Path) (answer : Bool)
  | makeDirectories (path : Path) (answer : Except Files.Error Unit)
  | writeFile (path : Path) (bytes : List UInt8) (answer : Except Files.Error Unit)
  | exchange (request : Http.Request) (answer : Option Http.Response)
  | today (answer : Date)
  | clock (answer : String)
  | freshId (answer : String)
  | log (event : Log.Event)
  | printLine (line : String)
  | printErrorLine (line : String)
  /-- A notification, which is no concern of the host. -/
  | notify (notice : Notification)
  deriving DecidableEq

namespace Call

/-- A call with its request, if it has one, behind a mask. -/
def masked (mask : Http.Request → Http.Request) : Call → Call
  | exchange request answer => exchange (mask request) answer
  | call => call

/-- The values of the header Authorization, where a call sends a request. -/
def authorization : Call → List String
  | exchange request _ => request.authorization
  | _ => []

theorem masked_id : masked id = id := by
  funext call
  cases call <;> rfl

/-- Whether a call is one of the log. -/
def isLog : Call → Bool
  | log _ => true
  | _ => false

end Call

/-! ## Recordings -/

/-- A host, and the calls that have been recorded on it. -/
structure Recorded (σ : Type) where
  base : σ
  calls : List Call := []

namespace Recorded

/-- Something is done on the host, and recorded as a call. -/
def doing (x : StateM σ α) (call : α → Call) : StateM (Recorded σ) α := fun r =>
  ((x.run r.base).1,
    { base := (x.run r.base).2, calls := r.calls ++ [call (x.run r.base).1] })

instance [Host (StateM σ)] : Host (StateM (Recorded σ)) where
  readFile path := doing (Host.readFile path) (.readFile path)
  pathExists path := doing (Host.pathExists path) (.pathExists path)
  makeDirectories path := doing (Host.makeDirectories path) (.makeDirectories path)
  writeFile path bytes := doing (Host.writeFile path bytes) (.writeFile path bytes)
  exchange request := doing (Host.exchange request) (.exchange request)
  today := doing Host.today .today
  clock := doing Host.clock .clock
  freshId := doing Host.freshId .freshId
  log event := doing (Host.log event) fun _ => .log event
  printLine line := doing (Host.printLine line) fun _ => .printLine line
  printErrorLine line := doing (Host.printErrorLine line) fun _ => .printErrorLine line

/-- A notification is shown in some way, and recorded. -/
def notify (display : Notification → StateM σ Unit) (notice : Notification) :
    StateM (Recorded σ) Unit :=
  doing (display notice) fun _ => .notify notice

/-- Whether two recordings look the same behind a mask, on hosts with the same rest. -/
structure LooksLike (rest : σ → κ) (mask : Http.Request → Http.Request) (r r' : Recorded σ) :
    Prop where
  base : rest r.base = rest r'.base
  calls : r.calls.map (Call.masked mask) = r'.calls.map (Call.masked mask)

end Recorded

/-! ## What is added to a recording -/

namespace Recorded

/-- Whether a computation has a result and adds some calls to a recording. -/
structure Runs (x : StateM (Recorded σ) α) (r : Recorded σ) (a : α) (added : List Call)
    (r' : Recorded σ) : Prop where
  run : x.run r = (a, r')
  calls : r'.calls = r.calls ++ added

/-- Whether a computation only adds to what has been recorded. -/
def Adds (x : StateM (Recorded σ) α) : Prop :=
  ∀ r, r.calls <+: (x.run r).2.calls

variable {x : StateM (Recorded σ) α} {f : α → StateM (Recorded σ) β} {r r' : Recorded σ}

theorem runs_doing (y : StateM σ α) (call : α → Call) (r : Recorded σ) :
    Runs (doing y call) r (y.run r.base).1 [call (y.run r.base).1] ((doing y call).run r).2 :=
  ⟨rfl, rfl⟩

theorem Runs.bind {a : α} {b : β} {added added' : List Call} {r'' : Recorded σ}
    (hx : Runs x r a added r') (hf : Runs (f a) r' b added' r'') :
    Runs (x >>= f) r b (added ++ added') r'' where
  run := (run_bind_of_run hx.run).trans hf.run
  calls := by rw [hf.calls, hx.calls, List.append_assoc]

/-- What comes of a result does not show in the recording. -/
theorem Runs.bind_pure {a : α} {b : β} {added : List Call} (hx : Runs x r a added r')
    (hf : f a = Pure.pure b) : Runs (x >>= f) r b added r' where
  run := (run_bind_of_run hx.run).trans (by rw [hf]; rfl)
  calls := hx.calls

theorem adds_doing (y : StateM σ α) (call : α → Call) : Adds (doing y call) :=
  fun r => List.prefix_append r.calls [call (y.run r.base).1]

/-- Whatever is done for a download adds to the recording. -/
theorem closed_adds [Host (StateM σ)] :
    Host.Closed fun γ (x : StateM (Recorded σ) γ) => Adds x where
  pure _ _ := List.prefix_rfl
  bind hx hf r := (hx r).trans (hf _ _)
  makeDirectories _ := adds_doing _ _
  writeFile _ _ := adds_doing _ _
  exchange _ := adds_doing _ _
  today := adds_doing _ _
  freshId := adds_doing _ _
  log _ := adds_doing _ _

end Recorded

/-! ## Hosts behind a mask -/

/-- Whether a host sees requests behind a mask only: it has one answer to two that look the same
there, and goes on alike. -/
structure Host.Masked [Host (StateM σ)] (rest : σ → κ) (mask : Http.Request → Http.Request) :
    Prop where
  exchange : ∀ request request', mask request = mask request' →
    SameAnswer rest (Host.exchange request : StateM σ _) (Host.exchange request')
  makeDirectories : ∀ path, Blind rest (Host.makeDirectories path : StateM σ _)
  writeFile : ∀ path bytes, Blind rest (Host.writeFile path bytes : StateM σ _)
  today : Blind rest (Host.today : StateM σ _)
  freshId : Blind rest (Host.freshId : StateM σ _)
  log : ∀ event, Blind rest (Host.log event : StateM σ Unit)

/-- A host sees no more behind no mask than behind one. -/
theorem Host.Masked.unmasked [Host (StateM σ)] {rest : σ → κ}
    {mask : Http.Request → Http.Request} (h : Masked rest mask) : Masked rest id :=
  { h with exchange := fun _ _ heq => h.exchange _ _ (congrArg mask heq) }

/-! ## Lockstep -/

variable {rest : σ → κ} {mask : Http.Request → Http.Request}

/-- Whether two recorded computations have related results and keep recordings that look alike. -/
def Lockstep (rest : σ → κ) (mask : Http.Request → Http.Request) (related : α → β → Prop)
    (x : StateM (Recorded σ) α) (y : StateM (Recorded σ) β) : Prop :=
  ∀ r r', r.LooksLike rest mask r' →
    related (x.run r).1 (y.run r').1 ∧ (x.run r).2.LooksLike rest mask (y.run r').2

namespace Lockstep

variable {related : α → β → Prop}

theorem pure {a : α} {b : β} (h : related a b) :
    Lockstep rest mask related (Pure.pure a : StateM (Recorded σ) α) (Pure.pure b) :=
  fun _ _ hlooks => ⟨h, hlooks⟩

theorem bind {related' : γ → δ → Prop} {x : StateM (Recorded σ) α} {y : StateM (Recorded σ) β}
    {f : α → StateM (Recorded σ) γ} {g : β → StateM (Recorded σ) δ}
    (hx : Lockstep rest mask related x y)
    (hf : ∀ a b, related a b → Lockstep rest mask related' (f a) (g b)) :
    Lockstep rest mask related' (x >>= f) (y >>= g) := by
  intro r r' h
  obtain ⟨hresult, hlooks⟩ := hx r r' h
  exact hf _ _ hresult _ _ hlooks

/-- After steps with one result, the same result is gone on with. -/
theorem bind_same {x y : StateM (Recorded σ) α} {f : α → StateM (Recorded σ) γ}
    {g : α → StateM (Recorded σ) δ} {related' : γ → δ → Prop} (hx : Lockstep rest mask Eq x y)
    (hf : ∀ a, Lockstep rest mask related' (f a) (g a)) :
    Lockstep rest mask related' (x >>= f) (y >>= g) := by
  refine hx.bind fun a b hab => ?_
  rw [← hab]
  exact hf a

/-- What gets the same answer is in lockstep if it is recorded in the same way. -/
theorem doing {x y : StateM σ α} {call call' : α → Call} (h : SameAnswer rest x y)
    (hcall : ∀ a, (call a).masked mask = (call' a).masked mask) :
    Lockstep rest mask Eq (Recorded.doing x call) (Recorded.doing y call') := by
  intro r r' hlooks
  obtain ⟨hresult, hrest⟩ := h _ _ hlooks.base
  refine ⟨hresult, hrest, ?_⟩
  show (r.calls ++ [call (x.run r.base).1]).map (Call.masked mask)
    = (r'.calls ++ [call' (y.run r'.base).1]).map (Call.masked mask)
  rw [List.map_append, List.map_append, hlooks.calls, hresult, List.map_singleton,
    List.map_singleton, hcall]

theorem notify {display : Notification → StateM σ Unit}
    (h : ∀ notice, Blind rest (display notice)) (notice : Notification) :
    Lockstep rest mask Eq (Recorded.notify display notice) (Recorded.notify display notice) :=
  .doing (h notice) fun _ => rfl

end Lockstep

namespace Host.Masked

variable [Host (StateM σ)]

theorem lockstep_exchange (h : Masked rest mask) {request request' : Http.Request}
    (hmask : mask request = mask request') :
    Lockstep rest mask Eq (Host.exchange request : StateM (Recorded σ) _)
      (Host.exchange request') :=
  .doing (h.exchange _ _ hmask) fun answer => congrArg (Call.exchange · answer) hmask

/-- A recording of a host behind a mask is in lockstep with itself. -/
theorem closed (h : Masked rest mask) :
    Closed fun γ (x : StateM (Recorded σ) γ) => Lockstep rest mask Eq x x where
  pure _ := .pure rfl
  bind hx hf := hx.bind_same hf
  makeDirectories path := .doing (h.makeDirectories path) fun _ => rfl
  writeFile path bytes := .doing (h.writeFile path bytes) fun _ => rfl
  exchange _ := h.lockstep_exchange rfl
  today := .doing h.today fun _ => rfl
  freshId := .doing h.freshId fun _ => rfl
  log event := .doing (h.log event) fun _ => rfl

theorem lockstep_logAll (h : Masked rest mask) (events : List Log.Event) :
    Lockstep rest mask Eq (events.forM Host.log : StateM (Recorded σ) _)
      (events.forM Host.log) := by
  induction events with
  | nil => exact .pure rfl
  | cons event events ih => exact (h.closed.log event).bind_same fun _ => ih

end Host.Masked

end Commissioning
