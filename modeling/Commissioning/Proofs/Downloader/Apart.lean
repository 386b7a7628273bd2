import Commissioning.Proofs.Downloader.Closed
import Commissioning.Proofs.Sight

set_option autoImplicit false

/-! # Downloads and the log

A host keeps its log apart when nothing that it does depends on what has been logged
(`Host.LogApart`). On such a host a download is the same whatever has been logged before it
(`Host.LogApart.download`). -/

namespace Commissioning

variable {σ κ α β : Type}

/-! ## What is blind to the log -/

/-- Whether a computation does the same on any two states with the same rest. -/
def Blind (rest : σ → κ) (x : StateM σ α) : Prop :=
  ∀ s s', rest s = rest s' →
    (x.run s).1 = (x.run s').1 ∧ rest (x.run s).2 = rest (x.run s').2

/-- Whether two computations have the same result and leave the same rest on any two states with the
same rest. -/
def SameAnswer (rest : σ → κ) (x y : StateM σ α) : Prop :=
  ∀ s s', rest s = rest s' →
    (x.run s).1 = (y.run s').1 ∧ rest (x.run s).2 = rest (y.run s').2

variable {rest : σ → κ}

theorem Blind.pure (a : α) : Blind rest (Pure.pure a) :=
  fun _ _ h => ⟨rfl, h⟩

theorem Blind.bind {x : StateM σ α} {f : α → StateM σ β} (hx : Blind rest x)
    (hf : ∀ a, Blind rest (f a)) : Blind rest (x >>= f) := by
  intro s s' h
  obtain ⟨hresult, hrest⟩ := hx s s' h
  rw [StateT.run_bind, StateT.run_bind]
  show ((f (x.run s).1).run (x.run s).2).1 = ((f (x.run s').1).run (x.run s').2).1 ∧
    rest ((f (x.run s).1).run (x.run s).2).2 = rest ((f (x.run s').1).run (x.run s').2).2
  rw [hresult]
  exact hf _ _ _ hrest

/-- Whether a host keeps its log apart: the log changes nothing but lines where errors go, and
nothing else depends on it. -/
structure Host.LogApart [Host (StateM σ)] (see : σ → Sight) (rest : σ → κ) : Prop where
  seen : ∀ s s', rest s = rest s' → ∃ lines, see s' = { see s with printedErrors := lines }
  log : ∀ event s, rest ((Host.log event : StateM σ Unit).run s).2 = rest s
  makeDirectories : ∀ path, Blind rest (Host.makeDirectories path : StateM σ _)
  writeFile : ∀ path bytes, Blind rest (Host.writeFile path bytes : StateM σ _)
  exchange : ∀ request, Blind rest (Host.exchange request : StateM σ _)
  today : Blind rest (Host.today : StateM σ _)
  freshId : Blind rest (Host.freshId : StateM σ _)

namespace Host.LogApart

variable [Host (StateM σ)] {see : σ → Sight}

theorem blind_log (h : LogApart see rest) (event : Log.Event) :
    Blind rest (Host.log event : StateM σ Unit) :=
  fun s s' hsame => ⟨rfl, (h.log event s).trans (hsame.trans (h.log event s').symm)⟩

theorem closed (h : LogApart see rest) : Closed fun γ (x : StateM σ γ) => Blind rest x where
  pure a := .pure a
  bind hx hf := hx.bind hf
  makeDirectories := h.makeDirectories
  writeFile := h.writeFile
  exchange := h.exchange
  today := h.today
  freshId := h.freshId
  log := h.blind_log

/-- **A download does not mind what has been logged.** -/
theorem download (h : LogApart see rest) {notify : Notification → StateM σ Unit}
    (hnotify : ∀ notice, Blind rest (notify notice)) (session : Session) (i : Installation) :
    Blind rest (session.download notify i) :=
  h.closed.download hnotify session i

end Host.LogApart

end Commissioning
