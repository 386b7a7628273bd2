import Commissioning.Files.System
import Commissioning.Log.Line
import Commissioning.Notification
import Commissioning.Proofs.Sequence

set_option autoImplicit false

/-! # What is seen of a host

A host may be any machine: its backend may answer whatever it likes, its clock may show any date,
and its disk may refuse anything. What is asked of it here is only that it can be watched
(`Host.Visible`): its disk, the requests that leave it, and the lines that it prints are a function
of its state, and each operation changes its own part of them. -/

namespace Commissioning

/-- What can be seen of a host. -/
structure Sight where
  files : FileSystem
  /-- The requests that have been sent, each with its response if there was one. -/
  exchanges : List (Http.Request × Option Http.Response)
  printed : List String
  printedErrors : List String
  /-- The notifications that have been shown. -/
  notices : List Notification

/-- The lines that the log prints: one for an event, and one for a directive that is left out of
its filter. -/
inductive Log.IsLine : String → Prop
  | event (e : Event) (time : String) : IsLine (e.line time)
  | complaint (text : List Char) (fault : Directive.Fault) : IsLine (Filter.complaint text fault)

namespace Sight

variable {v v' v'' : Sight}

/-- What is seen when a request has been sent. -/
def exchanged (v : Sight) (request : Http.Request) (response : Option Http.Response) : Sight :=
  { v with exchanges := v.exchanges ++ [(request, response)] }

/-- What is seen when lines have been printed. -/
def saying (v : Sight) (lines : List String) : Sight :=
  { v with printed := v.printed ++ lines }

/-- What is seen when lines have been printed where errors go. -/
def complaining (v : Sight) (lines : List String) : Sight :=
  { v with printedErrors := v.printedErrors ++ lines }

/-- What is seen when a notification has been shown. -/
def notified (v : Sight) (notice : Notification) : Sight :=
  { v with notices := v.notices ++ [notice] }

@[simp] theorem saying_nil (v : Sight) : v.saying [] = v := by
  simp [saying]

@[simp] theorem saying_saying (v : Sight) (lines more : List String) :
    (v.saying lines).saying more = v.saying (lines ++ more) := by
  simp [saying]

@[simp] theorem complaining_nil (v : Sight) : v.complaining [] = v := by
  simp [complaining]

@[simp] theorem complaining_complaining (v : Sight) (lines more : List String) :
    (v.complaining lines).complaining more = v.complaining (lines ++ more) := by
  simp [complaining]

/-! ## Lines of the log -/

/-- Whether nothing new is seen but lines of the log. -/
def Logged (v v' : Sight) : Prop :=
  ∃ lines, (∀ line ∈ lines, Log.IsLine line) ∧ v' = v.complaining lines

theorem Logged.refl (v : Sight) : Logged v v :=
  ⟨[], by simp, (complaining_nil v).symm⟩

theorem logged_lines {lines : List String} (h : ∀ line ∈ lines, Log.IsLine line) (v : Sight) :
    Logged v (v.complaining lines) :=
  ⟨lines, h, rfl⟩

theorem Logged.trans (h : Logged v v') (h' : Logged v' v'') : Logged v v'' := by
  obtain ⟨lines, hlines, rfl⟩ := h
  obtain ⟨more, hmore, rfl⟩ := h'
  refine ⟨lines ++ more, fun line hline => ?_, complaining_complaining v lines more⟩
  rcases List.mem_append.mp hline with hline | hline
  · exact hlines line hline
  · exact hmore line hline

theorem Logged.files_eq (h : Logged v v') : v'.files = v.files := by
  obtain ⟨lines, -, rfl⟩ := h
  rfl

theorem Logged.exchanges_eq (h : Logged v v') : v'.exchanges = v.exchanges := by
  obtain ⟨lines, -, rfl⟩ := h
  rfl

theorem Logged.notices_eq (h : Logged v v') : v'.notices = v.notices := by
  obtain ⟨lines, -, rfl⟩ := h
  rfl

/-- Lines of the log do not mind what else changes. -/
theorem Logged.withFiles (h : Logged v v') (files : FileSystem) :
    Logged { v with files := files } { v' with files := files } := by
  obtain ⟨lines, hlines, rfl⟩ := h
  exact ⟨lines, hlines, rfl⟩

theorem Logged.exchanged (h : Logged v v') (request : Http.Request)
    (response : Option Http.Response) :
    Logged (v.exchanged request response) (v'.exchanged request response) := by
  obtain ⟨lines, hlines, rfl⟩ := h
  exact ⟨lines, hlines, rfl⟩

theorem Logged.saying (h : Logged v v') (lines : List String) :
    Logged (v.saying lines) (v'.saying lines) := by
  obtain ⟨more, hmore, rfl⟩ := h
  exact ⟨more, hmore, rfl⟩

end Sight

/-! ## Hosts that can be watched -/

/-- Whether a host can be watched. -/
structure Host.Visible {σ : Type} [Host (StateM σ)] (see : σ → Sight) : Prop where
  readFile : ∀ path s, ∃ s',
    (Host.readFile path : StateM σ _).run s = ((see s).files.read path, s') ∧ see s' = see s
  pathExists : ∀ path s, ∃ s',
    (Host.pathExists path : StateM σ _).run s = ((see s).files.contains path, s') ∧
      see s' = see s
  makeDirectories : ∀ path s, ∃ answer files s',
    (Host.makeDirectories path : StateM σ _).run s = (answer, s') ∧
      see s' = { see s with files := files }
  /-- A file that is said to be written is written. -/
  writeFile : ∀ path bytes s, ∃ answer files s',
    (Host.writeFile path bytes : StateM σ _).run s = (answer, s') ∧
      see s' = { see s with files := files } ∧
      (answer = .ok () → (see s).files.write path bytes = .ok files)
  exchange : ∀ request s, ∃ response s',
    (Host.exchange request : StateM σ _).run s = (response, s') ∧
      see s' = (see s).exchanged request response
  today : ∀ s, see ((Host.today : StateM σ _).run s).2 = see s
  clock : ∀ s, see ((Host.clock : StateM σ _).run s).2 = see s
  freshId : ∀ s, see ((Host.freshId : StateM σ _).run s).2 = see s
  log : ∀ event s, (see s).Logged (see ((Host.log event : StateM σ _).run s).2)
  printLine : ∀ line s,
    see ((Host.printLine line : StateM σ _).run s).2 = (see s).saying [line]
  printErrorLine : ∀ line s,
    see ((Host.printErrorLine line : StateM σ _).run s).2 = (see s).complaining [line]

namespace Host.Visible

variable {σ : Type} [Host (StateM σ)] {see : σ → Sight}

/-! ## Lines one after another -/

theorem forM_log (h : Visible see) (events : List Log.Event) (s : σ) :
    (see s).Logged (see ((events.forM Host.log : StateM σ _).run s).2) := by
  induction events generalizing s with
  | nil => exact .refl _
  | cons event events ih => exact (h.log event s).trans (ih _)

theorem forM_printErrorLine (h : Visible see) (lines : List String) (s : σ) :
    see ((lines.forM Host.printErrorLine : StateM σ _).run s).2 = (see s).complaining lines := by
  induction lines generalizing s with
  | nil => exact (Sight.complaining_nil _).symm
  | cons line lines ih =>
    have hrest := ih ((Host.printErrorLine line : StateM σ _).run s).2
    rw [h.printErrorLine, Sight.complaining_complaining] at hrest
    exact hrest

end Host.Visible

end Commissioning
