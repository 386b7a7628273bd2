import Commissioning.Proofs.Attended
import Commissioning.Proofs.Files.Shape

set_option autoImplicit false

/-! # What files hold

A host keeps what its files hold apart when it tells nothing of that but to those who read a file
(`Host.ContentsApart`). Setting up a session leaves the rest of such a host as it was, and behind
that no file is read any more: a download comes to the same whatever files hold
(`Host.ContentsApart.blind_perform`). -/

namespace Commissioning

variable {σ κ α β : Type} {rest : σ → κ}

/-! ## What is done quietly -/

/-- Whether a computation leaves the rest of a state as it was. -/
def Quiet (rest : σ → κ) (x : StateM σ α) : Prop :=
  ∀ s, rest (x.run s).2 = rest s

theorem Quiet.pure (a : α) : Quiet rest (Pure.pure a) :=
  fun _ => rfl

theorem Quiet.bind {x : StateM σ α} {f : α → StateM σ β} (hx : Quiet rest x)
    (hf : ∀ a, Quiet rest (f a)) : Quiet rest (x >>= f) :=
  fun s => (hf (x.run s).1 (x.run s).2).trans (hx s)

theorem Quiet.forM {f : α → StateM σ Unit} (hf : ∀ a, Quiet rest (f a)) (as : List α) :
    Quiet rest (as.forM f) := by
  induction as with
  | nil => exact .pure ()
  | cons a as ih => exact (hf a).bind fun _ => ih

theorem Quiet.blind {x : StateM σ Unit} (h : Quiet rest x) : Blind rest x :=
  fun s s' hsame => ⟨rfl, (h s).trans (hsame.trans (h s').symm)⟩

/-! ## Hosts -/

/-- Whether a host keeps what its files hold apart from the rest of its state, which shows in the
requests and in the printed lines: to read changes nothing there, nor do the log, the clock and the
lines where errors go, and nothing else depends on what files hold. -/
structure Host.ContentsApart [Host (StateM σ)] (see : σ → Sight) (rest : σ → κ) : Prop where
  seen : ∀ s s', rest s = rest s' →
    ∃ files lines, see s' = { see s with files := files, printedErrors := lines }
  readFile : ∀ path, Quiet rest (Host.readFile path : StateM σ _)
  pathExists : ∀ path, Quiet rest (Host.pathExists path : StateM σ _)
  clock : Quiet rest (Host.clock : StateM σ _)
  log : ∀ event, Quiet rest (Host.log event : StateM σ Unit)
  printErrorLine : ∀ line, Quiet rest (Host.printErrorLine line : StateM σ Unit)
  makeDirectories : ∀ path, Blind rest (Host.makeDirectories path : StateM σ _)
  writeFile : ∀ path bytes, Blind rest (Host.writeFile path bytes : StateM σ _)
  exchange : ∀ request, Blind rest (Host.exchange request : StateM σ _)
  today : Blind rest (Host.today : StateM σ _)
  freshId : Blind rest (Host.freshId : StateM σ _)
  printLine : ∀ line, Blind rest (Host.printLine line : StateM σ Unit)

namespace Host.ContentsApart

variable [Host (StateM σ)] {see : σ → Sight}

/-- The log may as well go to the terminal. -/
theorem showing (h : ContentsApart see rest) (filter : Log.Filter) :
    @ContentsApart σ κ (Log.showing filter) see rest := by
  have hprint : ∀ event, Quiet rest (Log.print filter event : StateM σ Unit) := fun event => by
    unfold Log.print
    split
    · exact h.clock.bind fun _ => h.printErrorLine _
    · exact .pure ()
  exact @ContentsApart.mk σ κ (Log.showing filter) see rest h.seen h.readFile h.pathExists h.clock
    hprint h.printErrorLine h.makeDirectories h.writeFile h.exchange h.today h.freshId h.printLine

/-! ## Setting up -/

theorem quiet_load (h : ContentsApart see rest) (env : Environment) (path : Path) :
    Quiet rest (Config.load env path : StateM σ _) := by
  refine (h.readFile path).bind fun content => ?_
  cases Config.ofBytes env path content with
  | error e => exact .pure _
  | ok config => exact (h.log _).bind fun _ => .pure _

theorem quiet_loadConfig (h : ContentsApart see rest) (env : Environment) (file : Option Path) :
    Quiet rest (Program.loadConfig env file : StateM σ _) := by
  cases file with
  | some path => exact (h.quiet_load env path).bind fun _ => .pure _
  | none =>
    refine .bind ((h.pathExists _).bind fun there => ?_) fun _ => .pure _
    cases there with
    | false => exact .pure _
    | true => exact h.quiet_load env _

theorem quiet_openOn (h : ContentsApart see rest) (config : Config) :
    Quiet rest (Session.openOn config : StateM σ _) := by
  unfold Session.openOn
  cases Session.create config with
  | error e => exact .pure _
  | ok session => exact (Quiet.forM h.log session.opening).bind fun _ => .pure _

/-- Nothing but the log tells that a session has been set up. -/
theorem quiet_setUp (h : ContentsApart see rest) (env : Environment) (line : CommandLine) :
    Quiet rest (Program.setUp env line : StateM σ _) := by
  refine (h.quiet_loadConfig env line.config).bind fun loaded => ?_
  cases loaded with
  | error failure => exact .pure _
  | ok config => exact (h.quiet_openOn _).bind fun _ => .pure _

theorem quiet_fail (h : ContentsApart see rest) (f : Program.Failure) :
    Quiet rest (Program.fail f : StateM σ _) :=
  (Quiet.forM h.printErrorLine f.lines).bind fun _ => .pure _

/-! ## Downloads -/

theorem closed (h : ContentsApart see rest) : Closed fun γ (x : StateM σ γ) => Blind rest x where
  pure a := .pure a
  bind hx hf := hx.bind hf
  makeDirectories := h.makeDirectories
  writeFile := h.writeFile
  exchange := h.exchange
  today := h.today
  freshId := h.freshId
  log event := (h.log event).blind

theorem blind_notify (h : ContentsApart see rest) (notice : Notification) :
    Blind rest (Program.notify notice : StateM σ Unit) :=
  Quiet.blind ((h.log _).bind fun _ => h.printErrorLine _)

/-- **A download is the same whatever files hold.** -/
theorem blind_perform (h : ContentsApart see rest) (session : Session) (edgeId : String)
    (id : Protocol.Id) (endpoint : Option String) (out : Option Path) :
    Blind rest (Program.perform session (.download edgeId id endpoint out) : StateM σ Nat) := by
  refine (h.closed.download h.blind_notify session ⟨edgeId, some id⟩).bind fun outcome => ?_
  cases outcome with
  | failed => exact .pure 1
  | saved fileName path size => exact (h.printLine path.text).bind fun _ => .pure 0

end Host.ContentsApart

/-! ## Rehearsals -/

namespace Attended

/-- An attended rehearsal without what its files hold, its log and the lines where errors went. -/
def outline (a : Attended) : FileSystem.Shape × Attended :=
  (a.rehearsal.files.shape,
    { a with rehearsal :=
        { a.rehearsal with
          files := { entries := [], here := [] }, log := [], printedErrors := [] } })

/-- The same with other files, another log and other lines where errors went. -/
def rewritten (a : Attended) (files : FileSystem) (log : List Log.Event) (lines : List String) :
    Attended :=
  { a with rehearsal :=
      { a.rehearsal with files := files, log := log, printedErrors := lines } }

theorem outline_rewritten {a : Attended} {files : FileSystem}
    (h : a.rehearsal.files.SameShape files) (log : List Log.Event) (lines : List String) :
    a.outline = (a.rewritten files log lines).outline :=
  Prod.ext (FileSystem.shape_eq_iff.mpr h) rfl

theorem exists_rewritten {a a' : Attended} (h : a.outline = a'.outline) :
    ∃ files log lines, a.rehearsal.files.SameShape files ∧ a' = a.rewritten files log lines := by
  obtain ⟨hshape, hrest⟩ := Prod.ext_iff.mp h
  refine ⟨a'.rehearsal.files, a'.rehearsal.log, a'.rehearsal.printedErrors,
    FileSystem.shape_eq_iff.mp hshape, ?_⟩
  exact (congrArg (·.rewritten a'.rehearsal.files a'.rehearsal.log a'.rehearsal.printedErrors)
    hrest).symm

theorem blind_outline {x : StateM Attended α}
    (h : ∀ a files log lines, a.rehearsal.files.SameShape files →
      (x.run a).1 = (x.run (a.rewritten files log lines)).1 ∧
        (x.run a).2.outline = (x.run (a.rewritten files log lines)).2.outline) :
    Blind outline x := by
  intro a a' hsame
  obtain ⟨files, log, lines, hshape, rfl⟩ := exists_rewritten hsame
  exact h a files log lines hshape

theorem contentsApart : Host.ContentsApart sight outline where
  seen a a' h := by
    obtain ⟨files, log, lines, -, rfl⟩ := exists_rewritten h
    exact ⟨files, lines, rfl⟩
  readFile _ _ := rfl
  pathExists _ _ := rfl
  clock _ := rfl
  log _ _ := rfl
  printErrorLine _ _ := rfl
  makeDirectories path := blind_outline fun a files log lines hshape => by
    have hmake := hshape.makeDirectories path
    rw [makeDirectories_eq]
    generalize hmade : a.rehearsal.files.makeDirectories path = made at hmake
    generalize hmade' : files.makeDirectories path = made' at hmake
    obtain ⟨after, fault⟩ := made
    obtain ⟨after', fault'⟩ := made'
    obtain ⟨hafter, rfl⟩ := hmake
    rw [run_lift (a := a) (Rehearsal.run_makeDirectories hmade),
      run_lift (a := a.rewritten files log lines) (Rehearsal.run_makeDirectories hmade')]
    exact ⟨rfl, Prod.ext (FileSystem.shape_eq_iff.mpr hafter) rfl⟩
  writeFile path bytes := blind_outline fun a files log lines hshape => by
    have hwrite := hshape.write path bytes
    rw [writeFile_eq]
    generalize hwritten : a.rehearsal.files.write path bytes = written at hwrite
    generalize hwritten' : files.write path bytes = written' at hwrite
    cases hwrite with
    | ok hafter =>
      rw [run_lift (a := a) (Rehearsal.run_writeFile hwritten),
        run_lift (a := a.rewritten files log lines) (Rehearsal.run_writeFile hwritten')]
      exact ⟨rfl, Prod.ext (FileSystem.shape_eq_iff.mpr hafter) rfl⟩
    | error e =>
      rw [run_lift (a := a) (Rehearsal.run_writeFile_of_error hwritten),
        run_lift (a := a.rewritten files log lines) (Rehearsal.run_writeFile_of_error hwritten')]
      exact ⟨rfl, outline_rewritten hshape log lines⟩
  exchange request := blind_outline fun a files log lines hshape => by
    obtain ⟨⟨_, server, date, time, calls, _, printed, _⟩, exchanges, notices⟩ := a
    cases server with
    | none => exact ⟨rfl, Prod.ext (FileSystem.shape_eq_iff.mpr hshape) rfl⟩
    | some server => exact ⟨rfl, Prod.ext (FileSystem.shape_eq_iff.mpr hshape) rfl⟩
  today := blind_outline fun _ _ log lines hshape => ⟨rfl, outline_rewritten hshape log lines⟩
  freshId := blind_outline fun _ _ _ _ hshape =>
    ⟨rfl, Prod.ext (FileSystem.shape_eq_iff.mpr hshape) rfl⟩
  printLine _ := blind_outline fun _ _ _ _ hshape =>
    ⟨rfl, Prod.ext (FileSystem.shape_eq_iff.mpr hshape) rfl⟩

end Attended

end Commissioning
