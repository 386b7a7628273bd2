import Commissioning.Proofs.Log.Showing
import Commissioning.Proofs.Sight
import Mathlib.Data.List.Basic

set_option autoImplicit false

/-! # The program on a host that is watched

Before the command of a command line is carried out, a session is set up for it. What comes of that
is a function of the files (`Program.sessionOn`), and nothing is seen of it but lines of the log,
wherever that goes (`Host.Visible.main_cases`). -/

namespace Commissioning

namespace Program

/-! ## Sessions -/

/-- The configuration that a command line names, or the one of the default file, by the files. -/
def configOn (env : Environment) (files : FileSystem) : Option Path → Except Failure Config
  | some path =>
    (Config.ofBytes env path (files.read path)).mapError
      (Failure.mk ("failed to load config " ++ path.text))
  | none =>
    if files.contains (Config.defaultPath env) then
      (Config.ofBytes env (Config.defaultPath env)
        (files.read (Config.defaultPath env))).mapError
          (Failure.mk "failed to load default config")
    else .ok (Config.default env)

/-- The session that the command of a command line is carried out in, or why there is none. -/
def sessionOn (env : Environment) (files : FileSystem) (line : CommandLine) :
    Except Failure Session := do
  let config ← configOn env files line.config
  (Session.create (configured config line.command)).mapError
    (Failure.mk "failed to set up commissioning")

/-- A session is set up on a host for the command of a command line. -/
def setUp {m : Type → Type} [Monad m] [Host m] (env : Environment) (line : CommandLine) :
    m (Except Failure Session) := do
  match ← loadConfig env line.config with
  | .error failure => pure (.error failure)
  | .ok config => do
    let opened ← Session.openOn (configured config line.command)
    pure (opened.mapError (Failure.mk "failed to set up commissioning"))

/-- What is done once it is known whether there is a session. -/
def conclude {m : Type → Type} [Monad m] [Host m] (command : Command) :
    Except Failure Session → m Nat
  | .error failure => fail failure
  | .ok session => perform session command

/-- A command line is carried out in two parts. -/
theorem run_eq_bind {m : Type → Type} [Monad m] [LawfulMonad m] [Host m] (env : Environment)
    (line : CommandLine) :
    (run env line : m Nat) = setUp env line >>= conclude line.command := by
  unfold run setUp
  rw [bind_assoc]
  congr
  funext loaded
  cases loaded with
  | error failure => simp only [pure_bind, conclude]
  | ok config =>
    simp only [bind_assoc, pure_bind]
    congr
    funext opened
    cases opened <;> rfl

/-- The program complains about its log filter and then carries out its command line, on the host
at hand or on the one that shows its log. -/
theorem main_eq {m : Type → Type} [Monad m] [here : Host m] {env : Environment}
    {words : List String} {line : CommandLine} (hread : CommandLine.read words = .ok line)
    {program : m Nat} (hprogram : program ∈ [main env words, mainShown env words]) :
    ∃ host, (host = here ∨ ∃ filter, host = @Log.showing m _ here filter) ∧
      program = (Log.Filter.choose env.logFilter line.logLevel).2.forM here.printErrorLine >>=
        fun _ => @run m _ host env line := by
  rcases List.mem_pair.mp hprogram with rfl | rfl
  · refine ⟨here, .inl rfl, ?_⟩
    unfold main withLine
    simp only [hread]
  · refine ⟨Log.showing (Log.Filter.choose env.logFilter line.logLevel).1, .inr ⟨_, rfl⟩, ?_⟩
    unfold mainShown withLine
    simp only [hread, run_shown]

theorem sessionOn_of_create {env : Environment} {files : FileSystem} {line : CommandLine}
    {config : Config} {session : Session} (hconfig : configOn env files line.config = .ok config)
    (hsession : Session.create (configured config line.command) = .ok session) :
    sessionOn env files line = .ok session := by
  unfold sessionOn
  rw [hconfig, ok_bind]
  exact mapError_eq_ok_iff.mpr hsession

end Program

namespace Host.Visible

variable {σ : Type} [Host (StateM σ)] {see : σ → Sight}

theorem load (h : Visible see) (env : Environment) (path : Path) (s : σ) :
    ∃ s', (Config.load env path : StateM σ _).run s
        = (Config.ofBytes env path ((see s).files.read path), s') ∧
      (see s).Logged (see s') := by
  obtain ⟨read, hread, hsee⟩ := h.readFile path s
  unfold Config.load
  rw [run_bind_of_run hread]
  cases Config.ofBytes env path ((see s).files.read path) with
  | error e => exact ⟨read, rfl, hsee ▸ .refl _⟩
  | ok config => exact ⟨_, rfl, hsee ▸ h.log (Config.loaded path) read⟩

theorem loadConfig (h : Visible see) (env : Environment) (file : Option Path) (s : σ) :
    ∃ s', (Program.loadConfig env file : StateM σ _).run s
        = (Program.configOn env (see s).files file, s') ∧
      (see s).Logged (see s') := by
  cases file with
  | some path =>
    obtain ⟨s', hload, hlogged⟩ := h.load env path s
    exact ⟨s', run_bind_of_run hload, hlogged⟩
  | none =>
    obtain ⟨looked, hlook, hsee⟩ := h.pathExists (Config.defaultPath env) s
    unfold Program.loadConfig Config.loadOrDefault Program.configOn
    rw [bind_assoc, run_bind_of_run hlook]
    cases (see s).files.contains (Config.defaultPath env) with
    | false => exact ⟨looked, rfl, hsee ▸ .refl _⟩
    | true =>
      obtain ⟨s', hload, hlogged⟩ := h.load env (Config.defaultPath env) looked
      rw [hsee] at hload hlogged
      exact ⟨s', run_bind_of_run hload, hlogged⟩

theorem openOn (h : Visible see) (config : Config) (s : σ) :
    ∃ s', (Session.openOn config : StateM σ _).run s = (Session.create config, s') ∧
      (see s).Logged (see s') := by
  unfold Session.openOn
  cases Session.create config with
  | error e => exact ⟨s, rfl, .refl _⟩
  | ok session => exact ⟨_, rfl, h.forM_log session.opening s⟩

/-! ## Running -/

theorem fail (h : Visible see) (f : Program.Failure) (s : σ) :
    ∃ s', (Program.fail f : StateM σ _).run s = (1, s') ∧
      see s' = (see s).complaining f.lines :=
  ⟨_, rfl, h.forM_printErrorLine f.lines s⟩

theorem setUp (h : Visible see) (env : Environment) (line : CommandLine) (s : σ) :
    ∃ ready, (Program.setUp env line : StateM σ _).run s
        = (Program.sessionOn env (see s).files line, ready) ∧
      (see s).Logged (see ready) := by
  obtain ⟨loaded, hload, hlogged⟩ := h.loadConfig env line.config s
  unfold Program.setUp Program.sessionOn
  rw [run_bind_of_run hload]
  cases Program.configOn env (see s).files line.config with
  | error f => exact ⟨loaded, rfl, hlogged⟩
  | ok config =>
    obtain ⟨ready, hopen, hlogged'⟩ := h.openOn (Program.configured config line.command) loaded
    exact ⟨ready, run_bind_of_run hopen, hlogged.trans hlogged'⟩

/-- What comes behind the set-up: the command in its session, or the failure. -/
theorem run_eq (h : Visible see) (env : Environment) (line : CommandLine) (s : σ) :
    ∃ ready, (see s).Logged (see ready) ∧
      (Program.run env line : StateM σ _).run s =
        match Program.sessionOn env (see s).files line with
        | .error f => (Program.fail f : StateM σ _).run ready
        | .ok session => (Program.perform session line.command : StateM σ _).run ready := by
  obtain ⟨ready, hsetUp, hlogged⟩ := h.setUp env line s
  refine ⟨ready, hlogged, ?_⟩
  rw [Program.run_eq_bind, run_bind_of_run hsetUp]
  cases Program.sessionOn env (see s).files line <;> rfl

/-! ## The log on the terminal -/

theorem print (h : Visible see) (filter : Log.Filter) (event : Log.Event) (s : σ) :
    (see s).Logged (see ((Log.print filter event : StateM σ _).run s).2) := by
  unfold Log.print
  split
  · have hline := h.printErrorLine (event.line ((Host.clock : StateM σ _).run s).1)
      ((Host.clock : StateM σ _).run s).2
    rw [h.clock] at hline
    exact hline ▸ Sight.logged_lines (by simpa using .event event _) _
  · exact .refl _

/-- A host that shows its log on the terminal is watched like any other. -/
theorem showing (h : Visible see) (filter : Log.Filter) :
    @Visible σ (Log.showing filter) see :=
  @Visible.mk σ (Log.showing filter) see h.readFile h.pathExists h.makeDirectories h.writeFile
    h.exchange h.today h.clock h.freshId (h.print filter) h.printLine h.printErrorLine

theorem isLine_of_complaint {line : String} {setting : Option String} {level : String}
    (hline : line ∈ (Log.Filter.choose setting level).2) : Log.IsLine line := by
  unfold Log.Filter.choose at hline
  split at hline
  · simp at hline
  · simp only [Log.Filter.parseLeniently, List.mem_filterMap, List.mem_map] at hline
    obtain ⟨_, ⟨piece, -, rfl⟩, hcomplaint⟩ := hline
    cases hparse : Log.Directive.parse piece with
    | ok d => simp [hparse] at hcomplaint
    | error fault =>
      simp only [hparse, Option.some.injEq] at hcomplaint
      exact hcomplaint ▸ .complaint piece fault

/-- **The program carries out its command line on a host that is watched**, with the log of the
host or with its log on the terminal. -/
theorem main_cases (h : Visible see) {env : Environment} {words : List String}
    {line : CommandLine} (hread : CommandLine.read words = .ok line) {program : StateM σ Nat}
    (hprogram : program ∈ [Program.main env words, Program.mainShown env words]) (s : σ) :
    ∃ (host : Host (StateM σ)) (started : σ), @Visible σ host see ∧
      (see s).Logged (see started) ∧
      program.run s = (@Program.run (StateM σ) _ host env line).run started := by
  have hcomplain := h.forM_printErrorLine (Log.Filter.choose env.logFilter line.logLevel).2 s
  have hlogged := hcomplain ▸ Sight.logged_lines (fun _ => isLine_of_complaint) (see s)
  obtain ⟨host, hhost, rfl⟩ := Program.main_eq hread hprogram
  refine ⟨host, _, ?_, hlogged, rfl⟩
  rcases hhost with rfl | ⟨filter, rfl⟩
  · exact h
  · exact h.showing filter

end Host.Visible

end Commissioning
