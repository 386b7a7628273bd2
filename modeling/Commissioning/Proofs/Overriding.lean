import Commissioning.Proofs.Config
import Commissioning.Proofs.Contents
import Commissioning.Proofs.Files.Writing
import Commissioning.Proofs.Json.Written

set_option autoImplicit false

/-! # Flags in place of a configuration file

A download whose command line names the endpoint and the directory is the same whatever a
configuration file says about them, on any host that keeps what its files hold apart
(`flags_override`). There is one exception: the file is refused when its own endpoint is not one
over HTTP, since it is checked before the flags take its place. -/

namespace Commissioning

open Json

/-! ## Files -/

namespace FileSystem

/-- Whether a path leads to a file with an object of some members. -/
def Holds (fs : FileSystem) (path : Path) (members : List (String × Value)) : Prop :=
  ∃ text, fs.read path = .ok (Text.encodeUtf8 text) ∧ parse text = .ok (.object members)

/-- Whether a path leads to objects in two file systems that differ in nothing but what flags take
the place of. -/
def Overridable (path : Path) (fs fs' : FileSystem) : Prop :=
  ∃ members members', fs.Holds path members ∧ fs'.Holds path members' ∧
    List.Forall₂ Config.Replaceable members members'

end FileSystem

namespace Program

/-! ## Sessions -/

/-- A file that is there is read, whether the command line names it or not. -/
theorem exists_configOn {env : Environment} {file : Option Path} {fs : FileSystem}
    {bytes : List UInt8} (h : fs.read (file.getD (Config.defaultPath env)) = .ok bytes) :
    ∃ context, configOn env fs file
      = (Config.ofBytes env (file.getD (Config.defaultPath env)) (.ok bytes)).mapError
          (Failure.mk context) := by
  cases file with
  | some path =>
    simp only [Option.getD_some] at h ⊢
    refine ⟨"failed to load config " ++ path.text, ?_⟩
    simp only [configOn, h]
  | none =>
    simp only [Option.getD_none] at h ⊢
    refine ⟨"failed to load default config", ?_⟩
    simp only [configOn, FileSystem.contains_of_read h, if_true, h]

/-- A command that names the endpoint and the directory makes one configuration of two that differ
in nothing else. -/
theorem configured_eq {c c' : Config} (h : c.SameBehind c') (edgeId : String) (id : Protocol.Id)
    (endpoint : String) (out : Path) :
    configured c' (.download edgeId id (some endpoint) (some out))
      = configured c (.download edgeId id (some endpoint) (some out)) := by
  unfold configured
  simp only [Option.getD_some, h.fileNameStem, h.username, h.password, h.views]

/-- From two files that differ in what the command line replaces the same session is made, or
none. -/
theorem toOption_sessionOn {env : Environment} {line : CommandLine} {edgeId : String}
    {id : Protocol.Id} {endpoint : String} {out : Path}
    (hcommand : line.command = .download edgeId id (some endpoint) (some out))
    {fs fs' : FileSystem}
    (h : FileSystem.Overridable (line.config.getD (Config.defaultPath env)) fs fs') :
    (sessionOn env fs' line).toOption = (sessionOn env fs line).toOption := by
  obtain ⟨members, members', ⟨text, hread, hparse⟩, ⟨text', hread', hparse'⟩, hmembers⟩ := h
  obtain ⟨context, hconfig⟩ := exists_configOn hread
  obtain ⟨context', hconfig'⟩ := exists_configOn hread'
  have hloaded := Config.ofBytes_alike env (line.config.getD (Config.defaultPath env)) hparse
    hparse' hmembers
  unfold sessionOn
  rw [hconfig, hconfig', hcommand]
  generalize Config.ofBytes env _ (.ok (Text.encodeUtf8 text)) = loaded at hloaded ⊢
  generalize Config.ofBytes env _ (.ok (Text.encodeUtf8 text')) = loaded' at hloaded ⊢
  cases loaded with
  | error e =>
    cases loaded' with
    | ok c' => nomatch hloaded
    | error e' => rfl
  | ok c =>
    cases loaded' with
    | error e' => nomatch hloaded
    | ok c' =>
      cases hloaded with
      | some hsame => simp only [Except.mapError, ok_bind, configured_eq hsame]

end Program

/-! ## The program -/

namespace Host.ContentsApart

variable {σ κ : Type} [Host (StateM σ)] {see : σ → Sight} {rest : σ → κ}

/-- Two sessions that cannot be set up, or one that can, come to the same. -/
theorem conclude (h : ContentsApart see rest) {opened opened' : Except Program.Failure Session}
    (hopened : opened'.toOption = opened.toOption) (edgeId : String) (id : Protocol.Id)
    (endpoint : Option String) (out : Option Path) :
    SameAnswer rest
      (Program.conclude (.download edgeId id endpoint out) opened : StateM σ Nat)
      (Program.conclude (.download edgeId id endpoint out) opened') := by
  cases opened with
  | ok session =>
    cases opened' with
    | error failure' => nomatch hopened
    | ok session' =>
      obtain rfl := Option.some.inj hopened
      exact h.blind_perform session' edgeId id endpoint out
  | error failure =>
    cases opened' with
    | ok session' => nomatch hopened
    | error failure' =>
      intro s s' hsame
      have hfail := (h.quiet_fail failure s).trans (hsame.trans (h.quiet_fail failure' s').symm)
      exact ⟨rfl, hfail⟩

/-- A command line that replaces what two files differ in is carried out alike. -/
theorem runs_alike (h : ContentsApart see rest) (hvisible : Visible see) {env : Environment}
    {line : CommandLine} {edgeId : String} {id : Protocol.Id} {endpoint : String} {out : Path}
    (hcommand : line.command = .download edgeId id (some endpoint) (some out)) {s s' : σ}
    (hrest : rest s = rest s')
    (hfiles : (see s).files.Overridable (line.config.getD (Config.defaultPath env))
      (see s').files) :
    ((Program.run env line : StateM σ Nat).run s).1
        = ((Program.run env line : StateM σ Nat).run s').1 ∧
      rest ((Program.run env line : StateM σ Nat).run s).2
        = rest ((Program.run env line : StateM σ Nat).run s').2 := by
  obtain ⟨ready, hsetUp, -⟩ := hvisible.setUp env line s
  obtain ⟨ready', hsetUp', -⟩ := hvisible.setUp env line s'
  have hquiet := h.quiet_setUp env line s
  have hquiet' := h.quiet_setUp env line s'
  rw [hsetUp] at hquiet
  rw [hsetUp'] at hquiet'
  rw [Program.run_eq_bind, run_bind_of_run hsetUp, run_bind_of_run hsetUp', hcommand]
  exact h.conclude (Program.toOption_sessionOn hcommand hfiles) edgeId id (some endpoint) (some out)
    ready ready' (hquiet.trans (hrest.trans hquiet'.symm))

end Host.ContentsApart

/-- **Flags take the place of what a configuration file says.** -/
theorem flags_override {σ κ : Type} [Host (StateM σ)] {see : σ → Sight} {rest : σ → κ}
    (hvisible : Host.Visible see) (hcontents : Host.ContentsApart see rest) {env : Environment}
    {words : List String} {line : CommandLine} {edgeId : String} {id : Protocol.Id}
    {endpoint : String} {out : Path} (hread : CommandLine.read words = .ok line)
    (hcommand : line.command = .download edgeId id (some endpoint) (some out)) {s s' : σ}
    (hrest : rest s = rest s')
    (hfiles : (see s).files.Overridable (line.config.getD (Config.defaultPath env))
      (see s').files) :
    ∀ program ∈ [(Program.main env words : StateM σ Nat), Program.mainShown env words],
      (program.run s).1 = (program.run s').1 ∧
        (see (program.run s').2).printed = (see (program.run s).2).printed ∧
        (see (program.run s').2).exchanges = (see (program.run s).2).exchanges ∧
        rest (program.run s).2 = rest (program.run s').2 := by
  intro program hprogram
  -- The complaints about the log filter change neither the rest nor the files.
  have hquiet := Quiet.forM hcontents.printErrorLine
    (Log.Filter.choose env.logFilter line.logLevel).2
  have hkept := fun s => congrArg Sight.files
    (hvisible.forM_printErrorLine (Log.Filter.choose env.logFilter line.logLevel).2 s)
  have hstart := (hquiet s).trans (hrest.trans (hquiet s').symm)
  have hseen := hcontents.seen
  obtain ⟨host, hhost, rfl⟩ := Program.main_eq hread hprogram
  have hboth : @Host.Visible σ host see ∧ @Host.ContentsApart σ κ host see rest := by
    rcases hhost with rfl | ⟨filter, rfl⟩
    · exact ⟨hvisible, hcontents⟩
    · exact ⟨hvisible.showing filter, hcontents.showing filter⟩
  obtain ⟨hcode, hend⟩ := hboth.2.runs_alike hboth.1 hcommand hstart
    ((hkept s).symm ▸ (hkept s').symm ▸ hfiles)
  obtain ⟨files, lines, hsee⟩ := hseen _ _ hend
  have hprinted := congrArg Sight.printed hsee
  have hexchanges := congrArg Sight.exchanges hsee
  exact ⟨hcode, hprinted, hexchanges, hend⟩

/-! ### Files that name other backends

The command line names a backend at the local address, which gives one answer over HTTPS. -/

/-- A command line that names the endpoint and the directory. -/
def deskWords : List String :=
  ["--config", "/config.json", "download", "--edge-id", "E1", "--protocol-id", "7",
    "--endpoint", "https://[::1]/", "--out", "/saved"]

def deskLine : CommandLine where
  config := some ⟨"/config.json"⟩
  command := .download "E1" (.number 7) (some "https://[::1]/") (some ⟨"/saved"⟩)

/-- A configuration file that names an endpoint and a directory as well. -/
def deskMembers (endpoint dir : String) : List (String × Value) :=
  [("endpoint", .text endpoint), ("download_dir", .text dir)]

/-- The answer of the backend. -/
def deskAnswer : Value :=
  .object [("result", .object [("payload", .text "JVBE")])]

/-- The host with some bytes in its configuration file. -/
def deskHolding (bytes : List UInt8) : Attended where
  rehearsal :=
    { files := FileSystem.set { entries := [], here := [] }
        [['c', 'o', 'n', 'f', 'i', 'g', '.', 'j', 's', 'o', 'n']] (.file bytes)
      date := (Date.of? 2024 3 8).get rfl
      server := some
        { scheme := "https", host := .address6 [0, 0, 0, 0, 0, 0, 0, 1], port := 443,
          responses := [some { status := 200, body := Text.encodeUtf8 deskAnswer.compact }] } }

def deskHost (endpoint dir : String) : Attended :=
  deskHolding (Text.encodeUtf8 (Value.object (deskMembers endpoint dir)).compact)

theorem read_deskWords : CommandLine.read deskWords = .ok deskLine := by
  decide +kernel

theorem outline_deskHolding (bytes bytes' : List UInt8) :
    (deskHolding bytes).outline = (deskHolding bytes').outline :=
  Prod.ext (FileSystem.shape_eq_iff.mpr ((FileSystem.SameShape.refl _).set _ (by simp))) rfl

theorem holds_deskHost (endpoint dir : String) :
    (deskHost endpoint dir).sight.files.Holds ⟨"/config.json"⟩ (deskMembers endpoint dir) :=
  ⟨_, rfl, parse_compact ⟨trivial, trivial, trivial⟩⟩

/-- What the program does with the command line. -/
def deskRun (endpoint dir : String) : Nat × Attended :=
  (Program.mainShown {} deskWords : StateM Attended Nat).run (deskHost endpoint dir)

/-- With another backend and another directory in the file, the document is saved and its path
printed all the same, for one request that has been answered. -/
theorem flags_override_desk :
    CommandLine.read deskWords = .ok deskLine ∧
      (deskRun "http://[::1]/" "/a").1 = 0 ∧
      ((deskRun "http://[::1]/" "/a").2.exchanges.map fun e => (e.1.url.text, e.2.isSome))
        = [("https://[::1]/", true)] ∧
      (deskRun "http://[::1]/" "/a").1 = (deskRun "https://[::2]/" "/b").1 ∧
      (deskRun "https://[::2]/" "/b").2.sight.printed
        = (deskRun "http://[::1]/" "/a").2.sight.printed ∧
      (deskRun "https://[::2]/" "/b").2.sight.exchanges
        = (deskRun "http://[::1]/" "/a").2.sight.exchanges ∧
      (deskRun "http://[::1]/" "/a").2.outline = (deskRun "https://[::2]/" "/b").2.outline := by
  have hplain : Config.IsHttp "http://[::1]/" :=
    ⟨⟨"http", some { host := some (.address6 [0, 0, 0, 0, 0, 0, 0, 1]) }, "/", none, none⟩,
      by decide +kernel, .inl rfl⟩
  have hsecure : Config.IsHttp "https://[::2]/" :=
    ⟨⟨"https", some { host := some (.address6 [0, 0, 0, 0, 0, 0, 0, 2]) }, "/", none, none⟩,
      by decide +kernel, .inr rfl⟩
  have hmembers : List.Forall₂ Config.Replaceable (deskMembers "http://[::1]/" "/a")
      (deskMembers "https://[::2]/" "/b") :=
    .cons (.endpoint _ _ (iff_of_true hplain hsecure)) (.cons (.downloadDir _ _) .nil)
  have hfiles : (deskHost "http://[::1]/" "/a").sight.files.Overridable ⟨"/config.json"⟩
      (deskHost "https://[::2]/" "/b").sight.files :=
    ⟨_, _, holds_deskHost _ _, holds_deskHost _ _, hmembers⟩
  have hsaved : (deskRun "http://[::1]/" "/a").1 = 0 := by
    decide +kernel
  have hasked : ((deskRun "http://[::1]/" "/a").2.exchanges.map
      fun e => (e.1.url.text, e.2.isSome)) = [("https://[::1]/", true)] := by
    decide +kernel
  exact ⟨read_deskWords, hsaved, hasked, flags_override Attended.visible Attended.contentsApart
    read_deskWords rfl (outline_deskHolding _ _) hfiles _ (List.mem_pair.mpr (.inr rfl))⟩

/-- An endpoint without its scheme is refused, although the command line takes its place. -/
theorem refused_for_own_endpoint :
    CommandLine.read deskWords = .ok deskLine ∧
      (deskHost "http://[::1]/" "/a").outline = (deskHost "desk:8084/" "/a").outline ∧
      (deskHost "http://[::1]/" "/a").sight.files.Holds ⟨"/config.json"⟩
        (deskMembers "http://[::1]/" "/a") ∧
      (deskHost "desk:8084/" "/a").sight.files.Holds ⟨"/config.json"⟩
        (deskMembers "desk:8084/" "/a") ∧
      (deskRun "http://[::1]/" "/a").1 = 0 ∧ (deskRun "desk:8084/" "/a").1 = 1 := by
  refine ⟨read_deskWords, outline_deskHolding _ _, holds_deskHost _ _, holds_deskHost _ _, ?_, ?_⟩
  · decide +kernel
  · decide +kernel

end Commissioning
