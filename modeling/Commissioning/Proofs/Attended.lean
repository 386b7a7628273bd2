import Commissioning.Proofs.Downloader.Apart
import Commissioning.Proofs.Program
import Commissioning.Proofs.Rehearsal

set_option autoImplicit false

/-! # Rehearsals that are attended

A rehearsal with someone who takes down each request with its response, and each notification. It is
a host that is watched (`Attended.visible`), and that keeps its log apart (`Attended.apart`). -/

namespace Commissioning

/-- A rehearsal, and what has been taken down. -/
structure Attended where
  rehearsal : Rehearsal
  exchanges : List (Http.Request × Option Http.Response) := []
  notices : List Notification := []

namespace Attended

/-- What is done on the rehearsal, without anything taken down. -/
def lift {α : Type} (x : StateM Rehearsal α) : StateM Attended α := fun a =>
  ((x.run a.rehearsal).1, { a with rehearsal := (x.run a.rehearsal).2 })

theorem run_lift {α : Type} {x : StateM Rehearsal α} {a : Attended} {b : α} {r : Rehearsal}
    (h : x.run a.rehearsal = (b, r)) : (lift x).run a = (b, { a with rehearsal := r }) := by
  have hlift : (lift x).run a
      = ((x.run a.rehearsal).1, { a with rehearsal := (x.run a.rehearsal).2 }) :=
    rfl
  rw [hlift, h]

instance : Host (StateM Attended) where
  readFile path := lift (Host.readFile path)
  pathExists path := lift (Host.pathExists path)
  makeDirectories path := lift (Host.makeDirectories path)
  writeFile path bytes := lift (Host.writeFile path bytes)
  exchange request a :=
    let (response, a) := (lift (Host.exchange request)).run a
    (response, { a with exchanges := a.exchanges ++ [(request, response)] })
  today := lift Host.today
  clock := lift Host.clock
  freshId := lift Host.freshId
  log event := lift (Host.log event)
  printLine line := lift (Host.printLine line)
  printErrorLine line := lift (Host.printErrorLine line)

theorem makeDirectories_eq (path : Path) :
    (Host.makeDirectories path : StateM Attended _) = lift (Host.makeDirectories path) :=
  rfl

theorem writeFile_eq (path : Path) (bytes : List UInt8) :
    (Host.writeFile path bytes : StateM Attended _) = lift (Host.writeFile path bytes) :=
  rfl

/-- A notification is taken down. -/
def take (notice : Notification) : StateM Attended Unit := fun a =>
  ((), { a with notices := a.notices ++ [notice] })

/-- What is seen of an attended rehearsal. -/
def sight (a : Attended) : Sight where
  files := a.rehearsal.files
  exchanges := a.exchanges
  printed := a.rehearsal.printed
  printedErrors := a.rehearsal.printedErrors
  notices := a.notices

theorem visible : Host.Visible sight where
  readFile path a := ⟨a, rfl, rfl⟩
  pathExists path a := ⟨a, rfl, rfl⟩
  makeDirectories path a := ⟨_, _, _, rfl, rfl⟩
  writeFile path bytes a := by
    cases hwrite : a.rehearsal.files.write path bytes with
    | ok files =>
      exact ⟨_, files, _, run_lift (Rehearsal.run_writeFile hwrite), rfl, fun _ => hwrite⟩
    | error e =>
      exact ⟨_, _, _, run_lift (Rehearsal.run_writeFile_of_error hwrite), rfl, by simp⟩
  exchange request a := by
    obtain ⟨⟨files, server, date, time, calls, log, printed, printedErrors⟩, exchanges, notices⟩ := a
    cases server with
    | none => exact ⟨none, _, rfl, rfl⟩
    | some server => exact ⟨(server.answer request).1, _, rfl, rfl⟩
  today _ := rfl
  clock _ := rfl
  freshId _ := rfl
  log _ a := .refl a.sight
  printLine _ _ := rfl
  printErrorLine _ _ := rfl

/-! ## The log -/

/-- An attended rehearsal without its log. -/
def quiet (a : Attended) : Attended :=
  { a with rehearsal := { a.rehearsal with log := [] } }

/-- The same with another log. -/
def logging (a : Attended) (log : List Log.Event) : Attended :=
  { a with rehearsal := { a.rehearsal with log := log } }

theorem exists_logging {a a' : Attended} (h : a.quiet = a'.quiet) : ∃ log, a' = a.logging log := by
  refine ⟨a'.rehearsal.log, ?_⟩
  have hlogged := congrArg (·.logging a'.rehearsal.log) h
  exact hlogged.symm

theorem blind_quiet {α : Type} {x : StateM Attended α}
    (h : ∀ a log, (x.run a).1 = (x.run (a.logging log)).1 ∧
      (x.run a).2.quiet = (x.run (a.logging log)).2.quiet) : Blind quiet x := by
  intro a a' hsame
  obtain ⟨log, rfl⟩ := exists_logging hsame
  exact h a log

theorem blind_take (notice : Notification) : Blind quiet (take notice) :=
  blind_quiet fun _ _ => ⟨rfl, rfl⟩

theorem apart : Host.LogApart sight quiet where
  seen a a' h := by
    obtain ⟨log, rfl⟩ := exists_logging h
    exact ⟨a.rehearsal.printedErrors, rfl⟩
  log _ _ := rfl
  makeDirectories path := blind_quiet fun _ _ => ⟨rfl, rfl⟩
  writeFile path bytes := blind_quiet fun a log => by
    rw [writeFile_eq]
    cases hwrite : a.rehearsal.files.write path bytes with
    | ok files =>
      rw [run_lift (a := a) (Rehearsal.run_writeFile hwrite),
        run_lift (a := a.logging log) (Rehearsal.run_writeFile hwrite)]
      exact ⟨rfl, rfl⟩
    | error e =>
      rw [run_lift (a := a) (Rehearsal.run_writeFile_of_error hwrite),
        run_lift (a := a.logging log) (Rehearsal.run_writeFile_of_error hwrite)]
      exact ⟨rfl, rfl⟩
  exchange request := blind_quiet fun a log => by
    obtain ⟨⟨files, server, date, time, calls, _, printed, printedErrors⟩, exchanges, notices⟩ := a
    cases server with
    | none => exact ⟨rfl, rfl⟩
    | some server => exact ⟨rfl, rfl⟩
  today := blind_quiet fun _ _ => ⟨rfl, rfl⟩
  freshId := blind_quiet fun _ _ => ⟨rfl, rfl⟩

/-! ### A booth

A disk with a configuration file, and a backend at the local address that gives one answer. -/

/-- The configuration in the file of the booth. -/
def boothConfig : Config where
  endpoint := "http://[::1]/"
  downloadDir := ⟨"/saved"⟩
  fileNameStem := "IBN"
  username := none
  password := none
  views := ["configuration", "completion"]

/-- The answer of the backend. -/
def boothAnswer : Json.Value :=
  .object [("result", .object [("payload", .text "JVBE")])]

def booth : Attended where
  rehearsal :=
    { files := FileSystem.set { entries := [], here := [] }
        [['c', 'o', 'n', 'f', 'i', 'g', '.', 'j', 's', 'o', 'n']]
        (.file (Text.encodeUtf8 boothConfig.toJson.compact))
      date := (Date.of? 2024 4 2).get rfl
      server := some
        { host := .address6 [0, 0, 0, 0, 0, 0, 0, 1], port := 80,
          responses := [some { status := 200, body := Text.encodeUtf8 boothAnswer.compact }] } }

theorem configOn_booth :
    Program.configOn {} booth.sight.files (some ⟨"/config.json"⟩) = .ok boothConfig := by
  decide +kernel

theorem exists_session_booth : ∃ session, Session.create boothConfig = .ok session := by
  refine exists_of_isOk ?_
  decide +kernel

end Attended

end Commissioning
