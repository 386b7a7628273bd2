import Commissioning.Program
import Mathlib.Tactic.Common

set_option autoImplicit false

/-! # The log on the terminal

The program with its log on the terminal is the program on another host: one that prints its log
through a filter where errors go, and does everything else as before (`Program.run_shown`). -/

namespace Commissioning

variable {m : Type → Type} [Monad m]

namespace Log

/-- Two steps are run with a filter one after the other. -/
theorem run_bind_eq {α β : Type} {filter : Filter} {x : Shown m α} {f : α → Shown m β} {x' : m α}
    {f' : α → m β} (hx : x.run filter = x') (hf : ∀ a, (f a).run filter = f' a) :
    (x >>= f).run filter = x' >>= f' := by
  obtain rfl := hx
  obtain rfl : (fun a => (f a).run filter) = f' := funext hf
  rfl

variable [host : Host m]

/-- The host that prints its log through a filter, and is otherwise another one. -/
@[reducible] def showing (filter : Filter) : Host m :=
  { host with log := print filter }

theorem run_forM_log (filter : Filter) (events : List Event) :
    (events.forM Host.log : Shown m Unit).run filter = events.forM (print filter) := by
  induction events with
  | nil => rfl
  | cons event events ih => exact run_bind_eq rfl fun _ => ih

theorem run_forM_printErrorLine (filter : Filter) (lines : List String) :
    (lines.forM Host.printErrorLine : Shown m Unit).run filter
      = lines.forM Host.printErrorLine := by
  induction lines with
  | nil => rfl
  | cons line lines ih => exact run_bind_eq rfl fun _ => ih

end Log

open Log

variable [Host m]

/-! ## Setting up -/

theorem Config.load_shown (filter : Filter) (env : Environment) (path : Path) :
    (load env path : Shown m _).run filter = @load m _ (showing filter) env path := by
  refine run_bind_eq rfl fun content => ?_
  cases ofBytes env path content with
  | error e => rfl
  | ok config => rfl

theorem Config.loadOrDefault_shown (filter : Filter) (env : Environment) (path : Path) :
    (loadOrDefault env path : Shown m _).run filter
      = @loadOrDefault m _ (showing filter) env path := by
  refine run_bind_eq rfl fun there => ?_
  cases there with
  | false => rfl
  | true => exact load_shown filter env path

theorem Program.loadConfig_shown (filter : Filter) (env : Environment) (file : Option Path) :
    (loadConfig env file : Shown m _).run filter
      = @loadConfig m _ (showing filter) env file := by
  cases file with
  | some path => exact run_bind_eq (Config.load_shown filter env path) fun _ => rfl
  | none => exact run_bind_eq (Config.loadOrDefault_shown filter env _) fun _ => rfl

theorem Session.openOn_shown (filter : Filter) (config : Config) :
    (openOn config : Shown m _).run filter = @openOn m _ (showing filter) config := by
  unfold openOn
  cases create config with
  | error e => rfl
  | ok s => exact run_bind_eq (run_forM_log filter s.opening) fun _ => rfl

/-! ## Commands -/

theorem Saver.save_shown (filter : Filter) (s : Saver) (document : Document) :
    (s.save document : Shown m _).run filter = @save m _ (showing filter) s document := by
  refine run_bind_eq rfl fun made => ?_
  cases made with
  | error e => rfl
  | ok =>
    refine run_bind_eq rfl fun written => ?_
    cases written with
    | error e => rfl
    | ok => rfl

namespace Program

theorem step_shown (filter : Filter) (s : Session) (stage : Downloader.Stage) :
    ((s.downloader notify).step stage : Shown m _).run filter
      = (@Session.downloader m _ (showing filter) s (@notify m _ (showing filter))).step stage := by
  cases stage with
  | ready entity id => rfl
  | answered entity answer =>
    cases answer with
    | error reason => rfl
    | ok payload =>
      refine run_bind_eq rfl fun fileName => ?_
      cases Document.ofPayload payload fileName with
      | ok document => rfl
      | error fault => rfl
  | decoded document =>
    refine run_bind_eq (Saver.save_shown filter _ document) fun saved => ?_
    cases saved with
    | ok path => rfl
    | error reason => rfl
  | refused reason => rfl
  | finished outcome => rfl

theorem steps_shown (filter : Filter) (s : Session) (n : Nat) (stage : Downloader.Stage) :
    ((s.downloader notify).steps n stage : Shown m _).run filter
      = (@Session.downloader m _ (showing filter) s (@notify m _ (showing filter))).steps n
          stage := by
  induction n generalizing stage with
  | zero => rfl
  | succ n ih => exact run_bind_eq (step_shown filter s stage) ih

theorem replay_shown (filter : Filter) (s : Session) (events : List ViewEvent) :
    (replay s events : Shown m _).run filter = @replay m _ (showing filter) s events := by
  induction events generalizing s with
  | nil => rfl
  | cons event events ih =>
    unfold replay
    cases s.navigate event with
    | error e => rfl
    | ok step => exact run_bind_eq rfl fun _ => run_bind_eq rfl fun _ => ih step.1

theorem perform_shown (filter : Filter) (s : Session) (command : Command) :
    (perform s command : Shown m _).run filter = @perform m _ (showing filter) s command := by
  cases command with
  | download edgeId id endpoint out =>
    refine run_bind_eq (run_bind_eq (steps_shown filter s 4 _) fun _ => rfl) fun outcome => ?_
    cases outcome with
    | saved fileName path size => rfl
    | failed => rfl
  | features => rfl
  | wizard events => exact replay_shown filter s events

theorem fail_shown (filter : Filter) (f : Failure) :
    (fail f : Shown m _).run filter = @fail m _ (showing filter) f :=
  run_bind_eq (run_forM_printErrorLine filter f.lines) fun _ => rfl

/-- **A command line is carried out with the log on the terminal** as on a host that shows it. -/
theorem run_shown (filter : Filter) (env : Environment) (line : CommandLine) :
    (run env line : Shown m _).run filter = @run m _ (showing filter) env line := by
  refine run_bind_eq (loadConfig_shown filter env line.config) fun loaded => ?_
  cases loaded with
  | error failure => exact fail_shown filter failure
  | ok config =>
    refine run_bind_eq (Session.openOn_shown filter _) fun opened => ?_
    cases opened with
    | error e => exact fail_shown filter _
    | ok s => exact perform_shown filter s line.command

end Program

end Commissioning
