import ChatRelay.Polling
import ChatRelay.Relay
import ChatRelay.Settings.DotEnv

/-!
The program of the relay: it reads its settings from the variables of the process and from a file of
assignments, and polls until it is done. A failure ends with an exit code and with an account of its
causes.
-/

namespace ChatRelay.CommandLine

/-- How the program ends: with an exit code, a line of output and a text about a failure. -/
structure Outcome where
  exitCode : Nat
  line : Option String := none
  failure : Option String := none
deriving DecidableEq

/-- What the program gets from the system. -/
structure System (m : Type → Type) where
  environment : m Variables
  disk : Disk m
  transport : Http.Transport m
  isCancelled : m Bool
  pause : Nat → m Unit
  /-- A clock of milliseconds that never goes back. -/
  clock : m Nat

/-- An error and what caused it, the outermost text first. -/
def causes (e : Error) : List String :=
  match e with
  | .store reason => [e.message, reason.message]
  | .io text | .json text => [e.message, text]
  | _ => [e.message]

/-- A text whose later lines are as far indented as its first one. -/
def indentLater (width : Nat) (text : String) : String :=
  String.intercalate ("\n" ++ "".pushn ' ' width)
    ((Text.splitWhere (· == '\n') text.toList).map String.ofList)

/-- The causes one below the other, counted from zero. -/
def numbered : Nat → List String → String
  | _, [] => ""
  | n, cause :: rest =>
      "    " ++ toString n ++ ": " ++ indentLater 7 cause ++ "\n" ++ numbered (n + 1) rest

/-- The list of causes below a failure. A single cause is not counted. -/
def causeList : List String → String
  | [] => ""
  | [cause] => "\nCaused by:\n    " ++ indentLater 4 cause ++ "\n"
  | causes => "\nCaused by:\n" ++ numbered 0 causes

/-- The account of a failure and its causes. -/
def account (text : String) (causes : List String) : String :=
  "Error: " ++ text ++ "\n" ++ causeList causes

/-- The end of a program that failed. -/
def failed (text : String) (causes : List String) : Outcome :=
  { exitCode := 1, failure := some (account text causes) }

/-- The end of a program whose polling is over. Only a program that was asked for a single cycle tells
what the cycle did. -/
def finished (once : Bool) (last : Option CycleReport) : Outcome :=
  match once, last with
  | true, some report =>
      if report.result.isOk then { exitCode := 0, line := some report.line }
      else
        { failed ("cycle failed: " ++ report.result.reason.name) [] with line := some report.line }
  | _, _ => { exitCode := 0 }

variable {m : Type → Type} [Monad m]

/-- The settings from the variables of the process and from the file of assignments. -/
def loadSettings (system : System m) : m (Except Error Settings) := do
  match ← DotEnv.loadFile system.disk (← system.environment) with
  | .error e => return .error e
  | .ok vars => return Settings.ofVariables vars

/-- Poll with a relay that was put together. -/
def poll (system : System m) (settings : Settings) (parts : Assembly m) (fuel : Nat) :
    m (Option CycleReport) := do
  let hooks : PollingHooks (StateT Relay m) := {
    isCancelled := StateT.lift system.isCancelled
    onCycle := fun _ => pure ()
    pause := fun interval => StateT.lift (system.pause interval) }
  let cycle := parts.cycle settings none none system.clock
  let options := PollingOptions.ofSettings settings
  let (last, _) ← Polling.run cycle options hooks fuel ⟨parts.feed, [], []⟩
  return last

/-- Run the program, for at most as many cycles as the fuel allows. -/
def run (system : System m) (fuel : Nat) : m Outcome := do
  match ← loadSettings system with
  | .error e => return failed "load runtime config" (causes e)
  | .ok settings =>
      match ← Assembly.ofSettings system.disk system.transport settings with
      | .error e => return failed "build telegram adapter" (causes e)
      | .ok parts => return finished settings.once (← poll system settings parts fuel)

end ChatRelay.CommandLine
