import ChatRelay.Report
import ChatRelay.Settings

/-!
Running cycles one after another until the relay has done what it was asked for or is told to stop. A
stop is only noticed between cycles. A failed cycle counts like any other and does not end the loop.
-/

namespace ChatRelay

structure PollingOptions where
  ackPolicy : AckPolicy
  /-- The pause between cycles, in milliseconds. -/
  pollInterval : Nat
  once : Bool
  maxCycles : Option Nat := none
deriving DecidableEq

def PollingOptions.ofSettings (s : Settings) : PollingOptions :=
  { ackPolicy := s.ackPolicy, pollInterval := s.pollInterval, once := s.once }

/-- Whether the loop is done after a number of cycles. At least one cycle runs before this is asked. -/
def PollingOptions.isDone (options : PollingOptions) (cycles : Nat) : Bool :=
  options.once ||
    match options.maxCycles with
    | some most => most ≤ cycles
    | none => false

/-- What the loop does besides its cycles. -/
structure PollingHooks (m : Type → Type) where
  isCancelled : m Bool
  onCycle : CycleReport → m Unit
  pause : Nat → m Unit

namespace Polling

variable {m : Type → Type} [Monad m]

/-- Run cycles until the loop is done or cancelled, and at most as many as the fuel allows. `cycles` and
`last` say how many have run and what the last one reported. The result is the last report. -/
def runFrom (cycle : m CycleReport) (options : PollingOptions) (hooks : PollingHooks m) :
    (fuel cycles : Nat) → (last : Option CycleReport) → m (Option CycleReport)
  | 0, _, last => return last
  | fuel + 1, cycles, last => do
      if ← hooks.isCancelled then return last
      else
        let report ← cycle
        hooks.onCycle report
        if options.isDone (cycles + 1) then return some report
        else
          hooks.pause options.pollInterval
          runFrom cycle options hooks fuel (cycles + 1) (some report)

/-- Run cycles from the start. -/
def run (cycle : m CycleReport) (options : PollingOptions) (hooks : PollingHooks m) (fuel : Nat) :
    m (Option CycleReport) :=
  runFrom cycle options hooks fuel 0 none

end Polling

end ChatRelay
