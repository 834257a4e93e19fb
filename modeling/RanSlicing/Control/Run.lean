import RanSlicing.Control.Cycle

/-!
# Running the loop

A run is a sequence of cycles on a clock: a first pause, then cycles with pauses between them. It
ends after the configured number of cycles or when it is told to shut down. The loop looks for the
signal while it pauses and before a cycle, so a cycle that has started is always finished.

A loop without a number of cycles and without a signal runs for ever. `run` therefore gives nothing
when no number of cycles can be told after which the loop has stopped.
-/

namespace RanSlicing

/-- Whether and when a run is told to shut down. -/
inductive Shutdown
  | never
  /-- before the run started -/
  | before
  /-- there is nobody who could tell it: a pause ends at once, and the loop with it -/
  | orphaned
  /-- at a time after the start of the run -/
  | atTime (t : Millis)
  deriving DecidableEq, Repr

namespace Shutdown

/-- Whether the signal is there at a time. -/
def signalled (s : Shutdown) (now : Millis) : Bool :=
  match s with
  | before => true
  | .atTime t => t ≤ now
  | _ => false

/-- The time at which a pause is cut short. -/
def interrupts? (s : Shutdown) (start length : Millis) : Option Millis :=
  match s with
  | never => none
  | before => some start
  | orphaned => some start
  | .atTime t => if t < start + length then some (max t start) else none

end Shutdown

/-- What a run has done when it stops. -/
structure RunResult (α : Type) where
  /-- the state of the loop afterwards -/
  loop : ControlLoop α
  /-- the cycles, in order -/
  cycles : List (CycleResult α)
  /-- time of the end, after the start of the run -/
  elapsed : Millis

namespace ControlLoop

variable {α : Type} [Share α]

/-- A run from the start of its cycle number `k` at the time `now`. It gives nothing if the loop has
not stopped after `limit` more cycles. -/
def runFrom (config : LoopConfig) (shutdown : Shutdown) (turns : Nat → Turn) (limit k : Nat)
    (now : Millis) (l : ControlLoop α) : Option (RunResult α) :=
  if shutdown.signalled now then some ⟨l, [], now⟩
  else
    match limit with
    | 0 => none
    | limit + 1 =>
      let (l, cycle) := l.step config (turns k)
      let now := now + cycle.elapsed
      if config.maxCycles.any (· ≤ k + 1) then some ⟨l, [cycle], now⟩
      else
        match shutdown.interrupts? now config.interval with
        | some t => some ⟨l, [cycle], t⟩
        | none =>
          (runFrom config shutdown turns limit (k + 1) (now + config.interval) l).map
            (fun r => { r with cycles := cycle :: r.cycles })

/-- A number of cycles after which a loop that pauses between them has stopped, if there is one. -/
def cycleLimit? (config : LoopConfig) (shutdown : Shutdown) : Option Nat :=
  match config.maxCycles, shutdown with
  | some m, _ => some (max m 1)
  | none, .never => none
  | none, .before => some 0
  | none, .orphaned => some 1
  | none, .atTime t => some (t + 1)

/-- Runs a loop until it stops; `turns` says how its surroundings behave in each cycle. -/
def run (config : LoopConfig) (shutdown : Shutdown) (turns : Nat → Turn) (l : ControlLoop α) :
    Option (RunResult α) :=
  let begin : Option (RunResult α) :=
    (cycleLimit? config shutdown).bind
      (fun limit => runFrom config shutdown turns limit 0 config.initialDelay l)
  if config.initialDelay = 0 then begin
  else
    match shutdown.interrupts? 0 config.initialDelay with
    | some t => some ⟨l, [], t⟩
    | none => begin

end ControlLoop

end RanSlicing
