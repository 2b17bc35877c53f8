import ScaffoldRunner.Json.Basic

/-!
# Metrics

Counters of runs, stages, frames and commands, and the last thousand durations of runs and of each
frame. A snapshot adds averages and percentiles; a percentile that falls between two samples is
interpolated.

All counters are natural numbers. Counters of 64 bits agree with them as long as fewer than 2^64
events are counted; beyond that they would start again at zero.
-/

namespace ScaffoldRunner

/-- What is counted for one frame. Durations are in milliseconds, the latest last. -/
structure FrameStats where
  executions : Nat := 0
  failures : Nat := 0
  timeouts : Nat := 0
  times : List Nat := []
  lastExecution : Nat := 0
  deriving DecidableEq, Inhabited

/-- What is counted for a pipeline. Durations are in milliseconds, the latest last. -/
structure Metrics where
  runsStarted : Nat := 0
  runsCompleted : Nat := 0
  runsFailed : Nat := 0
  runTimes : List Nat := []
  stagesCompleted : Nat := 0
  stagesFailed : Nat := 0
  stagesSkipped : Nat := 0
  frameRetries : Nat := 0
  frameStats : Dict FrameStats := []
  commandsExecuted : Nat := 0
  commandsFailed : Nat := 0
  runState : String := "idle"
  stateTransitions : Nat := 0
  /-- When counting began, in seconds. -/
  startedAt : Nat := 0
  deriving DecidableEq, Inhabited

/-- The number of samples that are kept. -/
def maxSamples : Nat := 1000

/-- Append a sample; beyond the limit the oldest one is dropped. -/
def pushSample (samples : List Nat) (value : Nat) : List Nat :=
  let grown := samples ++ [value]
  if maxSamples < grown.length then grown.drop 1 else grown

/-- The mean of some samples, zero when there are none. -/
def mean (samples : List Nat) : Float :=
  if samples.isEmpty then 0.0
  else (total samples).toUInt64.toFloat / samples.length.toUInt64.toFloat

/-- A percentile of ascending samples, zero when there are none. -/
def percentile (sorted : List Nat) (percent : Float) : Float :=
  if sorted.isEmpty then 0.0
  else
    let index := percent / 100.0 * (sorted.length - 1).toUInt64.toFloat
    let below := index.floor
    let fraction := index - below
    let sample (i : Float) : Float := (sorted.getD i.toUInt64.toNat 0).toUInt64.toFloat
    if fraction == 0.0 then sample index
    else sample below + (sample index.ceil - sample below) * fraction

namespace Metrics

def start (now : Nat) : Metrics := { startedAt := now }

def runBegan (m : Metrics) : Metrics := { m with runsStarted := m.runsStarted + 1 }

def runDone (m : Metrics) (millis : Nat) : Metrics :=
  { m with runsCompleted := m.runsCompleted + 1, runTimes := pushSample m.runTimes millis }

def runBroke (m : Metrics) (millis : Nat) : Metrics :=
  { m with runsFailed := m.runsFailed + 1, runTimes := pushSample m.runTimes millis }

def stageEnded (m : Metrics) (success : Bool) : Metrics :=
  if success then { m with stagesCompleted := m.stagesCompleted + 1 }
  else { m with stagesFailed := m.stagesFailed + 1 }

def stageSkipped (m : Metrics) : Metrics := { m with stagesSkipped := m.stagesSkipped + 1 }

/-- A frame was tried, at a given second and for some milliseconds. -/
def frameTried (m : Metrics) (frame : String) (now millis : Nat) (success : Bool) : Metrics :=
  { m with
    frameStats := m.frameStats.modify frame {} fun s =>
      { s with
        executions := s.executions + 1
        failures := if success then s.failures else s.failures + 1
        times := pushSample s.times millis
        lastExecution := now } }

/-- A frame that was tried before ran out of time. -/
def frameTimedOut (m : Metrics) (frame : String) : Metrics :=
  match m.frameStats.get? frame with
  | some s =>
      { m with frameStats := m.frameStats.insert frame { s with timeouts := s.timeouts + 1 } }
  | none => m

/-- A frame is tried again. -/
def frameRetried (m : Metrics) : Metrics := { m with frameRetries := m.frameRetries + 1 }

def commandRun (m : Metrics) (success : Bool) : Metrics :=
  { m with
    commandsExecuted := m.commandsExecuted + 1
    commandsFailed := if success then m.commandsFailed else m.commandsFailed + 1 }

/-- The state of the pipeline is set; only a change counts as a transition. -/
def setState (m : Metrics) (state : String) : Metrics :=
  if m.runState = state then m
  else { m with runState := state, stateTransitions := m.stateTransitions + 1 }

/-- Forget everything and start again at a given second. -/
def reset (_ : Metrics) (now : Nat) : Metrics := start now

def frameSnapshot (id : String) (s : FrameStats) : Json :=
  let rate := if s.executions = 0 then 0.0
    else (s.executions - s.failures).toUInt64.toFloat / s.executions.toUInt64.toFloat
  .obj [("id", .str id), ("executions", .nat s.executions), ("failures", .nat s.failures),
    ("timeouts", .nat s.timeouts), ("avg_execution_time_ms", .float (mean s.times)),
    ("p95_execution_time_ms", .float (percentile s.times.mergeSort 95.0)),
    ("last_execution", .nat s.lastExecution), ("success_rate", .float rate)]

/-- The snapshot of all metrics at a given second. -/
def snapshot (m : Metrics) (now : Nat) : Json :=
  let sorted := m.runTimes.mergeSort
  let stats := m.frameStats.values
  .obj [
    ("runs", .obj [("runs_started", .nat m.runsStarted), ("runs_completed", .nat m.runsCompleted),
      ("runs_failed", .nat m.runsFailed), ("avg_run_time_ms", .float (mean sorted)),
      ("run_time_p50_ms", .float (percentile sorted 50.0)),
      ("run_time_p95_ms", .float (percentile sorted 95.0)),
      ("current_state", .str m.runState), ("state_transitions", .nat m.stateTransitions)]),
    ("stages", .obj [("completed", .nat m.stagesCompleted), ("failed", .nat m.stagesFailed),
      ("skipped", .nat m.stagesSkipped)]),
    ("frames", .obj [
      ("frame_stats", .obj (m.frameStats.map fun (id, s) => (id, frameSnapshot id s))),
      ("total_executions", .nat (total (stats.map FrameStats.executions))),
      ("total_failures", .nat (total (stats.map FrameStats.failures))),
      ("total_timeouts", .nat (total (stats.map FrameStats.timeouts))),
      ("total_retries", .nat m.frameRetries),
      ("avg_execution_time_ms", .float (mean (stats.flatMap FrameStats.times)))]),
    ("commands", .obj [("executed", .nat m.commandsExecuted), ("failed", .nat m.commandsFailed)]),
    ("uptime_seconds", .nat (now - m.startedAt)), ("timestamp", .nat now)]

end Metrics

end ScaffoldRunner
