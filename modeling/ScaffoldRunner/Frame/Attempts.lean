import ScaffoldRunner.Context.Store
import ScaffoldRunner.Frame.Error
import ScaffoldRunner.Schema.Validation
import ScaffoldRunner.Session

/-!
# Attempts to run a frame

A frame is tried until it succeeds or no attempt is left; the error of the last attempt is the
answer then. An attempt fails when the input of the run does not satisfy the schema of the frame,
when the frame fails, or when its result does not meet the criteria. Every attempt enters the
history and the metrics, and a success may leave a snapshot behind.
-/

namespace ScaffoldRunner

namespace FrameCall

variable {σ : Type}

/-- The result of a frame, unless it does not meet the criteria. -/
def judged (frame : Frame) (result : Members) : FrameOutcome :=
  match firstMismatch? result frame.successCriteria with
  | some mismatch => .error (.criteriaNotMet mismatch)
  | none => .ok result

/-- Why the input of the run must not be given to the frame. -/
def inputRefusal? (call : FrameCall) : Option String :=
  call.frame.inputSchema.bind fun schema => Schema.refusal? schema call.inputData

def attemptOnce (host : Host σ) (call : FrameCall) : SessionM σ FrameOutcome :=
  match call.inputRefusal? with
  | some reason => return .error (.invalidInput reason)
  | none => do
      match ← Session.ask (host.callFrame call) with
      | .error e => return .error e
      | .ok result => return judged call.frame result

/-- The snapshot that a success leaves behind. -/
def snapshot (call : FrameCall) (now : Instant) (result : Members) : FrameSnapshot where
  frameId := call.frame.id
  stage := call.stage.number
  inputData := call.inputData
  parameters := call.parameters
  result := result
  timestamp := now

/-- Save the snapshot of a success, if the frame wants one. That it cannot be saved is no failure
of the frame. -/
def keepSnapshot (store : ContextStore) (call : FrameCall) (result : Members)
    (session : Session σ) : Session σ :=
  if call.frame.contextPreservation then
    (session.onFiles (store.saveFrame (call.snapshot session.now result))).2
  else session

/-- The record of an attempt that began at a given time. -/
def record (call : FrameCall) (began now : Instant) (outcome : FrameOutcome) : FrameRecord where
  frameId := call.frame.id
  stage := call.stage
  attempt := call.attempt
  timestamp := now
  durationMillis := now.microsSince began / 1000
  outcome := outcome.mapError FrameError.message

/-- Whether an attempt ran out of time. -/
def timedOut : FrameOutcome → Bool
  | .error e => e.isTimeout
  | .ok _ => false

def succeeded : FrameOutcome → Bool
  | .ok _ => true
  | .error _ => false

/-- Enter an attempt that began at a given time into the metrics. -/
def countAttempt (call : FrameCall) (began : Instant) (outcome : FrameOutcome)
    (session : Session σ) : Session σ :=
  session.count fun m =>
    let millis := session.now.microsSince began / 1000
    let m := m.frameTried call.frame.id session.world.second millis (succeeded outcome)
    if timedOut outcome then m.frameTimedOut call.frame.id else m

/-- Do what follows an attempt that began at a given time. -/
def concludeAttempt (store : ContextStore) (call : FrameCall) (began : Instant)
    (outcome : FrameOutcome) (session : Session σ) : Session σ :=
  let session := call.countAttempt began outcome session
  let session := match outcome with
    | .ok result => call.keepSnapshot store result session
    | .error _ => session
  session.addFrame (call.record began session.now outcome)

/-- Try a frame once and enter the attempt. -/
def tryOnce (host : Host σ) (store : ContextStore) (call : FrameCall) :
    SessionM σ FrameOutcome := do
  let began := (← get).now
  let outcome ← attemptOnce host call
  modify (call.concludeAttempt store began outcome)
  return outcome

/-- Try a frame, and when it fails up to the given number of times again. -/
def tryTimes (host : Host σ) (store : ContextStore) : Nat → FrameCall → SessionM σ FrameOutcome
  | 0, call => call.tryOnce host store
  | retries + 1, call => do
      match ← call.tryOnce host store with
      | .ok result => return .ok result
      | .error _ => do
          modify (Session.count Metrics.frameRetried)
          tryTimes host store retries call.next

/-- Run a frame with all the attempts that the call allows. -/
def execute (host : Host σ) (store : ContextStore) (call : FrameCall) : SessionM σ FrameOutcome :=
  tryTimes host store (call.maxAttempts - call.attempt) call

end FrameCall

end ScaffoldRunner
