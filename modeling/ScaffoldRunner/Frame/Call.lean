import ScaffoldRunner.Frame.Basic
import ScaffoldRunner.Frame.Error
import ScaffoldRunner.Stage

/-!
# Calls of frames

What a frame gets to see when it is called.
-/

namespace ScaffoldRunner

structure FrameCall where
  stage : Stage
  frame : Frame
  inputData : Json
  /-- The results of earlier stages, under their result keys. -/
  previousResults : Members
  /-- The context that an earlier run of the scaffold left. -/
  preserved : Option Json
  /-- How many attempts were made before this one. -/
  attemptCount : Nat
  maxAttempts : Nat

namespace FrameCall

/-- The first call of a frame; at least one attempt is allowed. -/
def first (stage : Stage) (frame : Frame) (inputData : Json) (previousResults : Members)
    (preserved : Option Json) (maxAttempts : Nat) : FrameCall where
  stage := stage
  frame := frame
  inputData := inputData
  previousResults := previousResults
  preserved := preserved
  attemptCount := 0
  maxAttempts := max maxAttempts 1

def parameters (call : FrameCall) : Members := call.frame.parameters

/-- The number of the attempt, counted from one. -/
def attempt (call : FrameCall) : Nat := call.attemptCount + 1

def next (call : FrameCall) : FrameCall := { call with attemptCount := call.attemptCount + 1 }

end FrameCall

abbrev FrameOutcome := Except FrameError Members

end ScaffoldRunner
