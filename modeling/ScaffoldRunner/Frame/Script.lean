import ScaffoldRunner.Frame.Call

/-!
# Scripted frames

A stand-in for real frames: every frame has a queue of answers. Answers are used up in order and
the last one is repeated, except one that is meant for a single use. A frame without answers
succeeds with an empty output.
-/

namespace ScaffoldRunner

inductive ScriptedAnswer where
  | respond (output : Members)
  | fail (reason : String)
  | failOnce (reason : String)
  | timeOut (seconds : Nat)

namespace ScriptedAnswer

/-- The answer that responds with a value; one that is no object is put into an object. -/
def ofValue : Json → ScriptedAnswer
  | .obj members => respond members
  | j => respond [("value", j)]

/-- What a call with this answer comes to. -/
def outcome : ScriptedAnswer → FrameOutcome
  | respond output => .ok output
  | fail reason | failOnce reason => .error (.execution reason)
  | timeOut seconds => .error (.timeout seconds)

def isSingleUse : ScriptedAnswer → Bool
  | failOnce _ => true
  | _ => false

end ScriptedAnswer

/-- The queues of scripted frames, and the calls made so far. -/
structure ScriptedFrames where
  queues : Dict (List ScriptedAnswer) := []
  calls : List FrameCall := []

namespace ScriptedFrames

/-- Add an answer to the queue of a frame. -/
def push (frames : ScriptedFrames) (frame : String) (answer : ScriptedAnswer) : ScriptedFrames :=
  { frames with queues := frames.queues.modify frame [] (· ++ [answer]) }

/-- What is left of a queue after its first answer was used. -/
def afterUse : List ScriptedAnswer → List ScriptedAnswer
  | [] => []
  | answer :: rest => if answer.isSingleUse || !rest.isEmpty then rest else [answer]

/-- The answers that are queued for a frame. -/
def queue (frames : ScriptedFrames) (frame : String) : List ScriptedAnswer :=
  (frames.queues.get? frame).getD []

def run (frames : ScriptedFrames) (call : FrameCall) : FrameOutcome × ScriptedFrames :=
  let calls := frames.calls ++ [call]
  match frames.queue call.frame.id with
  | [] => (.ok [], { frames with calls := calls })
  | answer :: rest =>
      (answer.outcome,
        { queues := frames.queues.insert call.frame.id (afterUse (answer :: rest))
          calls := calls })

def callCount (frames : ScriptedFrames) (frame : String) : Nat :=
  (frames.calls.filter fun call => call.frame.id == frame).length

end ScriptedFrames

end ScaffoldRunner
