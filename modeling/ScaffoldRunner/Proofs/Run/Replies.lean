import ScaffoldRunner.Command.Execution
import ScaffoldRunner.Frame.Attempts

/-!
# Replies of the host

An attempt and a command each ask the host at most once, and change the session
only after that.  The reply and the world that comes with it determine the rest.
-/

namespace ScaffoldRunner

variable {σ α : Type}

theorem Session.ask_eq (call : World σ → Reply α × World σ) (session : Session σ) :
    ask call session =
      match call session.world with
      | (.done a, world) => .ok a { session with world := world }
      | (.interrupted, world) => .error .shutdown { session with world := world } := by
  exact rfl

namespace FrameCall

/-- What comes of an attempt in a world.  The host is not asked when the input is
refused. -/
def reply (host : Host σ) (call : FrameCall) (world : World σ) :
    Reply FrameOutcome × World σ :=
  match call.inputRefusal? with
  | some reason => (.done (.error (.invalidInput reason)), world)
  | none =>
      match host.callFrame call world with
      | (.done outcome, after) => (.done (outcome.bind (judged call.frame)), after)
      | (.interrupted, after) => (.interrupted, after)

theorem attemptOnce_eq (host : Host σ) (call : FrameCall) (session : Session σ) :
    call.attemptOnce host session =
      match call.reply host session.world with
      | (.done outcome, world) => .ok outcome { session with world := world }
      | (.interrupted, world) => .error .shutdown { session with world := world } := by
  unfold attemptOnce reply
  cases call.inputRefusal? with
  | some reason => rfl
  | none =>
      change EStateM.bind (Session.ask (host.callFrame call)) _ session = _
      rw [EStateM.bind, Session.ask_eq]
      rcases host.callFrame call session.world with ⟨outcome | _, world⟩
      · cases outcome <;> rfl
      · rfl

/-- An attempt that gets a reply is entered into the session; an interrupted one
is not. -/
theorem tryOnce_eq (host : Host σ) (store : ContextStore) (call : FrameCall)
    (session : Session σ) :
    call.tryOnce host store session =
      match call.reply host session.world with
      | (.done outcome, world) =>
          .ok outcome (call.concludeAttempt store session.now outcome
            { session with world := world })
      | (.interrupted, world) => .error .shutdown { session with world := world } := by
  change EStateM.bind (call.attemptOnce host) _ session = _
  rw [EStateM.bind, attemptOnce_eq]
  rcases call.reply host session.world with ⟨_ | _, world⟩ <;> rfl

end FrameCall

namespace CommandResult

/-- What comes of a command in a world.  The host is not asked for an empty one. -/
def reply (host : Host σ) (settings : CommandSettings) (argv : List String)
    (world : World σ) : Reply CommandResult × World σ :=
  match argv with
  | [] => (.done (.notRun (commandText argv) "Empty command" (secondsOfMicros 0)), world)
  | program :: args =>
      match host.runProgram
          { program := program
            args := args
            workingDir := settings.workingDir
            timeoutMillis := settings.timeoutMillis } world with
      | (.done outcome, after) =>
          (.done (.ofOutcome (commandText argv) settings.timeoutMillis
            (secondsOfMicros (after.now.microsSince world.now)) outcome), after)
      | (.interrupted, after) => (.interrupted, after)

theorem produce_eq (host : Host σ) (settings : CommandSettings) (argv : List String)
    (session : Session σ) :
    produce host settings argv session =
      match reply host settings argv session.world with
      | (.done result, world) => .ok result { session with world := world }
      | (.interrupted, world) => .error .shutdown { session with world := world } := by
  cases argv with
  | nil => rfl
  | cons program args =>
      change EStateM.bind (Session.ask (host.runProgram _)) _ session = _
      rw [EStateM.bind, Session.ask_eq, reply]
      rcases host.runProgram _ session.world with ⟨_ | _, world⟩ <;> rfl

/-- A command that gets a reply is entered into the session; an interrupted one
is not. -/
theorem execute_eq (host : Host σ) (settings : CommandSettings) (argv : List String)
    (session : Session σ) :
    execute host settings argv session =
      match reply host settings argv session.world with
      | (.done result, world) => .ok result (enter result { session with world := world })
      | (.interrupted, world) => .error .shutdown { session with world := world } := by
  change EStateM.bind (produce host settings argv) _ session = _
  rw [EStateM.bind, produce_eq]
  rcases reply host settings argv session.world with ⟨_ | _, world⟩ <;> rfl

end CommandResult

end ScaffoldRunner
