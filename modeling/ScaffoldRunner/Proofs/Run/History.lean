import ScaffoldRunner.Proofs.Run.Learning
import ScaffoldRunner.Proofs.Run.Replies

/-!
# Histories of a run

Every attempt that gets an answer is entered into the history of the frames, and
nothing else is.
-/

namespace ScaffoldRunner

variable {σ α ε : Type}

/-- An attempt and its answer. -/
abbrev AnsweredAttempt := FrameCall × FrameOutcome

/-- A record tells of an answered attempt. -/
structure FrameRecord.TellsOf (r : FrameRecord) (tried : AnsweredAttempt) : Prop where
  frameId : r.frameId = tried.1.frame.id
  stage : r.stage = tried.1.stage
  attempt : r.attempt = tried.1.attempt
  outcome : r.outcome = tried.2.mapError FrameError.message

namespace RunAct

def answered? : RunAct → Option AnsweredAttempt
  | attempt call (some outcome) => some (call, outcome)
  | _ => none

/-- The attempts among some acts that are answered. -/
def answered (acts : List RunAct) : List AnsweredAttempt := acts.filterMap answered?

@[simp] theorem answered_nil : answered [] = [] :=
  rfl

@[simp] theorem answered_cons (act : RunAct) (acts : List RunAct) :
    answered (act :: acts) = act.answered?.toList ++ answered acts := by
  cases h : act.answered? <;> simp [answered, h]

@[simp] theorem answered_append (before rest : List RunAct) :
    answered (before ++ rest) = answered before ++ answered rest :=
  List.filterMap_append

end RunAct

theorem Session.frameHistory_onFiles (op : EStateM ε FileTree α) (session : Session σ) :
    (session.onFiles op).2.frameHistory = session.frameHistory := by
  rw [onFiles_eq]

namespace FrameCall

theorem tellsOf_record (call : FrameCall) (began now : Instant) (outcome : FrameOutcome) :
    (call.record began now outcome).TellsOf (call, outcome) :=
  ⟨rfl, rfl, rfl, rfl⟩

/-- The record of an attempt is the last one then. -/
theorem frameHistory_concludeAttempt (store : ContextStore) (call : FrameCall)
    (began : Instant) (outcome : FrameOutcome) (session : Session σ) :
    ∃ now, (call.concludeAttempt store began outcome session).frameHistory =
      session.frameHistory ++ [call.record began now outcome] := by
  cases outcome with
  | error e => exact ⟨_, rfl⟩
  | ok result =>
      refine ⟨_, congrArg (· ++ _) ?_⟩
      change (call.keepSnapshot store result _).frameHistory = _
      unfold keepSnapshot
      split
      · exact Session.frameHistory_onFiles _ _
      · rfl

end FrameCall

theorem CommandResult.frameHistory_execute (host : Host σ) (settings : CommandSettings)
    (argv : List String) (session : Session σ) :
    (stateOf (execute host settings argv session)).frameHistory = session.frameHistory := by
  rw [execute_eq]
  rcases reply host settings argv session.world with ⟨_ | _, world⟩ <;> rfl

/-- An act adds the record of the attempt that it answers. -/
theorem RunAct.frameHistory_inSession {p : Pipeline} {host : Host σ} {session : Session σ}
    {act : RunAct} (htrue : act.IsTrue p host session) :
    ∃ records, List.Forall₂ FrameRecord.TellsOf records act.answered?.toList ∧
      (act.inSession p host session).frameHistory = session.frameHistory ++ records := by
  have hnone (hanswer : act.answered? = none)
      (hsame : (act.inSession p host session).frameHistory = session.frameHistory) :
      ∃ records, List.Forall₂ FrameRecord.TellsOf records act.answered?.toList ∧
        (act.inSession p host session).frameHistory = session.frameHistory ++ records :=
    ⟨[], by simp [hanswer], by rw [hsame, List.append_nil]⟩
  cases act with
  | attempt call outcome =>
      change (answerOf (call.tryOnce host p.contexts session)).toOption = outcome at htrue
      rw [FrameCall.tryOnce_eq] at htrue
      rcases hreply : call.reply host session.world with ⟨answer | _, world⟩
      · rw [hreply] at htrue
        obtain rfl : some answer = outcome := htrue
        obtain ⟨now, hhistory⟩ := call.frameHistory_concludeAttempt p.contexts session.now
          answer { session with world := world }
        refine ⟨[_], .cons (call.tellsOf_record session.now now answer) .nil, ?_⟩
        rw [← hhistory, inSession, FrameCall.tryOnce_eq, hreply]
        rfl
      · rw [hreply] at htrue
        obtain rfl : none = outcome := htrue
        refine hnone rfl ?_
        rw [inSession, FrameCall.tryOnce_eq, hreply]
        rfl
  | command argv result => exact hnone rfl (CommandResult.frameHistory_execute ..)
  | count | enter => exact hnone rfl rfl
  | report | save => exact hnone rfl (Session.frameHistory_onFiles _ session)

namespace Pipeline

variable {p : Pipeline} {host : Host σ}

/-- Acts add the records of the attempts that they answer, in their order. -/
theorem frameHistory_after {acts : List RunAct} {s : Progress σ} (h : p.Plays host s acts) :
    ∃ records, List.Forall₂ FrameRecord.TellsOf records (RunAct.answered acts) ∧
      (p.after host acts s).session.frameHistory = s.session.frameHistory ++ records := by
  induction acts generalizing s with
  | nil => exact ⟨[], .nil, (List.append_nil _).symm⟩
  | cons act acts ih =>
      obtain ⟨first, hfirst, hact⟩ := RunAct.frameHistory_inSession h.1
      obtain ⟨rest, hrest, hacts⟩ := ih h.2
      refine ⟨first ++ rest, ?_, ?_⟩
      · rw [RunAct.answered_cons]
        exact List.rel_append hfirst hrest
      · rw [after_cons, hacts, ← List.append_assoc, ← hact]
        rfl

/-- A run begins with an empty history. -/
theorem frameHistory_of_plays {scaffold : Scaffold} {document : Json} {session : Session σ}
    {acts : List RunAct} (h : p.Plays host (p.begin scaffold document session) acts) :
    List.Forall₂ FrameRecord.TellsOf
      (p.after host acts (p.begin scaffold document session)).session.frameHistory
      (RunAct.answered acts) := by
  obtain ⟨records, hrecords, hhistory⟩ := frameHistory_after h
  rw [hhistory]
  exact hrecords

end Pipeline

end ScaffoldRunner
