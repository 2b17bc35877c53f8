import Mathlib.Data.List.Induction
import Mathlib.Logic.Function.Iterate
import ScaffoldRunner.Frame.Script
import ScaffoldRunner.Proofs.Dict

/-!
# The answers of scripted frames

A queue is used up by rules that look at its first answer and its length only.
Together they come to this: the calls of a frame get its answers in their order,
and once these have run out the last one again, or an empty output when the last
one was meant for a single use.  A call changes the queue of its own frame and no
other, so the answers to a frame depend on nothing but its own calls.
-/

namespace ScaffoldRunner

/-! ## One queue -/

namespace ScriptedAnswer

/-- What a call comes to when the answers of a queue have run out. -/
def lastOutcome (queue : List ScriptedAnswer) : FrameOutcome :=
  match queue.getLast? with
  | some answer => if answer.isSingleUse then .ok [] else answer.outcome
  | none => .ok []

/-- What the call of a number, counted from zero, comes to with a queue. -/
def nthOutcome (queue : List ScriptedAnswer) (i : Nat) : FrameOutcome :=
  match queue[i]? with
  | some answer => answer.outcome
  | none => lastOutcome queue

theorem nthOutcome_of_le {queue : List ScriptedAnswer} {i : Nat} (h : queue.length ≤ i) :
    nthOutcome queue i = lastOutcome queue := by
  rw [nthOutcome, List.getElem?_eq_none h]

end ScriptedAnswer

namespace ScriptedFrames

open ScriptedAnswer

/-- Using the first answer leaves the outcomes of the later calls. -/
theorem nthOutcome_afterUse (queue : List ScriptedAnswer) (i : Nat) :
    nthOutcome (afterUse queue) i = nthOutcome queue (i + 1) := by
  match queue with
  | [] => rfl
  | answer :: next :: rest =>
      have hdropped : afterUse (answer :: next :: rest) = next :: rest := by
        simp [afterUse]
      rw [hdropped]
      rfl
  | [answer] =>
      have hlater (n : Nat) : nthOutcome [answer] (n + 1) = lastOutcome [answer] :=
        nthOutcome_of_le (Nat.le_add_left 1 n)
      cases hsingle : answer.isSingleUse with
      | true =>
          have hdropped : afterUse [answer] = [] := by simp [afterUse, hsingle]
          have hempty : lastOutcome [answer] = .ok [] := if_pos hsingle
          rw [hdropped, hlater, hempty]
          rfl
      | false =>
          have hkept : afterUse [answer] = [answer] := by simp [afterUse, hsingle]
          have hlast : lastOutcome [answer] = answer.outcome := if_neg (by simp [hsingle])
          rw [hkept, hlater]
          cases i with
          | zero => exact hlast.symm
          | succ i => exact hlater i

theorem nthOutcome_iterate_afterUse (queue : List ScriptedAnswer) (k i : Nat) :
    nthOutcome (afterUse^[k] queue) i = nthOutcome queue (i + k) := by
  induction k generalizing queue with
  | zero => rfl
  | succ k ih =>
      rw [Function.iterate_succ_apply, ih, nthOutcome_afterUse]
      rfl

/-! ## One call -/

variable (frames : ScriptedFrames) (call : FrameCall)

theorem outcome_run :
    (frames.run call).1 = nthOutcome (frames.queue call.frame.id) 0 := by
  unfold run
  split
  · next hempty =>
      rw [hempty]
      rfl
  · next answer rest hqueue =>
      rw [hqueue]
      rfl

/-- A call uses the queue of its own frame. -/
theorem queue_run (id : String) :
    (frames.run call).2.queue id =
      if id = call.frame.id then afterUse (frames.queue id) else frames.queue id := by
  unfold run
  split
  · next hempty =>
      by_cases hid : id = call.frame.id
      · rw [if_pos hid, hid, hempty]
        exact hempty
      · rw [if_neg hid]
        rfl
  · next answer rest hqueue =>
      rw [queue, Dict.get?_insert]
      by_cases hid : id = call.frame.id
      · rw [if_pos hid, if_pos hid, hid, hqueue]
        rfl
      · rw [if_neg hid, if_neg hid]
        rfl

theorem calls_run : (frames.run call).2.calls = frames.calls ++ [call] := by
  unfold run
  split <;> rfl

/-! ## Many calls -/

/-- The outcomes of some calls that are made one after the other, and what they leave. -/
def play (frames : ScriptedFrames) : List FrameCall → List FrameOutcome × ScriptedFrames
  | [] => ([], frames)
  | call :: calls =>
      let rest := (frames.run call).2.play calls
      ((frames.run call).1 :: rest.1, rest.2)

/-- The outcomes of the calls of one frame, among those of others. -/
def outcomesFor (id : String) (calls : List FrameCall) (outcomes : List FrameOutcome) :
    List FrameOutcome :=
  ((calls.zip outcomes).filter fun pair => pair.1.frame.id = id).map Prod.snd

theorem length_play (calls : List FrameCall) : (frames.play calls).1.length = calls.length := by
  induction calls generalizing frames with
  | nil => rfl
  | cons call calls ih => exact congrArg (· + 1) (ih (frames.run call).2)

theorem calls_play (calls : List FrameCall) :
    (frames.play calls).2.calls = frames.calls ++ calls := by
  induction calls generalizing frames with
  | nil => exact (List.append_nil _).symm
  | cons call calls ih =>
      have hrest := ih (frames.run call).2
      rw [calls_run, List.append_assoc, List.singleton_append] at hrest
      exact hrest

/-- A queue is used once for every call of its frame. -/
theorem queue_play (calls : List FrameCall) (id : String) :
    (frames.play calls).2.queue id =
      afterUse^[calls.countP fun call => call.frame.id = id] (frames.queue id) := by
  induction calls generalizing frames with
  | nil => rfl
  | cons call calls ih =>
      have hrest := ih (frames.run call).2
      rw [queue_run] at hrest
      refine Eq.trans hrest ?_
      by_cases hid : call.frame.id = id
      · rw [List.countP_cons_of_pos (by simpa using hid), if_pos hid.symm,
          Function.iterate_succ_apply]
      · rw [List.countP_cons_of_neg (by simpa using hid), if_neg (Ne.symm hid)]

theorem play_append (before after : List FrameCall) :
    frames.play (before ++ after) =
      ((frames.play before).1 ++ ((frames.play before).2.play after).1,
        ((frames.play before).2.play after).2) := by
  induction before generalizing frames with
  | nil => rfl
  | cons call before ih =>
      change ((frames.run call).1 :: ((frames.run call).2.play (before ++ after)).1,
        ((frames.run call).2.play (before ++ after)).2) = _
      rw [ih]
      rfl

/-- The outcome of a call is that of its number among the calls of its frame. -/
theorem getElem?_play (before after : List FrameCall) :
    (frames.play (before ++ call :: after)).1[before.length]? =
      some (nthOutcome (frames.queue call.frame.id)
        (before.countP fun earlier => earlier.frame.id = call.frame.id)) := by
  have hplace : (frames.play before).1.length = before.length := length_play frames before
  rw [play_append, List.getElem?_append_right (Nat.le_of_eq hplace), hplace, Nat.sub_self]
  change some ((frames.play before).2.run call).1 = _
  rw [outcome_run, queue_play, nthOutcome_iterate_afterUse, Nat.zero_add]

/-- Frames with the same queue give the same answers, whatever other calls are made. -/
theorem outcomesFor_play {frames alone : ScriptedFrames} {id : String}
    (hqueue : frames.queue id = alone.queue id) (calls : List FrameCall) :
    outcomesFor id calls (frames.play calls).1 =
      (alone.play (calls.filter fun call => call.frame.id = id)).1 := by
  induction calls generalizing frames alone with
  | nil => rfl
  | cons call calls ih =>
      by_cases hid : call.frame.id = id
      · have hrest : ((frames.run call).2).queue id = ((alone.run call).2).queue id := by
          rw [queue_run, queue_run, hqueue]
        have hfirst : (frames.run call).1 = (alone.run call).1 := by
          rw [outcome_run, outcome_run, hid, hqueue]
        have hkept : outcomesFor id (call :: calls) (frames.play (call :: calls)).1 =
            (frames.run call).1 :: outcomesFor id calls ((frames.run call).2.play calls).1 := by
          simp [outcomesFor, play, hid]
        rw [hkept, List.filter_cons_of_pos (by simpa using hid), ih hrest, hfirst]
        rfl
      · have hrest : ((frames.run call).2).queue id = alone.queue id := by
          rw [queue_run, if_neg (Ne.symm hid), hqueue]
        have hdropped : outcomesFor id (call :: calls) (frames.play (call :: calls)).1 =
            outcomesFor id calls ((frames.run call).2.play calls).1 := by
          simp [outcomesFor, play, hid]
        rw [hdropped, List.filter_cons_of_neg (by simpa using hid), ih hrest]

/-! ## Scripts -/

/-- The frames with the answers of a script in their queues. -/
def ofScript (script : List (String × ScriptedAnswer)) : ScriptedFrames :=
  script.foldl (fun frames entry => frames.push entry.1 entry.2) {}

/-- The answers that a script has for a frame. -/
def answersOf (script : List (String × ScriptedAnswer)) (id : String) : List ScriptedAnswer :=
  (script.filter fun entry => entry.1 = id).map Prod.snd

theorem queue_push (frame : String) (answer : ScriptedAnswer) (id : String) :
    (frames.push frame answer).queue id =
      if id = frame then frames.queue id ++ [answer] else frames.queue id := by
  have hget : (frames.push frame answer).queues.get? id =
      if id = frame then some (frames.queue frame ++ [answer]) else frames.queues.get? id :=
    Dict.get?_insert ..
  by_cases hid : id = frame
  · rw [if_pos hid] at hget ⊢
    rw [queue, hget, hid]
    rfl
  · rw [if_neg hid] at hget ⊢
    rw [queue, hget]
    rfl

theorem ofScript_concat (script : List (String × ScriptedAnswer))
    (entry : String × ScriptedAnswer) :
    ofScript (script ++ [entry]) = (ofScript script).push entry.1 entry.2 := by
  rw [ofScript, List.foldl_append]
  rfl

theorem queue_ofScript (script : List (String × ScriptedAnswer)) (id : String) :
    (ofScript script).queue id = answersOf script id := by
  induction script using List.reverseRecOn with
  | nil => rfl
  | append_singleton script entry ih =>
      rw [ofScript_concat, queue_push, ih, answersOf, answersOf, List.filter_append,
        List.map_append]
      by_cases hid : id = entry.1
      · rw [if_pos hid, List.filter_cons_of_pos (by simpa using hid.symm)]
        rfl
      · rw [if_neg hid, List.filter_cons_of_neg (by simpa using Ne.symm hid)]
        exact (List.append_nil _).symm

theorem calls_ofScript (script : List (String × ScriptedAnswer)) :
    (ofScript script).calls = [] := by
  induction script using List.reverseRecOn with
  | nil => rfl
  | append_singleton script entry ih =>
      rw [ofScript_concat]
      exact ih

/-- Every call of a scripted frame is answered by its number among the calls of that
frame: by the answer of this number as long as there is one, and then by the last one,
unless there is none or it was meant for a single use.  The other frames may be called
in between or not, and all calls are remembered in their order. -/
theorem play_ofScript (script : List (String × ScriptedAnswer)) (calls : List FrameCall) :
    ((ofScript script).play calls).1.length = calls.length ∧
      (∀ before call after, calls = before ++ call :: after →
        ((ofScript script).play calls).1[before.length]? =
          some (nthOutcome (answersOf script call.frame.id)
            (before.countP fun earlier => earlier.frame.id = call.frame.id))) ∧
      (∀ id, outcomesFor id calls ((ofScript script).play calls).1 =
        ((ofScript script).play (calls.filter fun call => call.frame.id = id)).1) ∧
      ((ofScript script).play calls).2.calls = calls := by
  refine ⟨length_play _ calls, ?_, ?_, ?_⟩
  · rintro before call after rfl
    rw [getElem?_play, queue_ofScript]
  · intro id
    exact outcomesFor_play rfl calls
  · rw [calls_play, calls_ofScript, List.nil_append]

end ScriptedFrames

end ScaffoldRunner
