import Mathlib.Data.List.DropRight
import Mathlib.Data.List.Induction
import Mathlib.Data.List.Nodup
import ScaffoldRunner.Metrics
import ScaffoldRunner.Proofs.Dict

/-!
# What metrics tell

Metrics are told of events, one after the other, and forget all of them at a reset.
Every counter of a snapshot is the number of its events since then.  What is kept of a
frame depends on the events of that frame alone; durations are kept as far as there is
room, the latest ones.  Each of these is kept up by one event, and so by all of them.
-/

namespace ScaffoldRunner

/-! ## Events -/

/-- What metrics are told.  Durations are in milliseconds, points in time in seconds. -/
inductive MetricsEvent where
  | runBegan
  | runDone (millis : Nat)
  | runBroke (millis : Nat)
  | stageEnded (success : Bool)
  | stageSkipped
  | frameTried (frame : String) (second millis : Nat) (success : Bool)
  | frameTimedOut (frame : String)
  | frameRetried
  | commandRun (success : Bool)
  | setState (state : String)
  | reset (second : Nat)
  deriving DecidableEq

namespace MetricsEvent

/-- Whether everything is forgotten. -/
def isReset : MetricsEvent → Bool
  | reset _ => true
  | _ => false

def isRunDone : MetricsEvent → Bool
  | runDone _ => true
  | _ => false

def isRunBroke : MetricsEvent → Bool
  | runBroke _ => true
  | _ => false

def isCommand : MetricsEvent → Bool
  | commandRun _ => true
  | _ => false

def isTry : MetricsEvent → Bool
  | frameTried .. => true
  | _ => false

def isFailedTry : MetricsEvent → Bool
  | frameTried _ _ _ success => !success
  | _ => false

def isTryOf (id : String) : MetricsEvent → Bool
  | frameTried frame .. => frame = id
  | _ => false

def isFailedTryOf (id : String) : MetricsEvent → Bool
  | frameTried frame _ _ success => frame = id && !success
  | _ => false

def isTimeoutOf (id : String) : MetricsEvent → Bool
  | frameTimedOut frame => frame = id
  | _ => false

/-- How long a run took that is over. -/
def runMillis? : MetricsEvent → Option Nat
  | runDone millis | runBroke millis => some millis
  | _ => none

/-- How long a given frame took. -/
def tryMillis? (id : String) : MetricsEvent → Option Nat
  | frameTried frame _ millis _ => if frame = id then some millis else none
  | _ => none

def state? : MetricsEvent → Option String
  | setState state => some state
  | _ => none

end MetricsEvent

/-- The member of a member, and so on. -/
def Json.at? (j : Json) (path : List String) : Option Json := path.foldlM Json.get? j

open MetricsEvent

/-- What is kept of a frame that is tried once more. -/
def FrameStats.tried (s : FrameStats) (second millis : Nat) (success : Bool) : FrameStats :=
  { s with
    executions := s.executions + 1
    failures := if success then s.failures else s.failures + 1
    times := pushSample s.times millis
    lastExecution := second }

namespace Metrics

/-- The metrics when they have been told of an event. -/
def told (m : Metrics) : MetricsEvent → Metrics
  | .runBegan => m.runBegan
  | .runDone millis => m.runDone millis
  | .runBroke millis => m.runBroke millis
  | .stageEnded success => m.stageEnded success
  | .stageSkipped => m.stageSkipped
  | .frameTried frame second millis success => m.frameTried frame second millis success
  | .frameTimedOut frame => m.frameTimedOut frame
  | .frameRetried => m.frameRetried
  | .commandRun success => m.commandRun success
  | .setState state => m.setState state
  | .reset second => m.reset second

/-- The metrics when they have been told of some events in their order. -/
def afterEvents (m : Metrics) (events : List MetricsEvent) : Metrics := events.foldl told m

theorem afterEvents_concat (m : Metrics) (events : List MetricsEvent) (event : MetricsEvent) :
    m.afterEvents (events ++ [event]) = (m.afterEvents events).told event :=
  List.foldl_concat ..

/-- The events since the last reset. -/
def sinceReset (events : List MetricsEvent) : List MetricsEvent :=
  events.rtakeWhile fun event => !event.isReset

/-- What holds when metrics start, and is kept up by every other event, holds of the
events since the last reset. -/
theorem afterEvents_induction {P : Metrics → List MetricsEvent → Prop}
    (hstart : ∀ second, P (start second) [])
    (htold : ∀ m since event, P m since → event.isReset = false →
      P (m.told event) (since ++ [event]))
    (began : Nat) (events : List MetricsEvent) :
    P ((start began).afterEvents events) (sinceReset events) := by
  induction events using List.reverseRecOn with
  | nil => exact hstart began
  | append_singleton events event ih =>
      rw [afterEvents_concat]
      cases hreset : event.isReset with
      | false =>
          have hkept : sinceReset (events ++ [event]) = sinceReset events ++ [event] :=
            List.rtakeWhile_concat_pos _ _ _ (by simpa using hreset)
          rw [hkept]
          exact htold _ _ event ih hreset
      | true =>
          have hforgotten : sinceReset (events ++ [event]) = [] :=
            List.rtakeWhile_concat_neg _ _ _ (by simpa using hreset)
          rw [hforgotten]
          cases event with
          | reset second => exact hstart second
          | _ => cases hreset

/-- Setting the state changes the state and its count. -/
theorem exists_setState (m : Metrics) (state : String) :
    ∃ runState transitions,
      m.setState state = { m with runState := runState, stateTransitions := transitions } := by
  unfold setState
  split
  · exact ⟨m.runState, m.stateTransitions, rfl⟩
  · exact ⟨state, m.stateTransitions + 1, rfl⟩

/-- The end of a frame's time changes what is kept of frames. -/
theorem exists_frameTimedOut (m : Metrics) (frame : String) :
    ∃ stats, m.frameTimedOut frame = { m with frameStats := stats } := by
  unfold frameTimedOut
  split
  · exact ⟨_, rfl⟩
  · exact ⟨m.frameStats, rfl⟩

/-! ## Counters -/

/-- A counter: where it stands in a snapshot, where it is kept, and the events that it
counts. -/
structure Counter where
  path : List String
  read : Metrics → Nat
  counts : MetricsEvent → Bool

/-- The counters whose events all count alike. -/
def counters : List Counter :=
  [⟨["runs", "runs_started"], runsStarted, fun event => event = .runBegan⟩,
    ⟨["runs", "runs_completed"], runsCompleted, isRunDone⟩,
    ⟨["runs", "runs_failed"], runsFailed, isRunBroke⟩,
    ⟨["stages", "completed"], stagesCompleted, fun event => event = .stageEnded true⟩,
    ⟨["stages", "failed"], stagesFailed, fun event => event = .stageEnded false⟩,
    ⟨["stages", "skipped"], stagesSkipped, fun event => event = .stageSkipped⟩,
    ⟨["frames", "total_retries"], frameRetries, fun event => event = .frameRetried⟩,
    ⟨["commands", "executed"], commandsExecuted, isCommand⟩,
    ⟨["commands", "failed"], commandsFailed, fun event => event = .commandRun false⟩]

theorem counters_start (second : Nat) : ∀ c ∈ counters, c.read (start second) = 0 := by
  simp [counters, start]

theorem counters_told (m : Metrics) {event : MetricsEvent} (hevent : event.isReset = false) :
    ∀ c ∈ counters, c.read (m.told event) = c.read m + (c.counts event).toNat := by
  cases event with
  | reset second => cases hevent
  | setState state =>
      obtain ⟨runState, transitions, hset⟩ := m.exists_setState state
      simp [counters, told, hset, isRunDone, isRunBroke, isCommand]
  | frameTimedOut frame =>
      obtain ⟨stats, hstats⟩ := m.exists_frameTimedOut frame
      simp [counters, told, hstats, isRunDone, isRunBroke, isCommand]
  | stageEnded success =>
      cases success <;> simp [counters, told, stageEnded, isRunDone, isRunBroke, isCommand]
  | commandRun success =>
      cases success <;> simp [counters, told, commandRun, isRunDone, isRunBroke, isCommand]
  | _ =>
      simp [counters, told, runBegan, runDone, runBroke, stageSkipped, frameTried, frameRetried,
        isRunDone, isRunBroke, isCommand]

theorem counters_afterEvents (began : Nat) (events : List MetricsEvent) :
    ∀ c ∈ counters,
      c.read ((start began).afterEvents events) = (sinceReset events).countP c.counts := by
  intro c hc
  refine afterEvents_induction (P := fun m since => c.read m = since.countP c.counts)
    (fun second => counters_start second c hc) ?_ began events
  intro m since event hsince hevent
  rw [counters_told m hevent c hc, hsince, List.countP_append, List.countP_singleton]
  cases c.counts event <;> rfl

/-! ## Durations -/

/-- The samples that are kept are the last ones of those recorded, as many as there is room
for. -/
structure IsLast (kept recorded : List Nat) : Prop where
  suffix : kept <:+ recorded
  length : kept.length = min recorded.length 1000

theorem isLast_nil : IsLast [] [] :=
  ⟨List.suffix_refl [], rfl⟩

theorem IsLast.push {kept recorded : List Nat} (h : IsLast kept recorded) (value : Nat) :
    IsLast (pushSample kept value) (recorded ++ [value]) := by
  obtain ⟨dropped, rfl⟩ := h.suffix
  have hlength := h.length
  have hgrown : (kept ++ [value]).length = kept.length + 1 := List.length_append
  rw [List.length_append] at hlength
  rw [pushSample]
  by_cases hfull : maxSamples < (kept ++ [value]).length
  · rw [if_pos hfull]
    rw [hgrown, maxSamples] at hfull
    constructor
    · rw [List.append_assoc]
      exact (List.drop_suffix 1 _).trans (List.suffix_append dropped _)
    · rw [List.length_drop, hgrown, List.length_append, List.length_append,
        List.length_singleton]
      omega
  · rw [if_neg hfull]
    rw [hgrown, maxSamples] at hfull
    constructor
    · rw [List.append_assoc]
      exact List.suffix_append dropped _
    · rw [hgrown, List.length_append, List.length_append, List.length_singleton]
      omega

theorem runTimes_told (m : Metrics) {event : MetricsEvent} (hevent : event.isReset = false) :
    (m.told event).runTimes = event.runMillis?.elim m.runTimes (pushSample m.runTimes) := by
  cases event with
  | reset second => cases hevent
  | setState state =>
      obtain ⟨runState, transitions, hset⟩ := m.exists_setState state
      rw [told, hset]
      rfl
  | frameTimedOut frame =>
      obtain ⟨stats, hstats⟩ := m.exists_frameTimedOut frame
      rw [told, hstats]
      rfl
  | stageEnded success => cases success <;> rfl
  | _ => rfl

theorem isLast_runTimes (began : Nat) (events : List MetricsEvent) :
    IsLast ((start began).afterEvents events).runTimes
      ((sinceReset events).filterMap runMillis?) := by
  refine afterEvents_induction (P := fun m since => IsLast m.runTimes (since.filterMap runMillis?))
    (fun _ => isLast_nil) ?_ began events
  intro m since event hsince hevent
  rw [runTimes_told m hevent, List.filterMap_append]
  cases hmillis : event.runMillis? with
  | none =>
      rw [List.filterMap_cons_none hmillis, List.filterMap_nil, List.append_nil]
      exact hsince
  | some millis =>
      rw [List.filterMap_cons_some hmillis]
      exact hsince.push millis

/-! ## States -/

/-- The states since metrics started, with those that are set again. -/
def states (since : List MetricsEvent) : List String := "idle" :: since.filterMap state?

/-- How often a state differs from the one before it. -/
def changes (states : List String) : Nat :=
  (states.zip states.tail).countP fun pair => pair.1 ≠ pair.2

theorem zip_tail_concat (first : String) (rest : List String) (state : String) :
    (first :: (rest ++ [state])).zip (rest ++ [state]) =
      (first :: rest).zip rest ++
        [((first :: rest).getLast (List.cons_ne_nil first rest), state)] := by
  induction rest generalizing first with
  | nil => rfl
  | cons next rest ih =>
      rw [List.cons_append, List.zip_cons_cons, ih next]
      rfl

/-- What the metrics tell of states: the last one, and how often it has changed. -/
structure TellsStates (m : Metrics) (states : List String) : Prop where
  state : states.getLast? = some m.runState
  transitions : m.stateTransitions = changes states

theorem TellsStates.setState {m : Metrics} {earlier : List String}
    (h : m.TellsStates ("idle" :: earlier)) (state : String) :
    (m.setState state).TellsStates ("idle" :: (earlier ++ [state])) := by
  have hlast : ("idle" :: earlier).getLast (List.cons_ne_nil _ _) = m.runState := by
    have hstate := h.state
    rw [List.getLast?_eq_some_getLast (List.cons_ne_nil _ _)] at hstate
    exact Option.some.inj hstate
  have hchanges : changes ("idle" :: (earlier ++ [state])) =
      m.stateTransitions + if m.runState = state then 0 else 1 := by
    rw [h.transitions, changes, List.tail_cons, zip_tail_concat, hlast, List.countP_append]
    by_cases hsame : m.runState = state <;> simp [hsame, changes]
  have hend : ("idle" :: (earlier ++ [state])).getLast? = some state := by
    rw [← List.cons_append, List.getLast?_concat]
  unfold Metrics.setState
  by_cases hsame : m.runState = state
  · rw [if_pos hsame] at hchanges ⊢
    exact ⟨hend.trans (congrArg some hsame.symm), hchanges.symm⟩
  · rw [if_neg hsame] at hchanges ⊢
    exact ⟨hend, hchanges.symm⟩

theorem states_concat (since : List MetricsEvent) (event : MetricsEvent) :
    states (since ++ [event]) = states since ++ event.state?.toList := by
  rw [states, states, List.filterMap_append, List.cons_append]
  cases hstate : event.state? with
  | none => rw [List.filterMap_cons_none hstate]; rfl
  | some state => rw [List.filterMap_cons_some hstate]; rfl

/-- States are changed where they are set. -/
theorem state_told (m : Metrics) {event : MetricsEvent} (hevent : event.isReset = false)
    (hstate : event.state? = none) :
    (m.told event).runState = m.runState ∧
      (m.told event).stateTransitions = m.stateTransitions := by
  cases event with
  | reset second => cases hevent
  | setState state => cases hstate
  | frameTimedOut frame =>
      obtain ⟨stats, hstats⟩ := m.exists_frameTimedOut frame
      rw [told, hstats]
      exact ⟨rfl, rfl⟩
  | stageEnded success => cases success <;> exact ⟨rfl, rfl⟩
  | _ => exact ⟨rfl, rfl⟩

theorem tellsStates_afterEvents (began : Nat) (events : List MetricsEvent) :
    ((start began).afterEvents events).TellsStates (states (sinceReset events)) := by
  refine afterEvents_induction (P := fun m since => m.TellsStates (states since))
    (fun _ => ⟨rfl, rfl⟩) ?_ began events
  intro m since event hsince hevent
  cases hstate : event.state? with
  | none =>
      obtain ⟨hsame, hcount⟩ := state_told m hevent hstate
      rw [states_concat, hstate, Option.toList_none, List.append_nil]
      exact ⟨hsince.state.trans (congrArg some hsame.symm), hcount.trans hsince.transitions⟩
  | some state =>
      rw [states_concat, hstate]
      cases event with
      | setState other =>
          obtain rfl : other = state := Option.some.inj hstate
          exact hsince.setState other
      | _ => cases hstate

/-! ## Frames -/

/-- The events since a frame was tried first. -/
def sinceTry (id : String) (since : List MetricsEvent) : List MetricsEvent :=
  since.dropWhile fun event => !event.isTryOf id

/-- A counter of every frame: its name in the snapshot of a frame, the name of its sum over
the frames, where it is kept, and what it is after some events. -/
structure FrameCounter where
  name : String
  total : String
  read : FrameStats → Nat
  count : String → List MetricsEvent → Nat

/-- The counters of every frame.  The end of a frame's time counts once the frame was
tried. -/
def frameCounters : List FrameCounter :=
  [⟨"executions", "total_executions", FrameStats.executions,
      fun id since => since.countP (isTryOf id)⟩,
    ⟨"failures", "total_failures", FrameStats.failures,
      fun id since => since.countP (isFailedTryOf id)⟩,
    ⟨"timeouts", "total_timeouts", FrameStats.timeouts,
      fun id since => (sinceTry id since).countP (isTimeoutOf id)⟩]

/-- What is kept of a frame tells the events of this frame. -/
structure TellsFrame (id : String) (since : List MetricsEvent) (s : FrameStats) : Prop where
  counted : ∀ c ∈ frameCounters, c.read s = c.count id since
  times : IsLast s.times (since.filterMap (tryMillis? id))

theorem tellsFrame_nil (id : String) : TellsFrame id [] {} where
  counted := by simp [frameCounters, sinceTry]
  times := isLast_nil

/-- What an event does to what is kept of a frame, if anything is. -/
def frameStep (id : String) (kept : Option FrameStats) : MetricsEvent → Option FrameStats
  | .frameTried frame second millis success =>
      if frame = id then some ((kept.getD {}).tried second millis success) else kept
  | .frameTimedOut frame =>
      if frame = id then kept.map fun s => { s with timeouts := s.timeouts + 1 } else kept
  | _ => kept

theorem get?_frameTimedOut (m : Metrics) (frame id : String) :
    (m.frameTimedOut frame).frameStats.get? id =
      frameStep id (m.frameStats.get? id) (.frameTimedOut frame) := by
  rw [frameStep]
  by_cases hid : frame = id
  · rw [if_pos hid, ← hid]
    unfold frameTimedOut
    cases hkept : m.frameStats.get? frame with
    | none => exact hkept
    | some s => exact Dict.get?_insert_self ..
  · rw [if_neg hid]
    unfold frameTimedOut
    cases m.frameStats.get? frame with
    | none => rfl
    | some s => exact Dict.get?_insert_of_ne _ _ (Ne.symm hid)

/-- What is kept of a frame depends on what was kept of it. -/
theorem get?_told (m : Metrics) {event : MetricsEvent} (hevent : event.isReset = false)
    (id : String) :
    (m.told event).frameStats.get? id = frameStep id (m.frameStats.get? id) event := by
  cases event with
  | reset second => cases hevent
  | frameTimedOut frame => exact get?_frameTimedOut m frame id
  | frameTried frame second millis success =>
      change (m.frameStats.modify frame {} fun s => s.tried second millis success).get? id = _
      rw [Dict.modify, Dict.get?_insert, frameStep]
      by_cases hid : frame = id
      · rw [if_pos hid, if_pos hid.symm, hid]
      · rw [if_neg hid, if_neg (Ne.symm hid)]
  | setState state =>
      obtain ⟨runState, transitions, hset⟩ := m.exists_setState state
      rw [told, hset]
      rfl
  | stageEnded success => cases success <;> rfl
  | _ => rfl

theorem sorted_told {m : Metrics} (hm : m.frameStats.Sorted) {event : MetricsEvent}
    (hevent : event.isReset = false) : (m.told event).frameStats.Sorted := by
  cases event with
  | reset second => cases hevent
  | frameTimedOut frame =>
      change (m.frameTimedOut frame).frameStats.Sorted
      unfold frameTimedOut
      split
      · exact Dict.sorted_insert hm _ _
      · exact hm
  | frameTried frame second millis success => exact Dict.sorted_insert hm _ _
  | setState state =>
      obtain ⟨runState, transitions, hset⟩ := m.exists_setState state
      rw [told, hset]
      exact hm
  | stageEnded success => cases success <;> exact hm
  | _ => exact hm

theorem sinceTry_of_tried {id : String} {since : List MetricsEvent}
    (htried : since.any (isTryOf id)) (event : MetricsEvent) :
    sinceTry id (since ++ [event]) = sinceTry id since ++ [event] := by
  have hne : (sinceTry id since).isEmpty = false := by
    obtain ⟨first, hfirst, htry⟩ := List.any_eq_true.mp htried
    rw [List.isEmpty_eq_false_iff, sinceTry, Ne, List.dropWhile_eq_nil_iff]
    intro hall
    simpa [htry] using hall first hfirst
  rw [sinceTry] at hne ⊢
  rw [List.dropWhile_append, hne]
  rfl

theorem sinceTry_of_not_tried {id : String} {since : List MetricsEvent}
    (htried : since.any (isTryOf id) = false) : sinceTry id since = [] := by
  refine List.dropWhile_eq_nil_iff.mpr fun event hevent => ?_
  have hnot := List.any_eq_false.mp htried event hevent
  simpa using hnot

theorem isTimeoutOf_of_isTryOf {id : String} {event : MetricsEvent} (htry : event.isTryOf id) :
    event.isTimeoutOf id = false := by
  cases event with
  | frameTimedOut frame => cases htry
  | _ => rfl

/-- One more event counts as the end of a frame's time if the frame was tried before. -/
theorem timeouts_concat (id : String) (since : List MetricsEvent) (event : MetricsEvent) :
    (sinceTry id (since ++ [event])).countP (isTimeoutOf id) =
      (sinceTry id since).countP (isTimeoutOf id) +
        (since.any (isTryOf id) && event.isTimeoutOf id).toNat := by
  cases htried : since.any (isTryOf id) with
  | true =>
      rw [sinceTry_of_tried htried, List.countP_append, List.countP_singleton]
      cases event.isTimeoutOf id <;> rfl
  | false =>
      have hnone : since.dropWhile (fun event => !event.isTryOf id) = [] :=
        sinceTry_of_not_tried htried
      rw [sinceTry, sinceTry, List.dropWhile_append, hnone]
      cases htry : event.isTryOf id with
      | true => simp [htry, isTimeoutOf_of_isTryOf htry]
      | false => simp [htry]

variable {id : String} {since : List MetricsEvent}

theorem TellsFrame.counts {s : FrameStats} (h : TellsFrame id since s) :
    s.executions = since.countP (isTryOf id) ∧ s.failures = since.countP (isFailedTryOf id) ∧
      s.timeouts = (sinceTry id since).countP (isTimeoutOf id) := by
  simpa [frameCounters] using h.counted

/-- An event that does not count for a frame changes nothing of what is kept of it. -/
theorem TellsFrame.silent {s : FrameStats} (h : TellsFrame id since s) {event : MetricsEvent}
    (htry : event.isTryOf id = false)
    (htimeout : (since.any (isTryOf id) && event.isTimeoutOf id) = false) :
    TellsFrame id (since ++ [event]) s := by
  have hother : event.isFailedTryOf id = false ∧ event.tryMillis? id = none := by
    cases event with
    | frameTried frame second millis success =>
        have hne : frame ≠ id := of_decide_eq_false htry
        exact ⟨by rw [isFailedTryOf, decide_eq_false hne, Bool.false_and], if_neg hne⟩
    | _ => exact ⟨rfl, rfl⟩
  constructor
  · have hsame : ∀ c ∈ frameCounters, c.count id (since ++ [event]) = c.count id since := by
      simp [frameCounters, timeouts_concat, List.countP_append, htry, hother.1, htimeout]
    intro c hc
    rw [h.counted c hc, hsame c hc]
  · rw [List.filterMap_append, List.filterMap_cons_none hother.2, List.filterMap_nil,
      List.append_nil]
    exact h.times

/-- A frame is tried once more. -/
theorem TellsFrame.tried {s : FrameStats} (h : TellsFrame id since s) (second millis : Nat)
    (success : Bool) :
    TellsFrame id (since ++ [.frameTried id second millis success])
      (s.tried second millis success) := by
  obtain ⟨hexecutions, hfailures, htimeouts⟩ := h.counts
  have hmillis : tryMillis? id (.frameTried id second millis success) = some millis :=
    if_pos rfl
  constructor
  · cases success <;>
      simp [frameCounters, FrameStats.tried, timeouts_concat, List.countP_append, isTryOf,
        isFailedTryOf, isTimeoutOf, hexecutions, hfailures, htimeouts]
  · rw [List.filterMap_append, List.filterMap_cons_some hmillis]
    exact h.times.push millis

/-- The time of a frame that was tried is over. -/
theorem TellsFrame.timedOut {s : FrameStats} (h : TellsFrame id since s)
    (htried : since.any (isTryOf id)) :
    TellsFrame id (since ++ [.frameTimedOut id]) { s with timeouts := s.timeouts + 1 } := by
  obtain ⟨hexecutions, hfailures, htimeouts⟩ := h.counts
  have hmillis : tryMillis? id (.frameTimedOut id) = none := rfl
  constructor
  · simp [frameCounters, timeouts_concat, List.countP_append, isTryOf, isFailedTryOf,
      isTimeoutOf, htried, hexecutions, hfailures, htimeouts]
  · rw [List.filterMap_append, List.filterMap_cons_none hmillis, List.filterMap_nil,
      List.append_nil]
    exact h.times

/-- What is kept of a frame tells the events of this frame, after each of them. -/
theorem TellsFrame.step {kept : Option FrameStats} (h : TellsFrame id since (kept.getD {}))
    (hkept : kept.isSome = since.any (isTryOf id)) (event : MetricsEvent) :
    TellsFrame id (since ++ [event]) ((frameStep id kept event).getD {}) := by
  cases event with
  | frameTried frame second millis success =>
      rw [frameStep]
      by_cases hid : frame = id
      · obtain rfl := hid
        rw [if_pos rfl]
        exact h.tried second millis success
      · rw [if_neg hid]
        exact h.silent (decide_eq_false hid) (Bool.and_false _)
  | frameTimedOut frame =>
      rw [frameStep]
      by_cases hid : frame = id
      · obtain rfl := hid
        rw [if_pos rfl]
        cases kept with
        | none => exact h.silent rfl (by rw [← hkept]; rfl)
        | some s => exact h.timedOut hkept.symm
      · rw [if_neg hid]
        exact h.silent rfl (by rw [isTimeoutOf, decide_eq_false hid, Bool.and_false])
  | _ => exact h.silent rfl (Bool.and_false _)

/-- Something is kept of the frames that were tried. -/
theorem isSome_frameStep {kept : Option FrameStats}
    (hkept : kept.isSome = since.any (isTryOf id)) (event : MetricsEvent) :
    (frameStep id kept event).isSome = (since ++ [event]).any (isTryOf id) := by
  rw [List.any_append, ← hkept]
  cases event with
  | frameTried frame second millis success =>
      by_cases hid : frame = id <;> simp [frameStep, isTryOf, hid]
  | frameTimedOut frame =>
      by_cases hid : frame = id <;> simp [frameStep, isTryOf, hid]
  | _ => simp [frameStep, isTryOf]

/-- What is kept of the frames: something of each one that was tried, in the order of their
names. -/
structure TellsFrames (m : Metrics) (since : List MetricsEvent) : Prop where
  sorted : m.frameStats.Sorted
  tried : ∀ id, (m.frameStats.get? id).isSome = since.any (isTryOf id)
  told : ∀ id, TellsFrame id since ((m.frameStats.get? id).getD {})

theorem tellsFrames_afterEvents (began : Nat) (events : List MetricsEvent) :
    ((start began).afterEvents events).TellsFrames (sinceReset events) := by
  refine afterEvents_induction (P := TellsFrames)
    (fun _ => ⟨List.Pairwise.nil, fun _ => rfl, tellsFrame_nil⟩) ?_ began events
  intro m since event hsince hevent
  refine ⟨sorted_told hsince.sorted hevent, fun id => ?_, fun id => ?_⟩
  · rw [get?_told m hevent]
    exact isSome_frameStep (hsince.tried id) event
  · rw [get?_told m hevent]
    exact (hsince.told id).step (hsince.tried id) event

/-- No frame fails more often than it is tried. -/
theorem TellsFrame.failures_le {s : FrameStats} (h : TellsFrame id since s) :
    s.failures ≤ s.executions := by
  obtain ⟨hexecutions, hfailures, -⟩ := h.counts
  rw [hexecutions, hfailures]
  refine List.countP_mono_left fun event _ hfailed => ?_
  cases event with
  | frameTried frame second millis success => exact (Bool.and_eq_true_iff.mp hfailed).1
  | _ => cases hfailed

/-! ## Sums over the frames -/

theorem total_cons (n : Nat) (ns : List Nat) : total (n :: ns) = n + total ns := by
  have hfrom (start : Nat) : ns.foldl (fun sum n => sum + n) start = start + total ns := by
    rw [total]
    induction ns generalizing start with
    | nil => rfl
    | cons m ns ih => rw [List.foldl_cons, List.foldl_cons, ih, ih (0 + m)]; omega
  rw [total, List.foldl_cons, hfrom, Nat.zero_add]

theorem total_map_add (ids : List String) (f g : String → Nat) :
    total (ids.map fun id => f id + g id) = total (ids.map f) + total (ids.map g) := by
  induction ids with
  | nil => rfl
  | cons id ids ih =>
      rw [List.map_cons, List.map_cons, List.map_cons, total_cons, total_cons, total_cons, ih]
      omega

theorem total_indicator (ids : List String) (p : String → Bool) :
    total (ids.map fun id => if p id then 1 else 0) = ids.countP p := by
  induction ids with
  | nil => rfl
  | cons id ids ih => rw [List.map_cons, total_cons, ih, List.countP_cons, Nat.add_comm]

/-- Events that each count for one of some frames are all counted by the sum over these. -/
theorem total_countP {ids : List String} {p : String → MetricsEvent → Bool}
    {q : MetricsEvent → Bool} {since : List MetricsEvent}
    (hone : ∀ event ∈ since, ids.countP (p · event) = (q event).toNat) :
    total (ids.map fun id => since.countP (p id)) = since.countP q := by
  induction since with
  | nil =>
      have hzero := total_indicator ids fun _ => false
      simpa using hzero
  | cons event since ih =>
      obtain ⟨hevent, hsince⟩ := List.forall_mem_cons.mp hone
      simp only [List.countP_cons, total_map_add, ih hsince, total_indicator, hevent]
      cases q event <;> rfl

theorem countP_isTryOf {ids : List String} (hnodup : ids.Nodup) {event : MetricsEvent}
    (hids : ∀ id, event.isTryOf id → id ∈ ids) :
    ids.countP (isTryOf · event) = event.isTry.toNat := by
  cases event with
  | frameTried frame second millis success =>
      have hmem : frame ∈ ids := hids frame (decide_eq_true rfl)
      have hcount : ids.countP (fun id => decide (frame = id)) = ids.count frame :=
        List.countP_congr fun id _ => by rw [decide_eq_true_iff, beq_iff_eq, eq_comm]
      exact hcount.trans (List.count_eq_one_of_mem hnodup hmem)
  | _ => exact List.countP_eq_zero.mpr fun _ _ => Bool.false_ne_true

theorem countP_isFailedTryOf {ids : List String} (hnodup : ids.Nodup) {event : MetricsEvent}
    (hids : ∀ id, event.isTryOf id → id ∈ ids) :
    ids.countP (isFailedTryOf · event) = event.isFailedTry.toNat := by
  cases event with
  | frameTried frame second millis success =>
      have htry := countP_isTryOf hnodup hids
      cases success with
      | true => simp [isFailedTryOf, isFailedTry]
      | false => simpa [isTryOf, isTry, isFailedTryOf, isFailedTry] using htry
  | _ => exact List.countP_eq_zero.mpr fun _ _ => Bool.false_ne_true

/-! ## Snapshots -/

theorem snapshot_at_counter (m : Metrics) (now : Nat) :
    ∀ c ∈ counters, (m.snapshot now).at? c.path = some (.nat (c.read m)) := by
  simp [counters, snapshot, Json.at?, Json.get?, Json.members?, Dict.get?_cons]

theorem snapshot_at_state (m : Metrics) (now : Nat) :
    (m.snapshot now).at? ["runs", "current_state"] = some (.str m.runState) ∧
      (m.snapshot now).at? ["runs", "state_transitions"] = some (.nat m.stateTransitions) := by
  simp [snapshot, Json.at?, Json.get?, Json.members?, Dict.get?_cons]

/-- The entries of the frames in a snapshot. -/
def frameSnapshots (m : Metrics) : Dict Json :=
  m.frameStats.map fun (id, s) => (id, frameSnapshot id s)

theorem snapshot_at_frames (m : Metrics) (now : Nat) :
    (m.snapshot now).at? ["frames", "frame_stats"] = some (.obj m.frameSnapshots) := by
  simp [frameSnapshots, snapshot, Json.at?, Json.get?, Json.members?, Dict.get?_cons]

theorem frameSnapshot_get? (id : String) (s : FrameStats) :
    ∀ c ∈ frameCounters, (frameSnapshot id s).get? c.name = some (.nat (c.read s)) := by
  simp [frameCounters, frameSnapshot, Json.get?, Json.members?, Dict.get?_cons]

theorem snapshot_at_total (m : Metrics) (now : Nat) :
    ∀ c ∈ frameCounters, (m.snapshot now).at? ["frames", c.total] =
      some (.nat (total (m.frameStats.values.map c.read))) := by
  simp [frameCounters, snapshot, Json.at?, Json.get?, Json.members?, Dict.get?_cons]

/-- The entries of a snapshot, and their sums, against the events of the frames. -/
structure TellsSnapshots (m : Metrics) (now : Nat) (since : List MetricsEvent)
    (frames : Dict Json) : Prop where
  listed : (m.snapshot now).at? ["frames", "frame_stats"] = some (.obj frames)
  sorted : frames.Sorted
  tried : ∀ id, id ∈ frames.keys ↔ since.any (isTryOf id)
  counted : ∀ c ∈ frameCounters, ∀ entry ∈ frames,
    entry.2.get? c.name = some (.nat (c.count entry.1 since))
  summed : ∀ c ∈ frameCounters, (m.snapshot now).at? ["frames", c.total] =
    some (.nat (total (frames.keys.map (c.count · since))))

theorem keys_frameSnapshots (m : Metrics) : m.frameSnapshots.keys = m.frameStats.keys :=
  List.map_map

theorem TellsFrames.get? {m : Metrics} (h : m.TellsFrames since) {s : FrameStats}
    (hkept : m.frameStats.get? id = some s) : TellsFrame id since s := by
  have htold := h.told id
  rwa [hkept, Option.getD_some] at htold

theorem TellsFrames.snapshots {m : Metrics} (h : m.TellsFrames since) (now : Nat) :
    m.TellsSnapshots now since m.frameSnapshots where
  listed := snapshot_at_frames m now
  sorted := List.pairwise_map.mpr h.sorted
  tried := by
    intro id
    rw [keys_frameSnapshots, ← h.tried, Option.isSome_iff_exists]
    constructor
    · intro hmem
      obtain ⟨⟨_, s⟩, hentry, rfl⟩ := List.mem_map.mp hmem
      exact ⟨s, h.sorted.get?_eq_some_iff.mpr hentry⟩
    · rintro ⟨s, hkept⟩
      exact List.mem_map_of_mem (Dict.mem_of_get? hkept)
  counted := by
    intro c hc entry hentry
    obtain ⟨⟨id, s⟩, hkept, rfl⟩ := List.mem_map.mp hentry
    have hframe := h.get? (h.sorted.get?_eq_some_iff.mpr hkept)
    rw [frameSnapshot_get? id s c hc, hframe.counted c hc]
  summed := by
    intro c hc
    rw [snapshot_at_total m now c hc, keys_frameSnapshots, Dict.values, Dict.keys,
      List.map_map, List.map_map]
    refine congrArg (fun counts : List Nat => some (Json.nat (total counts))) ?_
    refine List.map_congr_left fun entry hentry => ?_
    exact (h.get? (h.sorted.get?_eq_some_iff.mpr hentry)).counted c hc

/-- The tries and the failed tries of all frames are summed up. -/
theorem TellsSnapshots.totals {m : Metrics} {now : Nat} {frames : Dict Json}
    (h : m.TellsSnapshots now since frames) :
    (m.snapshot now).at? ["frames", "total_executions"] = some (.nat (since.countP isTry)) ∧
      (m.snapshot now).at? ["frames", "total_failures"] =
        some (.nat (since.countP isFailedTry)) := by
  have hnodup := h.sorted.nodup_keys
  have hids : ∀ event ∈ since, ∀ id, event.isTryOf id → id ∈ frames.keys :=
    fun event hevent id htry => (h.tried id).mpr (List.any_eq_true.mpr ⟨event, hevent, htry⟩)
  obtain ⟨hexecutions, hfailures, -⟩ :
      (m.snapshot now).at? ["frames", "total_executions"] =
          some (.nat (total (frames.keys.map fun id => since.countP (isTryOf id)))) ∧
        (m.snapshot now).at? ["frames", "total_failures"] =
          some (.nat (total (frames.keys.map fun id => since.countP (isFailedTryOf id)))) ∧
        (m.snapshot now).at? ["frames", "total_timeouts"] =
          some (.nat (total
            (frames.keys.map fun id => (sinceTry id since).countP (isTimeoutOf id)))) := by
    simpa [frameCounters] using h.summed
  rw [total_countP fun event hevent => countP_isTryOf hnodup (hids event hevent)] at hexecutions
  rw [total_countP fun event hevent => countP_isFailedTryOf hnodup (hids event hevent)]
    at hfailures
  exact ⟨hexecutions, hfailures⟩

/-! ## What metrics tell -/

/-- What metrics and their snapshot tell of the events since the last reset. -/
structure Tells (m : Metrics) (now : Nat) (since : List MetricsEvent) : Prop where
  /-- A counter is the number of its events. -/
  counted : ∀ c ∈ counters, (m.snapshot now).at? c.path = some (.nat (since.countP c.counts))
  commands : m.commandsFailed ≤ m.commandsExecuted
  runTimes : IsLast m.runTimes (since.filterMap runMillis?)
  state : (m.snapshot now).at? ["runs", "current_state"] =
    (states since).getLast?.map Json.str
  transitions : (m.snapshot now).at? ["runs", "state_transitions"] =
    some (.nat (changes (states since)))
  frames : ∃ frames, m.TellsSnapshots now since frames
  executions : (m.snapshot now).at? ["frames", "total_executions"] =
    some (.nat (since.countP isTry))
  failures : (m.snapshot now).at? ["frames", "total_failures"] =
    some (.nat (since.countP isFailedTry))
  frame : ∀ id s, m.frameStats.get? id = some s →
    s.failures ≤ s.executions ∧ IsLast s.times (since.filterMap (tryMillis? id))

theorem countP_commands_le (since : List MetricsEvent) :
    since.countP (fun event => event = .commandRun false) ≤ since.countP isCommand := by
  refine List.countP_mono_left fun event _ hfailed => ?_
  rw [of_decide_eq_true hfailed]
  rfl

/-- No command fails that is not run. -/
theorem commandsFailed_le {m : Metrics} {since : List MetricsEvent}
    (hm : ∀ c ∈ counters, c.read m = since.countP c.counts) :
    m.commandsFailed ≤ m.commandsExecuted := by
  have hexecuted : m.commandsExecuted = since.countP isCommand :=
    hm ⟨["commands", "executed"], commandsExecuted, isCommand⟩ (by simp [counters])
  have hfailed : m.commandsFailed = since.countP (fun event => event = .commandRun false) :=
    hm ⟨["commands", "failed"], commandsFailed, fun event => event = .commandRun false⟩
      (by simp [counters])
  rw [hexecuted, hfailed]
  exact countP_commands_le since

/-- Whatever metrics are told of, they and their snapshot tell what has happened since the
last reset: every counter is the number of its events, that of a frame's ends of time being
those after its first try; the sums over the frames are those of the frames that are listed;
the durations kept are the last thousand; and only changes of the state are transitions. -/
theorem afterEvents_tells (began now : Nat) (events : List MetricsEvent) :
    ((start began).afterEvents events).Tells now (sinceReset events) := by
  have hcounters := counters_afterEvents began events
  have hruns := isLast_runTimes began events
  have hstates := tellsStates_afterEvents began events
  have hframes := tellsFrames_afterEvents began events
  generalize (start began).afterEvents events = m at *
  generalize sinceReset events = since at *
  have hsnapshots := hframes.snapshots now
  obtain ⟨hstate, htransitions⟩ := snapshot_at_state m now
  exact {
    counted := fun c hc => by rw [snapshot_at_counter m now c hc, hcounters c hc]
    commands := commandsFailed_le hcounters
    runTimes := hruns
    state := by rw [hstate, hstates.state, Option.map_some]
    transitions := by rw [htransitions, hstates.transitions]
    frames := ⟨m.frameSnapshots, hsnapshots⟩
    executions := hsnapshots.totals.1
    failures := hsnapshots.totals.2
    frame := fun id s hkept => ⟨(hframes.get? hkept).failures_le, (hframes.get? hkept).times⟩ }

end Metrics

end ScaffoldRunner
