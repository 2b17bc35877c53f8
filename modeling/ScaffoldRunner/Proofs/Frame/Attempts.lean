import ScaffoldRunner.Proofs.Run.Counting
import ScaffoldRunner.Proofs.Workspace.Documents

/-!
# The attempts of a frame

A frame is tried until an attempt succeeds or none is left.  Attempts follow one
another through the world only: each begins where the one before it left the
world, and what a failed attempt leaves in the history and the metrics is not
looked at by the next one.  The last attempt gives the answer; when it succeeds
it may leave a snapshot, of which nothing else depends.
-/

namespace ScaffoldRunner

variable {σ : Type}

/-- Every call of a frame gets an answer. -/
def Host.Answers (host : Host σ) : Prop :=
  ∀ call world, ∃ outcome after, host.callFrame call world = (.done outcome, after)

/-- A host notes every call of a frame after those it noted before. -/
def Host.Notes (host : Host σ) (notes : σ → List FrameCall) : Prop :=
  ∀ call world, notes (host.callFrame call world).2.state = notes world.state ++ [call]

namespace FrameCall

def later (call : FrameCall) (n : Nat) : FrameCall :=
  { call with attemptCount := call.attemptCount + n }

/-- Attempts that are made one after another, each in the world that the one
before it left. -/
inductive Makes (host : Host σ) : FrameCall → World σ → List FrameOutcome → World σ → Prop
  | nothing (call : FrameCall) (world : World σ) : Makes host call world [] world
  | attempt {call : FrameCall} {world middle last : World σ} {outcome : FrameOutcome}
      {outcomes : List FrameOutcome} :
      call.reply host world = (.done outcome, middle) →
      Makes host call.next middle outcomes last →
      Makes host call world (outcome :: outcomes) last

def answered (call : FrameCall) (outcomes : List FrameOutcome) : List AnsweredAttempt :=
  outcomes.mapIdx fun i outcome => (call.later i, outcome)

/-- The files that an attempt leaves behind, with a snapshot or without one. -/
def filesAfter (call : FrameCall) (store : ContextStore) (now : Instant) :
    FrameOutcome → FileTree → FileTree
  | .ok result, files =>
      if call.frame.contextPreservation then
        stateOf (store.saveFrame (call.snapshot now result) files)
      else files
  | .error _, files => files

/-- The metrics when an attempt that began at a given time has ended in a world. -/
def metricsAfter (call : FrameCall) (began : Instant) (world : World σ)
    (outcome : FrameOutcome) (m : Metrics) : Metrics :=
  m.attempted call.frame.id world.second (world.now.microsSince began / 1000) outcome

/-! ## One attempt -/

variable {host : Host σ} {call : FrameCall}

theorem later_zero (call : FrameCall) : call.later 0 = call :=
  rfl

theorem later_succ (call : FrameCall) (n : Nat) : call.later (n + 1) = call.next.later n := by
  simp only [later, next, Nat.add_assoc, Nat.add_comm 1 n]

theorem answered_cons (call : FrameCall) (outcome : FrameOutcome)
    (outcomes : List FrameOutcome) :
    call.answered (outcome :: outcomes) = (call, outcome) :: call.next.answered outcomes := by
  simp only [answered, List.mapIdx_cons, later_succ, later_zero]

theorem exists_reply (h : host.Answers) (call : FrameCall) (world : World σ) :
    ∃ outcome after, call.reply host world = (.done outcome, after) := by
  unfold reply
  cases call.inputRefusal? with
  | some reason => exact ⟨_, _, rfl⟩
  | none =>
      obtain ⟨outcome, after, hcall⟩ := h call world
      rw [hcall]
      exact ⟨_, _, rfl⟩

/-- The host is called for an attempt unless the input is refused. -/
theorem notes_reply {notes : σ → List FrameCall} (h : host.Notes notes) (call : FrameCall)
    (world : World σ) :
    notes (call.reply host world).2.state =
      notes world.state ++ if call.inputRefusal?.isSome then [] else [call] := by
  unfold reply
  cases call.inputRefusal? with
  | some reason => exact (List.append_nil _).symm
  | none =>
      have hnoted := h call world
      rcases hcall : host.callFrame call world with ⟨_ | _, after⟩ <;>
        · rw [hcall] at hnoted
          exact hnoted

/-- What an attempt adds to a session.  Whether its snapshot can be written shows
in the files only. -/
theorem concludeAttempt_eq (store : ContextStore) (call : FrameCall) (began : Instant)
    (outcome : FrameOutcome) (session : Session σ) :
    call.concludeAttempt store began outcome session =
      { session with
        world := { session.world with
          files := call.filesAfter store session.now outcome session.world.files }
        metrics := call.metricsAfter began session.world outcome session.metrics
        frameHistory := session.frameHistory ++ [call.record began session.now outcome] } := by
  cases outcome with
  | error e => rfl
  | ok result =>
      rw [concludeAttempt]
      dsimp only
      rw [keepSnapshot, filesAfter]
      split
      · rw [Session.onFiles_eq]
        rfl
      · rfl

/-! ## All attempts -/

/-- A frame that may be tried again a number of times is done: some attempts have
failed, and one more has succeeded or was the last one. -/
structure Ends (host : Host σ) (call : FrameCall) (retries : Nat) (session : Session σ)
    (failures : List FrameError) (outcome : FrameOutcome) (world : World σ)
    (metrics : Metrics) (records : List FrameRecord) : Prop where
  attempts : call.Makes host session.world (failures.map .error ++ [outcome]) world
  length_le : failures.length ≤ retries
  last : succeeded outcome = true ∨ failures.length = retries
  history : List.Forall₂ FrameRecord.TellsOf records
    (call.answered (failures.map .error ++ [outcome]))
  tally : ∀ id, metrics.frameTally id = (session.metrics.frameTally id).enter id
    (call.answered (failures.map .error ++ [outcome]))
  retried : metrics.frameRetries = session.metrics.frameRetries + failures.length
  result : ∀ store, call.tryTimes host store retries session = .ok outcome
    { session with
      world := { world with
        files := (call.later failures.length).filesAfter store world.now outcome world.files }
      metrics := metrics
      frameHistory := session.frameHistory ++ records }

theorem frameRetries_metricsAfter (call : FrameCall) (began : Instant) (world : World σ)
    (outcome : FrameOutcome) (m : Metrics) :
    (call.metricsAfter began world outcome m).frameRetries = m.frameRetries := by
  unfold metricsAfter Metrics.attempted Metrics.frameTimedOut
  dsimp only
  split
  · split <;> rfl
  · rfl

variable {retries : Nat} {session : Session σ}

/-- The first attempt is the last one when it succeeds or none is left. -/
theorem Ends.single {outcome : FrameOutcome} {world : World σ}
    (hreply : call.reply host session.world = (.done outcome, world))
    (hlast : succeeded outcome = true ∨ retries = 0) :
    Ends host call retries session [] outcome world
      (call.metricsAfter session.now world outcome session.metrics)
      [call.record session.now world.now outcome] := by
  constructor
  case attempts => exact .attempt hreply (.nothing call.next world)
  case length_le => exact Nat.zero_le retries
  case last => exact hlast.imp_right Eq.symm
  case history => exact .cons (call.tellsOf_record _ _ outcome) .nil
  case tally => exact fun id => session.metrics.frameTally_attempted call _ _ outcome id
  case retried => exact call.frameRetries_metricsAfter session.now world outcome _
  case result =>
    intro store
    have honce := call.tryOnce_eq host store session
    rw [hreply] at honce
    dsimp only at honce
    rw [concludeAttempt_eq] at honce
    cases retries with
    | zero => exact honce
    | succ retries =>
        cases outcome with
        | error e => exact absurd hlast (by simp [succeeded])
        | ok result => exact bind_of_ok honce _

/-- A failed attempt comes before those that end the trials. -/
theorem Ends.again {e : FrameError} {middle : World σ}
    (hreply : call.reply host session.world = (.done (.error e), middle))
    {failures : List FrameError} {outcome : FrameOutcome} {world : World σ}
    {metrics : Metrics} {records : List FrameRecord}
    (h : Ends host call.next retries
      { session with
        world := middle
        metrics :=
          (call.metricsAfter session.now middle (.error e) session.metrics).frameRetried
        frameHistory := session.frameHistory ++ [call.record session.now middle.now (.error e)] }
      failures outcome world metrics records) :
    Ends host call (retries + 1) session (e :: failures) outcome world metrics
      (call.record session.now middle.now (.error e) :: records) := by
  have hanswered : call.answered ((e :: failures).map .error ++ [outcome]) =
      (call, .error e) :: call.next.answered (failures.map .error ++ [outcome]) :=
    call.answered_cons _ _
  constructor
  case attempts => exact .attempt hreply h.attempts
  case length_le => exact Nat.succ_le_succ h.length_le
  case last => exact h.last.imp_right (congrArg Nat.succ)
  case history =>
    rw [hanswered]
    exact .cons (call.tellsOf_record _ _ _) h.history
  case tally =>
    intro id
    have hfirst := session.metrics.frameTally_attempted call middle.second
      (middle.now.microsSince session.now / 1000) (.error e) id
    rw [hanswered, ← List.singleton_append, FrameTally.enter_append, ← hfirst]
    exact h.tally id
  case retried =>
    have hcount := call.frameRetries_metricsAfter session.now middle (.error e)
      session.metrics
    rw [h.retried, List.length_cons]
    change (call.metricsAfter session.now middle _ session.metrics).frameRetries + 1 + _ = _
    rw [hcount]
    omega
  case result =>
    intro store
    have honce := call.tryOnce_eq host store session
    rw [hreply] at honce
    dsimp only at honce
    rw [concludeAttempt_eq] at honce
    have hrest := h.result store
    rw [List.append_assoc, List.singleton_append, ← later_succ] at hrest
    exact (bind_of_ok honce _).trans hrest

/-- However many attempts are left, they come to an end. -/
theorem exists_ends (hanswers : host.Answers) (retries : Nat) (call : FrameCall)
    (session : Session σ) :
    ∃ failures outcome world metrics records,
      Ends host call retries session failures outcome world metrics records := by
  induction retries generalizing call session with
  | zero =>
      obtain ⟨outcome, world, hreply⟩ := exists_reply hanswers call session.world
      exact ⟨[], outcome, world, _, _, Ends.single hreply (.inr rfl)⟩
  | succ retries ih =>
      obtain ⟨outcome, middle, hreply⟩ := exists_reply hanswers call session.world
      cases outcome with
      | ok result => exact ⟨[], .ok result, middle, _, _, Ends.single hreply (.inl rfl)⟩
      | error e =>
          obtain ⟨failures, outcome, world, metrics, records, hends⟩ := ih call.next _
          exact ⟨e :: failures, outcome, world, metrics, _, hends.again hreply⟩

/-! ## What the attempts add up to -/

/-- The calls of the host that the attempts of a frame make. -/
theorem Makes.notes {notes : σ → List FrameCall} (hnotes : host.Notes notes)
    {world last : World σ} {outcomes : List FrameOutcome}
    (h : call.Makes host world outcomes last) :
    notes last.state = notes world.state ++
      if call.inputRefusal?.isSome then [] else (List.range outcomes.length).map call.later := by
  induction h with
  | nothing call world => simp
  | @attempt call world middle last outcome outcomes hreply _ ih =>
      have hfirst := notes_reply hnotes call world
      have hrefusal : call.next.inputRefusal? = call.inputRefusal? := rfl
      rw [hreply] at hfirst
      rw [ih, hfirst, hrefusal]
      split
      · simp
      · have hlater : (List.range outcomes.length).map (call.later ∘ Nat.succ) =
            (List.range outcomes.length).map call.next.later :=
          List.map_congr_left fun n _ => later_succ call n
        rw [List.length_cons, List.range_succ_eq_map, List.map_cons, List.map_map, hlater,
          later_zero, List.append_assoc, List.singleton_append]

/-- All attempts count for the frame that is called. -/
theorem enter_answered (t : FrameTally) (call : FrameCall) (outcomes : List FrameOutcome) :
    t.enter call.frame.id (call.answered outcomes) =
      { executions := t.executions + outcomes.length
        failures := t.failures + outcomes.countP fun outcome => !succeeded outcome
        timeouts := t.timeouts + outcomes.countP timedOut } := by
  induction outcomes generalizing t call with
  | nil => rfl
  | cons outcome outcomes ih =>
      rw [answered_cons, ← List.singleton_append, FrameTally.enter_append]
      change (t.enter call.frame.id [(call, outcome)]).enter call.next.frame.id _ = _
      rw [ih]
      simp only [FrameTally.enter, List.countP_cons, List.countP_nil, decide_true,
        Bool.true_and, if_true, List.length_cons, FrameTally.mk.injEq]
      omega

theorem enter_answered_of_ne (t : FrameTally) {call : FrameCall} {id : String}
    (hid : id ≠ call.frame.id) (outcomes : List FrameOutcome) :
    t.enter id (call.answered outcomes) = t := by
  induction outcomes generalizing t call with
  | nil => rfl
  | cons outcome outcomes ih =>
      have hfirst : t.enter id [(call, outcome)] = t := by
        simp [FrameTally.enter, Ne.symm hid]
      have hnext : id ≠ call.next.frame.id := hid
      rw [answered_cons, ← List.singleton_append, FrameTally.enter_append, hfirst, ih t hnext]

/-- The records of attempts: all of one frame at one stage, numbered on, and each
with its outcome. -/
theorem records_of_tellsOf {call : FrameCall} {outcomes : List FrameOutcome}
    {records : List FrameRecord}
    (h : List.Forall₂ FrameRecord.TellsOf records (call.answered outcomes)) :
    (∀ r ∈ records, r.frameId = call.frame.id ∧ r.stage = call.stage) ∧
      records.map FrameRecord.attempt = List.range' call.attempt outcomes.length ∧
      records.map FrameRecord.outcome =
        outcomes.map fun outcome => outcome.mapError FrameError.message := by
  induction outcomes generalizing call records with
  | nil =>
      obtain rfl := List.forall₂_nil_right_iff.mp h
      simp
  | cons outcome outcomes ih =>
      rw [answered_cons] at h
      obtain ⟨r, rest, hr, hrest, rfl⟩ := List.forall₂_cons_right_iff.mp h
      obtain ⟨hids, hnumbers, houtcomes⟩ := ih hrest
      refine ⟨List.forall_mem_cons.mpr ⟨⟨hr.frameId, hr.stage⟩, hids⟩, ?_, ?_⟩
      · rw [List.map_cons, hr.attempt, hnumbers, List.length_cons, List.range'_succ]
        rfl
      · rw [List.map_cons, hr.outcome, houtcomes, List.map_cons]

/-! ## Running a frame -/

/-- A frame was run: some attempts were made, of which the last one succeeded or
was the last one allowed, and each of them was recorded and counted. -/
structure IsRun (host : Host σ) (call : FrameCall) (session : Session σ)
    (outcomes : List FrameOutcome) (outcome : FrameOutcome) (world : World σ)
    (metrics : Metrics) (records : List FrameRecord) : Prop where
  attempts : call.Makes host session.world outcomes world
  within : outcomes.length ≤ call.maxAttempts
  failed : ∀ earlier ∈ outcomes.dropLast, succeeded earlier = false
  last : outcomes.getLast? = some outcome
  stops : succeeded outcome = true ∨ outcomes.length = call.maxAttempts
  calls : ∀ notes, host.Notes notes → notes world.state = notes session.world.state ++
    if call.inputRefusal?.isSome then [] else (List.range outcomes.length).map call.later
  subjects : ∀ r ∈ records, r.frameId = call.frame.id ∧ r.stage = call.stage
  numbers : records.map FrameRecord.attempt = List.range' 1 outcomes.length
  results : records.map FrameRecord.outcome =
    outcomes.map fun outcome => outcome.mapError FrameError.message
  executions : (metrics.frameTally call.frame.id).executions =
    (session.metrics.frameTally call.frame.id).executions + outcomes.length
  failures : (metrics.frameTally call.frame.id).failures =
    (session.metrics.frameTally call.frame.id).failures +
      outcomes.countP fun outcome => !succeeded outcome
  timeouts : (metrics.frameTally call.frame.id).timeouts =
    (session.metrics.frameTally call.frame.id).timeouts + outcomes.countP timedOut
  others : ∀ id, id ≠ call.frame.id → metrics.frameTally id = session.metrics.frameTally id
  retries : metrics.frameRetries = session.metrics.frameRetries + (outcomes.length - 1)

/-- The files after a run of a frame: with a snapshot of its result, if there is
one and the frame wants it, and otherwise as the host has left them. -/
structure LeavesSnapshot (store : ContextStore) (call : FrameCall) (outcome : FrameOutcome)
    (before after : FileTree) : Prop where
  kept : ∀ result, outcome = .ok result → call.frame.contextPreservation = true →
    ∃ snapshot : FrameSnapshot, snapshot.frameId = call.frame.id ∧
      snapshot.stage = call.stage.number ∧ snapshot.result = result ∧
      after = stateOf (store.saveFrame snapshot before) ∧
      ∀ path, answerOf (store.saveFrame snapshot before) = .ok path →
        path = store.framePath call.frame.id call.stage.number ∧
          after.readBytes path = .ok snapshot.toJson.pretty.toUTF8
  untouched : (∀ result, outcome ≠ .ok result) ∨ call.frame.contextPreservation = false →
    after = before

theorem filesAfter_ok (store : ContextStore) (call : FrameCall) (now : Instant)
    (result : Members) (files : FileTree) :
    call.filesAfter store now (.ok result) files =
      if call.frame.contextPreservation then
        stateOf (store.saveFrame (call.snapshot now result) files)
      else files := by
  rw [filesAfter]

theorem filesAfter_error (store : ContextStore) (call : FrameCall) (now : Instant)
    (e : FrameError) (files : FileTree) : call.filesAfter store now (.error e) files = files := by
  rw [filesAfter]

theorem leavesSnapshot_filesAfter (store : ContextStore) (call : FrameCall) (n : Nat)
    (now : Instant) (outcome : FrameOutcome) (files : FileTree) :
    LeavesSnapshot store call outcome files
      ((call.later n).filesAfter store now outcome files) where
  kept := by
    rintro result rfl hkeeps
    have hlater : (call.later n).frame.contextPreservation = true := hkeeps
    rw [filesAfter_ok, if_pos hlater]
    generalize hsnapshot : (call.later n).snapshot now result = snapshot
    have hid : snapshot.frameId = call.frame.id := by rw [← hsnapshot]; rfl
    have hstage : snapshot.stage = call.stage.number := by rw [← hsnapshot]; rfl
    have hresult : snapshot.result = result := by rw [← hsnapshot]; rfl
    refine ⟨snapshot, hid, hstage, hresult, rfl, fun path hsaved => ?_⟩
    obtain ⟨hpath, hread⟩ := ContextStore.readBytes_of_saveFrame hsaved
    rw [hid, hstage] at hpath
    exact ⟨hpath, hread⟩
  untouched := by
    intro hnone
    cases outcome with
    | error e => rw [filesAfter_error]
    | ok result =>
        have hkeeps : ¬(call.later n).frame.contextPreservation = true := by
          rcases hnone with hfailed | hkeeps
          · exact absurd rfl (hfailed result)
          · exact Bool.eq_false_iff.mp hkeeps
        rw [filesAfter_ok, if_neg hkeeps]

theorem Ends.isRun {retries : Nat} {failures : List FrameError} {outcome : FrameOutcome}
    {world : World σ} {metrics : Metrics} {records : List FrameRecord}
    (h : Ends host call retries session failures outcome world metrics records)
    (hfirst : call.attemptCount = 0) (hretries : retries + 1 = call.maxAttempts) :
    IsRun host call session (failures.map .error ++ [outcome]) outcome world metrics records := by
  have hlength : (failures.map Except.error ++ [outcome]).length = failures.length + 1 := by
    simp
  have hnumber : call.attempt = 1 := congrArg Nat.succ hfirst
  obtain ⟨hsubjects, hnumbers, hresults⟩ := records_of_tellsOf h.history
  have htally := h.tally call.frame.id
  rw [enter_answered] at htally
  constructor
  case attempts => exact h.attempts
  case within =>
    have hle := h.length_le
    omega
  case failed =>
    intro earlier hearlier
    rw [List.dropLast_concat] at hearlier
    obtain ⟨e, -, rfl⟩ := List.mem_map.mp hearlier
    rfl
  case last => exact List.getLast?_concat
  case stops =>
    refine h.last.imp_right fun hall => ?_
    omega
  case calls => exact fun notes hnotes => h.attempts.notes hnotes
  case subjects => exact hsubjects
  case numbers => exact hnumber ▸ hnumbers
  case results => exact hresults
  case executions => rw [htally]
  case failures => rw [htally]
  case timeouts => rw [htally]
  case others => exact fun id hid => (h.tally id).trans (enter_answered_of_ne _ hid _)
  case retries => rw [h.retried, hlength, Nat.add_sub_cancel]

/-- A frame that is run, on a host that answers, comes to an end within the
attempts that are allowed, at least one.  The answer, what is recorded and what
is counted are the same for every store, and so whether or not the snapshot can
be written. -/
theorem execute_isRun (hanswers : host.Answers) (stage : Stage) (frame : Frame)
    (inputData : Json) (previousResults : Members) (preserved : Option Json)
    (maxAttempts : Nat) (session : Session σ) :
    ∃ outcomes outcome world metrics records,
      IsRun host (first stage frame inputData previousResults preserved maxAttempts) session
        outcomes outcome world metrics records ∧
      ∀ store, ∃ files,
        (first stage frame inputData previousResults preserved maxAttempts).execute host store
            session = .ok outcome
          { session with
            world := { world with files := files }
            metrics := metrics
            frameHistory := session.frameHistory ++ records } ∧
        LeavesSnapshot store
          (first stage frame inputData previousResults preserved maxAttempts) outcome
          world.files files := by
  generalize hcall : first stage frame inputData previousResults preserved maxAttempts = call
  have hfirst : call.attemptCount = 0 := by rw [← hcall]; rfl
  have hretries : call.maxAttempts - call.attempt + 1 = call.maxAttempts := by
    have hpositive : 1 ≤ call.maxAttempts := by
      rw [← hcall]
      exact Nat.le_max_right maxAttempts 1
    have hnumber : call.attempt = 1 := congrArg Nat.succ hfirst
    omega
  obtain ⟨failures, outcome, world, metrics, records, hends⟩ :=
    exists_ends hanswers (call.maxAttempts - call.attempt) call session
  exact ⟨_, outcome, world, metrics, records, hends.isRun hfirst hretries, fun store =>
    ⟨_, hends.result store, leavesSnapshot_filesAfter store call _ world.now outcome _⟩⟩

/-- A host on which the first call of a frame runs out of time and all others
succeed; it keeps a record of the calls. -/
def faltering : Host (List FrameCall) where
  callFrame call world :=
    (.done (if world.state.isEmpty then .error (.timeout 5) else .ok [("ok", .bool true)]),
      { world with state := world.state ++ [call] })
  runProgram _ world := (.done (.notStarted "not found"), world)

/-- The first call of a frame that may be tried three times. -/
def probeCall : FrameCall :=
  first .scope (Frame.ofScript "probe" "Probe" "probe.py") (.obj []) [] none 3

theorem answers_faltering : faltering.Answers :=
  fun _ _ => ⟨_, _, rfl⟩

theorem execute_faltering_isRun :
    faltering.Answers ∧ faltering.Notes id ∧
      (answerOf (probeCall.execute faltering ⟨"ctx"⟩ Pipeline.emptySession)).toOption =
        some (.ok [("ok", .bool true)]) ∧
      (stateOf (probeCall.execute faltering ⟨"ctx"⟩
        Pipeline.emptySession)).frameHistory.length = 2 ∧
      (stateOf (probeCall.execute faltering ⟨"ctx"⟩
        Pipeline.emptySession)).metrics.frameTally "probe" = ⟨2, 1, 1⟩ ∧
      ∃ outcomes outcome world metrics records,
        IsRun faltering probeCall Pipeline.emptySession outcomes outcome world metrics records ∧
        ∀ store, ∃ files,
          probeCall.execute faltering store Pipeline.emptySession = .ok outcome
            { Pipeline.emptySession with
              world := { world with files := files }
              metrics := metrics
              frameHistory := Pipeline.emptySession.frameHistory ++ records } ∧
          LeavesSnapshot store probeCall outcome world.files files :=
  ⟨answers_faltering, fun _ _ => rfl, by rfl, by rfl, by rfl,
    execute_isRun answers_faltering .scope _ _ _ _ 3 Pipeline.emptySession⟩

end FrameCall

end ScaffoldRunner
