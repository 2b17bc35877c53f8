import Mathlib.Data.List.Nodup
import ScaffoldRunner.Proofs.Dict
import ScaffoldRunner.Proofs.Stage
import ScaffoldRunner.Run.Stages

/-!
# Entries of a run

A run changes only when the result of a stage is entered, as a first result or
as the result of running the stage again.  The entries made so far therefore
determine everything in a run but the times of its log.

Entries come in turns.  Either every stage is entered once, or the stages two
to four are entered a second time between the fourth and the fifth stage.  As
long as the turns are kept, the log and the results shown to later frames agree
with each other and with the latest entry of every stage.
-/

namespace ScaffoldRunner

namespace Stage

theorem number_eq_of_key {stage : Stage} {n : Nat} (hn : n ≤ 10)
    (hkey : "stage_" ++ toString n = stage.resultKey) : n = stage.number := by
  have hcheck : ∀ n ≤ 10, ∀ stage ∈ all,
      "stage_" ++ toString n = stage.resultKey → n = stage.number := by
    decide
  exact hcheck n hn stage stage.mem_all hkey

/-- Different stages show their results under different keys. -/
theorem resultKey_injective {a b : Stage} (h : a.resultKey = b.resultKey) : a = b := by
  cases a <;> cases b <;> first | rfl | exact absurd h (by decide)

end Stage

/-- Which stage an entry is for, and whether the stage was run again. -/
abbrev Turn := Bool × Stage

/-- The stages that have had their first turn. -/
def Turn.firsts (turns : List Turn) : List Stage :=
  (turns.filter fun t => !t.1).map Prod.snd

/-- The stages that have had another turn. -/
def Turn.again (turns : List Turn) : List Stage :=
  (turns.filter fun t => t.1).map Prod.snd

/-- The result of a stage, as it is entered into a run. -/
structure Entry where
  repeated : Bool
  result : StageResult

namespace Entry

def stage (e : Entry) : Stage := e.result.stage

/-- The turn that an entry is made in. -/
def turn (e : Entry) : Turn := (e.repeated, e.stage)

def latest? (entries : List Entry) (stage : Stage) : Option Entry :=
  entries.reverse.find? fun e => e.stage = stage

/-- The results that were entered when their stages ran first. -/
def firstResults (entries : List Entry) : List StageResult :=
  (entries.filter fun e => !e.repeated).map result

/-- The results that were entered when their stages ran again. -/
def repeatedResults (entries : List Entry) : List StageResult :=
  (entries.filter repeated).map result

theorem latest?_concat (entries : List Entry) (e : Entry) (stage : Stage) :
    latest? (entries ++ [e]) stage =
      if e.stage = stage then some e else latest? entries stage := by
  by_cases h : e.stage = stage
  · simp [latest?, h]
  · simp [latest?, h]

theorem mem_firstResults {entries : List Entry} {result : StageResult} :
    result ∈ firstResults entries ↔
      ∃ e ∈ entries, e.repeated = false ∧ e.result = result := by
  simp [firstResults, and_assoc]

theorem mem_repeatedResults {entries : List Entry} {result : StageResult} :
    result ∈ repeatedResults entries ↔
      ∃ e ∈ entries, e.repeated = true ∧ e.result = result := by
  simp [repeatedResults, and_assoc]

@[simp] theorem firstResults_append (before after : List Entry) :
    firstResults (before ++ after) = firstResults before ++ firstResults after := by
  simp [firstResults]

@[simp] theorem repeatedResults_append (before after : List Entry) :
    repeatedResults (before ++ after) =
      repeatedResults before ++ repeatedResults after := by
  simp [repeatedResults]

@[simp] theorem firstResults_nil : firstResults [] = [] :=
  rfl

@[simp] theorem repeatedResults_nil : repeatedResults [] = [] :=
  rfl

@[simp] theorem firstResults_cons (e : Entry) (entries : List Entry) :
    firstResults (e :: entries) =
      if e.repeated then firstResults entries else e.result :: firstResults entries := by
  cases h : e.repeated <;> simp [firstResults, h]

@[simp] theorem repeatedResults_cons (e : Entry) (entries : List Entry) :
    repeatedResults (e :: entries) =
      if e.repeated then e.result :: repeatedResults entries else repeatedResults entries := by
  cases h : e.repeated <;> simp [repeatedResults, h]

@[simp] theorem firstResults_map_first (results : List StageResult) :
    firstResults (results.map (Entry.mk false)) = results := by
  simp [firstResults, List.filter_map, Function.comp_def]

@[simp] theorem firstResults_map_repeated (results : List StageResult) :
    firstResults (results.map (Entry.mk true)) = [] := by
  simp [firstResults, List.filter_map, Function.comp_def]

@[simp] theorem repeatedResults_map_first (results : List StageResult) :
    repeatedResults (results.map (Entry.mk false)) = [] := by
  simp [repeatedResults, List.filter_map, Function.comp_def]

@[simp] theorem repeatedResults_map_repeated (results : List StageResult) :
    repeatedResults (results.map (Entry.mk true)) = results := by
  simp [repeatedResults, List.filter_map, Function.comp_def]

theorem map_stage_firstResults (entries : List Entry) :
    (firstResults entries).map StageResult.stage = Turn.firsts (entries.map turn) := by
  rw [firstResults, Turn.firsts, List.filter_map, List.map_map, List.map_map]
  rfl

theorem map_stage_repeatedResults (entries : List Entry) :
    (repeatedResults entries).map StageResult.stage = Turn.again (entries.map turn) := by
  rw [repeatedResults, Turn.again, List.filter_map, List.map_map, List.map_map]
  rfl

end Entry

/-- The entry that a record of the log comes from. -/
def StageRecord.entry (r : StageRecord) : Entry where
  repeated := r.retried
  result := r.result

theorem Entry.map_turn_latest? (entries : List Entry) (stage : Stage) :
    (latest? entries stage).map turn =
      (entries.map turn).reverse.find? fun t => t.2 = stage := by
  rw [latest?, ← List.map_reverse, List.find?_map]
  rfl

/-! ## Turns -/

namespace Turn

/-- The turns of a run in which no stage is run again. -/
def straight : List Turn := Stage.all.map fun stage => (false, stage)

/-- The turns of a run in which stages are run again. -/
def detour : List Turn :=
  straight.take 4 ++ Pipeline.repeatedStages.map (fun stage => (true, stage)) ++
    straight.drop 4

/-- The turns that a run may have taken at some point. -/
def OnSchedule (turns : List Turn) : Prop :=
  turns <+: straight ∨ turns <+: detour

/-- How many stages have had their first turn. -/
def reached (turns : List Turn) : Nat := turns.countP fun t => !t.1

theorem OnSchedule.of_append {before after : List Turn}
    (h : OnSchedule (before ++ after)) : OnSchedule before :=
  h.imp (List.prefix_append before after).trans
    (List.prefix_append before after).trans

theorem OnSchedule.exists_take {turns : List Turn} (h : OnSchedule turns) :
    ∃ word ∈ [straight, detour], ∃ n ≤ word.length, turns = word.take n := by
  rcases h with h | h
  · exact ⟨straight, by simp, turns.length, h.length_le, List.prefix_iff_eq_take.mp h⟩
  · exact ⟨detour, by simp, turns.length, h.length_le, List.prefix_iff_eq_take.mp h⟩

/-- A stage runs first when its number is next, and runs again when it has
already run. -/
theorem OnSchedule.next {before : List Turn} {turn : Turn}
    (h : OnSchedule (before ++ [turn])) :
    if turn.1 then turn.2.number ≤ reached before
    else turn.2.number = reached before + 1 := by
  have hcheck : ∀ word ∈ [straight, detour], ∀ n ≤ word.length,
      ∀ turn ∈ (word.take n).getLast?,
        if turn.1 then turn.2.number ≤ reached (word.take n).dropLast
        else turn.2.number = reached (word.take n).dropLast + 1 := by
    decide
  obtain ⟨word, hword, n, hn, hturns⟩ := h.exists_take
  have hturn := hcheck word hword n hn turn
  rw [← hturns, List.getLast?_concat, List.dropLast_concat] at hturn
  exact hturn rfl

/-- The latest turn of a stage is a repetition once there was one. -/
theorem OnSchedule.latest_iff {turns : List Turn} (h : OnSchedule turns) (stage : Stage) :
    (turns.reverse.find? fun t => t.2 = stage).map Prod.fst = some true ↔
      (true, stage) ∈ turns := by
  have hcheck : ∀ word ∈ [straight, detour], ∀ n ≤ word.length, ∀ stage ∈ Stage.all,
      ((word.take n).reverse.find? fun t => t.2 = stage).map Prod.fst = some true ↔
        (true, stage) ∈ word.take n := by
    decide
  obtain ⟨word, hword, n, hn, rfl⟩ := h.exists_take
  exact hcheck word hword n hn stage stage.mem_all

/-- A stage that had a turn has been reached. -/
theorem OnSchedule.number_le_reached {turns : List Turn} (h : OnSchedule turns) :
    ∀ turn ∈ turns, turn.2.number ≤ reached turns := by
  have hcheck : ∀ word ∈ [straight, detour], ∀ n ≤ word.length,
      ∀ turn ∈ word.take n, turn.2.number ≤ reached (word.take n) := by
    decide
  obtain ⟨word, hword, n, hn, rfl⟩ := h.exists_take
  exact hcheck word hword n hn

theorem OnSchedule.first_prefix {turns : List Turn} (h : OnSchedule turns) :
    firsts turns <+: Stage.all := by
  rcases h with h | h
  · exact (h.filter _).map Prod.snd
  · exact (h.filter _).map Prod.snd

theorem OnSchedule.again_prefix {turns : List Turn} (h : OnSchedule turns) :
    again turns <+: Pipeline.repeatedStages := by
  rcases h with h | h
  · exact ((h.filter _).map Prod.snd).trans List.nil_prefix
  · exact (h.filter _).map Prod.snd

end Turn

theorem Entry.nodup_stage_firstResults {entries : List Entry}
    (h : Turn.OnSchedule (entries.map turn)) :
    ((firstResults entries).map StageResult.stage).Nodup := by
  rw [map_stage_firstResults]
  exact h.first_prefix.sublist.nodup (by decide)

theorem Entry.nodup_stage_repeatedResults {entries : List Entry}
    (h : Turn.OnSchedule (entries.map turn)) :
    ((repeatedResults entries).map StageResult.stage).Nodup := by
  rw [map_stage_repeatedResults]
  exact h.again_prefix.sublist.nodup (by decide)

/-! ## Runs and their entries -/

namespace Run

/-- Make an entry at a point in time. -/
def enter (now : Instant) (e : Entry) (run : Run) : Run :=
  if e.repeated then run.replace now e.result else run.record now e.result

/-- What a run may have become after some entries; the times at which they were
made are left open. -/
inductive Reached (origin : Run) : List Entry → Run → Prop
  | start : Reached origin [] origin
  | enter {past : List Entry} {run : Run} (now : Instant) (e : Entry) :
      Reached origin past run → Reached origin (past ++ [e]) (run.enter now e)

/-- Nothing has been entered into the run. -/
def IsFresh (run : Run) : Prop := run.log = [] ∧ run.previousResults = []

/-- The log lists the first `k` stages in their order, and the results shown to
later frames are exactly those of the log. -/
structure InOrder (k : Nat) (run : Run) : Prop where
  bound : k ≤ 10
  log_numbers : run.log.map (fun r => r.stage.number) = List.range' 1 k
  results_sorted : run.previousResults.Sorted
  result_keys : run.previousResults.keys.Perm
    ((List.range' 1 k).map fun n => "stage_" ++ toString n)
  result_values : ∀ r ∈ run.log,
    run.previousResults.get? r.stage.resultKey = some r.result.toJson.sorted

variable {origin run : Run} {past : List Entry}

@[simp] theorem enter_input (now : Instant) (e : Entry) (run : Run) :
    (run.enter now e).input = run.input := by
  unfold enter
  split <;> rfl

@[simp] theorem enter_scaffoldId (now : Instant) (e : Entry) (run : Run) :
    (run.enter now e).scaffoldId = run.scaffoldId := by
  unfold enter
  split <;> rfl

@[simp] theorem enter_preserved (now : Instant) (e : Entry) (run : Run) :
    (run.enter now e).preserved = run.preserved := by
  unfold enter
  split <;> rfl

theorem enter_previousResults (now : Instant) (e : Entry) (run : Run) :
    (run.enter now e).previousResults =
      run.previousResults.insert e.stage.resultKey e.result.toJson.sorted := by
  unfold enter
  split <;> rfl

/-- The entries do not touch what a run started from. -/
theorem Reached.frame (h : Reached origin past run) :
    run.input = origin.input ∧ run.scaffoldId = origin.scaffoldId ∧
      run.preserved = origin.preserved := by
  induction h with
  | start => exact ⟨rfl, rfl, rfl⟩
  | enter now e _ ih => simpa using ih

/-- Replacing changes the record of one stage, if there is one. -/
theorem replaceIn_eq_map {entry : StageRecord} {log : List StageRecord}
    (hnodup : (log.map StageRecord.stage).Nodup)
    (hmem : entry.stage ∈ log.map StageRecord.stage) :
    replaceIn entry log = log.map fun r => if r.stage = entry.stage then entry else r := by
  induction log with
  | nil => simp at hmem
  | cons r log ih =>
      rw [List.map_cons, List.nodup_cons] at hnodup
      rw [replaceIn, List.map_cons]
      by_cases hstage : r.stage = entry.stage
      · rw [if_pos hstage, if_pos hstage]
        have hrest : ∀ r' ∈ log, r'.stage ≠ entry.stage := by
          intro r' hr' heq
          exact hnodup.1 (hstage ▸ heq ▸ List.mem_map_of_mem hr')
        rw [List.map_congr_left fun r' hr' => if_neg (hrest r' hr'), List.map_id']
      · rw [if_neg hstage, if_neg hstage, ih hnodup.2]
        rw [List.map_cons, List.mem_cons] at hmem
        exact hmem.resolve_left (Ne.symm hstage)

theorem mem_replaceIn_self (entry : StageRecord) (log : List StageRecord) :
    entry ∈ replaceIn entry log := by
  induction log with
  | nil => exact List.mem_singleton_self entry
  | cons r log ih =>
      rw [replaceIn]
      split
      · exact List.mem_cons_self
      · exact List.mem_cons_of_mem r ih

/-- The entry that was made last is in the log. -/
theorem Reached.exists_mem_log {entry : Entry}
    (h : origin.Reached (past ++ [entry]) run) : ∃ r ∈ run.log, r.entry = entry := by
  generalize hentries : past ++ [entry] = entries at h
  cases h with
  | start => simp at hentries
  | @enter _ run now e _ =>
      obtain rfl : entry = e := (List.append_inj' hentries rfl).2 |> List.singleton_inj.mp
      obtain ⟨repeated, result⟩ := entry
      cases repeated
      · exact ⟨_, List.mem_append_right _ (List.mem_singleton_self _), rfl⟩
      · exact ⟨_, mem_replaceIn_self _ _, rfl⟩

namespace InOrder

variable {k : Nat}

theorem nodup_stages (h : run.InOrder k) : (run.log.map StageRecord.stage).Nodup := by
  have hnumbers : ((run.log.map StageRecord.stage).map Stage.number).Nodup := by
    rw [List.map_map]
    exact h.log_numbers ▸ List.nodup_range'
  exact (List.pairwise_map.mp hnumbers).imp fun hne heq => hne (congrArg _ heq)

theorem mem_stages (h : run.InOrder k) {stage : Stage} :
    stage ∈ run.log.map StageRecord.stage ↔ stage.number ≤ k := by
  have hnumber : stage.number ∈ run.log.map (fun r => r.stage.number) ↔
      stage.number ≤ k := by
    rw [h.log_numbers, List.mem_range'_1]
    have := stage.number_pos
    omega
  rw [← hnumber]
  constructor
  · intro hmem
    obtain ⟨r, hr, rfl⟩ := List.mem_map.mp hmem
    exact List.mem_map.mpr ⟨r, hr, rfl⟩
  · intro hmem
    obtain ⟨r, hr, heq⟩ := List.mem_map.mp hmem
    exact List.mem_map.mpr ⟨r, hr, Stage.number_injective heq⟩

/-- The key of a stage is in use once the stage is in the log. -/
theorem mem_keys (h : run.InOrder k) {stage : Stage} :
    stage.resultKey ∈ run.previousResults.keys ↔ stage.number ≤ k := by
  rw [h.result_keys.mem_iff, List.mem_map]
  constructor
  · rintro ⟨n, hn, hkey⟩
    rw [List.mem_range'_1] at hn
    have hle : n ≤ 10 := by
      have := h.bound
      omega
    rw [← Stage.number_eq_of_key hle hkey]
    omega
  · intro hle
    refine ⟨stage.number, ?_, rfl⟩
    have := stage.number_pos
    exact List.mem_range'_1.mpr ⟨this, by omega⟩

theorem of_fresh (hfresh : run.IsFresh) : run.InOrder 0 where
  bound := Nat.zero_le 10
  log_numbers := by simp [hfresh.1]
  results_sorted := hfresh.2 ▸ List.Pairwise.nil
  result_keys := by simp [hfresh.2, Dict.keys]
  result_values := by simp [hfresh.1]

/-- Entering the next stage. -/
theorem record (h : run.InOrder k) (now : Instant) {result : StageResult}
    (hnext : result.stage.number = k + 1) :
    (run.record now result).InOrder (k + 1) where
  bound := hnext ▸ result.stage.number_le
  log_numbers := by
    have hlog : (run.record now result).log =
        run.log ++ [{ result := result, timestamp := now }] := rfl
    rw [hlog, List.map_append, h.log_numbers, List.range'_concat]
    simp [StageRecord.stage, hnext, Nat.add_comm]
  results_sorted := Dict.sorted_insert h.results_sorted _ _
  result_keys := by
    have hkey : result.stage.resultKey ∉ run.previousResults.keys := by
      rw [h.mem_keys]
      omega
    have hname : result.stage.resultKey = "stage_" ++ toString (1 + 1 * k) := by
      rw [Stage.resultKey, hnext, Nat.one_mul, Nat.add_comm]
    refine (Dict.keys_insert_of_notMem hkey).trans ?_
    rw [List.range'_concat, List.map_append, List.map_singleton, hname]
    exact (h.result_keys.cons _).trans (List.perm_append_singleton _ _).symm
  result_values := by
    intro r hr
    rcases List.mem_append.mp hr with hold | hnew
    · have hne : r.stage.resultKey ≠ result.stage.resultKey := by
        intro hkey
        have hle : r.stage.number ≤ k := h.mem_stages.mp (List.mem_map_of_mem hold)
        rw [Stage.resultKey_injective hkey] at hle
        omega
      exact (Dict.get?_insert_of_ne _ _ hne).trans (h.result_values r hold)
    · obtain rfl := List.mem_singleton.mp hnew
      exact Dict.get?_insert_self _ _ _

/-- What the log holds once a stage was entered again. -/
theorem mem_replace (h : run.InOrder k) {now : Instant} {result : StageResult}
    (hknown : result.stage.number ≤ k) {r : StageRecord} :
    r ∈ (run.replace now result).log ↔
      r = { result := result, retried := true, timestamp := now } ∨
        (r ∈ run.log ∧ r.stage ≠ result.stage) := by
  have hmem : result.stage ∈ run.log.map StageRecord.stage := h.mem_stages.mpr hknown
  have hlog : (run.replace now result).log =
      run.log.map fun r => if r.stage = result.stage then
        { result := result, retried := true, timestamp := now } else r :=
    replaceIn_eq_map h.nodup_stages hmem
  rw [hlog, List.mem_map]
  constructor
  · rintro ⟨r', hr', rfl⟩
    by_cases hstage : r'.stage = result.stage
    · exact .inl (if_pos hstage)
    · rw [if_neg hstage]
      exact .inr ⟨hr', hstage⟩
  · rintro (rfl | ⟨hr, hstage⟩)
    · obtain ⟨r', hr', heq⟩ := List.mem_map.mp hmem
      exact ⟨r', hr', if_pos heq⟩
    · exact ⟨r, hr, if_neg hstage⟩

/-- Entering a stage again. -/
theorem replace (h : run.InOrder k) (now : Instant) {result : StageResult}
    (hknown : result.stage.number ≤ k) :
    (run.replace now result).InOrder k where
  bound := h.bound
  log_numbers := by
    have hmem : result.stage ∈ run.log.map StageRecord.stage := h.mem_stages.mpr hknown
    have hlog : (run.replace now result).log = _ := replaceIn_eq_map h.nodup_stages hmem
    rw [hlog, List.map_map, ← h.log_numbers]
    refine List.map_congr_left fun r _ => ?_
    rw [Function.comp_apply]
    split
    · next hstage => exact congrArg Stage.number hstage.symm
    · rfl
  results_sorted := Dict.sorted_insert h.results_sorted _ _
  result_keys := by
    have hkeys : (run.replace now result).previousResults.keys =
        run.previousResults.keys :=
      Dict.keys_insert_of_mem h.results_sorted (h.mem_keys.mpr hknown)
    rw [hkeys]
    exact h.result_keys
  result_values := by
    intro r hr
    rcases (h.mem_replace hknown).mp hr with rfl | ⟨hold, hstage⟩
    · exact Dict.get?_insert_self _ _ _
    · have hne : r.stage.resultKey ≠ result.stage.resultKey :=
        fun hkey => hstage (Stage.resultKey_injective hkey)
      exact (Dict.get?_insert_of_ne _ _ hne).trans (h.result_values r hold)

end InOrder

/-- As long as the turns are kept, the log is in order. -/
theorem Reached.inOrder (h : Reached origin past run) (hfresh : origin.IsFresh)
    (hturns : Turn.OnSchedule (past.map Entry.turn)) :
    run.InOrder (Turn.reached (past.map Entry.turn)) := by
  induction h with
  | start => exact .of_fresh hfresh
  | @enter past run now e _ ih =>
      rw [List.map_append, List.map_singleton] at hturns ⊢
      have hold := ih hturns.of_append
      have hnext := hturns.next
      rw [Turn.reached, List.countP_append]
      obtain ⟨repeated, result⟩ := e
      cases repeated
      · exact hold.record now hnext
      · exact hold.replace now hnext

/-- As long as the turns are kept, the log holds the latest entry of every
stage. -/
theorem Reached.latest?_of_mem_log (h : Reached origin past run)
    (hfresh : origin.IsFresh) (hturns : Turn.OnSchedule (past.map Entry.turn)) :
    ∀ r ∈ run.log, Entry.latest? past r.stage = some r.entry := by
  induction h with
  | start =>
      rw [hfresh.1]
      simp
  | @enter past run now e hpast ih =>
      rw [List.map_append, List.map_singleton] at hturns
      have hold := hpast.inOrder hfresh hturns.of_append
      have hnext := hturns.next
      intro r hr
      rw [Entry.latest?_concat]
      obtain ⟨repeated, result⟩ := e
      change (if result.stage = r.stage then _ else _) = _
      cases repeated
      · have hnumber : result.stage.number = _ := hnext
        rcases List.mem_append.mp hr with hmem | hnew
        · have hne : result.stage ≠ r.stage := by
            intro heq
            have hle := hold.mem_stages.mp (List.mem_map_of_mem hmem)
            rw [heq] at hnumber
            omega
          rw [if_neg hne]
          exact ih hturns.of_append r hmem
        · obtain rfl := List.mem_singleton.mp hnew
          exact if_pos rfl
      · rcases (hold.mem_replace hnext).mp hr with rfl | ⟨hmem, hne⟩
        · exact if_pos rfl
        · rw [if_neg (Ne.symm hne)]
          exact ih hturns.of_append r hmem

/-- The records of the log that are marked as repeated are those of the stages
that were entered again. -/
theorem Reached.retried_iff (h : origin.Reached past run) (hfresh : origin.IsFresh)
    (hturns : Turn.OnSchedule (past.map Entry.turn)) {r : StageRecord} (hr : r ∈ run.log) :
    r.retried = true ↔ r.stage ∈ (Entry.repeatedResults past).map StageResult.stage := by
  have hlatest := congrArg (Option.map Entry.turn) (h.latest?_of_mem_log hfresh hturns r hr)
  rw [Entry.map_turn_latest?] at hlatest
  have hiff := hturns.latest_iff r.stage
  rw [hlatest] at hiff
  rw [Entry.map_stage_repeatedResults]
  have hretried : r.retried = true ↔
      (some r.entry.turn).map Prod.fst = some true := by
    simp [Entry.turn, StageRecord.entry]
  rw [hretried]
  refine hiff.trans ?_
  constructor
  · intro hmem
    exact List.mem_map.mpr ⟨_, List.mem_filter.mpr ⟨hmem, rfl⟩, rfl⟩
  · intro hmem
    obtain ⟨⟨repeated, stage⟩, hfilter, rfl⟩ := List.mem_map.mp hmem
    obtain ⟨hturn, rfl⟩ := List.mem_filter.mp hfilter
    exact hturn

/-- The log holds nothing but what was entered. -/
theorem Reached.entry_mem (h : origin.Reached past run) (hfresh : origin.IsFresh)
    (hturns : Turn.OnSchedule (past.map Entry.turn)) {r : StageRecord} (hr : r ∈ run.log) :
    r.entry ∈ past :=
  List.mem_reverse.mp
    (List.mem_of_find?_eq_some (h.latest?_of_mem_log hfresh hturns r hr))

/-- A stage that was entered is in the log. -/
theorem Reached.exists_record (h : origin.Reached past run) (hfresh : origin.IsFresh)
    (hturns : Turn.OnSchedule (past.map Entry.turn)) {e : Entry} (he : e ∈ past) :
    ∃ r ∈ run.log, r.stage = e.result.stage := by
  have hnumber := hturns.number_le_reached e.turn (List.mem_map_of_mem he)
  exact List.mem_map.mp ((h.inOrder hfresh hturns).mem_stages.mpr hnumber)

/-- The records that are marked as repeated hold the results that were entered
again. -/
theorem Reached.mem_repeatedResults_iff (h : origin.Reached past run)
    (hfresh : origin.IsFresh) (hturns : Turn.OnSchedule (past.map Entry.turn))
    {result : StageResult} :
    result ∈ Entry.repeatedResults past ↔
      ∃ r ∈ run.log, r.retried = true ∧ r.result = result := by
  have hmem : ∀ r ∈ run.log, r.retried = true → r.result ∈ Entry.repeatedResults past := by
    intro r hr hretried
    exact Entry.mem_repeatedResults.mpr ⟨_, h.entry_mem hfresh hturns hr, hretried, rfl⟩
  constructor
  · intro hresult
    obtain ⟨e, he, _, rfl⟩ := Entry.mem_repeatedResults.mp hresult
    obtain ⟨r, hr, hstage⟩ := h.exists_record hfresh hturns he
    have hretried : r.retried = true :=
      (h.retried_iff hfresh hturns hr).mpr (hstage ▸ List.mem_map_of_mem hresult)
    exact ⟨r, hr, hretried, List.inj_on_of_nodup_map
      (Entry.nodup_stage_repeatedResults hturns) (hmem r hr hretried) hresult hstage⟩
  · rintro ⟨r, hr, hretried, rfl⟩
    exact hmem r hr hretried

/-- The records that are not marked hold first results. -/
theorem Reached.exists_record_of_first (h : origin.Reached past run)
    (hfresh : origin.IsFresh) (hturns : Turn.OnSchedule (past.map Entry.turn))
    {result : StageResult} (hresult : result ∈ Entry.firstResults past)
    (honce : result.stage ∉ (Entry.repeatedResults past).map StageResult.stage) :
    ∃ r ∈ run.log, r.retried = false ∧ r.result = result := by
  obtain ⟨e, he, _, rfl⟩ := Entry.mem_firstResults.mp hresult
  obtain ⟨r, hr, hstage⟩ := h.exists_record hfresh hturns he
  have hretried : r.retried = false := by
    refine Bool.eq_false_iff.mpr fun hretried => honce ?_
    exact hstage ▸ (h.retried_iff hfresh hturns hr).mp hretried
  have hmem : r.result ∈ Entry.firstResults past :=
    Entry.mem_firstResults.mpr ⟨_, h.entry_mem hfresh hturns hr, hretried, rfl⟩
  exact ⟨r, hr, hretried,
    List.inj_on_of_nodup_map (Entry.nodup_stage_firstResults hturns) hmem hresult hstage⟩

end Run

end ScaffoldRunner
