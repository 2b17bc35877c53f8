import ScaffoldRunner.Proofs.Run.Failure

/-!
# Outlines of a run

Whether the second, third and fourth stage run again is decided once, when the
frames of the fifth stage are over, by the results of the first four.  An
uninterrupted run therefore has one of five outlines, and what it enters and
what its fifth stage tells can be read off the outline.
-/

namespace ScaffoldRunner

/-- The stages before the one that may run them again. -/
def Stage.opening : List Stage := [scope, identifyAnalyze, plan, implement]

/-- The stages after it. -/
def Stage.closing : List Stage :=
  [finalAudit, metaAudit, approval, updateRegisters, pushRemote]

/-- An attempt of a frame at the fifth stage ended the run. -/
def FailsAtFifth (p : Pipeline) (scaffold : String) (acts : List RunAct) : Prop :=
  ∃ call outcome, .attempt call outcome ∈ acts ∧ call.stage = .successContinue ∧
    (RunAct.attempt call outcome).EndsRun p scaffold

/-- What has been entered once the fifth stage is over. -/
inductive PassesFifth (entries : List Entry) : Prop
  /-- There was no reason to run stages again. -/
  | straight (front : List StageResult) (fifth : StageResult) (more : List StageResult) :
      entries = (front ++ fifth :: more).map (Entry.mk false) →
      front.map StageResult.stage = Stage.opening →
      (∀ result ∈ front, result.isSuccessful = true) → PassesFifth entries
  /-- Stages were run again, and none of them failed. -/
  | detour (front again : List StageResult) (fifth : StageResult)
      (more : List StageResult) :
      entries = front.map (Entry.mk false) ++ again.map (Entry.mk true) ++
        (fifth :: more).map (Entry.mk false) →
      front.map StageResult.stage = Stage.opening →
      (∀ result ∈ front, result.criticalFailures = []) →
      (∃ result ∈ front, result.isSuccessful = false) →
      again.map StageResult.stage = Pipeline.repeatedStages →
      (∀ result ∈ again, result.criticalFailures = []) →
      fifth.stage = .successContinue → fifth.criticalFailures = [] →
      fifth.status = .retryCompleted →
      fifth.retry = some {
        failed := (front.filter fun result => !result.isSuccessful).map StageResult.stage
        retried := Pipeline.repeatedStages
        recovered := again.all StageResult.isSuccessful } →
      PassesFifth entries

/-- The outlines of a walk through the stages that is not interrupted. -/
inductive IsOutline (p : Pipeline) (scaffold : String) (acts : List RunAct)
    (answer : Except RunError Unit) : Prop
  /-- One of the first four stages fails. -/
  | early (front : List StageResult) (last : StageResult) :
      RunAct.entries acts = (front ++ [last]).map (Entry.mk false) →
      (front ++ [last]).length ≤ 4 → last.criticalFailures ≠ [] →
      IsOutline p scaffold acts answer
  /-- The fifth stage fails. -/
  | fifth (front : List StageResult) (last : StageResult) :
      RunAct.entries acts = (front ++ [last]).map (Entry.mk false) →
      FailsAtFifth p scaffold acts → IsOutline p scaffold acts answer
  /-- One of the stages that are run again fails. -/
  | broken (front again : List StageResult) (last : StageResult) :
      RunAct.entries acts =
        front.map (Entry.mk false) ++ (again ++ [last]).map (Entry.mk true) →
      front.map StageResult.stage = Stage.opening →
      (∀ result ∈ front, result.criticalFailures = []) →
      (∃ result ∈ front, result.isSuccessful = false) →
      (again ++ [last]).map StageResult.stage <+: Pipeline.repeatedStages →
      (∀ result ∈ again, result.criticalFailures = []) → last.criticalFailures ≠ [] →
      answer = .error (.stageFailed last.stage
        (Pipeline.failureMessage last.criticalFailures)) →
      IsOutline p scaffold acts answer
  /-- The walk gets past the fifth stage. -/
  | passed : PassesFifth (RunAct.entries acts) → IsOutline p scaffold acts answer

/-- Entering more results does not change what the fifth stage has come to. -/
theorem PassesFifth.append {entries : List Entry} (h : PassesFifth entries)
    (extra : List StageResult) : PassesFifth (entries ++ extra.map (Entry.mk false)) := by
  cases h with
  | @straight front fifth more hentries hfront hsuccessful =>
      refine .straight front fifth (more ++ extra) ?_ hfront hsuccessful
      rw [hentries, ← List.map_append]
      simp
  | @detour front again fifth more hentries hfront hcritical hunsuccessful hagain hagains
      hstage hfifth hstatus hretry =>
      refine .detour front again fifth (more ++ extra) ?_ hfront hcritical hunsuccessful
        hagain hagains hstage hfifth hstatus hretry
      rw [hentries]
      simp

variable {σ : Type} {p : Pipeline} {origin run : Run} {stage : Stage} {past : List Entry}
  {acts : List RunAct}

/-! ## Entries of stages -/

theorem Run.Reached.log_of_first {results : List StageResult}
    (h : origin.Reached (results.map (Entry.mk false)) run) (hfresh : origin.IsFresh) :
    run.log.map StageRecord.result = results := by
  generalize hentries : results.map (Entry.mk false) = entries at h
  induction h generalizing results with
  | start =>
      rw [List.map_eq_nil_iff.mp hentries, hfresh.1]
      rfl
  | enter now e _ ih =>
      obtain ⟨before, last, rfl, hbefore, hlast⟩ := List.map_eq_append_iff.mp hentries
      obtain ⟨result, rfl, rfl⟩ := List.map_eq_singleton_iff.mp hlast
      change (_ ++ [_]).map StageRecord.result = _
      rw [List.map_append]
      exact congrArg (· ++ [result]) (ih hbefore)

theorem Run.Reached.failedStages_of_first {results : List StageResult}
    (h : origin.Reached (results.map (Entry.mk false)) run) (hfresh : origin.IsFresh) :
    run.failedStages =
      (results.filter fun result => !result.isSuccessful).map StageResult.stage := by
  rw [← h.log_of_first hfresh, List.filter_map, List.map_map]
  rfl

theorem IsCompletion.criticalFailures_of_ok {result completed : StageResult}
    (h : IsCompletion p origin past run result acts (.ok completed)) :
    completed.criticalFailures = result.criticalFailures := by
  cases h <;> rfl

/-- A stage other than the fifth enters its own result and no other one. -/
theorem IsStageRun.entries_of_ok {result : StageResult} (hstage : stage ≠ .successContinue)
    (h : IsStageRun p origin past run stage acts (.ok result)) :
    RunAct.entries acts = [⟨false, result⟩] ∧ result.stage = stage ∧
      result.criticalFailures = [] := by
  cases h with
  | @entered acts more framed completed hpass hcompletion =>
      have hmore : RunAct.entries more = [] := by
        cases hcompletion with
        | repeated hfifth => exact absurd (hpass.stage_of_ok.symm.trans hfifth) hstage
        | published _ _ _ hcommands => exact RunAct.entries_eq_nil_of_isCommand hcommands
        | unrepeated | audited | unpublished | plain => rfl
      refine ⟨?_, hcompletion.stage_of_ok.trans hpass.stage_of_ok,
        hcompletion.criticalFailures_of_ok.trans hpass.criticalFailures_of_ok⟩
      rw [RunAct.entries_append, RunAct.entries_append, hpass.entries_of_ok, hmore,
        entries_entering]
      rfl

theorem IsStageRun.entries_of_error {e : RunError} (hstage : stage ≠ .successContinue)
    (h : IsStageRun p origin past run stage acts (.error e))
    (hquiet : ∀ call, .attempt call none ∉ acts) :
    (∃ result : StageResult, RunAct.entries acts = [⟨false, result⟩] ∧
      result.stage = stage ∧ result.criticalFailures ≠ []) ∨
    (RunAct.entries acts = [] ∧ stage ∈ Stage.closing) := by
  cases h with
  | stopped hpass =>
      obtain ⟨result, hentry, hresult, hcritical, _⟩ := hpass.entries_of_error hquiet
      exact .inl ⟨result, hentry, hresult, hcritical⟩
  | incomplete hpass hcompletion =>
      have hpassed := hpass.stage_of_ok
      right
      cases hcompletion with
      | repetitionFailed hfifth => exact absurd (hpassed.symm.trans hfifth) hstage
      | unaudited e hseventh =>
          refine ⟨?_, by simp [← hpassed, hseventh, Stage.closing]⟩
          rw [RunAct.entries_append, hpass.entries_of_ok]
          rfl
      | publicationInterrupted htenth _ hcommands =>
          refine ⟨?_, by simp [← hpassed, htenth, Stage.closing]⟩
          rw [RunAct.entries_append, hpass.entries_of_ok,
            RunAct.entries_eq_nil_of_isCommand hcommands]
          rfl

theorem IsCourse.entries_of_ok {stages : List Stage} {results : List StageResult}
    (hstages : .successContinue ∉ stages)
    (h : IsCourse p origin past stages acts (.ok results)) :
    RunAct.entries acts = results.map (Entry.mk false) ∧
      results.map StageResult.stage = stages ∧
      ∀ result ∈ results, result.criticalFailures = [] :=
  IsSeries.entries_of_ok false
    (fun _ _ _ _ _ hmem hrun =>
      hrun.entries_of_ok fun heq => hstages (heq ▸ hmem)) h

/-! ## The fifth stage -/

/-- How the fifth stage ends when it is not interrupted and the run goes on. -/
theorem IsStageRun.fifth_of_ok {result : StageResult} {front : List StageResult}
    (h : IsStageRun p origin past run .successContinue acts (.ok result))
    (hfront : run.failedStages =
      (front.filter fun result => !result.isSuccessful).map StageResult.stage) :
    result.stage = .successContinue ∧ result.criticalFailures = [] ∧
      ((RunAct.entries acts = [⟨false, result⟩] ∧
        ∀ result ∈ front, result.isSuccessful = true) ∨
      ((∃ result ∈ front, result.isSuccessful = false) ∧ ∃ again : List StageResult,
        RunAct.entries acts = again.map (Entry.mk true) ++ [⟨false, result⟩] ∧
        again.map StageResult.stage = Pipeline.repeatedStages ∧
        (∀ result ∈ again, result.criticalFailures = []) ∧
        result.status = .retryCompleted ∧
        result.retry = some {
          failed := (front.filter fun result => !result.isSuccessful).map StageResult.stage
          retried := Pipeline.repeatedStages
          recovered := again.all StageResult.isSuccessful })) := by
  cases h with
  | @entered acts more framed completed hpass hcompletion =>
      have hpassed := hpass.stage_of_ok
      refine ⟨hcompletion.stage_of_ok.trans hpassed,
        hcompletion.criticalFailures_of_ok.trans hpass.criticalFailures_of_ok, ?_⟩
      rw [RunAct.entries_append, RunAct.entries_append, hpass.entries_of_ok, entries_entering,
        List.nil_append]
      cases hcompletion with
      | unrepeated _ hfailed =>
          left
          refine ⟨rfl, ?_⟩
          rw [hfailed] at hfront
          simpa using hfront.symm
      | @repeated _ again _ hfailed hrepetition =>
          right
          obtain ⟨hentries, hstages, hcritical⟩ := hrepetition.entries_of_ok
          refine ⟨?_, again, by rw [hentries], hstages, hcritical, rfl, ?_⟩
          · rw [hfront] at hfailed
            simpa using hfailed
          · rw [← hfront]
            rfl
      | audited _ hother | unpublished hother | published _ hother | plain hother =>
          simp [hpassed] at hother

/-- How the fifth stage fails when it is not interrupted. -/
theorem IsStageRun.fifth_of_error {e : RunError}
    (h : IsStageRun p origin past run .successContinue acts (.error e))
    (hid : run.scaffoldId = origin.scaffoldId)
    (hquiet : ∀ call, .attempt call none ∉ acts) :
    (∃ result : StageResult, RunAct.entries acts = [⟨false, result⟩] ∧
      FailsAtFifth p origin.scaffoldId acts) ∨
    (run.failedStages ≠ [] ∧ ∃ (again : List StageResult) (last : StageResult),
      RunAct.entries acts = (again ++ [last]).map (Entry.mk true) ∧
      (again ++ [last]).map StageResult.stage <+: Pipeline.repeatedStages ∧
      (∀ result ∈ again, result.criticalFailures = []) ∧ last.criticalFailures ≠ [] ∧
      e = .stageFailed last.stage (Pipeline.failureMessage last.criticalFailures)) := by
  cases h with
  | stopped hpass =>
      left
      cases hpass with
      | interrupted hsweep =>
          obtain ⟨call, hcall⟩ := hsweep.exists_interruption
          exact absurd hcall (hquiet call)
      | @failed sweep entries hsweep hcritical =>
          refine ⟨(StageResult.ofSweep .successContinue entries).failing, ?_, ?_⟩
          · rw [RunAct.entries_append, hsweep.entries, entries_entering, List.nil_append]
          · obtain ⟨act, hact, hends⟩ := hsweep.endsRun_iff_criticalFailures.mpr hcritical
            obtain ⟨call, outcome, rfl⟩ := hends.exists_attempt
            exact ⟨call, outcome, List.mem_append_left _ hact, hsweep.stage_of_attempted hact,
              hid ▸ hends⟩
  | @incomplete acts more result e hpass hcompletion =>
      right
      have hpassed := hpass.stage_of_ok
      cases hcompletion with
      | repetitionFailed _ hfailed hrepetition =>
          refine ⟨hfailed, ?_⟩
          rw [RunAct.entries_append, hpass.entries_of_ok, List.nil_append]
          exact hrepetition.entries_of_error fun call hcall =>
            hquiet call (List.mem_append_right acts hcall)
      | unaudited _ hother | publicationInterrupted hother => simp [hpassed] at hother

/-! ## Outlines -/

/-- Where a stage stands among all stages, seen from the fifth. -/
theorem Stage.position {finished rest : List Stage} (h : all = finished ++ stage :: rest) :
    (finished ++ [stage] <+: opening) ∨
    (finished = opening ∧ stage = successContinue) ∨
    (∃ middle, finished = opening ++ successContinue :: middle ∧
      successContinue ∉ middle ∧ stage ∈ closing) := by
  have hcheck : ∀ n < 10, ∀ stage ∈ all[n]?,
      (all.take n ++ [stage] <+: opening) ∨
      (all.take n = opening ∧ stage = successContinue) ∨
      (all.take n = opening ++ successContinue :: (all.take n).drop 5 ∧
        successContinue ∉ (all.take n).drop 5 ∧ stage ∈ closing) := by
    decide
  have hlength : finished.length < 10 := by
    have hten : all.length = 10 := rfl
    rw [h, List.length_append, List.length_cons] at hten
    omega
  have htake : all.take finished.length = finished := by rw [h, List.take_left]
  have hget : stage ∈ all[finished.length]? := by simp [h]
  have hposition := hcheck finished.length hlength stage hget
  rw [htake] at hposition
  refine hposition.imp_right (Or.imp_right ?_)
  rintro ⟨heq, hmem, hstage⟩
  exact ⟨_, heq, hmem, hstage⟩

theorem IsCourse.passesFifth {middle : List Stage} {results : List StageResult}
    (hfresh : origin.IsFresh) (hmiddle : .successContinue ∉ middle)
    (h : IsCourse p origin [] (Stage.opening ++ .successContinue :: middle) acts
      (.ok results)) :
    PassesFifth (RunAct.entries acts) := by
  obtain ⟨before, rest, front, others, rfl, rfl, hbefore, hrest⟩ := IsSeries.append_of_ok h
  obtain ⟨hentries, hstages, hcritical⟩ := IsCourse.entries_of_ok (by decide) hbefore
  rw [List.nil_append, hentries] at hrest
  cases hrest with
  | @next _ run _ _ acts more fifth later hpast hfifth hlater =>
      obtain ⟨hmore, _, _⟩ := IsCourse.entries_of_ok hmiddle hlater
      obtain ⟨hstage, hfifths, hcases⟩ :=
        hfifth.fifth_of_ok (hpast.failedStages_of_first hfresh)
      rw [RunAct.entries_append, RunAct.entries_append, hentries, hmore, ← List.append_assoc]
      refine PassesFifth.append ?_ later
      rcases hcases with ⟨hentry, hsuccessful⟩ | ⟨hunsuccessful, again, hagain, hagains,
        hcriticals, hstatus, hretry⟩
      · refine .straight front fifth [] ?_ hstages hsuccessful
        simp [hentry]
      · refine .detour front again fifth [] ?_ hstages hcritical hunsuccessful hagains hcriticals
          hstage hfifths hstatus hretry
        simp [hagain]

/-- A walk through the stages that is not interrupted has an outline. -/
theorem IsWalk.isOutline {answer : Except RunError Unit} (hfresh : origin.IsFresh)
    (h : IsWalk p origin false acts answer) (hquiet : ∀ call, .attempt call none ∉ acts) :
    IsOutline p origin.scaffoldId acts answer := by
  cases h with
  | @walked acts answer hcourse =>
      match answer with
      | .ok results => exact .passed (hcourse.passesFifth hfresh (by decide))
      | .error e =>
          obtain ⟨finished, stage, rest, before, last, results, run, hstages, rfl, hbefore,
            hpast, hlast⟩ := IsSeries.exists_of_error hcourse
          have hlastQuiet : ∀ call, .attempt call none ∉ last := fun call hcall =>
            hquiet call (List.mem_append_right before hcall)
          rcases Stage.position hstages with
            hearly | ⟨rfl, rfl⟩ | ⟨middle, rfl, hmiddle, hlate⟩
          · -- The stage is one of the first four.
            have hmem : ∀ other ∈ finished ++ [stage], other ∈ Stage.opening :=
              fun other hother => hearly.subset hother
            have hne : stage ≠ .successContinue := fun heq =>
              absurd (heq ▸ hmem stage (by simp)) (by decide)
            obtain ⟨hentries, hfinished, _⟩ := IsCourse.entries_of_ok
              (fun hfifth => absurd (hmem _ (List.mem_append_left _ hfifth)) (by decide)) hbefore
            rcases hlast.entries_of_error hne hlastQuiet with
              ⟨result, hentry, _, hcritical⟩ | ⟨_, hclosing⟩
            · refine .early results result ?_ ?_ hcritical
              · rw [RunAct.entries_append, hentries, hentry, List.map_append, List.map_singleton]
              · have hlength := hearly.length_le
                rw [← hfinished] at hlength
                simpa [Stage.opening] using hlength
            · have hclosings : ∀ other ∈ Stage.closing, other ∉ Stage.opening := by decide
              exact absurd (hmem stage (by simp)) (hclosings stage hclosing)
          · -- The stage is the fifth.
            obtain ⟨hentries, hfront, hcritical⟩ := IsCourse.entries_of_ok (by decide) hbefore
            rw [List.nil_append, hentries] at hpast
            rcases hlast.fifth_of_error hpast.frame.2.1 hlastQuiet with
              ⟨result, hentry, call, outcome, hmem, hcall⟩ | ⟨hfailed, again, result, hagain,
                hstages, hagains, hresult, he⟩
            · refine .fifth results result ?_
                ⟨call, outcome, List.mem_append_right before hmem, hcall⟩
              rw [RunAct.entries_append, hentries, hentry, List.map_append, List.map_singleton]
            · refine .broken results again result ?_ hfront hcritical
                ?_ hstages hagains hresult (congrArg Except.error he)
              · rw [RunAct.entries_append, hentries, hagain]
              · rw [hpast.failedStages_of_first hfresh] at hfailed
                simpa using hfailed
          · -- The stage comes after the fifth.
            have hne : stage ≠ .successContinue := by
              rintro rfl
              exact absurd hlate (by decide)
            have hpassed := IsCourse.passesFifth hfresh hmiddle hbefore
            refine .passed ?_
            rw [RunAct.entries_append]
            rcases hlast.entries_of_error hne hlastQuiet with
              ⟨result, hentry, _⟩ | ⟨hentry, _⟩
            · rw [hentry]
              exact hpassed.append [result]
            · rw [hentry]
              exact hpassed.append []

end ScaffoldRunner
