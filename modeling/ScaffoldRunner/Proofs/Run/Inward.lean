import ScaffoldRunner.Proofs.Run.Consistency
import ScaffoldRunner.Proofs.Run.Determinism

/-!
# Acts that stay inside

A run that publishes nothing runs no command, and when its scaffold preserves no context
it saves none: its frames and its reports are all that it shows outside.  Of these only
the reports can fail it without a frame, by not being written.
-/

namespace ScaffoldRunner

variable {p : Pipeline} {origin run : Run} {scaffold : Scaffold} {stage : Stage}
  {acts : List RunAct} {past : List Entry}

/-- An act that neither runs a command nor saves a context. -/
def RunAct.IsInward : RunAct → Prop
  | command .. => False
  | save .. => False
  | _ => True

theorem RunAct.IsPreliminary.isInward {act : RunAct} {id : String} (h : act.IsPreliminary id) :
    act.IsInward := by
  cases act with
  | command | save => exact h
  | attempt | count | enter | report => trivial

theorem isInward_concluding (repeated : Bool) (outcome : Except RunError StageResult) :
    ∀ act ∈ concluding repeated outcome, act.IsInward := by
  cases outcome <;> simp [concluding, entering, RunAct.IsInward]

theorem IsPass.isInward {repeated : Bool} {outcome : Except RunError StageResult}
    (h : IsPass p run stage repeated acts outcome) : ∀ act ∈ acts, act.IsInward := by
  obtain ⟨swept, entries, hsweep, rfl, -⟩ := h.swept
  rw [List.forall_mem_append]
  constructor
  · intro act hact
    have hpreliminary : act.IsPreliminary run.scaffoldId := hsweep.isPreliminary act hact
    exact hpreliminary.isInward
  · cases entries with
    | none => simp [passEnd]
    | some entries =>
        rw [passEnd]
        split
        · simp
        · simp [entering, RunAct.IsInward]

theorem IsRepetition.isInward {stages : List Stage} {answers : Except RunError (List StageResult)}
    (h : IsRepetition p origin past stages acts answers) : ∀ act ∈ acts, act.IsInward := by
  refine IsSeries.forall_mem (fun _ _ _ _ outcome _ hrepeat => ?_) h
  obtain ⟨passed, hpass, rfl⟩ := hrepeat.pass
  rw [List.forall_mem_append]
  exact ⟨hpass.isInward, isInward_concluding true outcome⟩

theorem IsCompletion.isInward {result : StageResult}
    (hinside : p.skipPush = true ∨ result.stage ≠ .pushRemote)
    {outcome : Except RunError StageResult}
    (h : IsCompletion p origin past run result acts outcome) : ∀ act ∈ acts, act.IsInward := by
  cases h with
  | unrepeated | plain => simp
  | repeated _ _ hrepetition | repetitionFailed _ _ hrepetition => exact hrepetition.isInward
  | audited | unaudited | unpublished => simp [RunAct.IsInward]
  | published _ hstage hpush | publicationInterrupted hstage hpush =>
      simp [hstage, hpush] at hinside

/-- Only the last stage runs commands, and only when the run pushes. -/
theorem IsStageRun.isInward (hinside : p.skipPush = true ∨ stage ≠ .pushRemote)
    {outcome : Except RunError StageResult}
    (h : IsStageRun p origin past run stage acts outcome) : ∀ act ∈ acts, act.IsInward := by
  obtain ⟨passed, result, more, hpass, rfl, hmore⟩ := h.pass
  rw [List.forall_mem_append]
  refine ⟨hpass.isInward, ?_⟩
  rcases hmore with ⟨e, -, rfl, -⟩ | ⟨r, completing, rfl, hcompletion, rfl⟩
  · simp
  · rw [List.forall_mem_append]
    rw [← hpass.stage_of_ok] at hinside
    exact ⟨hcompletion.isInward hinside, isInward_concluding false outcome⟩

/-- On its way through the stages a run that pushes nothing runs no command and saves no
context. -/
theorem IsWalk.isInward (hskip : p.skipPush = true) {stopped : Bool}
    {outcome : Except RunError Unit} (h : IsWalk p origin stopped acts outcome) :
    ∀ act ∈ acts, act.IsInward := by
  cases h with
  | stopped => simp
  | walked hcourse =>
      exact IsSeries.forall_mem (fun _ _ _ _ _ _ hstage => hstage.isInward (.inl hskip)) hcourse

theorem IsFailing.isInward {change : Metrics → Metrics} {e : RunError}
    (h : IsFailing change run e acts) : ∀ act ∈ acts, act.IsInward := by
  cases h
  simp [RunAct.IsInward]

/-- So does its ending when the scaffold preserves no context. -/
theorem IsEnding.isInward (hpreserves : scaffold.contextPreservation = false)
    {answer : Except RunError Unit} {outcome : Except RunError RunOutcome}
    (h : IsEnding scaffold run answer acts outcome) : ∀ act ∈ acts, act.IsInward := by
  have hsaving {acts : List RunAct} {path : Except RunError (Option String)}
      (hsaving : IsSaving scaffold run acts path) : acts = [] := by
    cases hsaving with
    | omitted => rfl
    | saved _ _ _ hpreserves' | unsaved _ _ hpreserves' =>
        rw [hpreserves] at hpreserves'
        simp at hpreserves'
  have hfinish {acts : List RunAct} {outcome : Except RunError RunOutcome}
      (hfinish : IsFinish scaffold run acts outcome) : ∀ act ∈ acts, act.IsInward := by
    cases hfinish with
    | unsaved hunsaved => simp [hsaving hunsaved]
    | saved hsaved hreporting =>
        rw [hsaving hsaved, List.nil_append]
        cases hreporting <;> simp [RunAct.IsInward]
  cases h with
  | completed _ hcompleted =>
      rw [List.forall_mem_cons]
      exact ⟨trivial, hfinish hcompleted⟩
  | unfinished _ hunfinished hfailing =>
      rw [List.cons_append, List.forall_mem_cons, List.forall_mem_append]
      exact ⟨trivial, hfinish hunfinished, hfailing.isInward⟩
  | failed _ _ hfailing => exact hfailing.isInward

/-- A run that runs no command adds nothing to their history. -/
theorem RunAct.ran_of_isInward (h : ∀ act ∈ acts, act.IsInward) : RunAct.ran acts = [] := by
  refine List.filterMap_eq_nil_iff.mpr fun act hact => ?_
  have hinward := h act hact
  cases act with
  | command => exact hinward.elim
  | attempt | count | enter | report | save => rfl

theorem RunAct.save_notMem_of_isInward (h : ∀ act ∈ acts, act.IsInward) (task : String)
    (old : Option Json) (new : Json) (merged : Except ContextError Json) :
    .save task old new merged ∉ acts :=
  fun hmem => h _ hmem

/-- Unless a report could not be written, a failed run has failed on its way. -/
theorem IsEnding.exists_failure (hpreserves : scaffold.contextPreservation = false)
    {answer : Except RunError Unit} {e : RunError}
    (h : IsEnding scaffold run answer acts (.error e))
    (hreported : Reported (.error e : Except RunError RunOutcome)) :
    ∃ (d : FailureDocument) (path : Except OsError String), d.error = e ∧ d.run = run ∧
      .report ReportDirectory.failureSubject d.toJson path ∈ acts := by
  cases h with
  | failed _ _ hfailing =>
      obtain ⟨document, path, herror, hrun⟩ := hfailing
      exact ⟨document, path, herror, hrun, by simp⟩
  | unfinished _ hfinish _ =>
      cases hfinish with
      | unsaved hunsaved =>
          cases hunsaved with
          | unsaved _ _ hpreserves' =>
              rw [hpreserves] at hpreserves'
              simp at hpreserves'
      | saved _ hreporting =>
          cases hreporting with
          | unreported _ e => exact absurd rfl (hreported e)

/-! ### Reports that cannot be written -/

/-- Frames do not fail a run for a report. -/
theorem IsPass.reported {repeated : Bool} {outcome : Except RunError StageResult}
    (h : IsPass p run stage repeated acts outcome) : Reported outcome := by
  intro e he
  cases h with
  | finished | failed | interrupted => simp at he

theorem IsRepetition.reported {stages : List Stage}
    {answers : Except RunError (List StageResult)}
    (h : IsRepetition p origin past stages acts answers) : Reported answers := by
  rintro e rfl
  obtain ⟨-, stage, -, -, last, -, run, -, -, -, -, hlast⟩ := IsSeries.exists_of_error h
  obtain ⟨passed, hpass, -⟩ := IsRepeat.pass hlast
  exact hpass.reported e rfl

theorem IsStageRun.exists_unwritten {e : OsError}
    (h : IsStageRun p origin past run stage acts (.error (.io e))) :
    ∃ document, .report (ReportDirectory.auditSubject run.scaffoldId) document (.error e) ∈
      acts := by
  obtain ⟨passed, result, more, hpass, rfl, hmore⟩ := h.pass
  rcases hmore with ⟨e', rfl, -, he⟩ | ⟨r, completing, -, hcompletion, rfl⟩
  · obtain rfl := Except.error.inj he
    exact absurd rfl (hpass.reported e)
  · cases hcompletion with
    | repetitionFailed _ _ hrepetition => exact absurd rfl (hrepetition.reported e)
    | unaudited =>
        exact ⟨_, List.mem_append_right passed (List.mem_append_left _ List.mem_cons_self)⟩

/-- A walk that a report ends has tried to write it. -/
theorem IsWalk.exists_unwritten {stopped : Bool} {e : OsError}
    (h : IsWalk p origin stopped acts (.error (.io e))) :
    ∃ document, .report (ReportDirectory.auditSubject origin.scaffoldId) document (.error e) ∈
      acts := by
  generalize hanswer : Except.error (RunError.io e) = outcome at h
  cases h with
  | stopped => simp at hanswer
  | @walked _ answers hcourse =>
      match answers with
      | .ok results => simp [Except.map] at hanswer
      | .error e' =>
          obtain rfl := Except.error.inj hanswer
          obtain ⟨-, stage, -, before, last, -, run, -, rfl, -, hpast, hlast⟩ :=
            IsSeries.exists_of_error hcourse
          obtain ⟨document, hmem⟩ := hlast.exists_unwritten
          rw [hpast.frame.2.1] at hmem
          exact ⟨document, List.mem_append_right before hmem⟩

theorem IsEnding.exists_unwritten {answer : Except RunError Unit} {e : OsError}
    (h : IsEnding scaffold run answer acts (.error (.io e))) :
    answer = .error (.io e) ∨
      ∃ document, .report (ReportDirectory.executionSubject run.scaffoldId) document (.error e) ∈
        acts := by
  cases h with
  | failed => exact .inl rfl
  | unfinished _ hfinish _ =>
      right
      cases hfinish with
      | unsaved hunsaved => cases hunsaved
      | saved _ hreporting =>
          cases hreporting with
          | unreported document e => exact ⟨document, by simp⟩

end ScaffoldRunner
