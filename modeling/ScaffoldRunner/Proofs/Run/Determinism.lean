import ScaffoldRunner.Proofs.Run.Masking

/-!
# What a run does is determined

What a run does next depends on what it has been answered so far, and on nothing that
is masked.  So two runs that start alike and get the same answers to the same calls do
the same, unless one of them is ended by a report that cannot be written.

Every relation of a course is opened once, to tell which part comes first and what
follows it.  With that, two courses are compared part by part.
-/

namespace ScaffoldRunner

/-! ## Answers -/

/-- All attempts get the answers that belong to their calls. -/
def Obey (answer : FrameCall → Option FrameOutcome) (acts : List RunAct) : Prop :=
  ∀ call outcome, .attempt call outcome ∈ acts → outcome = answer call

/-- Answers that do not look behind the mask. -/
def IsBlind (answer : FrameCall → Option FrameOutcome) : Prop :=
  ∀ call call', FrameCall.masked call = FrameCall.masked call' → answer call = answer call'

/-- Two lists of acts differ in nothing but the paths of reports. -/
def SameActs (acts acts' : List RunAct) : Prop :=
  acts.map RunAct.masked = acts'.map RunAct.masked

/-- What a run answers is not that a report cannot be written. -/
def Reported {α : Type} (outcome : Except RunError α) : Prop := ∀ e, outcome ≠ .error (.io e)

variable {answer : FrameCall → Option FrameOutcome}

theorem Obey.of_append {before rest : List RunAct} (h : Obey answer (before ++ rest)) :
    Obey answer before ∧ Obey answer rest :=
  ⟨fun call outcome hmem => h call outcome (List.mem_append_left _ hmem),
    fun call outcome hmem => h call outcome (List.mem_append_right _ hmem)⟩

theorem Obey.of_cons {act : RunAct} {acts : List RunAct} (h : Obey answer (act :: acts)) :
    Obey answer acts :=
  fun call outcome hmem => h call outcome (List.mem_cons_of_mem _ hmem)

/-- Only an error can say that a report cannot be written. -/
theorem Reported.ok {α : Type} (a : α) : Reported (.ok a : Except RunError α) := by
  intro e he
  simp at he

theorem Reported.of_isOk {α : Type} {outcome : Except RunError α} (h : outcome.isOk = true) :
    Reported outcome := by
  rintro e rfl
  simp [Except.isOk, Except.toBool] at h

theorem Reported.of_map {α β : Type} {f : α → β} {outcome : Except RunError α}
    (h : Reported (outcome.map f)) : Reported outcome := by
  rintro e rfl
  exact h e rfl

theorem Reported.error {α β : Type} {e : RunError} (h : Reported (.error e : Except RunError α)) :
    Reported (.error e : Except RunError β) := by
  intro e' he
  obtain rfl := Except.error.inj he
  exact h e' rfl

namespace SameActs

variable {acts acts' more more' : List RunAct}

theorem append (h : SameActs acts acts') (hmore : SameActs more more') :
    SameActs (acts ++ more) (acts' ++ more') := by
  unfold SameActs at *
  rw [List.map_append, List.map_append, h, hmore]

theorem entries (h : SameActs acts acts') :
    (RunAct.entries acts).map Entry.masked = (RunAct.entries acts').map Entry.masked := by
  rw [← RunAct.entries_map_masked, ← RunAct.entries_map_masked, h]

theorem received (h : SameActs acts acts') :
    (RunAct.received acts).map FrameCall.masked =
      (RunAct.received acts').map FrameCall.masked := by
  rw [← RunAct.received_map_masked, ← RunAct.received_map_masked, h]

theorem answered (h : SameActs acts acts') :
    (RunAct.answered acts).map (fun tried => (tried.1.masked, tried.2)) =
      (RunAct.answered acts').map fun tried => (tried.1.masked, tried.2) := by
  rw [← RunAct.answered_map_masked, ← RunAct.answered_map_masked, h]

/-- Results that are the same behind the mask are entered alike. -/
theorem entering (repeated : Bool) {result result' : StageResult}
    (h : result.masked = result'.masked) :
    SameActs (entering repeated result) (entering repeated result') := by
  have hsuccess := StageResult.isSuccessful_eq h
  simp [SameActs, ScaffoldRunner.entering, RunAct.masked, Entry.masked, h, hsuccess]

end SameActs

/-! ## Trials -/

/-- A trial ends with its first reply, unless this is an error and the frame may be tried
again. -/
theorem IsTrial.first {retries : Nat} {call : FrameCall} {acts : List RunAct}
    {outcome : Option FrameOutcome} (h : IsTrial retries call acts outcome) :
    ∃ reply more, acts = .attempt call reply :: more ∧
      (((∀ e, reply = some (.error e) → retries = 0) ∧ more = [] ∧ outcome = reply) ∨
        ∃ e n acts, reply = some (.error e) ∧ retries = n + 1 ∧
          more = .count Metrics.frameRetried :: acts ∧ IsTrial n call.next acts outcome) := by
  cases h with
  | interrupted => exact ⟨none, [], rfl, .inl ⟨by simp, rfl, rfl⟩⟩
  | success => exact ⟨some (.ok _), [], rfl, .inl ⟨by simp, rfl, rfl⟩⟩
  | failure => exact ⟨some (.error _), [], rfl, .inl ⟨fun _ _ => rfl, rfl, rfl⟩⟩
  | again e h => exact ⟨_, _, rfl, .inr ⟨e, _, _, rfl, rfl, rfl, h⟩⟩

/-- Calls that are the same behind the mask are tried alike. -/
theorem IsTrial.determined (hblind : IsBlind answer) {retries : Nat} {call call' : FrameCall}
    {acts acts' : List RunAct} {outcome outcome' : Option FrameOutcome}
    (h : IsTrial retries call acts outcome) (h' : IsTrial retries call' acts' outcome')
    (hobey : Obey answer acts) (hobey' : Obey answer acts') (hcall : call.masked = call'.masked) :
    SameActs acts acts' ∧ outcome = outcome' := by
  induction retries using Nat.strongRecOn generalizing call call' acts acts' with
  | ind retries ih =>
      obtain ⟨reply, more, rfl, hmore⟩ := h.first
      obtain ⟨reply', more', rfl, hmore'⟩ := h'.first
      have hreply : reply = answer call := hobey _ _ List.mem_cons_self
      have hreply' : reply' = answer call' := hobey' _ _ List.mem_cons_self
      obtain rfl : reply = reply' := by rw [hreply, hreply', hblind _ _ hcall]
      rcases hmore with ⟨hlast, rfl, rfl⟩ | ⟨e, n, acts, rfl, rfl, rfl, htrial⟩
      · rcases hmore' with ⟨-, rfl, rfl⟩ | ⟨e, n, acts, rfl, hretries, -, -⟩
        · exact ⟨by simp [SameActs, RunAct.masked, hcall], rfl⟩
        · rw [hlast e rfl] at hretries
          simp at hretries
      · rcases hmore' with ⟨hlast, rfl, rfl⟩ | ⟨e', n', acts', -, hretries, rfl, htrial'⟩
        · exact absurd (hlast e rfl) (by simp)
        · obtain rfl := Nat.succ.inj hretries
          have hnext : call.next.masked = call'.next.masked := congrArg FrameCall.next hcall
          obtain ⟨hacts, houtcome⟩ := ih n (Nat.lt_succ_self n) htrial htrial'
            hobey.of_cons.of_cons hobey'.of_cons.of_cons hnext
          refine ⟨?_, houtcome⟩
          unfold SameActs at *
          simp [RunAct.masked, hcall, hacts]

/-! ## Sweeps and passes -/

section Parts

variable {p : Pipeline} {run run' : Run} {stage : Stage} {acts acts' : List RunAct}

/-- A sweep tries its first frame, and the others unless it is interrupted. -/
theorem IsSweep.first {frame : Frame} {frames : List Frame}
    {entries : Option (List FrameEntry)}
    (h : IsSweep p run stage (frame :: frames) acts entries) :
    ∃ tried outcome more rest,
      IsTrial (p.firstCall stage run frame).retries (p.firstCall stage run frame) tried outcome ∧
      acts = tried ++ more ∧
      ((outcome = none ∧ more = [] ∧ entries = none) ∨
        ∃ result, outcome = some result ∧ IsSweep p run stage frames more rest ∧
          entries = rest.map (p.frameEntry run stage frame result :: ·)) := by
  cases h with
  | interrupted _ htrial =>
      exact ⟨acts, none, [], none, htrial, (List.append_nil _).symm, .inl ⟨rfl, rfl, rfl⟩⟩
  | later htrial hsweep => exact ⟨_, _, _, none, htrial, rfl, .inr ⟨_, rfl, hsweep, rfl⟩⟩
  | next htrial hsweep => exact ⟨_, _, _, some _, htrial, rfl, .inr ⟨_, rfl, hsweep, rfl⟩⟩

theorem IsSweep.determined (hblind : IsBlind answer) (hrun : run.masked = run'.masked)
    {frames : List Frame} {entries entries' : Option (List FrameEntry)}
    (h : IsSweep p run stage frames acts entries)
    (h' : IsSweep p run' stage frames acts' entries')
    (hobey : Obey answer acts) (hobey' : Obey answer acts') :
    SameActs acts acts' ∧ entries = entries' := by
  induction frames generalizing acts acts' entries entries' with
  | nil =>
      cases h
      cases h'
      exact ⟨rfl, rfl⟩
  | cons frame frames ih =>
      obtain ⟨tried, outcome, more, rest, htrial, rfl, hmore⟩ := h.first
      obtain ⟨tried', outcome', more', rest', htrial', rfl, hmore'⟩ := h'.first
      have hcall : (p.firstCall stage run frame).masked =
          (p.firstCall stage run' frame).masked := by
        rw [p.masked_firstCall, hrun, p.masked_firstCall]
      obtain ⟨htried, rfl⟩ := htrial.determined hblind htrial' hobey.of_append.1
        hobey'.of_append.1 hcall
      rcases hmore with ⟨rfl, rfl, rfl⟩ | ⟨result, rfl, hsweep, rfl⟩
      · rcases hmore' with ⟨-, rfl, rfl⟩ | ⟨result, hsome, -, -⟩
        · exact ⟨htried.append rfl, rfl⟩
        · simp at hsome
      · rcases hmore' with ⟨hnone, -, -⟩ | ⟨result', hsome, hsweep', rfl⟩
        · simp at hnone
        · obtain rfl := Option.some.inj hsome
          obtain ⟨hacts, rfl⟩ := ih hsweep hsweep' hobey.of_append.2 hobey'.of_append.2
          refine ⟨htried.append hacts, ?_⟩
          rw [← p.frameEntry_masked run, hrun, p.frameEntry_masked]

/-- What a pass does after its sweep, and its answer. -/
def passEnd (stage : Stage) (repeated : Bool) :
    Option (List FrameEntry) → List RunAct × Except RunError StageResult
  | none => ([], .error (.aborted shutdownReason))
  | some entries =>
      let result := StageResult.ofSweep stage entries
      if result.criticalFailures.isEmpty then ([], .ok result)
      else (entering repeated result.failing,
        .error (.stageFailed stage (Pipeline.failureMessage result.criticalFailures)))

/-- A pass is a sweep with an end that depends on the entries of the sweep only. -/
theorem IsPass.swept {repeated : Bool} {outcome : Except RunError StageResult}
    (h : IsPass p run stage repeated acts outcome) :
    ∃ swept entries, IsSweep p run stage (p.planned run stage) swept entries ∧
      acts = swept ++ (passEnd stage repeated entries).1 ∧
      outcome = (passEnd stage repeated entries).2 := by
  cases h with
  | finished hsweep hcritical =>
      exact ⟨_, _, hsweep, by simp [passEnd, hcritical], by simp [passEnd, hcritical]⟩
  | failed hsweep hcritical =>
      exact ⟨_, _, hsweep, by simp [passEnd, hcritical], by simp [passEnd, hcritical]⟩
  | interrupted hsweep => exact ⟨_, none, hsweep, (List.append_nil _).symm, rfl⟩

theorem IsPass.determined (hblind : IsBlind answer) (hrun : run.masked = run'.masked)
    {repeated : Bool} {outcome outcome' : Except RunError StageResult}
    (h : IsPass p run stage repeated acts outcome)
    (h' : IsPass p run' stage repeated acts' outcome')
    (hobey : Obey answer acts) (hobey' : Obey answer acts') :
    SameActs acts acts' ∧ outcome = outcome' := by
  obtain ⟨swept, entries, hsweep, rfl, rfl⟩ := h.swept
  obtain ⟨swept', entries', hsweep', rfl, rfl⟩ := h'.swept
  rw [← p.planned_masked, ← hrun, p.planned_masked] at hsweep'
  obtain ⟨hswept, rfl⟩ := hsweep.determined hblind hrun hsweep' hobey.of_append.1
    hobey'.of_append.1
  exact ⟨hswept.append rfl, rfl⟩

/-! ## Series of stages -/

/-- Two answers are the same behind the mask. -/
def SameResult (outcome outcome' : Except RunError StageResult) : Prop :=
  outcome.map StageResult.masked = outcome'.map StageResult.masked

/-- What is entered when a stage is over. -/
def concluding (repeated : Bool) : Except RunError StageResult → List RunAct
  | .ok result => entering repeated result
  | .error _ => []

theorem SameResult.concluding (repeated : Bool) {outcome outcome' : Except RunError StageResult}
    (h : SameResult outcome outcome') :
    SameActs (concluding repeated outcome) (concluding repeated outcome') := by
  cases outcome with
  | error e =>
      cases outcome' with
      | error e' => rfl
      | ok result' => simp [SameResult, Except.map] at h
  | ok result =>
      cases outcome' with
      | error e' => simp [SameResult, Except.map] at h
      | ok result' => exact .entering repeated (Except.ok.inj h)

variable {origin origin' : Run} {past past' : List Entry}

/-- A series goes on after its first stage unless that one fails. -/
theorem IsSeries.first
    {step : List Entry → Run → Stage → List RunAct → Except RunError StageResult → Prop}
    {stages : List Stage} {outcome : Except RunError (List StageResult)}
    (h : IsSeries origin step past (stage :: stages) acts outcome) :
    ∃ run done result more rest,
      origin.Reached past run ∧ step past run stage done result ∧ acts = done ++ more ∧
      ((∃ e, result = .error e ∧ more = [] ∧ outcome = .error e) ∨
        ∃ r, result = .ok r ∧
          IsSeries origin step (past ++ RunAct.entries done) stages more rest ∧
          outcome = rest.map (r :: ·)) := by
  cases h with
  | stopped _ hpast hstep =>
      exact ⟨_, acts, _, [], .ok [], hpast, hstep, (List.append_nil _).symm,
        .inl ⟨_, rfl, rfl, rfl⟩⟩
  | later hpast hstep hmore =>
      exact ⟨_, _, _, _, _, hpast, hstep, rfl, .inr ⟨_, rfl, hmore, rfl⟩⟩
  | next hpast hstep hmore =>
      exact ⟨_, _, _, _, _, hpast, hstep, rfl, .inr ⟨_, rfl, hmore, rfl⟩⟩

/-- A series is determined when each of its stages is. -/
theorem IsSeries.determined
    {step step' : List Entry → Run → Stage → List RunAct → Except RunError StageResult → Prop}
    (hstep : ∀ {past past' run run' stage acts acts' outcome outcome'},
      past.map Entry.masked = past'.map Entry.masked → run.masked = run'.masked →
      step past run stage acts outcome → step' past' run' stage acts' outcome' →
      Obey answer acts → Obey answer acts' → Reported outcome → Reported outcome' →
      SameActs acts acts' ∧ SameResult outcome outcome')
    (horigin : origin.masked = origin'.masked)
    (hpast : past.map Entry.masked = past'.map Entry.masked)
    {stages : List Stage} {outcome outcome' : Except RunError (List StageResult)}
    (h : IsSeries origin step past stages acts outcome)
    (h' : IsSeries origin' step' past' stages acts' outcome')
    (hobey : Obey answer acts) (hobey' : Obey answer acts')
    (hreported : Reported outcome) (hreported' : Reported outcome') :
    SameActs acts acts' ∧
      outcome.map (List.map StageResult.masked) = outcome'.map (List.map StageResult.masked) := by
  induction stages generalizing past past' acts acts' outcome outcome' with
  | nil =>
      cases h
      cases h'
      exact ⟨rfl, rfl⟩
  | cons stage stages ih =>
      obtain ⟨run, done, result, more, rest, hreached, hdone, rfl, hmore⟩ := h.first
      obtain ⟨run', done', result', more', rest', hreached', hdone', rfl, hmore'⟩ := h'.first
      have hrun := hreached.masked_eq_masked hreached' horigin hpast
      have hfirst (hdone_reported : Reported result) (hdone_reported' : Reported result') :=
        hstep hpast hrun hdone hdone' hobey.of_append.1 hobey'.of_append.1 hdone_reported
          hdone_reported'
      rcases hmore with ⟨e, rfl, rfl, rfl⟩ | ⟨r, rfl, hseries, rfl⟩
      · rcases hmore' with ⟨e', rfl, rfl, rfl⟩ | ⟨r', rfl, -, -⟩
        · obtain ⟨hacts, hresult⟩ := hfirst hreported.error hreported'.error
          obtain rfl : e = e' := Except.error.inj hresult
          exact ⟨hacts.append rfl, rfl⟩
        · obtain ⟨-, hresult⟩ := hfirst hreported.error (.ok r')
          simp [SameResult, Except.map] at hresult
      · rcases hmore' with ⟨e', rfl, rfl, rfl⟩ | ⟨r', rfl, hseries', rfl⟩
        · obtain ⟨-, hresult⟩ := hfirst (.ok r) hreported'.error
          simp [SameResult, Except.map] at hresult
        · obtain ⟨hacts, hresult⟩ := hfirst (.ok r) (.ok r')
          have hr : r.masked = r'.masked := Except.ok.inj hresult
          have hnext : (past ++ RunAct.entries done).map Entry.masked =
              (past' ++ RunAct.entries done').map Entry.masked := by
            rw [List.map_append, List.map_append, hpast, hacts.entries]
          obtain ⟨hothers, hrest⟩ := ih hnext hseries hseries' hobey.of_append.2
            hobey'.of_append.2 hreported.of_map hreported'.of_map
          refine ⟨hacts.append hothers, ?_⟩
          cases rest <;> cases rest' <;> simp_all [Except.map]

theorem IsRepeat.pass {outcome : Except RunError StageResult}
    (h : IsRepeat p run stage acts outcome) :
    ∃ passed, IsPass p run stage true passed outcome ∧
      acts = passed ++ concluding true outcome := by
  cases h with
  | stopped hpass => exact ⟨acts, hpass, (List.append_nil _).symm⟩
  | entered hpass => exact ⟨_, hpass, rfl⟩

theorem IsRepetition.determined (hblind : IsBlind answer)
    (horigin : origin.masked = origin'.masked)
    (hpast : past.map Entry.masked = past'.map Entry.masked)
    {stages : List Stage} {outcome outcome' : Except RunError (List StageResult)}
    (h : IsRepetition p origin past stages acts outcome)
    (h' : IsRepetition p origin' past' stages acts' outcome')
    (hobey : Obey answer acts) (hobey' : Obey answer acts')
    (hreported : Reported outcome) (hreported' : Reported outcome') :
    SameActs acts acts' ∧
      outcome.map (List.map StageResult.masked) = outcome'.map (List.map StageResult.masked) := by
  refine IsSeries.determined (fun _ hrun hrepeat hrepeat' hobey hobey' _ _ => ?_) horigin hpast
    h h' hobey hobey' hreported hreported'
  obtain ⟨passed, hpass, rfl⟩ := hrepeat.pass
  obtain ⟨passed', hpass', rfl⟩ := hrepeat'.pass
  obtain ⟨hacts, rfl⟩ := hpass.determined hblind hrun hpass' hobey.of_append.1
    hobey'.of_append.1
  exact ⟨hacts.append rfl, rfl⟩

/-! ## Stages -/

section Completion

variable {result : StageResult} {outcome outcome' : Except RunError StageResult}

/-- The fifth stage is repeated when a stage before it was not successful. -/
theorem IsCompletion.of_fifth (h : IsCompletion p origin past run result acts outcome)
    (hstage : result.stage = .successContinue) :
    (run.failedStages = [] ∧ acts = [] ∧ outcome = .ok result) ∨
      (run.failedStages ≠ [] ∧ ∃ answers,
        IsRepetition p origin past Pipeline.repeatedStages acts answers ∧
        outcome = answers.map fun results => { result with
          status := .retryCompleted
          retry := some (Pipeline.retryOutcome run results) }) := by
  cases h with
  | unrepeated _ hfailed => exact .inl ⟨hfailed, rfl, rfl⟩
  | repeated _ hfailed hrepetition => exact .inr ⟨hfailed, .ok _, hrepetition, rfl⟩
  | repetitionFailed _ hfailed hrepetition => exact .inr ⟨hfailed, .error _, hrepetition, rfl⟩
  | audited _ hother | unaudited _ hother | unpublished hother | published _ hother
  | publicationInterrupted hother =>
      rw [hstage] at hother
      simp at hother
  | plain hfifth => exact absurd hstage hfifth

/-- The seventh stage reports its audit. -/
theorem IsCompletion.of_seventh (h : IsCompletion p origin past run result acts outcome)
    (hstage : result.stage = .metaAudit) :
    ∃ path, acts = [.report (ReportDirectory.auditSubject run.scaffoldId)
        (StageRecord.audit run.log run.preserved).toJson path] ∧
      outcome = (path.mapError RunError.io).map fun path => { result with
        status := .metaAuditComplete
        audit := some ⟨StageRecord.audit run.log run.preserved, path⟩ } := by
  cases h with
  | audited path => exact ⟨.ok path, rfl, rfl⟩
  | unaudited e => exact ⟨.error e, rfl, rfl⟩
  | unrepeated hother | repeated hother | repetitionFailed hother | unpublished hother
  | published _ hother | publicationInterrupted hother =>
      rw [hstage] at hother
      simp at hother
  | plain _ hseventh => exact absurd hstage hseventh

/-- The tenth stage is counted as skipped when nothing is pushed. -/
theorem IsCompletion.of_tenth (h : IsCompletion p origin past run result acts outcome)
    (hskip : p.skipPush = true) (hstage : result.stage = .pushRemote) :
    acts = [.count Metrics.stageSkipped] ∧ outcome = .ok (Pipeline.unpublished result) := by
  cases h with
  | unpublished => exact ⟨rfl, rfl⟩
  | published _ _ hpush | publicationInterrupted _ hpush =>
      rw [hskip] at hpush
      simp at hpush
  | unrepeated hother | repeated hother | repetitionFailed hother | audited _ hother
  | unaudited _ hother =>
      rw [hstage] at hother
      simp at hother
  | plain _ _ htenth => exact absurd hstage htenth

/-- The other stages do nothing after their frames. -/
theorem IsCompletion.of_plain (h : IsCompletion p origin past run result acts outcome)
    (hfifth : result.stage ≠ .successContinue) (hseventh : result.stage ≠ .metaAudit)
    (htenth : result.stage ≠ .pushRemote) : acts = [] ∧ outcome = .ok result := by
  cases h with
  | plain => exact ⟨rfl, rfl⟩
  | unrepeated hstage | repeated hstage | repetitionFailed hstage => exact absurd hstage hfifth
  | audited _ hstage | unaudited _ hstage => exact absurd hstage hseventh
  | unpublished hstage | published _ hstage | publicationInterrupted hstage =>
      exact absurd hstage htenth

/-- Runs that are the same behind the mask judge the repetition of stages alike. -/
theorem Pipeline.retryOutcome_eq (hrun : run.masked = run'.masked)
    {results results' : List StageResult}
    (hresults : results.map StageResult.masked = results'.map StageResult.masked) :
    retryOutcome run results = retryOutcome run' results' := by
  have hall (results : List StageResult) : results.all StageResult.isSuccessful =
      (results.map StageResult.masked).all StageResult.isSuccessful := by
    simp [List.all_map, Function.comp_def]
  rw [retryOutcome, retryOutcome, ← run.failedStages_masked, hrun, run'.failedStages_masked,
    hall results, hresults, ← hall]

theorem IsCompletion.determined (hblind : IsBlind answer) (hskip : p.skipPush = true)
    (horigin : origin.masked = origin'.masked)
    (hpast : past.map Entry.masked = past'.map Entry.masked) (hrun : run.masked = run'.masked)
    (h : IsCompletion p origin past run result acts outcome)
    (h' : IsCompletion p origin' past' run' result acts' outcome')
    (hobey : Obey answer acts) (hobey' : Obey answer acts')
    (hreported : Reported outcome) (hreported' : Reported outcome') :
    SameActs acts acts' ∧ SameResult outcome outcome' := by
  by_cases hfifth : result.stage = .successContinue
  · have hfailed : run.failedStages = run'.failedStages := by
      rw [← run.failedStages_masked, hrun, run'.failedStages_masked]
    rcases h.of_fifth hfifth with ⟨hnone, rfl, rfl⟩ | ⟨hsome, answers, hrepetition, rfl⟩
    · rcases h'.of_fifth hfifth with ⟨-, rfl, rfl⟩ | ⟨hsome, -⟩
      · exact ⟨rfl, rfl⟩
      · exact absurd (hfailed ▸ hnone) hsome
    · rcases h'.of_fifth hfifth with ⟨hnone, -⟩ | ⟨-, answers', hrepetition', rfl⟩
      · exact absurd (hfailed ▸ hnone) hsome
      · obtain ⟨hacts, hanswers⟩ := hrepetition.determined hblind horigin hpast hrepetition'
          hobey hobey' hreported.of_map hreported'.of_map
        refine ⟨hacts, ?_⟩
        cases answers with
        | error e =>
            cases answers' with
            | error e' =>
                obtain rfl : e = e' := Except.error.inj hanswers
                rfl
            | ok results' => simp [Except.map] at hanswers
        | ok results =>
            cases answers' with
            | error e' => simp [Except.map] at hanswers
            | ok results' =>
                have houtcome := Pipeline.retryOutcome_eq hrun (Except.ok.inj hanswers)
                simp [SameResult, Except.map, houtcome]
  · by_cases hseventh : result.stage = .metaAudit
    · obtain ⟨path, rfl, rfl⟩ := h.of_seventh hseventh
      obtain ⟨path', rfl, rfl⟩ := h'.of_seventh hseventh
      have haudit : StageRecord.audit run.log run.preserved =
          StageRecord.audit run'.log run'.preserved := by
        rw [← StageRecord.audit_map_masked, ← StageRecord.audit_map_masked run'.log]
        exact congrArg (fun run => StageRecord.audit run.log run.preserved) hrun
      have hscaffold : run.masked.scaffoldId = run'.masked.scaffoldId :=
        congrArg Run.scaffoldId hrun
      change run.scaffoldId = run'.scaffoldId at hscaffold
      -- Both reports are written, at whatever paths.
      cases path with
      | error e => exact absurd rfl (hreported e)
      | ok path =>
          cases path' with
          | error e => exact absurd rfl (hreported' e)
          | ok path' =>
              rw [haudit, hscaffold]
              refine ⟨rfl, ?_⟩
              simp [SameResult, Except.map, Except.mapError, StageResult.masked, hseventh,
                AuditOutcome.masked]
    · by_cases htenth : result.stage = .pushRemote
      · obtain ⟨rfl, rfl⟩ := h.of_tenth hskip htenth
        obtain ⟨rfl, rfl⟩ := h'.of_tenth hskip htenth
        exact ⟨rfl, rfl⟩
      · obtain ⟨rfl, rfl⟩ := h.of_plain hfifth hseventh htenth
        obtain ⟨rfl, rfl⟩ := h'.of_plain hfifth hseventh htenth
        exact ⟨rfl, rfl⟩

end Completion

/-- A stage is a pass, which may fail, and what follows it. -/
theorem IsStageRun.pass {outcome : Except RunError StageResult}
    (h : IsStageRun p origin past run stage acts outcome) :
    ∃ passed result more, IsPass p run stage false passed result ∧ acts = passed ++ more ∧
      ((∃ e, result = .error e ∧ more = [] ∧ outcome = .error e) ∨
        ∃ r completing, result = .ok r ∧ IsCompletion p origin past run r completing outcome ∧
          more = completing ++ concluding false outcome) := by
  cases h with
  | stopped hpass => exact ⟨acts, _, [], hpass, (List.append_nil _).symm, .inl ⟨_, rfl, rfl, rfl⟩⟩
  | incomplete hpass hcompletion =>
      exact ⟨_, _, _, hpass, rfl, .inr ⟨_, _, rfl, hcompletion, (List.append_nil _).symm⟩⟩
  | entered hpass hcompletion =>
      exact ⟨_, _, _, hpass, List.append_assoc .., .inr ⟨_, _, rfl, hcompletion, rfl⟩⟩

theorem IsStageRun.determined (hblind : IsBlind answer) (hskip : p.skipPush = true)
    (horigin : origin.masked = origin'.masked)
    (hpast : past.map Entry.masked = past'.map Entry.masked) (hrun : run.masked = run'.masked)
    {outcome outcome' : Except RunError StageResult}
    (h : IsStageRun p origin past run stage acts outcome)
    (h' : IsStageRun p origin' past' run' stage acts' outcome')
    (hobey : Obey answer acts) (hobey' : Obey answer acts')
    (hreported : Reported outcome) (hreported' : Reported outcome') :
    SameActs acts acts' ∧ SameResult outcome outcome' := by
  obtain ⟨passed, result, more, hpass, rfl, hmore⟩ := h.pass
  obtain ⟨passed', result', more', hpass', rfl, hmore'⟩ := h'.pass
  obtain ⟨hpassed, rfl⟩ := hpass.determined hblind hrun hpass' hobey.of_append.1
    hobey'.of_append.1
  rcases hmore with ⟨e, rfl, rfl, rfl⟩ | ⟨r, completing, rfl, hcompletion, rfl⟩
  · rcases hmore' with ⟨e', he, rfl, rfl⟩ | ⟨r', completing', hr, -, -⟩
    · obtain rfl := Except.error.inj he
      exact ⟨hpassed.append rfl, rfl⟩
    · simp at hr
  · rcases hmore' with ⟨e', he, -, -⟩ | ⟨r', completing', hr, hcompletion', rfl⟩
    · simp at he
    · obtain rfl := Except.ok.inj hr
      obtain ⟨hacts, houtcome⟩ := hcompletion.determined hblind hskip horigin hpast hrun
        hcompletion' hobey.of_append.2.of_append.1 hobey'.of_append.2.of_append.1 hreported
        hreported'
      exact ⟨hpassed.append (hacts.append (houtcome.concluding false)), houtcome⟩

/-- Two walks through the stages that start alike and get the same answers are the same,
but for the paths of reports, and they come to the same end. -/
theorem IsWalk.determined (hblind : IsBlind answer) (hskip : p.skipPush = true)
    (horigin : origin.masked = origin'.masked) {stopped : Bool}
    {outcome outcome' : Except RunError Unit} (h : IsWalk p origin stopped acts outcome)
    (h' : IsWalk p origin' stopped acts' outcome')
    (hobey : Obey answer acts) (hobey' : Obey answer acts')
    (hreported : Reported outcome) (hreported' : Reported outcome') :
    SameActs acts acts' ∧ outcome = outcome' := by
  cases h with
  | stopped =>
      cases h'
      exact ⟨rfl, rfl⟩
  | @walked _ answers hcourse =>
      cases h' with
      | @walked _ answers' hcourse' =>
          obtain ⟨hacts, hanswers⟩ := IsSeries.determined
            (fun hpast hrun hstage hstage' => hstage.determined hblind hskip horigin hpast hrun
              hstage') horigin rfl hcourse hcourse' hobey hobey' hreported.of_map
            hreported'.of_map
          refine ⟨hacts, ?_⟩
          cases answers <;> cases answers' <;> simp_all [Except.map]

end Parts

end ScaffoldRunner
