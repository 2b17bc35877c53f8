import Mathlib.Data.List.Basic
import ScaffoldRunner.Proofs.Context
import ScaffoldRunner.Proofs.Run.Effects
import ScaffoldRunner.Proofs.Run.Schedule

/-!
# What a run leaves to the next one

A run saves its own data and what its successful frames have reported, merged
over the context that it has loaded.  Lists come out as the old list with the
reported items behind it, findings as the old ones with the reported ones over
them, where the frames of the final log count, in order.
-/

namespace ScaffoldRunner

/-! ## Reports of frames -/

/-- What a successful frame has reported under a name. -/
def FrameEntry.reported? (key : String) (e : FrameEntry) : Option Json :=
  if e.success then e.result.bind (Dict.get? · key) else none

namespace Run

variable {β : Type}

/-- The parts of what the successful frames of a log have reported under a name,
in the order of the log and of the frames of each stage. -/
def reported (read : Json → Option (List β)) (key : String) (log : List StageRecord) : List β :=
  log.flatMap fun r => r.result.results.flatMap fun e => ((e.reported? key).bind read).getD []

/-- All frames of a log have faithful entries. -/
def IsFaithful (log : List StageRecord) : Prop :=
  ∀ r ∈ log, ∀ e ∈ r.result.results, e.IsFaithful

theorem reported_eq_flatMap_outputs {log : List StageRecord} (h : IsFaithful log)
    (read : Json → Option (List β)) (key : String) :
    reported read key log =
      (outputs log).flatMap fun output => ((output.get? key).bind read).getD [] := by
  rw [outputs, List.flatMap_assoc, reported]
  refine List.flatMap_congr fun r hr => ?_
  have hentries := h r hr
  generalize r.result.results = entries at hentries
  induction entries with
  | nil => rfl
  | cons e entries ih =>
      rw [List.forall_mem_cons] at hentries
      have hfaithful : e.success = e.result.isSome := hentries.1
      rw [List.flatMap_cons, List.filterMap_cons, ih hentries.2, FrameEntry.reported?, hfaithful]
      cases e.result <;> simp

theorem gatherItems_eq {log : List StageRecord} (h : IsFaithful log) (key : String) :
    gatherItems key (outputs log) = reported Json.items? key log :=
  (reported_eq_flatMap_outputs h Json.items? key).symm

/-- Objects that are overlaid one after another are overlaid as one list. -/
theorem gatherMembers_eq {log : List StageRecord} (h : IsFaithful log) (key : String) :
    gatherMembers key (outputs log) = Dict.ofList (reported Json.members? key log) := by
  rw [reported_eq_flatMap_outputs h Json.members? key, gatherMembers, Dict.ofList]
  -- The induction needs any dictionary to start from, not only the empty one.
  suffices hfold : ∀ base : Members,
      ((outputs log).filterMap fun output => (output.get? key).bind Json.members?).foldl
        Dict.overlay base =
      Dict.overlay base ((outputs log).flatMap fun output =>
        ((output.get? key).bind Json.members?).getD []) from hfold []
  induction outputs log with
  | nil => exact fun base => rfl
  | cons output rest ih =>
      intro base
      rw [List.flatMap_cons, Dict.overlay_append, ← ih, List.filterMap_cons]
      cases (output.get? key).bind Json.members? <;> rfl

/-- The list of reported items, which is stated only when there are any. -/
def reportedList? (key : String) (log : List StageRecord) : Option Json :=
  if reported Json.items? key log = [] then none else some (.arr (reported Json.items? key log))

/-- The overlaid reported findings, which are stated only when there are any. -/
def reportedFindings? (log : List StageRecord) : Option Json :=
  if reported Json.members? "findings" log = [] then none
  else some (.obj (Dict.ofList (reported Json.members? "findings" log)))

theorem learnings_eq {log : List StageRecord} (h : IsFaithful log) :
    learnings log = Dict.ofList
      (Json.optionalMember "recommendations" (reportedList? "recommendations" log) ++
        Json.optionalMember "action_items" (reportedList? "action_items" log) ++
        Json.optionalMember "findings" (reportedFindings? log)) := by
  simp only [learnings, gatherItems_eq h, gatherMembers_eq h]
  refine congrArg Dict.ofList (congrArg₂ _ (congrArg₂ _ ?_ ?_) ?_)
  · rw [reportedList?]
    cases reported Json.items? "recommendations" log <;> rfl
  · rw [reportedList?]
    cases reported Json.items? "action_items" log <;> rfl
  · have hnil : Dict.ofList (reported Json.members? "findings" log) = [] ↔ _ :=
      Dict.ofList_eq_nil_iff
    rw [reportedFindings?]
    by_cases hmembers : reported Json.members? "findings" log = []
    · rw [if_pos hmembers, hnil.mpr hmembers]
      rfl
    · obtain ⟨entry, members, hcons⟩ :=
        List.exists_cons_of_ne_nil fun heq => hmembers (hnil.mp heq)
      rw [if_neg hmembers, hcons]
      rfl

/-- What the learnings of a log state under each name. -/
theorem get?_learnings {log : List StageRecord} (h : IsFaithful log) (key : String) :
    (learnings log).get? key =
      if Context.grows key then reportedList? key log
      else if key = "findings" then reportedFindings? log
      else none := by
  rw [learnings_eq h, Dict.get?_ofList, Dict.last?_append, Dict.last?_append,
    Dict.last?_optionalMember, Dict.last?_optionalMember, Dict.last?_optionalMember]
  by_cases hrecommendations : "recommendations" = key
  · subst hrecommendations
    simp [Context.grows]
  · by_cases hactions : "action_items" = key
    · subst hactions
      simp [Context.grows]
    · have hgrows : Context.grows key = false := by
        simp [Context.grows, Ne.symm hrecommendations, Ne.symm hactions]
      simp [hgrows, hrecommendations, hactions, eq_comm]

/-! ## The saved context -/

/-- What a run states about itself in the context that it saves at a time. -/
def ownMembers (now : Instant) (run : Run) : List (String × Json) :=
  [("scaffold_id", .str run.scaffoldId), ("run_id", .str run.id), ("input_data", run.input),
    ("previous_results", .obj run.previousResults),
    ("start_time", .str run.startTime.isoOffset), ("end_time", .str now.isoOffset)]

/-- What a run leaves in the context that it saves at a time, over the context
that it has loaded. -/
structure Leaves (now : Instant) (run : Run) (loaded : Option Json) (saved : Members) :
    Prop where
  own : ∀ member ∈ run.ownMembers now, saved.get? member.1 = some member.2
  /-- A list is the old one with the reported items behind it, and the old value,
  whatever it is, when there are none. -/
  lists : ∀ key, Context.grows key = true →
    saved.get? key =
      if reported Json.items? key run.log = [] then (Context.held loaded).get? key
      else some (.arr ((((Context.held loaded).get? key).bind Json.items?).getD [] ++
        reported Json.items? key run.log))
  /-- The findings are the old ones where nothing else was reported. -/
  findings : reported Json.members? "findings" run.log ≠ [] →
    ∃ findings : Members, saved.get? "findings" = some (.obj findings) ∧
      ∀ name, findings.get? name =
        (Dict.last? (reported Json.members? "findings" run.log) name).or
          (Dict.get? ((((Context.held loaded).get? "findings").bind Json.members?).getD []) name)
  findings_kept : reported Json.members? "findings" run.log = [] →
    saved.get? "findings" = (Context.held loaded).get? "findings"
  others : ∀ key, ¬Context.IsReserved key → Context.grows key = false → key ≠ "findings" →
    (∀ member ∈ run.ownMembers now, member.1 ≠ key) →
    saved.get? key = (Context.held loaded).get? key
  count : loaded.isSome = true → Context.mergeCount (Context.held loaded) + 1 < twoTo 64 →
    saved.get? Context.mergeCountKey =
      some (.nat (Context.mergeCount (Context.held loaded) + 1))

/-- No member of its own is one that a run gathers from its frames. -/
theorem kind_of_mem_ownMembers {now : Instant} {run : Run} {member : String × Json}
    (h : member ∈ run.ownMembers now) :
    ¬Context.IsReserved member.1 ∧ Context.grows member.1 = false ∧ member.1 ≠ "findings" ∧
      Dict.last? (run.ownMembers now) member.1 = some member.2 := by
  have hnames : ∀ key ∈ ["scaffold_id", "run_id", "input_data", "previous_results",
      "start_time", "end_time"],
      ¬Context.IsReserved key ∧ Context.grows key = false ∧ key ≠ "findings" := by
    decide
  have hname : member.1 ∈ (run.ownMembers now).map Prod.fst := List.mem_map_of_mem h
  obtain ⟨hfree, hgrows, hfindings⟩ := hnames _ hname
  refine ⟨hfree, hgrows, hfindings, ?_⟩
  simp only [ownMembers, List.mem_cons, List.not_mem_nil, or_false] at h
  rcases h with rfl | rfl | rfl | rfl | rfl | rfl <;> simp [ownMembers, Dict.last?]

theorem last?_ownMembers_of_kind {now : Instant} {run : Run} {key : String}
    (h : Context.grows key = true ∨ key = "findings") :
    Dict.last? (run.ownMembers now) key = none := by
  refine Dict.last?_eq_none_iff.mpr fun member hmember heq => ?_
  obtain ⟨-, hgrows, hfindings, -⟩ := kind_of_mem_ownMembers hmember
  rw [heq] at hgrows hfindings
  rcases h with h | h
  · rw [h] at hgrows
    simp at hgrows
  · exact hfindings h

/-- The context that is saved leaves what it should. -/
theorem leaves_mergedOver {run : Run} (h : IsFaithful run.log) (now : Instant)
    (loaded : Option Json) :
    ∃ saved : Members, ContextStore.mergedOver now loaded (run.contextToSave now) = .obj saved ∧
      run.Leaves now loaded saved := by
  have hnew : (Dict.overlay (Dict.ofList (run.ownMembers now)) (learnings run.log)).Sorted :=
    Dict.sorted_overlay (Dict.sorted_ofList _) _
  have hlearnings : (learnings run.log).Sorted := Dict.sorted_ofList _
  -- What the frames report lies over what the run states about itself.
  have hget (key : String) :
      (Dict.overlay (Dict.ofList (run.ownMembers now)) (learnings run.log)).get? key =
        ((learnings run.log).get? key).or (Dict.last? (run.ownMembers now) key) := by
    rw [Dict.get?_overlay, Dict.get?_ofList, Dict.Sorted.last?_eq hlearnings]
  obtain ⟨saved, hsaved, hmembers, hcount⟩ := ContextStore.mergedOver_obj hnew now loaded
  refine ⟨saved, hsaved, ?own, ?lists, ?findings, ?findings_kept, ?others,
    fun hloaded _ => hcount hloaded⟩
  case own =>
    intro member hmember
    obtain ⟨hfree, hgrows, hfindings, hlast⟩ := kind_of_mem_ownMembers hmember
    rw [hmembers _ hfree, hget, get?_learnings h, hgrows, if_neg (by simp), if_neg hfindings,
      Option.none_or, hlast]
    exact Context.combined?_of_ne hgrows hfindings _ _
  case lists =>
    intro key hgrows
    rw [hmembers _ (Context.not_isReserved_of_grows hgrows), hget, get?_learnings h, if_pos hgrows,
      last?_ownMembers_of_kind (.inl hgrows), Option.or_none, reportedList?]
    by_cases hitems : reported Json.items? key run.log = []
    · rw [if_pos hitems, if_pos hitems, Context.combined?_none]
    · rw [if_neg hitems, if_neg hitems]
      exact Context.combined?_list hgrows _ _
  case findings =>
    intro hfindings
    have hstated : reportedFindings? run.log =
        some (.obj (Dict.ofList (reported Json.members? "findings" run.log))) :=
      if_neg hfindings
    refine ⟨Dict.overlay ((((Context.held loaded).get? "findings").bind Json.members?).getD [])
      (Dict.ofList (reported Json.members? "findings" run.log)), ?_, fun name => ?_⟩
    · rw [hmembers _ (by decide), hget, get?_learnings h, if_neg (by decide), if_pos rfl,
        last?_ownMembers_of_kind (.inr rfl), Option.or_none, hstated]
      exact Context.combined?_findings (Dict.sorted_ofList _) _
    · rw [Dict.get?_overlay, Dict.Sorted.last?_eq (Dict.sorted_ofList _), Dict.get?_ofList]
  case findings_kept =>
    intro hfindings
    have hstated : reportedFindings? run.log = none := if_pos hfindings
    rw [hmembers _ (by decide), hget, get?_learnings h, if_neg (by decide), if_pos rfl,
      last?_ownMembers_of_kind (.inr rfl), hstated, Option.or_none, Context.combined?_none]
  case others =>
    intro key hfree hgrows hfindings hother
    have hlast : Dict.last? (run.ownMembers now) key = none :=
      Dict.last?_eq_none_iff.mpr hother
    rw [hmembers _ hfree, hget, get?_learnings h, hgrows, if_neg (by simp), if_neg hfindings,
      hlast, Option.or_none, Context.combined?_none]

@[simp] theorem enter_id (now : Instant) (e : Entry) (run : Run) :
    (run.enter now e).id = run.id := by
  unfold enter
  split <;> rfl

@[simp] theorem enter_startTime (now : Instant) (e : Entry) (run : Run) :
    (run.enter now e).startTime = run.startTime := by
  unfold enter
  split <;> rfl

/-- Entries do not touch what identifies a run. -/
theorem Reached.identity {origin run : Run} {past : List Entry} (h : origin.Reached past run) :
    run.id = origin.id ∧ run.startTime = origin.startTime := by
  induction h with
  | start => exact ⟨rfl, rfl⟩
  | enter now e _ ih => simpa using ih

end Run

variable {σ : Type}

/-- The log that a walk leaves lists the frames of the plan. -/
theorem IsWalk.lists {p : Pipeline} {origin run : Run} {stopped : Bool} {walk : List RunAct}
    {answer : Except RunError Unit} (h : IsWalk p origin stopped walk answer)
    (hfresh : origin.IsFresh) (hrun : origin.Reached (RunAct.entries walk) run) :
    ∀ r ∈ run.log, r.result.Lists p origin.scaffoldId := by
  intro r hr
  have hmem := hrun.entry_mem hfresh h.turns.1 hr
  obtain ⟨act, hact, hentered⟩ := List.mem_filterMap.mp hmem
  cases h.isStep act hact with
  | enter entry hlists =>
      obtain rfl := Option.some.inj hentered
      exact hlists
  | attempt | command | count | report => simp [RunAct.entered?] at hentered

namespace Pipeline

variable {p : Pipeline}

/-- A run that has gone through its stages saves its context over the one that it has
started from, unless that fails. -/
theorem execute_saves {scaffoldId : String} {scaffold : Scaffold}
    (hfound : p.registry.scaffolds.get? scaffoldId = some scaffold)
    (hpreserves : scaffold.contextPreservation = true) {host : Host σ} {input document : Json}
    (hinput : runInput input = .ok document) {stopped : Bool} {session : Session σ}
    {final : Progress σ}
    (hfinal : p.runUnlessStopped host stopped (p.begin scaffold document session) =
      .ok () final) :
    (∃ e, answerOf (p.execute host scaffoldId input stopped session) = .error (.context e)) ∨
      (stateOf (p.execute host scaffoldId input stopped session)).world.files.readBytes
          (p.contexts.taskPath scaffold.id) =
        .ok (ContextStore.envelope scaffold.id final.session.now
          (ContextStore.mergedOver final.session.now
            (p.preservedContext scaffold session.world.files)
            (final.run.contextToSave final.session.now))).pretty.toUTF8 := by
  obtain ⟨walk, answer, -, -, hdoes⟩ :=
    p.runUnlessStopped_does host stopped (p.begin scaffold document session)
  obtain ⟨-, rfl⟩ := ended_eq_ok.mp (hdoes.symm.trans hfinal)
  obtain ⟨hname, hpreserved⟩ := p.frame_after host scaffold document session walk
  rw [execute_eq hfound hinput, hfinal]
  generalize p.after host walk (p.begin scaffold document session) = final at *
  cases hsaved : p.saveFinal final with
  | error reason saved =>
      obtain ⟨t, acts, -, hconclude, -⟩ :=
        conclude_of_unsaved host (p.begin scaffold document session).session.now hpreserves hsaved
      exact .inl ⟨reason, by rw [hconclude, answerOf]⟩
  | ok merged saved =>
      right
      obtain ⟨t, acts, rfl, hstate, hkeeps, -⟩ :=
        conclude_of_saved host (p.begin scaffold document session).session.now hpreserves hsaved
      rw [saveFinal, hname, hpreserved] at hsaved
      obtain ⟨rfl, hbytes⟩ := ContextStore.readBytes_of_saveMergedOver hsaved
      rw [hstate]
      exact readBytes_after hkeeps hbytes

/-- A completed run has walked through all stages and has saved its context then. -/
theorem execute_ok_saves {scaffoldId : String} {scaffold : Scaffold}
    (hfound : p.registry.scaffolds.get? scaffoldId = some scaffold)
    (hpreserves : scaffold.contextPreservation = true) {host : Host σ} {input : Json}
    {stopped : Bool} {session session' : Session σ} {outcome : RunOutcome}
    (hok : p.execute host scaffoldId input stopped session = .ok outcome session') :
    ∃ document walk ending final,
      runInput input = .ok document ∧
      p.IsRun host scaffold document stopped session walk ending (.ok ())
        (p.execute host scaffoldId input stopped session) ∧
      final = p.after host walk (p.begin scaffold document session) ∧
      p.runUnlessStopped host stopped (p.begin scaffold document session) = .ok () final ∧
      session'.world.files.readBytes (p.contexts.taskPath scaffold.id) =
        .ok (ContextStore.envelope scaffold.id final.session.now
          (ContextStore.mergedOver final.session.now
            (p.preservedContext scaffold session.world.files)
            (final.run.contextToSave final.session.now))).pretty.toUTF8 := by
  cases hinput : runInput input with
  | error e => simp [execute, hfound, hinput] at hok
  | ok document =>
      obtain ⟨walk, ending, answer, hrun⟩ := exists_isRun hfound hinput host stopped session
      obtain ⟨final, -, hfinal, -⟩ := conclude_eq_ok (hrun.concluded.symm.trans hok)
      obtain ⟨rfl, rfl⟩ := ended_eq_ok.mp hfinal
      have hsaves := execute_saves hfound hpreserves hinput hrun.stages
      rw [hok] at hsaves
      exact ⟨document, walk, ending, _, rfl, hrun, rfl, hrun.stages,
        hsaves.resolve_left (by simp [answerOf])⟩

/-- A completed run of a scaffold that preserves its context leaves a file with
the context that it has loaded, and over it what the run was and what the frames
of its log have reported.  That log is the one that its stages have left and its report
tells: it holds the result of every stage once, in the order of the stages, with the
frames in the order of the plan; of a stage that was run again it holds the latest
result. -/
theorem execute_ok_leaves {scaffoldId : String} {scaffold : Scaffold}
    (hfound : p.registry.scaffolds.get? scaffoldId = some scaffold)
    (hpreserves : scaffold.contextPreservation = true) {host : Host σ} {input : Json}
    {stopped : Bool} {session session' : Session σ} {outcome : RunOutcome}
    (hok : p.execute host scaffoldId input stopped session = .ok outcome session') :
    ∃ document walk ending final saved,
      runInput input = .ok document ∧
      p.IsRun host scaffold document stopped session walk ending (.ok ())
        (p.execute host scaffoldId input stopped session) ∧
      final = p.after host walk (p.begin scaffold document session) ∧
      p.runUnlessStopped host stopped (p.begin scaffold document session) = .ok () final ∧
      outcome.report.run = final.run ∧
      final.run.InOrder 10 ∧
      (∀ r ∈ final.run.log, Entry.latest? (RunAct.entries walk) r.stage = some r.entry ∧
        r.result.results.map FrameEntry.frameId =
          (p.registry.framesFor scaffold.id r.stage).map Frame.id) ∧
      (final.run.scaffoldId = scaffold.id ∧ final.run.id = session.world.freshId.1 ∧
        final.run.input = document ∧ final.run.startTime = session.now) ∧
      final.run.Leaves final.session.now
        (p.preservedContext scaffold session.world.files) saved ∧
      session'.world.files.readBytes (p.contexts.taskPath scaffold.id) =
        .ok (ContextStore.envelope scaffold.id final.session.now (.obj saved)).pretty.toUTF8 := by
  obtain ⟨document, walk, ending, final, hinput, hrun, rfl, hstages, hbytes⟩ :=
    execute_ok_saves hfound hpreserves hok
  have hwalk := hrun.walks
  have hreport := hrun.report_run (congrArg answerOf hok)
  have hfresh := p.begin_isFresh scaffold document session
  have hreached := p.reached_after host
    (.start : Run.Reached _ [] (p.begin scaffold document session).run) walk
  rw [List.nil_append] at hreached
  have hturns := hwalk.turns
  have horder := hreached.inOrder hfresh hturns.1
  rw [hturns.2 rfl] at horder
  obtain ⟨hdocument, hscaffold, -⟩ := hreached.frame
  obtain ⟨hid, hstart⟩ := hreached.identity
  have hlists := hwalk.lists hfresh hreached
  have hfaithful : Run.IsFaithful _ := fun r hr => (hlists r hr).faithful
  obtain ⟨saved, hsaved, hleaves⟩ := Run.leaves_mergedOver hfaithful
    (p.after host walk (p.begin scaffold document session)).session.now
    (p.preservedContext scaffold session.world.files)
  refine ⟨document, walk, ending, _, saved, hinput, hrun, rfl, hstages, hreport, horder,
    fun r hr => ⟨?_, ?_⟩, ⟨hscaffold, hid, hdocument, hstart⟩, hleaves, hsaved ▸ hbytes⟩
  · exact hreached.latest?_of_mem_log hfresh hturns.1 r hr
  · exact (hlists r hr).frames

/-- A run that is completed. -/
theorem exists_execute_recommending :
    ∃ p scaffold outcome session',
      Pipeline.ofConfig oneFrame "/" true = .ok p ∧
      p.registry.scaffolds.get? "check" = some scaffold ∧
      scaffold.contextPreservation = true ∧
      p.execute recommending "check" .null false emptySession = .ok outcome session' := by
  obtain ⟨p, scaffold, hconfig, hfound⟩ := exists_pipeline_oneFrame
  have hpreserves : scaffold.contextPreservation = true := by
    obtain rfl := Except.ok.inj hconfig
    obtain rfl := Option.some.inj hfound
    rfl
  have hrun : (answerOf (p.execute recommending "check" .null false emptySession)).isOk = true := by
    obtain rfl := Except.ok.inj hconfig
    decide +kernel
  obtain ⟨outcome, hexecute⟩ := eq_ok_of_isOk hrun
  exact ⟨p, scaffold, outcome, _, hconfig, hfound, hpreserves, hexecute⟩

theorem execute_oneFrame_leaves :
    ∃ p scaffold outcome session' document walk ending final saved,
      Pipeline.ofConfig oneFrame "/" true = .ok p ∧
      p.registry.scaffolds.get? "check" = some scaffold ∧
      p.execute recommending "check" .null false emptySession = .ok outcome session' ∧
      runInput .null = .ok document ∧
      p.IsRun recommending scaffold document false emptySession walk ending (.ok ())
        (p.execute recommending "check" .null false emptySession) ∧
      p.runUnlessStopped recommending false (p.begin scaffold document emptySession) =
        .ok () final ∧
      outcome.report.run = final.run ∧
      final.run.Leaves final.session.now
        (p.preservedContext scaffold emptySession.world.files) saved ∧
      session'.world.files.readBytes (p.contexts.taskPath scaffold.id) =
        .ok (ContextStore.envelope scaffold.id final.session.now (.obj saved)).pretty.toUTF8 := by
  obtain ⟨p, scaffold, outcome, session', hconfig, hfound, hpreserves, hexecute⟩ :=
    exists_execute_recommending
  obtain ⟨document, walk, ending, final, saved, hinput, hrun, -, hstages, hreport, -, -, -,
    hleaves, hbytes⟩ := execute_ok_leaves hfound hpreserves hexecute
  exact ⟨p, scaffold, outcome, session', document, walk, ending, final, saved, hconfig, hfound,
    hexecute, hinput, hrun, hstages, hreport, hleaves, hbytes⟩

/-! ## The next run

The next run of a scaffold starts from what can be read of the context that a run has
saved.  That is the context itself, as long as it can be nested once more; a context
that is nested deeper is saved, but the next run starts without it. -/

section Succession

variable {σ : Type} {p : Pipeline} {host : Host σ}

/-- A run starts from what is loaded of the envelope in the file of its scaffold. -/
theorem preservedContext_of_readBytes {scaffold : Scaffold} {files : FileTree} {now : Instant}
    {context : Json} (hpreserves : scaffold.contextPreservation = true)
    (h : files.readBytes (p.contexts.taskPath scaffold.id) =
      .ok (ContextStore.envelope scaffold.id now context).pretty.toUTF8) :
    p.preservedContext scaffold files = ContextStore.reload? now context := by
  rw [preservedContext, if_pos hpreserves, ContextStore.load_of_readBytes h,
    ContextStore.parseEnvelope?_envelope]
  cases ContextStore.reload? now context <;> rfl

/-- After a completed run of a scaffold that preserves its context, the next run
starts from what can be read of the merged context that the run has saved when its stages were
over, as long as the file is as the run has left it.  That is the merged context itself, if
its text gives it back and it can be nested once more, and nothing if it is nested deeper. -/
theorem execute_ok_preserved {scaffoldId : String} {scaffold : Scaffold}
    (hfound : p.registry.scaffolds.get? scaffoldId = some scaffold)
    (hpreserves : scaffold.contextPreservation = true) {input : Json}
    {stopped : Bool} {session session' : Session σ} {outcome : RunOutcome}
    (hok : p.execute host scaffoldId input stopped session = .ok outcome session') :
    ∃ document walk ending final merged,
      runInput input = .ok document ∧
      p.IsRun host scaffold document stopped session walk ending (.ok ())
        (p.execute host scaffoldId input stopped session) ∧
      final = p.after host walk (p.begin scaffold document session) ∧
      p.runUnlessStopped host stopped (p.begin scaffold document session) = .ok () final ∧
      merged = ContextStore.mergedOver final.session.now
        (p.preservedContext scaffold session.world.files)
        (final.run.contextToSave final.session.now) ∧
      session'.world.files.readBytes (p.contexts.taskPath scaffold.id) =
        .ok (ContextStore.envelope scaffold.id final.session.now merged).pretty.toUTF8 ∧
      (∀ (later : Session σ) (input : Json),
        later.world.files.readBytes (p.contexts.taskPath scaffold.id) =
          session'.world.files.readBytes (p.contexts.taskPath scaffold.id) →
        (p.begin scaffold input later).run.preserved =
          ContextStore.reload? final.session.now merged) ∧
      (merged.IsValue → (Instant.parse? final.session.now.iso).isSome = true →
        ContextStore.reload? final.session.now merged =
          if merged.depth < Json.maxDepth then some merged else none) := by
  obtain ⟨document, walk, ending, final, hinput, hrun, hfinal, hstages, hbytes⟩ :=
    execute_ok_saves hfound hpreserves hok
  refine ⟨document, walk, ending, final, _, hinput, hrun, hfinal, hstages, rfl, hbytes,
    fun later input hsame => ?_, ContextStore.reload?_of_isValue⟩
  exact preservedContext_of_readBytes hpreserves (hsame.trans hbytes)

theorem execute_oneFrame_preserved :
    ∃ p scaffold outcome session', ∃ final : Progress (List FrameCall), ∃ merged,
      Pipeline.ofConfig oneFrame "/" true = .ok p ∧
      p.registry.scaffolds.get? "check" = some scaffold ∧
      p.execute recommending "check" .null false emptySession = .ok outcome session' ∧
      p.runUnlessStopped recommending false (p.begin scaffold (.obj []) emptySession) =
        .ok () final ∧
      merged = ContextStore.mergedOver final.session.now
        (p.preservedContext scaffold emptySession.world.files)
        (final.run.contextToSave final.session.now) ∧
      session'.world.files.readBytes (p.contexts.taskPath scaffold.id) =
        .ok (ContextStore.envelope scaffold.id final.session.now merged).pretty.toUTF8 ∧
      (p.begin scaffold .null session').run.preserved =
        ContextStore.reload? final.session.now merged := by
  obtain ⟨p, scaffold, outcome, session', hconfig, hfound, hpreserves, hexecute⟩ :=
    exists_execute_recommending
  obtain ⟨document, walk, ending, final, merged, hinput, -, -, hstages, hmerged, hbytes, hnext,
    -⟩ := execute_ok_preserved hfound hpreserves hexecute
  obtain rfl : .obj [] = document := Except.ok.inj hinput
  exact ⟨p, scaffold, outcome, session', final, merged, hconfig, hfound, hexecute, hstages,
    hmerged, hbytes, hnext session' .null rfl⟩

/-- A run whose input is nested as deep as its context may be saves what the next run
does not start from. -/
theorem execute_ok_forgets {scaffoldId : String} {scaffold : Scaffold}
    (hfound : p.registry.scaffolds.get? scaffoldId = some scaffold)
    (hpreserves : scaffold.contextPreservation = true) {input document : Json}
    (hinput : runInput input = .ok document) (hdeep : Json.maxDepth ≤ document.depth + 1)
    {stopped : Bool} {session session' : Session σ} {outcome : RunOutcome}
    (hok : p.execute host scaffoldId input stopped session = .ok outcome session')
    {later : Session σ} (hlater : later.world.files.readBytes (p.contexts.taskPath scaffold.id) =
      session'.world.files.readBytes (p.contexts.taskPath scaffold.id)) (next : Json) :
    (p.begin scaffold next later).run.preserved = none := by
  obtain ⟨document', walk, ending, final, hinput', hrun, rfl, -, hbytes⟩ :=
    execute_ok_saves hfound hpreserves hok
  obtain rfl : document = document' := Except.ok.inj (hinput.symm.trans hinput')
  have hwalk := hrun.walks
  have hfresh := p.begin_isFresh scaffold document session
  have hreached := p.reached_after host
    (.start : Run.Reached _ [] (p.begin scaffold document session).run) walk
  have hfaithful : Run.IsFaithful _ := fun r hr => (hwalk.lists hfresh hreached r hr).faithful
  obtain ⟨saved, hsaved, hleaves⟩ := Run.leaves_mergedOver hfaithful
    (p.after host walk (p.begin scaffold document session)).session.now
    (p.preservedContext scaffold session.world.files)
  -- The context holds the input, so it is nested deeper.
  have hmember : Dict.get? saved "input_data" = some document :=
    (hleaves.own _ (.tail _ (.tail _ (.head _)))).trans (congrArg some hreached.frame.1)
  have hdepth := Json.depth_lt_of_get? hmember
  rw [hsaved] at hbytes
  change p.preservedContext scaffold later.world.files = none
  rw [preservedContext_of_readBytes hpreserves (hlater.trans hbytes), ContextStore.reload?,
    if_neg fun h => absurd h.1 (by omega)]

/-- A scaffold without frames. -/
def bare : Config where
  scaffolds := [("check", Scaffold.empty "check" "Check")]

/-- An input that is nested as deep as the context that is saved with it may be. -/
def nestedInput : Json := .obj [("a", .nested 125)]

/-- An input that can be read makes a context that cannot. -/
theorem execute_nested_forgets :
    ∃ p scaffold outcome session',
      Pipeline.ofConfig bare "/" true = .ok p ∧
      p.registry.scaffolds.get? "check" = some scaffold ∧
      scaffold.contextPreservation = true ∧
      Json.parse? nestedInput.pretty = some nestedInput ∧
      p.execute refusing "check" nestedInput false emptySession = .ok outcome session' ∧
      session'.world.files.pathExists (p.contexts.taskPath "check") = true ∧
      (p.begin scaffold .null session').run.preserved = none := by
  obtain ⟨p, scaffold, hconfig, hfound, hpreserves⟩ : ∃ p scaffold,
      Pipeline.ofConfig bare "/" true = .ok p ∧
        p.registry.scaffolds.get? "check" = some scaffold ∧
        scaffold.contextPreservation = true :=
    ⟨_, _, rfl, rfl, rfl⟩
  have hrun : (answerOf (p.execute refusing "check" nestedInput false emptySession)).isOk = true ∧
      (stateOf (p.execute refusing "check" nestedInput false emptySession)).world.files.pathExists
        (p.contexts.taskPath "check") = true := by
    obtain rfl := Except.ok.inj hconfig
    decide +kernel
  have hdepth : nestedInput.depth = 126 := by
    simp [nestedInput, Json.depth, Json.depthMembers, Json.depth_nested]
  have hdeep : Json.maxDepth ≤ nestedInput.depth + 1 := by
    rw [hdepth]
    decide
  have hvalue : nestedInput.IsValue :=
    ⟨List.pairwise_singleton _ _, Json.isValue_nested 125, trivial⟩
  have hparse : Json.parse? nestedInput.pretty = some nestedInput := by
    rw [Json.parse?_pretty, if_pos (by rw [hdepth]; decide), hvalue.reread?]
  obtain ⟨outcome, hexecute⟩ := eq_ok_of_isOk hrun.1
  exact ⟨p, scaffold, outcome, _, hconfig, hfound, hpreserves, hparse, hexecute, hrun.2,
    execute_ok_forgets hfound hpreserves (rfl : runInput nestedInput = .ok nestedInput) hdeep
      hexecute rfl _⟩

end Succession

end Pipeline

end ScaffoldRunner
