import ScaffoldRunner.Proofs.Action
import ScaffoldRunner.Proofs.References

/-!
# Registrations one after another

A registry is filled in place, by requests of which some are refused.  What it
then holds is determined by the requests that were not refused: of each id the
last one.  No request takes a frame away, so what a scaffold plans stays
registered, whatever is registered again later.
-/

namespace ScaffoldRunner

/-- A request to register a frame or a scaffold. -/
inductive Registration where
  | frame (frame : Frame)
  | scaffold (scaffold : Scaffold)

/-- Look at a plan of a scaffold, in place. -/
def Registry.inspect (scaffold : Scaffold) (plan : Stage × StagePlan) :
    EStateM ConfigError Registry Unit :=
  fun registry => ended (registry.checkPlan scaffold plan.1 plan.2) registry

namespace Registration

/-- The frame that a request brings. -/
def frame? : Registration → Option Frame
  | .frame added => some added
  | .scaffold _ => none

/-- The scaffold that a request brings. -/
def scaffold? : Registration → Option Scaffold
  | .frame _ => none
  | .scaffold added => some added

/-- Carry out a request in place: all plans of a scaffold are looked at before
the registry is changed. -/
def enter : Registration → EStateM ConfigError Registry Unit
  | .frame added => modify fun registry => registry.registerFrame added
  | .scaffold added => do
      added.stages.forM (Registry.inspect added)
      modify fun registry =>
        { registry with scaffolds := registry.scaffolds.insert added.id added }

end Registration

namespace Registry

/-- The registry after some requests, refused ones included. -/
def enterAll (registry : Registry) : List Registration → Registry
  | [] => registry
  | entry :: entries => enterAll (stateOf (entry.enter registry)) entries

/-- The requests that are not refused when they are made one after another. -/
def accepted (registry : Registry) : List Registration → List Registration
  | [] => []
  | entry :: entries =>
      match entry.enter registry with
      | .ok _ next => entry :: accepted next entries
      | .error _ next => accepted next entries

/-- The registry that some requests make out of the empty one. -/
def after (entries : List Registration) : Registry := empty.enterAll entries

/-- The frames that some requests register, each under its id. -/
def framesOf (entries : List Registration) : List (String × Frame) :=
  (entries.filterMap Registration.frame?).map fun frame => (frame.id, frame)

/-- The scaffolds that some requests register, each under its id. -/
def scaffoldsOf (entries : List Registration) : List (String × Scaffold) :=
  (entries.filterMap Registration.scaffold?).map fun scaffold => (scaffold.id, scaffold)

end Registry

/-- What a scaffold plans for a stage; nothing when it has no plan for it. -/
def Scaffold.framesAt (scaffold : Scaffold) (stage : Stage) : List String :=
  (scaffold.stages.get? stage).elim [] StagePlan.frames

/-! ## What a request does -/

/-- Checks that leave the state alone leave it alone one after the other. -/
theorem forM_ended {ε σ α : Type} (act : α → EStateM ε σ Unit) (check : α → Except ε Unit)
    {s : σ} (hact : ∀ item, act item s = ended (check item) s) (items : List α) :
    items.forM act s = ended (items.forM check) s := by
  induction items with
  | nil => rfl
  | cons item items ih =>
      have hcons : (item :: items).forM act s =
          EStateM.bind (act item) (fun _ => items.forM act) s := rfl
      rw [hcons, EStateM.bind, forM_cons_bind, hact]
      cases check item with
      | error fault => rfl
      | ok => exact ih

namespace Registry

variable {registry next : Registry}

/-- In place, a scaffold is registered with the same verdict, and a refusal
leaves everything as it was. -/
theorem enter_scaffold (registry : Registry) (scaffold : Scaffold) :
    (Registration.scaffold scaffold).enter registry =
      match registry.registerScaffold scaffold with
      | .ok next => .ok () next
      | .error fault => .error fault registry := by
  have hinspect : scaffold.stages.forM (inspect scaffold) registry =
      ended (scaffold.stages.forM fun plan => registry.checkPlan scaffold plan.1 plan.2)
        registry :=
    forM_ended (inspect scaffold) _ (fun _ => rfl) scaffold.stages
  change EStateM.bind (scaffold.stages.forM (inspect scaffold)) _ registry = _
  rw [EStateM.bind, hinspect, registerScaffold]
  cases scaffold.stages.forM fun plan => registry.checkPlan scaffold plan.1 plan.2 <;> rfl

theorem enter_eq_error {entry : Registration} {fault : ConfigError}
    (h : entry.enter registry = .error fault next) : next = registry := by
  cases entry with
  | frame frame => cases h
  | scaffold scaffold =>
      rw [enter_scaffold] at h
      split at h
      · cases h
      · cases h
        rfl

/-- What is accepted is either a frame or a scaffold without a faulty plan. -/
theorem enter_eq_ok {entry : Registration} (h : entry.enter registry = .ok () next) :
    (∃ frame, entry = .frame frame ∧ next = registry.registerFrame frame) ∨
      ∃ scaffold, entry = .scaffold scaffold ∧
        registry.registerScaffold scaffold = .ok next := by
  cases entry with
  | frame frame =>
      cases h
      exact .inl ⟨frame, rfl, rfl⟩
  | scaffold scaffold =>
      rw [enter_scaffold] at h
      split at h
      · next hnext =>
          cases h
          exact .inr ⟨scaffold, rfl, hnext⟩
      · cases h

/-- What every accepted request preserves, holds after any requests. -/
theorem enterAll_preserves {P : Registry → Prop}
    (hframe : ∀ registry frame, P registry → P (registry.registerFrame frame))
    (hscaffold : ∀ registry scaffold next, P registry →
      registry.registerScaffold scaffold = .ok next → P next)
    (hregistry : P registry) (entries : List Registration) : P (registry.enterAll entries) := by
  induction entries generalizing registry with
  | nil => exact hregistry
  | cons entry entries ih =>
      refine ih ?_
      cases hresult : entry.enter registry with
      | error fault next => exact enter_eq_error hresult ▸ hregistry
      | ok answer next =>
          rcases enter_eq_ok hresult with ⟨frame, -, rfl⟩ | ⟨scaffold, -, hnext⟩
          · exact hframe registry frame hregistry
          · exact hscaffold registry scaffold next hregistry hnext

/-! ## What is registered -/

/-- The frames and scaffolds are those of the accepted requests, a later one in
the place of an earlier one with the same id. -/
theorem enterAll_eq (registry : Registry) (entries : List Registration) :
    registry.enterAll entries =
      { frames := registry.frames.overlay (framesOf (registry.accepted entries))
        scaffolds := registry.scaffolds.overlay (scaffoldsOf (registry.accepted entries)) } := by
  induction entries generalizing registry with
  | nil => rfl
  | cons entry entries ih =>
      rw [enterAll, accepted]
      cases hresult : entry.enter registry with
      | error fault next =>
          obtain rfl := enter_eq_error hresult
          exact ih next
      | ok answer next =>
          rcases enter_eq_ok hresult with ⟨frame, rfl, rfl⟩ | ⟨scaffold, rfl, hnext⟩
          · exact ih _
          · obtain rfl := registerScaffold_eq_ok hnext
            exact ih _

variable {entries : List Registration}

theorem get?_frames_after (id : String) :
    (after entries).frames.get? id = Dict.last? (framesOf (empty.accepted entries)) id := by
  rw [after, enterAll_eq]
  exact Dict.get?_ofList _ id

theorem get?_scaffolds_after (id : String) :
    (after entries).scaffolds.get? id =
      Dict.last? (scaffoldsOf (empty.accepted entries)) id := by
  rw [after, enterAll_eq]
  exact Dict.get?_ofList _ id

theorem sorted_frames_after (entries : List Registration) : (after entries).frames.Sorted := by
  rw [after, enterAll_eq]
  exact Dict.sorted_ofList _

theorem sorted_scaffolds_after (entries : List Registration) :
    (after entries).scaffolds.Sorted := by
  rw [after, enterAll_eq]
  exact Dict.sorted_ofList _

/-- A frame is never refused. -/
theorem framesOf_accepted (registry : Registry) (entries : List Registration) :
    framesOf (registry.accepted entries) = framesOf entries := by
  induction entries generalizing registry with
  | nil => rfl
  | cons entry entries ih =>
      rw [accepted]
      cases entry with
      | frame frame => exact congrArg ((frame.id, frame) :: ·) (ih _)
      | scaffold scaffold =>
          cases (Registration.scaffold scaffold).enter registry with
          | error fault next => exact ih next
          | ok answer next => exact ih next

/-! ## Closed registries -/

/-- Plans name registered frames only, and mark none as critical that they do not
name. -/
structure IsClosed (registry : Registry) : Prop extends registry.Sound where
  critical : ∀ {id scaffold}, registry.scaffolds.get? id = some scaffold →
    ∀ entry ∈ scaffold.stages, entry.2.critical ⊆ entry.2.frames

theorem critical_of_checkPlan {scaffold : Scaffold} {stage : Stage} {plan : StagePlan}
    (h : registry.checkPlan scaffold stage plan = .ok ()) : plan.critical ⊆ plan.frames := by
  intro id hid
  unfold checkPlan at h
  split at h
  · cases h
  · split at h
    · cases h
    · next hnone =>
        simpa using List.find?_eq_none.mp hnone id hid

theorem isClosed_empty : empty.IsClosed where
  toSound := sound_empty
  critical h := by simp [empty] at h

theorem IsClosed.registerFrame (h : registry.IsClosed) (frame : Frame) :
    (registry.registerFrame frame).IsClosed where
  toSound := h.toSound.registerFrame frame
  critical := h.critical

theorem IsClosed.registerScaffold (h : registry.IsClosed) {scaffold : Scaffold}
    (hregister : registry.registerScaffold scaffold = .ok next) : next.IsClosed where
  toSound := h.toSound.registerScaffold hregister
  critical := by
    intro id other hother entry hentry
    obtain ⟨⟨⟩, hcheck, hnext⟩ := bind_eq_ok.mp hregister
    obtain rfl := Except.ok.inj hnext
    rw [Dict.get?_insert] at hother
    split at hother
    · obtain rfl := Option.some.inj hother
      exact critical_of_checkPlan (forM_eq_ok hcheck entry hentry)
    · exact h.critical hother entry hentry

theorem isClosed_after (entries : List Registration) : (after entries).IsClosed :=
  enterAll_preserves (fun _ frame h => h.registerFrame frame)
    (fun _ _ _ h hregister => h.registerScaffold hregister) isClosed_empty entries

theorem plan?_eq {id : String} {scaffold : Scaffold} (stage : Stage)
    (h : registry.scaffolds.get? id = some scaffold) :
    registry.plan? id stage = scaffold.stages.get? stage := by
  rw [plan?, h, Option.bind_some]

/-- Looking up the frames of a plan loses none of them. -/
theorem Sound.map_some_framesFor (h : registry.Sound) {id : String} {scaffold : Scaffold}
    (hscaffold : registry.scaffolds.get? id = some scaffold) (stage : Stage) :
    (registry.framesFor id stage).map some =
      (scaffold.framesAt stage).map registry.frames.get? := by
  rw [framesFor, Scaffold.framesAt, plan?_eq stage hscaffold]
  cases hplan : scaffold.stages.get? stage with
  | none => rfl
  | some plan =>
      rw [StagePlans.get?, Option.map_eq_some_iff] at hplan
      obtain ⟨entry, hentry, rfl⟩ := hplan
      have hknown := h.planned hscaffold entry (List.mem_of_find?_eq_some hentry)
      change (entry.2.frames.filterMap registry.frames.get?).map some =
        entry.2.frames.map registry.frames.get?
      generalize entry.2.frames = ids at hknown
      induction ids with
      | nil => rfl
      | cons id ids ih =>
          rw [List.forall_mem_cons] at hknown
          obtain ⟨frame, hframe⟩ := Dict.has_iff.mp hknown.1
          rw [List.filterMap_cons_some hframe, List.map_cons, List.map_cons, hframe,
            ih hknown.2]

theorem Sound.map_id_framesFor_of_registered (h : registry.Sound) {id : String}
    {scaffold : Scaffold} (hscaffold : registry.scaffolds.get? id = some scaffold)
    (stage : Stage) :
    (registry.framesFor id stage).map Frame.id = scaffold.framesAt stage := by
  cases hplan : scaffold.stages.get? stage with
  | none => rw [framesFor, plan?_eq stage hscaffold, Scaffold.framesAt, hplan]; rfl
  | some plan =>
      rw [h.map_id_framesFor ((plan?_eq stage hscaffold).trans hplan), Scaffold.framesAt, hplan]
      rfl

/-- A critical frame is one that runs. -/
theorem IsClosed.exists_of_isCritical (h : registry.IsClosed) {scaffold id : String}
    {stage : Stage} (hcritical : registry.isCritical scaffold stage id = true) :
    ∃ frame ∈ registry.framesFor scaffold stage, frame.id = id := by
  rw [isCritical, Option.any_eq_true] at hcritical
  obtain ⟨plan, hplan, hid⟩ := hcritical
  have hids := h.map_id_framesFor hplan
  rw [plan?, Option.bind_eq_some_iff] at hplan
  obtain ⟨found, hfound, hstage⟩ := hplan
  rw [StagePlans.get?, Option.map_eq_some_iff] at hstage
  obtain ⟨entry, hentry, rfl⟩ := hstage
  have hmem : id ∈ entry.2.frames :=
    h.critical hfound entry (List.mem_of_find?_eq_some hentry) (List.contains_iff_mem.mp hid)
  rw [← hids] at hmem
  exact List.mem_map.mp hmem

/-! ## What a registry answers -/

/-- The frame with an id that was registered last. -/
def lastFrame? (entries : List Registration) (id : String) : Option Frame :=
  Dict.last? (framesOf entries) id

/-- The scaffold with an id that was registered last, refused ones aside. -/
def lastScaffold? (entries : List Registration) (id : String) : Option Scaffold :=
  Dict.last? (scaffoldsOf (empty.accepted entries)) id

/-- A registry answers for the requests that made it: plans are kept whole and
lists show each registered id once, in order. -/
structure AnswersFor (registry : Registry) (entries : List Registration) : Prop where
  planned : ∀ id scaffold, registry.scaffolds.get? id = some scaffold →
    ∀ plan ∈ scaffold.stages,
      (∀ frame ∈ plan.2.frames, registry.frames.has frame = true) ∧
        plan.2.critical ⊆ plan.2.frames
  ids : ∀ id scaffold, registry.scaffolds.get? id = some scaffold →
    ∀ stage, (registry.framesFor id stage).map Frame.id = scaffold.framesAt stage
  definitions : ∀ id scaffold, registry.scaffolds.get? id = some scaffold →
    ∀ stage, (registry.framesFor id stage).map some =
      (scaffold.framesAt stage).map (lastFrame? entries)
  critical : ∀ scaffold stage id, registry.isCritical scaffold stage id = true →
    ∃ frame ∈ registry.framesFor scaffold stage, frame.id = id
  refused : ∀ entry fault next,
    Registration.enter entry registry = .error fault next → next = registry
  frameList : ∃ frames : List Frame,
    registry.frameList = .arr (frames.map Frame.summary) ∧
    (frames.map Frame.id).Pairwise (· < ·) ∧
    ∀ frame, frame ∈ frames ↔ lastFrame? entries frame.id = some frame
  scaffoldList : ∃ scaffolds : List Scaffold,
    registry.scaffoldList = .arr (scaffolds.map Scaffold.summary) ∧
    (scaffolds.map Scaffold.id).Pairwise (· < ·) ∧
    ∀ scaffold, scaffold ∈ scaffolds ↔ lastScaffold? entries scaffold.id = some scaffold

theorem get?_frames_eq_lastFrame? (entries : List Registration) (id : String) :
    (after entries).frames.get? id = lastFrame? entries id := by
  rw [get?_frames_after, framesOf_accepted, lastFrame?]

/-- Whatever is requested, in whatever order: a registry answers for it. -/
theorem after_answersFor (entries : List Registration) : (after entries).AnswersFor entries := by
  have hclosed := isClosed_after entries
  constructor
  case planned =>
    intro id scaffold hscaffold plan hplan
    exact ⟨hclosed.planned hscaffold plan hplan, hclosed.critical hscaffold plan hplan⟩
  case ids =>
    intro id scaffold hscaffold stage
    exact hclosed.map_id_framesFor_of_registered hscaffold stage
  case definitions =>
    intro id scaffold hscaffold stage
    rw [hclosed.map_some_framesFor hscaffold]
    exact congrArg (List.map · _) (funext (get?_frames_eq_lastFrame? entries))
  case critical => exact fun scaffold stage id => hclosed.exists_of_isCritical
  case refused => exact fun entry fault next => enter_eq_error
  case frameList =>
    refine ⟨(after entries).frames.values, rfl, ?_, ?_⟩
    · exact (sorted_frames_after entries).pairwise_values fun _ _ => hclosed.frame_id
    · intro frame
      rw [← get?_frames_eq_lastFrame?]
      exact (sorted_frames_after entries).mem_values_iff fun _ _ => hclosed.frame_id
  case scaffoldList =>
    refine ⟨(after entries).scaffolds.values, rfl, ?_, ?_⟩
    · exact (sorted_scaffolds_after entries).pairwise_values fun _ _ => hclosed.scaffold_id
    · intro scaffold
      rw [lastScaffold?, ← get?_scaffolds_after]
      exact (sorted_scaffolds_after entries).mem_values_iff fun _ _ => hclosed.scaffold_id

end Registry

end ScaffoldRunner
