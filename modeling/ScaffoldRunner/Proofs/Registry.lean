import ScaffoldRunner.Proofs.Dict
import ScaffoldRunner.Registry

/-!
# Sound registries

Frames and scaffolds are registered under their own ids, and a scaffold only
when its plans name registered frames.  So whatever a registered scaffold plans
for a stage can be looked up, in the order of the plan.
-/

namespace ScaffoldRunner

/-! ## Checks that pass -/

section Checks

variable {ε α β : Type}

theorem bind_eq_ok {check : Except ε α} {next : α → Except ε β} {b : β} :
    (check >>= next) = .ok b ↔ ∃ a, check = .ok a ∧ next a = .ok b := by
  cases check <;> simp [bind, Except.bind]

theorem forM_eq_ok {items : List α} {check : α → Except ε Unit}
    (h : items.forM check = .ok ()) : ∀ item ∈ items, check item = .ok () := by
  induction items with
  | nil => simp
  | cons item items ih =>
      obtain ⟨⟨⟩, hitem, hitems⟩ := bind_eq_ok.mp h
      intro other hother
      rcases List.mem_cons.mp hother with rfl | hrest
      · exact hitem
      · exact ih hitems other hrest

/-- What every step of a fold preserves holds of its answer. -/
theorem foldlM_preserves {P : β → Prop} {step : β → α → Except ε β}
    (hstep : ∀ b a b', P b → step b a = .ok b' → P b') {items : List α} {b b' : β}
    (hb : P b) (h : items.foldlM step b = .ok b') : P b' := by
  induction items generalizing b with
  | nil =>
      obtain rfl := Except.ok.inj h
      exact hb
  | cons item items ih =>
      rw [List.foldlM_cons, bind_eq_ok] at h
      obtain ⟨middle, hfirst, hrest⟩ := h
      exact ih (hstep b item middle hb hfirst) hrest

end Checks

theorem Dict.has_iff {α : Type} {d : Dict α} {key : String} :
    d.has key = true ↔ ∃ value, d.get? key = some value := by
  induction d with
  | nil => simp [has, get?]
  | cons entry d ih =>
      by_cases hkey : entry.1 = key
      · simp [has, get?, hkey]
      · rw [get?_cons, if_neg (Ne.symm hkey), ← ih]
        simp [has, hkey]

theorem Dict.has_insert {α : Type} {d : Dict α} {key other : String} {value : α}
    (h : d.has other = true) : (d.insert key value).has other = true := by
  rw [has_iff] at h ⊢
  rw [get?_insert]
  split
  · exact ⟨value, rfl⟩
  · exact h

/-! ## Sound registries -/

namespace Registry

/-- Everything is registered under its own id, and every planned frame is
registered. -/
structure Sound (registry : Registry) : Prop where
  frame_id : ∀ {id frame}, registry.frames.get? id = some frame → frame.id = id
  scaffold_id : ∀ {id scaffold}, registry.scaffolds.get? id = some scaffold → scaffold.id = id
  planned : ∀ {id scaffold}, registry.scaffolds.get? id = some scaffold →
    ∀ entry ∈ scaffold.stages, ∀ frame ∈ entry.2.frames, registry.frames.has frame = true

variable {registry : Registry}

theorem sound_empty : empty.Sound where
  frame_id h := by simp [empty] at h
  scaffold_id h := by simp [empty] at h
  planned h := by simp [empty] at h

theorem Sound.registerFrame (h : registry.Sound) (frame : Frame) :
    (registry.registerFrame frame).Sound where
  frame_id := by
    intro id other hother
    rw [Registry.registerFrame, Dict.get?_insert] at hother
    split at hother
    · next hid =>
        obtain rfl := Option.some.inj hother
        exact hid.symm
    · exact h.frame_id hother
  scaffold_id := h.scaffold_id
  planned hscaffold entry hentry other hother :=
    Dict.has_insert (h.planned hscaffold entry hentry other hother)

theorem has_of_checkPlan {scaffold : Scaffold} {stage : Stage} {plan : StagePlan}
    (h : registry.checkPlan scaffold stage plan = .ok ()) :
    ∀ id ∈ plan.frames, registry.frames.has id = true := by
  unfold checkPlan at h
  split at h
  · simp at h
  · next hnone => simpa using hnone

theorem Sound.registerScaffold (h : registry.Sound) {scaffold : Scaffold}
    {registry' : Registry} (hregister : registry.registerScaffold scaffold = .ok registry') :
    registry'.Sound := by
  obtain ⟨⟨⟩, hcheck, hregistry⟩ := bind_eq_ok.mp hregister
  obtain rfl := Except.ok.inj hregistry
  refine ⟨h.frame_id, ?_, ?_⟩
  · intro id other hother
    rw [Dict.get?_insert] at hother
    split at hother
    · next hid =>
        obtain rfl := Option.some.inj hother
        exact hid.symm
    · exact h.scaffold_id hother
  · intro id other hother entry hentry frame hframe
    rw [Dict.get?_insert] at hother
    split at hother
    · obtain rfl := Option.some.inj hother
      exact has_of_checkPlan (forM_eq_ok hcheck entry hentry) frame hframe
    · exact h.planned hother entry hentry frame hframe

/-- The registry of a configuration is sound. -/
theorem sound_ofConfig {config : Config} (h : ofConfig config = .ok registry) :
    registry.Sound := by
  obtain ⟨⟨⟩, _, hfold⟩ := bind_eq_ok.mp h
  refine foldlM_preserves (fun _ _ _ hb hstep => hb.registerScaffold hstep) ?_ hfold
  generalize config.withListedIds.frames.values = frames
  suffices hframes : ∀ start : Registry, start.Sound →
      (frames.foldl Registry.registerFrame start).Sound from hframes _ sound_empty
  induction frames with
  | nil => exact fun start hstart => hstart
  | cons frame frames ih => exact fun start hstart => ih _ (hstart.registerFrame frame)

/-- The frames that run at a stage are those of the plan, in its order. -/
theorem Sound.map_id_framesFor (h : registry.Sound) {scaffold : String} {stage : Stage}
    {plan : StagePlan} (hplan : registry.plan? scaffold stage = some plan) :
    (registry.framesFor scaffold stage).map Frame.id = plan.frames := by
  have hknown : ∀ id ∈ plan.frames, registry.frames.has id = true := by
    rw [plan?, Option.bind_eq_some_iff] at hplan
    obtain ⟨found, hscaffold, hstage⟩ := hplan
    rw [StagePlans.get?, Option.map_eq_some_iff] at hstage
    obtain ⟨entry, hentry, rfl⟩ := hstage
    exact h.planned hscaffold entry (List.mem_of_find?_eq_some hentry)
  rw [framesFor, hplan]
  change (plan.frames.filterMap registry.frames.get?).map Frame.id = plan.frames
  generalize plan.frames = ids at hknown
  induction ids with
  | nil => rfl
  | cons id ids ih =>
      obtain ⟨frame, hframe⟩ := Dict.has_iff.mp (hknown id List.mem_cons_self)
      rw [List.filterMap_cons_some hframe, List.map_cons, h.frame_id hframe,
        ih fun other hother => hknown other (List.mem_cons_of_mem id hother)]

/-! ## Valid ids -/

/-- Everything is registered under a valid id. -/
structure HasIds (registry : Registry) : Prop where
  frame : ∀ {id frame}, registry.frames.get? id = some frame → Config.isId id = true
  scaffold : ∀ {id scaffold}, registry.scaffolds.get? id = some scaffold → Config.isId id = true

theorem HasIds.registerFrame (h : registry.HasIds) {frame : Frame}
    (hid : Config.isId frame.id = true) : (registry.registerFrame frame).HasIds where
  frame := by
    intro id other hother
    rw [Registry.registerFrame, Dict.get?_insert] at hother
    split at hother
    · next heq => exact heq ▸ hid
    · exact h.frame hother
  scaffold := h.scaffold

theorem HasIds.registerScaffold (h : registry.HasIds) {scaffold : Scaffold}
    (hid : Config.isId scaffold.id = true) {registry' : Registry}
    (hregister : registry.registerScaffold scaffold = .ok registry') : registry'.HasIds := by
  obtain ⟨⟨⟩, _, hregistry⟩ := bind_eq_ok.mp hregister
  obtain rfl := Except.ok.inj hregistry
  refine ⟨h.frame, ?_⟩
  intro id other hother
  rw [Dict.get?_insert] at hother
  split at hother
  · next heq => exact heq ▸ hid
  · exact h.scaffold hother

end Registry

theorem Config.isId_of_checkId {id : String} (h : checkId id = .ok ()) : isId id = true := by
  rw [checkId] at h
  split at h
  · assumption
  · simp at h

/-- In a valid configuration all names are ids. -/
theorem Config.isId_of_validate {config : Config} (h : config.validate = .ok ()) :
    (∀ entry ∈ config.frames, isId entry.1 = true) ∧
      ∀ entry ∈ config.scaffolds, isId entry.1 = true := by
  unfold validate at h
  dsimp only at h
  split at h
  · obtain ⟨_, hthrow, _⟩ := bind_eq_ok.mp h
    simp [throw, throwThe, MonadExceptOf.throw] at hthrow
  split at h
  · obtain ⟨_, hthrow, _⟩ := bind_eq_ok.mp h
    simp [throw, throwThe, MonadExceptOf.throw] at hthrow
  obtain ⟨⟨⟩, hframes, hscaffolds⟩ := bind_eq_ok.mp h
  constructor
  · intro entry hentry
    exact isId_of_checkId (forM_eq_ok hframes entry.1 (List.mem_map_of_mem hentry))
  · intro entry hentry
    obtain ⟨⟨⟩, hid, _⟩ := bind_eq_ok.mp (forM_eq_ok hscaffolds entry hentry)
    exact isId_of_checkId hid

namespace Registry

variable {registry : Registry}

theorem hasIds_empty : empty.HasIds where
  frame h := by simp [empty] at h
  scaffold h := by simp [empty] at h

theorem HasIds.registerFrames (h : registry.HasIds) {frames : List Frame}
    (hids : ∀ frame ∈ frames, Config.isId frame.id = true) :
    (frames.foldl Registry.registerFrame registry).HasIds := by
  induction frames generalizing registry with
  | nil => exact h
  | cons frame frames ih =>
      rw [List.forall_mem_cons] at hids
      exact ih (h.registerFrame hids.1) hids.2

theorem HasIds.registerScaffolds (h : registry.HasIds) {scaffolds : List Scaffold}
    (hids : ∀ scaffold ∈ scaffolds, Config.isId scaffold.id = true) {registry' : Registry}
    (hregister : scaffolds.foldlM Registry.registerScaffold registry = .ok registry') :
    registry'.HasIds := by
  induction scaffolds generalizing registry with
  | nil =>
      obtain rfl := Except.ok.inj hregister
      exact h
  | cons scaffold scaffolds ih =>
      rw [List.foldlM_cons] at hregister
      obtain ⟨middle, hfirst, hrest⟩ := bind_eq_ok.mp hregister
      rw [List.forall_mem_cons] at hids
      exact ih (h.registerScaffold hids.1 hfirst) hids.2 hrest

/-- The registry of a configuration has valid ids only. -/
theorem hasIds_ofConfig {config : Config} (h : ofConfig config = .ok registry) :
    registry.HasIds := by
  obtain ⟨⟨⟩, hvalid, hfold⟩ := bind_eq_ok.mp h
  obtain ⟨hframes, hscaffolds⟩ := Config.isId_of_validate hvalid
  refine HasIds.registerScaffolds (hasIds_empty.registerFrames ?_) ?_ hfold
  · intro frame hframe
    obtain ⟨entry, hentry, rfl⟩ := List.mem_map.mp hframe
    obtain ⟨original, horiginal, rfl⟩ := List.mem_map.mp hentry
    exact hframes original horiginal
  · intro scaffold hscaffold
    obtain ⟨entry, hentry, rfl⟩ := List.mem_map.mp hscaffold
    obtain ⟨original, horiginal, rfl⟩ := List.mem_map.mp hentry
    exact hscaffolds original horiginal

/-- The frames that a scaffold runs have valid ids. -/
theorem HasIds.isId_of_mem_framesFor (h : registry.HasIds) (hsound : registry.Sound)
    {scaffold : String} {stage : Stage} {frame : Frame}
    (hframe : frame ∈ registry.framesFor scaffold stage) : Config.isId frame.id = true := by
  rw [framesFor] at hframe
  split at hframe
  · obtain ⟨id, _, hfound⟩ := List.mem_filterMap.mp hframe
    rw [hsound.frame_id hfound]
    exact h.frame hfound
  · simp at hframe

end Registry

end ScaffoldRunner
