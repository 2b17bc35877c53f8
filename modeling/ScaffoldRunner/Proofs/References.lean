import ScaffoldRunner.Config.Text
import ScaffoldRunner.Proofs.Registry

/-!
# Two checks of the same references

A configuration is validated as a whole, table by table; a registry checks each
scaffold against what has been registered before it.  The two loops find the
same first fault, because the frames are all registered before the scaffolds
and registering a scaffold adds no frame.  What validation accepts can therefore
be registered, and the registry lists the names of the tables.
-/

namespace ScaffoldRunner

section Loops

variable {ε α : Type}

theorem forM_cons_bind (item : α) (items : List α) (check : α → Except ε Unit) :
    (item :: items).forM check = check item >>= fun _ => items.forM check :=
  rfl

/-- A loop that ends at the first item without a property answers as a search
for that item does. -/
theorem forM_refuse (items : List α) (allowed : α → Bool) (fault : α → ε) :
    (items.forM fun item => if allowed item then Except.ok () else Except.error (fault item)) =
      match items.find? fun item => !allowed item with
      | some item => .error (fault item)
      | none => .ok () := by
  induction items with
  | nil => rfl
  | cons item items ih =>
      by_cases hitem : allowed item = true
      · have hrest : ((item :: items).find? fun other => !allowed other) =
            items.find? fun other => !allowed other :=
          List.find?_cons_of_neg (by simp [hitem])
        rw [hrest, ← ih, forM_cons_bind, if_pos hitem]
        rfl
      · have hfirst : ((item :: items).find? fun other => !allowed other) = some item :=
          List.find?_cons_of_pos (by simp [hitem])
        rw [hfirst, forM_cons_bind, if_neg hitem]
        rfl

end Loops

theorem Dict.mem_keys_iff_has {α : Type} {d : Dict α} {key : String} :
    key ∈ d.keys ↔ d.has key = true := by
  simp [keys, has]

/-! ## Configurations without a fault of their own -/

namespace Config

/-- The limits are not zero, and everything is listed under an id. -/
structure IsWellFormed (config : Config) : Prop where
  attempts : config.framework.maxAttempts ≠ 0
  frameTime : config.framework.frameTimeoutSecs ≠ 0
  commandTime : config.framework.commandTimeoutSecs ≠ 0
  frameIds : ∀ id ∈ config.frames.keys, isId id = true
  scaffoldIds : ∀ id ∈ config.scaffolds.keys, isId id = true

variable {config : Config}

theorem checkId_of_isId {id : String} (h : isId id = true) : checkId id = .ok () := by
  rw [checkId, if_pos h]

/-- Only the references are left to check. -/
theorem IsWellFormed.validate_eq (h : config.IsWellFormed) :
    config.validate = config.scaffolds.forM fun entry =>
      entry.2.stages.forM fun plan => config.checkPlan entry.1 plan.1 plan.2 := by
  have htimes : ¬(config.framework.frameTimeoutSecs = 0 ∨
      config.framework.commandTimeoutSecs = 0) :=
    not_or.mpr ⟨h.frameTime, h.commandTime⟩
  have hframes : config.frames.keys.forM checkId = .ok () := by
    have hids := h.frameIds
    generalize config.frames.keys = ids at hids
    induction ids with
    | nil => rfl
    | cons id ids ih =>
        rw [List.forall_mem_cons] at hids
        rw [forM_cons_bind, checkId_of_isId hids.1]
        exact ih hids.2
  have hscaffolds : ∀ entries : Dict Scaffold, (∀ id ∈ entries.keys, isId id = true) →
      (entries.forM fun entry => do
        checkId entry.1
        entry.2.stages.forM fun plan => config.checkPlan entry.1 plan.1 plan.2) =
      entries.forM fun entry =>
        entry.2.stages.forM fun plan => config.checkPlan entry.1 plan.1 plan.2 := by
    intro entries hids
    induction entries with
    | nil => rfl
    | cons entry entries ih =>
        have hid : isId entry.1 = true := hids entry.1 List.mem_cons_self
        have hrest := ih fun id hmem => hids id (List.mem_cons_of_mem entry.1 hmem)
        rw [forM_cons_bind, forM_cons_bind, checkId_of_isId hid, hrest]
        rfl
  unfold validate
  rw [if_neg h.attempts, if_neg htimes, hframes]
  exact hscaffolds config.scaffolds h.scaffoldIds

theorem IsWellFormed.of_validate (h : config.validate = .ok ()) : config.IsWellFormed := by
  obtain ⟨hframes, hscaffolds⟩ := isId_of_validate h
  have hlimits : config.framework.maxAttempts ≠ 0 ∧
      ¬(config.framework.frameTimeoutSecs = 0 ∨ config.framework.commandTimeoutSecs = 0) := by
    unfold validate at h
    constructor
    · intro hzero
      rw [if_pos hzero] at h
      cases h
    · intro hzero
      by_cases hattempts : config.framework.maxAttempts = 0
      · rw [if_pos hattempts] at h
        cases h
      · rw [if_neg hattempts, if_pos hzero] at h
        cases h
  refine ⟨hlimits.1, fun hzero => hlimits.2 (.inl hzero), fun hzero => hlimits.2 (.inr hzero),
    ?_, ?_⟩
  · intro id hid
    obtain ⟨entry, hentry, rfl⟩ := List.mem_map.mp hid
    exact hframes entry hentry
  · intro id hid
    obtain ⟨entry, hentry, rfl⟩ := List.mem_map.mp hid
    exact hscaffolds entry hentry

theorem map_id_frames (config : Config) :
    config.withListedIds.frames.values.map Frame.id = config.frames.keys := by
  simp [withListedIds, Dict.values, Dict.keys]

theorem map_id_scaffolds (config : Config) :
    config.withListedIds.scaffolds.values.map Scaffold.id = config.scaffolds.keys := by
  simp [withListedIds, Dict.values, Dict.keys]

end Config

/-! ## Registering everything -/

namespace Registry

/-- Register frames and then scaffolds, in the given order; the first scaffold
that is refused ends it. -/
def registerAll (registry : Registry) (frames : List Frame) (scaffolds : List Scaffold) :
    Except ConfigError Registry :=
  scaffolds.foldlM registerScaffold (frames.foldl registerFrame registry)

/-- Register the tables of a configuration, everything under the id that it is
listed under. -/
def registerTables (registry : Registry) (config : Config) : Except ConfigError Registry :=
  registry.registerAll config.withListedIds.frames.values config.withListedIds.scaffolds.values

variable {registry registry' : Registry} {config : Config}

theorem ofConfig_eq (config : Config) :
    ofConfig config = config.validate >>= fun _ => empty.registerTables config :=
  rfl

/-- The registry knows the frames of a configuration. -/
def KnowsFramesOf (registry : Registry) (config : Config) : Prop :=
  ∀ id, registry.frames.has id = config.frames.has id

/-- Where the same frames are known, the two checks of a plan agree. -/
theorem KnowsFramesOf.checkPlan_eq (h : registry.KnowsFramesOf config) (scaffold : Scaffold)
    (stage : Stage) (plan : StagePlan) :
    registry.checkPlan scaffold stage plan = config.checkPlan scaffold.id stage plan := by
  have hknown : registry.frames.has = config.frames.has := funext h
  rw [checkPlan, Config.checkPlan, forM_refuse, forM_refuse, hknown]
  cases plan.frames.find? fun id => !config.frames.has id with
  | some missing => rfl
  | none =>
      cases plan.critical.find? fun id => !plan.frames.contains id with
      | some stray => rfl
      | none => rfl

theorem KnowsFramesOf.registerScaffold_eq (h : registry.KnowsFramesOf config)
    (scaffold : Scaffold) :
    registry.registerScaffold scaffold =
      (scaffold.stages.forM fun plan => config.checkPlan scaffold.id plan.1 plan.2).map fun _ =>
        { registry with scaffolds := registry.scaffolds.insert scaffold.id scaffold } := by
  have hcheck : (fun plan : Stage × StagePlan => registry.checkPlan scaffold plan.1 plan.2) =
      fun plan => config.checkPlan scaffold.id plan.1 plan.2 :=
    funext fun plan => h.checkPlan_eq scaffold plan.1 plan.2
  rw [registerScaffold, hcheck]
  cases scaffold.stages.forM fun plan => config.checkPlan scaffold.id plan.1 plan.2 with
  | error fault => rfl
  | ok => rfl

/-- Scaffolds are registered one after the other with the verdict of checking
them one after the other: no scaffold changes which frames are known. -/
theorem KnowsFramesOf.registerScaffolds_eq (h : registry.KnowsFramesOf config)
    (scaffolds : List Scaffold) :
    (scaffolds.foldlM registerScaffold registry).map (fun _ => ()) =
      scaffolds.forM fun scaffold =>
        scaffold.stages.forM fun plan => config.checkPlan scaffold.id plan.1 plan.2 := by
  induction scaffolds generalizing registry with
  | nil => rfl
  | cons scaffold scaffolds ih =>
      rw [List.foldlM_cons, h.registerScaffold_eq scaffold, forM_cons_bind]
      cases scaffold.stages.forM fun plan => config.checkPlan scaffold.id plan.1 plan.2 with
      | error fault => rfl
      | ok =>
          have hnext : ({ registry with
              scaffolds := registry.scaffolds.insert scaffold.id scaffold } :
                Registry).KnowsFramesOf config := h
          exact ih hnext

theorem mem_keys_registerFrames (frames : List Frame) (id : String) :
    id ∈ (frames.foldl registerFrame registry).frames.keys ↔
      id ∈ registry.frames.keys ∨ id ∈ frames.map Frame.id := by
  induction frames generalizing registry with
  | nil => simp
  | cons frame frames ih =>
      have hfirst : id ∈ (registry.registerFrame frame).frames.keys ↔
          id = frame.id ∨ id ∈ registry.frames.keys :=
        Dict.mem_keys_insert
      rw [List.foldl_cons, ih, hfirst, List.map_cons, List.mem_cons]
      exact or_assoc.trans or_left_comm

/-- All frames of a configuration are known before its first scaffold. -/
theorem knowsFramesOf_registerFrames (config : Config) :
    (config.withListedIds.frames.values.foldl registerFrame empty).KnowsFramesOf config := by
  intro id
  have hmem : id ∈ (config.withListedIds.frames.values.foldl registerFrame empty).frames.keys ↔
      id ∈ config.frames.keys := by
    have hnone : id ∉ empty.frames.keys := List.not_mem_nil
    rw [mem_keys_registerFrames, config.map_id_frames]
    exact or_iff_right hnone
  rw [Dict.mem_keys_iff_has, Dict.mem_keys_iff_has] at hmem
  exact Bool.eq_iff_iff.mpr hmem

theorem registerTables_eq_validate (h : config.IsWellFormed) :
    (empty.registerTables config).map (fun _ => ()) = config.validate := by
  have hlisted : config.withListedIds.scaffolds.values =
      config.scaffolds.map fun entry => { entry.2 with id := entry.1 } := by
    simp [Config.withListedIds, Dict.values]
  rw [registerTables, registerAll, (knowsFramesOf_registerFrames config).registerScaffolds_eq,
    h.validate_eq, hlisted]
  simp only [List.forM_eq_forM, List.forM_map]

/-! ## What has been registered -/

theorem registerScaffold_eq_ok {scaffold : Scaffold}
    (h : registry.registerScaffold scaffold = .ok registry') :
    registry' = { registry with scaffolds := registry.scaffolds.insert scaffold.id scaffold } := by
  obtain ⟨⟨⟩, _, hregistry⟩ := bind_eq_ok.mp h
  exact (Except.ok.inj hregistry).symm

theorem frames_registerScaffolds {scaffolds : List Scaffold}
    (h : scaffolds.foldlM registerScaffold registry = .ok registry') :
    registry'.frames = registry.frames := by
  have hstep : ∀ (before : Registry) (scaffold : Scaffold) (after : Registry),
      before.frames = registry.frames → before.registerScaffold scaffold = .ok after →
        after.frames = registry.frames := by
    intro before scaffold after hbefore hregister
    rw [registerScaffold_eq_ok hregister]
    exact hbefore
  exact foldlM_preserves hstep rfl h

theorem mem_keys_registerScaffolds {scaffolds : List Scaffold}
    (h : scaffolds.foldlM registerScaffold registry = .ok registry') (id : String) :
    id ∈ registry'.scaffolds.keys ↔
      id ∈ registry.scaffolds.keys ∨ id ∈ scaffolds.map Scaffold.id := by
  induction scaffolds generalizing registry with
  | nil =>
      obtain rfl := Except.ok.inj h
      simp
  | cons scaffold scaffolds ih =>
      rw [List.foldlM_cons] at h
      obtain ⟨middle, hfirst, hrest⟩ := bind_eq_ok.mp h
      obtain rfl := registerScaffold_eq_ok hfirst
      rw [ih hrest, Dict.mem_keys_insert, List.map_cons, List.mem_cons]
      exact or_assoc.trans or_left_comm

theorem sorted_registerFrames (h : registry.frames.Sorted) (frames : List Frame) :
    (frames.foldl registerFrame registry).frames.Sorted := by
  induction frames generalizing registry with
  | nil => exact h
  | cons frame frames ih => exact ih (Dict.sorted_insert h frame.id frame)

theorem sorted_registerScaffolds {scaffolds : List Scaffold}
    (hsorted : registry.scaffolds.Sorted)
    (h : scaffolds.foldlM registerScaffold registry = .ok registry') :
    registry'.scaffolds.Sorted := by
  have hstep : ∀ (before : Registry) (scaffold : Scaffold) (after : Registry),
      before.scaffolds.Sorted → before.registerScaffold scaffold = .ok after →
        after.scaffolds.Sorted := by
    intro before scaffold after hbefore hregister
    rw [registerScaffold_eq_ok hregister]
    exact Dict.sorted_insert hbefore scaffold.id scaffold
  exact foldlM_preserves hstep hsorted h

theorem scaffolds_registerFrames (frames : List Frame) :
    (frames.foldl registerFrame registry).scaffolds = registry.scaffolds := by
  induction frames generalizing registry with
  | nil => rfl
  | cons frame frames ih => exact ih

/-- The frames and scaffolds are registered under the names of the tables, each
name once and each under its own id. -/
structure Lists (registry : Registry) (config : Config) : Prop where
  mem_frames : ∀ id, id ∈ registry.frames.keys ↔ id ∈ config.frames.keys
  mem_scaffolds : ∀ id, id ∈ registry.scaffolds.keys ↔ id ∈ config.scaffolds.keys
  sorted_frames : registry.frames.Sorted
  sorted_scaffolds : registry.scaffolds.Sorted
  sound : registry.Sound

theorem lists_ofConfig (h : ofConfig config = .ok registry) : registry.Lists config := by
  obtain ⟨⟨⟩, _, hscaffolds⟩ := bind_eq_ok.mp h
  have hframes := frames_registerScaffolds hscaffolds
  have hnone : (config.withListedIds.frames.values.foldl registerFrame empty).scaffolds = [] :=
    scaffolds_registerFrames _
  constructor
  case mem_frames =>
    intro id
    rw [hframes, mem_keys_registerFrames, config.map_id_frames]
    exact or_iff_right List.not_mem_nil
  case mem_scaffolds =>
    intro id
    rw [mem_keys_registerScaffolds hscaffolds, hnone, config.map_id_scaffolds]
    exact or_iff_right List.not_mem_nil
  case sorted_frames =>
    have hempty : empty.frames.Sorted := List.Pairwise.nil
    rw [hframes]
    exact sorted_registerFrames hempty _
  case sorted_scaffolds =>
    exact sorted_registerScaffolds (hnone ▸ List.Pairwise.nil) hscaffolds
  case sound => exact sound_ofConfig h

end Registry

/-! ## The two checks agree -/

theorem Config.validate_of_parse {text : String} {config : Config}
    (h : parse text = .ok config) : config.validate = .ok () := by
  rw [parse] at h
  split at h
  · rw [ofDocument] at h
    split at h
    · cases h
    · obtain ⟨⟨⟩, hvalid, hconfig⟩ := bind_eq_ok.mp h
      obtain rfl := Except.ok.inj hconfig
      exact hvalid
  · cases h

namespace Registry

theorem ofConfig_eq_validate (config : Config) :
    (ofConfig config).map (fun _ => ()) = config.validate := by
  rw [ofConfig_eq]
  cases hvalid : config.validate with
  | error fault => rfl
  | ok => exact (registerTables_eq_validate (.of_validate hvalid)).trans hvalid

/-- Building a registry from a configuration and validating the configuration
have the same verdict and the same error; so has registering its tables into an
empty registry, unless the configuration has a fault of its own.  A
configuration that was read from a text can be registered, under exactly the
names of its tables. -/
theorem ofConfig_agrees (config : Config) :
    (ofConfig config).map (fun _ => ()) = config.validate ∧
    (config.IsWellFormed →
      (empty.registerTables config).map (fun _ => ()) = config.validate) ∧
    ∀ text, Config.parse text = .ok config →
      ∃ registry, ofConfig config = .ok registry ∧ registry.Lists config := by
  refine ⟨ofConfig_eq_validate config, registerTables_eq_validate, ?_⟩
  intro text hparse
  have hverdict := ofConfig_eq_validate config
  rw [Config.validate_of_parse hparse] at hverdict
  cases hregistry : ofConfig config with
  | error fault =>
      rw [hregistry] at hverdict
      cases hverdict
  | ok registry => exact ⟨registry, rfl, lists_ofConfig hregistry⟩

/-- A text with one frame, and a scaffold that runs it and marks it as critical. -/
def probeText : String :=
  "[frames.probe]\nname = \"Probe\"\ntype = \"analysis\"\nfile_path = \"probe.py\"\n" ++
    "[scaffolds.check]\nname = \"Check\"\n" ++
    "[scaffolds.check.stages.scope]\nframes = [\"probe\"]\ncritical = [\"probe\"]\n"

theorem ofConfig_agrees_probeText :
    ∃ config, Config.parse probeText = .ok config ∧ config.IsWellFormed ∧
      (empty.registerTables config).map (fun _ => ()) = config.validate ∧
      ∃ registry, ofConfig config = .ok registry ∧ registry.Lists config := by
  have hread : (Config.parse probeText).toOption.isSome = true := by decide +kernel
  cases hparse : Config.parse probeText with
  | error fault =>
      rw [hparse] at hread
      cases hread
  | ok config =>
      have hwell : config.IsWellFormed := .of_validate (Config.validate_of_parse hparse)
      obtain ⟨_, htables, hlists⟩ := ofConfig_agrees config
      exact ⟨config, rfl, hwell, htables hwell, hlists probeText hparse⟩

end Registry

end ScaffoldRunner
