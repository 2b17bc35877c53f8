import Mathlib.Data.List.Perm.Basic
import ScaffoldRunner.Config.Text
import ScaffoldRunner.Proofs.Json.Record
import ScaffoldRunner.Proofs.Run.Entries
import ScaffoldRunner.Proofs.Toml

/-!
# Records of a configuration

Settings, frames and scaffolds are written into a document with all their fields,
absent values aside.  They are read from it as they were, whatever the order of the
members; a field that was left out when they were read first has its default, and
that is written.

The plans of a scaffold are written under the keys of their stages.  A document lists
these in the order of the keys and not in the order of the stages; that makes no
difference, because every plan is entered at the place of its stage.
-/

namespace ScaffoldRunner

/-! ## Parts of records -/

namespace Record

variable {j : Json} {field : Option Json}

theorem everywhere_hasText_present {fields : List (String × Option Json)} {names : List String}
    (hnames : fields.map Prod.fst = names) (hnodup : names.Nodup)
    (hfields : ∀ field ∈ fields, ∀ j ∈ field.2, j.Everywhere Toml.HasText) :
    (Json.obj (present fields)).Everywhere Toml.HasText :=
  everywhere_present (nodup_keys_present (hnames ▸ hnodup)) hfields

theorem everywhere_of_members? {members : Members}
    (hfield : ∀ part ∈ field, part.Everywhere Toml.IsRead)
    (h : withDefault [] Json.members? field = some members) :
    (Json.obj members).Everywhere Toml.IsRead := by
  refine of_withDefault (p := fun members => (Json.obj members).Everywhere Toml.IsRead)
    Toml.Table.isSound_nil (fun part hpart members hmembers => ?_) h
  cases part with
  | obj found =>
      obtain rfl := Option.some.inj hmembers
      exact hfield _ hpart
  | _ => cases hmembers

theorem fits_of_nat? {bound n : Nat} (hj : j.Everywhere Toml.IsRead)
    (h : nat? bound j = some n) : fitsSigned 64 (Int.ofNat n) = true := by
  obtain ⟨rfl, -⟩ := nat?_eq_some h
  exact hj

theorem everywhere_of_optional_any? {value : Option Json}
    (hfield : ∀ part ∈ field, part.Everywhere Toml.IsRead)
    (h : optional .configuration any? field = some value) :
    ∀ j ∈ value, j.Everywhere Toml.IsRead :=
  of_optional (fun part hpart _ hj => Option.some.inj hj ▸ hfield part hpart) h

theorem fits_of_optional_nat? {bound : Nat} {value : Option Nat}
    (hfield : ∀ part ∈ field, part.Everywhere Toml.IsRead)
    (h : optional .configuration (nat? bound) field = some value) :
    ∀ n ∈ value, fitsSigned 64 (Int.ofNat n) = true :=
  of_optional (fun part hpart _ => fits_of_nat? (hfield part hpart)) h

theorem fits_of_withDefault_nat? {default bound n : Nat}
    (hdefault : fitsSigned 64 (Int.ofNat default) = true)
    (hfield : ∀ part ∈ field, part.Everywhere Toml.IsRead)
    (h : withDefault default (nat? bound) field = some n) :
    fitsSigned 64 (Int.ofNat n) = true :=
  of_withDefault (p := fun n => fitsSigned 64 (Int.ofNat n) = true) hdefault
    (fun part hpart _ => fits_of_nat? (hfield part hpart)) h

theorem le_of_withDefault_nat? {default bound n : Nat} (hdefault : default ≤ bound)
    (h : withDefault default (nat? bound) field = some n) : n ≤ bound :=
  of_withDefault (p := (· ≤ bound)) hdefault (fun _ _ _ hn => (nat?_eq_some hn).2) h

/-- A number of 32 bits fits 64 bits. -/
theorem fits_of_le {n : Nat} (h : n ≤ twoTo 32 - 1) : fitsSigned 64 (Int.ofNat n) = true := by
  have hbound : twoTo 32 - 1 < twoTo 63 := by decide
  have hhigh : Int.ofNat n < Int.ofNat (twoTo 63) := Int.ofNat_lt.mpr (Nat.lt_of_le_of_lt h hbound)
  have hlow : -Int.ofNat (twoTo 63) ≤ Int.ofNat n := by
    rw [Int.ofNat_eq_natCast, Int.ofNat_eq_natCast]
    omega
  exact Bool.and_eq_true_iff.mpr ⟨decide_eq_true hlow, decide_eq_true hhigh⟩

/-- A number without a sign that fits 64 bits with one fits them without one. -/
theorem u64?_nat {n : Nat} (h : fitsSigned 64 (Int.ofNat n) = true) :
    u64? (.nat n) = some n := by
  refine nat?_nat ?_
  have hlt : Int.ofNat n < Int.ofNat (twoTo 63) :=
    of_decide_eq_true (Bool.and_eq_true_iff.mp h).2
  have hbound : twoTo 63 ≤ twoTo 64 - 1 := by decide
  exact Nat.le_trans (Nat.le_of_lt (Int.ofNat_lt.mp hlt)) hbound

theorem optional_u64?_nat {value : Option Nat}
    (h : ∀ n ∈ value, fitsSigned 64 (Int.ofNat n) = true) :
    optional .configuration u64? ((value.map Json.nat).map Json.sorted) = some value := by
  rw [Option.map_map]
  refine optional_map fun n hn => ?_
  rw [Function.comp_apply, Json.sorted_nat, u64?_nat (h n hn)]

theorem optional_string?_str (value : Option String) :
    optional .configuration string? ((value.map Json.str).map Json.sorted) = some value := by
  rw [Option.map_map]
  refine optional_map fun text _ => ?_
  rw [Function.comp_apply, Json.sorted_str]
  rfl

theorem optional_any?_sorted {value : Option Json}
    (h : ∀ j ∈ value, j.Everywhere Toml.IsRead) :
    optional .configuration any? (value.map Json.sorted) = some value :=
  optional_map fun j hj => congrArg some (Toml.sorted_eq_self (h j hj))

end Record

namespace FrameKind

theorem choice?_name (kind : FrameKind) :
    Record.choice? .configuration named (.str kind.name) = some kind := by
  cases kind <;> decide

end FrameKind

namespace Frame

variable {frame : Frame} {j : Json}

/-- What a frame that was read is like. -/
structure IsRead (frame : Frame) : Prop where
  parameters : (Json.obj frame.parameters).Everywhere Toml.IsRead
  successCriteria : (Json.obj frame.successCriteria).Everywhere Toml.IsRead
  timeoutSecs : ∀ n ∈ frame.timeoutSecs, fitsSigned 64 (Int.ofNat n) = true
  inputSchema : ∀ j ∈ frame.inputSchema, j.Everywhere Toml.IsRead

theorem isRead_of_ofJson? (hj : j.Everywhere Toml.IsRead)
    (h : ofJson? .configuration j = some frame) : frame.IsRead := by
  obtain ⟨found, hfound, h⟩ := Option.bind_eq_some_iff.mp h
  have hpart := Record.everywhere_of_fields? hj hfound
  split at h
  · obtain ⟨id, -, h⟩ := Option.bind_eq_some_iff.mp h
    obtain ⟨name, -, h⟩ := Option.bind_eq_some_iff.mp h
    obtain ⟨kind, -, h⟩ := Option.bind_eq_some_iff.mp h
    obtain ⟨description, -, h⟩ := Option.bind_eq_some_iff.mp h
    obtain ⟨filePath, -, h⟩ := Option.bind_eq_some_iff.mp h
    obtain ⟨entryPoint, -, h⟩ := Option.bind_eq_some_iff.mp h
    obtain ⟨dependencies, -, h⟩ := Option.bind_eq_some_iff.mp h
    obtain ⟨parameters, hparameters, h⟩ := Option.bind_eq_some_iff.mp h
    obtain ⟨successCriteria, hcriteria, h⟩ := Option.bind_eq_some_iff.mp h
    obtain ⟨rollbackPlan, -, h⟩ := Option.bind_eq_some_iff.mp h
    obtain ⟨version, -, h⟩ := Option.bind_eq_some_iff.mp h
    obtain ⟨contextPreservation, -, h⟩ := Option.bind_eq_some_iff.mp h
    obtain ⟨timeoutSecs, htimeout, h⟩ := Option.bind_eq_some_iff.mp h
    obtain ⟨inputSchema, hschema, h⟩ := Option.bind_eq_some_iff.mp h
    obtain rfl := Option.some.inj h
    constructor
    case parameters => exact Record.everywhere_of_members? (hpart _ (by simp)) hparameters
    case successCriteria => exact Record.everywhere_of_members? (hpart _ (by simp)) hcriteria
    case timeoutSecs => exact Record.fits_of_optional_nat? (hpart _ (by simp)) htimeout
    case inputSchema => exact Record.everywhere_of_optional_any? (hpart _ (by simp)) hschema
  · cases h

/-- The fields of a frame in a configuration. -/
def documentFields (frame : Frame) : List (String × Option Json) :=
  [("id", some (.str frame.id)), ("name", some (.str frame.name)),
    ("type", some (.str frame.kind.name)), ("description", some (.str frame.description)),
    ("file_path", some (.str frame.filePath)), ("entry_point", some (.str frame.entryPoint)),
    ("dependencies", some (.strings frame.dependencies)),
    ("parameters", some (.obj frame.parameters)),
    ("success_criteria", some (.obj frame.successCriteria)),
    ("rollback_plan", some (.str frame.rollbackPlan)), ("version", some (.str frame.version)),
    ("context_preservation", some (.bool frame.contextPreservation)),
    ("timeout_secs", frame.timeoutSecs.map .nat), ("input_schema", frame.inputSchema)]

theorem map_fst_documentFields (frame : Frame) :
    frame.documentFields.map Prod.fst = fieldNames :=
  rfl

theorem documentMembers_eq (frame : Frame) :
    frame.documentMembers = Record.present frame.documentFields := by
  simp [documentMembers, documentFields, Record.present, Json.optionalMember]

theorem IsRead.ofJson?_document (h : frame.IsRead) :
    ofJson? .configuration (Json.obj frame.documentMembers).sorted = some frame := by
  have hdependencies := Record.strings?_strings frame.dependencies
  have hparameters := Toml.sorted_eq_self h.parameters
  have hcriteria := Toml.sorted_eq_self h.successCriteria
  have htimeout := Record.optional_u64?_nat h.timeoutSecs
  have hschema := Record.optional_any?_sorted h.inputSchema
  rw [ofJson?, documentMembers_eq,
    Record.fields?_present frame.map_fst_documentFields (by decide)]
  refine Option.bind_eq_some_iff.mpr ⟨_, rfl, ?_⟩
  refine Option.bind_eq_some_iff.mpr ⟨frame.id, rfl, ?_⟩
  refine Option.bind_eq_some_iff.mpr ⟨frame.name, rfl, ?_⟩
  refine Option.bind_eq_some_iff.mpr ⟨frame.kind, FrameKind.choice?_name frame.kind, ?_⟩
  refine Option.bind_eq_some_iff.mpr ⟨frame.description, rfl, ?_⟩
  refine Option.bind_eq_some_iff.mpr ⟨frame.filePath, rfl, ?_⟩
  refine Option.bind_eq_some_iff.mpr ⟨frame.entryPoint, rfl, ?_⟩
  refine Option.bind_eq_some_iff.mpr ⟨frame.dependencies, hdependencies, ?_⟩
  refine Option.bind_eq_some_iff.mpr ⟨frame.parameters, congrArg Json.members? hparameters, ?_⟩
  refine Option.bind_eq_some_iff.mpr ⟨frame.successCriteria, congrArg Json.members? hcriteria, ?_⟩
  refine Option.bind_eq_some_iff.mpr ⟨frame.rollbackPlan, rfl, ?_⟩
  refine Option.bind_eq_some_iff.mpr ⟨frame.version, rfl, ?_⟩
  refine Option.bind_eq_some_iff.mpr ⟨frame.contextPreservation, rfl, ?_⟩
  refine Option.bind_eq_some_iff.mpr ⟨frame.timeoutSecs, htimeout, ?_⟩
  exact Option.bind_eq_some_iff.mpr ⟨frame.inputSchema, hschema, rfl⟩

/-- Nothing is missing in the parameters, the criteria and the schema. -/
def HasNoNull (frame : Frame) : Prop :=
  (Json.obj frame.parameters).HasNoNull ∧ (Json.obj frame.successCriteria).HasNoNull ∧
    ∀ j ∈ frame.inputSchema, j.HasNoNull
deriving Decidable

theorem IsRead.everywhere_document (h : frame.IsRead) (hnull : frame.HasNoNull) :
    (Json.obj frame.documentMembers).Everywhere Toml.HasText := by
  obtain ⟨hparameters, hcriteria, hschema⟩ := hnull
  have htimeout : ∀ j ∈ frame.timeoutSecs.map Json.nat, j.Everywhere Toml.HasText := by
    intro j hj
    obtain ⟨n, hn, rfl⟩ := Option.map_eq_some_iff.mp hj
    exact h.timeoutSecs n hn
  rw [documentMembers_eq]
  refine Record.everywhere_hasText_present frame.map_fst_documentFields (by decide) ?_
  simp only [documentFields, List.forall_mem_cons, Option.mem_some_iff, forall_eq']
  exact ⟨trivial, trivial, trivial, trivial, trivial, trivial,
    Toml.everywhere_strings frame.dependencies, Toml.everywhere_hasText h.parameters hparameters,
    Toml.everywhere_hasText h.successCriteria hcriteria, trivial, trivial, trivial, htimeout,
    fun j hj => Toml.everywhere_hasText (h.inputSchema j hj) (hschema j hj), nofun⟩

end Frame

/-! ## Settings -/

namespace FrameworkSettings

variable {s : FrameworkSettings} {j : Json}

/-- What settings that were read are like. -/
structure IsRead (s : FrameworkSettings) : Prop where
  maxAttempts : s.maxAttempts ≤ twoTo 32 - 1
  frameTimeoutSecs : fitsSigned 64 (Int.ofNat s.frameTimeoutSecs) = true
  commandTimeoutSecs : fitsSigned 64 (Int.ofNat s.commandTimeoutSecs) = true

theorem isRead_default : IsRead {} where
  maxAttempts := by decide
  frameTimeoutSecs := by decide
  commandTimeoutSecs := by decide

theorem isRead_of_ofJson? (hj : j.Everywhere Toml.IsRead)
    (h : ofJson? .configuration j = some s) : s.IsRead := by
  obtain ⟨found, hfound, h⟩ := Option.bind_eq_some_iff.mp h
  have hpart := Record.everywhere_of_fields? hj hfound
  split at h
  · obtain ⟨contextDir, -, h⟩ := Option.bind_eq_some_iff.mp h
    obtain ⟨reportsDir, -, h⟩ := Option.bind_eq_some_iff.mp h
    obtain ⟨workingDir, -, h⟩ := Option.bind_eq_some_iff.mp h
    obtain ⟨maxAttempts, hattempts, h⟩ := Option.bind_eq_some_iff.mp h
    obtain ⟨frameTimeoutSecs, hframe, h⟩ := Option.bind_eq_some_iff.mp h
    obtain ⟨commandTimeoutSecs, hcommand, h⟩ := Option.bind_eq_some_iff.mp h
    obtain ⟨skipPush, -, h⟩ := Option.bind_eq_some_iff.mp h
    obtain rfl := Option.some.inj h
    constructor
    case maxAttempts => exact Record.le_of_withDefault_nat? isRead_default.maxAttempts hattempts
    case frameTimeoutSecs =>
      exact Record.fits_of_withDefault_nat? isRead_default.frameTimeoutSecs (hpart _ (by simp))
        hframe
    case commandTimeoutSecs =>
      exact Record.fits_of_withDefault_nat? isRead_default.commandTimeoutSecs (hpart _ (by simp))
        hcommand
  · cases h

/-- The fields of the settings in a configuration. -/
def documentFields (s : FrameworkSettings) : List (String × Option Json) :=
  [("context_dir", some (.str s.contextDir)), ("reports_dir", some (.str s.reportsDir)),
    ("working_dir", s.workingDir.map .str), ("max_attempts", some (.nat s.maxAttempts)),
    ("frame_timeout_secs", some (.nat s.frameTimeoutSecs)),
    ("command_timeout_secs", some (.nat s.commandTimeoutSecs)),
    ("skip_push", some (.bool s.skipPush))]

theorem map_fst_documentFields (s : FrameworkSettings) :
    s.documentFields.map Prod.fst = fieldNames :=
  rfl

theorem documentMembers_eq (s : FrameworkSettings) :
    s.documentMembers = Record.present s.documentFields := by
  simp [documentMembers, documentFields, Record.present, Json.optionalMember]

theorem IsRead.ofJson?_document (h : s.IsRead) :
    ofJson? .configuration (Json.obj s.documentMembers).sorted = some s := by
  have hworking := Record.optional_string?_str s.workingDir
  have hattempts : Record.u32? (.nat s.maxAttempts) = some s.maxAttempts :=
    Record.nat?_nat h.maxAttempts
  have hframe := Record.u64?_nat h.frameTimeoutSecs
  have hcommand := Record.u64?_nat h.commandTimeoutSecs
  rw [ofJson?, documentMembers_eq, Record.fields?_present s.map_fst_documentFields (by decide)]
  refine Option.bind_eq_some_iff.mpr ⟨_, rfl, ?_⟩
  refine Option.bind_eq_some_iff.mpr ⟨s.contextDir, rfl, ?_⟩
  refine Option.bind_eq_some_iff.mpr ⟨s.reportsDir, rfl, ?_⟩
  refine Option.bind_eq_some_iff.mpr ⟨s.workingDir, hworking, ?_⟩
  refine Option.bind_eq_some_iff.mpr ⟨s.maxAttempts, hattempts, ?_⟩
  refine Option.bind_eq_some_iff.mpr ⟨s.frameTimeoutSecs, hframe, ?_⟩
  refine Option.bind_eq_some_iff.mpr ⟨s.commandTimeoutSecs, hcommand, ?_⟩
  exact Option.bind_eq_some_iff.mpr ⟨s.skipPush, rfl, rfl⟩

theorem IsRead.everywhere_document (h : s.IsRead) :
    (Json.obj s.documentMembers).Everywhere Toml.HasText := by
  have hworking : ∀ j ∈ s.workingDir.map Json.str, j.Everywhere Toml.HasText := by
    intro j hj
    obtain ⟨dir, -, rfl⟩ := Option.map_eq_some_iff.mp hj
    trivial
  have hattempts : fitsSigned 64 (Int.ofNat s.maxAttempts) = true := Record.fits_of_le h.maxAttempts
  rw [documentMembers_eq]
  refine Record.everywhere_hasText_present s.map_fst_documentFields (by decide) ?_
  simp only [documentFields, List.forall_mem_cons, Option.mem_some_iff, forall_eq']
  exact ⟨trivial, trivial, hworking, hattempts, h.frameTimeoutSecs, h.commandTimeoutSecs, trivial,
    nofun⟩

end FrameworkSettings

namespace Interpreters

/-- The fields of the interpreters in a configuration. -/
def documentFields (i : Interpreters) : List (String × Option Json) :=
  [("python", some (.str i.python)), ("node", some (.str i.node)),
    ("powershell", some (.str i.powershell))]

theorem map_fst_documentFields (i : Interpreters) :
    i.documentFields.map Prod.fst = ["python", "node", "powershell"] :=
  rfl

theorem toJson_eq (i : Interpreters) : i.toJson = .obj (Record.present i.documentFields) :=
  rfl

theorem ofJson?_toJson (i : Interpreters) : ofJson? .configuration i.toJson.sorted = some i := by
  rw [ofJson?, toJson_eq, Record.fields?_present i.map_fst_documentFields (by decide)]
  refine Option.bind_eq_some_iff.mpr ⟨_, rfl, ?_⟩
  refine Option.bind_eq_some_iff.mpr ⟨i.python, rfl, ?_⟩
  refine Option.bind_eq_some_iff.mpr ⟨i.node, rfl, ?_⟩
  exact Option.bind_eq_some_iff.mpr ⟨i.powershell, rfl, rfl⟩

theorem everywhere_toJson (i : Interpreters) : i.toJson.Everywhere Toml.HasText :=
  ⟨show ["python", "node", "powershell"].Nodup by decide, trivial, trivial, trivial, trivial⟩

end Interpreters

/-! ## Plans -/

namespace StagePlan

def documentFields (plan : StagePlan) : List (String × Option Json) :=
  [("frames", some (.strings plan.frames)), ("critical", some (.strings plan.critical))]

theorem map_fst_documentFields (plan : StagePlan) :
    plan.documentFields.map Prod.fst = ["frames", "critical"] :=
  rfl

theorem toJson_eq (plan : StagePlan) : plan.toJson = .obj (Record.present plan.documentFields) :=
  rfl

theorem ofJson?_toJson (plan : StagePlan) :
    ofJson? .configuration plan.toJson.sorted = some plan := by
  have hframes := Record.strings?_strings plan.frames
  have hcritical := Record.strings?_strings plan.critical
  rw [ofJson?, toJson_eq, Record.fields?_present plan.map_fst_documentFields (by decide)]
  refine Option.bind_eq_some_iff.mpr ⟨_, rfl, ?_⟩
  refine Option.bind_eq_some_iff.mpr ⟨plan.frames, hframes, ?_⟩
  exact Option.bind_eq_some_iff.mpr ⟨plan.critical, hcritical, rfl⟩

theorem everywhere_toJson (plan : StagePlan) : plan.toJson.Everywhere Toml.HasText := by
  rw [toJson_eq]
  refine Record.everywhere_hasText_present plan.map_fst_documentFields (by decide) ?_
  simp only [documentFields, List.forall_mem_cons, Option.mem_some_iff, forall_eq']
  exact ⟨Toml.everywhere_strings plan.frames, Toml.everywhere_strings plan.critical, nofun⟩

end StagePlan

namespace StagePlans

variable {plans : StagePlans} {stage : Stage} {plan : StagePlan} {j : Json}

/-- Plans are in the order of their stages, one for each. -/
def IsAscending (plans : StagePlans) : Prop := plans.Pairwise fun a b => a.1.number < b.1.number

theorem IsAscending.nodup (h : plans.IsAscending) : (plans.map Prod.fst).Nodup := by
  refine List.pairwise_map.mpr (h.imp fun hlt heq => ?_)
  rw [heq] at hlt
  exact Nat.lt_irrefl _ hlt

theorem eq_or_mem_of_mem_insert {entry : Stage × StagePlan} (h : entry ∈ plans.insert stage plan) :
    entry = (stage, plan) ∨ entry ∈ plans := by
  induction plans with
  | nil => exact .inl (List.mem_singleton.mp h)
  | cons first plans ih =>
      rw [insert] at h
      split at h
      · exact List.mem_cons.mp h
      · split at h
        · exact (List.mem_cons.mp h).imp_right (List.mem_cons_of_mem first)
        · rcases List.mem_cons.mp h with rfl | h
          · exact .inr List.mem_cons_self
          · exact (ih h).imp_right (List.mem_cons_of_mem first)

/-- A plan is entered at the place of its stage. -/
theorem IsAscending.insert (h : plans.IsAscending) (stage : Stage) (plan : StagePlan) :
    (plans.insert stage plan).IsAscending := by
  induction plans with
  | nil => exact List.pairwise_singleton _ _
  | cons first plans ih =>
      obtain ⟨hhead, htail⟩ := List.pairwise_cons.mp h
      rw [StagePlans.insert]
      split
      · next hlt =>
          refine List.pairwise_cons.mpr ⟨fun e he => ?_, h⟩
          rcases List.mem_cons.mp he with rfl | he
          · exact hlt
          · exact Nat.lt_trans hlt (hhead e he)
      · next hle =>
          split
          · next heq => exact List.pairwise_cons.mpr ⟨fun e he => heq ▸ hhead e he, htail⟩
          · next hne =>
              refine List.pairwise_cons.mpr ⟨fun e he => ?_, ih htail⟩
              rcases eq_or_mem_of_mem_insert he with rfl | he
              · have hdiffer : stage.number ≠ first.1.number :=
                  fun heq => hne (Stage.number_injective heq)
                dsimp only
                omega
              · exact hhead e he

theorem insert_perm_of_notMem (hstage : stage ∉ plans.map Prod.fst) :
    (plans.insert stage plan).Perm ((stage, plan) :: plans) := by
  induction plans with
  | nil => exact List.Perm.refl _
  | cons first plans ih =>
      rw [List.map_cons, List.mem_cons, not_or] at hstage
      rw [insert, if_neg hstage.1]
      split
      · exact List.Perm.refl _
      · exact ((ih hstage.2).cons first).trans (List.Perm.swap (stage, plan) first plans)

/-- Enter plans one after the other. -/
def insertAll (plans : StagePlans) (entries : List (Stage × StagePlan)) : StagePlans :=
  entries.foldl (fun plans entry => plans.insert entry.1 entry.2) plans

theorem IsAscending.insertAll (h : plans.IsAscending) (entries : List (Stage × StagePlan)) :
    (plans.insertAll entries).IsAscending := by
  induction entries generalizing plans with
  | nil => exact h
  | cons entry entries ih => exact ih (h.insert entry.1 entry.2)

/-- Plans do not depend on the order in which they are entered. -/
theorem IsAscending.insertAll_eq (h : plans.IsAscending) {entries : List (Stage × StagePlan)}
    (hperm : entries.Perm plans) : StagePlans.insertAll [] entries = plans := by
  have hnodup : ((([] : StagePlans) ++ entries).map Prod.fst).Nodup :=
    (hperm.map Prod.fst).nodup_iff.mpr h.nodup
  have hall : (StagePlans.insertAll [] entries).Perm plans :=
    (Dict.foldl_perm insert_perm_of_notMem hnodup).trans hperm
  have hempty : IsAscending [] := List.Pairwise.nil
  exact hall.eq_of_pairwise (fun a b _ _ hab hba => absurd hab (Nat.lt_asymm hba))
    (hempty.insertAll entries) h

/-! ## Plans in a document -/

/-- The plan that is listed under the key of a stage. -/
def ofMember? (member : String × Json) : Option (Stage × StagePlan) := do
  return (← Stage.ofKey? member.1, ← StagePlan.ofJson? .configuration member.2)

theorem foldlM_ofMember? (members : List (String × Json)) (plans : StagePlans) :
    members.foldlM (fun plans member => (ofMember? member).map fun e => plans.insert e.1 e.2)
        plans =
      (members.mapM ofMember?).map plans.insertAll := by
  induction members generalizing plans with
  | nil => rfl
  | cons member members ih =>
      rw [List.foldlM_cons, List.mapM_cons]
      cases ofMember? member with
      | none => rfl
      | some e =>
          change members.foldlM _ (plans.insert e.1 e.2) = Option.map _ (Option.bind _ _)
          rw [ih]
          cases members.mapM ofMember? <;> rfl

/-- The plans of a document are entered in the order in which it lists them. -/
theorem ofJson?_obj (members : List (String × Json)) :
    ofJson? .configuration (.obj members) =
      (members.mapM ofMember?).map (StagePlans.insertAll []) := by
  rw [← foldlM_ofMember?]
  refine congrArg (List.foldlM · [] members) (funext fun plans => funext fun member => ?_)
  obtain ⟨key, j⟩ := member
  dsimp only [ofMember?]
  cases Stage.ofKey? key with
  | none => rfl
  | some stage => cases StagePlan.ofJson? .configuration j <;> rfl

theorem isAscending_of_ofJson? (h : ofJson? .configuration j = some plans) :
    plans.IsAscending := by
  cases j with
  | obj members =>
      rw [ofJson?_obj] at h
      obtain ⟨entries, -, rfl⟩ := Option.map_eq_some_iff.mp h
      have hempty : IsAscending [] := List.Pairwise.nil
      exact hempty.insertAll entries
  | _ => cases h

/-- The member of a document that lists a plan. -/
def member (entry : Stage × StagePlan) : String × Json := (entry.1.key, entry.2.toJson)

theorem toJson_eq (plans : StagePlans) : plans.toJson = .obj (plans.map member) :=
  rfl

theorem IsAscending.nodup_keys (h : plans.IsAscending) :
    (Dict.keys (plans.map member)).Nodup := by
  have hkeys : Dict.keys (plans.map member) = (plans.map Prod.fst).map Stage.key := by
    rw [Dict.keys, List.map_map, List.map_map]
    rfl
  rw [hkeys]
  exact h.nodup.map fun _ _ => Stage.key_injective

/-- Plans are read as they were, in whatever order the document lists them. -/
theorem IsAscending.ofJson?_toJson (h : plans.IsAscending) :
    ofJson? .configuration plans.toJson.sorted = some plans := by
  have hlisted : (Dict.ofList (Json.sortedMembers (plans.map member))).Perm
      (plans.map fun entry => (entry.1.key, entry.2.toJson.sorted)) := by
    rw [Json.sortedMembers_eq]
    refine (Dict.ofList_perm (by rw [Dict.keys_mapValues]; exact h.nodup_keys)).trans ?_
    rw [Dict.mapValues, List.map_map]
    exact List.Perm.refl _
  have hread : List.Forall₂ (fun member entry => ofMember? member = some entry)
      (plans.map fun entry => (entry.1.key, entry.2.toJson.sorted)) plans := by
    rw [List.forall₂_map_left_iff, List.forall₂_same]
    intro entry _
    rw [ofMember?, Stage.ofKey?_key, StagePlan.ofJson?_toJson]
    rfl
  obtain ⟨entries, hentries, hperm⟩ := List.perm_comp_forall₂ hlisted hread
  rw [toJson_eq, Json.sorted, ofJson?_obj, Record.mapM_eq_some_iff.mpr hentries,
    Option.map_some, h.insertAll_eq hperm]

theorem IsAscending.everywhere_toJson (h : plans.IsAscending) :
    plans.toJson.Everywhere Toml.HasText := by
  refine Json.everywhere_obj.mpr ⟨h.nodup_keys, fun e he => ?_⟩
  obtain ⟨entry, -, rfl⟩ := List.mem_map.mp he
  exact entry.2.everywhere_toJson

end StagePlans

/-! ## Scaffolds -/

namespace Scaffold

variable {scaffold : Scaffold} {j : Json}

/-- What a scaffold that was read is like. -/
structure IsRead (scaffold : Scaffold) : Prop where
  stages : scaffold.stages.IsAscending
  successCriteria : (Json.obj scaffold.successCriteria).Everywhere Toml.IsRead

theorem isRead_of_ofJson? (hj : j.Everywhere Toml.IsRead)
    (h : ofJson? .configuration j = some scaffold) : scaffold.IsRead := by
  obtain ⟨found, hfound, h⟩ := Option.bind_eq_some_iff.mp h
  have hpart := Record.everywhere_of_fields? hj hfound
  split at h
  · obtain ⟨id, -, h⟩ := Option.bind_eq_some_iff.mp h
    obtain ⟨name, -, h⟩ := Option.bind_eq_some_iff.mp h
    obtain ⟨description, -, h⟩ := Option.bind_eq_some_iff.mp h
    obtain ⟨stages, hstages, h⟩ := Option.bind_eq_some_iff.mp h
    obtain ⟨dependencies, -, h⟩ := Option.bind_eq_some_iff.mp h
    obtain ⟨successCriteria, hcriteria, h⟩ := Option.bind_eq_some_iff.mp h
    obtain ⟨version, -, h⟩ := Option.bind_eq_some_iff.mp h
    obtain ⟨contextPreservation, -, h⟩ := Option.bind_eq_some_iff.mp h
    obtain rfl := Option.some.inj h
    constructor
    case stages =>
      have hempty : StagePlans.IsAscending [] := List.Pairwise.nil
      exact Record.of_withDefault (p := StagePlans.IsAscending) hempty
        (fun _ _ _ => StagePlans.isAscending_of_ofJson?) hstages
    case successCriteria => exact Record.everywhere_of_members? (hpart _ (by simp)) hcriteria
  · cases h

/-- The fields of a scaffold in a configuration. -/
def documentFields (scaffold : Scaffold) : List (String × Option Json) :=
  [("id", some (.str scaffold.id)), ("name", some (.str scaffold.name)),
    ("description", some (.str scaffold.description)), ("stages", some scaffold.stages.toJson),
    ("dependencies", some (.strings scaffold.dependencies)),
    ("success_criteria", some (.obj scaffold.successCriteria)),
    ("version", some (.str scaffold.version)),
    ("context_preservation", some (.bool scaffold.contextPreservation))]

theorem map_fst_documentFields (scaffold : Scaffold) :
    scaffold.documentFields.map Prod.fst = fieldNames :=
  rfl

theorem toJson_eq (scaffold : Scaffold) :
    scaffold.toJson = .obj (Record.present scaffold.documentFields) :=
  rfl

theorem IsRead.ofJson?_toJson (h : scaffold.IsRead) :
    ofJson? .configuration scaffold.toJson.sorted = some scaffold := by
  have hdependencies := Record.strings?_strings scaffold.dependencies
  have hcriteria := congrArg Json.members? (Toml.sorted_eq_self h.successCriteria)
  rw [ofJson?, toJson_eq, Record.fields?_present scaffold.map_fst_documentFields (by decide)]
  refine Option.bind_eq_some_iff.mpr ⟨_, rfl, ?_⟩
  refine Option.bind_eq_some_iff.mpr ⟨scaffold.id, rfl, ?_⟩
  refine Option.bind_eq_some_iff.mpr ⟨scaffold.name, rfl, ?_⟩
  refine Option.bind_eq_some_iff.mpr ⟨scaffold.description, rfl, ?_⟩
  refine Option.bind_eq_some_iff.mpr ⟨scaffold.stages, h.stages.ofJson?_toJson, ?_⟩
  refine Option.bind_eq_some_iff.mpr ⟨scaffold.dependencies, hdependencies, ?_⟩
  refine Option.bind_eq_some_iff.mpr ⟨scaffold.successCriteria, hcriteria, ?_⟩
  refine Option.bind_eq_some_iff.mpr ⟨scaffold.version, rfl, ?_⟩
  exact Option.bind_eq_some_iff.mpr ⟨scaffold.contextPreservation, rfl, rfl⟩

/-- Nothing is missing in the criteria. -/
def HasNoNull (scaffold : Scaffold) : Prop := (Json.obj scaffold.successCriteria).HasNoNull
deriving Decidable

theorem IsRead.everywhere_toJson (h : scaffold.IsRead) (hnull : scaffold.HasNoNull) :
    scaffold.toJson.Everywhere Toml.HasText := by
  rw [toJson_eq]
  refine Record.everywhere_hasText_present scaffold.map_fst_documentFields (by decide) ?_
  simp only [documentFields, List.forall_mem_cons, Option.mem_some_iff, forall_eq']
  exact ⟨trivial, trivial, trivial, h.stages.everywhere_toJson,
    Toml.everywhere_strings scaffold.dependencies, Toml.everywhere_hasText h.successCriteria hnull,
    trivial, trivial, nofun⟩

end Scaffold

end ScaffoldRunner
