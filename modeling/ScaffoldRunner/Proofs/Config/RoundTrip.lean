import ScaffoldRunner.Config.Text
import ScaffoldRunner.Proofs.Config.Records
import ScaffoldRunner.Proofs.References

/-!
# Configurations that are written and read again

A configuration that was read from a text is a document without gaps: every limit fits
an integer of the document, names differ, and free tables hold what was read.  It is
written as such a document, if nothing is missing in its free tables, and the document
is read as the same configuration.  Ids are listed ids already, and the validation that
was passed once is passed again.
-/

namespace ScaffoldRunner

/-- What is read as a table of entries is in the order of their names. -/
theorem Record.sorted_of_dict? {α : Type} {read : Json → Option α} {IsRead : α → Prop}
    (hread : ∀ {j a}, j.Everywhere Toml.IsRead → read j = some a → IsRead a) {j : Json}
    (hj : j.Everywhere Toml.IsRead) {d : Dict α} (h : dict? read j = some d) :
    d.Sorted ∧ ∀ e ∈ d, IsRead e.2 := by
  obtain ⟨members, rfl, hkeys, hentries⟩ := exists_of_dict? h
  obtain ⟨hsorted, hmembers⟩ := Json.everywhere_obj.mp hj
  constructor
  · have hpairwise : d.keys.Pairwise (· < ·) := hkeys ▸ List.pairwise_map.mpr hsorted
    exact List.pairwise_map.mp hpairwise
  · intro e he
    obtain ⟨member, hmember, hmemberRead⟩ := hentries e he
    exact hread (hmembers member hmember) hmemberRead

theorem ok_of_toOption {ε α : Type} {result : Except ε α} {a : α}
    (h : result.toOption = some a) : result = .ok a := by
  cases result with
  | error => cases h
  | ok b => rw [Option.some.inj h]

namespace Config

variable {config : Config} {j : Json}

/-- What a configuration that was read is like. -/
structure IsRead (config : Config) : Prop where
  framework : config.framework.IsRead
  sorted_frames : config.frames.Sorted
  frames : ∀ e ∈ config.frames, e.2.IsRead
  sorted_scaffolds : config.scaffolds.Sorted
  scaffolds : ∀ e ∈ config.scaffolds, e.2.IsRead

/-- Everything has the id that it is listed under. -/
def HasListedIds (config : Config) : Prop :=
  (∀ e ∈ config.frames, e.2.id = e.1) ∧ ∀ e ∈ config.scaffolds, e.2.id = e.1

/-- Nothing is missing in a free table. -/
def HasNoNull (config : Config) : Prop :=
  (∀ e ∈ config.frames, e.2.HasNoNull) ∧ ∀ e ∈ config.scaffolds, e.2.HasNoNull
deriving Decidable

/-! ## What was read -/

theorem isRead_of_ofJson? (hj : j.Everywhere Toml.IsRead)
    (h : ofJson? .configuration j = some config) : config.IsRead := by
  obtain ⟨found, hfound, h⟩ := Option.bind_eq_some_iff.mp h
  have hpart := Record.everywhere_of_fields? hj hfound
  split at h
  · obtain ⟨framework, hframework, h⟩ := Option.bind_eq_some_iff.mp h
    obtain ⟨interpreters, -, h⟩ := Option.bind_eq_some_iff.mp h
    obtain ⟨frames, hframes, h⟩ := Option.bind_eq_some_iff.mp h
    obtain ⟨scaffolds, hscaffolds, h⟩ := Option.bind_eq_some_iff.mp h
    obtain rfl := Option.some.inj h
    have hsettings : framework.IsRead :=
      Record.of_withDefault FrameworkSettings.isRead_default
        (fun part hmem _ => FrameworkSettings.isRead_of_ofJson? (hpart _ (by simp) part hmem))
        hframework
    have hframes : Dict.Sorted frames ∧ ∀ e ∈ frames, e.2.IsRead :=
      Record.of_withDefault (p := fun d => Dict.Sorted d ∧ ∀ e ∈ d, Frame.IsRead e.2)
        ⟨List.Pairwise.nil, nofun⟩
        (fun part hmem _ =>
          Record.sorted_of_dict? Frame.isRead_of_ofJson? (hpart _ (by simp) part hmem))
        hframes
    have hscaffolds : Dict.Sorted scaffolds ∧ ∀ e ∈ scaffolds, e.2.IsRead :=
      Record.of_withDefault (p := fun d => Dict.Sorted d ∧ ∀ e ∈ d, Scaffold.IsRead e.2)
        ⟨List.Pairwise.nil, nofun⟩
        (fun part hmem _ =>
          Record.sorted_of_dict? Scaffold.isRead_of_ofJson? (hpart _ (by simp) part hmem))
        hscaffolds
    exact ⟨hsettings, hframes.1, hframes.2, hscaffolds.1, hscaffolds.2⟩
  · cases h

theorem IsRead.withListedIds (h : config.IsRead) : config.withListedIds.IsRead where
  framework := h.framework
  sorted_frames := List.pairwise_map.mpr h.sorted_frames
  frames := List.forall_mem_map.mpr fun e he =>
    let ⟨hparameters, hcriteria, htimeout, hschema⟩ := h.frames e he
    ⟨hparameters, hcriteria, htimeout, hschema⟩
  sorted_scaffolds := List.pairwise_map.mpr h.sorted_scaffolds
  scaffolds := List.forall_mem_map.mpr fun e he =>
    let ⟨hstages, hcriteria⟩ := h.scaffolds e he
    ⟨hstages, hcriteria⟩

theorem hasListedIds_withListedIds (config : Config) : config.withListedIds.HasListedIds :=
  ⟨List.forall_mem_map.mpr fun _ _ => rfl, List.forall_mem_map.mpr fun _ _ => rfl⟩

/-- Listed ids are given once. -/
theorem HasListedIds.withListedIds_eq (h : config.HasListedIds) :
    config.withListedIds = config := by
  have hframes : config.withListedIds.frames = config.frames := by
    refine (List.map_congr_left fun e he => ?_).trans (List.map_id _)
    obtain ⟨id, frame⟩ := e
    obtain rfl : frame.id = id := h.1 _ he
    rfl
  have hscaffolds : config.withListedIds.scaffolds = config.scaffolds := by
    refine (List.map_congr_left fun e he => ?_).trans (List.map_id _)
    obtain ⟨id, scaffold⟩ := e
    obtain rfl : scaffold.id = id := h.2 _ he
    rfl
  calc config.withListedIds
      = { config with
          frames := config.withListedIds.frames
          scaffolds := config.withListedIds.scaffolds } := rfl
    _ = config := by rw [hframes, hscaffolds]

theorem isRead_of_parse {text : String} (h : parse text = .ok config) :
    config.IsRead ∧ config.HasListedIds := by
  rw [parse] at h
  split at h
  · next hdocument =>
      rw [ofDocument] at h
      split at h
      · cases h
      · next hconfig =>
          obtain ⟨⟨⟩, -, hlisted⟩ := bind_eq_ok.mp h
          obtain rfl := Except.ok.inj hlisted
          have hread := isRead_of_ofJson? (Toml.everywhere_parse? hdocument) hconfig
          exact ⟨hread.withListedIds, hasListedIds_withListedIds _⟩
  · cases h

/-! ## What is written -/

def documentFields (config : Config) : List (String × Option Json) :=
  [("framework", some (.obj config.framework.documentMembers)),
    ("runtimes", some config.interpreters.toJson),
    ("frames", some (.obj (config.frames.mapValues fun frame => .obj frame.documentMembers))),
    ("scaffolds", some (.obj (config.scaffolds.mapValues Scaffold.toJson)))]

theorem map_fst_documentFields (config : Config) :
    config.documentFields.map Prod.fst = ["framework", "runtimes", "frames", "scaffolds"] :=
  rfl

theorem toDocument_eq (config : Config) :
    config.toDocument = .obj (Record.present config.documentFields) :=
  rfl

theorem IsRead.ofJson?_toDocument (h : config.IsRead) :
    ofJson? .configuration config.toDocument.sorted = some config := by
  have hframework := h.framework.ofJson?_document
  have hinterpreters := config.interpreters.ofJson?_toJson
  have hframes : Record.dict? (Frame.ofJson? .configuration)
      (Json.obj (config.frames.mapValues fun frame => .obj frame.documentMembers)).sorted =
        some config.frames :=
    Record.dict?_mapValues h.sorted_frames fun e he => (h.frames e he).ofJson?_document
  have hscaffolds : Record.dict? (Scaffold.ofJson? .configuration)
      (Json.obj (config.scaffolds.mapValues Scaffold.toJson)).sorted = some config.scaffolds :=
    Record.dict?_mapValues h.sorted_scaffolds fun e he => (h.scaffolds e he).ofJson?_toJson
  rw [ofJson?, toDocument_eq, Record.fields?_present config.map_fst_documentFields (by decide)]
  refine Option.bind_eq_some_iff.mpr ⟨_, rfl, ?_⟩
  refine Option.bind_eq_some_iff.mpr ⟨config.framework, hframework, ?_⟩
  refine Option.bind_eq_some_iff.mpr ⟨config.interpreters, hinterpreters, ?_⟩
  refine Option.bind_eq_some_iff.mpr ⟨config.frames, hframes, ?_⟩
  exact Option.bind_eq_some_iff.mpr ⟨config.scaffolds, hscaffolds, rfl⟩

/-- The document of a configuration is read as that configuration, in whatever order its
members stand. -/
theorem ofDocument_toDocument (hread : config.IsRead) (hlisted : config.HasListedIds)
    (hvalid : config.validate = .ok ()) :
    ofDocument config.toDocument.sorted = .ok config := by
  rw [ofDocument, hread.ofJson?_toDocument]
  dsimp only
  rw [hlisted.withListedIds_eq, hvalid]
  rfl

/-- Tables of entries that can stand in a document. -/
theorem everywhere_mapValues {α : Type} {d : Dict α} {write : α → Json} (hd : d.Sorted)
    (hentries : ∀ e ∈ d, (write e.2).Everywhere Toml.HasText) :
    (Json.obj (d.mapValues write)).Everywhere Toml.HasText := by
  refine Json.everywhere_obj.mpr ⟨?_, List.forall_mem_map.mpr hentries⟩
  exact (hd.mapValues write).nodup_keys

theorem IsRead.isDocument (h : config.IsRead) (hnull : config.HasNoNull) :
    Toml.IsDocument config.toDocument := by
  refine ⟨⟨_, rfl⟩, ?_⟩
  rw [toDocument_eq]
  refine Record.everywhere_hasText_present config.map_fst_documentFields (by decide) ?_
  simp only [documentFields, List.forall_mem_cons, Option.mem_some_iff, forall_eq']
  refine ⟨h.framework.everywhere_document, config.interpreters.everywhere_toJson,
    everywhere_mapValues h.sorted_frames fun e he => ?_,
    everywhere_mapValues h.sorted_scaffolds fun e he => ?_, nofun⟩
  · exact (h.frames e he).everywhere_document (hnull.1 e he)
  · exact (h.scaffolds e he).everywhere_toJson (hnull.2 e he)

/-- A configuration that was read from a text, with nothing missing in its free tables,
can be written, and what is written is read as the same configuration.  It is taken for
granted that the text of its document is read as that document. -/
theorem parse_render? {text : String} (hparse : parse text = .ok config)
    (hnull : config.HasNoNull)
    (hrestores : Toml.IsDocument config.toDocument → Toml.Restores config.toDocument) :
    ∃ rendered, config.render? = some rendered ∧ parse rendered = .ok config := by
  obtain ⟨hread, hlisted⟩ := isRead_of_parse hparse
  have hdocument := hread.isDocument hnull
  obtain ⟨rendered, hrendered⟩ := hdocument.exists_render?
  have hagain := hrestores hdocument rendered hrendered
  refine ⟨rendered, hrendered, ?_⟩
  rw [parse, hagain]
  exact ofDocument_toDocument hread hlisted (validate_of_parse hparse)

/-- Lines that state some fields and leave out others. -/
def partialLines : List String :=
  ["[frames.a]", "name = \"A\"", "file_path = \"a.py\"", "parameters = { n = [5] }",
    "[scaffolds.s]", "id = \"other\"", "name = \"S\"", "[scaffolds.s.stages.plan]",
    "frames = [\"a\"]"]

/-- The text of these lines. -/
def partialText : String :=
  String.ofList (partialLines.flatMap fun line => line.toList ++ ['\n'])

theorem parse_render?_partialText :
    ∃ config, parse partialText = .ok config ∧ config.HasNoNull ∧
      Toml.Restores config.toDocument ∧
      ∃ rendered, config.render? = some rendered ∧ parse rendered = .ok config := by
  have hcheck : ((Toml.ofChars? (partialLines.flatMap fun line => line.toList ++ ['\n'])).any
      fun document => (ofDocument document).toOption.any fun config =>
        decide config.HasNoNull && (Toml.section? .none [] config.toDocument).any fun cs =>
          decide (Toml.ofChars? (Toml.dropFirstBreak cs) = some config.toDocument.sorted)) =
      true := by
    decide +kernel
  obtain ⟨document, hdocument, hcheck⟩ := (Option.any_eq_true _ _).mp hcheck
  obtain ⟨config, hconfig, hcheck⟩ := (Option.any_eq_true _ _).mp hcheck
  obtain ⟨hnull, hcheck⟩ := Bool.and_eq_true_iff.mp hcheck
  obtain ⟨cs, hsection, hread⟩ := (Option.any_eq_true _ _).mp hcheck
  have hparse : parse partialText = .ok config := by
    rw [parse, partialText, Toml.parse?_ofList, hdocument]
    exact ok_of_toOption hconfig
  have hnull := of_decide_eq_true hnull
  have hrestores := Toml.restores_of_section? hsection (of_decide_eq_true hread)
  exact ⟨config, hparse, hnull, hrestores, parse_render? hparse hnull fun _ => hrestores⟩

end Config

end ScaffoldRunner
