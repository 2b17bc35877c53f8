import Mathlib.Data.List.TakeWhile
import ScaffoldRunner.Command.Classification
import ScaffoldRunner.Proofs.Command.Failures
import ScaffoldRunner.Proofs.Text.Search

/-!
# What an error output is taken for

A failure is classified by the phrases that occur in its error output, wherever they stand
and in whichever letter case: the first kind that has a phrase there is the kind of the
failure.  So more text around an output can only bring an earlier kind to light.

The modules that an output reports as missing are found by the phrase in front of their
names, which stand in quotes.  Where nothing else is quoted, exactly these names are found.
-/

namespace ScaffoldRunner

namespace FailureKind

/-! ## Phrases -/

variable {kind : FailureKind} {text : String}

/-- A phrase of a kind occurs in a text, in any letter case. -/
def OccursIn (kind : FailureKind) (text : String) : Prop :=
  ∃ phrase ∈ kind.phrases, ∃ before form after : String,
    text = before ++ form ++ after ∧
      form.toList.map Text.foldCase = phrase.toList.map Text.foldCase

/-- The kinds that are told from the error output, in the order in which they are tried. -/
def classified : List FailureKind :=
  [dependencyMissing, permissionDenied, timeout, memoryIssue, configurationError]

/-- Phrases are given in lower case. -/
theorem map_foldCase_phrase :
    ∀ kind ∈ all, ∀ phrase ∈ kind.phrases, phrase.toList.map Text.foldCase = phrase.toList := by
  decide

theorem occursIn_iff : kind.occursIn text.toList = true ↔ kind.OccursIn text := by
  have hall : kind ∈ all := by cases kind <;> decide
  rw [occursIn, List.any_eq_true]
  refine exists_congr fun phrase => and_congr_right fun hphrase => ?_
  rw [Text.containsFold_eq_true_iff, map_foldCase_phrase kind hall phrase hphrase]
  constructor
  · rintro ⟨before, form, after, htext, hform⟩
    refine ⟨String.ofList before, String.ofList form, String.ofList after, ?_, ?_⟩
    · rw [← String.toList_inj, htext]
      simp
    · rw [String.toList_ofList, hform]
  · rintro ⟨before, form, after, rfl, hform⟩
    exact ⟨before.toList, form.toList, after.toList, by simp, hform⟩

/-- More text around a phrase does not hide it. -/
theorem OccursIn.append (h : kind.OccursIn text) (front back : String) :
    kind.OccursIn (front ++ text ++ back) := by
  obtain ⟨phrase, hphrase, before, form, after, rfl, hform⟩ := h
  refine ⟨phrase, hphrase, front ++ before, form, after ++ back, ?_, hform⟩
  simp only [String.append_assoc]

/-! ## The order of classification -/

theorem classify_eq_find? (text : String) :
    classify text = classified.find? fun kind => kind.occursIn text.toList := by
  have hall : all = classified ++ [executionError] := rfl
  have hlast : executionError.occursIn text.toList = false := rfl
  rw [classify, hall, List.find?_append, List.find?_singleton, hlast]
  simp

theorem classify_eq_none_iff :
    classify text = none ↔ ∀ kind ∈ classified, ¬kind.OccursIn text := by
  rw [classify_eq_find?, List.find?_eq_none]
  simp only [occursIn_iff]

theorem classify_eq_some_iff :
    classify text = some kind ↔
      kind.OccursIn text ∧ ∃ earlier later, classified = earlier ++ kind :: later ∧
        ∀ other ∈ earlier, ¬other.OccursIn text := by
  rw [classify_eq_find?, List.find?_eq_some_iff_append]
  simp only [occursIn_iff, Bool.not_eq_true', ← Bool.not_eq_true]

/-- The kind of a text with more around it is the same or an earlier one. -/
theorem exists_classify_append (h : classify text = some kind) (front back : String) :
    ∃ other, classify (front ++ text ++ back) = some other ∧
      classified.idxOf other ≤ classified.idxOf kind := by
  obtain ⟨hkind, earlier, later, horder, -⟩ := classify_eq_some_iff.mp h
  have hoccurs := hkind.append front back
  cases hwhole : classify (front ++ text ++ back) with
  | none =>
      have hmem : kind ∈ classified := by
        rw [horder]
        exact List.mem_append_right earlier List.mem_cons_self
      exact absurd hoccurs (classify_eq_none_iff.mp hwhole kind hmem)
  | some other =>
      obtain ⟨hother, before, after, hsplit, hbefore⟩ := classify_eq_some_iff.mp hwhole
      refine ⟨other, rfl, ?_⟩
      -- Neither of the two is among the kinds that were passed over.
      have hkindNew : kind ∉ before := fun hmem => hbefore kind hmem hoccurs
      have hotherNew : other ∉ before := fun hmem => hbefore other hmem hother
      rw [hsplit, List.idxOf_append_of_notMem hotherNew, List.idxOf_append_of_notMem hkindNew,
        List.idxOf_cons_self]
      omega

theorem recommendations_ne_nil (kind : FailureKind) : kind.recommendations ≠ [] := by
  cases kind <;> exact List.cons_ne_nil _ _

end FailureKind

/-! ## Results -/

namespace CommandResult

variable (command : String) {code : Int} (stdout stderr : String) (seconds : Float)

/-- Nothing is said against a command that was successful. -/
theorem ofOutput_zero :
    let r := ofOutput command 0 stdout stderr seconds
    r.failureKind = none ∧ r.severity = .low ∧ r.dependenciesAffected = [] ∧
      r.recommendations = [] :=
  ⟨rfl, rfl, rfl, rfl⟩

/-- A command that has failed comes with advice. -/
theorem recommendations_ofOutput (h : code ≠ 0) :
    (ofOutput command code stdout stderr seconds).recommendations ≠ [] := by
  rw [ofOutput]
  simp only [if_neg h]
  split
  · next kind _ => exact kind.recommendations_ne_nil
  · exact List.cons_ne_nil _ _

end CommandResult

namespace FailureKind

/-- A failure is taken for the first kind, in the order of classification, that has a phrase
somewhere in the error output, in any letter case.  So a text with more around it is taken for
the same kind or for an earlier one.  Only a failure has a kind, a severity or missing
dependencies, and every failure has advice. -/
theorem classify_byPhrases :
    (∀ text,
      (classify text = none ↔ ∀ kind ∈ classified, ¬kind.OccursIn text) ∧
      ∀ kind, classify text = some kind ↔
        kind.OccursIn text ∧ ∃ earlier later, classified = earlier ++ kind :: later ∧
          ∀ other ∈ earlier, ¬other.OccursIn text) ∧
    (∀ text kind front back, classify text = some kind →
      ∃ other, classify (front ++ text ++ back) = some other ∧
        classified.idxOf other ≤ classified.idxOf kind) ∧
    ∀ command code stdout stderr seconds,
      let r := CommandResult.ofOutput command code stdout stderr seconds
      (r.failureKind ≠ none ∨ r.severity ≠ .low ∨ r.dependenciesAffected ≠ [] → code ≠ 0) ∧
        (r.recommendations ≠ [] ↔ code ≠ 0) := by
  refine ⟨fun text => ⟨classify_eq_none_iff, fun kind => classify_eq_some_iff⟩, ?_, ?_⟩
  · intro text kind front back h
    exact exists_classify_append h front back
  · intro command code stdout stderr seconds r
    constructor
    · rintro h rfl
      obtain ⟨hkind, hseverity, hdependencies, -⟩ :=
        CommandResult.ofOutput_zero command stdout stderr seconds
      rcases h with h | h | h
      · exact h hkind
      · exact h hseverity
      · exact h hdependencies
    · constructor
      · rintro h rfl
        exact h (CommandResult.ofOutput_zero command stdout stderr seconds).2.2.2
      · exact CommandResult.recommendations_ofOutput command stdout stderr seconds

/-- A phrase that comes about only where two texts meet brings an earlier kind to light. -/
theorem classify_killed_byPhrases :
    classify "DENIED, process Killed" = some .timeout ∧
      classify ("Access " ++ "DENIED, process Killed" ++ ".") = some .permissionDenied ∧
      classified.idxOf .permissionDenied ≤ classified.idxOf .timeout := by
  obtain ⟨-, hmore, -⟩ := classify_byPhrases
  have hkilled : classify "DENIED, process Killed" = some .timeout := by decide
  have hdenied : classify ("Access " ++ "DENIED, process Killed" ++ ".") =
      some .permissionDenied := by
    decide
  obtain ⟨other, hother, hle⟩ := hmore _ _ "Access " "." hkilled
  obtain rfl := Option.some.inj (hdenied.symm.trans hother)
  exact ⟨hkilled, hdenied, hle⟩

end FailureKind

/-! ## Missing modules -/

/-- No quotation marks at all. -/
def IsUnquoted (cs : List Char) : Prop := ∀ c ∈ cs, isQuote c = false

instance : DecidablePred IsUnquoted := fun cs =>
  decidable_of_iff (cs.all (fun c => !isQuote c) = true) (by simp [IsUnquoted])

/-- A report of a missing module: the phrase in any letter case, the name in quotes, and some
text behind it. -/
structure ModuleReport where
  phrase : List Char
  opening : Char
  name : List Char
  closing : Char
  after : List Char
  isPhrase : phrase.map Char.toLower = "cannot find module ".toList
  opens : isQuote opening = true
  named : name ≠ []
  unquoted : IsUnquoted name
  closes : isQuote closing = true
  unquotedAfter : IsUnquoted after

namespace ModuleReport

/-- The report as it is printed. -/
def text (report : ModuleReport) : List Char :=
  report.phrase ++ report.opening :: (report.name ++ report.closing :: report.after)

/-- The name of the module that is missing. -/
def moduleName (report : ModuleReport) : String := String.ofList report.name

end ModuleReport

/-- The phrase is the same in both ways of leaving the letter case out of account: none of its
letters has a form outside ASCII. -/
theorem map_foldCase_of_map_toLower {phrase : List Char}
    (h : phrase.map Char.toLower = "cannot find module ".toList) :
    phrase.map Text.foldCase = "cannot find module ".toList := by
  rw [← h]
  refine List.map_congr_left fun c hc => ?_
  have hlower : c.toLower ∈ "cannot find module ".toList := h ▸ List.mem_map_of_mem hc
  have hkelvin : c ≠ '\u212A' := by rintro rfl; revert hlower; decide
  have hlong : c ≠ '\u017F' := by rintro rfl; revert hlower; decide
  rw [Text.foldCase, if_neg hkelvin, if_neg hlong]

theorem isUnquoted_of_map_foldCase {phrase : List Char}
    (h : phrase.map Text.foldCase = "cannot find module ".toList) : IsUnquoted phrase := by
  intro c hc
  have hfold : Text.foldCase c ∈ "cannot find module ".toList := h ▸ List.mem_map_of_mem hc
  rw [← Bool.not_eq_true]
  intro hquote
  rcases Bool.or_eq_true_iff.mp hquote with hsingle | hdouble
  · obtain rfl := of_decide_eq_true hsingle
    revert hfold
    decide
  · obtain rfl := of_decide_eq_true hdouble
    revert hfold
    decide

/-- A name in quotes at the front of a text, and what follows it. -/
def quotedName? : List Char → Option (String × List Char)
  | [] => none
  | opening :: cs =>
      if isQuote opening then
        match cs.takeWhile fun c => !isQuote c, cs.dropWhile fun c => !isQuote c with
        | c :: chars, _ :: after => some (String.ofList (c :: chars), after)
        | _, _ => none
      else none

theorem missingModuleAt?_eq (cs : List Char) :
    missingModuleAt? cs =
      (Text.afterPrefixFold? "cannot find module ".toList cs).bind quotedName? := by
  rw [missingModuleAt?]
  cases Text.afterPrefixFold? "cannot find module ".toList cs with
  | none => rfl
  | some quoted =>
      cases quoted with
      | nil => rfl
      | cons opening cs =>
          change (if isQuote opening = true then _ else none) =
            (if isQuote opening = true then _ else none)
          split
          · cases cs.takeWhile fun c => !isQuote c with
            | nil => rfl
            | cons c chars => cases cs.dropWhile fun c => !isQuote c <;> rfl
          · rfl

theorem quotedName?_eq_some_iff {cs rest : List Char} {name : String} :
    quotedName? cs = some (name, rest) ↔
      ∃ opening chars closing, cs = opening :: (chars ++ closing :: rest) ∧
        isQuote opening = true ∧ chars ≠ [] ∧ IsUnquoted chars ∧ isQuote closing = true ∧
        String.ofList chars = name := by
  constructor
  · intro h
    cases cs with
    | nil => cases h
    | cons opening cs =>
        have hends := Text.head?_dropWhile_eq_false (p := fun c => !isQuote c) cs
        have hcut := List.takeWhile_append_dropWhile (p := fun c => !isQuote c) (l := cs)
        rw [quotedName?] at h
        split at h
        · next hopening =>
            split at h
            · next c chars closing after hchars hclosing =>
                obtain ⟨rfl, rfl⟩ := Prod.mk.inj (Option.some.inj h)
                rw [hclosing] at hends
                refine ⟨opening, c :: chars, closing, ?_, hopening, List.cons_ne_nil c chars, ?_,
                  by simpa using hends closing rfl, rfl⟩
                · rw [← hchars, ← hclosing, hcut]
                · intro d hd
                  rw [← hchars] at hd
                  simpa using List.mem_takeWhile_imp hd
            · cases h
        · cases h
  · rintro ⟨opening, chars, closing, rfl, hopening, hne, hchars, hclosing, rfl⟩
    have hplain : ∀ c ∈ chars, (!isQuote c) = true := fun c hc => by rw [hchars c hc]; rfl
    have hend : ∀ c ∈ (closing :: rest).head?, (!isQuote c) = false := by
      intro c hc
      obtain rfl := Option.some.inj hc
      rw [hclosing]
      rfl
    obtain ⟨c, chars, rfl⟩ := List.exists_cons_of_ne_nil hne
    rw [quotedName?, if_pos hopening, Text.takeWhile_append_of_head? hplain hend,
      Text.dropWhile_append_of_head? hplain hend]

theorem missingModuleAt?_eq_some_iff {cs rest : List Char} {name : String} :
    missingModuleAt? cs = some (name, rest) ↔
      ∃ phrase quoted, cs = phrase ++ quoted ∧
        phrase.map Text.foldCase = "cannot find module ".toList ∧
        quotedName? quoted = some (name, rest) := by
  rw [missingModuleAt?_eq, Option.bind_eq_some_iff]
  constructor
  · rintro ⟨quoted, hquoted, hname⟩
    obtain ⟨phrase, hcs, hphrase⟩ := Text.afterPrefixFold?_eq_some_iff.mp hquoted
    exact ⟨phrase, quoted, hcs, hphrase, hname⟩
  · rintro ⟨phrase, quoted, hcs, hphrase, hname⟩
    exact ⟨quoted, Text.afterPrefixFold?_eq_some_iff.mpr ⟨phrase, hcs, hphrase⟩, hname⟩

theorem consumes_missingModuleAt? : Text.Consumes missingModuleAt? := by
  intro cs name rest h
  obtain ⟨phrase, quoted, rfl, -, hquoted⟩ := missingModuleAt?_eq_some_iff.mp h
  obtain ⟨opening, chars, closing, rfl, -⟩ := quotedName?_eq_some_iff.mp hquoted
  exact ⟨phrase ++ opening :: (chars ++ [closing]), by simp, by simp⟩

theorem missingModuleAt?_of_isUnquoted {cs : List Char} (h : IsUnquoted cs) :
    missingModuleAt? cs = none := by
  refine Option.eq_none_iff_forall_ne_some.mpr ?_
  rintro ⟨name, rest⟩ hfound
  obtain ⟨phrase, quoted, rfl, -, hquoted⟩ := missingModuleAt?_eq_some_iff.mp hfound
  obtain ⟨opening, chars, closing, rfl, hopening, -⟩ := quotedName?_eq_some_iff.mp hquoted
  rw [h opening (List.mem_append_right phrase List.mem_cons_self)] at hopening
  cases hopening

/-- No report of a missing module begins where more characters than the phrase has come
without a quotation mark. -/
theorem missingModuleAt?_append_of_isUnquoted {front : List Char} (h : IsUnquoted front)
    (hlength : "cannot find module ".toList.length < front.length) (cs : List Char) :
    missingModuleAt? (front ++ cs) = none := by
  refine Option.eq_none_iff_forall_ne_some.mpr ?_
  rintro ⟨name, rest⟩ hfound
  obtain ⟨phrase, quoted, htext, hphrase, hquoted⟩ := missingModuleAt?_eq_some_iff.mp hfound
  obtain ⟨opening, chars, closing, rfl, hopening, -⟩ := quotedName?_eq_some_iff.mp hquoted
  have hshort : phrase.length < front.length := by
    rw [← List.length_map (f := Text.foldCase), hphrase]
    exact hlength
  have hmem : opening ∈ front := by
    rcases List.append_eq_append_iff.mp htext with ⟨more, rfl, -⟩ | ⟨more, rfl, hmore⟩
    · rw [List.length_append] at hshort
      omega
    · cases more with
      | nil => simp at hshort
      | cons c more =>
          obtain ⟨rfl, -⟩ := List.cons.inj hmore
          exact List.mem_append_right phrase List.mem_cons_self
  rw [h opening hmem] at hopening
  cases hopening

namespace ModuleReport

variable (report : ModuleReport)

theorem missingModuleAt?_text (cs : List Char) :
    missingModuleAt? (report.text ++ cs) = some (report.moduleName, report.after ++ cs) := by
  refine missingModuleAt?_eq_some_iff.mpr ⟨report.phrase,
    report.opening :: (report.name ++ report.closing :: (report.after ++ cs)), ?_,
    map_foldCase_of_map_toLower report.isPhrase, ?_⟩
  · simp [text]
  · exact quotedName?_eq_some_iff.mpr ⟨report.opening, report.name, report.closing, rfl,
      report.opens, report.named, report.unquoted, report.closes, rfl⟩

/-- Text without quotation marks in front of a report is passed over. -/
theorem findAll_append_text {lead : List Char} (hlead : IsUnquoted lead) (cs : List Char) :
    Text.findAll missingModuleAt? (lead ++ (report.text ++ cs)) =
      report.moduleName :: Text.findAll missingModuleAt? (report.after ++ cs) := by
  have hfold := map_foldCase_of_map_toLower report.isPhrase
  have hpassed : ∀ later, later ≠ [] → later <:+ lead →
      missingModuleAt? (later ++ (report.text ++ cs)) = none := by
    intro later hne hlater
    have hfront : IsUnquoted (later ++ report.phrase) := by
      intro c hc
      rcases List.mem_append.mp hc with hc | hc
      · exact hlead c (hlater.subset hc)
      · exact isUnquoted_of_map_foldCase hfold c hc
    have hlength : "cannot find module ".toList.length < (later ++ report.phrase).length := by
      have hpos := List.length_pos_iff.mpr hne
      rw [← hfold, List.length_map, List.length_append]
      omega
    rw [text, List.append_assoc, ← List.append_assoc]
    exact missingModuleAt?_append_of_isUnquoted hfront hlength _
  rw [Text.findAll_append_of_none hpassed,
    Text.findAll_of_some consumes_missingModuleAt? (report.missingModuleAt?_text cs)]

/-- The names that the reports of an output give are found, one after another. -/
theorem findAll_texts (reports : List ModuleReport) {lead : List Char} (hlead : IsUnquoted lead) :
    Text.findAll missingModuleAt? (lead ++ reports.flatMap text) = reports.map moduleName := by
  induction reports generalizing lead with
  | nil =>
      have hpassed : ∀ later, later ≠ [] → later <:+ lead →
          missingModuleAt? (later ++ []) = none := by
        intro later _ hlater
        rw [List.append_nil]
        exact missingModuleAt?_of_isUnquoted fun c hc => hlead c (hlater.subset hc)
      rw [List.flatMap_nil, Text.findAll_append_of_none hpassed, Text.findAll_nil, List.map_nil]
  | cons report reports ih =>
      rw [List.flatMap_cons, report.findAll_append_text hlead, ih report.unquotedAfter,
        List.map_cons]

end ModuleReport

/-- A command that has failed with reports of missing modules in its error output, and nothing
else in quotes. -/
structure ModuleFailure where
  command : String
  code : Int
  stdout : String
  seconds : Float
  lead : List Char
  reports : List ModuleReport
  failed : code ≠ 0
  unquoted : IsUnquoted lead
  reported : reports ≠ []

namespace ModuleFailure

/-- The error output. -/
def stderr (f : ModuleFailure) : String :=
  String.ofList (f.lead ++ f.reports.flatMap ModuleReport.text)

def result (f : ModuleFailure) : CommandResult :=
  .ofOutput f.command f.code f.stdout f.stderr f.seconds

/-- The names of the modules, in the order of the reports. -/
def moduleNames (f : ModuleFailure) : List String := f.reports.map ModuleReport.moduleName

variable (f : ModuleFailure)

theorem classify_stderr : FailureKind.classify f.stderr = some .dependencyMissing := by
  obtain ⟨report, reports, hreports⟩ := List.exists_cons_of_ne_nil f.reported
  have hoccurs : FailureKind.dependencyMissing.OccursIn f.stderr := by
    refine FailureKind.occursIn_iff.mp ?_
    rw [FailureKind.occursIn, List.any_eq_true]
    refine ⟨"cannot find module", by decide, Text.containsFold_eq_true_iff.mpr ?_⟩
    refine ⟨f.lead, report.phrase.take 18, report.phrase.drop 18 ++ report.opening ::
      (report.name ++ report.closing :: report.after) ++ reports.flatMap ModuleReport.text, ?_, ?_⟩
    · rw [stderr, String.toList_ofList, hreports, List.flatMap_cons, ModuleReport.text]
      simp [← List.append_assoc]
    · rw [List.map_take, map_foldCase_of_map_toLower report.isPhrase]
      decide
  exact FailureKind.classify_eq_some_iff.mpr ⟨hoccurs, [], _, rfl, by simp⟩

theorem missingModules_stderr : missingModules f.stderr = f.moduleNames := by
  rw [missingModules, stderr, String.toList_ofList, ModuleReport.findAll_texts _ f.unquoted]
  rfl

theorem result_dependencies :
    f.result.failureKind = some .dependencyMissing ∧
      f.result.dependenciesAffected = f.moduleNames := by
  have hkind : f.result.failureKind = some .dependencyMissing := by
    change (if f.code = 0 then none else FailureKind.classify f.stderr) = _
    rw [if_neg f.failed, f.classify_stderr]
  refine ⟨hkind, ?_⟩
  change (if f.result.failureKind = some .dependencyMissing then missingModules f.stderr
    else []) = _
  rw [if_pos hkind, f.missingModules_stderr]

/-- The names of the modules that an error output reports as missing are found in their order,
each as often as it is reported; a diagnosis of such failures tells all of these names, each
of them once and in ascending order. -/
theorem diagnosis_tells_moduleNames (now : Instant) (failures : List ModuleFailure) :
    (∀ f : ModuleFailure, f.result.failureKind = some .dependencyMissing ∧
      f.result.dependenciesAffected = f.moduleNames) ∧
    let affected := (Diagnosis.ofFailures now (failures.map result)).dependencyImpact.affected
    affected.Pairwise (· < ·) ∧
      ∀ name, name ∈ affected ↔ ∃ f ∈ failures, name ∈ f.moduleNames := by
  refine ⟨result_dependencies, pairwise_ascending _, ?_⟩
  intro name
  change name ∈ ascending ((failures.map result).flatMap CommandResult.dependenciesAffected) ↔ _
  rw [mem_ascending, List.mem_flatMap]
  constructor
  · rintro ⟨r, hr, hname⟩
    obtain ⟨f, hf, rfl⟩ := List.mem_map.mp hr
    exact ⟨f, hf, f.result_dependencies.2 ▸ hname⟩
  · rintro ⟨f, hf, hname⟩
    exact ⟨f.result, List.mem_map_of_mem hf, f.result_dependencies.2.symm ▸ hname⟩

/-- A test run that misses two modules, the second of them twice. -/
def testRun : ModuleFailure :=
  let leftPad : ModuleReport :=
    ⟨"Cannot find module ".toList, '\'', "left-pad".toList, '\'', " in a.js, ".toList,
      by decide, by decide, by decide, by decide, by decide, by decide⟩
  let chalk : ModuleReport :=
    ⟨"cannot find MODULE ".toList, '"', "chalk".toList, '\'', "\n".toList,
      by decide, by decide, by decide, by decide, by decide, by decide⟩
  { command := "npm test"
    code := 1
    stdout := ""
    seconds := 0
    lead := "Error: ".toList
    reports := [leftPad, chalk, chalk]
    failed := by decide
    unquoted := by decide
    reported := List.cons_ne_nil _ _ }

theorem diagnosis_tells_testRun :
    testRun.result.dependenciesAffected = ["left-pad", "chalk", "chalk"] ∧
      "chalk" ∈ (Diagnosis.ofFailures ⟨0, 0⟩ [testRun.result]).dependencyImpact.affected := by
  obtain ⟨hresult, -, haffected⟩ := diagnosis_tells_moduleNames ⟨0, 0⟩ [testRun]
  refine ⟨(hresult testRun).2.trans (by decide), ?_⟩
  exact (haffected "chalk").mpr ⟨testRun, List.mem_singleton_self _, by decide⟩

end ModuleFailure

end ScaffoldRunner
