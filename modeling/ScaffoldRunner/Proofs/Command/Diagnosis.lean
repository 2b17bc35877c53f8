import Mathlib
import ScaffoldRunner.Proofs.Command.Failures
import ScaffoldRunner.Proofs.Text.Search

/-!
# What a diagnosis tells

A diagnosis accounts for the failures that it was made from: every failure stands in one
category, either among those that block or among those that do not, and the things to do
follow from the failures in the order of their urgency.

The commands that a commit hook has run are read from the output of the commit: a call of a
script is found wherever it stands, unless it begins inside another one that was found.
-/

namespace ScaffoldRunner

/-! ## Categories -/

/-- An item that is added under a name is added to the items under all names. -/
theorem Dict.Sorted.flatten_values_modify {α : Type} {d : Dict (List α)} (hd : d.Sorted)
    (key : String) (a : α) :
    (d.modify key [] (· ++ [a])).values.flatten.Perm (a :: d.values.flatten) := by
  induction d with
  | nil => exact List.Perm.refl _
  | cons entry d ih =>
      obtain ⟨hhead, htail⟩ := List.pairwise_cons.mp hd
      rw [Dict.modify, Dict.get?_cons, Dict.insert]
      by_cases hlt : key < entry.1
      · have hnone : Dict.get? d key = none := by
          refine Option.eq_none_iff_forall_not_mem.mpr fun value hvalue => ?_
          exact String.lt_asymm hlt (hhead _ (Dict.mem_of_get? hvalue))
        rw [if_pos hlt, if_neg (String.ne_of_lt hlt), hnone]
        exact List.Perm.refl _
      · rw [if_neg hlt]
        by_cases hkey : key = entry.1
        · rw [if_pos hkey, if_pos hkey]
          change ((entry.2 ++ [a]) ++ (Dict.values d).flatten).Perm
            (a :: (entry.2 ++ (Dict.values d).flatten))
          rw [List.append_assoc]
          exact List.perm_middle
        · rw [if_neg hkey, if_neg hkey]
          exact ((ih htail).append_left entry.2).trans List.perm_middle

namespace Diagnosis

variable (failed : List CommandResult) {categories : Dict (List CategoryEntry)}

theorem sorted_foldl_categorize (h : categories.Sorted) :
    (failed.foldl categorize categories).Sorted := by
  induction failed generalizing categories with
  | nil => exact h
  | cons r failed ih => exact ih (Dict.sorted_insert h _ _)

/-- A category holds the failures of its kind in their order. -/
theorem get?_foldl_categorize (categories : Dict (List CategoryEntry)) (label : String) :
    ((failed.foldl categorize categories).get? label).getD [] =
      (categories.get? label).getD [] ++
        (failed.filter fun r => r.label = label).map CategoryEntry.ofResult := by
  induction failed generalizing categories with
  | nil => simp
  | cons r failed ih =>
      rw [List.foldl_cons, ih, categorize, Dict.modify, Dict.get?_insert]
      by_cases hlabel : label = r.label
      · subst hlabel
        simp
      · simp [hlabel, Ne.symm hlabel]

theorem flatten_foldl_categorize (h : categories.Sorted) :
    (failed.foldl categorize categories).values.flatten.Perm
      (categories.values.flatten ++ failed.map CategoryEntry.ofResult) := by
  induction failed generalizing categories with
  | nil => simp
  | cons r failed ih =>
      have hstep := h.flatten_values_modify r.label (CategoryEntry.ofResult r)
      refine (ih (Dict.sorted_insert h _ _)).trans ?_
      exact (hstep.append_right _).trans List.perm_middle.symm

/-- A category is opened for a failure only. -/
theorem ne_nil_of_mem_foldl_categorize (h : ∀ entry ∈ categories, entry.2 ≠ []) :
    ∀ entry ∈ failed.foldl categorize categories, entry.2 ≠ [] := by
  induction failed generalizing categories with
  | nil => exact h
  | cons r failed ih =>
      apply ih
      intro entry hentry
      rcases Dict.eq_or_mem_of_mem_insert hentry with rfl | hold
      · exact List.append_ne_nil_of_right_ne_nil _ (List.cons_ne_nil _ _)
      · exact h entry hold

end Diagnosis

/-! ## Tools and blockers -/

namespace CommandResult

/-- A failure of a command that only looks after the quality of the code. -/
def IsTidying (r : CommandResult) : Prop :=
  "npm run".toList <+: r.command.toList ∨ "eslint".toList <:+: r.command.toList ∨
    "prettier".toList <:+: r.command.toList

theorem isQualityTool_eq_true_iff (r : CommandResult) :
    OrphanAnalysis.isQualityTool r.command = true ↔ r.IsTidying := by
  have hfront : (Text.afterPrefix? "npm run".toList r.command.toList).isSome = true ↔
      "npm run".toList <+: r.command.toList := by
    rw [Option.isSome_iff_exists]
    simp only [Text.afterPrefix?_eq_some_iff]
    exact exists_congr fun _ => eq_comm
  rw [OrphanAnalysis.isQualityTool, Bool.or_eq_true, Bool.or_eq_true, hfront,
    Text.contains_eq_true_iff_infix, Text.contains_eq_true_iff_infix, or_assoc]
  rfl

instance (r : CommandResult) : Decidable r.IsTidying :=
  decidable_of_iff _ r.isQualityTool_eq_true_iff

end CommandResult

/-- Some failures are split into those that do not block and those that do. -/
structure OrphanAnalysis.Splits (a : OrphanAnalysis) (failed : List CommandResult) : Prop where
  orphans : a.orphans = (failed.filter fun r => r.IsTidying).map orphanEntry
  blockers : a.blockers = (failed.filter fun r => ¬r.IsTidying).map blockerEntry
  orphanCount : a.toJson.get? "orphan_count" = some (.nat a.orphans.length)
  blockerCount : a.toJson.get? "blocker_count" = some (.nat a.blockers.length)
  total : a.orphans.length + a.blockers.length = failed.length

theorem OrphanAnalysis.splits_ofFailures (failed : List CommandResult) :
    (ofFailures failed).Splits failed := by
  have hquality : (fun r : CommandResult => isQualityTool r.command) =
      fun r => decide r.IsTidying := by
    funext r
    rw [← Bool.coe_iff_coe, decide_eq_true_iff]
    exact r.isQualityTool_eq_true_iff
  have horphans : (ofFailures failed).orphans =
      (failed.filter fun r => r.IsTidying).map orphanEntry := by
    rw [ofFailures, hquality]
  have hblockers : (ofFailures failed).blockers =
      (failed.filter fun r => ¬r.IsTidying).map blockerEntry := by
    have hnot : (fun r : CommandResult => !isQualityTool r.command) =
        fun r => decide ¬r.IsTidying := by
      funext r
      rw [congrFun hquality r, decide_not]
    rw [ofFailures, hnot]
  constructor
  case orphans => exact horphans
  case blockers => exact hblockers
  case orphanCount | blockerCount => rfl
  case total =>
    have hlength := List.length_eq_countP_add_countP (fun r => decide r.IsTidying) (l := failed)
    rw [horphans, hblockers, List.length_map, List.length_map, ← List.countP_eq_length_filter,
      ← List.countP_eq_length_filter, hlength]
    simp

/-! ## Dependencies -/

/-- The missing dependencies of some failures are gathered. -/
structure DependencyImpact.Gathers (d : DependencyImpact) (failed : List CommandResult) :
    Prop where
  ascending : d.affected.Pairwise (· < ·)
  affected : ∀ name, name ∈ d.affected ↔ ∃ r ∈ failed, name ∈ r.dependenciesAffected
  totalAffected : d.toJson.get? "total_affected" = some (.nat d.affected.length)
  failures : d.failures = (failed.filter fun r => r.dependenciesAffected ≠ []).map entry

theorem DependencyImpact.gathers_ofFailures (failed : List CommandResult) :
    (ofFailures failed).Gathers failed := by
  constructor
  case ascending => exact pairwise_ascending _
  case affected =>
    intro name
    rw [ofFailures, mem_ascending, List.mem_flatMap]
  case totalAffected => rfl
  case failures =>
    have hsome : (fun r : CommandResult => !r.dependenciesAffected.isEmpty) =
        fun r => decide (r.dependenciesAffected ≠ []) := by
      funext r
      cases r.dependenciesAffected <;> rfl
    rw [ofFailures, hsome]

/-! ## Things to do -/

theorem Severity.isCritical_iff {s : Severity} :
    s.isCritical = true ↔ s = .high ∨ s = .critical := by
  cases s <;> decide

/-- The place of a priority among all of them. -/
def Priority.rank : Priority → Nat
  | high => 0
  | medium => 1
  | low => 2

/-- The things to do come in the order of their urgency: one for each escalated failure,
one if dependencies are missing, one if there are failures that do not block. -/
structure ActionItem.Urges (items : List ActionItem) (failed : List CommandResult)
    (orphans dependencies : Nat) : Prop where
  ordered : items.Pairwise fun i j => i.priority.rank ≤ j.priority.rank
  high : items.filter (fun i => i.priority = .high) =
    (failed.filter fun r => r.severity = .high ∨ r.severity = .critical).map fix
  medium : items.filter (fun i => i.priority = .medium) =
    if 0 < dependencies then [resolve dependencies] else []
  low : items.filter (fun i => i.priority = .low) = if 0 < orphans then [tidy orphans] else []

/-- Things of one priority are all kept, or none of them. -/
theorem ActionItem.filter_priority {items : List ActionItem} {p : Priority}
    (h : ∀ i ∈ items, i.priority = p) (q : Priority) :
    items.filter (fun i => i.priority = q) = if p = q then items else [] := by
  split
  · next hq => exact List.filter_eq_self.mpr fun i hi => by simpa [h i hi] using hq
  · next hq => exact List.filter_eq_nil_iff.mpr fun i hi => by simpa [h i hi] using hq

/-- Things of one priority come in any order. -/
theorem ActionItem.pairwise_rank {items : List ActionItem} {p : Priority}
    (h : ∀ i ∈ items, i.priority = p) :
    items.Pairwise fun i j => i.priority.rank ≤ j.priority.rank := by
  refine List.pairwise_of_forall_mem_list fun i hi j hj => ?_
  rw [h i hi, h j hj]

theorem ActionItem.urges_ofFailures (failed : List CommandResult) (orphans dependencies : Nat) :
    Urges (ofFailures failed orphans dependencies) failed orphans dependencies := by
  have hcritical : (fun r : CommandResult => r.severity.isCritical) =
      fun r => decide (r.severity = .high ∨ r.severity = .critical) := by
    funext r
    rw [← Bool.coe_iff_coe, decide_eq_true_iff]
    exact Severity.isCritical_iff
  let fixes := (failed.filter fun r => r.severity = .high ∨ r.severity = .critical).map fix
  let resolves := if 0 < dependencies then [resolve dependencies] else []
  let tidies := if 0 < orphans then [tidy orphans] else []
  have hitems : ofFailures failed orphans dependencies = fixes ++ resolves ++ tidies := by
    rw [ofFailures, hcritical]
  have hfixes : ∀ i ∈ fixes, i.priority = .high := by
    intro i hi
    obtain ⟨r, -, rfl⟩ := List.mem_map.mp hi
    rfl
  have hresolves : ∀ i ∈ resolves, i.priority = .medium := by
    intro i hi
    obtain ⟨-, rfl⟩ : 0 < dependencies ∧ i = resolve dependencies := by simpa [resolves] using hi
    rfl
  have htidies : ∀ i ∈ tidies, i.priority = .low := by
    intro i hi
    obtain ⟨-, rfl⟩ : 0 < orphans ∧ i = tidy orphans := by simpa [tidies] using hi
    rfl
  have hkept (p : Priority) : (fixes ++ resolves ++ tidies).filter (fun i => i.priority = p) =
      (if .high = p then fixes else []) ++ (if .medium = p then resolves else []) ++
        (if .low = p then tidies else []) := by
    rw [List.filter_append, List.filter_append, filter_priority hfixes,
      filter_priority hresolves, filter_priority htidies]
  rw [hitems]
  constructor
  case ordered =>
    refine List.pairwise_append.mpr ⟨List.pairwise_append.mpr
      ⟨pairwise_rank hfixes, pairwise_rank hresolves, ?_⟩, pairwise_rank htidies, ?_⟩
    · intro i hi j hj
      rw [hfixes i hi, hresolves j hj]
      decide
    · intro i hi j hj
      rw [htidies j hj]
      cases i.priority <;> decide
  case high => simpa [fixes] using hkept .high
  case medium => simpa [resolves] using hkept .medium
  case low => simpa [tidies] using hkept .low

/-! ## The account -/

/-- A diagnosis accounts for some failures: none is lost and none is told of twice. -/
structure Diagnosis.Accounts (d : Diagnosis) (failed : List CommandResult) : Prop where
  total : d.totalFailures = failed.length
  sorted : d.categories.Sorted
  occupied : ∀ entry ∈ d.categories, entry.2 ≠ []
  category : ∀ label, (d.categories.get? label).getD [] =
    (failed.filter fun r => r.label = label).map CategoryEntry.ofResult
  categorized : d.categories.values.flatten.Perm (failed.map CategoryEntry.ofResult)
  orphanAnalysis : d.orphanAnalysis.Splits failed
  dependencyImpact : d.dependencyImpact.Gathers failed
  actionItems : ActionItem.Urges d.actionItems failed d.orphanAnalysis.orphans.length
    d.dependencyImpact.affected.length

theorem Diagnosis.accounts_ofFailures (now : Instant) (failed : List CommandResult) :
    (ofFailures now failed).Accounts failed := by
  constructor
  case total => rfl
  case sorted => exact sorted_foldl_categorize failed List.Pairwise.nil
  case occupied =>
    exact ne_nil_of_mem_foldl_categorize failed fun _ hentry => absurd hentry List.not_mem_nil
  case category => exact get?_foldl_categorize failed []
  case categorized => exact flatten_foldl_categorize failed List.Pairwise.nil
  case orphanAnalysis => exact OrphanAnalysis.splits_ofFailures failed
  case dependencyImpact => exact DependencyImpact.gathers_ofFailures failed
  case actionItems => exact ActionItem.urges_ofFailures failed _ _

/-! ## Calls of scripts -/

namespace CommitFailure

variable {cs : List Char}

/-- A place in a text where a script is called; the name goes on as far as it can. -/
structure ScriptCall where
  before : List Char
  name : List Char
  after : List Char
  named : name ≠ []
  isName : ∀ c ∈ name, isScriptChar c = true
  ends : ∀ c ∈ after.head?, isScriptChar c = false

namespace ScriptCall

/-- The words in front of the name of a script. -/
def opening : List Char := "npm run ".toList

/-- The text with the call at its place. -/
def text (call : ScriptCall) : List Char :=
  call.before ++ (opening ++ (call.name ++ call.after))

/-- The command that the call gives. -/
def command (call : ScriptCall) : String := "npm run " ++ String.ofList call.name

/-- Where the call begins. -/
def start (call : ScriptCall) : Nat := call.before.length

/-- Where the call ends. -/
def stop (call : ScriptCall) : Nat := call.start + opening.length + call.name.length

/-- The same call behind some more text. -/
def behind (front : List Char) (call : ScriptCall) : ScriptCall :=
  { call with before := front ++ call.before }

variable (front : List Char) (call : ScriptCall)

@[simp] theorem text_behind : (call.behind front).text = front ++ call.text :=
  List.append_assoc ..

@[simp] theorem start_behind : (call.behind front).start = front.length + call.start :=
  List.length_append

@[simp] theorem stop_behind : (call.behind front).stop = front.length + call.stop := by
  rw [stop, start_behind, stop, Nat.add_assoc, Nat.add_assoc, Nat.add_assoc]
  rfl

variable {front call} {other : ScriptCall}

/-- At one place of a text one script is called. -/
theorem eq_of_start_eq (htext : call.text = other.text) (hstart : call.start = other.start) :
    call = other := by
  obtain ⟨hbefore, hrest⟩ := List.append_inj htext hstart
  have hcut := List.append_cancel_left hrest
  have hname : call.name = other.name := by
    rw [← Text.takeWhile_append_of_head? call.isName call.ends, hcut,
      Text.takeWhile_append_of_head? other.isName other.ends]
  have hafter : call.after = other.after := by
    rw [hname] at hcut
    exact List.append_cancel_left hcut
  cases call
  cases other
  simp_all

/-- A call that begins behind some text is a call in the rest. -/
theorem exists_eq_behind (htext : call.text = front ++ cs) (hstart : front.length ≤ call.start) :
    ∃ inner : ScriptCall, inner.text = cs ∧ call = inner.behind front := by
  have hfront : front <+: call.before :=
    List.prefix_of_prefix_length_le (htext ▸ List.prefix_append front cs)
      (List.prefix_append call.before _) hstart
  obtain ⟨before, hbefore⟩ := hfront
  refine ⟨{ call with before := before }, ?_, ?_⟩
  · rw [text, ← hbefore, List.append_assoc] at htext
    exact List.append_cancel_left htext
  · rw [behind, hbefore]

end ScriptCall

theorem scriptCallAt?_eq_some_iff {command : String} {rest : List Char} :
    scriptCallAt? cs = some (command, rest) ↔
      ∃ call : ScriptCall, call.text = cs ∧ call.start = 0 ∧ call.command = command ∧
        call.after = rest := by
  rw [scriptCallAt?]
  constructor
  · intro h
    obtain ⟨named, hnamed, hhere⟩ := Option.bind_eq_some_iff.mp h
    obtain rfl := Text.afterPrefix?_eq_some_iff.mp hnamed
    split at hhere
    · cases hhere
    · next hname =>
        obtain ⟨rfl, rfl⟩ := Prod.mk.inj (Option.some.inj hhere)
        refine ⟨⟨[], named.takeWhile isScriptChar, named.dropWhile isScriptChar, hname,
          fun c hc => List.mem_takeWhile_imp hc, Text.head?_dropWhile_eq_false named⟩, ?_, rfl,
          rfl, rfl⟩
        rw [ScriptCall.text]
        dsimp only
        rw [List.takeWhile_append_dropWhile]
        rfl
  · rintro ⟨call, rfl, hstart, rfl, rfl⟩
    have hbefore : call.before = [] := List.length_eq_zero_iff.mp hstart
    have hfront : Text.afterPrefix? "npm run ".toList call.text = some (call.name ++ call.after) :=
      Text.afterPrefix?_eq_some_iff.mpr (by rw [ScriptCall.text, hbefore]; rfl)
    rw [hfront, Option.bind_eq_bind, Option.bind_some,
      Text.takeWhile_append_of_head? call.isName call.ends,
      Text.dropWhile_append_of_head? call.isName call.ends]
    split
    · next hname => exact absurd hname call.named
    · rfl

theorem consumes_scriptCallAt? : Text.Consumes scriptCallAt? := by
  intro cs command rest h
  obtain ⟨call, rfl, hstart, -, rfl⟩ := scriptCallAt?_eq_some_iff.mp h
  have hbefore : call.before = [] := List.length_eq_zero_iff.mp hstart
  refine ⟨ScriptCall.opening ++ call.name, ?_, ?_⟩
  · exact List.append_ne_nil_of_right_ne_nil _ call.named
  · rw [ScriptCall.text, hbefore, List.nil_append, List.append_assoc]

/-- The calls that are read in a text, from left to right: each begins behind the one
before, and a call that is not read begins inside one that is. -/
structure ReadsCalls (cs : List Char) (calls : List ScriptCall) : Prop where
  placed : ∀ call ∈ calls, call.text = cs
  apart : calls.Pairwise fun call next => call.stop ≤ next.start
  complete : ∀ call : ScriptCall, call.text = cs →
    call ∈ calls ∨ ∃ read ∈ calls, read.start < call.start ∧ call.start < read.stop

/-- What is read in a text is read behind another one too. -/
theorem ReadsCalls.append {front : List Char} {first calls : List ScriptCall}
    (hplaced : ∀ call ∈ first, call.text = front ++ cs)
    (hapart : first.Pairwise fun call next => call.stop ≤ next.start)
    (hends : ∀ call ∈ first, call.stop ≤ front.length)
    (hcomplete : ∀ call : ScriptCall, call.text = front ++ cs → call.start < front.length →
      call ∈ first ∨ ∃ read ∈ first, read.start < call.start ∧ call.start < read.stop)
    (h : ReadsCalls cs calls) :
    ReadsCalls (front ++ cs) (first ++ calls.map (ScriptCall.behind front)) := by
  constructor
  case placed =>
    intro call hcall
    rcases List.mem_append.mp hcall with hcall | hcall
    · exact hplaced call hcall
    · obtain ⟨inner, hinner, rfl⟩ := List.mem_map.mp hcall
      rw [ScriptCall.text_behind, h.placed inner hinner]
  case apart =>
    refine List.pairwise_append.mpr ⟨hapart, List.pairwise_map.mpr ?_, ?_⟩
    · refine h.apart.imp fun hle => ?_
      rw [ScriptCall.stop_behind, ScriptCall.start_behind]
      omega
    · intro call hcall next hnext
      obtain ⟨inner, -, rfl⟩ := List.mem_map.mp hnext
      have hle := hends call hcall
      rw [ScriptCall.start_behind]
      omega
  case complete =>
    intro call htext
    by_cases hstart : call.start < front.length
    · rcases hcomplete call htext hstart with hcall | ⟨read, hread, hinside⟩
      · exact .inl (List.mem_append_left _ hcall)
      · exact .inr ⟨read, List.mem_append_left _ hread, hinside⟩
    · obtain ⟨inner, hinner, rfl⟩ :=
        ScriptCall.exists_eq_behind htext (Nat.le_of_not_lt hstart)
      rcases h.complete inner hinner with hcall | ⟨read, hread, hinside⟩
      · exact .inl (List.mem_append_right _ (List.mem_map_of_mem hcall))
      · refine .inr ⟨read.behind front, List.mem_append_right _ (List.mem_map_of_mem hread), ?_⟩
        rw [ScriptCall.start_behind, ScriptCall.start_behind, ScriptCall.stop_behind]
        omega

theorem readsCalls_nil : ReadsCalls [] [] := by
  refine ⟨fun call hcall => absurd hcall List.not_mem_nil, List.Pairwise.nil, ?_⟩
  intro call htext
  have hne : call.text ≠ [] :=
    List.append_ne_nil_of_right_ne_nil _ (List.append_ne_nil_of_left_ne_nil (by decide) _)
  exact absurd htext hne

/-- A call at the front of a text is read before the calls behind it. -/
theorem ReadsCalls.found {call : ScriptCall} {calls : List ScriptCall} (hstart : call.start = 0)
    (h : ReadsCalls call.after calls) :
    ReadsCalls call.text
      ([call] ++ calls.map (ScriptCall.behind (ScriptCall.opening ++ call.name))) := by
  have hbefore : call.before = [] := List.length_eq_zero_iff.mp hstart
  have htext : call.text = (ScriptCall.opening ++ call.name) ++ call.after := by
    rw [ScriptCall.text, hbefore, List.nil_append, List.append_assoc]
  have hstop : call.stop = (ScriptCall.opening ++ call.name).length := by
    rw [ScriptCall.stop, hstart, Nat.zero_add, List.length_append]
  rw [htext]
  refine h.append ?_ (List.pairwise_singleton _ call) ?_ ?_
  · simpa using htext
  · simp [hstop]
  · -- A call that begins behind the start of this one begins inside it.
    intro other hother hlt
    by_cases hsame : other.start = 0
    · have heq : other = call :=
        ScriptCall.eq_of_start_eq (hother.trans htext.symm) (hsame.trans hstart.symm)
      exact .inl (List.mem_singleton.mpr heq)
    · refine .inr ⟨call, List.mem_singleton_self call, ?_⟩
      omega

/-- Where no call begins, the calls are read one character later. -/
theorem ReadsCalls.passed {c : Char} {calls : List ScriptCall}
    (hnone : scriptCallAt? (c :: cs) = none) (h : ReadsCalls cs calls) :
    ReadsCalls (c :: cs) (calls.map (ScriptCall.behind [c])) := by
  have hlater : ∀ call : ScriptCall, call.text = [c] ++ cs → ¬call.start < 1 := by
    intro call htext hlt
    have hstart : call.start = 0 := Nat.lt_one_iff.mp hlt
    have hhere : scriptCallAt? (c :: cs) = some (call.command, call.after) :=
      scriptCallAt?_eq_some_iff.mpr ⟨call, htext, hstart, rfl, rfl⟩
    rw [hnone] at hhere
    cases hhere
  exact ReadsCalls.append (fun call hcall => absurd hcall List.not_mem_nil) List.Pairwise.nil
    (fun call hcall => absurd hcall List.not_mem_nil)
    (fun call htext hlt => absurd hlt (hlater call htext)) h

/-- The search finds the commands of the calls that are read. -/
theorem exists_readsCalls (cs : List Char) :
    ∃ calls, ReadsCalls cs calls ∧
      Text.findAll scriptCallAt? cs = calls.map ScriptCall.command := by
  induction cs using Text.findAll_induction consumes_scriptCallAt? with
  | nil => exact ⟨[], readsCalls_nil, Text.findAll_nil⟩
  | found h ih =>
      obtain ⟨calls, hcalls, hfound⟩ := ih
      obtain ⟨call, rfl, hstart, rfl, rfl⟩ := scriptCallAt?_eq_some_iff.mp h
      refine ⟨_, hcalls.found hstart, ?_⟩
      rw [Text.findAll_of_some consumes_scriptCallAt? h, hfound, List.map_append, List.map_map]
      rfl
  | passed h ih =>
      obtain ⟨calls, hcalls, hfound⟩ := ih
      refine ⟨_, hcalls.passed h, ?_⟩
      rw [Text.findAll_of_none h, hfound, List.map_map]
      rfl

/-! ## Commit hooks -/

theorem scriptCallAt?_append_lineFeed (front back : List Char) :
    scriptCallAt? (front ++ '\n' :: back) =
      (scriptCallAt? front).map fun found => (found.1, found.2 ++ '\n' :: back) := by
  have hfeed : isScriptChar '\n' = false := by decide
  rw [scriptCallAt?, scriptCallAt?, Text.afterPrefix?_append_cons (by decide)]
  cases Text.afterPrefix? "npm run ".toList front with
  | none => rfl
  | some named =>
      rw [Option.map_some, Option.bind_eq_bind, Option.bind_some, Option.bind_some,
        Text.takeWhile_append_cons hfeed, Text.dropWhile_append_cons hfeed]
      split <;> rfl

end CommitFailure

/-- One of the outputs of a command mentions a word, in any letter case. -/
def CommandResult.Mentions (r : CommandResult) (word : String) : Prop :=
  word.toList <:+: Text.lower r.stderr.toList ∨ word.toList <:+: Text.lower r.stdout.toList

instance (r : CommandResult) (word : String) : Decidable (r.Mentions word) :=
  inferInstanceAs (Decidable (_ ∨ _))

/-- The tools that a commit hook has run, as far as the outputs mention them. -/
def CommandResult.hookTools (r : CommandResult) : List String :=
  (if r.Mentions "eslint" then ["eslint --fix"] else []) ++
    (if r.Mentions "prettier" then ["prettier --write"] else [])

namespace CommitFailure

variable (r : CommandResult)

/-- The outputs of a commit in lower case, the errors first. -/
def loweredOutput : List Char := Text.lower (r.stderr.toList ++ '\n' :: r.stdout.toList)

theorem loweredOutput_eq :
    loweredOutput r = Text.lower r.stderr.toList ++ '\n' :: Text.lower r.stdout.toList :=
  Text.lower_append ..

theorem contains_loweredOutput (word : String) (hne : word.toList ≠ [])
    (hfeed : '\n' ∉ word.toList) :
    Text.contains word.toList (loweredOutput r) = true ↔ r.Mentions word := by
  rw [loweredOutput_eq, Text.contains_append_cons hne hfeed, Bool.or_eq_true,
    Text.contains_eq_true_iff_infix, Text.contains_eq_true_iff_infix]
  rfl

theorem command_notMem_hookTools (call : ScriptCall) : call.command ∉ r.hookTools := by
  have hhead : call.command.toList.head? = some 'n' := by
    rw [ScriptCall.command, String.toList_append]
    rfl
  intro hmem
  have htools : call.command = "eslint --fix" ∨ call.command = "prettier --write" := by
    rw [CommandResult.hookTools, List.mem_append] at hmem
    rcases hmem with hmem | hmem
    · split at hmem
      · exact .inl (List.mem_singleton.mp hmem)
      · exact absurd hmem List.not_mem_nil
    · split at hmem
      · exact .inr (List.mem_singleton.mp hmem)
      · exact absurd hmem List.not_mem_nil
  rcases htools with htool | htool
  · rw [htool] at hhead
    exact absurd hhead (by decide)
  · rw [htool] at hhead
    exact absurd hhead (by decide)

theorem distinct_hookTools : distinct r.hookTools = r.hookTools := by
  rw [CommandResult.hookTools]
  split <;> split <;> decide

theorem hookCommands_loweredOutput {errorCalls outputCalls : List ScriptCall}
    (herrors : Text.findAll scriptCallAt? (Text.lower r.stderr.toList) =
      errorCalls.map ScriptCall.command)
    (houtput : Text.findAll scriptCallAt? (Text.lower r.stdout.toList) =
      outputCalls.map ScriptCall.command) :
    hookCommands (loweredOutput r) =
      r.hookTools ++ ((errorCalls ++ outputCalls).map ScriptCall.command).eraseDups := by
  have hfound : Text.findAll scriptCallAt? (loweredOutput r) =
      (errorCalls ++ outputCalls).map ScriptCall.command := by
    rw [loweredOutput_eq, Text.findAll_append_cons consumes_scriptCallAt?
      (fun front => scriptCallAt?_append_lineFeed front _), herrors, houtput, List.map_append]
  have hnew : ∀ command ∈ (errorCalls ++ outputCalls).map ScriptCall.command,
      (!r.hookTools.contains command) = true := by
    intro command hcommand
    obtain ⟨call, -, rfl⟩ := List.mem_map.mp hcommand
    simpa using command_notMem_hookTools r call
  rw [hookCommands, hfound, distinct, distinctOnto_append, ← distinct]
  simp only [contains_loweredOutput r "eslint" (by decide) (by decide),
    contains_loweredOutput r "prettier" (by decide) (by decide)]
  change distinctOnto (distinct r.hookTools) _ = _
  rw [distinct_hookTools, distinctOnto_eq, List.filter_eq_self.mpr hnew]

/-- A commit whose output mentions a hook is taken to be stopped by it. -/
theorem ofResult_of_mentions
    (h : r.Mentions "husky" ∨ r.Mentions "lint-staged" ∨ r.Mentions "pre-commit") :
    (ofResult r).kind = .preCommitHook ∧
      (ofResult r).failedCommands = hookCommands (loweredOutput r) := by
  have hplain : ∀ mark ∈ ["husky", "lint-staged", "pre-commit"],
      mark.toList ≠ [] ∧ '\n' ∉ mark.toList := by
    decide
  have hmarks : (["husky", "lint-staged", "pre-commit"].any fun mark =>
      Text.contains mark.toList (loweredOutput r)) = true := by
    obtain ⟨mark, hmark, hmentions⟩ :
        ∃ mark ∈ ["husky", "lint-staged", "pre-commit"], r.Mentions mark := by
      simpa using h
    obtain ⟨hne, hfeed⟩ := hplain mark hmark
    have hcontains := (contains_loweredOutput r mark hne hfeed).mpr hmentions
    exact List.any_eq_true.mpr ⟨mark, hmark, hcontains⟩
  have hresult : ofResult r = ⟨.preCommitHook, hookCommands (loweredOutput r), _⟩ :=
    if_pos hmarks
  exact ⟨congrArg kind hresult, congrArg failedCommands hresult⟩

/-! ## Names in lower case -/

theorem lowerChar_of_isScriptChar {c : Char} (h : isScriptChar c = true) :
    Text.lowerChar c = [c.toLower] ∧ isScriptChar c.toLower = true := by
  have hkelvin : c ≠ '\u212A' := by rintro rfl; revert h; decide
  have hdotted : c ≠ '\u0130' := by rintro rfl; revert h; decide
  refine ⟨by rw [Text.lowerChar, if_neg hkelvin, if_neg hdotted], ?_⟩
  rcases Bool.or_eq_true_iff.mp h with halnum | hdash
  · have hlower : c.toLower.isAlphanum = true := by
      by_cases hupper : c.isUpper = true
      · have halpha : c.isAlpha = true := Bool.or_eq_true_iff.mpr (.inl hupper)
        exact Bool.or_eq_true_iff.mpr (.inl (c.isAlpha_toLower_eq_isAlpha.trans halpha))
      · rw [Char.toLower_eq_of_not_isUpper hupper]
        exact halnum
    rw [isScriptChar, hlower, Bool.true_or]
  · obtain rfl := of_decide_eq_true hdash
    decide

theorem lowerChar_of_not_isScriptChar {c : Char} (h : isScriptChar c = false)
    (hkelvin : c ≠ '\u212A') (hdotted : c ≠ '\u0130') : Text.lowerChar c = [c] := by
  have halnum : c.isAlphanum = false := (Bool.or_eq_false_iff.mp h).1
  have halpha : c.isAlpha = false := (Bool.or_eq_false_iff.mp halnum).1
  have hupper : c.isUpper = false := (Bool.or_eq_false_iff.mp halpha).1
  have hsame : c.toLower = c := Char.toLower_eq_of_not_isUpper (Bool.eq_false_iff.mp hupper)
  rw [Text.lowerChar, if_neg hkelvin, if_neg hdotted, hsame]

theorem lower_scriptName {name : List Char} (h : ∀ c ∈ name, isScriptChar c = true) :
    Text.lower name = name.map Char.toLower := by
  rw [Text.lower, List.map_eq_flatMap]
  exact List.flatMap_congr fun c hc => (lowerChar_of_isScriptChar (h c hc)).1

/-- What follows a call does not become a part of the name in lower case: two characters
outside ASCII do. -/
def ScriptCall.EndsPlainly (call : ScriptCall) : Prop :=
  ∀ c ∈ call.after.head?, c ≠ '\u212A' ∧ c ≠ '\u0130'

/-- In lower case a call is a call of the name in lower case. -/
theorem ScriptCall.exists_lowered (call : ScriptCall) (h : call.EndsPlainly) :
    ∃ lowered : ScriptCall, lowered.text = Text.lower call.text ∧
      lowered.start = (Text.lower call.before).length ∧
      lowered.command = "npm run " ++ String.ofList (Text.lower call.name) := by
  have hname := lower_scriptName call.isName
  refine ⟨⟨Text.lower call.before, Text.lower call.name, Text.lower call.after, ?_, ?_, ?_⟩, ?_,
    rfl, rfl⟩
  · rw [hname]
    simpa using call.named
  · intro c hc
    rw [hname] at hc
    obtain ⟨d, hd, rfl⟩ := List.mem_map.mp hc
    exact (lowerChar_of_isScriptChar (call.isName d hd)).2
  · intro c hc
    cases hafter : call.after with
    | nil => simp [hafter, Text.lower] at hc
    | cons d after =>
        have hd : d ∈ call.after.head? := by rw [hafter]; rfl
        have hsame := lowerChar_of_not_isScriptChar (call.ends d hd) (h d hd).1 (h d hd).2
        rw [hafter, Text.lower, List.flatMap_cons, hsame] at hc
        obtain rfl := Option.some.inj hc
        exact call.ends d hd
  · have hopening : Text.lower opening = opening := by decide
    rw [text, text, Text.lower_append, Text.lower_append, Text.lower_append, hopening]

/-! ## Failed commands -/

/-- After a commit that a hook has stopped the failed commands are the tools that the
outputs mention, and then the calls of scripts in the outputs, read in lower case, each
of them once.  A call that is printed gives its name in lower case, unless it begins
inside another one. -/
theorem failedCommands_ofResult (r : CommandResult)
    (h : r.Mentions "husky" ∨ r.Mentions "lint-staged" ∨ r.Mentions "pre-commit") :
    (ofResult r).kind = .preCommitHook ∧
    (ofResult r).failedCommands.Nodup ∧
    (∃ errorCalls outputCalls,
      ReadsCalls (Text.lower r.stderr.toList) errorCalls ∧
      ReadsCalls (Text.lower r.stdout.toList) outputCalls ∧
      (ofResult r).failedCommands =
        r.hookTools ++ ((errorCalls ++ outputCalls).map ScriptCall.command).eraseDups) ∧
    ∀ call : ScriptCall, call.EndsPlainly →
      (call.text = r.stderr.toList ∨ call.text = r.stdout.toList) →
      "npm run " ++ String.ofList (Text.lower call.name) ∈ (ofResult r).failedCommands ∨
        ∃ outer : ScriptCall, outer.text = Text.lower call.text ∧
          outer.start < (Text.lower call.before).length ∧
          (Text.lower call.before).length < outer.stop := by
  obtain ⟨hkind, hfailed⟩ := ofResult_of_mentions r h
  obtain ⟨errorCalls, herrors, herrorsFound⟩ := exists_readsCalls (Text.lower r.stderr.toList)
  obtain ⟨outputCalls, houtput, houtputFound⟩ := exists_readsCalls (Text.lower r.stdout.toList)
  have hcommands : (ofResult r).failedCommands =
      r.hookTools ++ ((errorCalls ++ outputCalls).map ScriptCall.command).eraseDups :=
    hfailed.trans (hookCommands_loweredOutput r herrorsFound houtputFound)
  refine ⟨hkind, ?_, ⟨errorCalls, outputCalls, herrors, houtput, hcommands⟩, ?_⟩
  · rw [hfailed]
    exact nodup_distinct _
  · intro call hends htext
    obtain ⟨lowered, hlowered, hstart, hcommand⟩ := call.exists_lowered hends
    have hread : ∃ calls, ReadsCalls (Text.lower call.text) calls ∧
        ∀ read ∈ calls, read.command ∈ (ofResult r).failedCommands := by
      have hlisted : ∀ read ∈ errorCalls ++ outputCalls,
          read.command ∈ (ofResult r).failedCommands := by
        intro read hread
        rw [hcommands, List.mem_append, List.mem_eraseDups]
        exact .inr (List.mem_map_of_mem hread)
      rcases htext with htext | htext
      · exact ⟨errorCalls, htext ▸ herrors,
          fun read hread => hlisted read (List.mem_append_left _ hread)⟩
      · exact ⟨outputCalls, htext ▸ houtput,
          fun read hread => hlisted read (List.mem_append_right _ hread)⟩
    obtain ⟨calls, hcalls, hlisted⟩ := hread
    rcases hcalls.complete lowered hlowered with hmem | ⟨outer, houter, hinside⟩
    · exact .inl (hcommand ▸ hlisted lowered hmem)
    · exact .inr ⟨outer, hcalls.placed outer houter, hstart ▸ hinside⟩

/-- The output of a hook that has run a script with a capital in its name. -/
def hookFailure : CommandResult :=
  ⟨"git commit -m x", 1, "", "husky: npm run lintFix failed", 0, false, none, [], [], .low⟩

def hookCall : ScriptCall where
  before := "husky: ".toList
  name := "lintFix".toList
  after := " failed".toList
  named := by decide
  isName := List.all_eq_true.mp (by decide)
  ends := by
    intro c hc
    obtain rfl := Option.some.inj hc
    decide

theorem failedCommands_hookFailure :
    hookFailure.Mentions "husky" ∧ hookCall.text = hookFailure.stderr.toList ∧
      "npm run lintfix" ∈ (ofResult hookFailure).failedCommands := by
  have hmentions : hookFailure.Mentions "husky" := by decide
  have hplain : hookCall.EndsPlainly := by
    intro c hc
    obtain rfl := Option.some.inj hc
    decide
  obtain ⟨-, -, -, hcalls⟩ := failedCommands_ofResult hookFailure (.inl hmentions)
  refine ⟨hmentions, rfl, ?_⟩
  rcases hcalls hookCall hplain (.inl rfl) with hlisted | ⟨outer, houter, hlt, hstop⟩
  · exact hlisted
  · have hhead : (outer.text.drop outer.start).head? = some 'n' := by
      rw [ScriptCall.text, ScriptCall.start, List.drop_left]
      rfl
    have hnone : ∀ n < 7, ((Text.lower hookCall.text).drop n).head? ≠ some 'n' := by decide
    rw [houter] at hhead
    exact absurd hhead (hnone outer.start hlt)

/-- The script is not named as it is printed. -/
theorem failedCommands_hookFailure_ne :
    hookFailure.Mentions "husky" ∧ hookCall.text = hookFailure.stderr.toList ∧
      hookCall.command = "npm run lintFix" ∧
      (ofResult hookFailure).failedCommands = ["npm run lintfix"] ∧
      hookCall.command ∉ (ofResult hookFailure).failedCommands := by
  decide +kernel

end CommitFailure

end ScaffoldRunner
