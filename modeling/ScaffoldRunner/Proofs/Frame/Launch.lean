import Mathlib.Data.String.Basic
import ScaffoldRunner.Frame.Launch
import ScaffoldRunner.Proofs.Frame.Response
import ScaffoldRunner.Proofs.Run.Replies

/-!
# Attempts with scripts

A script that was started and has ended is judged by its exit code, by what it has printed
and by the criteria of its frame.  The attempt succeeds when all of these are in order, and
otherwise it fails for the first of them that is not.
-/

namespace ScaffoldRunner

/-! ## The order of bytes -/

namespace Text

def utf8Bytes (s : String) : List UInt8 := s.toUTF8.data.toList

theorem utf8Bytes_eq (s : String) : utf8Bytes s = s.toList.flatMap String.utf8EncodeChar := by
  conv_lhs => rw [← String.ofList_toList (s := s)]
  exact List.toList_data_toByteArray

/-- The digits of two numbers to the base 64 are compared from the highest one on. -/
theorem digits_lt {m n : Nat} (h : m < n) (P : Prop) :
    m / 262144 < n / 262144 ∨ m / 262144 = n / 262144 ∧
      (m / 4096 % 64 < n / 4096 % 64 ∨ m / 4096 % 64 = n / 4096 % 64 ∧
        (m / 64 % 64 < n / 64 % 64 ∨ m / 64 % 64 = n / 64 % 64 ∧
          (m % 64 < n % 64 ∨ m % 64 = n % 64 ∧ P))) := by
  by_cases hfirst : m / 262144 < n / 262144
  · exact .inl hfirst
  by_cases hsecond : m / 4096 < n / 4096
  · exact .inr ⟨by omega, .inl (by omega)⟩
  by_cases hthird : m / 64 < n / 64
  · exact .inr ⟨by omega, .inr ⟨by omega, .inl (by omega)⟩⟩
  · exact .inr ⟨by omega, .inr ⟨by omega, .inr ⟨by omega, .inl (by omega)⟩⟩⟩

theorem utf8EncodeChar_append_lt {c d : Char} (h : c < d) (front back : List UInt8) :
    String.utf8EncodeChar c ++ front < String.utf8EncodeChar d ++ back := by
  have hlt : c.val.toNat < d.val.toNat := h
  have hd : d.val.toNat < 1114112 := by
    have hvalid := d.valid
    simp only [UInt32.isValidChar, Nat.isValidChar] at hvalid
    omega
  generalize hm : c.val.toNat = m at hlt
  generalize hn : d.val.toNat = n at hlt hd
  have hdigits := digits_lt hlt (front < back)
  -- A longer code begins with a higher byte.  Codes of one length are marked alike, place by
  -- place, so that their digits are compared.
  unfold String.utf8EncodeChar
  simp only [hm, hn]
  split_ifs
  all_goals
    simp (disch := omega) only [List.cons_append, List.nil_append, List.cons_lt_cons_iff,
      UInt8.lt_iff_toNat_lt, ← UInt8.toNat_inj, UInt8.toNat_ofNat', Nat.mod_eq_of_lt,
      Nat.add_lt_add_iff_right, Nat.add_right_cancel_iff]
  all_goals first | exact hdigits | omega

theorem flatMap_utf8EncodeChar_lt {cs ds : List Char} (h : cs < ds) :
    cs.flatMap String.utf8EncodeChar < ds.flatMap String.utf8EncodeChar := by
  induction h with
  | @nil d ds =>
      cases hd : String.utf8EncodeChar d with
      | nil => exact absurd hd String.utf8EncodeChar_ne_nil
      | cons b bs =>
          rw [List.flatMap_cons, hd]
          exact List.nil_lt_cons _ _
  | rel h => exact utf8EncodeChar_append_lt h _ _
  | cons h ih => exact List.append_left_lt ih

theorem lt_iff_utf8Bytes_lt {s t : String} : s < t ↔ utf8Bytes s < utf8Bytes t := by
  rw [utf8Bytes_eq, utf8Bytes_eq]
  constructor
  · exact fun h => flatMap_utf8EncodeChar_lt h
  · intro h
    rcases lt_trichotomy s t with hst | rfl | hts
    · exact hst
    · exact absurd h (List.lt_irrefl _)
    · exact absurd h (List.lt_asymm (flatMap_utf8EncodeChar_lt hts))

theorem le_iff_utf8Bytes_le {s t : String} : s ≤ t ↔ utf8Bytes s ≤ utf8Bytes t :=
  not_congr lt_iff_utf8Bytes_lt

end Text

/-! ## Criteria -/

section Criteria

variable {o criteria : Members} {key : String} {mismatch : CriteriaMismatch}

/-- A result has an equal value under a key. -/
def Meets (o : Members) (key : String) (expected : Json) : Prop :=
  ∃ actual, o.get? key = some actual ∧ actual.same expected = true

/-- A key under which a result does not have the value that the criteria ask for. -/
def IsUnmet (o criteria : Members) (key : String) : Prop :=
  ∃ expected, criteria.get? key = some expected ∧ ¬Meets o key expected

/-- The first key in the order of bytes whose criterion is not met. -/
structure IsFirstUnmet (o criteria : Members) (key : String) : Prop where
  unmet : IsUnmet o criteria key
  first : ∀ other, IsUnmet o criteria other → Text.utf8Bytes key ≤ Text.utf8Bytes other

/-- What is reported of the criteria that a result does not meet. -/
inductive IsMismatch (o criteria : Members) : CriteriaMismatch → Prop
  | missingKey {key : String} : IsFirstUnmet o criteria key → o.get? key = none →
      IsMismatch o criteria (.missingKey key)
  | valueMismatch {key : String} {expected actual : Json} : IsFirstUnmet o criteria key →
      criteria.get? key = some expected → o.get? key = some actual →
      IsMismatch o criteria (.valueMismatch key expected actual)

theorem IsFirstUnmet.unique {other : String} (h : IsFirstUnmet o criteria key)
    (hother : IsFirstUnmet o criteria other) : key = other :=
  le_antisymm (Text.le_iff_utf8Bytes_le.mpr (h.first other hother.unmet))
    (Text.le_iff_utf8Bytes_le.mpr (hother.first key h.unmet))

theorem IsMismatch.unique {other : CriteriaMismatch} (h : IsMismatch o criteria mismatch)
    (hother : IsMismatch o criteria other) : mismatch = other := by
  cases h with
  | missingKey hfirst hmissing =>
      cases hother with
      | missingKey hfirst' _ => rw [hfirst.unique hfirst']
      | valueMismatch hfirst' _ hactual =>
          rw [← hfirst.unique hfirst', hmissing] at hactual
          cases hactual
  | valueMismatch hfirst hexpected hactual =>
      cases hother with
      | missingKey hfirst' hmissing =>
          rw [← hfirst.unique hfirst', hactual] at hmissing
          cases hmissing
      | valueMismatch hfirst' hexpected' hactual' =>
          obtain rfl := hfirst.unique hfirst'
          rw [Option.some.inj (hexpected.symm.trans hexpected'),
            Option.some.inj (hactual.symm.trans hactual')]

theorem checkCriterion_eq_none_iff {expected : Json} :
    checkCriterion o key expected = none ↔ Meets o key expected := by
  unfold checkCriterion Meets
  cases o.get? key with
  | none => simp
  | some actual =>
      by_cases hsame : actual.same expected = true
      · simp [hsame]
      · simp [hsame]

theorem firstMismatch?_eq_none_iff (hcriteria : criteria.Sorted) :
    firstMismatch? o criteria = none ↔
      ∀ key expected, criteria.get? key = some expected → Meets o key expected := by
  rw [firstMismatch?, List.findSome?_eq_none_iff]
  constructor
  · intro h key expected hexpected
    exact checkCriterion_eq_none_iff.mp (h _ (Dict.mem_of_get? hexpected))
  · rintro h ⟨key, expected⟩ hmem
    exact checkCriterion_eq_none_iff.mpr (h key expected (hcriteria.get?_eq_some_iff.mpr hmem))

/-- The criteria are gone through in the order of their keys, so the mismatch that is found
is at the first key. -/
theorem isFirstUnmet_of_append {before after : Members} {expected : Json}
    (hcriteria : criteria.Sorted) (hsplit : criteria = before ++ (key, expected) :: after)
    (hbefore : ∀ e ∈ before, Meets o e.1 e.2) (hunmet : ¬Meets o key expected) :
    IsFirstUnmet o criteria key := by
  refine ⟨⟨expected, hcriteria.get?_of_eq_append hsplit, hunmet⟩, ?_⟩
  rintro other ⟨expected', hexpected', hother⟩
  rw [← Text.le_iff_utf8Bytes_le]
  have hmem := Dict.mem_of_get? hexpected'
  rw [hsplit, List.mem_append, List.mem_cons] at hmem
  rcases hmem with hmem | heq | hmem
  · exact absurd (hbefore _ hmem) hother
  · exact le_of_eq (congrArg Prod.fst heq).symm
  · rw [hsplit] at hcriteria
    have hbehind := (List.pairwise_cons.mp (List.pairwise_append.mp hcriteria).2.1).1
    exact le_of_lt (hbehind _ hmem)

theorem isMismatch_of_firstMismatch? (hcriteria : criteria.Sorted)
    (h : firstMismatch? o criteria = some mismatch) : IsMismatch o criteria mismatch := by
  rw [firstMismatch?, List.findSome?_eq_some_iff] at h
  obtain ⟨before, ⟨key, expected⟩, after, hsplit, hcheck, hbefore⟩ := h
  change checkCriterion o key expected = some mismatch at hcheck
  have hfirst : IsFirstUnmet o criteria key := by
    refine isFirstUnmet_of_append hcriteria hsplit
      (fun e he => checkCriterion_eq_none_iff.mp (hbefore e he)) fun hmeets => ?_
    rw [checkCriterion_eq_none_iff.mpr hmeets] at hcheck
    cases hcheck
  unfold checkCriterion at hcheck
  split at hcheck
  · next hmissing =>
      obtain rfl := Option.some.inj hcheck
      exact .missingKey hfirst hmissing
  · next actual hactual =>
      split at hcheck
      · cases hcheck
      · obtain rfl := Option.some.inj hcheck
        exact .valueMismatch hfirst (hcriteria.get?_of_eq_append hsplit) hactual

theorem IsMismatch.isUnmet (h : IsMismatch o criteria mismatch) :
    ∃ key, IsUnmet o criteria key := by
  cases h with
  | missingKey hfirst | valueMismatch hfirst => exact ⟨_, hfirst.unmet⟩

theorem firstMismatch?_eq_some_iff (hcriteria : criteria.Sorted) :
    firstMismatch? o criteria = some mismatch ↔ IsMismatch o criteria mismatch := by
  refine ⟨isMismatch_of_firstMismatch? hcriteria, fun h => ?_⟩
  cases hfound : firstMismatch? o criteria with
  | none =>
      obtain ⟨key, expected, hexpected, hunmet⟩ := h.isUnmet
      exact absurd ((firstMismatch?_eq_none_iff hcriteria).mp hfound key expected hexpected) hunmet
  | some found => rw [(isMismatch_of_firstMismatch? hcriteria hfound).unique h]

end Criteria

/-! ## Scripts that have ended -/

/-- Why an attempt fails whose script has ended.  The constructors stand in the order of the
checks, and each of them says that the checks before it were passed. -/
inductive IsFailure (criteria : Members) (window : Nat) (code : Int) (stdout stderr : String) :
    FrameError → Prop
  | exit : code ≠ 0 →
      IsFailure criteria window code stdout stderr
        (.exit code (Redaction.sanitize (Text.trim stderr)))
  | noResponse : code = 0 → (∀ r, ¬Response.IsAnswer stdout window r) →
      IsFailure criteria window code stdout stderr .noResponse
  | reported {r : Members} {reason : Json} : code = 0 → Response.IsAnswer stdout window r →
      r.get? "success" = some (.bool false) → r.get? "error" = some reason →
      IsFailure criteria window code stdout stderr
        (.reported (Redaction.sanitize (Response.reasonText reason)))
  | criteriaNotMet {r o : Members} {mismatch : CriteriaMismatch} : code = 0 →
      Response.IsAnswer stdout window r → ¬Response.ReportsFailure r →
      Response.IsOverlaid r o → IsMismatch o criteria mismatch →
      IsFailure criteria window code stdout stderr (.criteriaNotMet mismatch)

/-- What a script has to leave for an attempt to succeed with an output. -/
structure IsSuccess (criteria : Members) (window : Nat) (code : Int) (stdout : String)
    (o : Members) : Prop where
  code : code = 0
  answer : ∃ r, Response.IsAnswer stdout window r ∧ ¬Response.ReportsFailure r ∧
    Response.IsOverlaid r o
  criteria : ∀ key expected, criteria.get? key = some expected → Meets o key expected

namespace FrameLauncher

variable {σ : Type} {l : FrameLauncher}
  {runProgram : ProgramCall → World σ → Reply ProgramOutcome × World σ}
  {call : FrameCall} {world : World σ} {code : Int} {stdout stderr : ByteArray}

/-- Where the temporary file of the next call is. -/
def contextPath (l : FrameLauncher) (world : World σ) : String :=
  Path.join l.tempDir (contextFileName world.freshId.1)

/-- The script of a call is started and comes to its end in time, with an exit code and with
what it has printed. -/
def Ends (l : FrameLauncher)
    (runProgram : ProgramCall → World σ → Reply ProgramOutcome × World σ)
    (call : FrameCall) (world : World σ) (code : Int) (stdout stderr : ByteArray) : Prop :=
  ∃ ready program after,
    World.onFiles (FileTree.createNew (l.contextPath world)
      (contextDocument call).compact.toUTF8) world.freshId.2 = .ok () ready ∧
    l.programCall call.frame (l.contextPath world) = .ok program ∧
    runProgram program ready = (.done (.ended code stdout stderr), after)

theorem callFrame_of_ends (h : l.Ends runProgram call world code stdout stderr) :
    ∃ program after, l.callFrame runProgram call world =
      (.done (outcomeOf (.ofPath call.frame.filePath) program (.ended code stdout stderr)),
        after) := by
  obtain ⟨ready, program, after, hready, hprogram, hrun⟩ := h
  refine ⟨program, removeFile (l.contextPath world) after, ?_⟩
  unfold callFrame
  rw [contextPath] at hready hprogram
  simp only [hready, hprogram, hrun]
  rfl

theorem responseWindow_eq (runtime : FrameRuntime) :
    runtime.responseWindow = if runtime = .node then 10 else 20 := by
  cases runtime <;> rfl

end FrameLauncher

namespace FrameCall

section Verdict

variable {runtime : FrameRuntime} {program : ProgramCall} {frame : Frame} {code : Int}
  {stdout stderr : ByteArray} {o : Members} {e : FrameError}

theorem outcomeOf_answer {r : Members}
    (h : Response.IsAnswer (Text.ofBytesLossy stdout) runtime.responseWindow r) :
    FrameLauncher.outcomeOf runtime program (.ended 0 stdout stderr) = Response.normalize r := by
  rw [FrameLauncher.outcomeOf, if_pos rfl, Response.lastObject?_eq_some_iff.mpr h]

theorem outcomeOf_noAnswer
    (h : ∀ r, ¬Response.IsAnswer (Text.ofBytesLossy stdout) runtime.responseWindow r) :
    FrameLauncher.outcomeOf runtime program (.ended 0 stdout stderr) = .error .noResponse := by
  rw [FrameLauncher.outcomeOf, if_pos rfl, Option.eq_none_iff_forall_ne_some.mpr fun r hr =>
    h r (Response.lastObject?_eq_some_iff.mp hr)]

/-- What comes of an attempt whose script has ended. -/
def verdict (runtime : FrameRuntime) (program : ProgramCall) (frame : Frame) (code : Int)
    (stdout stderr : ByteArray) : FrameOutcome :=
  (FrameLauncher.outcomeOf runtime program (.ended code stdout stderr)).bind (judged frame)

theorem verdict_of_accepted {r : Members}
    (hanswer : Response.IsAnswer (Text.ofBytesLossy stdout) runtime.responseWindow r)
    (hreports : ¬Response.ReportsFailure r) :
    verdict runtime program frame 0 stdout stderr = judged frame (Response.flatten r) := by
  rw [verdict, outcomeOf_answer hanswer, Response.normalize_eq_ok_iff.mpr ⟨hreports, rfl⟩]
  rfl

theorem verdict_of_isSuccess (hcriteria : frame.successCriteria.Sorted)
    (h : IsSuccess frame.successCriteria runtime.responseWindow code (Text.ofBytesLossy stdout) o) :
    verdict runtime program frame code stdout stderr = .ok o := by
  obtain ⟨rfl, ⟨r, hanswer, hreports, hoverlaid⟩, hmeets⟩ := h
  obtain rfl := (Response.isOverlaid_iff hanswer.ordered).mp hoverlaid
  rw [verdict_of_accepted hanswer hreports, judged,
    (firstMismatch?_eq_none_iff hcriteria).mpr hmeets]

theorem verdict_of_isFailure (hcriteria : frame.successCriteria.Sorted)
    (h : IsFailure frame.successCriteria runtime.responseWindow code (Text.ofBytesLossy stdout)
      (Text.ofBytesLossy stderr) e) :
    verdict runtime program frame code stdout stderr = .error e := by
  cases h with
  | exit hcode =>
      rw [verdict, FrameLauncher.outcomeOf, if_neg hcode]
      rfl
  | noResponse hcode hnone =>
      subst hcode
      rw [verdict, outcomeOf_noAnswer hnone]
      rfl
  | reported hcode hanswer hsuccess hreason =>
      subst hcode
      rw [verdict, outcomeOf_answer hanswer, Response.normalize,
        Response.reportedFailure?_of_reports hsuccess hreason]
      rfl
  | criteriaNotMet hcode hanswer hreports hoverlaid hmismatch =>
      subst hcode
      obtain rfl := (Response.isOverlaid_iff hanswer.ordered).mp hoverlaid
      rw [verdict_of_accepted hanswer hreports, judged,
        (firstMismatch?_eq_some_iff hcriteria).mpr hmismatch]

/-- Either every check is passed, or one of them is the first that is not. -/
theorem isSuccess_or_isFailure (hcriteria : frame.successCriteria.Sorted) :
    (∃ o, IsSuccess frame.successCriteria runtime.responseWindow code
        (Text.ofBytesLossy stdout) o) ∨
      ∃ e, IsFailure frame.successCriteria runtime.responseWindow code
        (Text.ofBytesLossy stdout) (Text.ofBytesLossy stderr) e := by
  by_cases hcode : code = 0
  · by_cases hanswers : ∃ r, Response.IsAnswer (Text.ofBytesLossy stdout) runtime.responseWindow r
    · obtain ⟨r, hanswer⟩ := hanswers
      by_cases hreports : Response.ReportsFailure r
      · obtain ⟨hsuccess, herror⟩ := hreports
        obtain ⟨reason, hreason⟩ := Option.isSome_iff_exists.mp herror
        exact .inr ⟨_, .reported hcode hanswer hsuccess hreason⟩
      · have hoverlaid := (Response.isOverlaid_iff hanswer.ordered).mpr rfl
        cases hmismatch : firstMismatch? (Response.flatten r) frame.successCriteria with
        | none =>
            exact .inl ⟨_, hcode, ⟨r, hanswer, hreports, hoverlaid⟩,
              (firstMismatch?_eq_none_iff hcriteria).mp hmismatch⟩
        | some mismatch =>
            exact .inr ⟨_, .criteriaNotMet hcode hanswer hreports hoverlaid
              ((firstMismatch?_eq_some_iff hcriteria).mp hmismatch)⟩
    · exact .inr ⟨_, .noResponse hcode (not_exists.mp hanswers)⟩
  · exact .inr ⟨_, .exit hcode⟩

theorem verdict_eq_ok_iff (hcriteria : frame.successCriteria.Sorted) :
    verdict runtime program frame code stdout stderr = .ok o ↔
      IsSuccess frame.successCriteria runtime.responseWindow code (Text.ofBytesLossy stdout) o := by
  refine ⟨fun h => ?_, verdict_of_isSuccess hcriteria⟩
  -- There is one verdict, so it is the one of the case at hand.
  rcases isSuccess_or_isFailure hcriteria with ⟨o', hsuccess⟩ | ⟨e, hfailure⟩
  · obtain rfl := Except.ok.inj (h.symm.trans (verdict_of_isSuccess hcriteria hsuccess))
    exact hsuccess
  · cases h.symm.trans (verdict_of_isFailure hcriteria hfailure)

theorem verdict_eq_error_iff (hcriteria : frame.successCriteria.Sorted) :
    verdict runtime program frame code stdout stderr = .error e ↔
      IsFailure frame.successCriteria runtime.responseWindow code (Text.ofBytesLossy stdout)
        (Text.ofBytesLossy stderr) e := by
  refine ⟨fun h => ?_, verdict_of_isFailure hcriteria⟩
  rcases isSuccess_or_isFailure hcriteria with ⟨o, hsuccess⟩ | ⟨e', hfailure⟩
  · cases h.symm.trans (verdict_of_isSuccess hcriteria hsuccess)
  · obtain rfl := Except.error.inj (h.symm.trans (verdict_of_isFailure hcriteria hfailure))
    exact hfailure

end Verdict

variable {σ : Type} {l : FrameLauncher} {host : Host σ}
  {runProgram : ProgramCall → World σ → Reply ProgramOutcome × World σ}
  {call : FrameCall} {session : Session σ} {code : Int} {stdout stderr : ByteArray}

/-- An attempt whose script was started and has ended in time succeeds exactly when the script
left what is asked for, and otherwise fails for the first thing that is not in order. -/
theorem attemptOnce_of_ends (hhost : host.callFrame = l.callFrame runProgram)
    (hinput : call.inputRefusal? = none) (hcriteria : call.frame.successCriteria.Sorted)
    (hends : l.Ends runProgram call session.world code stdout stderr) :
    ∃ outcome after,
      call.attemptOnce host session = .ok outcome { session with world := after } ∧
      (∀ o, outcome = .ok o ↔
        IsSuccess call.frame.successCriteria
          (if FrameRuntime.ofPath call.frame.filePath = .node then 10 else 20) code
          (Text.ofBytesLossy stdout) o) ∧
      ∀ e, outcome = .error e ↔
        IsFailure call.frame.successCriteria
          (if FrameRuntime.ofPath call.frame.filePath = .node then 10 else 20) code
          (Text.ofBytesLossy stdout) (Text.ofBytesLossy stderr) e := by
  obtain ⟨program, after, hcall⟩ := FrameLauncher.callFrame_of_ends hends
  refine ⟨verdict (.ofPath call.frame.filePath) program call.frame code stdout stderr, after,
    ?_, ?_, ?_⟩
  · rw [attemptOnce_eq, reply, hinput, hhost]
    simp only [hcall]
    rfl
  · intro o
    rw [verdict_eq_ok_iff hcriteria, FrameLauncher.responseWindow_eq]
  · intro e
    rw [verdict_eq_error_iff hcriteria, FrameLauncher.responseWindow_eq]

/-- Scripts run in `/work`, with temporary files in `/tmp`. -/
def workLauncher : FrameLauncher := ⟨{}, "/work", 5000, "/tmp"⟩

/-- What a script prints that has a nested result. -/
def scoreText : String := "\x7b\"success\": true, \"result\": \x7b\"score\": 9\x7d\x7d\n"

/-- Every script prints a nested result and ends. -/
def printScore : ProgramCall → World Unit → Reply ProgramOutcome × World Unit :=
  fun _ world => (.done (.ended 0 scoreText.toUTF8 ByteArray.empty), world)

/-- The call of a frame whose nested result the criterion is about. -/
def scoreCall : FrameCall :=
  let frame := Frame.ofScript "score" "Score" "score.py"
  first .scope { frame with successCriteria := [("score", .int 9)] } (.obj []) [] none 1

/-- A host that starts scripts. -/
def scoreHost : Host Unit := ⟨workLauncher.callFrame printScore, printScore⟩

/-- A session with an empty directory of temporary files. -/
def scoreSession : Session Unit := Session.start ⟨{ entries := [(["tmp"], .dir)] }, ⟨0, 0⟩, 0, ()⟩

theorem attemptOnce_scoreCall :
    ∃ after, scoreCall.attemptOnce scoreHost scoreSession =
      .ok (.ok [("result", .obj [("score", .int 9)]), ("score", .int 9), ("success", .bool true)])
        { scoreSession with world := after } := by
  have hhost : scoreHost.callFrame = workLauncher.callFrame printScore := by
    rw [scoreHost]
  have hends : workLauncher.Ends printScore scoreCall scoreSession.world 0 scoreText.toUTF8
      ByteArray.empty := ⟨_, _, _, rfl, rfl, rfl⟩
  have hcriteria : scoreCall.frame.successCriteria.Sorted := List.pairwise_singleton _ _
  obtain ⟨outcome, after, hattempt, hok, -⟩ :=
    attemptOnce_of_ends hhost rfl hcriteria hends
  have hanswer : Response.IsAnswer (Text.ofBytesLossy scoreText.toUTF8) 20
      [("result", .obj [("score", .int 9)]), ("success", .bool true)] := by
    rw [← Response.lastObject?_eq_some_iff]
    decide +kernel
  have hsuccess := (hok _).mpr ⟨rfl, ⟨_, hanswer, by decide,
    (Response.isOverlaid_iff hanswer.ordered).mpr rfl⟩,
    (firstMismatch?_eq_none_iff (by decide)).mp (by rfl)⟩
  exact ⟨after, hsuccess ▸ hattempt⟩

end FrameCall

end ScaffoldRunner
