import ScaffoldRunner.Config.Basic
import ScaffoldRunner.Context.Store
import ScaffoldRunner.Proofs.Workspace.FileTree
import ScaffoldRunner.Report.Directory

/-!
# Documents of a run

A run writes contexts and snapshots into one directory and reports into another
one, under names that are put together from ids, stages and times.  A file of
the first directory `Holds` what it held as long as no document is written under
its name and no directory takes its place; what is loaded from it depends on
nothing else.

An id has no separator in it and the number of a stage no underscore, so every
document lies directly in its directory, and the snapshots of different frames
and stages never meet.
-/

namespace ScaffoldRunner

/-! ## Names -/

namespace Path

theorem isPlain_append {front back : String} (hfront : '/' ∉ front.toList)
    (hback : '/' ∉ back.toList) (hlength : 2 < back.length) : IsPlain (front ++ back) := by
  have hlong : ∀ short : String, short.length ≤ 2 → front ++ back ≠ short := by
    intro short hshort heq
    have hwhole := congrArg String.length heq
    rw [String.length_append] at hwhole
    omega
  refine ⟨hlong "" (by decide), hlong "." (by decide), hlong ".." (by decide), ?_⟩
  rw [String.toList_append, List.mem_append, not_or]
  exact ⟨hfront, hback⟩

end Path

theorem Config.no_separator_of_isId {id : String} (h : isId id = true) : '/' ∉ id.toList := by
  intro hmem
  rw [isId, Bool.and_eq_true, List.all_eq_true] at h
  exact absurd (h.2 _ hmem) (by decide)

/-- The text is cut at no separator and ends in a decimal digit. -/
structure EndsInDigit (text : String) : Prop where
  no_separator : '/' ∉ text.toList
  digit : ∃ c, text.toList.getLast? = some c ∧ c.isDigit = true

theorem EndsInDigit.append {front back : String} (hfront : '/' ∉ front.toList)
    (h : EndsInDigit back) : EndsInDigit (front ++ back) where
  no_separator := by
    rw [String.toList_append, List.mem_append, not_or]
    exact ⟨hfront, h.no_separator⟩
  digit := by
    obtain ⟨c, hlast, hc⟩ := h.digit
    exact ⟨c, by rw [String.toList_append, List.getLast?_append, hlast, Option.some_or], hc⟩

theorem isDigit_of_mem_toDigits {n : Nat} {c : Char} (h : c ∈ Nat.toDigits 10 n) :
    c.isDigit = true :=
  Nat.isDigit_of_mem_toDigits (by decide) (by decide) h

theorem Instant.endsInDigit_padded (width n : Nat) : EndsInDigit (padded width n) where
  no_separator := by
    rw [padded, String.toList_ofList, List.mem_append, not_or]
    refine ⟨fun hmem => ?_, fun hmem => ?_⟩
    · exact absurd (List.eq_of_mem_replicate hmem) (by decide)
    · exact absurd (isDigit_of_mem_toDigits hmem) (by decide)
  digit := by
    obtain ⟨c, hlast⟩ : ∃ c, (Nat.toDigits 10 n).getLast? = some c :=
      ⟨_, List.getLast?_eq_some_getLast Nat.toDigits_ne_nil⟩
    refine ⟨c, ?_, isDigit_of_mem_toDigits (List.mem_of_getLast? hlast)⟩
    rw [padded, String.toList_ofList, List.getLast?_append, hlast, Option.some_or]

theorem endsInDigit_toString (n : Nat) : EndsInDigit (toString n) := by
  have hpadded := Instant.endsInDigit_padded 0 n
  rw [Instant.padded, Nat.zero_sub] at hpadded
  exact hpadded

/-- Different numbers are written differently. -/
theorem toString_nat_injective {m n : Nat} (h : toString m = toString n) : m = n := by
  have hdigits : Nat.toDigits 10 m = Nat.toDigits 10 n := by
    have hchars := congrArg String.toList h
    change (String.ofList (Nat.toDigits 10 m)).toList =
      (String.ofList (Nat.toDigits 10 n)).toList at hchars
    rwa [String.toList_ofList, String.toList_ofList] at hchars
  have hvalues := congrArg (Nat.ofDigitChars 10 · 0) hdigits
  simpa only [Nat.ofDigitChars_ten_toDigits] using hvalues

/-- The time in the name of a report ends in the digits of its second. -/
theorem Instant.endsInDigit_fileStamp (t : Instant) : EndsInDigit t.fileStamp := by
  rw [fileStamp, render]
  generalize t.parts = parts
  obtain ⟨⟨year, month, day⟩, hour, minute, second⟩ := parts
  have hyear : '/' ∉ (yearText year).toList := by
    rw [yearText]
    split
    · exact (endsInDigit_padded _ _).no_separator
    · refine (EndsInDigit.append ?_ (endsInDigit_padded _ _)).no_separator
      split <;> decide
  have hmark (front : String) (hfront : '/' ∉ front.toList) :
      '/' ∉ (front ++ "").toList ∧ '/' ∉ (front ++ "_").toList := by
    simp [hfront]
  have hmonth := EndsInDigit.append (hmark _ hyear).1 (endsInDigit_padded 2 month.toNat)
  have hday := EndsInDigit.append (hmark _ hmonth.no_separator).1
    (endsInDigit_padded 2 day.toNat)
  have hhour := EndsInDigit.append (hmark _ hday.no_separator).2 (endsInDigit_padded 2 hour)
  have hminute := EndsInDigit.append (hmark _ hhour.no_separator).1
    (endsInDigit_padded 2 minute)
  exact EndsInDigit.append (hmark _ hminute.no_separator).1 (endsInDigit_padded 2 second)

namespace ReportDirectory

/-- The name of a report ends in a digit before its extension. -/
theorem exists_fileName {subject : String} (hsubject : '/' ∉ subject.toList) (now : Instant)
    (n : Nat) :
    ∃ front, EndsInDigit front ∧ fileName (stem subject now) n = front ++ ".json" := by
  have hstem : EndsInDigit (stem subject now) := by
    refine EndsInDigit.append ?_ now.endsInDigit_fileStamp
    simp [hsubject]
  cases n with
  | zero => exact ⟨_, hstem, rfl⟩
  | succ n =>
      refine ⟨_, EndsInDigit.append ?_ (endsInDigit_toString (n + 1)), rfl⟩
      simp [hstem.no_separator]

theorem isPlain_fileName {subject : String} (hsubject : '/' ∉ subject.toList) (now : Instant)
    (n : Nat) : Path.IsPlain (fileName (stem subject now) n) := by
  obtain ⟨front, hfront, hname⟩ := exists_fileName hsubject now n
  rw [hname]
  exact Path.isPlain_append hfront.no_separator (by decide) (by decide)

/-- What reports are named for has no separator in it. -/
theorem no_separator_subject {scaffold : String} (h : Config.isId scaffold = true)
    {front : String} (hfront : '/' ∉ front.toList) : '/' ∉ (front ++ scaffold).toList := by
  rw [String.toList_append, List.mem_append]
  exact not_or.mpr ⟨hfront, Config.no_separator_of_isId h⟩

end ReportDirectory

namespace ContextStore

theorem isPlain_taskFile {task : String} (h : Config.isId task = true) :
    Path.IsPlain (taskFile task) :=
  Path.isPlain_append (Config.no_separator_of_isId h) (by decide) (by decide)

theorem isPlain_frameFile {frame : String} (h : Config.isId frame = true) (stage : Nat) :
    Path.IsPlain (frameFile frame stage) := by
  have hfront : '/' ∉ (frame ++ "_").toList := by
    simp [Config.no_separator_of_isId h]
  exact Path.isPlain_append (EndsInDigit.append hfront (endsInDigit_toString stage)).no_separator
    (by decide) (by decide)

theorem taskFile_inj {task other : String} : taskFile task = taskFile other ↔ task = other :=
  String.append_left_inj _

/-- A text is cut in one way only at the last of its separators. -/
theorem append_cons_inj {sep : Char} {front other back back' : List Char} (hback : sep ∉ back)
    (hback' : sep ∉ back') (h : front ++ sep :: back = other ++ sep :: back') :
    front = other ∧ back = back' := by
  rcases List.append_eq_append_iff.mp h with ⟨more, rfl, hmore⟩ | ⟨more, rfl, hmore⟩
  · cases more with
    | nil => exact ⟨(List.append_nil _).symm, (List.cons.inj hmore).2⟩
    | cons d more =>
        rw [(List.cons.inj hmore).2] at hback
        exact absurd (List.mem_append_right more List.mem_cons_self) hback
  · cases more with
    | nil => exact ⟨List.append_nil _, (List.cons.inj hmore).2.symm⟩
    | cons d more =>
        rw [(List.cons.inj hmore).2] at hback'
        exact absurd (List.mem_append_right more List.mem_cons_self) hback'

/-- The number of a stage has no underscore in it, so the last one in front of the
ending divides the name of a snapshot, whatever the id looks like. -/
theorem frameFile_inj {frame other : String} {stage stage' : Nat} :
    frameFile frame stage = frameFile other stage' ↔ frame = other ∧ stage = stage' := by
  refine ⟨fun h => ?_, by rintro ⟨rfl, rfl⟩; rfl⟩
  have hdigits (n : Nat) : '_' ∉ (toString n).toList := by
    intro hmem
    rw [Nat.toString_eq_ofList_toDigits, String.toList_ofList] at hmem
    exact absurd (isDigit_of_mem_toDigits hmem) (by decide)
  have hfront := congrArg String.toList ((String.append_left_inj _).mp h)
  simp only [String.toList_append, List.append_assoc] at hfront
  obtain ⟨hframe, hstage⟩ := append_cons_inj (hdigits stage) (hdigits stage') hfront
  exact ⟨String.toList_inj.mp hframe, toString_nat_injective (String.toList_inj.mp hstage)⟩

/-- The snapshot of a frame has the file of a task when its id and its stage
make up the id of the task. -/
theorem frameFile_eq_taskFile {frame task : String} {stage : Nat} :
    frameFile frame stage = taskFile task ↔ frame ++ "_" ++ toString stage = task :=
  String.append_left_inj _

/-- No report has the name of a context. -/
theorem fileName_ne_taskFile {subject : String} (hsubject : '/' ∉ subject.toList)
    (now : Instant) (n : Nat) (task : String) :
    ReportDirectory.fileName (ReportDirectory.stem subject now) n ≠ taskFile task := by
  intro heq
  obtain ⟨front, hfront, hname⟩ := ReportDirectory.exists_fileName hsubject now n
  have htask : taskFile task = task ++ "_context" ++ ".json" := by
    rw [String.append_assoc]
    rfl
  rw [hname, htask, String.append_left_inj] at heq
  obtain ⟨c, hlast, hc⟩ := hfront.digit
  rw [heq, String.toList_append, List.getLast?_append] at hlast
  obtain rfl : 't' = c := Option.some.inj hlast
  exact absurd hc (by decide)

end ContextStore

/-- No report has the place of a file of another name. -/
theorem ReportDirectory.placeOf_ne {reports subject file : String}
    (hsubject : '/' ∉ subject.toList) (now : Instant) (n : Nat)
    (hname : fileName (stem subject now) n ≠ file) (dir : List String) :
    FileTree.placeOf (Path.join reports (fileName (stem subject now) n)) ≠ dir ++ [file] := by
  rw [FileTree.placeOf_join reports (isPlain_fileName hsubject now n)]
  intro hplace
  have hlast := congrArg List.getLast? hplace
  rw [List.getLast?_concat, List.getLast?_concat] at hlast
  exact hname (Option.some.inj hlast)

/-! ## Growth -/

section Growth

open FileTree

/-- A name that is taken is passed over. -/
theorem ReportDirectory.createFree_succ (dir stem : String) (bytes : ByteArray) (tries n : Nat)
    (tree : FileTree) :
    createFree dir stem bytes (tries + 1) n tree =
      match createNew (Path.join dir (fileName stem n)) bytes tree with
      | .ok () after => .ok (Path.join dir (fileName stem n)) after
      | .error .alreadyExists after => createFree dir stem bytes tries (n + 1) after
      | .error e after => .error e after := by
  exact rfl

theorem ReportDirectory.enlarges_createFree (dir stem : String) (bytes : ByteArray)
    (tries n : Nat) :
    Enlarges (fun place found => (∃ n, place = placeOf (Path.join dir (fileName stem n))) ∧
      found = none) (createFree dir stem bytes tries n) := by
  induction tries generalizing n with
  | zero => exact fun tree => .refl tree
  | succ tries ih =>
      intro tree
      have hcreate : Grows (fun place found =>
          (∃ n, place = placeOf (Path.join dir (fileName stem n))) ∧ found = none) tree
          (stateOf (createNew (Path.join dir (fileName stem n)) bytes tree)) :=
        (enlarges_createNew _ bytes tree).mono fun place found hP => ⟨⟨n, hP.1⟩, hP.2⟩
      rw [createFree_succ]
      split
      · next after hnew => rwa [hnew] at hcreate
      · next after htaken =>
          rw [htaken] at hcreate
          exact hcreate.trans (ih (n + 1) after)
      · next e after _ hfails => rwa [hfails] at hcreate

/-- A report is a new file, in a directory that may have to be made. -/
theorem ReportDirectory.enlarges_write (reports : ReportDirectory) (subject : String)
    (now : Instant) (document : Json) :
    Enlarges (fun place found => (IsOnWay reports.dir place ∨
      ∃ n, place = placeOf (Path.join reports.dir (fileName (stem subject now) n))) ∧
        found = none)
      (reports.write subject now document) := by
  refine Enlarges.bind ?_ fun _ => Enlarges.get_bind fun tree => ?_
  · exact (enlarges_createDirAll reports.dir).mono fun place found hP => ⟨.inl hP.1, hP.2⟩
  · exact (enlarges_createFree _ _ _ _ _).mono fun place found hP => ⟨.inr hP.1, hP.2⟩

end Growth

namespace ContextStore

open FileTree

variable {store : ContextStore} {tree after : FileTree}

/-- Writing a document makes the directory first. -/
theorem writeDocument_eq (store : ContextStore) (path : String) (document : Json)
    (tree : FileTree) :
    store.writeDocument path document tree =
      match createDirAll store.dir tree with
      | .error e made => .error (.io store.dir e) made
      | .ok () made =>
          match write path document.pretty.toUTF8 made with
          | .error e after => .error (.io path e) after
          | .ok () after => .ok () after := by
  change EStateM.bind (onFile store.dir (createDirAll store.dir))
    (fun _ => onFile path (write path document.pretty.toUTF8)) tree = _
  rw [EStateM.bind, onFile]
  cases createDirAll store.dir tree with
  | error e made => rfl
  | ok u made =>
      simp only [onFile]
      cases write path document.pretty.toUTF8 made <;> rfl

theorem enlarges_onFile {α : Type} {P : List String → Option Node → Prop} {op : FileM α}
    (path : String) (h : Enlarges P op) : Enlarges P (onFile path op) := by
  intro tree
  have hgrows := h tree
  simp only [onFile]
  cases hop : op tree with
  | ok a after | error e after =>
      rw [hop] at hgrows
      exact hgrows

/-- A document is written at the place of its path, and its directory may have to be made. -/
theorem enlarges_writeDocument (store : ContextStore) (path : String) (document : Json) :
    Enlarges (fun place found => (IsOnWay store.dir place ∧ found = none) ∨ place = placeOf path)
      (store.writeDocument path document) :=
  Enlarges.bind
    (enlarges_onFile store.dir ((enlarges_createDirAll store.dir).mono fun _ _ => .inl))
    fun _ => enlarges_onFile path ((enlarges_write path _).mono fun _ _ => .inr)

/-- A document that was written can be read. -/
theorem readBytes_of_writeDocument {path : String} {document : Json}
    (h : store.writeDocument path document tree = .ok () after) :
    after.readBytes path = .ok document.pretty.toUTF8 := by
  rw [writeDocument_eq] at h
  split at h
  · simp at h
  · split at h
    · simp at h
    · next hwrite =>
        injection h with _ hafter
        exact hafter ▸ readBytes_of_write hwrite

/-- What merging a context over another one saves. -/
def mergedOver (now : Instant) (old : Option Json) (new : Json) : Json :=
  match old with
  | some old => Context.merge now.isoOffset old new
  | none => new

theorem saveMergedOver_eq (store : ContextStore) (task : String) (now : Instant)
    (old : Option Json) (new : Json) (tree : FileTree) :
    store.saveMergedOver task now old new tree =
      match store.writeDocument (store.taskPath task)
          (envelope task now (mergedOver now old new)) tree with
      | .error e after => .error e after
      | .ok () after => .ok (mergedOver now old new) after := by
  change EStateM.bind (EStateM.bind (store.writeDocument (store.taskPath task)
    (envelope task now (mergedOver now old new))) _) _ tree = _
  rw [EStateM.bind, EStateM.bind]
  cases store.writeDocument (store.taskPath task)
    (envelope task now (mergedOver now old new)) tree <;> rfl

theorem stateOf_saveMergedOver (store : ContextStore) (task : String) (now : Instant)
    (old : Option Json) (new : Json) (tree : FileTree) :
    stateOf (store.saveMergedOver task now old new tree) =
      stateOf (store.writeDocument (store.taskPath task)
        (envelope task now (mergedOver now old new)) tree) := by
  rw [saveMergedOver_eq]
  cases store.writeDocument (store.taskPath task)
    (envelope task now (mergedOver now old new)) tree <;> rfl

/-- A saved context lies in its envelope in the file of the task. -/
theorem readBytes_of_saveMergedOver {task : String} {now : Instant} {old : Option Json}
    {new merged : Json} (h : store.saveMergedOver task now old new tree = .ok merged after) :
    merged = mergedOver now old new ∧ after.readBytes (store.taskPath task) =
      .ok (envelope task now merged).pretty.toUTF8 := by
  rw [saveMergedOver_eq] at h
  split at h
  · simp at h
  · next hwrite =>
      injection h with hmerged hafter
      subst hmerged hafter
      exact ⟨rfl, readBytes_of_writeDocument hwrite⟩

theorem stateOf_saveFrame (store : ContextStore) (snapshot : FrameSnapshot) (tree : FileTree) :
    stateOf (store.saveFrame snapshot tree) =
      stateOf (store.writeDocument (store.framePath snapshot.frameId snapshot.stage)
        snapshot.toJson tree) := by
  change stateOf (EStateM.bind _ _ tree) = _
  rw [EStateM.bind]
  cases store.writeDocument (store.framePath snapshot.frameId snapshot.stage)
    snapshot.toJson tree <;> rfl

/-- A snapshot that was saved can be read. -/
theorem readBytes_of_saveFrame {snapshot : FrameSnapshot} {path : String}
    (h : answerOf (store.saveFrame snapshot tree) = .ok path) :
    path = store.framePath snapshot.frameId snapshot.stage ∧
      (stateOf (store.saveFrame snapshot tree)).readBytes path =
        .ok snapshot.toJson.pretty.toUTF8 := by
  have hsave : store.saveFrame snapshot tree = EStateM.bind
      (store.writeDocument (store.framePath snapshot.frameId snapshot.stage) snapshot.toJson)
      (fun _ => pure (store.framePath snapshot.frameId snapshot.stage)) tree := rfl
  rw [hsave, EStateM.bind] at h ⊢
  cases hwrite : store.writeDocument (store.framePath snapshot.frameId snapshot.stage)
    snapshot.toJson tree with
  | error e after => simp [hwrite, answerOf] at h
  | ok u after =>
      rw [hwrite] at h
      obtain rfl := Except.ok.inj h
      exact ⟨rfl, readBytes_of_writeDocument hwrite⟩

/-- The disk has failed while a document was written.  Nothing is left of what its file
held before: it holds the first bytes of the document. -/
def IsCutOff (path : String) (document : Json) (tree : FileTree) (e : ContextError)
    (after : FileTree) : Prop :=
  ∃ fault, tree.fault? (placeOf path) document.pretty.toUTF8 = some fault ∧
    e = .io path fault.error ∧
    after.readBytes path = .ok (document.pretty.toUTF8.extract 0 fault.kept)

/-! ## Files that hold what they held -/

/-- A node lies in the directory of a store under a name.  No other document
uncovers it: the way to the directory leads down only, or the directory is there
already. -/
structure Holds (store : ContextStore) (file : String) (node : Option Node) (tree : FileTree) :
    Prop where
  sound : tree.Sound
  direct : ".." ∉ Path.names store.dir ∨ tree.isDir store.dir = true
  found : tree.get? (placeOf store.dir ++ [file]) = node

variable {file : String} {node : Option Node}

namespace Holds

theorem of_grows {P : List String → Option Node → Prop} (h : store.Holds file node tree)
    (hgrows : Grows P tree after) (hP : ∀ found, ¬P (placeOf store.dir ++ [file]) found) :
    store.Holds file node after where
  sound := hgrows.sound h.sound
  direct := h.direct.imp_right hgrows.isDir
  found := (hgrows.get?_eq hP).trans h.found

/-- Making the directory makes no directory below it. -/
theorem createDirAll (h : store.Holds file node tree) :
    store.Holds file node (stateOf (FileTree.createDirAll store.dir tree)) := by
  rcases h.direct with hdown | hdir
  · refine h.of_grows (enlarges_createDirAll store.dir tree) ?_
    rintro found ⟨hway, -⟩
    have hdepth := hway.length_le
    have habove : ".." ∉ Path.pieces store.dir := by
      intro hmem
      apply hdown
      rw [Path.names_eq]
      exact List.mem_filter.mpr ⟨hmem, by decide⟩
    rw [Path.names_eq, placeOf_eq, List.length_append, length_resolve habove,
      List.length_nil, List.length_singleton] at hdepth
    omega
  · rw [createDirAll_of_isDir hdir]
    exact h

/-- A document of another name leaves the file alone. -/
theorem writeDocument (h : store.Holds file node tree) {name : String}
    (hname : Path.IsPlain name) (hne : name ≠ file) (document : Json) :
    store.Holds file node
      (stateOf (store.writeDocument (Path.join store.dir name) document tree)) := by
  have hmade := h.createDirAll
  rw [writeDocument_eq]
  cases hdirs : FileTree.createDirAll store.dir tree with
  | error e made =>
      rw [hdirs] at hmade
      exact hmade
  | ok u made =>
      rw [hdirs] at hmade
      have hwritten : store.Holds file node (stateOf
          (FileTree.write (Path.join store.dir name) document.pretty.toUTF8 made)) := by
        refine Holds.of_grows hmade (enlarges_write _ _ made) fun _ hplace => ?_
        rw [placeOf_join store.dir hname, List.append_cancel_left_eq] at hplace
        exact hne (List.singleton_inj.mp hplace).symm
      cases hwrite : FileTree.write (Path.join store.dir name) document.pretty.toUTF8 made with
      | error e after | ok u after =>
          simp only [hwrite]
          rw [hwrite] at hwritten
          exact hwritten

/-- So does a document that cannot be written, whatever its name, unless it is cut off. -/
theorem writeDocument_error (h : store.Holds file node tree) {path : String} {document : Json}
    {e : ContextError} (herror : store.writeDocument path document tree = .error e after) :
    store.Holds file node after ∨ IsCutOff path document tree e after := by
  have hmade := h.createDirAll
  have hgrows := enlarges_createDirAll store.dir tree
  rw [writeDocument_eq] at herror
  split at herror
  · next e made hdirs =>
      injection herror with _ hafter
      rw [hdirs, hafter] at hmade
      exact .inl hmade
  · next made hdirs =>
      rw [hdirs] at hmade hgrows
      split at herror
      · next reason left hwrite =>
          injection herror with he hafter
          subst he hafter
          rcases write_eq_error hwrite with rfl | ⟨fault, hfault, rfl, hbytes⟩
          · exact .inl hmade
          · have hdisk : made.fault? = tree.fault? := hgrows.fault?_eq
            exact .inr ⟨fault, hdisk ▸ hfault, rfl, hbytes⟩
      · simp at herror

/-- So does the context of a task whose file has another name. -/
theorem saveMergedOver (h : store.Holds file node tree) {task : String}
    (htask : Path.IsPlain (taskFile task)) (hne : taskFile task ≠ file) (now : Instant)
    (old : Option Json) (new : Json) :
    store.Holds file node (stateOf (store.saveMergedOver task now old new tree)) := by
  rw [stateOf_saveMergedOver]
  exact h.writeDocument htask hne _

/-- So does a context that cannot be saved, whatever its name, unless it is cut off. -/
theorem saveMergedOver_error (h : store.Holds file node tree) {task : String} {now : Instant}
    {old : Option Json} {new : Json} {e : ContextError}
    (herror : store.saveMergedOver task now old new tree = .error e after) :
    store.Holds file node after ∨
      IsCutOff (store.taskPath task) (envelope task now (mergedOver now old new)) tree e after := by
  rw [saveMergedOver_eq] at herror
  split at herror
  · next hwrite =>
      injection herror with he hafter
      subst he hafter
      exact h.writeDocument_error hwrite
  · simp at herror

/-- A report leaves the file alone, unless it needs a directory in its place. -/
theorem report (h : store.Holds file node tree) {reports : ReportDirectory}
    (hdir : ¬IsOnWay reports.dir (placeOf store.dir ++ [file])) {subject : String}
    (hsubject : '/' ∉ subject.toList) (now : Instant)
    (hname : ∀ n, ReportDirectory.fileName (ReportDirectory.stem subject now) n ≠ file)
    (document : Json) :
    store.Holds file node (stateOf (reports.write subject now document tree)) := by
  refine h.of_grows (reports.enlarges_write subject now document tree) ?_
  rintro found ⟨hway | ⟨n, hplace⟩, -⟩
  · exact hdir hway
  · exact ReportDirectory.placeOf_ne hsubject now n (hname n) _ hplace.symm

/-- Where the directory is there, the names of its path can be followed. -/
theorem walk_dir (h : store.Holds file node tree)
    (hsizes : ∀ name ∈ Path.pieces store.dir, name.utf8ByteSize ≤ maxName)
    (hdir : tree.get? (placeOf store.dir) = some .dir) :
    tree.walk [] (Path.pieces store.dir) = .ok (placeOf store.dir) := by
  rcases h.direct with hdown | hthere
  · rw [placeOf_eq] at hdir ⊢
    refine h.sound.walk_of_dir (fun hmem => hdown ?_) hsizes hdir
    rw [Path.names_eq]
    exact List.mem_filter.mpr ⟨hmem, by decide⟩
  · obtain ⟨reached, hlocate, _⟩ := lookup_eq_ok.mp (isDir_iff.mp hthere)
    rw [← placeOf_of_locate hlocate]
    exact walk_pieces (locate_eq_ok.mp hlocate).2

/-- The path of the file leads to the node, if it can be followed at all. -/
theorem lookup_eq_ok_iff (h : store.Holds file node tree) (hfile : Path.IsPlain file)
    {found : Node} :
    tree.lookup (Path.join store.dir file) = .ok found ↔
      ((Path.join store.dir file).toList.contains '\x00' = false ∧ Path.join store.dir file ≠ "" ∧
        (Path.join store.dir file).utf8ByteSize ≤ maxPath) ∧
      (∀ name ∈ Path.pieces store.dir ++ [file], name.utf8ByteSize ≤ maxName) ∧
      node = some found := by
  rw [FileTree.lookup_eq_ok]
  constructor
  · rintro ⟨reached, hlocate, hnode⟩
    obtain ⟨hpath, hwalk⟩ := locate_eq_ok.mp hlocate
    rw [placeOf_of_locate hlocate, placeOf_join store.dir hfile, h.found] at hnode
    rw [steps_join store.dir hfile] at hwalk
    exact ⟨hpath, size_of_walk hwalk, hnode⟩
  · rintro ⟨hpath, hsizes, hnode⟩
    -- Where the file is there, so is its directory, and the walk to it can be made.
    have hfound := h.found.trans hnode
    have hdir : tree.get? (placeOf store.dir) = some .dir :=
      h.sound _ file (by simp [hfound])
    rw [List.forall_mem_append] at hsizes
    have hsize : ¬maxName < file.utf8ByteSize := by
      have := hsizes.2 file (List.mem_singleton_self file)
      omega
    have hlast : tree.walk (placeOf store.dir) [file] = .ok (placeOf store.dir ++ [file]) := by
      rw [walk, hdir]
      simp only [if_neg hfile.ne_here, if_neg hfile.ne_above, if_neg hsize]
      rfl
    refine ⟨_, locate_eq_ok.mpr ⟨hpath, ?_⟩, hfound⟩
    rw [steps_join store.dir hfile]
    exact walk_append.mpr ⟨_, h.walk_dir hsizes.1 hdir, hlast⟩

end Holds

/-- What is loaded depends only on what lies at the path of the task. -/
theorem load_eq (store : ContextStore) (task : String) (tree : FileTree) :
    store.load task tree =
      match tree.lookup (store.taskPath task) with
      | .error _ => .ok none
      | .ok .dir => .error (.io (store.taskPath task) .isDirectory)
      | .ok (.file bytes _) =>
          match String.fromUTF8? bytes with
          | none => .error (.io (store.taskPath task) .notText)
          | some text =>
              match parseEnvelope? text with
              | some context => .ok (some context)
              | none => .error (.malformed (store.taskPath task)) := by
  cases hlookup : tree.lookup (store.taskPath task) with
  | error e =>
      have hnothing : tree.pathExists (store.taskPath task) = false := by
        simp [pathExists, hlookup]
      simp [load, hnothing]
  | ok found =>
      have hsomething : tree.pathExists (store.taskPath task) = true := by
        simp [pathExists, hlookup]
      cases found with
      | dir =>
          have hread : tree.readText (store.taskPath task) = .error .isDirectory := by
            rw [readText, readBytes, hlookup]
            rfl
          simp [load, hsomething, hread]
      | file bytes mode =>
          have hbytes : tree.readBytes (store.taskPath task) = .ok bytes :=
            readBytes_eq_ok.mpr ⟨mode, hlookup⟩
          cases htext : String.fromUTF8? bytes with
          | none =>
              have hread : tree.readText (store.taskPath task) = .error .notText := by
                simp [readText, hbytes, bind, Except.bind, htext, throw, throwThe,
                  MonadExceptOf.throw]
              simp [load, hsomething, hread, htext]
          | some text =>
              have hread : tree.readText (store.taskPath task) = .ok text := by
                simp [readText, hbytes, bind, Except.bind, htext, pure, Except.pure]
              cases hparse : parseEnvelope? text <;> simp [load, hsomething, hread, htext, hparse]

/-- What is loaded of a text that lies in the file of a task. -/
theorem load_of_readBytes {task text : String}
    (h : tree.readBytes (store.taskPath task) = .ok text.toUTF8) :
    store.load task tree =
      match parseEnvelope? text with
      | some context => .ok (some context)
      | none => .error (.malformed (store.taskPath task)) := by
  obtain ⟨mode, hlookup⟩ := readBytes_eq_ok.mp h
  have htext : String.fromUTF8? text.toUTF8 = some text := dif_pos text.isValidUTF8
  rw [load_eq, hlookup]
  simp only [htext]

/-- Where there is a file, its context is loaded or there is an error. -/
theorem load_ne_none {task : String} (h : tree.pathExists (store.taskPath task) = true) :
    store.load task tree ≠ .ok none := by
  rw [load_eq]
  rw [pathExists] at h
  split at h
  · next found hlookup =>
      rw [hlookup]
      cases found with
      | dir => simp
      | file bytes mode =>
          simp only
          split
          · simp
          · split <;> simp
  · simp at h

/-- As long as the file of a task holds the same, the same is loaded from it. -/
theorem Holds.load_eq_load {task : String} (htask : Path.IsPlain (taskFile task))
    (h : store.Holds (taskFile task) node tree) (hafter : store.Holds (taskFile task) node after) :
    store.load task after = store.load task tree := by
  have hsame (found : Node) : after.lookup (store.taskPath task) = .ok found ↔
      tree.lookup (store.taskPath task) = .ok found :=
    (hafter.lookup_eq_ok_iff htask).trans (h.lookup_eq_ok_iff htask).symm
  rw [load_eq, load_eq]
  cases hlookup : tree.lookup (store.taskPath task) with
  | ok found => rw [(hsame found).mpr hlookup]
  | error e =>
      cases hlater : after.lookup (store.taskPath task) with
      | error e' => rfl
      | ok found =>
          rw [hlookup] at hsame
          exact absurd ((hsame found).mp hlater) (by simp)

end ContextStore

/-! ## Files of different ids -/

namespace FileTree

/-- A path leads to a plain name directly in a directory. -/
structure LiesIn (dir name path : String) : Prop where
  isPlain : Path.IsPlain name
  path_eq : path = Path.join dir name
  place_eq : placeOf path = placeOf dir ++ [name]

theorem liesIn_join (dir : String) {name : String} (h : Path.IsPlain name) :
    LiesIn dir name (Path.join dir name) :=
  ⟨h, rfl, placeOf_join dir h⟩

/-- Paths into a directory that lead to the same place have the same name. -/
theorem LiesIn.name_inj {dir name name' path path' : String} (h : LiesIn dir name path)
    (h' : LiesIn dir name' path') (hplace : placeOf path = placeOf path') : name = name' := by
  rw [h.place_eq, h'.place_eq, List.append_cancel_left_eq] at hplace
  exact List.singleton_inj.mp hplace

/-- Directories apart that are made on the way to a directory, an operation changes
nothing but what lies directly in it under some plain names. -/
def StaysIn {ε α : Type} (dir : String) (IsName : String → Prop) (op : EStateM ε FileTree α) :
    Prop :=
  ∀ tree place, (stateOf (op tree)).get? place = tree.get? place ∨
    (IsOnWay dir place ∧ tree.get? place = none) ∨
    ∃ name, IsName name ∧ Path.IsPlain name ∧ place = placeOf dir ++ [name]

theorem Enlarges.staysIn {ε α : Type} {dir : String} {IsName : String → Prop}
    {op : EStateM ε FileTree α} {P : List String → Option Node → Prop} (h : Enlarges P op)
    (hname : ∀ name, IsName name → Path.IsPlain name)
    (hP : ∀ place found, P place found → (IsOnWay dir place ∧ found = none) ∨
      ∃ name, IsName name ∧ place = placeOf (Path.join dir name)) :
    StaysIn dir IsName op := by
  intro tree place
  refine ((h tree).get?_eq_or place).imp_right fun hgrown => (hP _ _ hgrown).imp_right ?_
  rintro ⟨name, hthis, hplace⟩
  exact ⟨name, hthis, hname name hthis, hplace.trans (placeOf_join dir (hname name hthis))⟩

end FileTree

namespace ReportDirectory

open FileTree

/-- What the reports of a scaffold are named for. -/
def subjectsOf (scaffold : String) : List String :=
  [auditSubject scaffold, executionSubject scaffold]

theorem no_separator_of_mem_subjectsOf {scaffold subject : String}
    (h : Config.isId scaffold = true) (hsubject : subject ∈ subjectsOf scaffold) :
    '/' ∉ subject.toList := by
  simp only [subjectsOf, List.mem_cons, List.not_mem_nil, or_false] at hsubject
  rcases hsubject with rfl | rfl
  · exact no_separator_subject h (by decide)
  · exact no_separator_subject h (by decide)

theorem staysIn_write (reports : ReportDirectory) {subject : String}
    (hsubject : '/' ∉ subject.toList) (now : Instant) (document : Json) :
    StaysIn reports.dir (fun name => ∃ n, name = fileName (stem subject now) n)
      (reports.write subject now document) := by
  refine (reports.enlarges_write subject now document).staysIn ?_ fun place found hP => ?_
  · rintro _ ⟨n, rfl⟩
    exact isPlain_fileName hsubject now n
  · obtain ⟨hway | ⟨n, hplace⟩, hfound⟩ := hP
    · exact .inl ⟨hway, hfound⟩
    · exact .inr ⟨_, ⟨n, rfl⟩, hplace⟩

end ReportDirectory

namespace ContextStore

open FileTree ReportDirectory

variable {store : ContextStore} {tree : FileTree} {frame task other : String}
  {stage stage' : Nat} {bytes : ByteArray}

theorem liesIn_taskPath (store : ContextStore) (h : Config.isId task = true) :
    LiesIn store.dir (taskFile task) (store.taskPath task) :=
  liesIn_join store.dir (isPlain_taskFile h)

theorem liesIn_framePath (store : ContextStore) (h : Config.isId frame = true) (stage : Nat) :
    LiesIn store.dir (frameFile frame stage) (store.framePath frame stage) :=
  liesIn_join store.dir (isPlain_frameFile h stage)

theorem taskPath_inj (htask : Config.isId task = true) (hother : Config.isId other = true)
    (h : placeOf (store.taskPath task) = placeOf (store.taskPath other)) : task = other :=
  taskFile_inj.mp ((store.liesIn_taskPath htask).name_inj (store.liesIn_taskPath hother) h)

theorem framePath_inj (hframe : Config.isId frame = true) (hother : Config.isId other = true)
    (h : placeOf (store.framePath frame stage) = placeOf (store.framePath other stage')) :
    frame = other ∧ stage = stage' :=
  frameFile_inj.mp
    ((store.liesIn_framePath hframe stage).name_inj (store.liesIn_framePath hother stage') h)

theorem staysIn_writeDocument (store : ContextStore) {name : String} (h : Path.IsPlain name)
    {α : Type} (document : Json) (answer : α) :
    StaysIn store.dir (· = name) (do
      store.writeDocument (Path.join store.dir name) document
      return answer) := by
  refine ((store.enlarges_writeDocument _ document).bind fun _ => .pure answer).staysIn ?_
    fun place found hP => hP.imp_right fun hplace => ⟨name, rfl, hplace⟩
  rintro _ rfl
  exact h

/-- All files that are written for an id lie directly in their directories: the context of a
task of this id, the snapshots of a frame and the reports of a scaffold. -/
structure Confines (store : ContextStore) (reports : ReportDirectory) (id : String) : Prop where
  task : LiesIn store.dir (taskFile id) (store.taskPath id)
  frame : ∀ stage, LiesIn store.dir (frameFile id stage) (store.framePath id stage)
  report : ∀ subject ∈ subjectsOf id, ∀ now n,
    LiesIn reports.dir (fileName (stem subject now) n)
      (Path.join reports.dir (fileName (stem subject now) n))
  save : ∀ now context, StaysIn store.dir (· = taskFile id) (store.save id now context)
  saveFrame : ∀ snapshot, snapshot.frameId = id →
    StaysIn store.dir (· = frameFile id snapshot.stage) (store.saveFrame snapshot)
  write : ∀ subject ∈ subjectsOf id, ∀ now document,
    StaysIn reports.dir (fun name => ∃ n, name = fileName (stem subject now) n)
      (reports.write subject now document)

theorem confines_of_isId (store : ContextStore) (reports : ReportDirectory) {id : String}
    (h : Config.isId id = true) : store.Confines reports id where
  task := store.liesIn_taskPath h
  frame := store.liesIn_framePath h
  report subject hsubject now n :=
    liesIn_join reports.dir (isPlain_fileName (no_separator_of_mem_subjectsOf h hsubject) now n)
  save now context := store.staysIn_writeDocument (isPlain_taskFile h) _ _
  saveFrame := by
    rintro snapshot rfl
    exact store.staysIn_writeDocument (isPlain_frameFile h snapshot.stage) _ _
  write subject hsubject :=
    reports.staysIn_write (no_separator_of_mem_subjectsOf h hsubject)

/-! ### Snapshots one after another -/

/-- A snapshot of another frame or stage leaves what can be read of this one. -/
theorem readBytes_saveFrame_of_ne {snapshot : FrameSnapshot} (hframe : Config.isId frame = true)
    (hid : Config.isId snapshot.frameId = true)
    (hne : (snapshot.frameId, snapshot.stage) ≠ (frame, stage))
    (hread : tree.readBytes (store.framePath frame stage) = .ok bytes) :
    (stateOf (store.saveFrame snapshot tree)).readBytes (store.framePath frame stage) =
      .ok bytes := by
  rw [stateOf_saveFrame]
  refine (store.enlarges_writeDocument _ _ tree).readBytes (fun found hP => ?_) hread
  rcases hP with ⟨-, hnone⟩ | hplace
  · exact hnone
  · obtain ⟨rfl, rfl⟩ := framePath_inj hframe hid hplace
    exact absurd rfl hne

/-- The tree after some snapshots have been saved in turn, as far as they can be. -/
def afterSnapshots (store : ContextStore) (snapshots : List FrameSnapshot) (tree : FileTree) :
    FileTree :=
  snapshots.foldl (fun tree snapshot => stateOf (store.saveFrame snapshot tree)) tree

theorem readBytes_afterSnapshots_of_ne {snapshots : List FrameSnapshot}
    (hframe : Config.isId frame = true)
    (hothers : ∀ s ∈ snapshots, Config.isId s.frameId = true ∧
      (s.frameId, s.stage) ≠ (frame, stage))
    (hread : tree.readBytes (store.framePath frame stage) = .ok bytes) :
    (store.afterSnapshots snapshots tree).readBytes (store.framePath frame stage) =
      .ok bytes := by
  induction snapshots generalizing tree with
  | nil => exact hread
  | cons snapshot snapshots ih =>
      obtain ⟨⟨hid, hne⟩, hrest⟩ := List.forall_mem_cons.mp hothers
      exact ih hrest (readBytes_saveFrame_of_ne hframe hid hne hread)

/-- Tasks of different ids have different files, and so have snapshots of different frames
or stages.  Whatever is written for an id lies directly in its directory.  A snapshot can
therefore be read as long as no other one of the same frame and stage is saved. -/
theorem documents_lieApart (store : ContextStore) (reports : ReportDirectory) :
    (∀ task other, Config.isId task = true → Config.isId other = true →
      placeOf (store.taskPath task) = placeOf (store.taskPath other) → task = other) ∧
    (∀ frame other stage stage', Config.isId frame = true → Config.isId other = true →
      placeOf (store.framePath frame stage) = placeOf (store.framePath other stage') →
      frame = other ∧ stage = stage') ∧
    (∀ id, Config.isId id = true → store.Confines reports id) ∧
    ∀ frame stage snapshots tree bytes, Config.isId frame = true →
      (∀ s ∈ snapshots, Config.isId s.frameId = true ∧ (s.frameId, s.stage) ≠ (frame, stage)) →
      tree.readBytes (store.framePath frame stage) = .ok bytes →
      (store.afterSnapshots snapshots tree).readBytes (store.framePath frame stage) =
        .ok bytes := by
  refine ⟨fun task other => taskPath_inj, fun frame other stage stage' => framePath_inj,
    fun id => store.confines_of_isId reports, ?_⟩
  intro frame stage snapshots tree bytes hframe hothers hread
  exact readBytes_afterSnapshots_of_ne hframe hothers hread

/-- A snapshot of nothing. -/
def blankSnapshot (frame : String) (stage : Nat) : FrameSnapshot :=
  ⟨frame, stage, .null, [], [], ⟨0, 0⟩⟩

/-- Snapshots of frames whose ids and stages are written with the same characters. -/
def lookalikes : List FrameSnapshot :=
  [blankSnapshot "audit" 1, blankSnapshot "audit" 11, blankSnapshot "audit_1_1" 1,
    blankSnapshot "audit_1" 11]

theorem documents_audit_lieApart :
    answerOf (saveFrame ⟨"/c"⟩ (blankSnapshot "audit_1" 1) {}) =
        .ok "/c/audit_1_1_context.json" ∧
      (afterSnapshots ⟨"/c"⟩ lookalikes
        (stateOf (saveFrame ⟨"/c"⟩ (blankSnapshot "audit_1" 1) {}))).readBytes
          "/c/audit_1_1_context.json" = .ok (blankSnapshot "audit_1" 1).toJson.pretty.toUTF8 ∧
      placeOf (framePath ⟨"/c"⟩ "audit_1" 1) ≠ placeOf (framePath ⟨"/c"⟩ "audit" 11) ∧
      placeOf (taskPath ⟨"/c"⟩ "audit_1") ≠ placeOf (taskPath ⟨"/c"⟩ "audit") ∧
      LiesIn "/c" ".._context.json" "/c/.._context.json" := by
  obtain ⟨htasks, hframes, hconfines, hkept⟩ := documents_lieApart ⟨"/c"⟩ ⟨"/r"⟩
  have hsave : answerOf (saveFrame ⟨"/c"⟩ (blankSnapshot "audit_1" 1) {}) =
      .ok "/c/audit_1_1_context.json" := by
    decide +kernel
  obtain ⟨hpath, hread⟩ := readBytes_of_saveFrame hsave
  rw [hpath] at hread
  refine ⟨hsave, ?_, fun h => ?_, fun h => ?_, (hconfines ".." (by decide)).task⟩
  · exact hkept "audit_1" 1 lookalikes _ _ (by decide) (by decide) hread
  · exact absurd (hframes _ _ _ _ (by decide) (by decide) h).1 (by decide)
  · exact absurd (htasks _ _ (by decide) (by decide) h) (by decide)

end ContextStore

end ScaffoldRunner
