import ScaffoldRunner.Proofs.Action
import ScaffoldRunner.Proofs.Workspace.Reports

/-!
# Trees that are alike but for a place

Two trees on disks with the same faults may differ in what lies at one place, as long
as that is no directory in either of them.  Then they can only be told apart by looking
at this place, or by a path that leads on from it.  The operations of a run on all
other paths agree.
-/

namespace ScaffoldRunner

namespace FileTree

/-- Two trees are alike but for a place at which neither has a directory. -/
structure AlikeBut (hidden : List String) (tree other : FileTree) : Prop where
  same : ∀ place, place ≠ hidden → tree.get? place = other.get? place
  no_dir : tree.get? hidden ≠ some .dir
  no_dir_other : other.get? hidden ≠ some .dir
  fault?_eq : tree.fault? = other.fault?

/-- No directory above the last name of a path lies at a place. -/
def Bypasses (path : String) (hidden : List String) : Prop :=
  ∀ front, front <+: (Path.pieces path).dropLast → resolve [] front ≠ hidden

variable {hidden place : List String} {tree other : FileTree} {path : String}

theorem resolve_ne_of_not_isOnWay (h : ¬IsOnWay path hidden) {front : List String}
    (hfront : front <+: Path.pieces path) : resolve [] front ≠ hidden := by
  rintro rfl
  refine h ⟨front.filter (· ≠ "."), ?_, (resolve_filter [] front).symm⟩
  rw [Path.names_eq]
  exact hfront.filter _

theorem bypasses_of_not_isOnWay (h : ¬IsOnWay path hidden) : Bypasses path hidden :=
  fun _ hfront => resolve_ne_of_not_isOnWay h (hfront.trans (List.dropLast_prefix _))

theorem bypasses_join {dir name : String} (hname : Path.IsPlain name)
    (h : ¬IsOnWay dir hidden) : Bypasses (Path.join dir name) hidden := by
  intro front hfront
  rw [Path.pieces_join dir hname, List.dropLast_concat] at hfront
  exact resolve_ne_of_not_isOnWay h hfront

theorem get?_of_walk_cons {name : String} {names reached : List String}
    (h : tree.walk place (name :: names) = .ok reached) : tree.get? place = some .dir := by
  rw [walk] at h
  split at h
  · simp at h
  · simp at h
  · next hdir => exact hdir

/-- A path can only be followed through directories. -/
theorem get?_of_isOnWay {dir name : String} (hname : Path.IsPlain name) {reached : List String}
    (h : tree.locate (Path.join dir name) = .ok reached) (hway : IsOnWay dir place) :
    tree.get? place = some .dir := by
  obtain ⟨names, hnames, rfl⟩ := hway
  rw [Path.names_eq] at hnames
  obtain ⟨front, ⟨rest, hpieces⟩, rfl⟩ := List.prefix_filter_iff.mp hnames
  have hwalk := (locate_eq_ok.mp h).2
  rw [steps_join dir hname, ← hpieces, List.append_assoc] at hwalk
  obtain ⟨middle, hfront, hrest⟩ := walk_append.mp hwalk
  obtain ⟨next, more, hcons⟩ := List.exists_cons_of_ne_nil (List.append_ne_nil_of_right_ne_nil
    rest (List.cons_ne_nil name []))
  rw [hcons] at hrest
  rw [resolve_filter, ← resolve_of_walk hfront]
  exact get?_of_walk_cons hrest

theorem prefix_dropLast {front names : List String} (h : front <+: names) (hne : front ≠ names) :
    front <+: names.dropLast := by
  obtain ⟨rest, rfl⟩ := h
  have hrest : rest ≠ [] := by
    rintro rfl
    exact hne (List.append_nil front).symm
  rw [List.dropLast_append_of_ne_nil hrest]
  exact List.prefix_append front _

namespace AlikeBut

theorem insert (h : tree.AlikeBut hidden other) (hplace : place ≠ []) {node node' : Node}
    (hsame : place ≠ hidden → node = node')
    (hfile : place = hidden → node ≠ .dir ∧ node' ≠ .dir) :
    (tree.insert place node).AlikeBut hidden (other.insert place node') where
  same other' hother := by
    rw [get?_insert tree hplace, get?_insert other hplace]
    split
    · next heq => rw [hsame (heq ▸ hother)]
    · exact h.same other' hother
  no_dir := by
    rw [get?_insert tree hplace]
    split
    · next heq => exact fun hnode => (hfile heq.symm).1 (Option.some.inj hnode)
    · exact h.no_dir
  no_dir_other := by
    rw [get?_insert other hplace]
    split
    · next heq => exact fun hnode => (hfile heq.symm).2 (Option.some.inj hnode)
    · exact h.no_dir_other
  fault?_eq := h.fault?_eq

/-- A file can be put where no directory is. -/
theorem of_insert (hplace : tree.get? hidden ≠ some .dir) (bytes : ByteArray) (mode : Nat) :
    (tree.insert hidden (.file bytes mode)).AlikeBut hidden tree where
  same other hother := by rw [get?_insert tree (ne_root_of_file hplace), if_neg hother]
  no_dir := by simp [get?_insert tree (ne_root_of_file hplace)]
  no_dir_other := hplace
  fault?_eq := rfl

/-! ## Looking around -/

/-- A walk looks at all places that it comes through. -/
theorem walk (h : tree.AlikeBut hidden other) {names : List String}
    (hway : ∀ front, front <+: names → front ≠ names → resolve place front ≠ hidden) :
    tree.walk place names = other.walk place names := by
  induction names generalizing place with
  | nil => rfl
  | cons name names ih =>
      have hplace : place ≠ hidden := hway [] List.nil_prefix (by simp)
      have hnext (front : List String) (hfront : front <+: names) (hne : front ≠ names) :
          resolve place (name :: front) ≠ hidden :=
        hway (name :: front) ((List.prefix_cons_inj name).mpr hfront) (by simpa using hne)
      rw [FileTree.walk, FileTree.walk, h.same place hplace]
      split
      · rfl
      · rfl
      · by_cases hhere : name = "."
        · simp only [if_pos hhere]
          refine ih fun front hfront hne => ?_
          have hstep := hnext front hfront hne
          rwa [resolve, if_pos hhere] at hstep
        · simp only [if_neg hhere]
          by_cases habove : name = ".."
          · simp only [if_pos habove]
            refine ih fun front hfront hne => ?_
            have hstep := hnext front hfront hne
            rwa [resolve, if_neg hhere, if_pos habove] at hstep
          · simp only [if_neg habove]
            split
            · rfl
            · refine ih fun front hfront hne => ?_
              have hstep := hnext front hfront hne
              rwa [resolve, if_neg hhere, if_neg habove] at hstep

theorem walk_parent (h : tree.AlikeBut hidden other) (hpath : Bypasses path hidden) :
    tree.walk [] (Path.pieces path).dropLast = other.walk [] (Path.pieces path).dropLast :=
  h.walk fun front hfront _ => hpath front hfront

theorem walk_pieces (h : tree.AlikeBut hidden other) (hpath : Bypasses path hidden) :
    tree.walk [] (Path.pieces path) = other.walk [] (Path.pieces path) := by
  exact h.walk fun front hfront hne => hpath front (prefix_dropLast hfront hne)

theorem parentAndName_eq (h : tree.AlikeBut hidden other) (hpath : Bypasses path hidden) :
    tree.parentAndName path = other.parentAndName path := by
  unfold FileTree.parentAndName
  split
  · rfl
  · split
    · rfl
    · split
      · rfl
      · change (tree.walk [] (Path.pieces path).dropLast).bind _ =
          (other.walk [] (Path.pieces path).dropLast).bind _
        rw [h.walk_parent hpath]
        cases hwalk : other.walk [] (Path.pieces path).dropLast with
        | error e => rfl
        | ok parent =>
            have hplace : parent ≠ hidden :=
              resolve_of_walk hwalk ▸ hpath _ (List.prefix_refl _)
            simp only [Except.bind, h.same parent hplace]

theorem locate_eq (h : tree.AlikeBut hidden other) (hpath : Bypasses path hidden)
    (hfile : path.toList.getLast? = some '/' → placeOf path ≠ hidden) :
    tree.locate path = other.locate path := by
  have hwalk : tree.walk [] (steps path) = other.walk [] (steps path) := by
    by_cases hseparator : path.toList.getLast? = some '/'
    · have hsteps : steps path = Path.pieces path ++ ["."] := if_pos hseparator
      rw [hsteps]
      refine h.walk fun front hfront hne => ?_
      rcases List.prefix_concat_iff.mp hfront with heq | hfront
      · exact absurd heq hne
      · by_cases hwhole : front = Path.pieces path
        · rw [hwhole, ← placeOf_eq]
          exact hfile hseparator
        · exact hpath front (prefix_dropLast hfront hwhole)
    · rw [steps_of_getLast? hseparator]
      exact h.walk_pieces hpath
  rw [locate, locate, hwalk]

theorem fileTarget_eq (h : tree.AlikeBut hidden other) (hpath : Bypasses path hidden) :
    tree.fileTarget path = other.fileTarget path := by
  rw [fileTarget, fileTarget, h.parentAndName_eq hpath]
  cases other.parentAndName path with
  | error e => rfl
  | ok parent =>
      by_cases hseparator : path.toList.getLast? = some '/'
      · simp [bind, Except.bind, hseparator, throw, throwThe, MonadExceptOf.throw]
      · have hlocate := h.locate_eq hpath (absurd · hseparator)
        simp [bind, Except.bind, hseparator, hlocate]

theorem lookup_eq (h : tree.AlikeBut hidden other) (hpath : Bypasses path hidden)
    (hplace : placeOf path ≠ hidden) : tree.lookup path = other.lookup path := by
  rw [lookup, lookup, h.locate_eq hpath fun _ => hplace]
  cases hlocate : other.locate path with
  | error e => rfl
  | ok place =>
      have hreached : place ≠ hidden := placeOf_of_locate hlocate ▸ hplace
      simp only [bind, Except.bind, h.same place hreached]

theorem isDir_eq (h : tree.AlikeBut hidden other) (hpath : ¬IsOnWay path hidden) :
    tree.isDir path = other.isDir path := by
  have hplace : placeOf path ≠ hidden := fun heq => hpath (heq ▸ isOnWay_placeOf path)
  rw [isDir, isDir, h.lookup_eq (bypasses_of_not_isOnWay hpath) hplace]

end AlikeBut

/-! ## Making directories and files -/

section Agree

variable (bytes : ByteArray)

theorem AlikeBut.fill (h : tree.AlikeBut hidden other) (hplace : place ≠ []) {mode mode' : Nat}
    (hmode : place ≠ hidden → mode = mode') :
    ResultsAgree (AlikeBut hidden) Eq (fill place bytes mode tree)
      (fill place bytes mode' other) := by
  have hinsert (kept : ByteArray) : (tree.insert place (.file kept mode)).AlikeBut hidden
      (other.insert place (.file kept mode')) :=
    h.insert hplace (fun hother => by rw [hmode hother]) fun _ => by simp
  rw [FileTree.fill, FileTree.fill, h.fault?_eq]
  cases other.fault? place bytes with
  | none => exact .ok rfl (hinsert _)
  | some fault => exact .error _ (hinsert _)

/-- A file can also be written at the place itself: it is no directory before and
none after. -/
theorem agree_write (hpath : Bypasses path hidden) :
    Agree (AlikeBut hidden) Eq (write path bytes) (write path bytes) := by
  intro tree other h
  have hwrite (tree : FileTree) {place : List String} (hfile : tree.get? place ≠ some .dir)
      (htarget : tree.fileTarget path = .ok place) :
      write path bytes tree =
        fill place bytes (((tree.get? place).map Node.mode).getD Node.plainMode) tree := by
    simp only [write, writeWith, htarget]
  have htargets := h.fileTarget_eq hpath
  cases htarget : other.fileTarget path with
  | error e =>
      rw [htarget] at htargets
      simp only [write, writeWith, htargets, htarget]
      exact .error e h
  | ok place =>
      rw [htarget] at htargets
      by_cases hdir : other.get? place = some .dir
      · have hplace : place ≠ hidden := fun heq => h.no_dir_other (heq ▸ hdir)
        simp only [write, writeWith, htargets, htarget, h.same place hplace, hdir]
        exact .error _ h
      · have hdir' : tree.get? place ≠ some .dir := by
          by_cases hplace : place = hidden
          · exact hplace ▸ h.no_dir
          · rwa [h.same place hplace]
        rw [hwrite tree hdir' htargets, hwrite other hdir htarget]
        exact h.fill bytes (ne_root_of_file hdir) fun hplace => by rw [h.same place hplace]

theorem agree_createNew (hpath : Bypasses path hidden) (hplace : placeOf path ≠ hidden) :
    Agree (AlikeBut hidden) Eq (createNew path bytes) (createNew path bytes) := by
  intro tree other h
  simp only [createNew, h.fileTarget_eq hpath]
  cases htarget : other.fileTarget path with
  | error e => exact .error e h
  | ok place =>
      have hreached : place ≠ hidden := placeOf_of_locate (fileTarget_eq_ok htarget).1 ▸ hplace
      simp only [h.same place hreached]
      cases hnode : other.get? place with
      | some node => exact .error _ h
      | none =>
          have hroot : place ≠ [] := ne_root_of_file (by rw [hnode]; simp)
          exact h.fill bytes hroot fun _ => rfl

theorem agree_makeDir (hpath : ¬IsOnWay path hidden) :
    Agree (AlikeBut hidden) Eq (makeDir path) (makeDir path) := by
  intro tree other h
  simp only [makeDir, h.parentAndName_eq (bypasses_of_not_isOnWay hpath)]
  cases hparent : other.parentAndName path with
  | error e => exact .error e h
  | ok split =>
      obtain ⟨parent, _ | name⟩ := split
      · exact .error _ h
      · by_cases hdots : name = "." ∨ name = ".."
        · simp only [if_pos hdots]
          exact .error _ h
        · simp only [if_neg hdots]
          split
          · exact .error _ h
          · obtain ⟨hwalk, -, hname⟩ := parentAndName_eq_ok hparent
            rw [not_or] at hdots
            -- The new directory is where the path leads.
            obtain ⟨front, hpieces⟩ := List.getLast?_eq_some_iff.mp hname.symm
            rw [hpieces, List.dropLast_concat] at hwalk
            have hplace : placeOf path = parent ++ [name] := by
              rw [placeOf_eq, hpieces, resolve_append, resolve_of_walk hwalk,
                resolve_of_ne _ hdots.1 hdots.2]
            have hne : parent ++ [name] ≠ hidden :=
              fun heq => hpath (heq ▸ hplace ▸ isOnWay_placeOf path)
            simp only [h.same _ hne]
            cases other.get? (parent ++ [name]) with
            | some node => exact .error _ h
            | none => exact .ok rfl (h.insert (by simp) (fun _ => rfl) fun heq => absurd heq hne)

theorem agree_makeDirs (fuel : Nat) (hpath : ¬IsOnWay path hidden) :
    Agree (AlikeBut hidden) Eq (makeDirs fuel path) (makeDirs fuel path) := by
  induction fuel generalizing path with
  | zero => exact .throw _
  | succ fuel ih =>
      intro tree other h
      have hthere {tree other : FileTree} (h : tree.AlikeBut hidden other) (e : OsError) :
          ResultsAgree (AlikeBut hidden) Eq (if tree.isDir path then .ok () tree else .error e tree)
            (if other.isDir path then .ok () other else .error e other) := by
        rw [h.isDir_eq hpath]
        split
        · exact .ok rfl h
        · exact .error e h
      have hmake := agree_makeDir hpath tree other h
      simp only [makeDirs]
      generalize makeDir path tree = r, makeDir path other = r' at hmake
      cases hmake with
      | ok _ hmade => exact .ok rfl hmade
      | error e _ =>
          cases e with
          | notFound =>
              cases hparent : parentPath? path with
              | none => exact .error _ h
              | some parent =>
                  have habove := ih (fun hway => hpath (hway.of_parent hparent)) tree other h
                  simp only
                  generalize makeDirs fuel parent tree = r,
                    makeDirs fuel parent other = r' at habove
                  cases habove with
                  | error e hmade => exact .error e hmade
                  | @ok _ _ made made' _ hmade =>
                      have hagain := agree_makeDir hpath made made' hmade
                      simp only
                      generalize makeDir path made = r, makeDir path made' = r' at hagain
                      cases hagain with
                      | ok _ hwhole => exact .ok rfl hwhole
                      | error e _ => exact hthere hmade e
          | _ => exact hthere h _

/-- Directories on a way that does not lead through the place are made alike. -/
theorem agree_createDirAll (hpath : ¬IsOnWay path hidden) :
    Agree (AlikeBut hidden) Eq (createDirAll path) (createDirAll path) := by
  rw [createDirAll]
  split
  · exact .pure rfl
  · exact agree_makeDirs _ hpath

end Agree

end FileTree

open FileTree

variable {hidden : List String}

/-! ## Writing documents -/

namespace ReportDirectory

variable {reports : ReportDirectory} {r : ReportRequest}

theorem isTaken_iff {tree : FileTree} {n : Nat} :
    reports.IsTaken r tree n ↔
      answerOf (createNew (reports.pathOf r n) r.bytes tree) = .error .alreadyExists := by
  rw [IsTaken]
  constructor
  · intro htaken
    rw [htaken]
    rfl
  · intro hanswer
    cases hcreate : createNew (reports.pathOf r n) r.bytes tree with
    | ok u after => simp [hcreate, answerOf] at hanswer
    | error e after =>
        rw [hcreate] at hanswer
        obtain rfl := Except.error.inj hanswer
        rw [(createNew_eq_alreadyExists hcreate).1]

/-- A report takes the same name, since the same names are taken. -/
theorem agree_write (hsubject : '/' ∉ r.subject.toList) (hdir : ¬IsOnWay reports.dir hidden)
    (hplaces : ∀ n, placeOf (reports.pathOf r n) ≠ hidden) :
    Agree (AlikeBut hidden) Eq (reports.write r.subject r.now r.document)
      (reports.write r.subject r.now r.document) := by
  intro tree other halike
  have hcreates (n : Nat) : Agree (AlikeBut hidden) Eq
      (createNew (reports.pathOf r n) r.bytes) (createNew (reports.pathOf r n) r.bytes) :=
    agree_createNew _ (bypasses_join (r.isPlain_name hsubject n) hdir) (hplaces n)
  have hleft := reports.write_eq r tree
  have hright := reports.write_eq r other
  have hmakes := agree_createDirAll hdir tree other halike
  generalize createDirAll reports.dir tree = left, createDirAll reports.dir other = right at *
  cases hmakes with
  | error e hmade =>
      simp only at hleft hright
      rw [hleft, hright]
      exact .error e hmade
  | @ok _ _ made made' _ hmade =>
      obtain ⟨n, -, hfree, htaken, hwrite⟩ := hleft
      obtain ⟨m, -, hfree', htaken', hwrite'⟩ := hright
      have hsame (k : Nat) : reports.IsTaken r made k ↔ reports.IsTaken r made' k := by
        rw [isTaken_iff, isTaken_iff, (hcreates k made made' hmade).answers]
      obtain rfl : n = m := by
        rcases Nat.lt_trichotomy n m with hlt | heq | hgt
        · exact absurd ((hsame n).mpr (htaken' n hlt)) hfree
        · exact heq
        · exact absurd ((hsame m).mp (htaken m hgt)) hfree'
      rw [hwrite, hwrite']
      exact (hcreates n).bind_eq (fun _ => .pure rfl) made made' hmade

/-- No report is written in the place of a context. -/
theorem placeOf_pathOf_ne (hsubject : '/' ∉ r.subject.toList) (n : Nat) (dir : List String)
    (task : String) : placeOf (reports.pathOf r n) ≠ dir ++ [ContextStore.taskFile task] := by
  rw [pathOf_eq]
  exact placeOf_ne hsubject r.now n (ContextStore.fileName_ne_taskFile hsubject r.now n task) dir

end ReportDirectory

namespace ContextStore

variable {store : ContextStore}

/-- The place of the context of a task. -/
def taskPlace (store : ContextStore) (task : String) : List String :=
  placeOf store.dir ++ [taskFile task]

theorem placeOf_taskPath (store : ContextStore) {task : String} (hid : Config.isId task = true) :
    placeOf (store.taskPath task) = store.taskPlace task :=
  placeOf_join store.dir (isPlain_taskFile hid)

/-- Where the context of a task is a file, the way to its directory does not lead through it. -/
theorem not_isOnWay_taskPlace {task : String} (hid : Config.isId task = true) {tree : FileTree}
    {bytes : ByteArray} {mode : Nat}
    (h : tree.lookup (store.taskPath task) = .ok (.file bytes mode)) :
    ¬IsOnWay store.dir (store.taskPlace task) := by
  intro hway
  obtain ⟨reached, hlocate, hfile⟩ := lookup_eq_ok.mp h
  have hdir := get?_of_isOnWay (isPlain_taskFile hid) hlocate hway
  rw [← placeOf_taskPath store hid, ← placeOf_of_locate hlocate, hfile] at hdir
  simp at hdir

theorem agree_onFile {α : Type} {op : FileM α} (path : String)
    (h : Agree (AlikeBut hidden) Eq op op) : Agree (AlikeBut hidden) Eq (onFile path op)
      (onFile path op) := by
  intro tree other halike
  have hresults := h tree other halike
  simp only [onFile]
  generalize op tree = r, op other = r' at hresults
  cases hresults with
  | ok heq hafter => exact .ok heq hafter
  | error e hafter => exact .error _ hafter

theorem agree_writeDocument (hdir : ¬IsOnWay store.dir hidden) {name : String}
    (hname : Path.IsPlain name) (document : Json) :
    Agree (AlikeBut hidden) Eq (store.writeDocument (Path.join store.dir name) document)
      (store.writeDocument (Path.join store.dir name) document) :=
  (agree_onFile _ (agree_createDirAll hdir)).bind_eq fun _ =>
    agree_onFile _ (agree_write _ (bypasses_join hname hdir))

theorem agree_saveFrame (hdir : ¬IsOnWay store.dir hidden) {snapshot : FrameSnapshot}
    (hid : Config.isId snapshot.frameId = true) :
    Agree (AlikeBut hidden) Eq (store.saveFrame snapshot) (store.saveFrame snapshot) :=
  (agree_writeDocument hdir (isPlain_frameFile hid _) _).bind_eq fun _ => .pure rfl

theorem agree_saveMergedOver (hdir : ¬IsOnWay store.dir hidden) {task : String}
    (hid : Config.isId task = true) (now : Instant) (old : Option Json) (new : Json) :
    Agree (AlikeBut hidden) Eq (store.saveMergedOver task now old new)
      (store.saveMergedOver task now old new) :=
  ((agree_writeDocument hdir (isPlain_taskFile hid) _).bind_eq fun _ => .pure rfl).bind_eq
    fun _ => .pure rfl

end ContextStore

end ScaffoldRunner
