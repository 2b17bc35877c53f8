import Mathlib.Data.Finset.Card
import Mathlib.Data.Nat.Find
import ScaffoldRunner.Proofs.Workspace.Documents

/-!
# Free names of reports

A report passes over the names that are taken and is written under the first one
that is not.  Its names are all different and lie in one directory, so no more of
them are passed over than lie there, and it does not matter how many more may be
tried.  Reports that are written in turn therefore never meet: each one is a new
file, which the later ones leave as it is.
-/

namespace ScaffoldRunner

theorem DiskFault.error_ne_alreadyExists (fault : DiskFault) :
    fault.error ≠ .alreadyExists := by
  rw [DiskFault.error]
  split <;> simp

namespace FileTree

variable {tree after : FileTree} {place : List String} {path : String} {bytes : ByteArray}

/-- That something is there does not stop a walk. -/
theorem walk_ne_alreadyExists (place names : List String) :
    tree.walk place names ≠ .error .alreadyExists := by
  induction names generalizing place with
  | nil => simp [walk]
  | cons name names ih =>
      rw [walk]
      split
      · simp
      · simp
      · split
        · exact ih place
        · split
          · exact ih place.dropLast
          · split
            · simp
            · exact ih (place ++ [name])

theorem locate_ne_alreadyExists (path : String) :
    tree.locate path ≠ .error .alreadyExists := by
  rw [locate]
  split
  · simp
  · split
    · simp
    · split
      · simp
      · exact walk_ne_alreadyExists [] (steps path)

theorem parentAndName_ne_alreadyExists (path : String) :
    tree.parentAndName path ≠ .error .alreadyExists := by
  unfold parentAndName
  simp only [bind, Except.bind, pure, Except.pure, throw, throwThe, MonadExceptOf.throw]
  split
  · simp
  · split
    · simp
    · split
      · simp
      · split
        · next e hwalk =>
            intro heq
            obtain rfl := Except.error.inj heq
            exact walk_ne_alreadyExists [] _ hwalk
        · split <;> simp

theorem fileTarget_ne_alreadyExists (path : String) :
    tree.fileTarget path ≠ .error .alreadyExists := by
  unfold fileTarget
  simp only [bind, Except.bind, throw, throwThe, MonadExceptOf.throw]
  split
  · next e hparent =>
      intro heq
      obtain rfl := Except.error.inj heq
      exact parentAndName_ne_alreadyExists path hparent
  · split
    · simp
    · exact locate_ne_alreadyExists path

/-- A file is not made because something lies in its place, and then nothing changes. -/
theorem createNew_eq_alreadyExists
    (h : createNew path bytes tree = .error .alreadyExists after) :
    after = tree ∧ ∃ node, tree.get? (placeOf path) = some node := by
  unfold createNew at h
  split at h
  · next e htarget =>
      injection h with he _
      exact absurd (he ▸ htarget) (fileTarget_ne_alreadyExists path)
  · next target htarget =>
      split at h
      · next node hnode =>
          injection h with _ hafter
          rw [← placeOf_of_locate (fileTarget_eq_ok htarget).1]
          exact ⟨hafter.symm, node, hnode⟩
      · obtain ⟨fault, -, he, -⟩ := fill_eq_error h
        exact absurd he.symm fault.error_ne_alreadyExists

/-- Where there is a place for a file and the disk takes it, the only error is that the place
is taken. -/
theorem eq_alreadyExists_of_createNew {e : OsError} {target : List String}
    (htarget : tree.fileTarget path = .ok target) (htakes : tree.Takes path)
    (h : createNew path bytes tree = .error e after) : e = .alreadyExists := by
  simp only [createNew, htarget] at h
  split at h
  · injection h with he _
    exact he.symm
  · obtain ⟨fault, hfault, -, -⟩ := fill_eq_error h
    rw [placeOf_of_locate (fileTarget_eq_ok htarget).1, htakes bytes] at hfault
    cases hfault

theorem createNew_eq_ok (h : createNew path bytes tree = .ok () after) :
    ∃ target, tree.fileTarget path = .ok target ∧ tree.get? target = none ∧
      after = tree.insert target (.file bytes Node.plainMode) := by
  unfold createNew at h
  split at h
  · simp at h
  · next target htarget =>
      split at h
      · simp at h
      · next hnone => exact ⟨target, htarget, hnone, fill_eq_ok h⟩

/-- What was written into a new file can be read. -/
theorem readBytes_of_createNew (h : createNew path bytes tree = .ok () after) :
    after.readBytes path = .ok bytes := by
  obtain ⟨target, htarget, hnone, rfl⟩ := createNew_eq_ok h
  exact readBytes_insert htarget (by simp [hnone]) _ _

/-- The names of what lies in a directory. -/
def namesIn (tree : FileTree) (folder : List String) : Finset String :=
  (tree.entries.filterMap fun entry =>
    if entry.1.dropLast = folder then entry.1.getLast? else none).toFinset

theorem mem_namesIn {folder : List String} {name : String} :
    name ∈ tree.namesIn folder ↔ ∃ node, tree.get? (folder ++ [name]) = some node := by
  have hlast (place : List String) :
      (if place.dropLast = folder then place.getLast? else none) = some name ↔
        place = folder ++ [name] := by
    constructor
    · intro h
      split at h
      · next hfolder =>
          obtain ⟨front, rfl⟩ := List.getLast?_eq_some_iff.mp h
          rw [← hfolder, List.dropLast_concat]
      · cases h
    · rintro rfl
      rw [List.dropLast_concat, if_pos rfl, List.getLast?_concat]
  have hne : folder ++ [name] ≠ [] := by simp
  rw [namesIn, List.mem_toFinset, List.mem_filterMap, get?, if_neg hne]
  constructor
  · rintro ⟨entry, hentry, hname⟩
    have hfound : (tree.entries.find? fun e => e.1 = folder ++ [name]).isSome :=
      List.find?_isSome.mpr ⟨entry, hentry, decide_eq_true ((hlast entry.1).mp hname)⟩
    obtain ⟨found, hfound⟩ := Option.isSome_iff_exists.mp hfound
    exact ⟨found.2, by rw [hfound]; rfl⟩
  · rintro ⟨node, hnode⟩
    obtain ⟨entry, hentry, -⟩ := Option.map_eq_some_iff.mp hnode
    have hplace : entry.1 = folder ++ [name] := by simpa using List.find?_some hentry
    exact ⟨entry, List.mem_of_find?_eq_some hentry, (hlast entry.1).mpr hplace⟩

/-- No directory has more names in it than there are entries. -/
theorem card_namesIn_le (tree : FileTree) (folder : List String) :
    (tree.namesIn folder).card ≤ tree.entries.length :=
  (List.toFinset_card_le _).trans (List.length_filterMap_le _ _)

end FileTree

/-- A report that is asked for. -/
structure ReportRequest where
  subject : String
  now : Instant
  document : Json

namespace ReportRequest

def bytes (r : ReportRequest) : ByteArray := r.document.pretty.toUTF8

/-- The name of a report: its subject, the second and, if that name is passed over, a number. -/
def name (r : ReportRequest) (n : Nat) : String :=
  r.subject ++ "_" ++ r.now.fileStamp ++ (if n = 0 then "" else "_" ++ toString n) ++ ".json"

theorem fileName_stem (r : ReportRequest) (n : Nat) :
    ReportDirectory.fileName (ReportDirectory.stem r.subject r.now) n = r.name n := by
  cases n with
  | zero => simp only [ReportDirectory.fileName, ReportDirectory.stem, name, if_pos,
      String.append_empty]
  | succ n =>
      have hne : n + 1 ≠ 0 := Nat.succ_ne_zero n
      simp only [ReportDirectory.fileName, ReportDirectory.stem, name, if_neg hne,
        String.append_assoc]

theorem isPlain_name (r : ReportRequest) (hsubject : '/' ∉ r.subject.toList) (n : Nat) :
    Path.IsPlain (r.name n) :=
  r.fileName_stem n ▸ ReportDirectory.isPlain_fileName hsubject r.now n

end ReportRequest

namespace ReportDirectory

open FileTree

theorem fileName_injective (base : String) : Function.Injective (fileName base) := by
  have hne (n : Nat) : fileName base 0 ≠ fileName base (n + 1) := by
    intro heq
    have hlength := congrArg String.length heq
    simp only [fileName, String.length_append] at hlength
    have hmark : "_".length = 1 := rfl
    omega
  intro m n heq
  match m, n with
  | 0, 0 => rfl
  | 0, n + 1 => exact absurd heq (hne n)
  | m + 1, 0 => exact absurd heq.symm (hne m)
  | m + 1, n + 1 =>
      simp only [fileName, String.append_left_inj, String.append_right_inj] at heq
      exact toString_nat_injective heq

/-- The path of a report after a number of collisions. -/
def pathOf (reports : ReportDirectory) (r : ReportRequest) (n : Nat) : String :=
  Path.join reports.dir (r.name n)

/-- Something lies under the name of a report after a number of collisions. -/
def IsTaken (reports : ReportDirectory) (r : ReportRequest) (tree : FileTree) (n : Nat) : Prop :=
  createNew (reports.pathOf r n) r.bytes tree = .error .alreadyExists tree

variable {reports : ReportDirectory} {r : ReportRequest} {tree made after : FileTree} {n : Nat}
variable {path : String}

theorem pathOf_eq (reports : ReportDirectory) (r : ReportRequest) (n : Nat) :
    reports.pathOf r n = Path.join reports.dir (fileName (stem r.subject r.now) n) := by
  rw [pathOf, r.fileName_stem]

/-- What a report is named for may lead to another directory.  Its names all lie in one
directory, and they are different. -/
theorem exists_placeOf_pathOf (reports : ReportDirectory) (r : ReportRequest) :
    ∃ folder : List String, ∃ name : Nat → String, Function.Injective name ∧
      ∀ n, placeOf (reports.pathOf r n) = folder ++ [name n] := by
  obtain ⟨front, last, hsubject, hfront, hlast⟩ := Path.exists_front r.subject
  obtain ⟨above, habove, hjoin⟩ := hfront.exists_join reports.dir
  have hname (n : Nat) :
      fileName (stem r.subject r.now) n = front ++ fileName (stem last r.now) n := by
    cases n <;> simp only [fileName, stem, hsubject, String.append_assoc]
  refine ⟨placeOf above, fileName (stem last r.now), fileName_injective _, fun n => ?_⟩
  rw [pathOf_eq, hname, hjoin _ (isPlain_fileName hlast r.now n),
    placeOf_append habove (isPlain_fileName hlast r.now n)]

theorem placeOf_pathOf (hsubject : '/' ∉ r.subject.toList) (n : Nat) :
    placeOf (reports.pathOf r n) = placeOf reports.dir ++ [r.name n] :=
  placeOf_join reports.dir (r.isPlain_name hsubject n)

/-- As many names as are passed over lie in the directory. -/
theorem le_card_of_places
    (htaken : ∀ k < n, ∃ node, tree.get? (placeOf (reports.pathOf r k)) = some node) :
    n ≤ (tree.namesIn (placeOf (reports.pathOf r n)).dropLast).card := by
  obtain ⟨folder, name, hinjective, hplace⟩ := reports.exists_placeOf_pathOf r
  rw [hplace, List.dropLast_concat]
  have hsub : (Finset.range n).image name ⊆ tree.namesIn folder := by
    intro other hother
    obtain ⟨k, hk, rfl⟩ := Finset.mem_image.mp hother
    have hnode := htaken k (Finset.mem_range.mp hk)
    rw [hplace] at hnode
    exact mem_namesIn.mpr hnode
  calc n
    _ = ((Finset.range n).image name).card := by
        rw [Finset.card_image_of_injective _ hinjective, Finset.card_range]
    _ ≤ (tree.namesIn folder).card := Finset.card_le_card hsub

theorem IsTaken.exists_node (h : reports.IsTaken r tree n) :
    ∃ node, tree.get? (placeOf (reports.pathOf r n)) = some node :=
  (createNew_eq_alreadyExists h).2

/-- Not all of the names are taken that are tried. -/
theorem exists_not_isTaken (reports : ReportDirectory) (r : ReportRequest) (tree : FileTree) :
    ∃ n ≤ tree.entries.length, ¬reports.IsTaken r tree n := by
  by_contra hall
  push Not at hall
  have hmany : tree.entries.length + 1 ≤ _ :=
    le_card_of_places fun k hk => (hall k (Nat.lt_succ_iff.mp hk)).exists_node
  have hfew := tree.card_namesIn_le
    (placeOf (reports.pathOf r (tree.entries.length + 1))).dropLast
  omega

/-- The first free name, which is among those that are tried. -/
theorem exists_first (reports : ReportDirectory) (r : ReportRequest) (tree : FileTree) :
    ∃ n ≤ tree.entries.length, ¬reports.IsTaken r tree n ∧
      ∀ k < n, reports.IsTaken r tree k := by
  classical
  obtain ⟨n, hn, hfree⟩ := reports.exists_not_isTaken r tree
  have hexists : ∃ n, ¬reports.IsTaken r tree n := ⟨n, hfree⟩
  refine ⟨Nat.find hexists, Nat.le_trans (Nat.find_min' hexists hfree) hn,
    Nat.find_spec hexists, ?_⟩
  intro k hk
  exact not_not.mp (Nat.find_min hexists hk)

/-- What comes of a report under one of its names. -/
def createAt (reports : ReportDirectory) (r : ReportRequest) (n : Nat) : FileM String := do
  createNew (reports.pathOf r n) r.bytes
  return reports.pathOf r n

theorem createAt_eq (reports : ReportDirectory) (r : ReportRequest) (n : Nat) (tree : FileTree) :
    reports.createAt r n tree =
      match createNew (reports.pathOf r n) r.bytes tree with
      | .ok () after => .ok (reports.pathOf r n) after
      | .error e after => .error e after := by
  change EStateM.bind (createNew (reports.pathOf r n) r.bytes) _ tree = _
  rw [EStateM.bind]
  cases createNew (reports.pathOf r n) r.bytes tree <;> rfl

theorem createFree_eq_createAt {start tries : Nat} (hstart : start ≤ n)
    (htries : n < start + tries) (hfree : ¬reports.IsTaken r tree n)
    (htaken : ∀ k < n, start ≤ k → reports.IsTaken r tree k) :
    createFree reports.dir (stem r.subject r.now) r.bytes tries start tree =
      reports.createAt r n tree := by
  induction tries generalizing start with
  | zero => omega
  | succ tries ih =>
      rw [createFree_succ, ← pathOf_eq]
      rcases Nat.eq_or_lt_of_le hstart with rfl | hlt
      · rw [createAt_eq]
        split
        · next after hnew => rw [hnew]
        · next after hnew =>
            obtain rfl := (createNew_eq_alreadyExists hnew).1
            exact absurd hnew hfree
        · next e after _ hnew => rw [hnew]
      · have hhere : createNew (reports.pathOf r start) r.bytes tree =
            .error .alreadyExists tree := htaken start hlt (Nat.le_refl start)
        rw [hhere]
        exact ih hlt (by omega) fun k hk hle => htaken k hk (by omega)

/-- A report is written under the first free name in its directory, once that is
made. -/
theorem write_eq (reports : ReportDirectory) (r : ReportRequest) (tree : FileTree) :
    match createDirAll reports.dir tree with
    | .error e made => reports.write r.subject r.now r.document tree = .error e made
    | .ok () made => ∃ n ≤ made.entries.length,
        ¬reports.IsTaken r made n ∧ (∀ k < n, reports.IsTaken r made k) ∧
        reports.write r.subject r.now r.document tree = reports.createAt r n made := by
  have hwrite : reports.write r.subject r.now r.document tree =
      match createDirAll reports.dir tree with
      | .error e made => .error e made
      | .ok () made => createFree reports.dir (stem r.subject r.now) r.bytes
          (made.entries.length + 1) 0 made := by
    change EStateM.bind (createDirAll reports.dir) _ tree = _
    rw [EStateM.bind]
    cases createDirAll reports.dir tree <;> rfl
  rw [hwrite]
  cases createDirAll reports.dir tree with
  | error e made => rfl
  | ok u made =>
      obtain ⟨n, hn, hfree, htaken⟩ := reports.exists_first r made
      exact ⟨n, hn, hfree, htaken, createFree_eq_createAt (Nat.zero_le n) (by omega) hfree
        fun k hk _ => htaken k hk⟩

/-- A report can be read at the path that it was given, which is in the directory. -/
theorem readBytes_of_write
    (h : reports.write r.subject r.now r.document tree = .ok path after) :
    (∃ n, path = reports.pathOf r n) ∧ after.readBytes path = .ok r.bytes := by
  have hwrite := reports.write_eq r tree
  split at hwrite
  · rw [hwrite] at h
    simp at h
  · obtain ⟨n, -, -, -, hat⟩ := hwrite
    rw [hat, createAt_eq] at h
    split at h
    · next made hnew =>
        obtain ⟨rfl, rfl⟩ := EStateM.Result.ok.inj h
        exact ⟨⟨n, rfl⟩, readBytes_of_createNew hnew⟩
    · simp at h

/-! ## Reports in turn -/

/-- A report is a new file in a tree, under the first of its names that is free: at most as
many are passed over as lie in its directory, so that one more try is enough. -/
structure IsAdded (reports : ReportDirectory) (r : ReportRequest) (tree : FileTree) (n : Nat)
    (path : String) (after : FileTree) : Prop where
  path_eq : path = reports.pathOf r n
  within : '/' ∉ r.subject.toList → placeOf path = placeOf reports.dir ++ [r.name n]
  taken : ∀ k < n, ∃ node, tree.get? (placeOf (reports.pathOf r k)) = some node
  free : tree.get? (placeOf path) = none
  bounded : n ≤ (tree.namesIn (placeOf path).dropLast).card
  enough : ∀ tries, (tree.namesIn (placeOf path).dropLast).card < tries →
    createFree reports.dir (stem r.subject r.now) r.bytes tries 0 tree = .ok path after
  holds : after.get? (placeOf path) = some (.file r.bytes Node.plainMode)
  reads : after.readBytes path = .ok r.bytes
  others : ∀ place ≠ placeOf path, after.get? place = tree.get? place

/-- A report is written into its directory, which is made if it is missing. -/
structure IsWritten (reports : ReportDirectory) (r : ReportRequest) (tree : FileTree)
    (path : String) (after : FileTree) : Prop where
  added : ∃ made n, createDirAll reports.dir tree = .ok () made ∧
    (tree.isDir reports.dir = true → made = tree) ∧ reports.IsAdded r made n path after
  fresh : tree.get? (placeOf path) = none
  keeps : ∀ place node, tree.get? place = some node → after.get? place = some node
  keeps_reading : ∀ other bytes, tree.readBytes other = .ok bytes →
    after.readBytes other = .ok bytes

/-- Nothing hinders a report but names that are taken: its directory can be made, and no
name that is tried is refused for another reason. -/
def IsUnhindered (reports : ReportDirectory) (r : ReportRequest) (tree : FileTree) : Prop :=
  ∃ made, createDirAll reports.dir tree = .ok () made ∧
    ∀ n e after, (∀ k < n, ∃ node, made.get? (placeOf (reports.pathOf r k)) = some node) →
      createNew (reports.pathOf r n) r.bytes made = .error e after → e = .alreadyExists

theorem isAdded_of_createNew (htaken : ∀ k < n, reports.IsTaken r made k)
    (hnew : createNew (reports.pathOf r n) r.bytes made = .ok () after) :
    reports.IsAdded r made n (reports.pathOf r n) after := by
  have hplaces : ∀ k < n, ∃ node, made.get? (placeOf (reports.pathOf r k)) = some node :=
    fun k hk => (htaken k hk).exists_node
  have hbound := le_card_of_places hplaces
  obtain ⟨target, htarget, hnone, hafter⟩ := createNew_eq_ok hnew
  obtain rfl : target = placeOf (reports.pathOf r n) :=
    placeOf_of_locate (fileTarget_eq_ok htarget).1
  have hfile : made.get? (placeOf (reports.pathOf r n)) ≠ some .dir := by simp [hnone]
  have hget := get?_insert made (ne_root_of_file hfile) (.file r.bytes Node.plainMode)
  rw [← hafter] at hget
  have hfree : ¬reports.IsTaken r made n := by
    intro hfails
    rw [IsTaken, hnew] at hfails
    cases hfails
  exact {
    path_eq := rfl
    within := fun hsubject => placeOf_pathOf hsubject n
    taken := hplaces
    free := hnone
    bounded := hbound
    enough := by
      intro tries htries
      rw [createFree_eq_createAt (Nat.zero_le n) (by omega) hfree fun k hk _ => htaken k hk,
        createAt_eq, hnew]
    holds := by rw [hget, if_pos rfl]
    reads := readBytes_of_createNew hnew
    others := fun place hplace => by rw [hget, if_neg hplace] }

/-- What was there before the directory was made is there after the report was added. -/
theorem IsAdded.isWritten (hmade : createDirAll reports.dir tree = .ok () made)
    (hadded : reports.IsAdded r made n path after)
    (hwrite : reports.write r.subject r.now r.document tree = .ok path after) :
    reports.IsWritten r tree path after := by
  have hmakes := enlarges_createDirAll reports.dir tree
  rw [hmade] at hmakes
  have hgrows := reports.enlarges_write r.subject r.now r.document tree
  rw [hwrite] at hgrows
  refine ⟨⟨made, n, hmade, fun hdir => ?_, hadded⟩, ?_,
    fun place node hnode => hgrows.get?_of_fresh (fun _ hP => hP.2) hnode,
    fun other bytes hread => hgrows.readBytes (fun _ hP => hP.2) hread⟩
  · rw [createDirAll_of_isDir hdir] at hmade
    exact (EStateM.Result.ok.inj hmade).2.symm
  · rw [Option.eq_none_iff_forall_ne_some]
    intro node hnode
    have hthere : made.get? (placeOf path) = some node :=
      hmakes.get?_of_fresh (fun _ hP => hP.2) hnode
    rw [hadded.free] at hthere
    cases hthere

/-- A report that nothing hinders is written. -/
theorem IsUnhindered.exists_isWritten (h : reports.IsUnhindered r tree) :
    ∃ path after, reports.write r.subject r.now r.document tree = .ok path after ∧
      reports.IsWritten r tree path after := by
  obtain ⟨made, hmade, hrefused⟩ := h
  have hwrite := reports.write_eq r tree
  rw [hmade] at hwrite
  obtain ⟨n, -, hfree, htaken, hat⟩ := hwrite
  rw [createAt_eq] at hat
  cases hnew : createNew (reports.pathOf r n) r.bytes made with
  | error e after =>
      -- The only error that is left says that the name is taken.
      obtain rfl := hrefused n e after (fun k hk => (htaken k hk).exists_node) hnew
      obtain rfl := (createNew_eq_alreadyExists hnew).1
      exact absurd hnew hfree
  | ok u after =>
      have hadded := isAdded_of_createNew htaken hnew
      rw [hnew] at hat
      exact ⟨reports.pathOf r n, after, hat, hadded.isWritten hmade hat⟩

/-! ### Reports that nothing hinders -/

/-- The directory can be made, and there is a place in it for every file that a
report may be written to, which the disk takes. -/
def IsWritable (reports : ReportDirectory) (subject : String) (now : Instant)
    (tree : FileTree) : Prop :=
  ∃ made, createDirAll reports.dir tree = .ok () made ∧
    ∀ n ≤ made.entries.length,
      (∃ place, made.fileTarget (Path.join reports.dir (fileName (stem subject now) n)) =
        .ok place) ∧
      made.Takes (Path.join reports.dir (fileName (stem subject now) n))

theorem IsWritable.isUnhindered (h : reports.IsWritable r.subject r.now tree) :
    reports.IsUnhindered r tree := by
  obtain ⟨made, hmade, htargets⟩ := h
  refine ⟨made, hmade, fun n e after htaken hnew => ?_⟩
  obtain ⟨⟨place, hplace⟩, htakes⟩ :=
    htargets n ((le_card_of_places htaken).trans (made.card_namesIn_le _))
  rw [← pathOf_eq] at hplace htakes
  exact eq_alreadyExists_of_createNew hplace htakes hnew

theorem IsWritable.exists_write {subject : String} {now : Instant}
    (h : reports.IsWritable subject now tree) (document : Json) :
    ∃ path after, reports.write subject now document tree = .ok path after := by
  have hunhindered : reports.IsUnhindered ⟨subject, now, document⟩ tree :=
    IsWritable.isUnhindered h
  obtain ⟨path, after, hwrite, -⟩ := hunhindered.exists_isWritten
  exact ⟨path, after, hwrite⟩

/-- A name for a report that can be walked to in its directory. -/
def Fits (reports : ReportDirectory) (r : ReportRequest) (n : Nat) : Prop :=
  '/' ∉ r.subject.toList ∧ '\x00' ∉ (reports.pathOf r n).toList ∧
    (r.name n).utf8ByteSize ≤ maxName ∧ (reports.pathOf r n).utf8ByteSize ≤ maxPath

instance (reports : ReportDirectory) (r : ReportRequest) (n : Nat) :
    Decidable (reports.Fits r n) :=
  inferInstanceAs (Decidable (_ ∧ _ ∧ _ ∧ _))

theorem Fits.exists_fileTarget (h : reports.Fits r n) (hdir : tree.isDir reports.dir = true) :
    ∃ place, tree.fileTarget (reports.pathOf r n) = .ok place := by
  obtain ⟨hsubject, hnul, hname, hpath⟩ := h
  exact exists_fileTarget_of_isDir hdir (r.isPlain_name hsubject n) hname hpath hnul

/-- A directory that can be made is writable for reports with names that fit, on a disk that
takes them. -/
theorem isWritable_of_isDir {subject : String} {now : Instant}
    (hmade : createDirAll reports.dir tree = .ok () made) (hdir : made.isDir reports.dir = true)
    (htakes : ∀ n, made.Takes (reports.pathOf ⟨subject, now, .null⟩ n))
    (hfits : ∀ n ≤ made.entries.length, reports.Fits ⟨subject, now, .null⟩ n) :
    reports.IsWritable subject now tree := by
  refine ⟨made, hmade, fun n hn => ?_⟩
  have hplace := (hfits n hn).exists_fileTarget hdir
  have htake := htakes n
  rw [pathOf_eq] at hplace htake
  exact ⟨hplace, htake⟩

/-- In a directory that is there, on a disk that takes the report, only names that do not fit
are refused. -/
theorem isUnhindered_of_isDir (hdir : tree.isDir reports.dir = true)
    (htakes : ∀ n, tree.Takes (reports.pathOf r n))
    (hfits : ∀ n ≤ (tree.namesIn (placeOf reports.dir)).card, reports.Fits r n) :
    reports.IsUnhindered r tree := by
  refine ⟨tree, createDirAll_of_isDir hdir, fun n e after htaken hnew => ?_⟩
  have hle := le_card_of_places htaken
  rw [placeOf_pathOf (hfits 0 (Nat.zero_le _)).1, List.dropLast_concat] at hle
  obtain ⟨place, hplace⟩ := (hfits n hle).exists_fileTarget hdir
  exact eq_alreadyExists_of_createNew hplace (htakes n) hnew

/-- One more name lies in the directory when a report was written. -/
theorem IsAdded.card_namesIn_le (h : reports.IsAdded r tree n path after)
    (hsubject : '/' ∉ r.subject.toList) :
    (after.namesIn (placeOf reports.dir)).card ≤
      (tree.namesIn (placeOf reports.dir)).card + 1 := by
  have hsub : after.namesIn (placeOf reports.dir) ⊆
      insert (r.name n) (tree.namesIn (placeOf reports.dir)) := by
    intro name hname
    obtain ⟨node, hnode⟩ := mem_namesIn.mp hname
    rw [Finset.mem_insert]
    by_cases hnew : name = r.name n
    · exact .inl hnew
    · rw [h.others _ (by simpa [h.within hsubject] using hnew)] at hnode
      exact .inr (mem_namesIn.mpr ⟨node, hnode⟩)
  exact (Finset.card_le_card hsub).trans (Finset.card_insert_le _ _)

/-! ### Sequences of reports -/

/-- Write some reports in turn; the answer is their paths. -/
def writeEach (reports : ReportDirectory) (requests : List ReportRequest) :
    FileM (List String) :=
  requests.mapM fun r => reports.write r.subject r.now r.document

/-- Nothing hinders any of some reports that are written in turn. -/
def AreUnhindered (reports : ReportDirectory) : List ReportRequest → FileTree → Prop
  | [], _ => True
  | r :: requests, tree => reports.IsUnhindered r tree ∧
      ∀ path after, reports.write r.subject r.now r.document tree = .ok path after →
        AreUnhindered reports requests after

/-- Some reports are written in turn. -/
inductive AreWritten (reports : ReportDirectory) :
    List ReportRequest → FileTree → List String → FileTree → Prop
  | nil (tree : FileTree) : AreWritten reports [] tree [] tree
  | cons {r : ReportRequest} {requests : List ReportRequest} {tree middle after : FileTree}
      {path : String} {paths : List String} :
      reports.IsWritten r tree path middle → AreWritten reports requests middle paths after →
        AreWritten reports (r :: requests) tree (path :: paths) after

variable {requests : List ReportRequest} {paths : List String}

/-- Reports are not hindered in a directory that is there, if as many names fit as may be
tried and the disk takes them. -/
theorem areUnhindered_of_isDir (hdir : tree.isDir reports.dir = true)
    (htakes : ∀ r ∈ requests, ∀ n, tree.Takes (reports.pathOf r n))
    (hfits : ∀ r ∈ requests,
      ∀ n ≤ (tree.namesIn (placeOf reports.dir)).card + requests.length, reports.Fits r n) :
    reports.AreUnhindered requests tree := by
  induction requests generalizing tree with
  | nil => trivial
  | cons r requests ih =>
      obtain ⟨hfirst, hrest⟩ := List.forall_mem_cons.mp hfits
      obtain ⟨htake, htakes⟩ := List.forall_mem_cons.mp htakes
      have hunhindered : reports.IsUnhindered r tree :=
        isUnhindered_of_isDir hdir htake fun n hn => hfirst n (by omega)
      refine ⟨hunhindered, fun path after hwrite => ?_⟩
      obtain ⟨path', after', hwrite', hwritten⟩ := hunhindered.exists_isWritten
      obtain ⟨rfl, rfl⟩ := EStateM.Result.ok.inj (hwrite.symm.trans hwrite')
      obtain ⟨made, n, -, hmade, hadded⟩ := hwritten.added
      obtain rfl := hmade hdir
      have hcard := hadded.card_namesIn_le (hfirst 0 (Nat.zero_le _)).1
      have hgrows := reports.enlarges_write r.subject r.now r.document made
      rw [hwrite] at hgrows
      have hdisk : after.fault? = made.fault? := hgrows.fault?_eq
      refine ih (hgrows.isDir hdir) (fun other hother n => ?_) fun other hother n hn =>
        hrest other hother n ?_
      · rw [Takes, hdisk]
        exact htakes other hother n
      rw [List.length_cons]
      omega

theorem AreUnhindered.exists_areWritten (h : reports.AreUnhindered requests tree) :
    ∃ paths after, reports.writeEach requests tree = .ok paths after ∧
      reports.AreWritten requests tree paths after := by
  induction requests generalizing tree with
  | nil => exact ⟨[], tree, rfl, .nil tree⟩
  | cons r requests ih =>
      obtain ⟨hfirst, hrest⟩ := h
      obtain ⟨path, middle, hwrite, hwritten⟩ := hfirst.exists_isWritten
      obtain ⟨paths, after, heach, hothers⟩ := ih (hrest path middle hwrite)
      refine ⟨path :: paths, after, ?_, .cons hwritten hothers⟩
      rw [writeEach] at heach ⊢
      rw [List.mapM_cons]
      change EStateM.bind (reports.write r.subject r.now r.document) _ tree = _
      rw [EStateM.bind, hwrite]
      change EStateM.bind (requests.mapM _) _ middle = _
      rw [EStateM.bind, heach]
      rfl

/-- The places of reports that are written in turn were free before. -/
theorem AreWritten.fresh (h : reports.AreWritten requests tree paths after) :
    ∀ path ∈ paths, tree.get? (placeOf path) = none := by
  induction h with
  | nil => nofun
  | cons hwritten _ ih =>
      rw [List.forall_mem_cons]
      refine ⟨hwritten.fresh, fun path hpath => ?_⟩
      rw [Option.eq_none_iff_forall_ne_some]
      intro node hnode
      have hthere := hwritten.keeps _ node hnode
      rw [ih path hpath] at hthere
      cases hthere

theorem AreWritten.keeps_reading (h : reports.AreWritten requests tree paths after)
    {other : String} {bytes : ByteArray} (hread : tree.readBytes other = .ok bytes) :
    after.readBytes other = .ok bytes := by
  induction h with
  | nil => exact hread
  | cons hwritten _ ih => exact ih (hwritten.keeps_reading other bytes hread)

theorem AreWritten.nodup (h : reports.AreWritten requests tree paths after) : paths.Nodup := by
  induction h with
  | nil => exact List.nodup_nil
  | cons hwritten hothers ih =>
      refine List.nodup_cons.mpr ⟨fun hmem => ?_, ih⟩
      obtain ⟨_, _, _, _, hadded⟩ := hwritten.added
      have hfree := hothers.fresh _ hmem
      rw [hadded.holds] at hfree
      cases hfree

/-- Every report can be read where it was written, when all are. -/
theorem AreWritten.reads (h : reports.AreWritten requests tree paths after) :
    List.Forall₂ (fun r path => after.readBytes path = .ok r.bytes) requests paths := by
  induction h with
  | nil => exact .nil
  | cons hwritten hothers ih =>
      obtain ⟨_, _, _, _, hadded⟩ := hwritten.added
      exact .cons (hothers.keeps_reading hadded.reads) ih

/-- Reports that nothing hinders are written in turn, each as one new file under the first of
its names that is free.  Their paths are all different, whatever they are named for and
whenever they are written, and all of them hold in the end what they held at first. -/
theorem writeEach_unhindered (h : reports.AreUnhindered requests tree) :
    ∃ paths after, reports.writeEach requests tree = .ok paths after ∧
      reports.AreWritten requests tree paths after ∧ paths.Nodup ∧
      List.Forall₂ (fun r path => after.readBytes path = .ok r.bytes) requests paths := by
  obtain ⟨paths, after, heach, hwritten⟩ := h.exists_areWritten
  exact ⟨paths, after, heach, hwritten, hwritten.nodup, hwritten.reads⟩

/-- A directory that has the name of the first report on a failure. -/
def crowdedTree : FileTree :=
  { entries := [(["r"], .dir), (["r", "framework_failure_19700101_000000.json"], .dir)] }

/-- Two reports on failures and an audit report, all of one second. -/
def sameSecond : List ReportRequest :=
  [⟨failureSubject, ⟨0, 0⟩, .null⟩, ⟨failureSubject, ⟨0, 0⟩, .bool true⟩,
    ⟨auditSubject "s", ⟨0, 0⟩, .null⟩]

theorem writeEach_sameSecond :
    AreUnhindered ⟨"/r"⟩ sameSecond crowdedTree ∧
      answerOf (writeEach ⟨"/r"⟩ sameSecond crowdedTree) =
        .ok ["/r/framework_failure_19700101_000000_1.json",
          "/r/framework_failure_19700101_000000_2.json",
          "/r/meta_analysis_s_19700101_000000.json"] ∧
      ∃ paths after, writeEach ⟨"/r"⟩ sameSecond crowdedTree = .ok paths after ∧
        AreWritten ⟨"/r"⟩ sameSecond crowdedTree paths after ∧ paths.Nodup ∧
        List.Forall₂ (fun r path => after.readBytes path = .ok r.bytes) sameSecond paths := by
  have hunhindered : AreUnhindered ⟨"/r"⟩ sameSecond crowdedTree :=
    areUnhindered_of_isDir (by decide +kernel) (fun _ _ _ _ => rfl) (by decide +kernel)
  exact ⟨hunhindered, by decide +kernel, writeEach_unhindered hunhindered⟩

end ReportDirectory

end ScaffoldRunner
