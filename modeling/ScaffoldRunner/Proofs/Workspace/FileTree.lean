import Mathlib.Data.List.Induction
import ScaffoldRunner.Proofs.Action
import ScaffoldRunner.Proofs.Workspace.Path

/-!
# Growing trees

No operation of a run removes anything: nodes are put at places where there is
nothing yet, or a file is put in the place of a file.  So a tree `Grows` into
another one, and each operation is known by the places at which it may make the
tree grow.  What a path leads to can only change at these places, or because a
directory that was missing on the way was made.
-/

namespace ScaffoldRunner

namespace FileTree

variable {tree after : FileTree} {place : List String}

@[simp] theorem get?_root (tree : FileTree) : tree.get? [] = some .dir :=
  if_pos rfl

theorem get?_insert (tree : FileTree) {place : List String} (hplace : place ≠ [])
    (node : Node) (other : List String) :
    (tree.insert place node).get? other = if other = place then some node else tree.get? other := by
  by_cases hroot : other = []
  · rw [hroot, get?_root, get?_root, if_neg (Ne.symm hplace)]
  · rw [get?, get?, if_neg hroot, if_neg hroot, insert]
    by_cases hother : other = place
    · simp [hother]
    · have hne : ¬place = other := fun h => hother h.symm
      rw [if_neg hother, List.find?_cons_of_neg (by simpa using hne), List.find?_filter]
      congr 2
      funext entry
      by_cases hentry : entry.1 = other <;> simp [hentry, hother]

/-! ## Walking -/

/-- A walk ends where the names lead to. -/
theorem resolve_of_walk {names reached : List String}
    (h : tree.walk place names = .ok reached) : reached = resolve place names := by
  induction names generalizing place with
  | nil => exact (Except.ok.inj h).symm
  | cons name names ih =>
      rw [walk] at h
      rw [resolve]
      split at h
      · simp at h
      · simp at h
      · split at h
        · next hhere =>
            rw [if_pos hhere]
            exact ih h
        · next hhere =>
            rw [if_neg hhere]
            split at h
            · next habove =>
                rw [if_pos habove]
                exact ih h
            · next habove =>
                rw [if_neg habove]
                split at h
                · simp at h
                · exact ih h

/-- A walk only asks for directories. -/
theorem walk_of_dirs (hdirs : ∀ place, tree.get? place = some .dir → after.get? place = some .dir)
    {names reached : List String} (h : tree.walk place names = .ok reached) :
    after.walk place names = .ok reached := by
  induction names generalizing place with
  | nil => exact h
  | cons name names ih =>
      rw [walk] at h ⊢
      split at h
      · simp at h
      · simp at h
      · next hdir =>
          rw [hdirs place hdir]
          split at h
          · next hhere =>
              simp only [if_pos hhere]
              exact ih h
          · next hhere =>
              simp only [if_neg hhere]
              split at h
              · next habove =>
                  rw [if_pos habove]
                  exact ih h
              · next habove =>
                  rw [if_neg habove]
                  split at h
                  · simp at h
                  · next hsize =>
                      rw [if_neg hsize]
                      exact ih h

/-- The names that are followed are not too long. -/
theorem size_of_walk {names reached : List String} (h : tree.walk place names = .ok reached) :
    ∀ name ∈ names, name.utf8ByteSize ≤ maxName := by
  induction names generalizing place with
  | nil => simp
  | cons name names ih =>
      rw [walk] at h
      rw [List.forall_mem_cons]
      split at h
      · simp at h
      · simp at h
      · split at h
        · next hhere => exact ⟨by rw [hhere]; decide, ih h⟩
        · split at h
          · next habove => exact ⟨by rw [habove]; decide, ih h⟩
          · split at h
            · simp at h
            · next hsize => exact ⟨by omega, ih h⟩

theorem locate_eq_ok {path : String} {reached : List String} :
    tree.locate path = .ok reached ↔
      (path.toList.contains '\x00' = false ∧ path ≠ "" ∧ path.utf8ByteSize ≤ maxPath) ∧
        tree.walk [] (steps path) = .ok reached := by
  rw [locate]
  by_cases hnul : path.toList.contains '\x00' = true
  · rw [if_pos hnul, hnul]
    simp
  · by_cases hempty : path = ""
    · simp [hempty]
    · by_cases hsize : maxPath < path.utf8ByteSize
      · simp only [if_neg hnul, if_neg hempty, if_pos hsize]
        have hnot : ¬path.utf8ByteSize ≤ maxPath := by omega
        simp [hnot]
      · simp only [if_neg hnul, if_neg hempty, if_neg hsize]
        have hle : path.utf8ByteSize ≤ maxPath := by omega
        simp_all

theorem placeOf_of_locate {path : String} {target : List String}
    (h : tree.locate path = .ok target) : target = placeOf path :=
  resolve_of_walk (locate_eq_ok.mp h).2

theorem lookup_eq_ok {path : String} {node : Node} :
    tree.lookup path = .ok node ↔
      ∃ reached, tree.locate path = .ok reached ∧ tree.get? reached = some node := by
  rw [lookup]
  cases hlocate : tree.locate path with
  | error e => simp [bind, Except.bind]
  | ok reached =>
      cases hnode : tree.get? reached <;>
        simp [bind, Except.bind, pure, Except.pure, throw, throwThe, MonadExceptOf.throw, hnode]

theorem readBytes_eq_ok {path : String} {bytes : ByteArray} :
    tree.readBytes path = .ok bytes ↔ ∃ mode, tree.lookup path = .ok (.file bytes mode) := by
  rw [readBytes]
  cases tree.lookup path with
  | error e => simp [bind, Except.bind]
  | ok node =>
      cases node <;>
        simp [bind, Except.bind, pure, Except.pure, throw, throwThe, MonadExceptOf.throw]

theorem isDir_iff {path : String} : tree.isDir path = true ↔ tree.lookup path = .ok .dir := by
  rw [isDir]
  split
  · next hlookup => simp [hlookup]
  · next hlookup => simpa using hlookup

/-! ## Growth -/

/-- Every node but the root lies in a directory. -/
def Sound (tree : FileTree) : Prop :=
  ∀ place name, tree.get? (place ++ [name]) ≠ none → tree.get? place = some .dir

theorem sound_empty : Sound {} := by
  intro place name h
  simp [get?] at h

/-- A tree becomes another one by putting nodes at places, where there is
nothing or a file so far.  `P` restricts the places and what is found there. -/
inductive Grows (P : List String → Option Node → Prop) : FileTree → FileTree → Prop
  | refl (tree : FileTree) : Grows P tree tree
  | put {tree after : FileTree} {place : List String} (node : Node) :
      place ≠ [] → tree.get? place ≠ some .dir → P place (tree.get? place) →
      (tree.Sound → tree.get? place.dropLast = some .dir) →
      Grows P (tree.insert place node) after → Grows P tree after

namespace Grows

variable {P Q : List String → Option Node → Prop}

theorem single {node : Node} (hplace : place ≠ []) (hfound : tree.get? place ≠ some .dir)
    (hP : P place (tree.get? place))
    (hparent : tree.Sound → tree.get? place.dropLast = some .dir) :
    Grows P tree (tree.insert place node) :=
  .put node hplace hfound hP hparent (.refl _)

theorem trans {later : FileTree} (h : Grows P tree after) (hlater : Grows P after later) :
    Grows P tree later := by
  induction h with
  | refl => exact hlater
  | put node hplace hfound hP hparent _ ih =>
      exact .put node hplace hfound hP hparent (ih hlater)

theorem mono (h : Grows P tree after) (hPQ : ∀ place found, P place found → Q place found) :
    Grows Q tree after := by
  induction h with
  | refl tree => exact .refl tree
  | put node hplace hfound hP hparent _ ih =>
      exact .put node hplace hfound (hPQ _ _ hP) hparent ih

/-- The disk stays as it is. -/
theorem fault?_eq (h : Grows P tree after) : after.fault? = tree.fault? := by
  induction h with
  | refl => rfl
  | put _ _ _ _ _ _ ih => exact ih

/-- What lies at a place stays there, or the tree grows at the place. -/
theorem get?_eq_or (h : Grows P tree after) (place : List String) :
    after.get? place = tree.get? place ∨ P place (tree.get? place) := by
  induction h with
  | refl => exact .inl rfl
  | @put tree after other node hother _ hP _ _ ih =>
      by_cases heq : place = other
      · exact .inr (heq ▸ hP)
      · rwa [get?_insert _ hother, if_neg heq] at ih

/-- What lies at a place where the tree must not grow stays there. -/
theorem get?_eq (h : Grows P tree after) (hplace : ∀ found, ¬P place found) :
    after.get? place = tree.get? place :=
  (h.get?_eq_or place).resolve_right (hplace _)

theorem dir (h : Grows P tree after) (hdir : tree.get? place = some .dir) :
    after.get? place = some .dir := by
  induction h with
  | refl => exact hdir
  | @put tree after other node hother hfound _ _ _ ih =>
      apply ih
      have hne : place ≠ other := by
        rintro rfl
        exact hfound hdir
      rw [get?_insert _ hother, if_neg hne]
      exact hdir

/-- As long as no file takes the place of another one, the other one stays. -/
theorem get?_of_fresh (h : Grows P tree after) (hP : ∀ found, P place found → found = none)
    {node : Node} (hnode : tree.get? place = some node) : after.get? place = some node := by
  rcases h.get?_eq_or place with hsame | hgrown
  · exact hsame.trans hnode
  · rw [hnode] at hgrown
    exact absurd (hP _ hgrown) (Option.some_ne_none node)

theorem sound (h : Grows P tree after) (hsound : tree.Sound) : after.Sound := by
  induction h with
  | refl => exact hsound
  | @put tree after other node hother hfound _ hparent _ ih =>
      apply ih
      intro place name hname
      have hplace : place ≠ other → tree.get? place = some .dir →
          (tree.insert other node).get? place = some .dir := by
        intro hne hdir
        rw [get?_insert _ hother, if_neg hne]
        exact hdir
      rw [get?_insert _ hother] at hname
      by_cases hlast : place ++ [name] = other
      · have hdir := hparent hsound
        rw [← hlast, List.dropLast_concat] at hdir
        refine hplace ?_ hdir
        rintro rfl
        exact hfound hdir
      · rw [if_neg hlast] at hname
        have hdir := hsound place name hname
        refine hplace ?_ hdir
        rintro rfl
        exact hfound hdir

theorem locate (h : Grows P tree after) {path : String} {reached : List String}
    (hlocate : tree.locate path = .ok reached) : after.locate path = .ok reached := by
  obtain ⟨hpath, hwalk⟩ := locate_eq_ok.mp hlocate
  exact locate_eq_ok.mpr ⟨hpath, walk_of_dirs (fun _ hdir => h.dir hdir) hwalk⟩

theorem isDir (h : Grows P tree after) {path : String} (hdir : tree.isDir path = true) :
    after.isDir path = true := by
  obtain ⟨reached, hlocate, hnode⟩ := lookup_eq_ok.mp (isDir_iff.mp hdir)
  exact isDir_iff.mpr (lookup_eq_ok.mpr ⟨reached, h.locate hlocate, h.dir hnode⟩)

/-- As long as no file takes the place of another one, the other one can be read as before. -/
theorem readBytes (h : Grows P tree after) {path : String}
    (hP : ∀ found, P (placeOf path) found → found = none) {bytes : ByteArray}
    (hread : tree.readBytes path = .ok bytes) : after.readBytes path = .ok bytes := by
  obtain ⟨mode, hlookup⟩ := readBytes_eq_ok.mp hread
  obtain ⟨reached, hlocate, hnode⟩ := lookup_eq_ok.mp hlookup
  rw [← placeOf_of_locate hlocate] at hP
  exact readBytes_eq_ok.mpr
    ⟨mode, lookup_eq_ok.mpr ⟨reached, h.locate hlocate, h.get?_of_fresh hP hnode⟩⟩

end Grows

/-! ## Operations -/

/-- Whatever an operation answers, it makes the tree grow. -/
def Enlarges {ε α : Type} (P : List String → Option Node → Prop)
    (op : EStateM ε FileTree α) : Prop :=
  ∀ tree, Grows P tree (stateOf (op tree))

namespace Enlarges

variable {ε α β : Type} {P Q : List String → Option Node → Prop}

theorem mono {op : EStateM ε FileTree α} (h : Enlarges P op)
    (hPQ : ∀ place found, P place found → Q place found) : Enlarges Q op :=
  fun tree => (h tree).mono hPQ

theorem pure (a : α) : Enlarges P (Pure.pure a : EStateM ε FileTree α) :=
  fun tree => .refl tree

theorem bind {op : EStateM ε FileTree α} {f : α → EStateM ε FileTree β} (h : Enlarges P op)
    (hf : ∀ a, Enlarges P (f a)) : Enlarges P (op >>= f) := by
  intro tree
  have hfirst := h tree
  change Grows P tree (stateOf (EStateM.bind op f tree))
  rw [EStateM.bind]
  cases hop : op tree with
  | error e after =>
      rw [hop] at hfirst
      exact hfirst
  | ok a after =>
      rw [hop] at hfirst
      exact hfirst.trans (hf a after)

theorem get_bind {f : FileTree → EStateM ε FileTree β} (hf : ∀ tree, Enlarges P (f tree)) :
    Enlarges P (get >>= f) :=
  fun tree => hf tree tree

end Enlarges

/-- A path is walked along its pieces, unless it ends in a separator. -/
theorem walk_append {before names reached : List String} :
    tree.walk place (before ++ names) = .ok reached ↔
      ∃ middle, tree.walk place before = .ok middle ∧ tree.walk middle names = .ok reached := by
  induction before generalizing place with
  | nil => simp [walk]
  | cons name before ih =>
      rw [List.cons_append, walk, walk]
      split
      · simp
      · simp
      · split
        · exact ih
        · split
          · exact ih
          · split
            · simp
            · exact ih

theorem walk_pieces {path : String} {reached : List String}
    (h : tree.walk [] (steps path) = .ok reached) :
    tree.walk [] (Path.pieces path) = .ok reached := by
  rcases steps_eq path with hsteps | hsteps
  · rwa [hsteps] at h
  · rw [hsteps, walk_append] at h
    obtain ⟨middle, hmiddle, hhere⟩ := h
    have hreached := resolve_of_walk hhere
    rw [resolve_here] at hreached
    rwa [hreached]

/-- Above a directory there are directories only. -/
theorem Sound.dir_of_prefix (h : tree.Sound) {above : List String}
    (hnode : tree.get? place ≠ none) (habove : above <+: place) (hne : above ≠ place) :
    tree.get? above = some .dir := by
  obtain ⟨rest, rfl⟩ := habove
  induction rest using List.reverseRecOn with
  | nil => exact absurd (List.append_nil above).symm hne
  | append_singleton rest name ih =>
      rw [← List.append_assoc] at hnode
      have hdir := h _ _ hnode
      by_cases hrest : rest = []
      · rwa [hrest, List.append_nil] at hdir
      · refine ih ?_ ?_
        · rw [hdir]
          simp
        · simpa using hrest

/-- Names that lead down to a directory can be followed. -/
theorem Sound.walk_of_dir (h : tree.Sound) {names : List String} (hdown : ".." ∉ names)
    (hsizes : ∀ name ∈ names, name.utf8ByteSize ≤ maxName)
    (hdir : tree.get? (resolve place names) = some .dir) :
    tree.walk place names = .ok (resolve place names) := by
  induction names generalizing place with
  | nil => rfl
  | cons name names ih =>
      have hplace : tree.get? place = some .dir := by
        by_cases heq : place = resolve place (name :: names)
        · rwa [← heq] at hdir
        · exact h.dir_of_prefix (by simp [hdir]) (prefix_resolve hdown place) heq
      rw [List.mem_cons, not_or] at hdown
      rw [List.forall_mem_cons] at hsizes
      have hsize : ¬maxName < name.utf8ByteSize := by
        have := hsizes.1
        omega
      rw [walk, hplace]
      rw [resolve] at hdir ⊢
      by_cases hhere : name = "."
      · simp only [if_pos hhere] at hdir ⊢
        exact ih hdown.2 hsizes.2 hdir
      · simp only [if_neg hhere, if_neg (Ne.symm hdown.1), if_neg hsize] at hdir ⊢
        exact ih hdown.2 hsizes.2 hdir

/-- What the parent of a path and its last name tell. -/
theorem parentAndName_eq_ok {path : String} {parent : List String} {name? : Option String}
    (h : tree.parentAndName path = .ok (parent, name?)) :
    tree.walk [] (Path.pieces path).dropLast = .ok parent ∧ tree.get? parent = some .dir ∧
      name? = (Path.pieces path).getLast? := by
  unfold parentAndName at h
  simp only [bind, Except.bind, pure, Except.pure, throw, throwThe, MonadExceptOf.throw] at h
  split at h
  · simp at h
  · split at h
    · simp at h
    · split at h
      · simp at h
      · split at h
        · simp at h
        · next reached hwalk =>
            split at h
            · next hdir =>
                obtain ⟨rfl, rfl⟩ := Prod.mk.inj (Except.ok.inj h)
                exact ⟨hwalk, hdir, rfl⟩
            · simp at h
            · simp at h

theorem walk_singleton {name : String} {reached : List String}
    (h : tree.walk place [name] = .ok reached) :
    reached = place ∨ reached = place.dropLast ∨ reached = place ++ [name] := by
  have hreached := resolve_of_walk h
  rw [resolve] at hreached
  split at hreached
  · exact .inl hreached
  · split at hreached
    · exact .inr (.inl hreached)
    · exact .inr (.inr hreached)

/-- A new file takes the place that its path leads to, in a directory. -/
theorem fileTarget_eq_ok {path : String} {target : List String}
    (h : tree.fileTarget path = .ok target) :
    tree.locate path = .ok target ∧
      (tree.get? target ≠ some .dir → tree.Sound → tree.get? target.dropLast = some .dir) := by
  unfold fileTarget at h
  simp only [bind, Except.bind, throw, throwThe, MonadExceptOf.throw] at h
  split at h
  · simp at h
  · next parent hparent =>
      split at h
      · simp at h
      · next hseparator =>
          refine ⟨h, fun hfile hsound => ?_⟩
          obtain ⟨parent, name?⟩ := parent
          obtain ⟨hwalk, hdir, _⟩ := parentAndName_eq_ok hparent
          have hwhole := (locate_eq_ok.mp h).2
          rw [steps_of_getLast? (by simpa using hseparator)] at hwhole
          rcases List.eq_nil_or_concat (Path.pieces path) with hnil | ⟨front, name, hpieces⟩
          · rw [hnil] at hwhole
            obtain rfl := Except.ok.inj hwhole
            exact absurd (get?_root tree) hfile
          · rw [List.concat_eq_append] at hpieces
            rw [hpieces, List.dropLast_concat] at hwalk
            rw [hpieces, walk_append] at hwhole
            obtain ⟨middle, hmiddle, hlast⟩ := hwhole
            obtain rfl := Except.ok.inj (hwalk.symm.trans hmiddle)
            rcases walk_singleton hlast with rfl | rfl | rfl
            · exact absurd hdir hfile
            · -- A directory lies above another one.
              refine absurd ?_ hfile
              by_cases hroot : parent = []
              · simp [hroot]
              · have hne : parent.dropLast ≠ parent := by
                  intro heq
                  have hlength := congrArg List.length heq
                  have hpos := List.length_pos_iff.mpr hroot
                  rw [List.length_dropLast] at hlength
                  omega
                exact hsound.dir_of_prefix (by simp [hdir]) (List.dropLast_prefix parent) hne
            · rwa [List.dropLast_concat]

/-- The disk takes whatever is written into the file that a path leads to. -/
def Takes (tree : FileTree) (path : String) : Prop :=
  ∀ bytes, tree.fault? (placeOf path) bytes = none

theorem fill_eq_ok {bytes : ByteArray} {mode : Nat}
    (h : fill place bytes mode tree = .ok () after) :
    after = tree.insert place (.file bytes mode) := by
  unfold fill at h
  split at h
  · injection h with _ hafter
    exact hafter.symm
  · cases h

/-- A file is opened before the disk fails. -/
theorem fill_eq_error {bytes : ByteArray} {mode : Nat} {e : OsError}
    (h : fill place bytes mode tree = .error e after) :
    ∃ fault, tree.fault? place bytes = some fault ∧ e = fault.error ∧
      after = tree.insert place (.file (bytes.extract 0 fault.kept) mode) := by
  unfold fill at h
  split at h
  · cases h
  · next fault hfault =>
      injection h with he hafter
      exact ⟨fault, hfault, he.symm, hafter.symm⟩

/-- What writing a file does when it succeeds. -/
theorem writeWith_eq_ok {modeOf : Option Node → Nat} {path : String} {bytes : ByteArray}
    (h : writeWith modeOf path bytes tree = .ok () after) :
    ∃ target, tree.fileTarget path = .ok target ∧ tree.get? target ≠ some .dir ∧
      after = tree.insert target (.file bytes (modeOf (tree.get? target))) := by
  unfold writeWith at h
  split at h
  · simp at h
  · next target htarget =>
      split at h
      · simp at h
      · next hfile => exact ⟨target, htarget, fun hdir => hfile hdir, fill_eq_ok h⟩

/-- Writing a file fails before it is opened, or leaves what the disk has taken. -/
theorem writeWith_eq_error {modeOf : Option Node → Nat} {path : String} {bytes : ByteArray}
    {e : OsError} (h : writeWith modeOf path bytes tree = .error e after) :
    after = tree ∨ ∃ target fault, tree.fileTarget path = .ok target ∧
      tree.get? target ≠ some .dir ∧ tree.fault? target bytes = some fault ∧ e = fault.error ∧
      after = tree.insert target
        (.file (bytes.extract 0 fault.kept) (modeOf (tree.get? target))) := by
  unfold writeWith at h
  split at h
  · injection h with _ hafter
    exact .inl hafter.symm
  · next target htarget =>
      split at h
      · injection h with _ hafter
        exact .inl hafter.symm
      · next hfile =>
          obtain ⟨fault, hfault, he, hafter⟩ := fill_eq_error h
          exact .inr ⟨target, fault, htarget, fun hdir => hfile hdir, hfault, he, hafter⟩

theorem ne_root_of_file (h : tree.get? place ≠ some .dir) : place ≠ [] := by
  rintro rfl
  exact h (get?_root tree)

/-- A file in a directory is put where its path leads. -/
theorem grows_of_fileTarget {path : String} {target : List String}
    (htarget : tree.fileTarget path = .ok target) (hfile : tree.get? target ≠ some .dir)
    (node : Node) :
    Grows (fun place found => place = placeOf path ∧ found = tree.get? target) tree
      (tree.insert target node) := by
  obtain ⟨hlocate, hparent⟩ := fileTarget_eq_ok htarget
  exact .single (ne_root_of_file hfile) hfile ⟨placeOf_of_locate hlocate, rfl⟩ (hparent hfile)

/-- A file is written at the place of its path. -/
theorem enlarges_write (path : String) (bytes : ByteArray) :
    Enlarges (fun place _ => place = placeOf path) (write path bytes) := by
  intro tree
  cases hwrite : write path bytes tree with
  | error e after =>
      obtain rfl | ⟨target, fault, htarget, hfile, -, -, rfl⟩ := writeWith_eq_error hwrite
      · exact .refl _
      · exact (grows_of_fileTarget htarget hfile _).mono fun _ _ hP => hP.1
  | ok u after =>
      obtain ⟨target, htarget, hfile, rfl⟩ := writeWith_eq_ok hwrite
      exact (grows_of_fileTarget htarget hfile _).mono fun _ _ hP => hP.1

/-- A file that was put where its path leads can be read there. -/
theorem readBytes_insert {path : String} {target : List String}
    (htarget : tree.fileTarget path = .ok target) (hfile : tree.get? target ≠ some .dir)
    (bytes : ByteArray) (mode : Nat) :
    (tree.insert target (.file bytes mode)).readBytes path = .ok bytes := by
  have hlocate := (grows_of_fileTarget htarget hfile (.file bytes mode)).locate
    (fileTarget_eq_ok htarget).1
  have hnode := get?_insert tree (ne_root_of_file hfile) (.file bytes mode) target
  rw [if_pos rfl] at hnode
  exact readBytes_eq_ok.mpr ⟨_, lookup_eq_ok.mpr ⟨target, hlocate, hnode⟩⟩

/-- What was written can be read. -/
theorem readBytes_of_write {path : String} {bytes : ByteArray}
    (h : write path bytes tree = .ok () after) : after.readBytes path = .ok bytes := by
  obtain ⟨target, htarget, hfile, rfl⟩ := writeWith_eq_ok h
  exact readBytes_insert htarget hfile _ _

/-- A write that fails leaves the tree as it was, or a file that holds what the disk has taken. -/
theorem write_eq_error {path : String} {bytes : ByteArray} {e : OsError}
    (h : write path bytes tree = .error e after) :
    after = tree ∨ ∃ fault, tree.fault? (placeOf path) bytes = some fault ∧ e = fault.error ∧
      after.readBytes path = .ok (bytes.extract 0 fault.kept) := by
  obtain rfl | ⟨target, fault, htarget, hfile, hfault, he, rfl⟩ := writeWith_eq_error h
  · exact .inl rfl
  · rw [placeOf_of_locate (fileTarget_eq_ok htarget).1] at hfault
    exact .inr ⟨fault, hfault, he, readBytes_insert htarget hfile _ _⟩

/-- A new file is made where there is nothing. -/
theorem enlarges_createNew (path : String) (bytes : ByteArray) :
    Enlarges (fun place found => place = placeOf path ∧ found = none) (createNew path bytes) := by
  intro tree
  unfold createNew
  split
  · exact .refl tree
  · next target htarget =>
      split
      · exact .refl tree
      · next hnone =>
          have hfile : tree.get? target ≠ some .dir := by simp [hnone]
          have hgrows (node : Node) := grows_of_fileTarget htarget hfile node
          rw [hnone] at hgrows
          unfold fill
          split <;> exact hgrows _

/-! ### Directories -/

/-- A place that some of the first names of a path lead to: a directory may have
to be made there on the way. -/
def IsOnWay (path : String) (place : List String) : Prop :=
  ∃ names, names <+: Path.names path ∧ place = resolve [] names

theorem isOnWay_placeOf (path : String) : IsOnWay path (placeOf path) :=
  ⟨_, List.prefix_refl _, placeOf_eq_resolve_names path⟩

theorem IsOnWay.of_parent {path parent : String} (hparent : parentPath? path = some parent)
    (h : IsOnWay parent place) : IsOnWay path place := by
  obtain ⟨names, hnames, hplace⟩ := h
  rw [names_of_parentPath? hparent] at hnames
  exact ⟨names, hnames.trans (List.dropLast_prefix _), hplace⟩

/-- A directory on the way has a name of the path. -/
theorem IsOnWay.mem_names {path name : String} (h : IsOnWay path (place ++ [name])) :
    name ∈ Path.names path := by
  obtain ⟨names, hnames, hplace⟩ := h
  have hmem : name ∈ resolve [] names := by simp [← hplace]
  exact hnames.subset ((mem_of_mem_resolve hmem).resolve_left List.not_mem_nil)

/-- A directory on the way lies no deeper than the names lead. -/
theorem IsOnWay.length_le {path : String} (h : IsOnWay path place) :
    place.length ≤ (Path.names path).length := by
  obtain ⟨names, hnames, rfl⟩ := h
  calc (resolve [] names).length
    _ ≤ (names.filter (· ≠ ".")).length := by simpa using length_resolve_le [] names
    _ ≤ names.length := List.length_filter_le _ _
    _ ≤ (Path.names path).length := hnames.length_le

/-- What making a directory does when it succeeds. -/
theorem makeDir_eq_ok {path : String} (h : makeDir path tree = .ok () after) :
    ∃ parent name, tree.walk [] (Path.pieces path).dropLast = .ok parent ∧
      tree.get? parent = some .dir ∧ (Path.pieces path).getLast? = some name ∧
      name ≠ "." ∧ name ≠ ".." ∧ tree.get? (parent ++ [name]) = none ∧
      after = tree.insert (parent ++ [name]) .dir := by
  unfold makeDir at h
  split at h
  · simp at h
  · simp at h
  · next parent name hparent =>
      obtain ⟨hwalk, hdir, hname⟩ := parentAndName_eq_ok hparent
      split at h
      · simp at h
      · next hplain =>
          split at h
          · simp at h
          · split at h
            · simp at h
            · next hnone =>
                injection h with _ hafter
                rw [not_or] at hplain
                exact ⟨parent, name, hwalk, hdir, hname.symm, hplain.1, hplain.2, hnone,
                  hafter.symm⟩

theorem makeDir_eq_error {path : String} {e : OsError}
    (h : makeDir path tree = .error e after) : after = tree := by
  unfold makeDir at h
  split at h
  · injection h with _ hafter
    exact hafter.symm
  · injection h with _ hafter
    exact hafter.symm
  · split at h
    · injection h with _ hafter
      exact hafter.symm
    · split at h
      · injection h with _ hafter
        exact hafter.symm
      · split at h
        · injection h with _ hafter
          exact hafter.symm
        · simp at h

theorem enlarges_makeDir (path : String) :
    Enlarges (fun place found => IsOnWay path place ∧ found = none) (makeDir path) := by
  intro tree
  cases hmake : makeDir path tree with
  | error e after =>
      obtain rfl := makeDir_eq_error hmake
      exact .refl _
  | ok u after =>
      obtain ⟨parent, name, hwalk, hdir, hlast, hhere, habove, hnone, rfl⟩ := makeDir_eq_ok hmake
      obtain ⟨front, hpieces⟩ := List.getLast?_eq_some_iff.mp hlast
      rw [hpieces, List.dropLast_concat] at hwalk
      have hplace : placeOf path = parent ++ [name] := by
        rw [placeOf_eq, hpieces, resolve_append, resolve_of_walk hwalk,
          resolve_of_ne _ hhere habove]
      have hway : IsOnWay path (parent ++ [name]) := hplace ▸ isOnWay_placeOf path
      exact .single (by simp) (by simp [hnone]) ⟨hway, hnone⟩ fun _ => by
        rwa [List.dropLast_concat]

theorem enlarges_makeDirs (fuel : Nat) (path : String) :
    Enlarges (fun place found => IsOnWay path place ∧ found = none) (makeDirs fuel path) := by
  induction fuel generalizing path with
  | zero => exact fun tree => .refl tree
  | succ fuel ih =>
      intro tree
      have hmake := enlarges_makeDir path
      simp only [makeDirs]
      split
      · next after hfirst =>
          have hgrows := hmake tree
          rwa [hfirst] at hgrows
      · -- The directory above is missing.
        split
        · exact .refl tree
        · next parent hparent =>
            have habove : Grows (fun place found => IsOnWay path place ∧ found = none) tree
                (stateOf (makeDirs fuel parent tree)) :=
              (ih parent tree).mono fun place found hP => ⟨hP.1.of_parent hparent, hP.2⟩
            split
            · next e made hdirs => rwa [hdirs] at habove
            · next made hdirs =>
                rw [hdirs] at habove
                split
                · next whole hagain =>
                    have hlast := hmake made
                    rw [hagain] at hlast
                    exact habove.trans hlast
                · split <;> exact habove
      · split <;> exact .refl tree

/-- Directories are made on the way along a path, where there is nothing. -/
theorem enlarges_createDirAll (path : String) :
    Enlarges (fun place found => IsOnWay path place ∧ found = none) (createDirAll path) := by
  rw [createDirAll]
  split
  · exact Enlarges.pure ()
  · exact enlarges_makeDirs _ _

/-- Whatever a path leads to lies in a directory, one step from it. -/
theorem parentAndName_of_locate {path : String} {reached : List String}
    (h : tree.locate path = .ok reached) :
    ∃ parent, tree.parentAndName path = .ok (parent, (Path.pieces path).getLast?) ∧
      tree.get? parent = some .dir ∧
      ∀ name ∈ (Path.pieces path).getLast?, tree.walk parent [name] = .ok reached := by
  obtain ⟨⟨hnul, hempty, hsize⟩, hwalk⟩ := locate_eq_ok.mp h
  have hwhole := walk_pieces hwalk
  have hsteps : ∃ parent, tree.walk [] (Path.pieces path).dropLast = .ok parent ∧
      tree.get? parent = some .dir ∧
      ∀ name ∈ (Path.pieces path).getLast?, tree.walk parent [name] = .ok reached := by
    rcases List.eq_nil_or_concat (Path.pieces path) with hnil | ⟨front, name, hpieces⟩
    · rw [hnil]
      exact ⟨[], rfl, get?_root tree, by simp⟩
    · rw [List.concat_eq_append] at hpieces
      rw [hpieces, walk_append] at hwhole
      obtain ⟨parent, hfront, hlast⟩ := hwhole
      rw [hpieces, List.dropLast_concat, List.getLast?_concat]
      refine ⟨parent, hfront, ?_, ?_⟩
      · rw [walk] at hlast
        split at hlast
        · simp at hlast
        · simp at hlast
        · assumption
      · intro other hother
        obtain rfl := Option.some.inj hother
        exact hlast
  obtain ⟨parent, hfront, hdir, hlast⟩ := hsteps
  refine ⟨parent, ?_, hdir, hlast⟩
  have hnotlong : ¬maxPath < path.utf8ByteSize := by omega
  change (if _ then _ else if _ then _ else if _ then _ else
    (tree.walk [] (Path.pieces path).dropLast >>= _)) = _
  rw [if_neg (by rw [hnul]; simp), if_neg hempty, if_neg hnotlong, hfront]
  simp [bind, Except.bind, pure, Except.pure, hdir, Path.pieces]

/-- What is there already is not made. -/
theorem makeDir_of_locate {path : String} {reached : List String} {node : Node}
    (h : tree.locate path = .ok reached) (hnode : tree.get? reached = some node) :
    makeDir path tree = .error .alreadyExists tree := by
  obtain ⟨parent, hsplit, hdir, hlast⟩ := parentAndName_of_locate h
  cases hname : (Path.pieces path).getLast? with
  | none => simp only [makeDir, hsplit, hname]
  | some name =>
      by_cases hdots : name = "." ∨ name = ".."
      · simp only [makeDir, hsplit, hname, if_pos hdots]
      · have hstep := hlast name hname
        rw [not_or] at hdots
        rw [walk, hdir] at hstep
        simp only [if_neg hdots.1, if_neg hdots.2] at hstep
        split at hstep
        · simp at hstep
        · next hshort =>
            obtain rfl := Except.ok.inj hstep
            simp only [makeDir, hsplit, hname, hdots, hshort, hnode, or_self, if_false]

/-- A directory that is there already need not be made. -/
theorem createDirAll_of_isDir {path : String} (h : tree.isDir path = true) :
    createDirAll path tree = .ok () tree := by
  obtain ⟨reached, hlocate, hnode⟩ := lookup_eq_ok.mp (isDir_iff.mp h)
  obtain ⟨⟨-, hempty, -⟩, -⟩ := locate_eq_ok.mp hlocate
  rw [createDirAll, if_neg hempty]
  simp only [makeDirs, makeDir_of_locate hlocate hnode, h, if_true]

/-- A file has a place in a directory that is there, if its name and its path fit. -/
theorem exists_fileTarget_of_isDir {dir name : String} (hdir : tree.isDir dir = true)
    (hname : Path.IsPlain name) (hsize : name.utf8ByteSize ≤ maxName)
    (hpath : (Path.join dir name).utf8ByteSize ≤ maxPath)
    (hnul : '\x00' ∉ (Path.join dir name).toList) :
    ∃ target, tree.fileTarget (Path.join dir name) = .ok target := by
  obtain ⟨reached, hreached, hnode⟩ := lookup_eq_ok.mp (isDir_iff.mp hdir)
  have hlast : tree.walk reached [name] = .ok (reached ++ [name]) := by
    have hshort : ¬maxName < name.utf8ByteSize := by omega
    rw [walk, hnode]
    simp only [if_neg hname.ne_here, if_neg hname.ne_above, if_neg hshort, walk]
  have hwalk : tree.walk [] (steps (Path.join dir name)) = .ok (reached ++ [name]) := by
    rw [steps_join dir hname, walk_append]
    exact ⟨reached, walk_pieces (locate_eq_ok.mp hreached).2, hlast⟩
  have hempty : Path.join dir name ≠ "" := by
    intro heq
    have hpieces := Path.pieces_join dir hname
    rw [heq] at hpieces
    simp [Path.pieces, Text.split, Text.splitAt] at hpieces
  have hlocate : tree.locate (Path.join dir name) = .ok (reached ++ [name]) :=
    locate_eq_ok.mpr ⟨⟨by simpa using hnul, hempty, hpath⟩, hwalk⟩
  obtain ⟨parent, hparent, -, -⟩ := parentAndName_of_locate hlocate
  refine ⟨reached ++ [name], ?_⟩
  simp only [fileTarget, hparent, bind, Except.bind, if_neg (Path.getLast?_join dir hname), hlocate]

end FileTree

end ScaffoldRunner
