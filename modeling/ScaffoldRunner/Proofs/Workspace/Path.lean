import Mathlib.Data.List.Basic
import Mathlib.Data.List.Induction
import ScaffoldRunner.Workspace.FileTree

/-!
# Paths of plain names

A path is walked along its `steps`.  Without a look at any tree, `resolve` tells
where the walk must end, if it ends anywhere: a name leads down, `..` leads up.
A plain name that is joined to a directory is the last step of the path.
-/

namespace ScaffoldRunner

namespace Text

variable {sep : Char}

theorem splitAt_of_notMem {cs : List Char} (h : sep ∉ cs) : splitAt sep cs = [cs] := by
  induction cs with
  | nil => rfl
  | cons c cs ih =>
      rw [List.mem_cons, not_or] at h
      rw [splitAt, if_neg (Ne.symm h.1), ih h.2]

theorem splitAt_append (before after : List Char) :
    splitAt sep (before ++ sep :: after) = splitAt sep before ++ splitAt sep after := by
  induction before with
  | nil => simp [splitAt]
  | cons c before ih =>
      rw [List.cons_append, splitAt, splitAt, ih]
      by_cases hc : c = sep
      · rw [if_pos hc, if_pos hc, List.cons_append]
      · rw [if_neg hc, if_neg hc]
        obtain ⟨piece, pieces, hsplit⟩ :=
          List.exists_cons_of_ne_nil (splitAt_ne_nil sep before)
        rw [hsplit, List.cons_append]
        rfl

end Text

namespace Path

/-- A name that stands for a file or directory below another one. -/
structure IsPlain (name : String) : Prop where
  ne_empty : name ≠ ""
  ne_here : name ≠ "."
  ne_above : name ≠ ".."
  no_separator : '/' ∉ name.toList

/-- The names between the separators of a path, without empty ones. -/
def pieces (path : String) : List String := (Text.split '/' path).filter (· ≠ "")

theorem not_isAbsolute_of_isPlain {name : String} (h : IsPlain name) :
    isAbsolute name = false := by
  rw [isAbsolute, decide_eq_false_iff_not]
  intro hhead
  exact h.no_separator (List.mem_of_head? hhead)

theorem pieces_of_isPlain {name : String} (h : IsPlain name) : pieces name = [name] := by
  simp [pieces, Text.split, Text.splitAt_of_notMem h.no_separator, h.ne_empty]

theorem pieces_append (dir name : String) :
    pieces (dir ++ "/" ++ name) = pieces dir ++ pieces name := by
  have hlist : (dir ++ "/" ++ name).toList = dir.toList ++ '/' :: name.toList := by
    simp
  rw [pieces, Text.split, hlist, Text.splitAt_append, List.map_append, List.filter_append]
  rfl

/-- A separator at the end adds no name. -/
theorem pieces_of_getLast? {dir : String} (h : dir.toList.getLast? = some '/') (name : String) :
    pieces (dir ++ name) = pieces dir ++ pieces name := by
  obtain ⟨front, hfront⟩ := List.getLast?_eq_some_iff.mp h
  have hdir : dir = String.ofList front ++ "/" ++ "" := by
    apply String.toList_injective
    simp [hfront]
  have hwhole : dir ++ name = String.ofList front ++ "/" ++ name := by
    rw [hdir, String.append_empty]
  have hnone : pieces "" = [] := by
    simp [pieces, Text.split, Text.splitAt]
  rw [hwhole, pieces_append, hdir, pieces_append, hnone, List.append_nil]

theorem pieces_textJoin (names : List String) :
    pieces (Text.join "/" names) = names.flatMap pieces := by
  induction names with
  | nil => simp [pieces, Text.join, Text.split, Text.splitAt]
  | cons name names ih =>
      cases names with
      | nil => simp [Text.join]
      | cons other names =>
          rw [Text.join, String.intercalate_cons_cons, pieces_append, List.flatMap_cons, ← ih]
          rfl

/-- A piece is not cut any further. -/
theorem pieces_of_mem_pieces {path name : String} (h : name ∈ pieces path) :
    pieces name = [name] := by
  obtain ⟨hmem, hname⟩ := List.mem_filter.mp h
  obtain ⟨cs, hcs, rfl⟩ := List.mem_map.mp hmem
  have hsep : '/' ∉ (String.ofList cs).toList := by
    rw [String.toList_ofList]
    exact Text.not_mem_of_mem_splitAt hcs
  rw [pieces, Text.split, Text.splitAt_of_notMem hsep, List.map_singleton, String.ofList_toList]
  exact List.filter_cons_of_pos hname

theorem names_eq (path : String) : names path = (pieces path).filter (· ≠ ".") := by
  rw [names, pieces, List.filter_filter]
  congr 1
  funext name
  simp [Bool.and_comm]

/-- A plain name comes last in the path below a directory. -/
theorem pieces_join (dir : String) {name : String} (h : IsPlain name) :
    pieces (join dir name) = pieces dir ++ [name] := by
  rw [join, if_neg (Bool.eq_false_iff.mp (not_isAbsolute_of_isPlain h))]
  rw [← pieces_of_isPlain h]
  split
  · next hnone =>
      have hdir : dir = "" := String.toList_injective (List.getLast?_eq_none_iff.mp hnone)
      subst hdir
      rfl
  · next hlast => exact pieces_of_getLast? hlast name
  · exact pieces_append dir name

/-- A text that ends in a plain name does not end in a separator. -/
theorem getLast?_append_plain (front : String) {name : String} (h : IsPlain name) :
    (front ++ name).toList.getLast? ≠ some '/' := by
  have hname : name.toList ≠ [] := fun hnil => h.ne_empty (String.toList_injective hnil)
  intro hsep
  rw [String.toList_append, List.getLast?_append_of_ne_nil _ hname] at hsep
  exact h.no_separator (List.mem_of_getLast? hsep)

theorem getLast?_join (dir : String) {name : String} (h : IsPlain name) :
    (join dir name).toList.getLast? ≠ some '/' := by
  have hjoin : ∃ front : String, join dir name = front ++ name := by
    rw [join, if_neg (Bool.eq_false_iff.mp (not_isAbsolute_of_isPlain h))]
    split
    · exact ⟨"", (String.empty_append ..).symm⟩
    · exact ⟨dir, rfl⟩
    · exact ⟨dir ++ "/", rfl⟩
  obtain ⟨front, hfront⟩ := hjoin
  rw [hfront]
  exact getLast?_append_plain front h

/-- What stands in front of a name: nothing, or a text that ends in a separator. -/
def IsFront (front : String) : Prop := front = "" ∨ front.toList.getLast? = some '/'

/-- A path is cut behind its last separator. -/
theorem exists_front (path : String) :
    ∃ front last, path = front ++ last ∧ IsFront front ∧ '/' ∉ last.toList := by
  suffices h : ∀ cs : List Char, ∃ front last : List Char,
      cs = front ++ last ∧ (front = [] ∨ front.getLast? = some '/') ∧ '/' ∉ last by
    obtain ⟨front, last, hsplit, hfront, hlast⟩ := h path.toList
    refine ⟨String.ofList front, String.ofList last, ?_, ?_, by rwa [String.toList_ofList]⟩
    · apply String.toList_injective
      rw [String.toList_append, String.toList_ofList, String.toList_ofList, hsplit]
    · exact hfront.imp (fun hnil => by rw [hnil]) fun hsep => by rwa [String.toList_ofList]
  intro cs
  induction cs using List.reverseRecOn with
  | nil => exact ⟨[], [], rfl, .inl rfl, List.not_mem_nil⟩
  | append_singleton cs c ih =>
      obtain ⟨front, last, hsplit, hfront, hlast⟩ := ih
      by_cases hc : c = '/'
      · exact ⟨cs ++ [c], [], (List.append_nil _).symm,
          .inr (by rw [List.getLast?_concat, hc]), List.not_mem_nil⟩
      · refine ⟨front, last ++ [c], by rw [hsplit, List.append_assoc], hfront, ?_⟩
        rw [List.mem_append, List.mem_singleton, not_or]
        exact ⟨hlast, Ne.symm hc⟩

theorem IsFront.pieces_append {front : String} (h : IsFront front) (name : String) :
    pieces (front ++ name) = pieces front ++ pieces name := by
  rcases h with rfl | hsep
  · rw [String.empty_append]
    rfl
  · exact pieces_of_getLast? hsep name

/-- The names below a directory stand behind one text. -/
theorem IsFront.exists_join {front : String} (h : IsFront front) (dir : String) :
    ∃ above, IsFront above ∧
      ∀ name, IsPlain name → join dir (front ++ name) = above ++ name := by
  have habsolute (name : String) (hname : IsPlain name) :
      isAbsolute (front ++ name) = isAbsolute front := by
    rcases h with rfl | hsep
    · rw [String.empty_append, not_isAbsolute_of_isPlain hname]
      rfl
    · obtain ⟨before, hbefore⟩ := List.getLast?_eq_some_iff.mp hsep
      rw [isAbsolute, isAbsolute, String.toList_append, hbefore]
      cases before <;> rfl
  have hbehind (dir : String) (hdir : IsFront dir) : IsFront (dir ++ front) := by
    rcases h with rfl | hsep
    · rwa [String.append_empty]
    · refine .inr ?_
      rw [String.toList_append, List.getLast?_append, hsep, Option.some_or]
  by_cases hroot : isAbsolute front = true
  · refine ⟨front, h, fun name hname => ?_⟩
    rw [join, habsolute name hname, if_pos hroot]
  · have hnot (name : String) (hname : IsPlain name) : ¬isAbsolute (front ++ name) = true := by
      rwa [habsolute name hname]
    cases hlast : dir.toList.getLast? with
    | none =>
        refine ⟨front, h, fun name hname => ?_⟩
        rw [join, if_neg (hnot name hname), hlast]
    | some c =>
        by_cases hc : c = '/'
        · refine ⟨dir ++ front, hbehind dir (.inr (hc ▸ hlast)), fun name hname => ?_⟩
          rw [join, if_neg (hnot name hname), hlast, hc]
          exact String.append_assoc.symm
        · refine ⟨dir ++ "/" ++ front, hbehind (dir ++ "/") (.inr ?_), fun name hname => ?_⟩
          · rw [String.toList_append, List.getLast?_append]
            rfl
          · rw [join, if_neg (hnot name hname), hlast]
            split
            · next heq => cases heq
            · next heq => exact absurd (Option.some.inj heq) hc
            · exact String.append_assoc.symm

end Path

namespace FileTree

/-- The directory above a path has all names but the last. -/
theorem names_of_parentPath? {path parent : String} (h : parentPath? path = some parent) :
    Path.names parent = (Path.names path).dropLast := by
  have hmem : ∀ name ∈ (Path.names path).dropLast, Path.pieces name = [name] := by
    intro name hname
    have hpiece := List.dropLast_subset _ hname
    rw [Path.names_eq] at hpiece
    exact Path.pieces_of_mem_pieces (List.mem_filter.mp hpiece).1
  have hjoin : Path.names (Text.join "/" (Path.names path).dropLast) =
      (Path.names path).dropLast := by
    have hkept : ∀ name ∈ (Path.names path).dropLast, decide (name ≠ ".") = true := by
      intro name hname
      have hpiece := List.dropLast_subset _ hname
      rw [Path.names_eq] at hpiece
      exact (List.mem_filter.mp hpiece).2
    rw [Path.names_eq, Path.pieces_textJoin, List.flatMap_congr hmem]
    simpa using hkept
  have hroot (names : String) : Path.names ("/" ++ names) = Path.names names := by
    have hpieces := Path.pieces_append "" names
    rw [String.empty_append] at hpieces
    rw [Path.names_eq, Path.names_eq, hpieces]
    rfl
  rw [parentPath?] at h
  split at h
  · simp at h
  · obtain rfl := Option.some.inj h
    split
    · rw [hroot, hjoin]
    · exact hjoin

/-- Where some names lead from a place, if all of them can be followed. -/
def resolve : List String → List String → List String
  | place, [] => place
  | place, name :: names =>
      if name = "." then resolve place names
      else if name = ".." then resolve place.dropLast names
      else resolve (place ++ [name]) names

@[simp] theorem resolve_nil (place : List String) : resolve place [] = place :=
  rfl

theorem resolve_append (place before after : List String) :
    resolve place (before ++ after) = resolve (resolve place before) after := by
  induction before generalizing place with
  | nil => rfl
  | cons name before ih =>
      rw [List.cons_append, resolve, resolve]
      split
      · exact ih place
      · split
        · exact ih place.dropLast
        · exact ih (place ++ [name])

theorem resolve_here (place : List String) : resolve place ["."] = place := by
  rw [resolve, if_pos rfl, resolve_nil]

theorem resolve_of_ne (place : List String) {name : String} (hhere : name ≠ ".")
    (habove : name ≠ "..") : resolve place [name] = place ++ [name] := by
  rw [resolve, if_neg hhere, if_neg habove, resolve_nil]

/-- Names for the same directory do not count. -/
theorem resolve_filter (place names : List String) :
    resolve place (names.filter (· ≠ ".")) = resolve place names := by
  induction names generalizing place with
  | nil => rfl
  | cons name names ih =>
      by_cases hname : name = "."
      · rw [List.filter_cons_of_neg (by simpa using hname), resolve, if_pos hname]
        exact ih place
      · rw [List.filter_cons_of_pos (by simpa using hname), resolve, resolve, if_neg hname,
          if_neg hname]
        split
        · exact ih place.dropLast
        · exact ih (place ++ [name])

/-- Names lead to no others. -/
theorem mem_of_mem_resolve {place names : List String} {name : String}
    (h : name ∈ resolve place names) : name ∈ place ∨ name ∈ names := by
  induction names generalizing place with
  | nil => exact .inl h
  | cons first names ih =>
      rw [resolve] at h
      split at h
      · exact (ih h).imp_right (List.mem_cons_of_mem first)
      · split at h
        · exact (ih h).imp (List.dropLast_subset _ ·) (List.mem_cons_of_mem first)
        · rcases ih h with hplace | hnames
          · rw [List.mem_append, List.mem_singleton] at hplace
            exact hplace.imp_right (List.mem_cons.mpr <| .inl ·)
          · exact .inr (List.mem_cons_of_mem first hnames)

/-- Names that do not lead up lead below the place. -/
theorem prefix_resolve {names : List String} (h : ".." ∉ names) (place : List String) :
    place <+: resolve place names := by
  induction names generalizing place with
  | nil => exact List.prefix_refl place
  | cons name names ih =>
      rw [List.mem_cons, not_or] at h
      rw [resolve]
      split
      · exact ih h.2 place
      · rw [if_neg (Ne.symm h.1)]
        exact (List.prefix_append place [name]).trans (ih h.2 _)

/-- No name leads down by more than one. -/
theorem length_resolve_le (place names : List String) :
    (resolve place names).length ≤ place.length + (names.filter (· ≠ ".")).length := by
  induction names generalizing place with
  | nil => simp
  | cons name names ih =>
      rw [resolve]
      split
      · next hname => simpa [hname] using ih place
      · next hname =>
          rw [List.filter_cons_of_pos (by simpa using hname), List.length_cons]
          split
          · have hle := ih place.dropLast
            rw [List.length_dropLast] at hle
            omega
          · have hle := ih (place ++ [name])
            rw [List.length_append, List.length_singleton] at hle
            omega

/-- Names that do not lead up lead down by one each. -/
theorem length_resolve {names : List String} (h : ".." ∉ names) (place : List String) :
    (resolve place names).length = place.length + (names.filter (· ≠ ".")).length := by
  induction names generalizing place with
  | nil => simp
  | cons name names ih =>
      rw [List.mem_cons, not_or] at h
      rw [resolve]
      split
      · next hname => simpa [hname] using ih h.2 place
      · next hname =>
          rw [if_neg (Ne.symm h.1), List.filter_cons_of_pos (by simpa using hname),
            List.length_cons, ih h.2, List.length_append, List.length_singleton]
          omega

theorem steps_eq (path : String) :
    steps path = Path.pieces path ∨ steps path = Path.pieces path ++ ["."] := by
  rw [steps]
  split
  · exact .inr rfl
  · exact .inl rfl

theorem steps_of_getLast? {path : String} (h : path.toList.getLast? ≠ some '/') :
    steps path = Path.pieces path :=
  if_neg h

/-- The place that an absolute path leads to, if it can be followed. -/
def placeOf (path : String) : List String := resolve [] (steps path)

theorem placeOf_eq (path : String) : placeOf path = resolve [] (Path.pieces path) := by
  rw [placeOf]
  rcases steps_eq path with hsteps | hsteps
  · rw [hsteps]
  · rw [hsteps, resolve_append, resolve_here]

theorem placeOf_eq_resolve_names (path : String) : placeOf path = resolve [] (Path.names path) := by
  rw [placeOf_eq, Path.names_eq, resolve_filter]

theorem steps_join (dir : String) {name : String} (h : Path.IsPlain name) :
    steps (Path.join dir name) = Path.pieces dir ++ [name] := by
  rw [steps_of_getLast? (Path.getLast?_join dir h), Path.pieces_join dir h]

/-- A plain name leads down from the place of its directory. -/
theorem placeOf_join (dir : String) {name : String} (h : Path.IsPlain name) :
    placeOf (Path.join dir name) = placeOf dir ++ [name] := by
  rw [placeOf, steps_join dir h, resolve_append, resolve_of_ne _ h.ne_here h.ne_above,
    ← placeOf_eq]

theorem placeOf_append {above name : String} (habove : Path.IsFront above)
    (hname : Path.IsPlain name) : placeOf (above ++ name) = placeOf above ++ [name] := by
  rw [placeOf, steps_of_getLast? (Path.getLast?_append_plain above hname), habove.pieces_append,
    Path.pieces_of_isPlain hname, resolve_append, resolve_of_ne _ hname.ne_here hname.ne_above,
    ← placeOf_eq]

end FileTree

end ScaffoldRunner
