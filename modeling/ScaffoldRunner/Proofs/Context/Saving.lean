import ScaffoldRunner.Proofs.Context.Accumulation

/-!
# Contexts saved one after another

A context that is saved for a task is merged over the one in the file of the task.  The
first one is saved as it is, with the number of merges that it may state itself; from
then on every save counts one more, whatever the contexts state.  What is loaded after
some calls is what the last save of the task has answered, no matter what was loaded and
what was saved for other tasks in between.

All of this rests on what can be read of the file.  A merge of values that their texts
give back is such a value, and it is nested no deeper than they are.
-/

namespace ScaffoldRunner

/-! ## Values that can be read again -/

namespace Json

variable {n : Nat} {items : List Json} {members : Members}

theorem depthItems_le_iff : depthItems items ≤ n ↔ ∀ a ∈ items, a.depth ≤ n := by
  induction items with
  | nil => simp [depthItems]
  | cons a items ih => rw [depthItems, Nat.max_le, ih, List.forall_mem_cons]

theorem depthMembers_le_iff : depthMembers members ≤ n ↔ ∀ e ∈ members, e.2.depth ≤ n := by
  induction members with
  | nil => simp [depthMembers]
  | cons e members ih => rw [depthMembers, Nat.max_le, ih, List.forall_mem_cons]

/-- A value that its text gives back, nested at most to some depth. -/
structure Fits (n : Nat) (j : Json) : Prop where
  isValue : j.IsValue
  depth_le : j.depth ≤ n

theorem fits_str (s : String) : (str s).Fits n := ⟨trivial, Nat.zero_le n⟩

theorem fits_nat {k : Nat} (h : k < twoTo 64) : (nat k).Fits n := by
  have hlow : -Int.ofNat (twoTo 63) ≤ Int.ofNat k :=
    (Int.neg_nonpos_of_nonneg (Int.natCast_nonneg _)).trans (Int.natCast_nonneg k)
  exact ⟨⟨hlow, Int.ofNat_lt.mpr h⟩, Nat.zero_le n⟩

theorem fits_arr : (arr items).Fits n ↔ 0 < n ∧ ∀ a ∈ items, a.Fits (n - 1) := by
  constructor
  · rintro ⟨hvalue, hdepth⟩
    rw [depth] at hdepth
    have hitems := depthItems_le_iff.mp (Nat.le_sub_of_add_le hdepth)
    exact ⟨Nat.zero_lt_of_lt hdepth, fun a ha => ⟨areValues_iff.mp hvalue a ha, hitems a ha⟩⟩
  · rintro ⟨hpos, hitems⟩
    have hdepth := depthItems_le_iff.mpr fun a ha => (hitems a ha).depth_le
    refine ⟨areValues_iff.mpr fun a ha => (hitems a ha).isValue, ?_⟩
    rw [depth]
    omega

/-- Members of an object that is read back, their values nested at most to some depth. -/
structure MembersFit (n : Nat) (members : Members) : Prop where
  sorted : members.Sorted
  values : ∀ e ∈ members, e.2.Fits n

theorem fits_obj : (obj members).Fits n ↔ 0 < n ∧ MembersFit (n - 1) members := by
  constructor
  · rintro ⟨⟨hsorted, hvalues⟩, hdepth⟩
    rw [depth] at hdepth
    have hmembers := depthMembers_le_iff.mp (Nat.le_sub_of_add_le hdepth)
    exact ⟨Nat.zero_lt_of_lt hdepth, hsorted, fun e he =>
      ⟨holdsValues_iff.mp hvalues e he, hmembers e he⟩⟩
  · rintro ⟨hpos, hsorted, hmembers⟩
    have hdepth := depthMembers_le_iff.mpr fun e he => (hmembers e he).depth_le
    refine ⟨⟨hsorted, holdsValues_iff.mpr fun e he => (hmembers e he).isValue⟩, ?_⟩
    rw [depth]
    omega

namespace MembersFit

theorem nil : MembersFit n [] := ⟨List.Pairwise.nil, nofun⟩

theorem insert (h : MembersFit n members) {value : Json} (hvalue : value.Fits n) (key : String) :
    MembersFit n (members.insert key value) := by
  refine ⟨Dict.sorted_insert h.sorted key value, fun e he => ?_⟩
  rcases Dict.eq_or_mem_of_mem_insert he with rfl | hmem
  · exact hvalue
  · exact h.values e hmem

theorem overlay (h : MembersFit n members) {top : Members} (htop : MembersFit n top) :
    MembersFit n (Dict.overlay members top) := by
  refine ⟨Dict.sorted_overlay h.sorted top, fun e he => ?_⟩
  rcases Dict.mem_of_mem_overlay he with hmem | hmem
  · exact h.values e hmem
  · exact htop.values e hmem

end MembersFit

end Json

namespace Context

open Json

variable {n : Nat} {old new : Json}

theorem membersFit_membersOf (h : new.Fits n) : MembersFit (n - 1) (membersOf new) := by
  cases new with
  | obj members => exact (fits_obj.mp h).2
  | _ => exact .nil

theorem fits_combine (hold : old.Fits n) (hnew : new.Fits n) (key : String) :
    (combine key old new).Fits n := by
  unfold combine
  split
  · split
    · rw [fits_arr] at hold hnew ⊢
      exact ⟨hnew.1, List.forall_mem_append.mpr ⟨hold.2, hnew.2⟩⟩
    · exact hnew
  · split
    · rw [fits_obj] at hold hnew ⊢
      exact ⟨hnew.1, hold.2.overlay hnew.2⟩
    · exact hnew
  · exact hnew

theorem membersFit_enter {merged : Members} (h : MembersFit n merged) {value : Json}
    (hvalue : value.Fits n) (key : String) : MembersFit n (enter merged key value) := by
  rw [enter]
  split
  · exact h
  · split
    · next old hget =>
        have hold := h.values _ (Dict.mem_of_get? hget)
        exact h.insert (fits_combine hold hvalue key) key
    · exact h.insert hvalue key

theorem membersFit_foldl_enter {entries : Members} (hentries : ∀ e ∈ entries, e.2.Fits n)
    {base : Members} (hbase : MembersFit n base) :
    MembersFit n (entries.foldl (fun merged e => enter merged e.1 e.2) base) := by
  induction entries generalizing base with
  | nil => exact hbase
  | cons e entries ih =>
      rw [List.forall_mem_cons] at hentries
      exact ih hentries.2 (membersFit_enter hbase hentries.1 e.1)

/-- A merge is nested no deeper than the contexts, and it can be read again as long as the
number of merges fits 64 bits. -/
theorem fits_merge (hpos : 0 < n) (hold : old.Fits n) (hnew : new.Fits n)
    (hcount : mergeCount (membersOf old) + 1 < twoTo 64) (now : String) :
    (merge now old new).Fits n := by
  have hmembers := membersFit_membersOf hnew
  have hentered := membersFit_foldl_enter hmembers.values (membersFit_membersOf hold)
  rw [merge, fits_obj, mergeMembers, mergeCount_foldl_enter hmembers.sorted]
  have hstamped := hentered.insert (fits_str now) lastUpdatedKey
  exact ⟨hpos, hstamped.insert (fits_nat hcount) mergeCountKey⟩

end Context

/-! ## Calls of the store -/

namespace ContextStore

open Context FileTree

/-- A call of a store. -/
inductive Call where
  | saveMerged (task : String) (now : Instant) (context : Json)
  | load (task : String)

/-- A context that was saved for a task: when, what was given and what the answer was. -/
structure Saved where
  now : Instant
  given : Json
  merged : Json
  deriving DecidableEq

/-- The files after a call. -/
def Call.after (store : ContextStore) (tree : FileTree) : Call → FileTree
  | saveMerged task now context => stateOf (store.saveMerged task now context tree)
  | load _ => tree

def Call.saved? (store : ContextStore) (task : String) (tree : FileTree) : Call → Option Saved
  | saveMerged other now context =>
      if other = task then
        (answerOf (store.saveMerged other now context tree)).toOption.map (Saved.mk now context)
      else none
  | load _ => none

/-- The files after some calls. -/
def afterCalls (store : ContextStore) (calls : List Call) (tree : FileTree) : FileTree :=
  calls.foldl (fun tree call => call.after store tree) tree

/-- What some calls save for a task, one after another. -/
def saves (store : ContextStore) (task : String) : List Call → FileTree → List Saved
  | [], _ => []
  | call :: calls, tree =>
      (call.saved? store task tree).toList ++ saves store task calls (call.after store tree)

/-- The disk does not fail while a call saves a context for a task. -/
def Call.IsTaken (store : ContextStore) (task : String) (tree : FileTree) : Call → Prop
  | saveMerged other now context => other = task → ∀ fault : DiskFault,
      answerOf (store.saveMerged task now context tree) ≠
        .error (.io (store.taskPath task) fault.error)
  | load _ => True

/-- The disk does not fail while some calls save contexts for a task, one after another. -/
def AreTaken (store : ContextStore) (task : String) : List Call → FileTree → Prop
  | [], _ => True
  | call :: calls, tree =>
      call.IsTaken store task tree ∧ AreTaken store task calls (call.after store tree)

/-- A call names files of the directory, and what it saves for a task can be read again. -/
def Call.IsReadable (task : String) : Call → Prop
  | saveMerged other now context => '/' ∉ other.toList ∧
      (other = task → context.Fits (Json.maxDepth - 1) ∧ (Instant.parse? now.iso).isSome = true)
  | load _ => True

variable {store : ContextStore} {task : String} {tree after : FileTree} {loaded : Option Json}
  {now : Instant} {given : Json}

theorem saveMerged_of_load (h : store.load task tree = .ok loaded) (now : Instant)
    (given : Json) :
    store.saveMerged task now given tree = store.saveMergedOver task now loaded given tree := by
  delta saveMerged
  simp only [h]

/-- A file that cannot be read is left as it is, with all other files. -/
theorem saveMerged_of_load_error {e : ContextError} (h : store.load task tree = .error e)
    (now : Instant) (given : Json) :
    store.saveMerged task now given tree = .error e tree := by
  delta saveMerged
  simp only [h]

/-- In a save that is answered with a context the disk has not failed. -/
theorem Call.isTaken_of_saved? {call : Call} (h : (call.saved? store task tree).isSome = true) :
    call.IsTaken store task tree := by
  cases call with
  | load other => trivial
  | saveMerged other now context =>
      rintro rfl fault hfails
      rw [saved?, if_pos rfl, hfails] at h
      cases h

/-! ## One call -/

/-- The file of a task holds a context, or there is none yet. -/
structure HoldsContext (store : ContextStore) (task : String) (loaded : Option Json)
    (tree : FileTree) : Prop where
  holds : ∃ node, store.Holds (taskFile task) node tree
  load : store.load task tree = .ok loaded
  fits : ∀ old ∈ loaded, old.Fits (Json.maxDepth - 1)

namespace HoldsContext

/-- What leaves the file alone leaves the context alone. -/
theorem of_holds (h : store.HoldsContext task loaded tree) (htask : '/' ∉ task.toList)
    (hafter : ∀ node, store.Holds (taskFile task) node tree →
      store.Holds (taskFile task) node after) :
    store.HoldsContext task loaded after := by
  obtain ⟨node, hnode⟩ := h.holds
  have hplain : Path.IsPlain (taskFile task) := Path.isPlain_append htask (by decide) (by decide)
  exact ⟨⟨node, hafter node hnode⟩,
    (hnode.load_eq_load hplain (hafter node hnode)).trans h.load, h.fits⟩

theorem saveMerged_of_ne (h : store.HoldsContext task loaded tree) (htask : '/' ∉ task.toList)
    {other : String} (hother : '/' ∉ other.toList) (hne : other ≠ task) (now : Instant)
    (given : Json) :
    store.HoldsContext task loaded (stateOf (store.saveMerged other now given tree)) := by
  cases hload : store.load other tree with
  | error e =>
      rw [saveMerged_of_load_error hload]
      exact h
  | ok found =>
      have hplain : Path.IsPlain (taskFile other) :=
        Path.isPlain_append hother (by decide) (by decide)
      have hname : taskFile other ≠ taskFile task := mt taskFile_inj.mp hne
      rw [saveMerged_of_load hload]
      exact h.of_holds htask fun _ hnode => hnode.saveMergedOver hplain hname now found given

/-- What was merged is what is loaded from then on. -/
theorem saveMergedOver_ok (h : store.HoldsContext task loaded tree)
    (hgiven : given.Fits (Json.maxDepth - 1)) (hnow : (Instant.parse? now.iso).isSome = true)
    (hcount : ∀ old ∈ loaded, mergeCount (membersOf old) + 1 < twoTo 64) {merged : Json}
    (hok : store.saveMergedOver task now loaded given tree = .ok merged after) :
    merged = mergedOver now loaded given ∧ store.HoldsContext task (some merged) after := by
  obtain ⟨hmerged, hbytes⟩ := readBytes_of_saveMergedOver hok
  refine ⟨hmerged, ?_⟩
  have hfits : merged.Fits (Json.maxDepth - 1) := by
    rw [hmerged]
    cases loaded with
    | none => exact hgiven
    | some old => exact fits_merge (by decide) (h.fits old rfl) hgiven (hcount old rfl) _
  have hshallow : merged.depth < Json.maxDepth := by
    have := hfits.depth_le
    have : Json.maxDepth = 127 := rfl
    omega
  have hgrows := store.enlarges_writeDocument (store.taskPath task)
    (envelope task now (mergedOver now loaded given)) tree
  rw [← stateOf_saveMergedOver, hok] at hgrows
  obtain ⟨node, hnode⟩ := h.holds
  constructor
  · exact ⟨_, hgrows.sound hnode.sound, hnode.direct.imp_right hgrows.isDir, rfl⟩
  · rw [load_of_readBytes hbytes, parseEnvelope?_envelope, reload?_of_isValue hfits.isValue hnow,
      if_pos hshallow]
  · rintro _ ⟨⟩
    exact hfits

theorem saveMergedOver_error (h : store.HoldsContext task loaded tree)
    (htask : '/' ∉ task.toList) {e : ContextError}
    (hdisk : ∀ fault : DiskFault, e ≠ .io (store.taskPath task) fault.error)
    (herror : store.saveMergedOver task now loaded given tree = .error e after) :
    store.HoldsContext task loaded after := by
  refine h.of_holds htask fun _ hnode => ?_
  refine (hnode.saveMergedOver_error herror).resolve_right ?_
  rintro ⟨fault, -, hreason, -⟩
  exact hdisk fault hreason

/-- A call leaves the context of a task alone, or saves what is loaded from then on. -/
theorem call (h : store.HoldsContext task loaded tree) (htask : '/' ∉ task.toList) {call : Call}
    (hcall : call.IsReadable task) (hdisk : call.IsTaken store task tree)
    (hcount : call.saved? store task tree ≠ none →
      ∀ old ∈ loaded, mergeCount (membersOf old) + 1 < twoTo 64) :
    (call.saved? store task tree = none ∧ store.HoldsContext task loaded (call.after store tree)) ∨
    ∃ s : Saved, call.saved? store task tree = some s ∧ s.given.Fits (Json.maxDepth - 1) ∧
      s.merged = mergedOver s.now loaded s.given ∧
      store.HoldsContext task (some s.merged) (call.after store tree) := by
  cases call with
  | load other => exact .inl ⟨rfl, h⟩
  | saveMerged other now given =>
      obtain ⟨hother, hreadable⟩ := hcall
      by_cases hsame : other = task
      · subst hsame
        obtain ⟨hgiven, hnow⟩ := hreadable rfl
        have htaken := hdisk rfl
        simp only [Call.saved?, if_true, Call.after, saveMerged_of_load h.load] at hcount htaken ⊢
        cases hsave : store.saveMergedOver other now loaded given tree with
        | error e after =>
            rw [hsave] at htaken
            exact .inl ⟨rfl, h.saveMergedOver_error htask
              (fun fault he => htaken fault (congrArg Except.error he)) hsave⟩
        | ok merged after =>
            rw [hsave] at hcount
            obtain ⟨hmerged, hafter⟩ :=
              h.saveMergedOver_ok hgiven hnow (hcount (Option.some_ne_none _)) hsave
            exact .inr ⟨⟨now, given, merged⟩, rfl, hgiven, hmerged, hafter⟩
      · refine .inl ⟨if_neg hsame, ?_⟩
        exact h.saveMerged_of_ne htask hother hsame now given

end HoldsContext

/-! ## Any number of calls -/

/-- Contexts that were saved, each merged over what was saved before it. -/
inductive Series : Option Json → List Saved → Prop
  | nil (loaded : Option Json) : Series loaded []
  | cons {loaded : Option Json} {s : Saved} {saved : List Saved} :
      s.given.Fits (Json.maxDepth - 1) → s.merged = mergedOver s.now loaded s.given →
      Series (some s.merged) saved → Series loaded (s :: saved)

/-- The number of merges when some contexts have been saved: it goes on from what was
loaded, and without that from what the first context states. -/
def counted : Option Json → List Saved → Nat
  | some old, saved => mergeCount (membersOf old) + saved.length
  | none, [] => 0
  | none, first :: rest => mergeCount (membersOf first.given) + rest.length

theorem counted_cons {s : Saved} {saved : List Saved} (hgiven : (membersOf s.given).Sorted)
    (hmerged : s.merged = mergedOver s.now loaded s.given)
    (hfits : counted loaded (s :: saved) < twoTo 64) :
    counted (some s.merged) saved = counted loaded (s :: saved) := by
  rw [hmerged]
  cases loaded with
  | none => rfl
  | some old =>
      simp only [counted, List.length_cons] at hfits ⊢
      rw [mergedOver, mergeCount_merge hgiven (by omega)]
      omega

theorem saves_cons_of_none {call : Call} (h : call.saved? store task tree = none)
    (calls : List Call) :
    store.saves task (call :: calls) tree = store.saves task calls (call.after store tree) := by
  rw [saves, h]
  rfl

theorem saves_cons_of_some {call : Call} {s : Saved} (h : call.saved? store task tree = some s)
    (calls : List Call) :
    store.saves task (call :: calls) tree =
      s :: store.saves task calls (call.after store tree) := by
  rw [saves, h]
  rfl

theorem HoldsContext.calls (htask : '/' ∉ task.toList) {calls : List Call}
    (hcalls : ∀ call ∈ calls, call.IsReadable task) (htaken : store.AreTaken task calls tree)
    (h : store.HoldsContext task loaded tree)
    (hfits : counted loaded (store.saves task calls tree) < twoTo 64) :
    Series loaded (store.saves task calls tree) ∧
      store.HoldsContext task
        ((store.saves task calls tree).foldl (fun _ s => some s.merged) loaded)
        (store.afterCalls calls tree) := by
  induction calls generalizing loaded tree with
  | nil => exact ⟨.nil loaded, h⟩
  | cons call calls ih =>
      rw [List.forall_mem_cons] at hcalls
      have hcount (hsaved : call.saved? store task tree ≠ none) (old : Json)
          (hold : old ∈ loaded) : mergeCount (membersOf old) + 1 < twoTo 64 := by
        obtain ⟨s, hs⟩ := Option.ne_none_iff_exists'.mp hsaved
        obtain rfl : loaded = some old := hold
        rw [saves_cons_of_some hs, counted, List.length_cons] at hfits
        omega
      obtain ⟨hdisk, htaken⟩ := htaken
      rcases h.call htask hcalls.1 hdisk hcount with
        ⟨hnone, hafter⟩ | ⟨s, hs, hgiven, hmerged, hafter⟩
      · rw [saves_cons_of_none hnone] at hfits ⊢
        exact ih hcalls.2 htaken hafter hfits
      · rw [saves_cons_of_some hs] at hfits ⊢
        have hsame := counted_cons (membersFit_membersOf hgiven).sorted hmerged hfits
        obtain ⟨hseries, hlast⟩ := ih hcalls.2 htaken hafter (hsame ▸ hfits)
        exact ⟨.cons hgiven hmerged hseries, hlast⟩

/-- Over a context that was loaded, a series of saves is a series of merges. -/
theorem Series.foldl_merged {old : Json} {saved : List Saved} (h : Series (some old) saved) :
    saved.foldl (fun _ s => some s.merged) (some old) =
      some (mergeAll old (saved.map fun s => (s.now.isoOffset, s.given))) := by
  induction saved generalizing old with
  | nil => rfl
  | cons s saved ih =>
      cases h with
      | cons _ hmerged hseries =>
          rw [List.foldl_cons, ih hseries, hmerged]
          rfl

theorem Series.sorted {saved : List Saved} (h : Series loaded saved) :
    ∀ s ∈ saved, (membersOf s.given).Sorted := by
  induction h with
  | nil => nofun
  | cons hgiven _ _ ih =>
      exact List.forall_mem_cons.mpr ⟨(membersFit_membersOf hgiven).sorted, ih⟩

theorem Series.mergeCount_mergeAll {old : Json} {saved : List Saved}
    (h : Series (some old) saved) (hfits : mergeCount (membersOf old) + saved.length < twoTo 64) :
    mergeCount (membersOf (mergeAll old (saved.map fun s => (s.now.isoOffset, s.given)))) =
      mergeCount (membersOf old) + saved.length := by
  have hsorted : ∀ new ∈ saved.map fun s => (s.now.isoOffset, s.given),
      (membersOf new.2).Sorted := List.forall_mem_map.mpr h.sorted
  have hcount := Context.mergeCount_mergeAll old hsorted (by rwa [List.length_map])
  rwa [List.length_map] at hcount

theorem foldl_merged_eq (saved : List Saved) (loaded : Option Json) :
    saved.foldl (fun _ s => some s.merged) loaded =
      (saved.getLast?.map Saved.merged).or loaded := by
  rcases List.eq_nil_or_concat saved with rfl | ⟨front, last, rfl⟩
  · rfl
  · rw [List.concat_eq_append, List.foldl_concat, List.getLast?_concat]
    rfl

/-- A task without a context is given contexts to save, in any calls.  Then its file holds
what the last of these saves has answered, as long as the disk does not fail in one of them:
the first context as it was given, and all others merged over it.  The number of merges is
one less than that of the saves, on top of what the first context states itself.  A save
that meets a file that it cannot read changes nothing. -/
theorem load_afterCalls (htask : '/' ∉ task.toList) (hsound : tree.Sound)
    (hdirect : ".." ∉ Path.names store.dir ∨ tree.isDir store.dir = true)
    (hnone : store.load task tree = .ok none) {calls : List Call}
    (hcalls : ∀ call ∈ calls, call.IsReadable task) (htaken : store.AreTaken task calls tree)
    {first : Saved} {rest : List Saved}
    (hsaves : store.saves task calls tree = first :: rest)
    (hfits : mergeCount (membersOf first.given) + rest.length < twoTo 64) :
    (∃ last, (store.saves task calls tree).getLast? = some last ∧
      store.load task (store.afterCalls calls tree) = .ok (some last.merged) ∧
      first.merged = first.given ∧
      last.merged = mergeAll first.given (rest.map fun s => (s.now.isoOffset, s.given)) ∧
      mergeCount (membersOf last.merged) =
        mergeCount (membersOf first.given) + rest.length) ∧
    ∀ (found : FileTree) (now : Instant) (context : Json) (e : ContextError),
      store.load task found = .error e →
        store.saveMerged task now context found = .error e found := by
  have hstart : store.HoldsContext task none tree := ⟨⟨_, hsound, hdirect, rfl⟩, hnone, nofun⟩
  obtain ⟨hseries, hafter⟩ := hstart.calls htask hcalls htaken (by rw [hsaves]; exact hfits)
  obtain ⟨last, hlast⟩ : ∃ last, (first :: rest).getLast? = some last :=
    ⟨_, List.getLast?_eq_some_getLast (List.cons_ne_nil first rest)⟩
  rw [hsaves] at hseries hafter ⊢
  have hload := hafter.load
  have hwhole := foldl_merged_eq (first :: rest) none
  rw [hlast] at hwhole
  rw [hwhole] at hload
  constructor
  · refine ⟨last, hlast, hload, ?_⟩
    cases hseries with
    | cons hgiven hmerged hrest =>
        rw [List.foldl_cons, hrest.foldl_merged, hmerged] at hwhole
        rw [hmerged] at hrest
        have hresult := (Option.some.inj hwhole).symm
        refine ⟨hmerged, hresult, ?_⟩
        rw [hresult]
        exact hrest.mergeCount_mergeAll hfits
  · intro found now context e herror
    exact saveMerged_of_load_error herror now context

/-- A save that states a number of merges. -/
def stating : Call :=
  .saveMerged "task" ⟨60, 0⟩ (.obj [(mergeCountKey, .nat 99), ("recommendations", .strings ["b"])])

theorem isReadable_stating : stating.IsReadable "task" := by
  refine ⟨by decide, fun _ => ⟨⟨⟨by decide, ⟨by decide, by decide⟩, ⟨trivial, trivial⟩, trivial⟩,
    by decide⟩, by decide +kernel⟩⟩

/-- Two saves of a task, with a save of another task and a load of both in between. -/
def mixedCalls : List Call :=
  [.saveMerged "task" ⟨0, 0⟩ (.obj [("recommendations", .strings ["a"])]),
    .saveMerged "other" ⟨0, 0⟩ (.strings ["x"]), .load "other", .load "task", stating]

theorem load_mixedCalls :
    ∃ last, ContextStore.load ⟨"contexts"⟩ "task" (afterCalls ⟨"contexts"⟩ mixedCalls {}) =
        .ok (some last) ∧
      (saves ⟨"contexts"⟩ "task" mixedCalls {}).length = 2 ∧
      last = mergeAll (.obj [("recommendations", .strings ["a"])])
        [("1970-01-01T00:01:00+00:00", .obj [(mergeCountKey, .nat 99),
          ("recommendations", .strings ["b"])])] ∧
      mergeCount (membersOf last) = 1 := by
  have hcalls : ∀ call ∈ mixedCalls, call.IsReadable "task" := by
    simp only [mixedCalls, List.forall_mem_cons]
    refine ⟨⟨by decide, fun _ => ⟨⟨⟨by decide, ⟨trivial, trivial⟩, trivial⟩, by decide⟩,
      by decide +kernel⟩⟩, ⟨by decide, fun h => absurd h (by decide)⟩, trivial, trivial,
      isReadable_stating, nofun⟩
  have htaken : AreTaken ⟨"contexts"⟩ "task" mixedCalls {} :=
    ⟨Call.isTaken_of_saved? (by decide +kernel), fun h => absurd h (by decide), trivial, trivial,
      Call.isTaken_of_saved? (by decide +kernel), trivial⟩
  have hsaves : saves ⟨"contexts"⟩ "task" mixedCalls {} =
      [⟨⟨0, 0⟩, .obj [("recommendations", .strings ["a"])],
        .obj [("recommendations", .strings ["a"])]⟩,
        ⟨⟨60, 0⟩, .obj [(mergeCountKey, .nat 99), ("recommendations", .strings ["b"])],
          .obj [(mergeCountKey, .nat 1), (lastUpdatedKey, .str "1970-01-01T00:01:00+00:00"),
            ("recommendations", .strings ["a", "b"])]⟩] := by
    decide +kernel
  obtain ⟨⟨last, -, hload, -, hmerged, hcount⟩, -⟩ :=
    load_afterCalls (by decide) sound_empty (.inl (by decide)) (by decide +kernel) hcalls
      htaken hsaves (by decide)
  exact ⟨last.merged, hload, by rw [hsaves]; rfl, hmerged, hcount⟩

/-- The first context that is saved is not freed of the number of merges that it states. -/
theorem load_stating :
    stating.IsReadable "task" ∧ ContextStore.load ⟨"contexts"⟩ "task" {} = .ok none ∧
      (saves ⟨"contexts"⟩ "task" [stating] {}).length = 1 ∧
      ∃ context, ContextStore.load ⟨"contexts"⟩ "task"
        (afterCalls ⟨"contexts"⟩ [stating] {}) = .ok (some context) ∧
        mergeCount (membersOf context) = 99 := by
  have hnone : ContextStore.load ⟨"contexts"⟩ "task" {} = .ok none := by decide +kernel
  have hstart : HoldsContext ⟨"contexts"⟩ "task" none {} :=
    ⟨⟨_, sound_empty, .inl (by decide), rfl⟩, hnone, nofun⟩
  have hsaves : saves ⟨"contexts"⟩ "task" [stating] {} =
      [⟨⟨60, 0⟩, .obj [(mergeCountKey, .nat 99), ("recommendations", .strings ["b"])],
        .obj [(mergeCountKey, .nat 99), ("recommendations", .strings ["b"])]⟩] := by
    decide +kernel
  have htaken : AreTaken ⟨"contexts"⟩ "task" [stating] {} :=
    ⟨Call.isTaken_of_saved? (by decide +kernel), trivial⟩
  obtain ⟨-, hafter⟩ := hstart.calls (by decide)
    (List.forall_mem_singleton.mpr isReadable_stating) htaken (by rw [hsaves]; decide)
  rw [hsaves] at hafter
  exact ⟨isReadable_stating, hnone, by rw [hsaves]; rfl, _, hafter.load, by decide⟩

end ContextStore

end ScaffoldRunner
