import Mathlib.Data.List.Nodup
import Wordwalk.Proofs.Listing
import Wordwalk.Proofs.Walk.Depth

/-! The paths that a walk comes by. Whatever the scanner answers, and however it changes its answers
while the walk goes on, a walk scans no directory twice, finds no file twice, and never leaves what
lies below its root: that rests on the check of each listing alone. -/
namespace Wordwalk

namespace Path

variable {dir name : Bytes} {names tops others paths more : List Bytes}

/-- Whether `names` can lead from a directory to an entry below it. -/
def IsBranch (names : List Bytes) : Prop := names ≠ [] ∧ ∀ name ∈ names, IsName name

theorem isBranch_singleton (h : IsName name) : IsBranch [name] :=
  ⟨by simp, by simpa using h⟩

theorem IsBranch.cons (h : IsBranch names) (hn : IsName name) : IsBranch (name :: names) :=
  ⟨by simp, List.forall_mem_cons.mpr ⟨hn, h.2⟩⟩

/-- What lies below a directory has another path than the directory. -/
theorem IsBranch.under_ne (h : IsBranch names) (dir : Bytes) : under dir names ≠ dir := by
  have hjoin : Bytes.join [0x2F] names ≠ [] := by
    intro hnil
    have hsplit := Bytes.splitOn_join h.1 fun name hn => (h.2 name hn).2.2.2
    rw [hnil] at hsplit
    exact (h.2 [] (by simp [← hsplit, Bytes.splitOn])).1 rfl
  intro he
  unfold under stem at he
  split at he
  · rename_i hd
    exact hjoin (by simpa [hd] using he)
  · split at he
    · exact hjoin (by simpa using he)
    · simp at he

/-- Whether `paths` are those of branches below `dir`, no two the same, each through one of the
entries `tops`. -/
def Charted (dir : Bytes) (tops paths : List Bytes) : Prop :=
  ∃ branches : List (List Bytes), paths.Perm (branches.map (under dir)) ∧ branches.Nodup ∧
    ∀ branch ∈ branches, IsBranch branch ∧ ∃ top ∈ tops, branch.head? = some top

theorem charted_nil (dir : Bytes) (tops : List Bytes) : Charted dir tops [] :=
  ⟨[], by simp, by simp, by simp⟩

theorem Charted.perm (h : Charted dir tops paths) (hp : more.Perm paths) :
    Charted dir tops more := by
  obtain ⟨branches, hpaths, hrest⟩ := h
  exact ⟨branches, hp.trans hpaths, hrest⟩

theorem Charted.mono (h : Charted dir tops paths) (hsub : ∀ top ∈ tops, top ∈ others) :
    Charted dir others paths := by
  obtain ⟨branches, hpaths, hnodup, hbranch⟩ := h
  refine ⟨branches, hpaths, hnodup, fun branch hb => ⟨(hbranch branch hb).1, ?_⟩⟩
  obtain ⟨top, ht, hhead⟩ := (hbranch branch hb).2
  exact ⟨top, hsub top ht, hhead⟩

/-- Branches through different entries are different. -/
theorem Charted.append (h : Charted dir tops paths) (h' : Charted dir others more)
    (hapart : ∀ top ∈ tops, top ∉ others) : Charted dir (tops ++ others) (paths ++ more) := by
  obtain ⟨branches, hpaths, hnodup, hbranch⟩ := h
  obtain ⟨branches', hpaths', hnodup', hbranch'⟩ := h'
  refine ⟨branches ++ branches', ?_, List.nodup_append.mpr ⟨hnodup, hnodup', ?_⟩, ?_⟩
  · rw [List.map_append]
    exact hpaths.append hpaths'
  · rintro branch hb _ hb' rfl
    obtain ⟨top, ht, hhead⟩ := (hbranch branch hb).2
    obtain ⟨top', ht', hhead'⟩ := (hbranch' branch hb').2
    obtain rfl : top = top' := Option.some.inj (hhead.symm.trans hhead')
    exact hapart top ht ht'
  · intro branch hb
    rcases List.mem_append.mp hb with hb | hb
    · obtain ⟨hbr, top, ht, hhead⟩ := hbranch branch hb
      exact ⟨hbr, top, List.mem_append_left _ ht, hhead⟩
    · obtain ⟨hbr, top, ht, hhead⟩ := hbranch' branch hb
      exact ⟨hbr, top, List.mem_append_right _ ht, hhead⟩

/-- The entries of a directory lie below it. -/
theorem charted_entries (hnodup : names.Nodup) (hn : ∀ name ∈ names, IsName name) (dir : Bytes) :
    Charted dir names (names.map (join dir)) := by
  refine ⟨names.map fun name => [name], ?_, hnodup.map fun _ _ h => List.singleton_inj.mp h, ?_⟩
  · simp [Function.comp_def, under_singleton]
  · intro branch hb
    obtain ⟨name, hm, rfl⟩ := List.mem_map.mp hb
    exact ⟨isBranch_singleton (hn name hm), name, hm, rfl⟩

/-- A sub-directory and what lies below it lies below the directory, through the sub-directory. -/
theorem Charted.through (h : Charted (join dir name) tops paths) (hn : IsName name) :
    Charted dir [name] (join dir name :: paths) := by
  obtain ⟨branches, hpaths, hnodup, hbranch⟩ := h
  refine ⟨[name] :: branches.map (name :: ·), ?_, ?_, ?_⟩
  · have hunder : branches.map (under (join dir name)) =
        (branches.map (name :: ·)).map (under dir) := by
      rw [List.map_map]
      apply List.map_congr_left
      intro branch hb
      exact under_join hn (hbranch branch hb).1.1 dir
    rw [List.map_cons, under_singleton, ← hunder]
    exact hpaths.cons _
  · refine List.nodup_cons.mpr ⟨fun hm => ?_, hnodup.map fun _ _ h => (List.cons.inj h).2⟩
    obtain ⟨branch, hb, he⟩ := List.mem_map.mp hm
    exact (hbranch branch hb).1.1 (List.cons.inj he).2
  · intro branch hb
    rcases List.mem_cons.mp hb with rfl | hb
    · exact ⟨isBranch_singleton hn, name, by simp, rfl⟩
    · obtain ⟨rest, hr, rfl⟩ := List.mem_map.mp hb
      exact ⟨(hbranch rest hr).1.cons hn, name, by simp, rfl⟩

/-- Paths of different branches are different, and none is that of the directory. -/
theorem Charted.nodup (h : Charted dir tops paths) : (dir :: paths).Nodup := by
  obtain ⟨branches, hpaths, hnodup, hbranch⟩ := h
  rw [List.nodup_cons, hpaths.mem_iff, hpaths.nodup_iff]
  constructor
  · intro hm
    obtain ⟨branch, hb, he⟩ := List.mem_map.mp hm
    exact (hbranch branch hb).1.under_ne dir he
  · refine hnodup.map_on fun branch hb other ho he => ?_
    have hbr := (hbranch branch hb).1
    have hot := (hbranch other ho).1
    exact under_injective hbr.1 hot.1 hbr.2 hot.2 he

theorem Charted.exists_branch (h : Charted dir tops paths) {path : Bytes} (hp : path ∈ paths) :
    ∃ names, IsBranch names ∧ path = under dir names := by
  obtain ⟨branches, hpaths, _, hbranch⟩ := h
  obtain ⟨branch, hb, rfl⟩ := List.mem_map.mp (hpaths.mem_iff.mp hp)
  exact ⟨branch, (hbranch branch hb).1, rfl⟩

end Path

namespace Walk

variable {v w : Walk} {dir name : Bytes}

/-- All paths that a walk came by: of the directories it scanned and of the files it found. -/
def paths (w : Walk) : List Bytes := w.scanned ++ w.files

/-- Whether a walk came by nothing, or by `dir` and then by what lies below it. -/
def Charts (w : Walk) (dir : Bytes) : Prop :=
  w.paths = [] ∨ ∃ tops rest, w.paths.Perm (dir :: rest) ∧ Path.Charted dir tops rest

/-- One walk after another comes by what both come by, or by what the first does if that ended
early. -/
theorem paths_andThen (v w : Walk) :
    (v.andThen w).paths = v.paths ∨ (v.andThen w).paths.Perm (v.paths ++ w.paths) := by
  cases hs : v.stop with
  | some stop => exact Or.inl (by rw [andThen_of_stop hs])
  | none =>
    right
    have hpaths : (v.andThen w).paths = v.scanned ++ w.scanned ++ (v.files ++ w.files) := by
      simp [paths, andThen, hs]
    rw [hpaths, paths, paths, List.append_assoc, List.append_assoc]
    refine List.Perm.append_left v.scanned ?_
    rw [← List.append_assoc, ← List.append_assoc]
    exact List.Perm.append_right w.files List.perm_append_comm

theorem Charts.charted (h : w.Charts (Path.join dir name)) (hn : Path.IsName name) :
    Path.Charted dir [name] w.paths := by
  rcases h with h | ⟨tops, rest, hp, hrest⟩
  · rw [h]
    exact Path.charted_nil dir [name]
  · exact (hrest.through hn).perm hp

theorem Charts.nodup (h : w.Charts dir) : w.paths.Nodup := by
  rcases h with h | ⟨tops, rest, hp, hrest⟩
  · simp [h]
  · exact hp.nodup_iff.mpr hrest.nodup

end Walk

namespace Walker

variable {w : Walker} {depth : Nat} {scanned names : List Bytes} {dir rel root : Bytes}

/-- Different names of a directory lead to different paths, so walking one after another comes by
none twice if walking each does. -/
theorem visitAll_charted {visit : List Bytes → Bytes → Bytes → Walk}
    (hvisit : ∀ scanned dir rel, (visit scanned dir rel).Charts dir) (hnodup : names.Nodup)
    (hn : ∀ name ∈ names, Path.IsName name) :
    Path.Charted dir names (w.visitAll visit dir rel scanned names).paths := by
  induction names generalizing scanned with
  | nil => exact Path.charted_nil dir []
  | cons name names ih =>
    obtain ⟨hnew, hnodup⟩ := List.nodup_cons.mp hnodup
    obtain ⟨hname, hnames⟩ := List.forall_mem_cons.mp hn
    cases hi : ignored w.ignore (Path.join rel name) with
    | true =>
      rw [visitAll_cons_of_ignored hi]
      exact (ih hnodup hnames).mono fun top ht => List.mem_cons_of_mem name ht
    | false =>
      rw [visitAll_cons_of_kept hi]
      have hfirst := (hvisit scanned (Path.join dir name) (Path.join rel name)).charted hname
      rcases Walk.paths_andThen (visit scanned (Path.join dir name) (Path.join rel name)) _ with
        he | hp
      · rw [he]
        exact hfirst.mono (by simp)
      · refine (hfirst.append (ih hnodup hnames) ?_).perm hp
        intro top ht
        rwa [List.mem_singleton.mp ht]

theorem keptFiles_charted {listing : Listing} (hnodup : listing.files.Nodup)
    (hn : ∀ name ∈ listing.files, Path.IsName name) :
    Path.Charted dir listing.files (w.keptFiles dir rel listing) := by
  unfold keptFiles
  refine (Path.charted_entries (hnodup.filter _) ?_ dir).mono ?_
  · intro name hm
    exact hn name (List.mem_filter.mp hm).1
  · intro name hm
    exact (List.mem_filter.mp hm).1

/-- One level of `visit_charts`: the entries of a listing that makes sense have names of their
own. -/
theorem visit_charts_of_below
    (hbelow : ∀ scanned dir rel, (w.below depth scanned dir rel).Charts dir) :
    (w.visit depth scanned dir rel).Charts dir := by
  rcases w.opens_or_refusal scanned dir with ⟨listing, ho⟩ | hc | ⟨hc, f, hf⟩
  · obtain ⟨_, hnames, hnodup⟩ := Listing.fault?_eq_none_iff.mp ho.2.2
    obtain ⟨hdirs, hfiles, hapart⟩ := List.nodup_append.mp hnodup
    have hkept : Path.Charted dir listing.files (w.keptFiles dir rel listing) :=
      keptFiles_charted hfiles fun name hn => hnames name (List.mem_append_right _ hn)
    have hsub : Path.Charted dir listing.subDirs
        (w.visitAll (w.below depth) dir rel (scanned ++ [dir]) listing.subDirs).paths :=
      visitAll_charted hbelow hdirs fun name hn => hnames name (List.mem_append_left _ hn)
    rw [visit_of_opens ho]
    rcases Walk.paths_andThen
      { scanned := [dir], events := (w.scanner scanned dir).events
        files := w.keptFiles dir rel listing } _ with he | hp
    · exact Or.inr ⟨_, _, List.Perm.of_eq he, hkept⟩
    · refine Or.inr ⟨_, _, hp, hkept.append hsub ?_⟩
      intro name hf hd
      exact hapart name hd name hf rfl
  · rw [visit_of_cancelled hc]
    exact Or.inl rfl
  · rw [visit_of_refusal hc hf]
    exact Or.inr ⟨[], [], List.Perm.refl _, Path.charted_nil dir []⟩

/-- A walk of a directory comes by the directory and by what lies below it, by nothing twice. -/
theorem visit_charts (w : Walker) (depth : Nat) (scanned : List Bytes) (dir rel : Bytes) :
    (w.visit depth scanned dir rel).Charts dir := by
  induction depth generalizing scanned dir rel with
  | zero => exact visit_charts_of_below fun _ _ _ => Or.inl rfl
  | succ depth ih => exact visit_charts_of_below ih

/-- An enumeration keeps the files of its walk or, if it ended early, none. -/
theorem paths_enumerate_sublist (w : Walker) (depth : Nat) (root : Bytes) :
    (w.enumerate depth root).paths.Sublist (w.visit depth [] root []).paths := by
  unfold enumerate Walk.paths
  cases hs : (w.visit depth [] root []).stop with
  | some stop => simp [hs]
  | none => simp [hs]

/-- Whatever the scanner answers, no directory is scanned twice, no file is found twice and none has
the path of a scanned directory. All but the root itself have paths below the root, made of names
that are not empty, not `.` and not `..`, and hold no slash. -/
theorem enumerate_distinct_below (w : Walker) (depth : Nat) (root : Bytes) :
    (w.enumerate depth root).scanned.Nodup ∧ (w.enumerate depth root).files.Nodup ∧
      (∀ file ∈ (w.enumerate depth root).files, file ∉ (w.enumerate depth root).scanned) ∧
      ∀ path ∈ (w.enumerate depth root).scanned ++ (w.enumerate depth root).files, path ≠ root →
        ∃ names, names ≠ [] ∧ (∀ name ∈ names, Path.IsName name) ∧
          path = Path.under root names := by
  have hsub := paths_enumerate_sublist w depth root
  rcases visit_charts w depth [] root [] with h | ⟨tops, rest, hp, hrest⟩
  · rw [h, List.sublist_nil, Walk.paths, List.append_eq_nil_iff] at hsub
    simp [hsub.1, hsub.2]
  · have hnodup := hsub.nodup (hp.nodup_iff.mpr hrest.nodup)
    obtain ⟨hscanned, hfiles, hapart⟩ := List.nodup_append.mp hnodup
    refine ⟨hscanned, hfiles, fun file hf hs => hapart file hs file hf rfl, ?_⟩
    intro path hpath hne
    rcases List.mem_cons.mp (hp.mem_iff.mp (hsub.subset hpath)) with rfl | hr
    · exact absurd rfl hne
    · obtain ⟨names, ⟨hnil, hnames⟩, he⟩ := hrest.exists_branch hr
      exact ⟨names, hnil, hnames, he⟩

end Walker
end Wordwalk
