import Mathlib.Data.List.Basic
import Wordwalk.Proofs.Listing
import Wordwalk.Proofs.Walk.Depth

/-! A walk over listings that do not change while it runs. Its files are the branches of the tree
that the listings describe, each a list of names, less those that an ignore pattern takes. -/
namespace Wordwalk

/-- A walker whose scanner gives one answer for each directory. -/
def Walker.steady (scan : Bytes → Scan) (ignore : List Bytes) : Walker :=
  { scanner := fun _ => scan, ignore }

namespace Walker

variable {scan : Bytes → Scan} {ignore scanned above names : List Bytes} {depth : Nat}
  {dir rel root : Bytes} {w : Walker}

theorem eq_of_make {scanner : Scanner} {cancelAfter : Option Nat}
    (h : make scanner ignore cancelAfter = .ok w) : w = { scanner, ignore, cancelAfter } := by
  unfold make at h
  split at h
  · simp at h
  · exact (Except.ok.inj h).symm

theorem make_eq_ok (h : make (fun _ => scan) ignore = .ok w) : w = steady scan ignore :=
  eq_of_make h

theorem wellFormed_of_make {scanner : Scanner} (h : make scanner ignore = .ok w) :
    ∀ pattern ∈ ignore, Glob.wellFormed pattern = true := by
  unfold make at h
  split at h
  · simp at h
  · rename_i hnone
    simpa using hnone

/-- Whether a directory is scanned well and every sub-directory that is not ignored is `good`. -/
def Level (scan : Bytes → Scan) (ignore : List Bytes) (good : Bytes → Bytes → Prop)
    (dir rel : Bytes) : Prop :=
  ∃ listing, (scan dir).outcome = .ok listing ∧ listing.fault? dir = none ∧
    ∀ name ∈ listing.subDirs, ignored ignore (Path.join rel name) = false →
      good (Path.join dir name) (Path.join rel name)

/-- Whether the walk of a directory meets no failed scan and no faulty listing, within `depth`. -/
def Completes (scan : Bytes → Scan) (ignore : List Bytes) : Nat → Bytes → Bytes → Prop
  | 0 => Level scan ignore fun _ _ => False
  | depth + 1 => Level scan ignore (Completes scan ignore depth)

/-- The files of a directory, and those that `more` gives for its sub-directories, each as the names
that lead to it. -/
def branchesVia (scan : Bytes → Scan) (more : Bytes → List (List Bytes)) (dir : Bytes) :
    List (List Bytes) :=
  match (scan dir).outcome with
  | .error _ => []
  | .ok listing =>
    listing.files.map (fun name => [name]) ++
      listing.subDirs.flatMap fun name => (more (Path.join dir name)).map fun names => name :: names

/-- The files that the listings from `dir` on describe, `depth` levels down. -/
def branches (scan : Bytes → Scan) : Nat → Bytes → List (List Bytes)
  | 0 => branchesVia scan fun _ => []
  | depth + 1 => branchesVia scan (branches scan depth)

/-- Whether no pattern takes a leading part of `names`, all of them below `above`. -/
def kept (ignore : List Bytes) : (above names : List Bytes) → Bool
  | _, [] => true
  | above, name :: names =>
    !ignored ignore (Bytes.join [0x2F] (above ++ [name])) && kept ignore (above ++ [name]) names

/-- The paths below `dir` of those of its branches that are kept. -/
def keptPaths (ignore above : List Bytes) (dir : Bytes) (found : List (List Bytes)) : List Bytes :=
  (found.filter (kept ignore above)).map (Path.under dir)

/-- The names of a directory are walked to the end if each that is not ignored is. -/
theorem visitAll_stop_eq_none_iff {visit : List Bytes → Bytes → Bytes → Walk}
    {good : Bytes → Bytes → Prop} (hvisit : ∀ scanned dir rel,
      (visit scanned dir rel).stop = none ↔ good dir rel) :
    (w.visitAll visit dir rel scanned names).stop = none ↔
      ∀ name ∈ names, ignored w.ignore (Path.join rel name) = false →
        good (Path.join dir name) (Path.join rel name) := by
  induction names generalizing scanned with
  | nil => simp [visitAll]
  | cons name names ih =>
    cases hi : ignored w.ignore (Path.join rel name) with
    | true => simp [visitAll_cons_of_ignored hi, hi, ih]
    | false => simp [visitAll_cons_of_kept hi, hi, ih, hvisit]

theorem visitAll_files {visit : List Bytes → Bytes → Bytes → Walk} (found : Bytes → List Bytes)
    (hvisit : ∀ name ∈ names, ∀ scanned,
      (visit scanned (Path.join dir name) (Path.join rel name)).stop = none →
        (visit scanned (Path.join dir name) (Path.join rel name)).files = found name)
    (h : (w.visitAll visit dir rel scanned names).stop = none) :
    (w.visitAll visit dir rel scanned names).files =
      names.flatMap fun name =>
        if ignored w.ignore (Path.join rel name) then [] else found name := by
  induction names generalizing scanned with
  | nil => rfl
  | cons name names ih =>
    have hrest := fun n hn => hvisit n (List.mem_cons_of_mem name hn)
    cases hi : ignored w.ignore (Path.join rel name) with
    | true =>
      rw [visitAll_cons_of_ignored hi] at h ⊢
      rw [Walk.andThen_files rfl, ih hrest ((Walk.andThen_stop_eq_none_iff _ _).mp h).2]
      simp [hi]
    | false =>
      rw [visitAll_cons_of_kept hi] at h ⊢
      obtain ⟨hfirst, hnext⟩ := (Walk.andThen_stop_eq_none_iff _ _).mp h
      rw [Walk.andThen_files hfirst, ih hrest hnext, hvisit name (by simp) _ hfirst]
      simp [hi]

theorem opens_steady {listing : Listing} (ho : (scan dir).outcome = .ok listing)
    (hf : listing.fault? dir = none) : (steady scan ignore).Opens scanned dir listing :=
  ⟨rfl, ho, hf⟩

theorem exists_listing_of_visit
    (h : ((steady scan ignore).visit depth scanned dir rel).stop = none) :
    ∃ listing, (scan dir).outcome = .ok listing ∧ listing.fault? dir = none := by
  rcases (steady scan ignore).opens_or_visit_eq scanned dir rel with hopens | ⟨early, hstop, hearly⟩
  · exact hopens.imp fun _ ho => ho.2
  · rw [hearly] at h
    exact absurd h hstop

theorem visit_stop_eq_none_of_below {good : Bytes → Bytes → Prop}
    (hbelow : ∀ scanned dir rel,
      ((steady scan ignore).below depth scanned dir rel).stop = none ↔ good dir rel) :
    ((steady scan ignore).visit depth scanned dir rel).stop = none ↔
      Level scan ignore good dir rel := by
  constructor
  · intro h
    obtain ⟨listing, ho, hf⟩ := exists_listing_of_visit h
    rw [visit_of_opens (opens_steady ho hf), Walk.andThen_stop_eq_none_iff] at h
    exact ⟨listing, ho, hf, (visitAll_stop_eq_none_iff hbelow).mp h.2⟩
  · rintro ⟨listing, ho, hf, h⟩
    rw [visit_of_opens (opens_steady ho hf), Walk.andThen_stop_eq_none_iff]
    exact ⟨rfl, (visitAll_stop_eq_none_iff hbelow).mpr h⟩

theorem visit_stop_eq_none_iff :
    ((steady scan ignore).visit depth scanned dir rel).stop = none ↔
      Completes scan ignore depth dir rel := by
  induction depth generalizing scanned dir rel with
  | zero => exact visit_stop_eq_none_of_below (by simp [below])
  | succ depth ih => exact visit_stop_eq_none_of_below fun _ _ _ => ih

theorem Level.unpatterned {good good' : Bytes → Bytes → Prop} {rel' : Bytes}
    (himp : ∀ {dir rel rel'}, good dir rel → good' dir rel') (h : Level scan [] good dir rel) :
    Level scan ignore good' dir rel' := by
  obtain ⟨listing, ho, hf, hsub⟩ := h
  exact ⟨listing, ho, hf, fun name hn _ => himp (hsub name hn rfl)⟩

/-- Patterns keep no walk from its end: they only leave directories out. -/
theorem completes_of_unpatterned {rel' : Bytes} (h : Completes scan [] depth dir rel) :
    Completes scan ignore depth dir rel' := by
  induction depth generalizing dir rel rel' with
  | zero => exact Level.unpatterned False.elim h
  | succ depth ih => exact Level.unpatterned ih h

/-- A file is kept if no pattern takes a leading part of its path. -/
theorem kept_eq_all (ignore above names : List Bytes) :
    kept ignore above names =
      names.inits.tail.all fun lead => !ignored ignore (Bytes.join [0x2F] (above ++ lead)) := by
  induction names generalizing above with
  | nil => rfl
  | cons name names ih =>
    have hinits : names.inits = [] :: names.inits.tail := by cases names <;> simp
    rw [List.inits_cons, List.tail_cons, hinits, kept, ih]
    simp only [List.map_cons, List.all_cons, List.all_map, Function.comp_def, List.append_assoc,
      List.singleton_append]

theorem kept_nil (above names : List Bytes) : kept [] above names = true := by
  rw [kept_eq_all, List.all_eq_true]
  exact fun _ _ => rfl

theorem branchesVia_of_listing {more : Bytes → List (List Bytes)} {listing : Listing}
    (ho : (scan dir).outcome = .ok listing) :
    branchesVia scan more dir =
      listing.files.map (fun name => [name]) ++
        listing.subDirs.flatMap fun name =>
          (more (Path.join dir name)).map fun names => name :: names := by
  rw [branchesVia, ho]

theorem branchesVia_ne_nil {more : Bytes → List (List Bytes)}
    (h : names ∈ branchesVia scan more dir) : names ≠ [] := by
  rintro rfl
  cases ho : (scan dir).outcome with
  | error failure => simp [branchesVia, ho] at h
  | ok listing => simp [branchesVia, ho] at h

theorem branch_ne_nil (h : names ∈ branches scan depth dir) : names ≠ [] := by
  cases depth with
  | zero => exact branchesVia_ne_nil h
  | succ depth => exact branchesVia_ne_nil h

theorem exists_listing_of_mem_branches (h : names ∈ branches scan depth dir) :
    ∃ listing, (scan dir).outcome = .ok listing := by
  cases ho : (scan dir).outcome with
  | error failure => cases depth <;> simp [branches, branchesVia, ho] at h
  | ok listing => exact ⟨listing, rfl⟩

/-- The files of a listing that are kept are its branches of one name. -/
theorem keptFiles_eq (habove : ∀ part ∈ above, Path.IsName part) (dir : Bytes) (listing : Listing) :
    (steady scan ignore).keptFiles dir (Bytes.join [0x2F] above) listing =
      keptPaths ignore above dir (listing.files.map fun name => [name]) := by
  have hkept : ∀ name, kept ignore above [name] =
      !ignored ignore (Path.join (Bytes.join [0x2F] above) name) := by
    intro name
    simp [kept, Path.join_slashed habove]
  simp [keptFiles, keptPaths, steady, List.filter_map, Function.comp_def, hkept,
    Path.under_singleton]

/-- The branches through a sub-directory are those from it on, or none are kept. -/
theorem keptPaths_through {name : Bytes} {found : List (List Bytes)}
    (habove : ∀ part ∈ above, Path.IsName part) (hname : Path.IsName name)
    (hfound : ∀ names ∈ found, names ≠ []) (dir : Bytes) :
    keptPaths ignore above dir (found.map fun names => name :: names) =
      if ignored ignore (Path.join (Bytes.join [0x2F] above) name) then []
      else keptPaths ignore (above ++ [name]) (Path.join dir name) found := by
  rw [Path.join_slashed habove, keptPaths, List.filter_map, List.map_map]
  cases hi : ignored ignore (Bytes.join [0x2F] (above ++ [name])) with
  | true => simp [kept, hi, Function.comp_def]
  | false =>
    simp only [kept, keptPaths, hi, Function.comp_def, Bool.not_false, Bool.true_and,
      Bool.false_eq_true, if_false]
    apply List.map_congr_left
    intro names hn
    exact (Path.under_join hname (hfound names (List.mem_filter.mp hn).1) dir).symm

/-- One level of `visit_files`: what is found below a directory adds to its own files. -/
theorem visit_files_of_below {more : Bytes → List (List Bytes)}
    (habove : ∀ part ∈ above, Path.IsName part) (hmore : ∀ dir, ∀ names ∈ more dir, names ≠ [])
    (hbelow : ∀ {scanned above dir}, (∀ part ∈ above, Path.IsName part) →
      ((steady scan ignore).below depth scanned dir (Bytes.join [0x2F] above)).stop = none →
      ((steady scan ignore).below depth scanned dir (Bytes.join [0x2F] above)).files =
        keptPaths ignore above dir (more dir))
    (h : ((steady scan ignore).visit depth scanned dir (Bytes.join [0x2F] above)).stop = none) :
    ((steady scan ignore).visit depth scanned dir (Bytes.join [0x2F] above)).files =
      keptPaths ignore above dir (branchesVia scan more dir) := by
  obtain ⟨listing, ho, hf⟩ := exists_listing_of_visit h
  have hnames := (Listing.fault?_eq_none_iff.mp hf).2.1
  rw [visit_of_opens (opens_steady ho hf)] at h ⊢
  have hfiles := visitAll_files
    (fun name =>
      keptPaths ignore (above ++ [name]) (Path.join dir name) (more (Path.join dir name)))
    ?_ ((Walk.andThen_stop_eq_none_iff _ _).mp h).2
  · rw [Walk.andThen_files rfl, hfiles, branchesVia_of_listing ho, keptFiles_eq habove]
    rw [keptPaths, keptPaths, List.filter_append, List.map_append, List.filter_flatMap,
      List.map_flatMap]
    congr 1
    apply List.flatMap_congr
    intro name hn
    have hname := hnames name (List.mem_append_left _ hn)
    exact (keptPaths_through habove hname (hmore (Path.join dir name)) dir).symm
  · intro name hn scanned hs
    rw [Path.join_slashed habove] at hs ⊢
    refine hbelow ?_ hs
    intro part hp
    rcases List.mem_append.mp hp with hp | hp
    · exact habove part hp
    · rw [List.mem_singleton.mp hp]
      exact hnames name (List.mem_append_left _ hn)

/-- The files of a walk that comes to its end are the branches that are kept. -/
theorem visit_files (habove : ∀ part ∈ above, Path.IsName part)
    (h : ((steady scan ignore).visit depth scanned dir (Bytes.join [0x2F] above)).stop = none) :
    ((steady scan ignore).visit depth scanned dir (Bytes.join [0x2F] above)).files =
      keptPaths ignore above dir (branches scan depth dir) := by
  induction depth generalizing scanned dir above with
  | zero => exact visit_files_of_below habove (by simp) (fun _ hs => by simp [below] at hs) h
  | succ depth ih => exact visit_files_of_below habove (fun _ _ => branch_ne_nil) ih h

theorem isName_of_mem_branchesVia {good : Bytes → Bytes → Prop} {more : Bytes → List (List Bytes)}
    (h : Level scan [] good dir rel)
    (hmore : ∀ {dir rel names}, good dir rel → names ∈ more dir → ∀ part ∈ names, Path.IsName part)
    (hn : names ∈ branchesVia scan more dir) : ∀ part ∈ names, Path.IsName part := by
  obtain ⟨listing, ho, hf, hsub⟩ := h
  have hnames := (Listing.fault?_eq_none_iff.mp hf).2.1
  rw [branchesVia_of_listing ho, List.mem_append] at hn
  rcases hn with hn | hn
  · obtain ⟨name, hm, rfl⟩ := List.mem_map.mp hn
    simpa using hnames name (List.mem_append_right _ hm)
  · obtain ⟨name, hm, hn⟩ := List.mem_flatMap.mp hn
    obtain ⟨rest, hr, rfl⟩ := List.mem_map.mp hn
    rw [List.forall_mem_cons]
    exact ⟨hnames name (List.mem_append_left _ hm), hmore (hsub name hm rfl) hr⟩

theorem isName_of_mem_branches (h : Completes scan [] depth dir rel)
    (hn : names ∈ branches scan depth dir) : ∀ part ∈ names, Path.IsName part := by
  induction depth generalizing dir rel names with
  | zero => exact isName_of_mem_branchesVia h (fun hgood => hgood.elim) hn
  | succ depth ih => exact isName_of_mem_branchesVia h ih hn

theorem enumerate_completes (scan : Bytes → Scan) (ignore : List Bytes) (depth : Nat)
    (root : Bytes) :
    ((steady scan ignore).enumerate depth root).stop = none ↔
      Completes scan ignore depth root [] := by
  rw [enumerate_stop, visit_stop_eq_none_iff]

/-- The files of an enumeration that comes to its end are the paths of the branches that are
kept. -/
theorem enumerate_files (h : ((steady scan ignore).enumerate depth root).stop = none) :
    ((steady scan ignore).enumerate depth root).files =
      keptPaths ignore [] root (branches scan depth root) := by
  rw [enumerate_stop] at h
  have hnone : ∀ part ∈ ([] : List Bytes), Path.IsName part := by simp
  have hfiles := visit_files hnone h
  rw [← hfiles]
  simp [enumerate, h, Bytes.join]

end Walker
end Wordwalk
