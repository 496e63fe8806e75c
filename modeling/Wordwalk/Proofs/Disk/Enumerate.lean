import Mathlib.Data.List.Nodup
import Wordwalk.Proofs.Disk.Tree
import Wordwalk.Proofs.Walk.Branches

/-! A walk of a disk from a directory on. It comes to its end unless a path gets too long for the
file system, and then it has found everything below the directory that is neither a directory nor a
link to one, each once and in a fixed order. -/
namespace Wordwalk.Disk

open Walker

variable {d : Disk} {dir rel root name : Bytes} {place top : Place} {names : List Bytes}
  {depth : Nat}

/-- The listing of a directory is as it should be, so only its sub-directories count. -/
theorem WellFormed.level_iff {good : Bytes → Bytes → Prop} (hd : d.WellFormed)
    (hl : d.locate dir = .ok place) (hp : d.lookup place = some .dir) :
    Level d.scan [] good dir rel ↔
      ∀ name, d.lookup (name :: place) = some .dir →
        good (Path.join dir name) (Path.join rel name) := by
  constructor
  · rintro ⟨l, ho, _, hsub⟩ name he
    rw [scan_of_locate hl hp, Except.ok.injEq] at ho
    subst ho
    exact hsub name (hd.mem_subDirs_iff.mpr he) rfl
  · intro h
    refine ⟨d.listing dir place, scan_of_locate hl hp, hd.fault?_listing dir place, ?_⟩
    intro name hn _
    exact h name (hd.mem_subDirs_iff.mp hn)

theorem locate_of_completes (h : Completes d.scan [] depth dir rel) :
    ∃ place, d.locate dir = .ok place := by
  have hscan : ∃ l, (d.scan dir).outcome = .ok l := by
    cases depth with
    | zero => exact h.imp fun _ hl => hl.1
    | succ depth => exact h.imp fun _ hl => hl.1
  obtain ⟨l, ho⟩ := hscan
  exact (locate_of_scan ho).imp fun _ hl => hl.1

/-- The path of a sub-directory that was walked leads to it. -/
theorem WellFormed.locate_below (hd : d.WellFormed) (hl : d.locate dir = .ok place)
    (hp : d.lookup place = some .dir) (he : d.lookup (name :: place) = some .dir)
    (h : Completes d.scan [] depth (Path.join dir name) rel) :
    d.locate (Path.join dir name) = .ok (name :: place) := by
  obtain ⟨_, hl'⟩ := locate_of_completes h
  exact locate_join hl hp (hd.nameable he) he (locate_eq_ok_iff.mp hl').2.2.1

/-- A walk of the disk ends early only where the path of a directory is too long. -/
theorem WellFormed.completes_iff (hd : d.WellFormed) (hl : d.locate dir = .ok place)
    (hp : d.lookup place = some .dir)
    (hdepth : ∀ names, d.Reaches place names .dir → names.length ≤ depth) :
    Completes d.scan [] depth dir rel ↔
      ∀ names, d.Reaches place names .dir → (Path.under dir names).length < pathLimit := by
  induction depth generalizing dir rel place with
  | zero =>
    rw [Completes, hd.level_iff hl hp]
    constructor
    · intro _ names hr
      exact absurd (List.length_eq_zero_iff.mp (Nat.le_zero.mp (hdepth names hr))) hr.ne_nil
    · intro _ name he
      exact absurd (hdepth [name] (.entry he)) (by simp)
  | succ depth ih =>
    have hbelow : ∀ {name}, d.lookup (name :: place) = some .dir →
        ∀ names, d.Reaches (name :: place) names .dir → names.length ≤ depth := by
      intro name he names hr
      exact Nat.le_of_succ_le_succ (hdepth (name :: names) (.through he hr))
    rw [Completes, hd.level_iff hl hp]
    constructor
    · intro h names hr
      cases hr with
      | @entry _ name _ he =>
        rw [Path.under_singleton]
        exact (locate_eq_ok_iff.mp (hd.locate_below hl hp he (h name he))).2.2.1
      | @through _ name names _ he hr =>
        have hl' := hd.locate_below hl hp he (h name he)
        rw [← Path.under_join (hd.nameable he).1 hr.ne_nil]
        exact (ih hl' he (hbelow he)).mp (h name he) names hr
    · intro h name he
      have hn := hd.nameable he
      have hshort : (Path.join dir name).length < pathLimit := by
        simpa only [Path.under_singleton] using h [name] (.entry he)
      have hl' := locate_join hl hp hn he hshort
      refine (ih hl' he (hbelow he)).mpr ?_
      intro names hr
      rw [Path.under_join hn.1 hr.ne_nil]
      exact h (name :: names) (.through he hr)

/-- Whether `names` lead from a place to an entry that is listed as a file below `dir`. -/
def IsFileBelow (d : Disk) (dir : Bytes) (place : Place) (names : List Bytes) : Prop :=
  ∃ e, d.Reaches place names e ∧ d.countsAsFile (Path.under dir names) e = true

theorem IsFileBelow.ne_nil (h : d.IsFileBelow dir place names) : names ≠ [] := by
  obtain ⟨_, hr, _⟩ := h
  exact hr.ne_nil

theorem isFileBelow_singleton :
    d.IsFileBelow dir place [name] ↔
      ∃ e, d.lookup (name :: place) = some e ∧ d.countsAsFile (Path.join dir name) e = true := by
  unfold IsFileBelow
  rw [Path.under_singleton]
  constructor
  · rintro ⟨e, hr, hc⟩
    cases hr with
    | entry he => exact ⟨e, he, hc⟩
    | through _ hr => exact absurd rfl hr.ne_nil
  · rintro ⟨e, he, hc⟩
    exact ⟨e, .entry he, hc⟩

theorem WellFormed.isFileBelow_cons (hd : d.WellFormed) (hne : names ≠ []) :
    d.IsFileBelow dir place (name :: names) ↔
      d.lookup (name :: place) = some .dir ∧
        d.IsFileBelow (Path.join dir name) (name :: place) names := by
  unfold IsFileBelow
  constructor
  · rintro ⟨e, hr, hc⟩
    cases hr with
    | entry he => exact absurd rfl hne
    | through he hr =>
      rw [← Path.under_join (hd.nameable he).1 hne] at hc
      exact ⟨he, e, hr, hc⟩
  · rintro ⟨he, e, hr, hc⟩
    rw [Path.under_join (hd.nameable he).1 hne] at hc
    exact ⟨e, .through he hr, hc⟩

/-- A branch leads to a file if those found in the sub-directories do. -/
theorem WellFormed.isFileBelow_of_mem_branchesVia {more : Bytes → List (List Bytes)}
    (hd : d.WellFormed) (hl : d.locate dir = .ok place) (hp : d.lookup place = some .dir)
    (hmore : ∀ name, d.lookup (name :: place) = some .dir → ∀ names ∈ more (Path.join dir name),
      d.IsFileBelow (Path.join dir name) (name :: place) names)
    (h : names ∈ branchesVia d.scan more dir) : d.IsFileBelow dir place names := by
  rw [branchesVia_of_listing (scan_of_locate hl hp), List.mem_append] at h
  rcases h with h | h
  · obtain ⟨name, hm, rfl⟩ := List.mem_map.mp h
    exact isFileBelow_singleton.mpr (hd.mem_files_iff.mp hm)
  · obtain ⟨name, hm, h⟩ := List.mem_flatMap.mp h
    obtain ⟨rest, hr, rfl⟩ := List.mem_map.mp h
    have he := hd.mem_subDirs_iff.mp hm
    have hbelow := hmore name he rest hr
    exact (hd.isFileBelow_cons hbelow.ne_nil).mpr ⟨he, hbelow⟩

theorem WellFormed.mem_branchesVia_iff {more : Bytes → List (List Bytes)} (hd : d.WellFormed)
    (hl : d.locate dir = .ok place) (hp : d.lookup place = some .dir)
    (hmore : ∀ name, d.lookup (name :: place) = some .dir → ∀ names,
      names ∈ more (Path.join dir name) ↔
        d.IsFileBelow (Path.join dir name) (name :: place) names) :
    names ∈ branchesVia d.scan more dir ↔ d.IsFileBelow dir place names := by
  constructor
  · exact hd.isFileBelow_of_mem_branchesVia hl hp fun name he names => (hmore name he names).mp
  · intro h
    rw [branchesVia_of_listing (scan_of_locate hl hp), List.mem_append]
    cases names with
    | nil => exact absurd rfl h.ne_nil
    | cons name rest =>
      by_cases hne : rest = []
      · subst hne
        left
        exact List.mem_map.mpr ⟨name, hd.mem_files_iff.mpr (isFileBelow_singleton.mp h), rfl⟩
      · right
        obtain ⟨he, hbelow⟩ := (hd.isFileBelow_cons hne).mp h
        refine List.mem_flatMap.mpr ⟨name, hd.mem_subDirs_iff.mpr he, ?_⟩
        exact List.mem_map.mpr ⟨rest, (hmore name he rest).mpr hbelow, rfl⟩

/-- The branches of every walk lead to files below its directory, also if it ends early. -/
theorem WellFormed.isFileBelow_of_mem_branches (hd : d.WellFormed) (hl : d.locate dir = .ok place)
    (hp : d.lookup place = some .dir) (h : names ∈ branches d.scan depth dir) :
    d.IsFileBelow dir place names := by
  induction depth generalizing dir place names with
  | zero => exact hd.isFileBelow_of_mem_branchesVia hl hp (by simp) h
  | succ depth ih =>
    refine hd.isFileBelow_of_mem_branchesVia hl hp (fun name he names hn => ?_) h
    obtain ⟨l, ho⟩ := exists_listing_of_mem_branches hn
    obtain ⟨_, hl', _⟩ := locate_of_scan ho
    have hshort := (locate_eq_ok_iff.mp hl').2.2.1
    exact ih (locate_join hl hp (hd.nameable he) he hshort) he hn

/-- The branches of a walk that comes to its end are the files below its directory. -/
theorem WellFormed.mem_branches_iff (hd : d.WellFormed) (hl : d.locate dir = .ok place)
    (hp : d.lookup place = some .dir) (h : Completes d.scan [] depth dir rel) :
    names ∈ branches d.scan depth dir ↔ d.IsFileBelow dir place names := by
  induction depth generalizing dir rel place names with
  | zero =>
    have hnone := (hd.level_iff hl hp).mp h
    exact hd.mem_branchesVia_iff hl hp fun name he => (hnone name he).elim
  | succ depth ih =>
    have hsub := (hd.level_iff hl hp).mp h
    refine hd.mem_branchesVia_iff hl hp fun name he names => ?_
    exact ih (hd.locate_below hl hp he (hsub name he)) he (hsub name he)

/-- The order of a walk: in each directory first its files and then what its sub-directories hold,
both by name. -/
def Before : List Bytes → List Bytes → Prop
  | [a], [b] => Bytes.Precedes a b
  | [_], _ :: _ :: _ => True
  | a :: x :: xs, b :: y :: ys => Bytes.Precedes a b ∨ a = b ∧ Before (x :: xs) (y :: ys)
  | _, _ => False

theorem before_singleton {names : List Bytes} (hne : names ≠ []) (a b : Bytes) :
    Before [a] (b :: names) := by
  cases names with
  | nil => exact absurd rfl hne
  | cons _ _ => trivial

theorem before_cons {a b : Bytes} {xs ys : List Bytes} (hx : xs ≠ []) (hy : ys ≠ []) :
    Before (a :: xs) (b :: ys) ↔ Bytes.Precedes a b ∨ a = b ∧ Before xs ys := by
  cases xs with
  | nil => exact absurd rfl hx
  | cons x xs =>
    cases ys with
    | nil => exact absurd rfl hy
    | cons y ys => rw [Before]

theorem not_before_self (names : List Bytes) : ¬ Before names names := by
  induction names with
  | nil => simp [Before]
  | cons name names ih =>
    cases names with
    | nil => simp [Before, Bytes.Precedes]
    | cons next names =>
      rw [before_cons (by simp) (by simp)]
      rintro (h | ⟨_, h⟩)
      · exact h.1 rfl
      · exact ih h

theorem WellFormed.branchesVia_pairwise {more : Bytes → List (List Bytes)} (hd : d.WellFormed)
    (hl : d.locate dir = .ok place) (hp : d.lookup place = some .dir)
    (hne : ∀ dir, ∀ names ∈ more dir, names ≠ [])
    (hmore : ∀ name, d.lookup (name :: place) = some .dir →
      (more (Path.join dir name)).Pairwise Before) :
    (branchesVia d.scan more dir).Pairwise Before := by
  rw [branchesVia_of_listing (scan_of_locate hl hp)]
  refine List.pairwise_append.mpr ⟨?_, List.pairwise_flatMap.mpr ⟨?_, ?_⟩, ?_⟩
  · exact List.pairwise_map.mpr (hd.pairwise_names place _)
  · intro name hn
    refine List.pairwise_map.mpr ?_
    refine (hmore name (hd.mem_subDirs_iff.mp hn)).imp_of_mem ?_
    intro xs ys hxs hys hb
    exact (before_cons (hne _ xs hxs) (hne _ ys hys)).mpr (Or.inr ⟨rfl, hb⟩)
  · refine (hd.pairwise_names place _).imp ?_
    intro a b hab x hx y hy
    obtain ⟨xs, hxs, rfl⟩ := List.mem_map.mp hx
    obtain ⟨ys, hys, rfl⟩ := List.mem_map.mp hy
    exact (before_cons (hne _ xs hxs) (hne _ ys hys)).mpr (Or.inl hab)
  · intro x hx y hy
    obtain ⟨a, _, rfl⟩ := List.mem_map.mp hx
    obtain ⟨b, _, hy⟩ := List.mem_flatMap.mp hy
    obtain ⟨ys, hys, rfl⟩ := List.mem_map.mp hy
    exact before_singleton (hne _ ys hys) a b

theorem WellFormed.branches_pairwise (hd : d.WellFormed) (hl : d.locate dir = .ok place)
    (hp : d.lookup place = some .dir) (h : Completes d.scan [] depth dir rel) :
    (branches d.scan depth dir).Pairwise Before := by
  induction depth generalizing dir rel place with
  | zero => exact hd.branchesVia_pairwise hl hp (by simp) (by simp)
  | succ depth ih =>
    have hsub := (hd.level_iff hl hp).mp h
    refine hd.branchesVia_pairwise hl hp (fun _ _ => branch_ne_nil) fun name he => ?_
    exact ih (hd.locate_below hl hp he (hsub name he)) he (hsub name he)

/-- The walk of a disk from a directory on comes to its end exactly if the paths of all
directories below are short enough. -/
theorem WellFormed.enumerate_stop_iff (hd : d.WellFormed) (hl : d.locate root = .ok top)
    (hp : d.lookup top = some .dir) :
    ((steady d.scan []).enumerate d.depth root).stop = none ↔
      ∀ names, d.Reaches top names .dir → (Path.under root names).length < pathLimit := by
  rw [enumerate_completes]
  exact hd.completes_iff hl hp fun names hr => hr.length_le

/-- A walk of a disk from a directory on comes to its end exactly if the paths of all directories
below it are short enough. Its files are then the paths of everything that can be reached through
directories and is neither a directory nor a link that leads to one, each once and in order. -/
theorem enumerate_finds_files_below {w : Walker} (hd : d.WellFormed)
    (hl : d.locate root = .ok top) (hp : d.lookup top = some .dir) (hw : d.walker [] = .ok w) :
    ((w.enumerate d.depth root).stop = none ↔
      ∀ names, d.Reaches top names .dir → (Path.under root names).length < pathLimit) ∧
    ((w.enumerate d.depth root).stop = none →
      (w.enumerate d.depth root).files.Nodup ∧
      ∃ found : List (List Bytes), (w.enumerate d.depth root).files = found.map (Path.under root) ∧
        (∀ names, names ∈ found ↔ d.IsFileBelow root top names) ∧ found.Pairwise Before) := by
  rw [make_eq_ok hw]
  refine ⟨hd.enumerate_stop_iff hl hp, fun h => ?_⟩
  have hc := (enumerate_completes d.scan [] d.depth root).mp h
  have hfiles : ((steady d.scan []).enumerate d.depth root).files =
      (branches d.scan d.depth root).map (Path.under root) := by
    rw [enumerate_files h, keptPaths, List.filter_eq_self.mpr fun names _ => kept_nil [] names]
  have horder := hd.branches_pairwise hl hp hc
  have hnodup : (branches d.scan d.depth root).Nodup := by
    refine horder.imp ?_
    rintro names _ hb rfl
    exact not_before_self names hb
  constructor
  · rw [hfiles]
    refine hnodup.map_on ?_
    intro names hn others ho
    exact Path.under_injective (branch_ne_nil hn) (branch_ne_nil ho) (isName_of_mem_branches hc hn)
      (isName_of_mem_branches hc ho)
  · refine ⟨branches d.scan d.depth root, hfiles, ?_, horder⟩
    intro names
    exact hd.mem_branches_iff hl hp hc

/-- A directory with a file and a link to the directory above, beside a link to itself and one that
leads nowhere. -/
def linked : Disk where
  home := []
  entries :=
    [([[0x64]], .dir), ([[0x66], [0x64]], .file [0x78] 0o644),
      ([[0x75], [0x64]], .link [0x2E, 0x2E]), ([[0x6C]], .link [0x6C]), ([[0x78]], .link [0x79])]

theorem enumerate_finds_files_below_links :
    linked.WellFormed ∧ linked.locate [0x2E] = .ok [] ∧
      ((steady linked.scan []).enumerate linked.depth [0x2E]).stop = none ∧
      ((steady linked.scan []).enumerate linked.depth [0x2E]).files.Nodup ∧
      ∃ found : List (List Bytes),
        ((steady linked.scan []).enumerate linked.depth [0x2E]).files =
          found.map (Path.under [0x2E]) ∧
        (∀ names, names ∈ found ↔ linked.IsFileBelow [0x2E] [] names) ∧ found.Pairwise Before := by
  have hd : linked.WellFormed := ⟨by decide, by simp [linked, Nameable, Path.IsName, nameLimit]⟩
  have hl : linked.locate [0x2E] = .ok [] := by decide
  have hw : linked.walker [] = .ok (steady linked.scan []) := rfl
  have hdir : ∀ {name place}, linked.lookup (name :: place) = some .dir →
      name = [0x64] ∧ place = [] := by
    intro name place he
    simpa [linked] using hd.mem_entries_iff.mpr he
  obtain ⟨hstop, hfound⟩ := enumerate_finds_files_below hd hl rfl hw
  have hend : ((steady linked.scan []).enumerate linked.depth [0x2E]).stop = none := by
    refine hstop.mpr fun names hr => ?_
    cases hr with
    | entry he =>
      obtain ⟨rfl, _⟩ := hdir he
      decide
    | through he hr =>
      obtain ⟨rfl, _⟩ := hdir he
      cases hr with
      | entry he => exact absurd (hdir he).2 (by simp)
      | through he _ => exact absurd (hdir he).2 (by simp)
  exact ⟨hd, hl, hend, hfound hend⟩

/-- A path of `n` dots, each with a slash after it. -/
def dots (n : Nat) : Bytes := (List.replicate n [0x2E, 0x2F]).flatten

theorem dots_succ (n : Nat) : dots (n + 1) = 0x2E :: 0x2F :: dots n := rfl

theorem length_dots (n : Nat) : (dots n).length = 2 * n := by
  induction n with
  | zero => rfl
  | succ n ih =>
    rw [dots_succ, List.length_cons, List.length_cons, ih]
    omega

theorem names_dots (n : Nat) : ∀ name ∈ Path.names (dots n), name = [0x2E] := by
  have hparts : ∀ name ∈ Path.parts (dots n), name = [0x2E] := by
    induction n with
    | zero => decide
    | succ n ih =>
      have hsplit : Path.parts (dots (n + 1)) = [[0x2E]] ++ Path.parts (dots n) :=
        Path.parts_append [0x2E] (dots n)
      rw [hsplit]
      simpa using ih
  intro name hn
  rw [Path.names_eq] at hn
  rcases List.mem_append.mp hn with hn | hn
  · exact hparts name hn
  · split at hn
    · exact List.mem_singleton.mp hn
    · simp at hn

theorem resolve_dots {links : Nat} {here : Place} (hh : d.lookup here = some .dir)
    (hn : ∀ name ∈ names, name = [0x2E]) : d.resolve false links here names = .ok here := by
  induction names with
  | nil => exact resolve_nil d false links here
  | cons name names ih =>
    have hturn : d.turn here name = .arrive here := by
      simp [turn, hh, hn name (by simp)]
    rw [resolve_cons, hturn]
    exact ih fun other ho => hn other (List.mem_cons_of_mem name ho)

theorem locate_dots {n : Nat} (hh : d.lookup d.home = some .dir) (hn : 0 < n)
    (hl : 2 * n < pathLimit) : d.locate (dots n) = .ok d.home := by
  obtain ⟨n, rfl⟩ := Nat.exists_eq_succ_of_ne_zero (Nat.pos_iff_ne_zero.mp hn)
  refine locate_eq_ok_iff.mpr ⟨?_, by simp [dots_succ], by rwa [length_dots], ?_⟩
  · simp [dots]
  · exact resolve_dots hh (names_dots _)

theorem length_le_under (root : Bytes) (names : List Bytes) :
    root.length + (Bytes.join [0x2F] names).length ≤ (Path.under root names).length := by
  rw [Path.under, List.length_append]
  exact Nat.add_le_add_right (Path.length_le_stem root) _

/-- A directory that holds a directory with a file in it. -/
def nested : Disk where
  home := []
  entries := [([[0x61, 0x62]], .dir), ([[0x66], [0x61, 0x62]], .file [0x78] 0o644)]

/-- A directory can be walked from a path so long that the path of a directory in it is refused. -/
theorem enumerate_long_root :
    nested.WellFormed ∧ nested.locate (dots 2047) = .ok [] ∧ nested.lookup [] = some .dir ∧
      nested.IsFileBelow (dots 2047) [] [[0x61, 0x62], [0x66]] ∧
      nested.walker [] = .ok (steady nested.scan []) ∧
      ((steady nested.scan []).enumerate nested.depth (dots 2047)).stop ≠ none := by
  have hd : nested.WellFormed := ⟨by decide, by simp [nested, Nameable, Path.IsName, nameLimit]⟩
  have hl : nested.locate (dots 2047) = .ok [] := locate_dots rfl (by decide) (by decide)
  refine ⟨hd, hl, rfl, ⟨_, .through rfl (.entry rfl), rfl⟩, rfl, fun h => ?_⟩
  have hshort := (hd.enumerate_stop_iff hl rfl).mp h [[0x61, 0x62]] (.entry rfl)
  have hlong := length_le_under (dots 2047) [[0x61, 0x62]]
  rw [length_dots] at hlong
  exact absurd (Nat.lt_of_le_of_lt hlong hshort) (by decide)

end Wordwalk.Disk
