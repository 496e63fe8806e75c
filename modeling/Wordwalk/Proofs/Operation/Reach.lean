import Wordwalk.Proofs.Disk.Enumerate
import Wordwalk.Proofs.Operation.Frame

/-! What a run over the files of a walk can change: the files below the root, and those to which
the links below the root lead. A walk goes through no link, but a link to a file is one of its
files, and reading and writing follow it. -/
namespace Wordwalk

namespace Walker

variable {scan : Bytes → Scan} {ignore : List Bytes} {depth : Nat} {root path : Bytes}

theorem exists_branch_of_mem_files
    (h : path ∈ ((steady scan ignore).enumerate depth root).files) :
    ∃ names ∈ branches scan depth root, path = Path.under root names := by
  cases hs : ((steady scan ignore).enumerate depth root).stop with
  | none =>
    rw [enumerate_files hs, keptPaths] at h
    obtain ⟨names, hn, rfl⟩ := List.mem_map.mp h
    exact ⟨names, (List.mem_filter.mp hn).1, rfl⟩
  | some stop =>
    rw [enumerate_stop] at hs
    simp [enumerate, hs] at h

end Walker

namespace Disk

variable {d : Disk} {dir : Bytes} {names : List Bytes} {place target : Place} {e : Entry}

/-- The path of an entry that is reached through directories leads to it, unless that is a link. -/
theorem WellFormed.locate_under (hd : d.WellFormed) (hl : d.locate dir = .ok place)
    (hp : d.lookup place = some .dir) (hr : d.Reaches place names e)
    (hlink : ∀ link, e ≠ .link link) (hshort : (Path.under dir names).length < pathLimit) :
    d.locate (Path.under dir names) = .ok (names.reverse ++ place) := by
  induction hr generalizing dir with
  | @entry place name e he =>
    rw [Path.under_singleton] at hshort ⊢
    exact locate_entry hl hp (hd.nameable he) he hlink hshort
  | @through place name names e he hr ih =>
    have hn := hd.nameable he
    rw [← Path.under_join hn.1 hr.ne_nil] at hshort ⊢
    have hle := length_le_under (Path.join dir name) names
    have hl' := locate_join hl hp hn he (by omega)
    rw [ih hl' he hlink hshort, List.reverse_cons, List.append_assoc, List.singleton_append]

/-- The path of a file that a walk finds leads below its directory, if not through a link. -/
theorem WellFormed.within_or_link (hd : d.WellFormed) (hl : d.locate dir = .ok place)
    (hp : d.lookup place = some .dir) (hf : d.IsFileBelow dir place names)
    (ht : d.locate (Path.under dir names) = .ok target) :
    within place target = true ∨ ∃ link, d.Reaches place names (.link link) := by
  obtain ⟨e, hr, _⟩ := hf
  by_cases hlink : ∃ link, e = .link link
  · obtain ⟨link, rfl⟩ := hlink
    exact Or.inr ⟨link, hr⟩
  · left
    have hshort := (locate_eq_ok_iff.mp ht).2.2.1
    have hplace := hd.locate_under hl hp hr (not_exists.mp hlink) hshort
    rw [ht, Except.ok.injEq] at hplace
    rw [within, List.isSuffixOf_iff_suffix, hplace]
    exact List.suffix_append _ _

end Disk

variable {d : Disk} {r : Replacement} {l : Listener} {dry : Bool} {ignore : List Bytes} {root : Bytes}
  {top place : Place} {w : Walker} {run : ReplaceRun}

/-- A run over the files of a walk changes nothing but what lies below the directory that was
walked and what the links below that directory lead to. -/
theorem replaceInFiles_changes_below_or_through_link (hd : d.WellFormed)
    (hl : d.locate root = .ok top) (hp : d.lookup top = some .dir) (hw : d.walker ignore = .ok w)
    (h : replaceInFiles d r { dryRun := dry, listener := l } (w.enumerate d.depth root).files =
      .ok run)
    (hchanged : run.disk.lookup place ≠ d.lookup place) :
    Disk.within top place = true ∨
      ∃ names link, d.Reaches top names (.link link) ∧
        d.locate (Path.under root names) = .ok place := by
  rw [Walker.make_eq_ok hw] at h
  by_contra hnone
  obtain ⟨hout, hlinks⟩ := not_or.mp hnone
  rw [(replaceInFiles_run h).1] at hchanged
  refine hchanged (ReplaceRun.lookup_replace fun path hpath hlocate => ?_)
  obtain ⟨names, hn, rfl⟩ := Walker.exists_branch_of_mem_files hpath
  have hfile := hd.isFileBelow_of_mem_branches hl hp hn
  rcases hd.within_or_link hl hp hfile hlocate with hin | ⟨link, hr⟩
  · exact hout hin
  · exact hlinks ⟨names, link, hr, hlocate⟩

/-- A directory with a link to a file beside it. -/
def escaping : Disk where
  home := []
  entries :=
    [([[0x72]], .dir), ([[0x6C], [0x72]], .link [0x2E, 0x2E, 0x2F, 0x6F]),
      ([[0x6F]], .file [0x61] 0o644)]

theorem wellFormed_escaping : escaping.WellFormed :=
  ⟨by decide, by simp [escaping, Disk.Nameable, Path.IsName, Disk.nameLimit]⟩

theorem files_escaping :
    ((Walker.steady escaping.scan []).enumerate escaping.depth [0x72]).files =
      [[0x72, 0x2F, 0x6C]] := by
  decide +kernel

theorem run_escaping :
    ∃ run, replaceInFiles escaping doubling {}
        ((Walker.steady escaping.scan []).enumerate escaping.depth [0x72]).files = .ok run ∧
      run.failure = none ∧
      run.disk.lookup [[0x6F]] = some (.file [0x61, 0x20, 0x61] 0o644) := by
  rw [files_escaping]
  obtain ⟨run, h⟩ : ∃ run, replaceInFiles escaping doubling {} [[0x72, 0x2F, 0x6C]] = .ok run :=
    replaceInFiles_eq_ok_iff.mpr rfl
  obtain ⟨hdisk, hfailure⟩ := replaceInFiles_run h
  exact ⟨run, h, hfailure.trans (by decide +kernel), hdisk ▸ by decide +kernel⟩

/-- The file outside is one of those that change. -/
theorem replaceInFiles_changes_below_or_through_link_escaping :
    escaping.WellFormed ∧ escaping.locate [0x72] = .ok [[0x72]] ∧
      escaping.lookup [[0x72]] = some .dir ∧
      escaping.walker [] = .ok (Walker.steady escaping.scan []) ∧
      ∃ run, replaceInFiles escaping doubling {}
          ((Walker.steady escaping.scan []).enumerate escaping.depth [0x72]).files = .ok run ∧
        run.disk.lookup [[0x6F]] ≠ escaping.lookup [[0x6F]] ∧
        (Disk.within [[0x72]] [[0x6F]] = true ∨
          ∃ names link, escaping.Reaches [[0x72]] names (.link link) ∧
            escaping.locate (Path.under [0x72] names) = .ok [[0x6F]]) := by
  have hl : escaping.locate [0x72] = .ok [[0x72]] := by decide
  have hw : escaping.walker [] = .ok (Walker.steady escaping.scan []) := rfl
  obtain ⟨run, h, _, houtside⟩ := run_escaping
  have hchanged : run.disk.lookup [[0x6F]] ≠ escaping.lookup [[0x6F]] := by
    rw [houtside]
    decide
  exact ⟨wellFormed_escaping, hl, rfl, hw, run, h, hchanged,
    replaceInFiles_changes_below_or_through_link wellFormed_escaping hl rfl hw h hchanged⟩

/-- No link is on the way to the root, the walk and the run end well, and a file outside the root
has another content. -/
theorem replaceInFiles_changes_outside :
    escaping.WellFormed ∧
      escaping.resolve false 0 (Disk.start escaping.home [0x72]) (Path.names [0x72]) =
        .ok [[0x72]] ∧
      escaping.lookup [[0x72]] = some .dir ∧ Disk.within [[0x72]] [[0x6F]] = false ∧
      escaping.walker [] = .ok (Walker.steady escaping.scan []) ∧
      ((Walker.steady escaping.scan []).enumerate escaping.depth [0x72]).stop = none ∧
      ∃ run, replaceInFiles escaping doubling {}
          ((Walker.steady escaping.scan []).enumerate escaping.depth [0x72]).files = .ok run ∧
        run.failure = none ∧ escaping.lookup [[0x6F]] = some (.file [0x61] 0o644) ∧
        run.disk.lookup [[0x6F]] = some (.file [0x61, 0x20, 0x61] 0o644) := by
  obtain ⟨run, h, hfailure, houtside⟩ := run_escaping
  exact ⟨wellFormed_escaping, by decide, rfl, by decide, rfl, by decide +kernel, run, h, hfailure,
    rfl, houtside⟩

end Wordwalk
