import Wordwalk.Proofs.Operation.Count
import Wordwalk.Proofs.Operation.Reach

/-! Operations on the files of a walk. What a walk takes for a file is what can be read and written,
as far as no file is barred, every link leads somewhere and no path goes beyond the limits of the
file system. -/
namespace Wordwalk

namespace Disk

variable {d : Disk} {dir root path : Bytes} {names : List Bytes} {place top : Place} {e : Entry}

/-- Whether the entry at a place leads, through as many links as it takes, to a file or a
directory. -/
def LeadsOn (d : Disk) : Place → Prop
  | [] => True
  | name :: parent => ∃ links there e, d.resolve false links parent [name] = .ok there ∧
      d.lookup there = some e ∧ ∀ target, e ≠ .link target

/-- Whether all links below the directory that a path leads to lead on. -/
def LinksLeadOn (d : Disk) (root : Bytes) : Prop :=
  ∀ top names target, d.locate root = .ok top → d.Reaches top names (.link target) →
    d.LeadsOn (names.reverse ++ top)

/-- Whether a path is neither too long nor goes through too many links. -/
def WithinLimits (d : Disk) (path : Bytes) : Prop :=
  path.length < pathLimit ∧ d.locate path ≠ .error .tooManyLinks

theorem Readable.withinLimits (h : d.Readable path) : d.WithinLimits path := by
  obtain ⟨content, hr⟩ := h
  obtain ⟨place, _, hl, _⟩ := read_eq_ok_iff.mp hr
  exact ⟨(locate_eq_ok_iff.mp hl).2.2.1, by simp [hl]⟩

theorem Reaches.lookup (h : d.Reaches place names e) :
    d.lookup (names.reverse ++ place) = some e := by
  induction h with
  | entry he => exact he
  | through _ _ ih => simpa using ih

/-- All links below a directory lead on if all links of the disk do. -/
theorem WellFormed.linksLeadOn (hd : d.WellFormed)
    (h : ∀ place target, (place, .link target) ∈ d.entries → d.LeadsOn place) (root : Bytes) :
    d.LinksLeadOn root := by
  intro top names target _ hr
  have hlookup := hr.lookup
  cases hplace : names.reverse ++ top with
  | nil => trivial
  | cons name parent =>
    rw [hplace] at hlookup
    exact h _ target (hd.mem_entries_iff.mpr hlookup)

/-- The path of an entry that leads on leads there too, if it is within the limits. -/
theorem WellFormed.exists_locate_under (hd : d.WellFormed) (hl : d.locate dir = .ok place)
    (hp : d.lookup place = some .dir) (hr : d.Reaches place names e)
    (hon : d.LeadsOn (names.reverse ++ place)) (hlimits : d.WithinLimits (Path.under dir names)) :
    ∃ there e, d.locate (Path.under dir names) = .ok there ∧ d.lookup there = some e ∧
      ∀ target, e ≠ .link target := by
  induction hr generalizing dir with
  | @entry place name e he =>
    rw [Path.under_singleton] at hlimits ⊢
    obtain ⟨links, there, e, hresolve, hthere⟩ := hon
    obtain ⟨left, hleft⟩ := exists_locate_join hl (hd.nameable he) hlimits.1
    refine ⟨there, e, ?_, hthere⟩
    have hfollow : d.resolve false left place [name] = .ok there ∨
        d.resolve false left place [name] = .error .tooManyLinks :=
      resolve_of_links hresolve
    rw [← hleft] at hfollow
    exact hfollow.resolve_right hlimits.2
  | @through place name names e he hr ih =>
    have hn := hd.nameable he
    rw [← Path.under_join hn.1 hr.ne_nil] at hlimits ⊢
    have hle := length_le_under (Path.join dir name) names
    have hshort := hlimits.1
    have hl' := locate_join hl hp hn he (by omega)
    exact ih hl' he (by simpa using hon) hlimits

/-- What a walk takes for a file can be read, if it is not barred and its path is within the
limits. -/
theorem WellFormed.readable_of_isFileBelow (hd : d.WellFormed) (hfree : d.Unbarred)
    (hlinks : d.LinksLeadOn dir)
    (hl : d.locate dir = .ok place) (hp : d.lookup place = some .dir)
    (hf : d.IsFileBelow dir place names) (hlimits : d.WithinLimits (Path.under dir names)) :
    d.Readable (Path.under dir names) := by
  obtain ⟨e, hr, hc⟩ := hf
  cases e with
  | dir => simp [countsAsFile] at hc
  | file content mode =>
    have hplace := hd.locate_under hl hp hr (by simp) hlimits.1
    exact ⟨content, read_eq_ok_iff.mpr ⟨_, mode, hplace, hr.lookup, hfree _ _⟩⟩
  | link target =>
    have hon := hlinks place names target hl hr
    obtain ⟨there, e, hthere, he, hlink⟩ := hd.exists_locate_under hl hp hr hon hlimits
    cases e with
    | dir => simp [countsAsFile, isDir, hthere, he] at hc
    | file content mode =>
      exact ⟨content, read_eq_ok_iff.mpr ⟨there, mode, hthere, he, hfree _ _⟩⟩
    | link target => exact absurd rfl (hlink target)

theorem WellFormed.readable_of_mem_files (hd : d.WellFormed) (hfree : d.Unbarred)
    (hlinks : d.LinksLeadOn root) {ignore : List Bytes} {depth : Nat}
    (h : path ∈ ((Walker.steady d.scan ignore).enumerate depth root).files)
    (hlimits : d.WithinLimits path) : d.Readable path := by
  obtain ⟨names, hn, rfl⟩ := Walker.exists_branch_of_mem_files h
  obtain ⟨l, ho⟩ := Walker.exists_listing_of_mem_branches hn
  obtain ⟨top, hl, hp⟩ := locate_of_scan ho
  exact hd.readable_of_isFileBelow hfree hlinks hl hp (hd.isFileBelow_of_mem_branches hl hp hn) hlimits

end Disk

/-- A listener without cancellation cancels nothing. -/
theorem Listener.patient_not_cancelled (l : Listener) (n : Nat) : l.patient.cancelled n = false :=
  rfl

variable {d : Disk} {r : Replacement} {l : Listener} {dry : Bool} {ignore files : List Bytes}
  {root : Bytes} {w : Walker} {run : ReplaceRun}

/-- An uncancelled count ends well if all of its paths lead to files. -/
theorem countLines_failure_eq_none_iff :
    (countLines d l.patient files).failure = none ↔ ∀ path ∈ files, d.Readable path := by
  simp [countLines, CountRun.count_failure_eq_none_iff, Listener.patient_not_cancelled]

theorem replaceInFiles_failure_eq_none_iff (hfree : d.Unbarred)
    (h : replaceInFiles d r { dryRun := dry, listener := l.patient } files = .ok run) :
    run.failure = none ↔ ∀ path ∈ files, d.Readable path := by
  rw [(replaceInFiles_run h).2]
  simp [ReplaceRun.replace_failure_eq_none_iff, Listener.patient_not_cancelled, hfree.usable_iff]

/-- Below a root whose links all lead on, with no file barred, the files of a walk can be counted and
replaced in, also in a dry run, exactly if their paths are neither too long nor go through too many
links. Each operation then reports all of them, in order. -/
theorem operations_succeed_on_found_files (hd : d.WellFormed) (hfree : d.Unbarred)
    (hlinks : d.LinksLeadOn root) (hw : d.walker ignore = .ok w) (hv : r.validate = .ok ())
    (hfiles : (w.enumerate d.depth root).files = files) :
    ∃ real dry, replaceInFiles d r { listener := l.patient } files = .ok real ∧
      replaceInFiles d r { dryRun := true, listener := l.patient } files = .ok dry ∧
      ((countLines d l.patient files).failure = none ↔ ∀ path ∈ files, d.WithinLimits path) ∧
      (real.failure = none ↔ ∀ path ∈ files, d.WithinLimits path) ∧
      (dry.failure = none ↔ ∀ path ∈ files, d.WithinLimits path) ∧
      ((countLines d l.patient files).failure = none →
        (countLines d l.patient files).files.map Prod.fst = files) ∧
      (real.failure = none → real.files.map FileOutcome.path = files) ∧
      (dry.failure = none → dry.files.map FileOutcome.path = files) := by
  have hreadable : (∀ path ∈ files, d.WithinLimits path) ↔ ∀ path ∈ files, d.Readable path := by
    refine forall₂_congr fun path hpath => ?_
    rw [← hfiles, Walker.make_eq_ok hw] at hpath
    exact ⟨hd.readable_of_mem_files hfree hlinks hpath, Disk.Readable.withinLimits⟩
  obtain ⟨_, hreal⟩ := replaceInFiles_of_valid hv d { listener := l.patient } files
  obtain ⟨_, hdry⟩ := replaceInFiles_of_valid hv d { dryRun := true, listener := l.patient } files
  rw [hreadable]
  exact ⟨_, _, hreal, hdry, countLines_failure_eq_none_iff,
    replaceInFiles_failure_eq_none_iff hfree hreal, replaceInFiles_failure_eq_none_iff hfree hdry,
    CountRun.count_files_path, ReplaceRun.replace_files_path, ReplaceRun.replace_files_path⟩

theorem linksLeadOn_escaping (root : Bytes) : escaping.LinksLeadOn root := by
  refine wellFormed_escaping.linksLeadOn (fun place target hm => ?_) root
  obtain ⟨rfl, _⟩ : place = [[0x6C], [0x72]] ∧ target = [0x2E, 0x2E, 0x2F, 0x6F] := by
    simpa [escaping] using hm
  exact ⟨1, [[0x6F]], .file [0x61] 0o644, by decide, rfl, by simp⟩

/-- A file is counted, replaced in and replaced in dry by way of a link to it. -/
theorem operations_succeed_on_found_files_link :
    escaping.WellFormed ∧ escaping.Unbarred ∧ escaping.LinksLeadOn [0x72] ∧
      escaping.walker [] = .ok (Walker.steady escaping.scan []) ∧ doubling.validate = .ok () ∧
      ((Walker.steady escaping.scan []).enumerate escaping.depth [0x72]).files =
        [[0x72, 0x2F, 0x6C]] ∧
      ∃ real dry, replaceInFiles escaping doubling {} [[0x72, 0x2F, 0x6C]] = .ok real ∧
        replaceInFiles escaping doubling { dryRun := true } [[0x72, 0x2F, 0x6C]] = .ok dry ∧
        (countLines escaping {} [[0x72, 0x2F, 0x6C]]).failure = none ∧ real.failure = none ∧
        dry.failure = none ∧ real.files.map FileOutcome.path = [[0x72, 0x2F, 0x6C]] := by
  have hw : escaping.walker [] = .ok (Walker.steady escaping.scan []) := rfl
  have hv : doubling.validate = .ok () := rfl
  have hfree : escaping.Unbarred := fun _ _ => rfl
  have hlimits : ∀ path ∈ [[0x72, 0x2F, 0x6C]], escaping.WithinLimits path := by
    simp only [Disk.WithinLimits]
    decide
  obtain ⟨real, dry, hreal, hdry, hcount, hend, hdryEnd, _, hreport, _⟩ :=
    operations_succeed_on_found_files (l := {}) wellFormed_escaping hfree
      (linksLeadOn_escaping [0x72]) hw hv files_escaping
  have hok := hend.mpr hlimits
  exact ⟨wellFormed_escaping, hfree, linksLeadOn_escaping _, hw, hv, files_escaping, real, dry, hreal,
    hdry, hcount.mpr hlimits, hok, hdryEnd.mpr hlimits, hreport hok⟩

/-- A file in the directory from which paths start. -/
def lone : Disk := ⟨[], [([[0x61, 0x62]], .file [0x78] 0o644)]⟩

theorem wellFormed_lone : lone.WellFormed :=
  ⟨by decide, by simp [lone, Disk.Nameable, Path.IsName, Disk.nameLimit]⟩

theorem reaches_lone {names : List Bytes} {e : Entry} (hr : lone.Reaches [] names e) :
    names = [[0x61, 0x62]] ∧ e = .file [0x78] 0o644 := by
  cases hr with
  | entry he => simpa [lone] using wellFormed_lone.mem_entries_iff.mpr he
  | through he _ => simpa [lone] using wellFormed_lone.mem_entries_iff.mpr he

theorem locate_lone_dots : lone.locate (Disk.dots 2047) = .ok [] :=
  Disk.locate_dots rfl (by decide) (by decide)

theorem linksLeadOn_lone (root : Bytes) : lone.LinksLeadOn root :=
  wellFormed_lone.linksLeadOn (by simp [lone]) root

theorem enumerate_lone :
    ((Walker.steady lone.scan []).enumerate lone.depth (Disk.dots 2047)).stop = none ∧
      Path.under (Disk.dots 2047) [[0x61, 0x62]] ∈
        ((Walker.steady lone.scan []).enumerate lone.depth (Disk.dots 2047)).files := by
  have hstop := (wellFormed_lone.enumerate_stop_iff locate_lone_dots rfl).mpr
    fun names hr => Entry.noConfusion (reaches_lone hr).2
  have hcompletes := (Walker.enumerate_completes _ [] lone.depth (Disk.dots 2047)).mp hstop
  refine ⟨hstop, ?_⟩
  rw [Walker.enumerate_files hstop, Walker.keptPaths]
  refine List.mem_map.mpr ⟨_, List.mem_filter.mpr ⟨?_, Walker.kept_nil [] _⟩, rfl⟩
  exact (wellFormed_lone.mem_branches_iff locate_lone_dots rfl hcompletes).mpr
    ⟨.file [0x78] 0o644, .entry rfl, rfl⟩

/-- A directory with a link to a file beside it, and a link to the directory above. -/
def circling : Disk where
  home := []
  entries :=
    [([[0x72]], .dir), ([[0x6B], [0x72]], .link [0x2E, 0x2E, 0x2F, 0x61, 0x62]),
      ([[0x61, 0x62]], .file [0x78] 0o644), ([[0x6C]], .link [0x2E])]

theorem wellFormed_circling : circling.WellFormed :=
  ⟨by decide, by simp [circling, Disk.Nameable, Path.IsName, Disk.nameLimit]⟩

/-- The path to the directory `r` that goes through the link `l` first, `n` times. -/
def turns (n : Nat) : Bytes := (List.replicate n [0x6C, 0x2F]).flatten ++ [0x72]

theorem linksLeadOn_circling (root : Bytes) : circling.LinksLeadOn root := by
  refine wellFormed_circling.linksLeadOn (fun place target hm => ?_) root
  have hlinks : place = [[0x6B], [0x72]] ∧ target = [0x2E, 0x2E, 0x2F, 0x61, 0x62] ∨
      place = [[0x6C]] ∧ target = [0x2E] := by
    simpa [circling] using hm
  rcases hlinks with ⟨rfl, _⟩ | ⟨rfl, _⟩
  · exact ⟨1, [[0x61, 0x62]], .file [0x78] 0o644, by decide, rfl, by simp⟩
  · exact ⟨1, [], .dir, by decide, rfl, by simp⟩

theorem enumerate_circling :
    ((Walker.steady circling.scan []).enumerate circling.depth (turns 40)).stop = none ∧
      ((Walker.steady circling.scan []).enumerate circling.depth (turns 40)).files =
        [turns 40 ++ [0x2F, 0x6B]] := by
  decide +kernel

/-- A walk from a path that is as long as it can be finds a file whose path is too long, and a walk
from a path through as many links as it may hold finds a link to a file that cannot be followed any
more. -/
theorem found_files_beyond_limits :
    (lone.WellFormed ∧ lone.Unbarred ∧ lone.LinksLeadOn (Disk.dots 2047) ∧
      lone.walker [] = .ok (Walker.steady lone.scan []) ∧
      ((Walker.steady lone.scan []).enumerate lone.depth (Disk.dots 2047)).stop = none ∧
      (countLines lone {}
        ((Walker.steady lone.scan []).enumerate lone.depth (Disk.dots 2047)).files).failure ≠ none) ∧
    circling.WellFormed ∧ circling.Unbarred ∧ circling.LinksLeadOn (turns 40) ∧
      circling.walker [] = .ok (Walker.steady circling.scan []) ∧
      ((Walker.steady circling.scan []).enumerate circling.depth (turns 40)).stop = none ∧
      (countLines circling {}
        ((Walker.steady circling.scan []).enumerate circling.depth (turns 40)).files).failure ≠
          none := by
  refine ⟨⟨wellFormed_lone, fun _ _ => rfl, linksLeadOn_lone _, rfl, enumerate_lone.1, fun h => ?_⟩,
    wellFormed_circling, fun _ _ => rfl, linksLeadOn_circling _, rfl, enumerate_circling.1,
    fun h => ?_⟩
  · have hr := (countLines_failure_eq_none_iff (l := {})).mp h _ enumerate_lone.2
    have hlong := Disk.length_le_under (Disk.dots 2047) [[0x61, 0x62]]
    rw [Disk.length_dots] at hlong
    exact absurd (Nat.lt_of_le_of_lt hlong hr.withinLimits.1) (by decide)
  · have hr := (countLines_failure_eq_none_iff (l := {})).mp h (turns 40 ++ [0x2F, 0x6B])
      (by simp [enumerate_circling.2])
    exact hr.withinLimits.2 (by decide +kernel)

end Wordwalk
