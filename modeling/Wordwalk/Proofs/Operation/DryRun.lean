import Mathlib.Data.List.TakeWhile
import Wordwalk.Proofs.Operation.Progress

/-! A dry run beside the run that writes. As long as no two paths lead to the same file, no write is
seen by a later read, so both runs do the same but for what they leave on the disk, up to a file that
may be read and not written, which a dry run does not notice. -/
namespace Wordwalk

namespace Disk

variable {d : Disk} {f : Bytes → Bytes} {path other : Bytes} {paths : List Bytes}

/-- Whether no two of the paths lead to the same file. -/
def LeadApart (d : Disk) (paths : List Bytes) : Prop :=
  paths.Pairwise fun path other => d.Readable path → d.locate path ≠ d.locate other

theorem leadApart_cons :
    d.LeadApart (path :: paths) ↔
      (∀ other ∈ paths, d.Readable path → d.locate path ≠ d.locate other) ∧ d.LeadApart paths :=
  List.pairwise_cons

theorem LeadApart.of_locate (h : paths.Pairwise fun path other => d.locate path ≠ d.locate other) :
    d.LeadApart paths := by
  refine List.Pairwise.imp ?_ h
  intro path other hne _
  exact hne

/-- What is read at a path does not change by an edit at a path that leads elsewhere. -/
theorem read_edit_of_ne (h : d.locate path ≠ d.locate other) :
    (d.edit f path).read other = d.read other := by
  cases ho : d.locate other with
  | error refusal => simp [read, ho]
  | ok place =>
    have hne : d.locate path ≠ .ok place := ho ▸ h
    have hsame : (d.edit f path).lookup place = d.lookup place := by
      simp [lookup_edit, hne]
    simp [read, ho, hsame]

theorem LeadApart.edit (h : d.LeadApart paths) (f : Bytes → Bytes) (path : Bytes) :
    (d.edit f path).LeadApart paths := by
  simpa only [LeadApart, readable_edit, locate_edit] using h

end Disk

namespace ReplaceRun

variable {r : Replacement} {l : Listener} {n : Nat} {d now : Disk} {path : Bytes}
  {paths : List Bytes} {files : List FileOutcome} {f : Failure} {dryRun real : ReplaceRun}

theorem StopsBefore.of_read_eq (h : StopsBefore l n d path f) (hr : now.read path = d.read path) :
    StopsBefore l n now path f := by
  cases h with
  | cancelled hc => exact .cancelled hc
  | unreadable hc hd => exact .unreadable hc (hr.trans hd)

/-- Why the first of some files that are barred from writing ends the run, if there is one. -/
def firstBarred (d : Disk) (files : List FileOutcome) : Option Failure :=
  files.findSome? fun file => (d.barred? .write file.path).map (notWritten file.path)

/-- The files before the first that is barred from writing. -/
def beforeBarred (d : Disk) (files : List FileOutcome) : List FileOutcome :=
  files.takeWhile fun file => (d.barred? .write file.path).isNone

theorem firstBarred_edit (d : Disk) (f : Bytes → Bytes) (path : Bytes) (files : List FileOutcome) :
    firstBarred (d.edit f path) files = firstBarred d files := by
  simp only [firstBarred, Disk.barred?_edit]

theorem beforeBarred_edit (d : Disk) (f : Bytes → Bytes) (path : Bytes)
    (files : List FileOutcome) : beforeBarred (d.edit f path) files = beforeBarred d files := by
  simp only [beforeBarred, Disk.barred?_edit]

theorem firstBarred_eq_none_iff :
    firstBarred d files = none ↔ ∀ file ∈ files, d.barred? .write file.path = none := by
  simp [firstBarred]

theorem beforeBarred_eq_self (h : ∀ file ∈ files, d.barred? .write file.path = none) :
    beforeBarred d files = files := by
  simpa [beforeBarred, List.takeWhile_eq_self_iff] using h

/-- A run that writes does the files that a dry run does on a disk where each of the paths reads the
same, up to the first that is barred from writing, as long as the paths lead apart. -/
theorem replace_of_dry (hread : ∀ path ∈ paths, now.read path = d.read path)
    (hapart : now.LeadApart paths)
    (hdry : replace r { dryRun := true, listener := l } n d paths = dryRun) :
    (replace r { listener := l } n now paths).files = beforeBarred now dryRun.files ∧
      (replace r { listener := l } n now paths).failure =
        (firstBarred now dryRun.files).or dryRun.failure := by
  subst hdry
  induction paths generalizing n now with
  | nil => exact ⟨rfl, rfl⟩
  | cons path paths ih =>
    obtain ⟨hpath, hrest⟩ := List.forall_mem_cons.mp hread
    obtain ⟨hfirst, hothers⟩ := Disk.leadApart_cons.mp hapart
    rcases stopsBefore_or_read l n d path with ⟨f, hstop⟩ | ⟨hc, content, hr⟩
    · rw [replace_cons_of_stopsBefore hstop, replace_cons_of_stopsBefore (hstop.of_read_eq hpath)]
      exact ⟨rfl, rfl⟩
    · have hnow : now.read path = .ok content := hpath.trans hr
      have hfree : d.barred? (access true) path = none := Disk.barred?_of_read hr
      rw [replace_cons_of_read hc hr hfree, if_pos rfl]
      cases hbar : now.barred? .write path with
      | some refusal =>
        rw [replace_cons_of_barred hc hnow hbar]
        simp [after, outcomeOf, beforeBarred, firstBarred, hbar]
      | none =>
        -- What the run writes now is read again by none of the paths that follow.
        have hkept : ∀ other ∈ paths, (now.edit r.apply path).read other = d.read other := by
          intro other ho
          exact (Disk.read_edit_of_ne (hfirst other ho ⟨content, hnow⟩)).trans (hrest other ho)
        obtain ⟨hfiles, hfailure⟩ := ih (n := n + 1) hkept (hothers.edit r.apply path)
        rw [beforeBarred_edit] at hfiles
        rw [firstBarred_edit] at hfailure
        have hwrite : now.barred? (access false) path = none := hbar
        rw [replace_cons_of_read hc hnow hwrite, if_neg Bool.false_ne_true]
        simp only [after, hfiles, hfailure]
        simp [outcomeOf, beforeBarred, firstBarred, hbar]

theorem replacements_of_files_eq (h : real.files = dryRun.files) :
    dryRun.replacements = real.replacements := by
  rw [replacements, replacements, h]

theorem report_of_files_eq (h : real.files = dryRun.files) :
    dryRun.report { dryRun := true, listener := l } =
      { real.report { listener := l } with dryRun := true } := by
  simp only [report, replacements, h]

/-- Who listens is told of the same files, up to the first that is barred. -/
theorem progress_of_beforeBarred
    (hfiles : real.files = beforeBarred d dryRun.files)
    (hdry : dryRun.progress = if l.present then tallied dryRun.files else [])
    (hreal : real.progress = if l.present then tallied real.files else []) :
    real.progress = dryRun.progress.take real.files.length := by
  have hprefix : real.files = dryRun.files.take real.files.length := by
    rw [hfiles]
    exact List.prefix_iff_eq_take.mp (List.takeWhile_prefix _)
  rw [hreal, hdry]
  cases l.present with
  | false => simp
  | true => simp only [if_true, tallied, ← List.map_take, ← hprefix]

end ReplaceRun

variable {d : Disk} {r : Replacement} {l : Listener} {paths : List Bytes}

/-- Over paths that lead apart, a dry run leaves the disk as it is and tells how the run that writes
ends. That one does the same files in the same way, up to the first that is barred from writing,
at which it fails. If there is none the same is done to each file, counted and notified, and the
failure, if there is one, is the same; only their reports tell the two apart, by what they say of the
dry run. -/
theorem replaceInFiles_dry_run (hv : r.validate = .ok ()) (hapart : d.LeadApart paths) :
    ∃ dry real, replaceInFiles d r { dryRun := true, listener := l } paths = .ok dry ∧
      replaceInFiles d r { listener := l } paths = .ok real ∧
      dry.disk = d ∧
      real.files = ReplaceRun.beforeBarred d dry.files ∧
      real.progress = dry.progress.take real.files.length ∧
      real.failure = (ReplaceRun.firstBarred d dry.files).or dry.failure ∧
      ((∀ file ∈ dry.files, d.barred? .write file.path = none) →
        dry.files = real.files ∧ dry.replacements = real.replacements ∧
        dry.progress = real.progress ∧ dry.failure = real.failure ∧
        dry.report { dryRun := true, listener := l } =
          { real.report { listener := l } with dryRun := true }) := by
  obtain ⟨_, hdry⟩ := replaceInFiles_of_valid hv d { dryRun := true, listener := l } paths
  obtain ⟨_, hreal⟩ := replaceInFiles_of_valid hv d { listener := l } paths
  obtain ⟨hfiles, hfailure⟩ := ReplaceRun.replace_of_dry (fun _ _ => rfl) hapart rfl
  have hprogress := ReplaceRun.progress_of_beforeBarred hfiles
    (ReplaceRun.replace_progress r l true 0 d paths)
    (ReplaceRun.replace_progress r l false 0 d paths)
  refine ⟨_, _, hdry, hreal, ReplaceRun.replace_dry_disk, hfiles, hprogress, hfailure, ?_⟩
  intro hfree
  rw [ReplaceRun.beforeBarred_eq_self hfree] at hfiles
  rw [ReplaceRun.firstBarred_eq_none_iff.mpr hfree, Option.none_or] at hfailure
  have hall : (ReplaceRun.replace r { dryRun := true, listener := l } 0 d paths).progress =
      (ReplaceRun.replace r { listener := l } 0 d paths).progress := by
    rw [ReplaceRun.replace_progress, ReplaceRun.replace_progress, hfiles]
  exact ⟨hfiles.symm, ReplaceRun.replacements_of_files_eq hfiles, hall, hfailure.symm,
    ReplaceRun.report_of_files_eq hfiles⟩

/-- Two files, and a link to the first. -/
def paired : Disk :=
  ⟨[], [([[0x66]], .file [0x61] 0o644), ([[0x67]], .file [0x61] 0o644), ([[0x6C]], .link [0x66])]⟩

/-- The same entries, and the second file is not to be written. -/
def sealed : Disk :=
  { paired with
    bars := ⟨fun access place => if access = .write ∧ place = [[0x67]] then some .denied else none⟩ }

theorem leadApart_paired : paired.LeadApart [[0x6C], [0x67], [0x78]] := .of_locate (by decide)

theorem leadApart_sealed : sealed.LeadApart [[0x6C], [0x67], [0x78]] := .of_locate (by decide)

/-- A file by way of its link, another file, and a path that leads nowhere. Both runs end there,
unless the second file is not to be written. -/
theorem replaceInFiles_dry_run_missing :
    doubling.validate = .ok () ∧ paired.LeadApart [[0x6C], [0x67], [0x78]] ∧
    sealed.LeadApart [[0x6C], [0x67], [0x78]] ∧
    (∃ dry real,
      replaceInFiles paired doubling { dryRun := true } [[0x6C], [0x67], [0x78]] = .ok dry ∧
      replaceInFiles paired doubling {} [[0x6C], [0x67], [0x78]] = .ok real ∧
      real.failure = some (.file [0x78] "read" (.operation "open" [0x78] (.refused .noEntry))) ∧
      real.progress = [([0x6C], 1), ([0x67], 1)] ∧
      real.disk.lookup [[0x66]] = some (.file [0x61, 0x20, 0x61] 0o644) ∧
      dry.disk = paired ∧ dry.files = real.files ∧ dry.progress = real.progress ∧
      dry.failure = real.failure) ∧
    ∃ dry real,
      replaceInFiles sealed doubling { dryRun := true } [[0x6C], [0x67], [0x78]] = .ok dry ∧
      replaceInFiles sealed doubling {} [[0x6C], [0x67], [0x78]] = .ok real ∧
      dry.files.map FileOutcome.path = [[0x6C], [0x67]] ∧
      real.files.map FileOutcome.path = [[0x6C]] ∧
      real.failure = some (.file [0x67] "write" (.operation "open" [0x67] (.refused .denied))) := by
  have hv : doubling.validate = .ok () := rfl
  refine ⟨hv, leadApart_paired, leadApart_sealed, ?_, ?_⟩
  · obtain ⟨dry, real, hdry, hreal, hdisk, _, _, _, hsame⟩ :=
      replaceInFiles_dry_run (l := {}) hv leadApart_paired
    have hunbarred : paired.Unbarred := fun _ _ => rfl
    obtain ⟨hfiles, _, hprogress, hfailure, _⟩ :=
      hsame fun file _ => hunbarred.barred?_eq_none .write file.path
    obtain ⟨hdisk', hfailure'⟩ := replaceInFiles_run hreal
    refine ⟨dry, real, hdry, hreal, hfailure'.trans rfl, ?_, ?_, hdisk, hfiles, hprogress, hfailure⟩
    · obtain ⟨began, hrun⟩ := replaceInFiles_of_valid hv paired {} [[0x6C], [0x67], [0x78]]
      obtain rfl := Except.ok.inj (hrun.symm.trans hreal)
      rfl
    · exact hdisk' ▸ by decide +kernel
  · obtain ⟨dry, real, hdry, hreal, _, hfiles, _, hfailure, _⟩ :=
      replaceInFiles_dry_run (l := {}) hv leadApart_sealed
    obtain ⟨began, hrun⟩ :=
      replaceInFiles_of_valid hv sealed { dryRun := true } [[0x6C], [0x67], [0x78]]
    obtain rfl := Except.ok.inj (hrun.symm.trans hdry)
    exact ⟨_, real, hdry, hreal, rfl, hfiles ▸ rfl, hfailure.trans rfl⟩

/-- A file that can be read but not written, and a file in whose place there is a directory once it
was read: a dry run ends well, and the run that writes does not. -/
theorem dry_run_ends_well_where_write_fails :
    doubling.validate = .ok () ∧
    (sealed.LeadApart [[0x6C], [0x67]] ∧
      ∃ dry real, replaceInFiles sealed doubling { dryRun := true } [[0x6C], [0x67]] = .ok dry ∧
        replaceInFiles sealed doubling {} [[0x6C], [0x67]] = .ok real ∧
        dry.failure = none ∧ dry.files.map FileOutcome.path = [[0x6C], [0x67]] ∧
        real.failure = some (.file [0x67] "write" (.operation "open" [0x67] (.refused .denied))) ∧
        real.files.map FileOutcome.path = [[0x6C]]) ∧
    (paired.LeadApart [[0x67]] ∧
      ∃ dry real,
        replaceInFiles paired doubling
          { dryRun := true, meanwhile := fun _ d => (d.remove [0x67]).put [0x67] .dir } [[0x67]] =
            .ok dry ∧
        replaceInFiles paired doubling
          { meanwhile := fun _ d => (d.remove [0x67]).put [0x67] .dir } [[0x67]] = .ok real ∧
        dry.failure = none ∧ dry.files.map FileOutcome.path = [[0x67]] ∧
        real.failure =
          some (.file [0x67] "write" (.operation "open" [0x67] (.refused .isDirectory))) ∧
        real.files.map FileOutcome.path = []) := by
  exact ⟨rfl, ⟨.of_locate (by decide), _, _, rfl, rfl, rfl, rfl, rfl, rfl⟩,
    .of_locate (by decide), _, _, rfl, rfl, rfl, rfl, rfl, rfl⟩

end Wordwalk
