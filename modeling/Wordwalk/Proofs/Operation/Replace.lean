import Wordwalk.Operation.Replace
import Wordwalk.Proofs.Disk.Contents

/-! A run of replacements file by file. One file that can be read and written is edited in place and
nothing else on the disk changes; so a run that ends well has edited each file once for every path
that leads to it, whatever the order of the paths. -/
namespace Wordwalk

/-- A run is not cancelled before any of its files if it is not before the first nor before any of
the others. -/
theorem Listener.not_cancelled_succ_iff {l : Listener} {n k : Nat} :
    (∀ i < k + 1, l.cancelled (n + i) = false) ↔
      l.cancelled n = false ∧ ∀ i < k, l.cancelled (n + 1 + i) = false := by
  simp only [Nat.forall_lt_succ_left, Nat.add_zero, Nat.add_assoc, Nat.add_comm 1]

namespace ReplaceRun

variable {r : Replacement} {l : Listener} {dry : Bool} {n : Nat} {d : Disk}
  {path content : Bytes} {paths : List Bytes}

/-- What is reported of a file that held `content`. -/
def outcomeOf (r : Replacement) (path content : Bytes) : FileOutcome :=
  ⟨path, FileStatus.of (r.run content).replacements (r.run content).modified,
    (r.run content).replacements⟩

/-- What is signalled once a file that held `content` was read. -/
def readEvent (r : Replacement) (content : Bytes) : Event :=
  { level := .trace, message := "rewrote token stream"
    fields := [("tokens", .number (r.run content).tokens),
      ("replacements", .number (r.run content).replacements)] }

/-- What is signalled about a file that held `content`. -/
def signalsOf (r : Replacement) (l : Listener) (path content : Bytes) : List Signal :=
  .event (readEvent r content) ::
    .event
      { message := "file processed"
        fields := [("path", .text path),
          ("status", .text (outcomeOf r path content).status.name),
          ("replacements", .number (outcomeOf r path content).replacements)] } ::
    l.notify path (outcomeOf r path content).replacements

/-- A run after a file that held `content` was done. -/
def after (r : Replacement) (l : Listener) (path content : Bytes) (rest : ReplaceRun) :
    ReplaceRun :=
  { rest with
    files := outcomeOf r path content :: rest.files
    signals := signalsOf r l path content ++ rest.signals }

@[simp]
theorem after_disk (rest : ReplaceRun) : (after r l path content rest).disk = rest.disk := rfl

@[simp]
theorem after_failure (rest : ReplaceRun) :
    (after r l path content rest).failure = rest.failure := rfl

/-- What a run opens each file for in the end. -/
def access (dry : Bool) : Access := if dry then .read else .write

/-- The failure of a run at a file that is refused when it is to be written. -/
def notWritten (path : Bytes) (refusal : Refusal) : Failure :=
  .file path "write" (.operation "open" path (.refused refusal))

/-- A file that was read and is not barred from writing, if it is to be written, is done. -/
theorem replace_cons_of_read (hc : l.cancelled n = false) (hr : d.read path = .ok content)
    (hbar : d.barred? (access dry) path = none) :
    replace r { dryRun := dry, listener := l } n d (path :: paths) =
      after r l path content (replace r { dryRun := dry, listener := l } (n + 1)
        (if dry then d else d.edit r.apply path) paths) := by
  obtain ⟨place, mode, hp, he, _⟩ := Disk.read_eq_ok_iff.mp hr
  have hedit : d.edit r.apply path = d.setContent place (r.apply content) := by
    simp [Disk.edit, Disk.editAt, hp, he]
  cases dry with
  | true => simp [replace, hc, hr, after, outcomeOf, signalsOf, readEvent]
  | false =>
    rw [Disk.barred?_of_locate hp] at hbar
    have hw : d.write path (r.run content).content = .ok (d.edit r.apply path) := by
      rw [hedit, Disk.write_of_locate hp he, Disk.unlessBarred_eq_ok_iff]
      exact ⟨hbar, rfl⟩
    simp [replace, hc, hr, hw, after, outcomeOf, signalsOf, readEvent]

/-- A file that was read and then is refused stays as it is and ends the run. -/
theorem replace_cons_of_barred {refusal : Refusal} (hc : l.cancelled n = false)
    (hr : d.read path = .ok content) (hbar : d.barred? .write path = some refusal) :
    replace r { listener := l } n d (path :: paths) =
      { disk := d, signals := [.event (readEvent r content)]
        failure := some (notWritten path refusal) } := by
  obtain ⟨place, mode, hp, he, _⟩ := Disk.read_eq_ok_iff.mp hr
  rw [Disk.barred?_of_locate hp] at hbar
  have hw : d.write path (r.run content).content =
      .error (.operation "open" path (.refused refusal)) := by
    rw [Disk.write_of_locate hp he, Disk.unlessBarred, hbar]
  simp [replace, hc, hr, hw, readEvent, notWritten]

/-- A file is done if the run is not cancelled before it and it can be used. -/
theorem replace_cons_failure :
    (replace r { dryRun := dry, listener := l } n d (path :: paths)).failure = none ↔
      l.cancelled n = false ∧ d.Usable (access dry) path ∧
        (replace r { dryRun := dry, listener := l } (n + 1)
          (if dry then d else d.edit r.apply path) paths).failure = none := by
  cases hc : l.cancelled n with
  | true => simp [replace, hc]
  | false =>
    cases hr : d.read path with
    | error f => simp [replace, hc, hr, Disk.Usable, Disk.Readable]
    | ok content =>
      cases hbar : d.barred? (access dry) path with
      | none => simp [replace_cons_of_read hc hr hbar, Disk.Usable, Disk.Readable, hr, hbar]
      | some refusal =>
        cases dry with
        | true => simp [access, Disk.barred?_of_read hr] at hbar
        | false => simp [replace_cons_of_barred hc hr hbar, Disk.Usable, hbar]

theorem usable_next (r : Replacement) (dry : Bool) (d : Disk) (a : Access) (path other : Bytes) :
    (if dry then d else d.edit r.apply path).Usable a other ↔ d.Usable a other := by
  cases dry with
  | true => rfl
  | false => exact Disk.usable_edit d r.apply path other a

/-- A run ends well if and only if it is never cancelled and every path leads to a file that can be
used. -/
theorem replace_failure_eq_none_iff :
    (replace r { dryRun := dry, listener := l } n d paths).failure = none ↔
      (∀ i < paths.length, l.cancelled (n + i) = false) ∧
        ∀ path ∈ paths, d.Usable (access dry) path := by
  induction paths generalizing n d with
  | nil => simp [replace]
  | cons path paths ih =>
    simp only [replace_cons_failure, ih, usable_next, List.length_cons,
      Listener.not_cancelled_succ_iff, List.forall_mem_cons]
    constructor
    · rintro ⟨hc, hr, hcs, hrs⟩
      exact ⟨⟨hc, hcs⟩, hr, hrs⟩
    · rintro ⟨⟨hc, hcs⟩, hr, hrs⟩
      exact ⟨hc, hr, hcs, hrs⟩

/-- A run that ends well has edited the file of each path in turn. -/
theorem replace_disk (h : (replace r { listener := l } n d paths).failure = none) :
    (replace r { listener := l } n d paths).disk =
      paths.foldl (fun d path => d.edit r.apply path) d := by
  induction paths generalizing n d with
  | nil => rfl
  | cons path paths ih =>
    obtain ⟨hc, ⟨⟨content, hr⟩, hbar⟩, hrest⟩ := replace_cons_failure.mp h
    rw [replace_cons_of_read hc hr hbar, after_disk]
    exact ih hrest

end ReplaceRun

variable {d : Disk} {r : Replacement} {l : Listener} {paths others : List Bytes} {run : ReplaceRun}

/-- Replacing in files fails at once if the replacement is not valid, and else is the run over the
files. -/
theorem replaceInFiles_eq_ok_iff {opts : ReplaceOptions} :
    (∃ run, replaceInFiles d r opts paths = .ok run) ↔ r.validate = .ok () := by
  unfold replaceInFiles
  cases r.validate <;> simp

theorem replaceInFiles_run {opts : ReplaceOptions} (h : replaceInFiles d r opts paths = .ok run) :
    run.disk = (ReplaceRun.replace r opts 0 d paths).disk ∧
      run.failure = (ReplaceRun.replace r opts 0 d paths).failure := by
  unfold replaceInFiles at h
  cases hv : r.validate with
  | error fault => simp [hv] at h
  | ok _ =>
    simp only [hv, Except.ok.injEq] at h
    subst h
    exact ⟨rfl, rfl⟩

/-- Whether a run ends well does not depend on the order of the paths. -/
theorem ReplaceRun.replace_failure_perm (hp : others.Perm paths)
    (h : (replace r { listener := l } 0 d paths).failure = none) :
    (replace r { listener := l } 0 d others).failure = none := by
  rw [replace_failure_eq_none_iff] at h ⊢
  rw [hp.length_eq]
  exact ⟨h.1, fun path hm => h.2 path (hp.mem_iff.mp hm)⟩

/-- A run of replacements that ends well leaves every entry as it was, except that a file to which
`k` of the paths lead holds what `k` replacements make of its content. Every order of the paths
gives a run that ends well with the same disk. -/
theorem replaceInFiles_applies_per_path (h : replaceInFiles d r { listener := l } paths = .ok run)
    (hok : run.failure = none) :
    (∀ place, run.disk.lookup place =
      (d.lookup place).map (Entry.mapContent r.apply^[d.hits paths place])) ∧
    ∀ others, others.Perm paths → ∃ run', replaceInFiles d r { listener := l } others = .ok run' ∧
      run'.failure = none ∧ run'.disk = run.disk := by
  obtain ⟨hdisk, hfail⟩ := replaceInFiles_run h
  rw [hfail] at hok
  constructor
  · intro place
    rw [hdisk, ReplaceRun.replace_disk hok]
    exact Disk.lookup_foldl_edit d r.apply paths place
  · intro others hp
    have hok' := ReplaceRun.replace_failure_perm hp hok
    obtain ⟨run', h'⟩ := replaceInFiles_eq_ok_iff.mpr (replaceInFiles_eq_ok_iff.mp ⟨run, h⟩)
    obtain ⟨hdisk', hfail'⟩ := replaceInFiles_run h'
    refine ⟨run', h', hfail'.trans hok', ?_⟩
    rw [hdisk, hdisk', ReplaceRun.replace_disk hok, ReplaceRun.replace_disk hok']
    apply hp.foldl_eq'
    intro path _ other _ d
    exact Disk.edit_comm d r.apply path other

/-- A disk with a file `f` that holds `a`, and a link `l` to it. -/
def aliased : Disk := ⟨[], [([[0x66]], .file [0x61] 0o644), ([[0x6C]], .link [0x66])]⟩

theorem unbarred_aliased : aliased.Unbarred := fun _ _ => rfl

/-- The replacement that doubles each `a`. -/
def doubling : Replacement := ⟨[0x61], [0x61, 0x20, 0x61], [0x20]⟩

/-- A file reached by its name, by a link and by its name again. -/
theorem replaceInFiles_applies_per_path_alias :
    ∃ run, replaceInFiles aliased doubling {} [[0x66], [0x6C], [0x66]] = .ok run ∧
      run.failure = none ∧
      run.disk.lookup [[0x66]] = some (.file [0x61, 0x20, 0x61, 0x20, 0x61, 0x20, 0x61, 0x20, 0x61,
        0x20, 0x61, 0x20, 0x61, 0x20, 0x61] 0o644) ∧
      run.disk.lookup [[0x6C]] = some (.link [0x66]) := by
  obtain ⟨run, h⟩ : ∃ run, replaceInFiles aliased doubling {} [[0x66], [0x6C], [0x66]] = .ok run :=
    replaceInFiles_eq_ok_iff.mpr rfl
  have hok : run.failure = none := (replaceInFiles_run h).2.trans (by decide +kernel)
  have hl := (replaceInFiles_applies_per_path h hok).1
  exact ⟨run, h, hok, (hl [[0x66]]).trans (by decide +kernel), hl [[0x6C]]⟩

end Wordwalk
