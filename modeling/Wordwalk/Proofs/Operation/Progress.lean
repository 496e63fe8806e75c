import Wordwalk.Proofs.Operation.Count
import Wordwalk.Proofs.Operation.Stop

/-! What an operation tells of its progress. Who listens is told of each file that is done and of no
other, in the order of the paths, up to the first that cannot be read or written. -/
namespace Wordwalk

open ReplaceRun (StopsBefore stopsBefore_or_read)

variable {d now : Disk} {access : Access} {r : Replacement} {l : Listener} {dry : Bool} {n : Nat}
  {path content : Bytes} {paths : List Bytes} {f cause : Failure}

namespace CountRun

/-- The notifications of a count, in order. -/
def progress (run : CountRun) : List (Bytes × Nat) := run.signals.filterMap Signal.progress?

theorem count_cons_of_stopsBefore (h : StopsBefore l n d path f) :
    count d l n (path :: paths) = { failure := some f } := by
  cases h with
  | cancelled hc => simp [count, hc]
  | unreadable hc hr => simp [count, hc, hr]

/-- Who listens is told of each file in the report and of nothing else. -/
theorem count_progress (d : Disk) (l : Listener) (n : Nat) (paths : List Bytes) :
    (count d l n paths).progress = if l.present then (count d l n paths).files else [] := by
  induction paths generalizing n with
  | nil => simp [count, progress]
  | cons path paths ih =>
    rcases stopsBefore_or_read l n d path with ⟨f, hstop⟩ | ⟨hc, content, hr⟩
    · rw [count_cons_of_stopsBefore hstop]
      simp [progress]
    · have hrest := ih (n + 1)
      rw [count_cons_of_read hc hr]
      cases hl : l.present <;>
        simpa [progress, Listener.notify, hl, Signal.progress?] using hrest

end CountRun

namespace ReplaceRun

/-- The files of a report with the tokens replaced in each. -/
def tallied (files : List FileOutcome) : List (Bytes × Nat) :=
  files.map fun file => (file.path, file.replacements)

theorem progress_signalsOf (r : Replacement) (l : Listener) (path content : Bytes) :
    (signalsOf r l path content).filterMap Signal.progress? =
      if l.present then tallied [outcomeOf r path content] else [] := by
  unfold signalsOf Listener.notify
  cases l.present <;> rfl

/-- Who listens is told of each file in the report and of nothing else. -/
theorem replace_progress (r : Replacement) (l : Listener) (dry : Bool) (n : Nat) (d : Disk)
    (paths : List Bytes) :
    (replace r { dryRun := dry, listener := l } n d paths).progress =
      if l.present then tallied (replace r { dryRun := dry, listener := l } n d paths).files
      else [] := by
  induction paths generalizing n d with
  | nil => simp [replace, progress, tallied]
  | cons path paths ih =>
    rcases replace_cons_cases r l dry n d path paths with
      ⟨events, f, _, hrun⟩ | ⟨content, _, _, _, hrun⟩
    · rw [hrun, stopped_progress]
      simp [progress, tallied, stopped]
    · have hrest := ih (n + 1) (if dry then d else d.edit r.apply path)
      unfold progress at hrest ⊢
      rw [hrun, after, List.filterMap_append, progress_signalsOf, hrest]
      cases l.present <;> rfl

end ReplaceRun

/-- In which phase of the work on a file it shows that the file cannot be used. -/
inductive RefusedIn (d : Disk) (access : Access) (path : Bytes) : Bytes → Prop where
  | read : ¬ d.Usable .read path → RefusedIn d access path "read"
  | write : d.Usable .read path → ¬ d.Usable access path → RefusedIn d access path "write"

/-- How an operation that opens the files at `paths` for `access` ends if it has told of those
`shown`: it has told of all, in order, or it fails at the first that cannot be used and has told of
those before. -/
inductive GoesThrough (d : Disk) (access : Access) (paths : List Bytes)
    (shown : List (Bytes × Nat)) : Option Failure → Prop where
  | finished :
      shown.map Prod.fst = paths → (∀ path ∈ paths, d.Usable access path) →
        GoesThrough d access paths shown none
  | stopped {path phase : Bytes} {rest : List Bytes} {f : Failure} :
      paths = shown.map Prod.fst ++ path :: rest →
        (∀ done ∈ shown.map Prod.fst, d.Usable access done) → RefusedIn d access path phase →
        f.file? = some (path, phase) → GoesThrough d access paths shown (some f)

/-- Only which paths can be used matters. -/
theorem RefusedIn.of_usable_iff {phase : Bytes} (h : RefusedIn now access path phase)
    (hnow : ∀ a path, now.Usable a path ↔ d.Usable a path) : RefusedIn d access path phase := by
  cases h with
  | read hr => exact .read fun hd => hr ((hnow .read path).mpr hd)
  | write hr hw => exact .write ((hnow .read path).mp hr) fun hd => hw ((hnow access path).mpr hd)

namespace GoesThrough

variable {shown : List (Bytes × Nat)} {failure : Option Failure}

theorem of_unreadable (hr : d.read path = .error cause) (paths : List Bytes) :
    GoesThrough d access (path :: paths) [] (some (.file path "read" cause)) := by
  refine .stopped rfl (by simp) (.read ?_) rfl
  rintro ⟨⟨content, hread⟩, _⟩
  rw [hr] at hread
  exact nomatch hread

theorem cons (hr : d.Usable access path) (h : GoesThrough d access paths shown failure) (k : Nat) :
    GoesThrough d access (path :: paths) ((path, k) :: shown) failure := by
  cases h with
  | finished hshown hread =>
    exact .finished (by simp [hshown]) (List.forall_mem_cons.mpr ⟨hr, hread⟩)
  | stopped hpaths hread hpath hf =>
    exact .stopped (congrArg (path :: ·) hpaths) (List.forall_mem_cons.mpr ⟨hr, hread⟩) hpath hf

theorem of_usable_iff (h : GoesThrough now access paths shown failure)
    (hnow : ∀ a path, now.Usable a path ↔ d.Usable a path) :
    GoesThrough d access paths shown failure := by
  cases h with
  | finished hshown hread =>
    exact .finished hshown fun path hp => (hnow access path).mp (hread path hp)
  | stopped hpaths hread hpath hf =>
    exact .stopped hpaths (fun done hd => (hnow access done).mp (hread done hd))
      (hpath.of_usable_iff hnow) hf

/-- What is said around a failure does not change where it arose. -/
theorem within (h : GoesThrough d access paths shown failure) (context : Bytes) :
    GoesThrough d access paths shown (failure.map (.within context)) := by
  cases h with
  | finished hshown hread => exact .finished hshown hread
  | stopped hpaths hread hpath hf => exact .stopped hpaths hread hpath hf

end GoesThrough

/-- A count that is never cancelled goes through its paths. -/
theorem CountRun.goesThrough_count (d : Disk) (n : Nat) (paths : List Bytes) :
    GoesThrough d .read paths (count d {} n paths).files (count d {} n paths).failure := by
  induction paths generalizing n with
  | nil => exact .finished rfl (by simp)
  | cons path paths ih =>
    have hc : Listener.cancelled {} n = false := rfl
    cases hr : d.read path with
    | error cause =>
      rw [count_cons_of_stopsBefore (.unreadable hc hr)]
      exact .of_unreadable hr paths
    | ok content =>
      rw [count_cons_of_read hc hr]
      exact (ih (n + 1)).cons (Disk.usable_read_iff.mpr ⟨content, hr⟩) _

/-- A run that nothing cancels and that stops at a file fails at it. -/
theorem ReplaceRun.StopsAt.goesThrough (h : StopsAt dry {} n d path f) (paths : List Bytes) :
    GoesThrough d (ReplaceRun.access dry) (path :: paths) [] (some f) := by
  cases h with
  | before hstop =>
    cases hstop with
    | cancelled hc => exact nomatch hc
    | unreadable _ hr => exact .of_unreadable hr paths
  | barred _ hdry hr hbar =>
    subst hdry
    refine .stopped rfl (by simp) (.write (Disk.usable_read_iff.mpr hr) fun husable => ?_) rfl
    exact nomatch hbar.symm.trans husable.2

/-- A run of replacements that is never cancelled goes through its paths, whether it writes or
not. -/
theorem ReplaceRun.goesThrough_replace (r : Replacement) (dry : Bool) (n : Nat) (d : Disk)
    (paths : List Bytes) :
    GoesThrough d (ReplaceRun.access dry) paths (tallied (replace r { dryRun := dry } n d paths).files)
      (replace r { dryRun := dry } n d paths).failure := by
  induction paths generalizing n d with
  | nil => exact .finished rfl (by simp)
  | cons path paths ih =>
    rcases replace_cons_cases r {} dry n d path paths with
      ⟨events, f, hstop, hrun⟩ | ⟨content, _, hr, hbar, hrun⟩
    · rw [hrun]
      exact hstop.goesThrough paths
    · have hrest := ih (n + 1) (if dry then d else d.edit r.apply path)
      rw [hrun]
      refine (hrest.of_usable_iff fun a other => ?_).cons ⟨⟨content, hr⟩, hbar⟩ _
      exact usable_next r dry d a path other

theorem countLines_goesThrough (d : Disk) (paths : List Bytes) :
    (countLines d {} paths).progress = (countLines d {} paths).files ∧
      GoesThrough d .read paths (countLines d {} paths).files (countLines d {} paths).failure :=
  ⟨CountRun.count_progress d {} 0 paths, CountRun.goesThrough_count d 0 paths⟩

theorem replaceInFiles_goesThrough (hv : r.validate = .ok ()) (d : Disk) (dry : Bool)
    (paths : List Bytes) :
    ∃ run, replaceInFiles d r { dryRun := dry } paths = .ok run ∧
      run.progress = ReplaceRun.tallied run.files ∧
      GoesThrough d (ReplaceRun.access dry) paths (ReplaceRun.tallied run.files) run.failure := by
  obtain ⟨began, hrun⟩ := replaceInFiles_of_valid hv d { dryRun := dry } paths
  exact ⟨_, hrun, ReplaceRun.replace_progress r {} dry 0 d paths,
    ReplaceRun.goesThrough_replace r dry 0 d paths⟩

end Wordwalk
