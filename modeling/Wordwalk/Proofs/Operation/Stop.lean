import Wordwalk.Proofs.Operation.Replace

/-! Where a run of replacements stops. It stops at one of its files or not at all: what it leaves
behind is what a run over the files before that one leaves, to which only the failure is added. If
no file is barred, none is read and then not written. -/
namespace Wordwalk

/-- The listener without its cancellation. -/
def Listener.patient (l : Listener) : Listener := { l with cancelAfter := none }

namespace ReplaceRun

variable {r : Replacement} {l : Listener} {dry : Bool} {n : Nat} {d : Disk}
  {path content : Bytes} {paths : List Bytes} {f : Failure}

/-- The notifications of a run, in order. -/
def progress (run : ReplaceRun) : List (Bytes × Nat) := run.signals.filterMap Signal.progress?

/-- Why a run stops before the file at `path` once `n` files are done and the disk is `d`. -/
inductive StopsBefore (l : Listener) (n : Nat) (d : Disk) (path : Bytes) : Failure → Prop where
  | cancelled : l.cancelled n = true → StopsBefore l n d path (stoppedBefore path)
  | unreadable {cause : Failure} :
      l.cancelled n = false → d.read path = .error cause →
        StopsBefore l n d path (.file path "read" cause)

theorem stopsBefore_or_read (l : Listener) (n : Nat) (d : Disk) (path : Bytes) :
    (∃ f, StopsBefore l n d path f) ∨ l.cancelled n = false ∧ d.Readable path := by
  cases hc : l.cancelled n with
  | true => exact Or.inl ⟨_, .cancelled hc⟩
  | false =>
    cases hr : d.read path with
    | error cause => exact Or.inl ⟨_, .unreadable hc hr⟩
    | ok content => exact Or.inr ⟨rfl, content, hr⟩

theorem replace_cons_of_stopsBefore (h : StopsBefore l n d path f) :
    replace r { dryRun := dry, listener := l } n d (path :: paths) =
      { disk := d, failure := some f } := by
  cases h with
  | cancelled hc => simp [replace, hc]
  | unreadable hc hr => simp [replace, hc, hr]

/-- Why a run stops at the file at `path`: before it, or once it was read, as it must not be
written. -/
inductive StopsAt (dry : Bool) (l : Listener) (n : Nat) (d : Disk) (path : Bytes) :
    Failure → Prop where
  | before {f : Failure} : StopsBefore l n d path f → StopsAt dry l n d path f
  | barred {refusal : Refusal} :
      l.cancelled n = false → dry = false → d.Readable path →
        d.barred? .write path = some refusal → StopsAt dry l n d path (notWritten path refusal)

theorem stopsAt_or_usable (dry : Bool) (l : Listener) (n : Nat) (d : Disk) (path : Bytes) :
    (∃ f, StopsAt dry l n d path f) ∨ l.cancelled n = false ∧ d.Usable (access dry) path := by
  rcases stopsBefore_or_read l n d path with ⟨f, hstop⟩ | ⟨hc, hr⟩
  · exact Or.inl ⟨f, .before hstop⟩
  · cases dry with
    | true => exact Or.inr ⟨hc, Disk.usable_read_iff.mpr hr⟩
    | false =>
      cases hbar : d.barred? .write path with
      | none => exact Or.inr ⟨hc, hr, hbar⟩
      | some refusal => exact Or.inl ⟨_, .barred hc rfl hr hbar⟩

/-- A run that ends with `f` after it has done what `done` has done and signalled some more. -/
def stopped (done : ReplaceRun) (events : List Event) (f : Failure) : ReplaceRun :=
  { done with signals := done.signals ++ events.map .event, failure := some f }

@[simp]
theorem stopped_progress (done : ReplaceRun) (events : List Event) (f : Failure) :
    (stopped done events f).progress = done.progress := by
  simp [progress, stopped, List.filterMap_append, List.filterMap_map, Signal.progress?,
    Function.comp_def]

theorem after_stopped (done : ReplaceRun) (events : List Event) (f : Failure) :
    after r l path content (stopped done events f) = stopped (after r l path content done) events f := by
  simp [after, stopped]

theorem replace_cons_of_stopsAt (h : StopsAt dry l n d path f) :
    ∃ events, replace r { dryRun := dry, listener := l } n d (path :: paths) =
      stopped { disk := d } events f := by
  cases h with
  | before hstop => exact ⟨[], replace_cons_of_stopsBefore hstop⟩
  | barred hc hdry hr hbar =>
    obtain ⟨content, hr⟩ := hr
    subst hdry
    exact ⟨[readEvent r content], replace_cons_of_barred hc hr hbar⟩

/-- All that a run can do with its first file: it stops there, or the file is read, edited in place
if the run writes, and reported, and the run goes on. -/
theorem replace_cons_cases (r : Replacement) (l : Listener) (dry : Bool) (n : Nat) (d : Disk)
    (path : Bytes) (paths : List Bytes) :
    (∃ events f, StopsAt dry l n d path f ∧
      replace r { dryRun := dry, listener := l } n d (path :: paths) =
        stopped { disk := d } events f) ∨
    ∃ content, l.cancelled n = false ∧ d.read path = .ok content ∧
      d.barred? (access dry) path = none ∧
      replace r { dryRun := dry, listener := l } n d (path :: paths) =
        after r l path content (replace r { dryRun := dry, listener := l } (n + 1)
          (if dry then d else d.edit r.apply path) paths) := by
  rcases stopsAt_or_usable dry l n d path with ⟨f, hstop⟩ | ⟨hc, ⟨content, hr⟩, hbar⟩
  · obtain ⟨events, hrun⟩ := replace_cons_of_stopsAt hstop
    exact Or.inl ⟨events, f, hstop, hrun⟩
  · exact Or.inr ⟨content, hc, hr, hbar, replace_cons_of_read hc hr hbar⟩

/-- A run does the first `i` files as a run over these alone would without a cancellation, and then
is at the end of the paths or stops at the next. -/
theorem replace_stops (r : Replacement) (l : Listener) (dry : Bool) (n : Nat) (d : Disk)
    (paths : List Bytes) :
    ∃ i done, done = replace r { dryRun := dry, listener := l.patient } n d (paths.take i) ∧
      done.failure = none ∧ (∀ j < i, l.cancelled (n + j) = false) ∧
      (i = paths.length ∧ replace r { dryRun := dry, listener := l } n d paths = done ∨
        ∃ (hi : i < paths.length) (events : List Event) (f : Failure),
          StopsAt dry l (n + i) done.disk paths[i] f ∧
          replace r { dryRun := dry, listener := l } n d paths = stopped done events f) := by
  induction paths generalizing n d with
  | nil => exact ⟨0, _, rfl, rfl, by simp, Or.inl ⟨rfl, rfl⟩⟩
  | cons path paths ih =>
    rcases replace_cons_cases r l dry n d path paths with
      ⟨events, f, hstop, hrun⟩ | ⟨content, hc, hr, hbar, hnext⟩
    · exact ⟨0, _, rfl, rfl, by simp, Or.inr ⟨by simp, events, f, hstop, hrun⟩⟩
    · obtain ⟨i, done, hdone, hend, hbefore, hstop⟩ :=
        ih (n + 1) (if dry then d else d.edit r.apply path)
      have hpatient : l.patient.cancelled n = false := rfl
      refine ⟨i + 1, after r l path content done, ?_, hend, ?_, ?_⟩
      · rw [List.take_succ_cons, replace_cons_of_read hpatient hr hbar, ← hdone]
        rfl
      · exact Listener.not_cancelled_succ_iff.mpr ⟨hc, hbefore⟩
      · rw [hnext]
        rcases hstop with ⟨hi, hrun⟩ | ⟨hi, events, f, hf, hrun⟩
        · exact Or.inl ⟨by simp [hi], by rw [hrun]⟩
        · refine Or.inr ⟨by simpa using hi, events, f, ?_, by rw [hrun, after_stopped]⟩
          rwa [show n + 1 + i = n + (i + 1) by omega] at hf

/-- A run that fails stops at one of its files. -/
theorem replace_failure_stops
    (h : (replace r { dryRun := dry, listener := l } n d paths).failure = some f) :
    ∃ (i : Nat) (hi : i < paths.length) (done : ReplaceRun) (events : List Event),
      done = replace r { dryRun := dry, listener := l.patient } n d (paths.take i) ∧
      done.failure = none ∧ (∀ j < i, l.cancelled (n + j) = false) ∧
      StopsAt dry l (n + i) done.disk paths[i] f ∧
      replace r { dryRun := dry, listener := l } n d paths = stopped done events f := by
  obtain ⟨i, done, hdone, hend, hbefore, hstop⟩ := replace_stops r l dry n d paths
  rcases hstop with ⟨_, hrun⟩ | ⟨hi, events, f', hf', hrun⟩
  · simp [hrun, hend] at h
  · obtain rfl : f' = f := by simpa [hrun, stopped] using h
    exact ⟨i, hi, done, events, hdone, hend, hbefore, hf', hrun⟩

/-- A cancellation that comes when all files are done makes no difference. -/
theorem replace_patient (r : Replacement) (dry : Bool) (d : Disk)
    (h : ∀ j < paths.length, l.cancelled (n + j) = false) :
    replace r { dryRun := dry, listener := l.patient } n d paths =
      replace r { dryRun := dry, listener := l } n d paths := by
  induction paths generalizing n d with
  | nil => rfl
  | cons path paths ih =>
    obtain ⟨hc, hrest⟩ := Listener.not_cancelled_succ_iff.mp h
    have hpatient : l.patient.cancelled n = false := rfl
    simp only [replace, hc, hpatient, ih _ hrest, Bool.false_eq_true, if_false]
    rfl

/-- A run that ends well reports each of its paths, in order. -/
theorem replace_files_path
    (h : (replace r { dryRun := dry, listener := l } n d paths).failure = none) :
    (replace r { dryRun := dry, listener := l } n d paths).files.map FileOutcome.path = paths := by
  induction paths generalizing n d with
  | nil => rfl
  | cons path paths ih =>
    obtain ⟨hc, ⟨⟨content, hr⟩, hbar⟩, hrest⟩ := replace_cons_failure.mp h
    rw [replace_cons_of_read hc hr hbar]
    exact congrArg (path :: ·) (ih hrest)

/-- A dry run leaves the disk as it is. -/
theorem replace_dry_disk :
    (replace r { dryRun := true, listener := l } n d paths).disk = d := by
  induction paths generalizing n with
  | nil => rfl
  | cons path paths ih =>
    rcases replace_cons_cases r l true n d path paths with
      ⟨events, f, _, hrun⟩ | ⟨content, _, _, _, hrun⟩
    · rw [hrun]
      rfl
    · rw [hrun, after_disk]
      exact ih

/-- No run bars a file or sets it free. -/
theorem barred?_replace (a : Access) (other : Bytes) :
    (replace r { dryRun := dry, listener := l } n d paths).disk.barred? a other =
      d.barred? a other := by
  induction paths generalizing n d with
  | nil => rfl
  | cons path paths ih =>
    rcases replace_cons_cases r l dry n d path paths with
      ⟨events, f, _, hrun⟩ | ⟨content, _, _, _, hrun⟩
    · rw [hrun]
      rfl
    · rw [hrun, after_disk, ih]
      cases dry with
      | true => rfl
      | false => exact Disk.barred?_edit d r.apply path other a

end ReplaceRun

namespace Listener

variable {l : Listener} {n i : Nat}

theorem cancelled_self (hn : l.cancelAfter = some n) (hl : l.present = true ∨ n = 0) :
    l.cancelled n = true := by
  rcases hl with hl | rfl
  · simp [cancelled, hn, hl]
  · simp [cancelled, hn]

theorem not_cancelled_of_lt (hn : l.cancelAfter = some n) (hi : i < n) :
    l.cancelled i = false := by
  have hlate : ¬ n ≤ if l.present then i else 0 := by
    split <;> omega
  simpa [cancelled, hn] using hlate

theorem le_of_not_cancelled (hn : l.cancelAfter = some n) (hl : l.present = true ∨ n = 0)
    (h : ∀ j < i, l.cancelled j = false) : i ≤ n := by
  by_contra hlt
  have hnot := h n (by omega)
  rw [cancelled_self hn hl] at hnot
  exact Bool.noConfusion hnot

end Listener

variable {d : Disk} {r : Replacement} {l : Listener} {dry : Bool} {paths : List Bytes}

/-- Replacing in files with a valid replacement is a run over them after a first event. -/
theorem replaceInFiles_of_valid (hv : r.validate = .ok ()) (d : Disk) (opts : ReplaceOptions)
    (paths : List Bytes) :
    ∃ began : Event, replaceInFiles d r opts paths =
      .ok { ReplaceRun.replace r opts 0 d paths with
        signals := .event began :: (ReplaceRun.replace r opts 0 d paths).signals } := by
  unfold replaceInFiles
  rw [hv]
  exact ⟨_, rfl⟩

/-- A run that fails has done a number of files as a run over these alone does them when nothing
cancels it: the disk, the report and the notifications are the same. Its failure is that the next
file cannot be read or that the run is cancelled; or else that the next file is barred from writing,
if the run writes and the disk bars files at all. A cancellation after `n` notifications stops the
run before it has done more than `n` files, and makes no difference if there are no more. -/
theorem replaceInFiles_stops_between_files (hv : r.validate = .ok ()) :
    ∃ run, replaceInFiles d r { dryRun := dry, listener := l } paths = .ok run ∧
      (∀ f, run.failure = some f →
        ∃ (i : Nat) (hi : i < paths.length) (done : ReplaceRun),
          replaceInFiles d r { dryRun := dry, listener := l.patient } (paths.take i) = .ok done ∧
          done.failure = none ∧ done.files.map FileOutcome.path = paths.take i ∧
          run.disk = done.disk ∧ run.files = done.files ∧
          run.replacements = done.replacements ∧ run.progress = done.progress ∧
          ((∃ cause, f = .file paths[i] "read" cause ∧ done.disk.read paths[i] = .error cause) ∨
            (f = stoppedBefore paths[i] ∧ f.is .canceled = true) ∨
            ∃ refusal, dry = false ∧ d.barred? .write paths[i] = some refusal ∧
              f = ReplaceRun.notWritten paths[i] refusal) ∧
          ∀ n, l.cancelAfter = some n → (l.present = true ∨ n = 0) → i ≤ n) ∧
      (∀ n, l.cancelAfter = some n → (l.present = true ∨ n = 0) → n < paths.length →
        run.failure ≠ none) ∧
      ∀ n, l.cancelAfter = some n → paths.length ≤ n →
        replaceInFiles d r { dryRun := dry, listener := l.patient } paths = .ok run := by
  obtain ⟨began, hrun⟩ := replaceInFiles_of_valid hv d { dryRun := dry, listener := l } paths
  refine ⟨_, hrun, ?_, ?_, ?_⟩
  · intro f hf
    obtain ⟨i, hi, done, events, rfl, hend, hbefore, hstop, hreplace⟩ :=
      ReplaceRun.replace_failure_stops hf
    obtain ⟨_, hdone⟩ := replaceInFiles_of_valid hv d { dryRun := dry, listener := l.patient }
      (paths.take i)
    refine ⟨i, hi, _, hdone, hend, ReplaceRun.replace_files_path hend, ?_⟩
    rw [hreplace]
    refine ⟨rfl, rfl, rfl, ReplaceRun.stopped_progress _ events f, ?_, ?_⟩
    · cases hstop with
      | before hstop =>
        cases hstop with
        | cancelled hc => exact Or.inr (Or.inl ⟨rfl, rfl⟩)
        | unreadable hc hr => exact Or.inl ⟨_, rfl, hr⟩
      | barred hc hdry _ hbar =>
        rw [ReplaceRun.barred?_replace] at hbar
        exact Or.inr (Or.inr ⟨_, hdry, hbar, rfl⟩)
    · intro n hn hl
      exact Listener.le_of_not_cancelled hn hl (by simpa using hbefore)
  · intro n hn hl hlt hend
    have hnot := (ReplaceRun.replace_failure_eq_none_iff.mp hend).1 n hlt
    rw [Nat.zero_add, Listener.cancelled_self hn hl] at hnot
    exact Bool.noConfusion hnot
  · intro n hn hlate
    have hnot : ∀ j < paths.length, l.cancelled (0 + j) = false := by
      intro j hj
      exact Listener.not_cancelled_of_lt hn (by omega)
    unfold replaceInFiles at hrun ⊢
    rw [ReplaceRun.replace_patient r dry d hnot]
    exact hrun

/-- The second of three paths leads nowhere, so the cancellation after two files never comes. -/
theorem replaceInFiles_stops_between_files_missing :
    doubling.validate = .ok () ∧
    ∃ run done, replaceInFiles aliased doubling { listener := { cancelAfter := some 2 } }
        [[0x66], [0x78], [0x6C]] = .ok run ∧
      run.failure = some (.file [0x78] "read" (.operation "open" [0x78] (.refused .noEntry))) ∧
      replaceInFiles aliased doubling {} [[0x66]] = .ok done ∧
      done.failure = none ∧ run.disk = done.disk ∧ run.files = done.files ∧
      run.progress = done.progress ∧ run.files.map FileOutcome.path = [[0x66]] := by
  have hv : doubling.validate = .ok () := rfl
  obtain ⟨run, hrun, hstops, _⟩ := @replaceInFiles_stops_between_files aliased doubling
    { cancelAfter := some 2 } false [[0x66], [0x78], [0x6C]] hv
  have hfailure : run.failure =
      some (.file [0x78] "read" (.operation "open" [0x78] (.refused .noEntry))) :=
    (replaceInFiles_run hrun).2.trans rfl
  obtain ⟨i, hi, done, hdone, hend, hpaths, hdisk, hfiles, _, hprogress, hcause, _⟩ :=
    hstops _ hfailure
  obtain rfl : i = 1 := by
    rcases hcause with ⟨_, hf, _⟩ | ⟨hf, _⟩ | ⟨refusal, _, hbar, _⟩
    · rcases i with _ | _ | _ | i
      · simp at hf
      · rfl
      · simp at hf
      · exact absurd hi (by simp)
    · simp [stoppedBefore] at hf
    · simp [unbarred_aliased.barred?_eq_none] at hbar
  exact ⟨hv, run, done, hrun, hfailure, hdone, hend, hdisk, hfiles, hprogress, hfiles ▸ hpaths⟩

end Wordwalk
