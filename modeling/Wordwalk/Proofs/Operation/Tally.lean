import Wordwalk.Proofs.CommandLine.Effect
import Wordwalk.Proofs.Operation.Progress

/-! How far a count gets. Its report, its total and its notifications stop at the same file: the
first that cannot be read, or the one before which the count is cancelled. -/
namespace Wordwalk

open ReplaceRun (StopsBefore stopsBefore_or_read)

variable {d : Disk} {l : Listener} {n i k : Nat} {path : Bytes} {paths others : List Bytes}
  {f : Failure} {run other : CountRun}

/-- Whether the first `i` of the paths can be worked on once `n` files are done: each leads to a
file and nothing is cancelled before any of them. -/
structure Doable (d : Disk) (l : Listener) (n : Nat) (paths : List Bytes) (i : Nat) : Prop where
  le : i ≤ paths.length
  patient : ∀ j < i, l.cancelled (n + j) = false
  readable : ∀ path ∈ paths.take i, d.Readable path

namespace Doable

theorem zero (d : Disk) (l : Listener) (n : Nat) (paths : List Bytes) : Doable d l n paths 0 :=
  ⟨Nat.zero_le _, by simp, by simp⟩

theorem succ (hc : l.cancelled n = false) (hr : d.Readable path) (h : Doable d l (n + 1) paths i) :
    Doable d l n (path :: paths) (i + 1) := by
  refine ⟨?_, Listener.not_cancelled_succ_iff.mpr ⟨hc, h.patient⟩, ?_⟩
  · have hle := h.le
    rw [List.length_cons]
    omega
  · rw [List.take_succ_cons]
    exact List.forall_mem_cons.mpr ⟨hr, h.readable⟩

/-- Where a run stops no more can be done. -/
theorem le_of_stopsBefore (h : Doable d l n paths k) (hi : i < paths.length)
    (hstop : StopsBefore l (n + i) d paths[i] f) : k ≤ i := by
  by_contra hlt
  have hik : i < k := by omega
  cases hstop with
  | cancelled hc =>
    rw [h.patient i hik] at hc
    exact Bool.noConfusion hc
  | unreadable _ hr =>
    have hmem : paths[i] ∈ paths.take k := by
      rw [List.mem_take_iff_getElem]
      exact ⟨i, by omega, rfl⟩
    obtain ⟨content, hread⟩ := h.readable _ hmem
    rw [hread] at hr
    exact nomatch hr

end Doable

namespace CountRun

/-- A path with the lines of the file that it leads to. -/
def counted? (d : Disk) (path : Bytes) : Option (Bytes × Nat) :=
  (d.read path).toOption.map fun content => (path, lineCount content)

/-- A count does some files, and then is at the end of the paths or stops before the next. -/
theorem count_stops (d : Disk) (l : Listener) (n : Nat) (paths : List Bytes) :
    ∃ i, Doable d l n paths i ∧
      (count d l n paths).files.map some = (paths.take i).map (counted? d) ∧
      (i = paths.length ∧ (count d l n paths).failure = none ∨
        ∃ (hi : i < paths.length) (f : Failure), StopsBefore l (n + i) d paths[i] f ∧
          (count d l n paths).failure = some f) := by
  induction paths generalizing n with
  | nil => exact ⟨0, .zero d l n [], rfl, Or.inl ⟨rfl, rfl⟩⟩
  | cons path paths ih =>
    rcases stopsBefore_or_read l n d path with ⟨f, hstop⟩ | ⟨hc, content, hr⟩
    · rw [count_cons_of_stopsBefore hstop]
      exact ⟨0, .zero d l n _, rfl, Or.inr ⟨by simp, f, hstop, rfl⟩⟩
    · obtain ⟨i, hdoable, hfiles, hend⟩ := ih (n + 1)
      rw [count_cons_of_read hc hr]
      refine ⟨i + 1, hdoable.succ hc ⟨content, hr⟩, ?_, ?_⟩
      · rw [List.take_succ_cons, List.map_cons, List.map_cons, hfiles]
        simp [counted?, hr, Except.toOption]
      · rcases hend with ⟨hi, hfailure⟩ | ⟨hi, f, hstop, hfailure⟩
        · exact Or.inl ⟨by simp [hi], hfailure⟩
        · refine Or.inr ⟨by simpa using hi, f, ?_, hfailure⟩
          rwa [show n + 1 + i = n + (i + 1) by omega] at hstop

theorem count_files (h : (count d l n paths).failure = none) :
    (count d l n paths).files.map some = paths.map (counted? d) := by
  obtain ⟨i, _, hfiles, ⟨rfl, _⟩ | ⟨_, f, _, hfailure⟩⟩ := count_stops d l n paths
  · rwa [List.take_length] at hfiles
  · simp [hfailure] at h

/-- Whether a count ends well, and what it reports then but for the order, does not depend on the
order of the paths. -/
theorem count_perm (hp : others.Perm paths) (h : (count d l n paths).failure = none) :
    (count d l n others).failure = none ∧
      (count d l n others).files.Perm (count d l n paths).files := by
  have hok : (count d l n others).failure = none := by
    rw [count_failure_eq_none_iff] at h ⊢
    rw [hp.length_eq]
    exact ⟨h.1, fun path hm => h.2 path (hp.mem_iff.mp hm)⟩
  refine ⟨hok, ?_⟩
  have hsome := (hp.map (counted? d)).filterMap id
  rw [← count_files h, ← count_files hok] at hsome
  simpa [List.filterMap_map] using hsome

theorem total_eq (run : CountRun) : run.total = (run.files.map Prod.snd).foldr (· + ·) 0 := by
  rw [total, List.foldr_map]

theorem total_perm (h : other.files.Perm run.files) : other.total = run.total := by
  have hcomm : LeftCommutative fun (file : Bytes × Nat) (n : Nat) => file.2 + n :=
    ⟨fun file file' n => by omega⟩
  exact h.foldr_eq 0

/-- Whether a count did as many of the paths as could be done, `i` of them, and reports these with
their lines, the sum of the lines, and a failure if there were more. -/
structure Tallies (d : Disk) (l : Listener) (paths : List Bytes) (i : Nat) (run : CountRun) :
    Prop where
  doable : Doable d l 0 paths i
  longest : ∀ k, Doable d l 0 paths k → k ≤ i
  files : run.files.map some = (paths.take i).map (counted? d)
  total : run.total = (run.files.map Prod.snd).foldr (· + ·) 0
  progress : run.progress = if l.present then run.files else []
  failure : run.failure ≠ none ↔ i < paths.length

theorem tallies_countLines (d : Disk) (l : Listener) (paths : List Bytes) :
    ∃ i, (countLines d l paths).Tallies d l paths i ∧
      ∀ f, (countLines d l paths).failure = some f →
        ∃ hi : i < paths.length, StopsBefore l i d paths[i] f := by
  have hprogress : (countLines d l paths).progress =
      if l.present then (countLines d l paths).files else [] := count_progress d l 0 paths
  obtain ⟨i, hdoable, hfiles, ⟨hi, hend⟩ | ⟨hi, f, hstop, hfailure⟩⟩ := count_stops d l 0 paths
  · have hnone : (countLines d l paths).failure = none := hend
    refine ⟨i, ⟨hdoable, fun k hk => hi ▸ hk.le, hfiles, total_eq _, hprogress, ?_⟩, ?_⟩
    · simp [hnone, hi]
    · simp [hnone]
  · have hsome : (countLines d l paths).failure = some f := hfailure
    refine ⟨i, ⟨hdoable, fun k hk => hk.le_of_stopsBefore hi hstop, hfiles, total_eq _, hprogress,
      ?_⟩, ?_⟩
    · simp [hsome, hi]
    · intro f' hf'
      obtain rfl : f = f' := Option.some.inj (hsome.symm.trans hf')
      exact ⟨hi, by simpa using hstop⟩

end CountRun

/-- A count leaves the disk as it is. It does the longest part of the paths that comes before the
first that cannot be read and before the cancellation, and its report, its total and its
notifications are about the files of this part, in order; it fails if and only if there are more
paths, and says of the next why it was not done. The paths of a count that ends well can be put in
another order, which puts the report in another order and keeps the total. -/
theorem countLines_counts_longest_part (d : Disk) (l : Listener) (paths : List Bytes) :
    (∃ i, (countLines d l paths).Tallies d l paths i ∧
      (∀ n, l.cancelAfter = some n → (l.present = true ∨ n = 0) → i ≤ n) ∧
      ∀ f, (countLines d l paths).failure = some f →
        ∃ hi : i < paths.length, StopsBefore l i d paths[i] f) ∧
    (∀ term o (t : CommandLine.Transcript), (CommandLine.runCount term o t paths).disk = t.disk) ∧
    ((countLines d l paths).failure = none → ∀ others, others.Perm paths →
      (countLines d l others).failure = none ∧
        (countLines d l others).files.Perm (countLines d l paths).files ∧
        (countLines d l others).total = (countLines d l paths).total) := by
  obtain ⟨i, htallies, hfailure⟩ := CountRun.tallies_countLines d l paths
  refine ⟨⟨i, htallies, fun n hn hl => ?_, hfailure⟩, ?_, fun h others hp => ?_⟩
  · exact Listener.le_of_not_cancelled hn hl (by simpa using htallies.doable.patient)
  · intro term o t
    exact CommandLine.runCount_disk term o t paths
  · obtain ⟨hok, hfiles⟩ := CountRun.count_perm hp h
    exact ⟨hok, hfiles, CountRun.total_perm hfiles⟩

/-- The cancellation after two files comes before the path that leads nowhere. -/
example : (countLines aliased { cancelAfter := some 2 } [[0x66], [0x6C], [0x78]]).files =
    [([0x66], 1), ([0x6C], 1)] := by decide +kernel

end Wordwalk
