import Wordwalk.Operation.Count
import Wordwalk.Proofs.Operation.Replace

/-! Counting lines file by file. -/
namespace Wordwalk.CountRun

variable {d : Disk} {l : Listener} {n : Nat} {path content : Bytes} {paths : List Bytes}

theorem count_cons_of_read (hc : l.cancelled n = false) (hr : d.read path = .ok content) :
    count d l n (path :: paths) =
      { count d l (n + 1) paths with
        files := (path, lineCount content) :: (count d l (n + 1) paths).files
        signals := l.notify path (lineCount content) ++ (count d l (n + 1) paths).signals } := by
  simp [count, hc, hr]

theorem count_cons_failure :
    (count d l n (path :: paths)).failure = none ↔
      l.cancelled n = false ∧ d.Readable path ∧ (count d l (n + 1) paths).failure = none := by
  cases hc : l.cancelled n with
  | true => simp [count, hc]
  | false =>
    cases hr : d.read path with
    | error f => simp [count, hc, hr, Disk.Readable]
    | ok content => simp [count_cons_of_read hc hr, Disk.Readable, hr]

/-- A count ends well if and only if it is never cancelled and every path leads to a file. -/
theorem count_failure_eq_none_iff :
    (count d l n paths).failure = none ↔
      (∀ i < paths.length, l.cancelled (n + i) = false) ∧ ∀ path ∈ paths, d.Readable path := by
  induction paths generalizing n with
  | nil => simp [count]
  | cons path paths ih =>
    simp only [count_cons_failure, ih, List.length_cons, Listener.not_cancelled_succ_iff,
      List.forall_mem_cons]
    constructor
    · rintro ⟨hc, hr, hcs, hrs⟩
      exact ⟨⟨hc, hcs⟩, hr, hrs⟩
    · rintro ⟨⟨hc, hcs⟩, hr, hrs⟩
      exact ⟨hc, hr, hcs, hrs⟩

/-- A count that ends well reports each of its paths, in order. -/
theorem count_files_path (h : (count d l n paths).failure = none) :
    (count d l n paths).files.map Prod.fst = paths := by
  induction paths generalizing n with
  | nil => rfl
  | cons path paths ih =>
    obtain ⟨hc, ⟨content, hr⟩, hrest⟩ := count_cons_failure.mp h
    rw [count_cons_of_read hc hr]
    exact congrArg (path :: ·) (ih hrest)

end Wordwalk.CountRun
