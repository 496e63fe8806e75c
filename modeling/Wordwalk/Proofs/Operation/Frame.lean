import Wordwalk.Proofs.Operation.Stop

/-! What a run of replacements leaves alone, however it ends: every entry stays with its kind, its
mode and its target, and only files to which one of the paths leads may hold something else. No walk
sees such a change. -/
namespace Wordwalk

namespace Disk

variable {d : Disk} {f : Place → Bytes → Bytes} {paths : List Bytes}

end Disk

variable {d : Disk} {r : Replacement} {l : Listener} {dry : Bool} {n : Nat} {paths : List Bytes}
  {place : Place}

/-- A run changes contents at most, and only where its paths lead. -/
theorem ReplaceRun.exists_disk_eq_mapContents (r : Replacement) (l : Listener) (dry : Bool) (n : Nat)
    (d : Disk) (paths : List Bytes) :
    ∃ f, (replace r { dryRun := dry, listener := l } n d paths).disk = d.mapContents f ∧
      ∀ place, (∀ path ∈ paths, d.locate path ≠ .ok place) → f place = id := by
  induction paths generalizing n d with
  | nil => exact ⟨fun _ => id, by simp [replace], fun _ _ => rfl⟩
  | cons path paths ih =>
    rcases replace_cons_cases r l dry n d path paths with
      ⟨events, f, _, hrun⟩ | ⟨content, _, _, _, hrun⟩
    · rw [hrun]
      exact ⟨fun _ => id, by simp [stopped], fun _ _ => rfl⟩
    · rw [hrun, after_disk]
      cases dry with
      | true =>
        obtain ⟨f, hdisk, hf⟩ := ih (n + 1) d
        exact ⟨f, hdisk, fun place h => hf place fun other ho => h other (by simp [ho])⟩
      | false =>
        obtain ⟨g, hedit, hg⟩ := d.exists_edit_eq_mapContents r.apply path
        obtain ⟨f, hdisk, hf⟩ := ih (n + 1) (d.edit r.apply path)
        refine ⟨fun place => f place ∘ g place, ?_, fun place h => ?_⟩
        · rw [← Disk.mapContents_mapContents, ← hedit]
          exact hdisk
        · have hrest : f place = id := by
            refine hf place fun other ho => ?_
            rw [Disk.locate_edit]
            exact h other (by simp [ho])
          show f place ∘ g place = id
          rw [hrest, hg place (h path (by simp)), Function.id_comp]

/-- A run changes nothing at a place to which none of its paths leads. -/
theorem ReplaceRun.lookup_replace (h : ∀ path ∈ paths, d.locate path ≠ .ok place) :
    (replace r { dryRun := dry, listener := l } n d paths).disk.lookup place = d.lookup place := by
  obtain ⟨f, hdisk, hf⟩ := exists_disk_eq_mapContents r l dry n d paths
  rw [hdisk, Disk.lookup_mapContents, hf place h]
  simp

end Wordwalk
