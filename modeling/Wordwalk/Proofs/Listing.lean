import Wordwalk.Listing
import Wordwalk.Proofs.Path

/-! When a listing makes sense: it is for the directory that was asked for, and its entries have
names of their own, no two the same. -/
namespace Wordwalk.Listing

variable {l : Listing} {dir name : Bytes} {kind : Kind} {seen : List Bytes}
  {entries : List (Kind × Bytes)}

theorem nameFault_eq_none_iff : nameFault kind name = none ↔ Path.IsName name := by
  unfold nameFault Path.IsName
  by_cases hempty : name = []
  · simp [hempty]
  by_cases hdot : name = [0x2E] ∨ name = [0x2E, 0x2E]
  · rcases hdot with rfl | rfl <;> simp
  by_cases hslash : 0x2F ∈ name
  · simp [hempty, hdot, hslash]
  · simpa [hempty, hdot, hslash] using not_or.mp hdot

theorem entryFault_cons :
    entryFault seen ((kind, name) :: entries) =
      (nameFault kind name).or
        (if name ∈ seen then some (.repeated name) else entryFault (name :: seen) entries) := by
  conv_lhs => whnf
  cases nameFault kind name <;> rfl

theorem entryFault_eq_none_iff :
    entryFault seen entries = none ↔
      (∀ name ∈ entries.map Prod.snd, Path.IsName name ∧ name ∉ seen) ∧
        (entries.map Prod.snd).Nodup := by
  induction entries generalizing seen with
  | nil => exact ⟨fun _ => by simp, fun _ => rfl⟩
  | cons e entries ih =>
    obtain ⟨kind, name⟩ := e
    rw [entryFault_cons, Option.or_eq_none_iff, nameFault_eq_none_iff, List.map_cons,
      List.forall_mem_cons, List.nodup_cons]
    by_cases hseen : name ∈ seen
    · simp [hseen]
    rw [if_neg hseen, ih]
    constructor
    · rintro ⟨hname, hall, hnodup⟩
      refine ⟨⟨⟨hname, hseen⟩, fun other ho => ?_⟩, fun hm => ?_, hnodup⟩
      · exact ⟨(hall other ho).1, fun hs => (hall other ho).2 (List.mem_cons_of_mem _ hs)⟩
      · exact (hall name hm).2 (by simp)
    · rintro ⟨⟨⟨hname, _⟩, hall⟩, hnew, hnodup⟩
      refine ⟨hname, fun other ho => ⟨(hall other ho).1, fun hs => ?_⟩, hnodup⟩
      rcases List.mem_cons.mp hs with rfl | hs
      · exact hnew ho
      · exact (hall other ho).2 hs

/-- A listing has no fault if it is for the directory, and its entries have names, each once. -/
theorem fault?_eq_none_iff :
    l.fault? dir = none ↔
      l.dir = dir ∧ (∀ name ∈ l.subDirs ++ l.files, Path.IsName name) ∧
        (l.subDirs ++ l.files).Nodup := by
  have hnames : l.entries.map Prod.snd = l.subDirs ++ l.files := by
    simp [entries, Function.comp_def]
  unfold fault?
  by_cases hdir : l.dir = dir
  · rw [if_neg (not_not.mpr hdir), entryFault_eq_none_iff, hnames]
    simp [hdir]
  · simp [hdir]

end Wordwalk.Listing
