import Wordwalk.Walk

/-! How deep a walk may go is seen only by a walk that is stopped for it: every other walk is the
same at every greater depth. -/
namespace Wordwalk

namespace Walk

variable {v w : Walk}

theorem andThen_stop (v w : Walk) : (v.andThen w).stop = v.stop.or w.stop := by
  unfold andThen
  cases hv : v.stop <;> simp [hv]

@[simp]
theorem andThen_stop_eq_none_iff (v w : Walk) :
    (v.andThen w).stop = none ↔ v.stop = none ∧ w.stop = none := by
  rw [andThen_stop, Option.or_eq_none_iff]

theorem andThen_files (h : v.stop = none) : (v.andThen w).files = v.files ++ w.files := by
  simp [andThen, h]

theorem andThen_scanned (h : v.stop = none) :
    (v.andThen w).scanned = v.scanned ++ w.scanned := by
  simp [andThen, h]

theorem andThen_of_stop {stop : Stop} (h : v.stop = some stop) (w : Walk) : v.andThen w = v := by
  simp [andThen, h]

end Walk

namespace Walker

variable {w : Walker} {depth deeper : Nat} {scanned names : List Bytes} {dir rel root name : Bytes}
  {listing : Listing}

/-- How a walk goes on below a directory when `depth` more levels are allowed. -/
def below (w : Walker) : Nat → List Bytes → Bytes → Bytes → Walk
  | 0 => fun _ _ _ => { stop := some .tooDeep }
  | depth + 1 => w.visit depth

/-- Whether the walk goes into a directory: it is not cancelled before, and what the scanner gives
is a listing that makes sense. -/
def Opens (w : Walker) (scanned : List Bytes) (dir : Bytes) (listing : Listing) : Prop :=
  w.cancelled scanned.length = false ∧ (w.scanner scanned dir).outcome = .ok listing ∧
    listing.fault? dir = none

/-- A walk past a name that a pattern takes. -/
def pass (path : Bytes) : Walk where
  events := [{ message := "directory ignored by pattern", fields := [("dir", .text path)] }]

@[simp]
theorem pass_stop (path : Bytes) : (pass path).stop = none := rfl

@[simp]
theorem pass_scanned (path : Bytes) : (pass path).scanned = [] := rfl

@[simp]
theorem pass_files (path : Bytes) : (pass path).files = [] := rfl

theorem visitAll_cons_of_ignored {visit : List Bytes → Bytes → Bytes → Walk}
    (h : ignored w.ignore (Path.join rel name) = true) :
    w.visitAll visit dir rel scanned (name :: names) =
      (pass (Path.join rel name)).andThen (w.visitAll visit dir rel scanned names) := by
  rw [visitAll, if_pos h]
  rfl

theorem visitAll_cons_of_kept {visit : List Bytes → Bytes → Bytes → Walk}
    (h : ignored w.ignore (Path.join rel name) = false) :
    w.visitAll visit dir rel scanned (name :: names) =
      (visit scanned (Path.join dir name) (Path.join rel name)).andThen
        (w.visitAll visit dir rel
          (scanned ++ (visit scanned (Path.join dir name) (Path.join rel name)).scanned)
          names) := by
  rw [visitAll, if_neg (by simp [h])]

theorem visit_of_opens (h : w.Opens scanned dir listing) :
    w.visit depth scanned dir rel =
      Walk.andThen
        { scanned := [dir], events := (w.scanner scanned dir).events
          files := w.keptFiles dir rel listing }
        (w.visitAll (w.below depth) dir rel (scanned ++ [dir]) listing.subDirs) := by
  obtain ⟨hc, ho, hf⟩ := h
  unfold visit
  cases depth <;> simp [hc, ho, hf, below]

/-- Why a walk that scans a directory does not go into it. -/
def refusal? (w : Walker) (scanned : List Bytes) (dir : Bytes) : Option Failure :=
  match (w.scanner scanned dir).outcome with
  | .error failure => some (.within ("scanning " ++ dir) failure)
  | .ok listing => (listing.fault? dir).map (.listing dir)

theorem visit_of_cancelled (h : w.cancelled scanned.length = true) :
    w.visit depth scanned dir rel =
      { stop := some (.failed (.within ("walking " ++ dir) .canceled)) } := by
  unfold visit
  rw [if_pos h]

theorem visit_of_refusal {f : Failure} (hc : w.cancelled scanned.length = false)
    (h : w.refusal? scanned dir = some f) :
    w.visit depth scanned dir rel =
      { scanned := [dir], events := (w.scanner scanned dir).events, stop := some (.failed f) } := by
  unfold refusal? at h
  unfold visit
  cases ho : (w.scanner scanned dir).outcome with
  | error failure =>
    simp only [ho, Option.some.injEq] at h
    simp [hc, ho, h]
  | ok listing =>
    simp only [ho, Option.map_eq_some_iff] at h
    obtain ⟨fault, hf, rfl⟩ := h
    simp [hc, ho, hf]

/-- A walk goes into a directory, or is cancelled before it, or has a reason not to. -/
theorem opens_or_refusal (w : Walker) (scanned : List Bytes) (dir : Bytes) :
    (∃ listing, w.Opens scanned dir listing) ∨ w.cancelled scanned.length = true ∨
      w.cancelled scanned.length = false ∧ ∃ f, w.refusal? scanned dir = some f := by
  cases hc : w.cancelled scanned.length with
  | true => exact Or.inr (Or.inl rfl)
  | false =>
    cases ho : (w.scanner scanned dir).outcome with
    | error failure => exact Or.inr (Or.inr ⟨rfl, _, by rw [refusal?, ho]⟩)
    | ok listing =>
      cases hf : listing.fault? dir with
      | some fault => exact Or.inr (Or.inr ⟨rfl, .listing dir fault, by simp [refusal?, ho, hf]⟩)
      | none => exact Or.inl ⟨listing, hc, ho, hf⟩

theorem visit_scanned_head? (hc : w.cancelled scanned.length = false) :
    (w.visit depth scanned dir rel).scanned.head? = some dir := by
  rcases w.opens_or_refusal scanned dir with ⟨listing, hw⟩ | hcancel | ⟨_, f, hf⟩
  · rw [visit_of_opens hw]
    rfl
  · rw [hc] at hcancel
    exact Bool.noConfusion hcancel
  · rw [visit_of_refusal hc hf]
    rfl

/-- A walk that does not go into a directory ends there, whatever its depth. -/
theorem opens_or_visit_eq (w : Walker) (scanned : List Bytes) (dir rel : Bytes) :
    (∃ listing, w.Opens scanned dir listing) ∨
      ∃ early : Walk, early.stop ≠ none ∧ ∀ depth, w.visit depth scanned dir rel = early := by
  rcases w.opens_or_refusal scanned dir with hopens | hc | ⟨hc, f, hf⟩
  · exact Or.inl hopens
  · exact Or.inr ⟨_, by simp, fun _ => visit_of_cancelled hc⟩
  · exact Or.inr ⟨_, by simp, fun _ => visit_of_refusal hc hf⟩

/-- Ways to walk that agree unless the first is stopped for its depth give the same walk of a
directory's names unless that is. -/
theorem visitAll_congr {visit visit' : List Bytes → Bytes → Bytes → Walk}
    (hvisit : ∀ scanned dir rel, (visit scanned dir rel).stop ≠ some .tooDeep →
      visit' scanned dir rel = visit scanned dir rel)
    (h : (w.visitAll visit dir rel scanned names).stop ≠ some .tooDeep) :
    w.visitAll visit' dir rel scanned names = w.visitAll visit dir rel scanned names := by
  induction names generalizing scanned with
  | nil => rfl
  | cons name names ih =>
    cases hi : ignored w.ignore (Path.join rel name) with
    | true =>
      rw [visitAll_cons_of_ignored hi, Walk.andThen_stop, pass_stop, Option.none_or] at h
      rw [visitAll_cons_of_ignored hi, visitAll_cons_of_ignored hi, ih h]
    | false =>
      rw [visitAll_cons_of_kept hi, Walk.andThen_stop] at h
      rw [visitAll_cons_of_kept hi, visitAll_cons_of_kept hi]
      have hfirst := hvisit scanned (Path.join dir name) (Path.join rel name)
      cases hs : (visit scanned (Path.join dir name) (Path.join rel name)).stop with
      | some stop =>
        rw [hs, Option.some_or] at h
        rw [hfirst (hs ▸ h), Walk.andThen_of_stop hs, Walk.andThen_of_stop hs]
      | none =>
        rw [hs, Option.none_or] at h
        rw [hfirst (by simp [hs]), ih h]

theorem visit_of_below
    (hbelow : ∀ scanned dir rel, (w.below depth scanned dir rel).stop ≠ some .tooDeep →
      w.below deeper scanned dir rel = w.below depth scanned dir rel)
    (h : (w.visit depth scanned dir rel).stop ≠ some .tooDeep) :
    w.visit deeper scanned dir rel = w.visit depth scanned dir rel := by
  rcases w.opens_or_visit_eq scanned dir rel with ⟨listing, ho⟩ | ⟨early, _, hearly⟩
  · rw [visit_of_opens ho, Walk.andThen_stop, Option.none_or] at h
    rw [visit_of_opens ho, visit_of_opens ho, visitAll_congr hbelow h]
  · rw [hearly, hearly]

/-- A walk that is not stopped for its depth is the same at every greater depth. -/
theorem visit_of_le (h : (w.visit depth scanned dir rel).stop ≠ some .tooDeep)
    (hle : depth ≤ deeper) : w.visit deeper scanned dir rel = w.visit depth scanned dir rel := by
  induction depth generalizing deeper scanned dir rel with
  | zero => exact visit_of_below (fun _ _ _ hs => absurd rfl hs) h
  | succ depth ih =>
    cases deeper with
    | zero => exact absurd hle (Nat.not_succ_le_zero depth)
    | succ deeper => exact visit_of_below (fun _ _ _ hs => ih hs (Nat.le_of_succ_le_succ hle)) h

theorem enumerate_stop (w : Walker) (depth : Nat) (root : Bytes) :
    (w.enumerate depth root).stop = (w.visit depth [] root []).stop := by
  unfold enumerate
  cases h : (w.visit depth [] root []).stop <;> simp [h]

theorem enumerate_scanned (w : Walker) (depth : Nat) (root : Bytes) :
    (w.enumerate depth root).scanned = (w.visit depth [] root []).scanned := by
  unfold enumerate
  cases hs : (w.visit depth [] root []).stop <;> simp [hs]

/-- An enumeration that ended early has no files. -/
theorem enumerate_files_of_stop (h : (w.enumerate depth root).stop ≠ none) :
    (w.enumerate depth root).files = [] := by
  rw [enumerate_stop] at h
  obtain ⟨stop, hs⟩ := Option.ne_none_iff_exists'.mp h
  simp [enumerate, hs]

/-- An enumeration that is not stopped for its depth is the same at every greater depth. -/
theorem enumerate_of_le (h : (w.enumerate depth root).stop ≠ some .tooDeep)
    (hle : depth ≤ deeper) : w.enumerate deeper root = w.enumerate depth root := by
  rw [enumerate_stop] at h
  unfold enumerate
  rw [visit_of_le h hle]

end Walker
end Wordwalk
