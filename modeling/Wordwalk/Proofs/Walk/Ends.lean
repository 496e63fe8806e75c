import Wordwalk.Proofs.Disk.Enumerate
import Wordwalk.Proofs.Walk.Cancel
import Wordwalk.Proofs.Walk.Distinct
import Wordwalk.Proofs.Walk.Tour

/-! Every walk comes to an end. Nothing bounds how deep it goes but the listings: each one that is
answered is for a longer path than the one before, and on a disk each directory lies below the one
before, as no link is followed. -/
namespace Wordwalk

namespace Walker

variable {scan : Bytes → Scan} {ignore keys dirs names : List Bytes} {depth : Nat}
  {dir rel root : Bytes} {w : Walker} {cancelAfter : Option Nat}

/-- Whether the walk from `root` ends by itself within `depth` levels of directories, so that it
would be the same without a bound. -/
def EndsWithin (w : Walker) (depth : Nat) (root : Bytes) : Prop :=
  (w.enumerate depth root).stop ≠ some .tooDeep ∧
    ∀ deeper, depth ≤ deeper → w.enumerate deeper root = w.enumerate depth root

theorem endsWithin_iff :
    w.EndsWithin depth root ↔ (w.enumerate depth root).stop ≠ some .tooDeep :=
  ⟨And.left, fun h => ⟨h, fun _ => enumerate_of_le h⟩⟩

theorem Covers.stop_ne_tooDeep {v : Walk} (h : Covers scan dirs v) : v.stop ≠ some .tooDeep := by
  cases h with
  | all _ _ hstop => simp [hstop]
  | upTo _ _ _ _ hstop => simp [hstop]

/-- All directories that were scanned could be walked, but perhaps the last one. -/
theorem Covers.mem_keys_of_mem_dropLast {v : Walk} (hkeys : AnswersIn scan keys)
    (h : Covers scan dirs v) : ∀ dir ∈ v.scanned.dropLast, dir ∈ keys := by
  have hopen : ∀ dir, (∀ f, ¬ Refuses scan dir f) → dir ∈ keys := by
    intro dir hnone
    rcases opens_or_refuses scan dir with ⟨listing, ho, _⟩ | ⟨f, hf⟩
    · exact hkeys dir listing ho
    · exact absurd hf (hnone f)
  intro dir hd
  cases h with
  | all hdirs hscanned _ =>
    rw [hscanned] at hd
    exact hopen dir (hdirs dir (List.mem_of_mem_dropLast hd))
  | upTo _ hbefore _ hscanned _ =>
    rw [hscanned, List.dropLast_concat] at hd
    exact hopen dir (hbefore dir hd)

/-- A walk within the depth of its tour ends by itself, whether it is cancelled or not. -/
theorem endsWithin_of_leads (hw : make (fun _ => scan) ignore cancelAfter = .ok w)
    (h : ∀ names, Leads scan ignore root [] names → names.length ≤ depth) :
    w.EndsWithin depth root := by
  obtain rfl := eq_of_make hw
  have hall : ((steady scan ignore).enumerate depth root).stop ≠ some .tooDeep := by
    rw [enumerate_stop]
    exact (visit_covers h).stop_ne_tooDeep
  rw [endsWithin_iff]
  cases cancelAfter with
  | none => exact hall
  | some n => exact (enumerate_cut _ ignore n depth root).stop_ne_tooDeep hall

/-- No directory is scanned twice, and only the last can be one that could not be listed. -/
theorem length_scanned_le (hkeys : AnswersIn scan keys)
    (hw : make (fun _ => scan) ignore cancelAfter = .ok w) (root : Bytes) :
    (w.enumerate keys.length root).scanned.length ≤ keys.length + 1 := by
  obtain rfl := eq_of_make hw
  have hall : ((steady scan ignore).enumerate keys.length root).scanned.length ≤
      keys.length + 1 := by
    rw [enumerate_scanned]
    have hcovers : Covers scan _ ((steady scan ignore).visit keys.length [] root []) :=
      visit_covers fun names hl => hl.length_le hkeys
    have hnodup := ((steady scan ignore).visit_charts keys.length [] root []).nodup
    have hscanned := (List.nodup_append.mp hnodup).1.sublist (List.dropLast_sublist _)
    have hle := (List.subperm_of_subset hscanned (hcovers.mem_keys_of_mem_dropLast hkeys)).length_le
    rw [List.length_dropLast] at hle
    omega
  cases cancelAfter with
  | none => exact hall
  | some n =>
    exact Nat.le_trans (enumerate_cut _ ignore n keys.length root).length_scanned_le hall

end Walker

namespace Disk

open Walker

variable {d : Disk} {ignore names : List Bytes} {dir rel : Bytes} {place : Place}

/-- What a walk of a disk can come to is reached through directories alone. -/
theorem WellFormed.reaches_of_leads (hd : d.WellFormed) (hl : d.locate dir = .ok place)
    (h : Leads d.scan ignore dir rel names) (hne : names ≠ []) : d.Reaches place names .dir := by
  induction h generalizing place with
  | here => exact absurd rfl hne
  | @on dir rel name names listing ho _ hn _ h ih =>
    obtain ⟨place', hl', hp⟩ := locate_of_scan ho
    obtain rfl : place = place' := Except.ok.inj (hl.symm.trans hl')
    rw [scan_of_locate hl hp, Except.ok.injEq] at ho
    subst ho
    have he := hd.mem_subDirs_iff.mp hn
    cases h with
    | here => exact .entry he
    | on ho' _ _ _ _ =>
      obtain ⟨_, hl', _⟩ := locate_of_scan ho'
      have hshort := (locate_eq_ok_iff.mp hl').2.2.1
      exact .through he (ih (locate_join hl hp (hd.nameable he) he hshort) (by simp))

theorem WellFormed.length_le_of_leads (hd : d.WellFormed)
    (h : Leads d.scan ignore dir rel names) : names.length ≤ d.depth := by
  cases h with
  | here => exact Nat.zero_le _
  | on ho hf hn hi h =>
    obtain ⟨place, hl, _⟩ := locate_of_scan ho
    exact (hd.reaches_of_leads hl (.on ho hf hn hi h) (by simp)).length_le

end Disk

namespace Walker

/-- A walk of finitely many listings ends within as many levels of directories, however they name
each other, and asks for at most one listing more than there are. A walk of a disk ends within as
many levels as the disk has entries, wherever its links lead. -/
theorem enumerate_ends (ignore : List Bytes) (cancelAfter : Option Nat) (root : Bytes) :
    (∀ (scan : Bytes → Scan) (keys : List Bytes) (w : Walker), AnswersIn scan keys →
      make (fun _ => scan) ignore cancelAfter = .ok w →
        w.EndsWithin keys.length root ∧
          (w.enumerate keys.length root).scanned.length ≤ keys.length + 1) ∧
    ∀ (d : Disk) (w : Walker), d.WellFormed → d.walker ignore cancelAfter = .ok w →
      w.EndsWithin d.depth root := by
  constructor
  · intro scan keys w hkeys hw
    exact ⟨endsWithin_of_leads hw fun names hl => hl.length_le hkeys,
      length_scanned_le hkeys hw root⟩
  · intro d w hd hw
    exact endsWithin_of_leads hw fun names hl => hd.length_le_of_leads hl

/-- Two directories each of which is said to hold a directory of the name `a`. -/
def endless : List (Bytes × Except Failure Listing) :=
  [([0x61], .ok ⟨[0x61], [[0x61]], []⟩),
    ([0x61, 0x2F, 0x61], .ok ⟨[0x61, 0x2F, 0x61], [[0x61]], []⟩)]

/-- The bound on the scans is met where the last listing is missing. A link to the directory above
and one to itself do not keep a walk from its end. -/
theorem enumerate_ends_endless :
    (steady (ofListings endless) []).EndsWithin 2 [0x61] ∧
      ((steady (ofListings endless) []).enumerate 2 [0x61]).scanned.length = 3 ∧
      Disk.linked.WellFormed ∧
      (steady Disk.linked.scan []).EndsWithin Disk.linked.depth [0x2E] := by
  have hd : Disk.linked.WellFormed :=
    ⟨by decide, by simp [Disk.linked, Disk.Nameable, Path.IsName, Disk.nameLimit]⟩
  have hkeys := answersIn_ofListings endless
  obtain ⟨hends, hle⟩ := (enumerate_ends [] none [0x61]).1 _ _ _ hkeys rfl
  have hge : 3 ≤ ((steady (ofListings endless) []).enumerate 2 [0x61]).scanned.length := by
    decide +kernel
  exact ⟨hends, Nat.le_antisymm hle hge, hd, (enumerate_ends [] none [0x2E]).2 _ _ hd rfl⟩

end Walker
end Wordwalk
