import Wordwalk.Disk.Access
import Wordwalk.Proofs.Disk.Resolve
import Wordwalk.Proofs.Listing

/-! The tree of a disk: what the listing of a directory holds, and what can be reached from it
without following a link. -/
namespace Wordwalk

namespace Bytes

/-- Whether `s` comes before `t` in the order of names. -/
def Precedes (s t : Bytes) : Prop := s ≠ t ∧ le s t = true

theorem le_trans {s t u : Bytes} (hst : le s t = true) (htu : le t u = true) : le s u = true := by
  simp only [le, decide_eq_true_eq] at *
  exact List.le_trans hst htu

theorem le_total (s t : Bytes) : (le s t || le t s) = true := by
  simpa [le] using List.le_total s t

end Bytes

namespace Disk

variable {d : Disk} {dir name : Bytes} {names : List Bytes} {place : Place} {e : Entry}

/-- What a file system keeps to: a place holds one entry, and every entry has a name. -/
structure WellFormed (d : Disk) : Prop where
  distinct : (d.entries.map Prod.fst).Nodup
  named : ∀ e ∈ d.entries, ∀ name ∈ e.1.head?, Nameable name

theorem WellFormed.mem_entries_iff (hd : d.WellFormed) :
    (name :: place, e) ∈ d.entries ↔ d.lookup (name :: place) = some e := by
  have hkeys := hd.distinct
  simp only [lookup]
  generalize d.entries = entries at hkeys ⊢
  induction entries with
  | nil => simp
  | cons first entries ih =>
    obtain ⟨p, old⟩ := first
    rw [List.map_cons, List.nodup_cons] at hkeys
    rw [List.mem_cons, Prod.mk.injEq, List.lookup_cons]
    by_cases hp : name :: place = p
    · subst hp
      have hnot : (name :: place, e) ∉ entries := fun hm => hkeys.1 (List.mem_map.mpr ⟨_, hm, rfl⟩)
      simpa [hnot] using eq_comm
    · have hb : (name :: place == p) = false := by simpa using hp
      simp only [hp, hb, false_and, false_or]
      exact ih hkeys.2

theorem WellFormed.nameable (hd : d.WellFormed) (h : d.lookup (name :: place) = some e) :
    Nameable name :=
  hd.named _ (hd.mem_entries_iff.mpr h) name rfl

theorem WellFormed.mem_children_iff (hd : d.WellFormed) :
    (name, e) ∈ d.children place ↔ d.lookup (name :: place) = some e := by
  rw [← hd.mem_entries_iff, children, List.mem_mergeSort, List.mem_filterMap]
  constructor
  · rintro ⟨⟨p, old⟩, hm, h⟩
    cases p with
    | nil => simp at h
    | cons first parent =>
      simp only [Option.ite_none_right_eq_some, Option.some.injEq, Prod.mk.injEq] at h
      obtain ⟨rfl, rfl, rfl⟩ := h
      exact hm
  · intro hm
    exact ⟨_, hm, by simp⟩

/-- The entries of a directory are listed by name, each once. -/
theorem WellFormed.children_pairwise (hd : d.WellFormed) (place : Place) :
    (d.children place).Pairwise fun a b => Bytes.Precedes a.1 b.1 := by
  have hsorted : (d.children place).Pairwise fun a b => Bytes.le a.1 b.1 = true := by
    apply List.pairwise_mergeSort
    · intro a b c
      exact Bytes.le_trans
    · intro a b
      exact Bytes.le_total a.1 b.1
  have hdistinct : (d.children place).Pairwise fun a b => a.1 ≠ b.1 := by
    refine (List.Perm.pairwise_iff (fun h => Ne.symm h) (List.mergeSort_perm _ _)).mpr ?_
    refine List.Pairwise.filterMap _ ?_ (List.pairwise_map.mp hd.distinct)
    rintro ⟨p, _⟩ ⟨q, _⟩ hne a ha b hb
    cases p with
    | nil => simp at ha
    | cons first parent =>
      cases q with
      | nil => simp at hb
      | cons second parent' =>
        simp only [Option.ite_none_right_eq_some, Option.some.injEq] at ha hb
        obtain ⟨rfl, rfl⟩ := ha
        obtain ⟨rfl, rfl⟩ := hb
        rintro rfl
        exact hne rfl
  exact hdistinct.and hsorted

/-- Whether an entry at `path` is listed as a file: it is no directory and no link that leads to
one. -/
def countsAsFile (d : Disk) (path : Bytes) : Entry → Bool
  | .dir => false
  | .file _ _ => true
  | .link _ => !d.isDir path

/-- The listing of the directory at `place` under the path `dir`. -/
def listing (d : Disk) (dir : Bytes) (place : Place) : Listing where
  dir := dir
  subDirs := ((d.children place).filter fun c => c.2 = .dir).map Prod.fst
  files := ((d.children place).filter fun c => d.countsAsFile (Path.join dir c.1) c.2).map Prod.fst

theorem scan_of_locate (hl : d.locate dir = .ok place) (hp : d.lookup place = some .dir) :
    (d.scan dir).outcome = .ok (d.listing dir place) := by
  have hkind : ∀ c : Bytes × Entry, (!d.isDirLink dir c.1 c.2 && !decide (c.2 = .dir)) =
      d.countsAsFile (Path.join dir c.1) c.2 := by
    rintro ⟨name, e⟩
    cases e <;> simp [isDirLink, countsAsFile]
  simp [scan, hl, hp, listing, List.partition_eq_filter_filter, List.filter_filter, ← hkind]

theorem locate_of_scan {l : Listing} (h : (d.scan dir).outcome = .ok l) :
    ∃ place, d.locate dir = .ok place ∧ d.lookup place = some .dir := by
  unfold scan at h
  cases hl : d.locate dir with
  | error refusal => simp [hl] at h
  | ok place =>
    by_cases hp : d.lookup place = some .dir
    · exact ⟨place, rfl, hp⟩
    · simp [hl, hp] at h

theorem WellFormed.mem_subDirs_iff (hd : d.WellFormed) :
    name ∈ (d.listing dir place).subDirs ↔ d.lookup (name :: place) = some .dir := by
  simp [listing, hd.mem_children_iff]

theorem WellFormed.mem_files_iff (hd : d.WellFormed) :
    name ∈ (d.listing dir place).files ↔
      ∃ e, d.lookup (name :: place) = some e ∧ d.countsAsFile (Path.join dir name) e = true := by
  simp [listing, hd.mem_children_iff]

theorem WellFormed.pairwise_names (hd : d.WellFormed) (place : Place) (p : Bytes × Entry → Bool) :
    (((d.children place).filter p).map Prod.fst).Pairwise Bytes.Precedes :=
  List.pairwise_map.mpr ((hd.children_pairwise place).filter p)

/-- The listing of a directory always makes sense. -/
theorem WellFormed.fault?_listing (hd : d.WellFormed) (dir : Bytes) (place : Place) :
    (d.listing dir place).fault? dir = none := by
  refine Listing.fault?_eq_none_iff.mpr ⟨rfl, ?_, ?_⟩
  · intro name hn
    rcases List.mem_append.mp hn with hn | hn
    · exact (hd.nameable (hd.mem_subDirs_iff.mp hn)).1
    · obtain ⟨e, he, _⟩ := hd.mem_files_iff.mp hn
      exact (hd.nameable he).1
  · refine List.nodup_append.mpr ⟨?_, ?_, ?_⟩
    · exact (hd.pairwise_names place _).imp And.left
    · exact (hd.pairwise_names place _).imp And.left
    · rintro name hn other ho rfl
      obtain ⟨e, he, hfile⟩ := hd.mem_files_iff.mp ho
      rw [hd.mem_subDirs_iff.mp hn, Option.some.injEq] at he
      simp [← he, countsAsFile] at hfile

/-- Whether `names` lead from the directory at a place to an entry, through directories only. -/
inductive Reaches (d : Disk) : Place → List Bytes → Entry → Prop where
  | entry {place : Place} {name : Bytes} {e : Entry} :
      d.lookup (name :: place) = some e → Reaches d place [name] e
  | through {place : Place} {name : Bytes} {names : List Bytes} {e : Entry} :
      d.lookup (name :: place) = some .dir → Reaches d (name :: place) names e →
        Reaches d place (name :: names) e

theorem Reaches.ne_nil (h : d.Reaches place names e) : names ≠ [] := by
  cases h <;> simp

theorem mem_places (h : d.lookup (name :: place) = some e) :
    name :: place ∈ d.entries.map Prod.fst := by
  obtain ⟨before, after, hentries, _⟩ := List.lookup_eq_some_iff.mp h
  simp [hentries]

/-- Directories are nested at most as deeply as there are entries. -/
theorem Reaches.length_le (h : d.Reaches place names e) : names.length ≤ d.depth := by
  -- Each name leads to a place of its own, further down than those before.
  have hplaces : ∃ places : List Place, places.length = names.length ∧
      places.Pairwise (fun p q => p.length < q.length) ∧
      ∀ p ∈ places, place.length < p.length ∧ p ∈ d.entries.map Prod.fst := by
    induction h with
    | @entry place name e he => exact ⟨[name :: place], rfl, by simp, by simpa using mem_places he⟩
    | @through place name names e he _ ih =>
      obtain ⟨places, hlength, hclimb, hin⟩ := ih
      have hlong : ∀ p ∈ places, (name :: place).length < p.length := fun p hp => (hin p hp).1
      refine ⟨(name :: place) :: places, by simp [hlength],
        List.pairwise_cons.mpr ⟨hlong, hclimb⟩, ?_⟩
      intro p hp
      rcases List.mem_cons.mp hp with rfl | hp
      · exact ⟨by simp, mem_places he⟩
      · have hlt := hlong p hp
        rw [List.length_cons] at hlt
        exact ⟨by omega, (hin p hp).2⟩
  obtain ⟨places, hlength, hclimb, hin⟩ := hplaces
  have hle := length_le_of_climb List.length hclimb fun p hp => (hin p hp).2
  rwa [hlength, List.length_map] at hle

end Disk
end Wordwalk
