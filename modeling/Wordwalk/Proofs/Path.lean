import Mathlib.Data.List.Infix
import Mathlib.Data.List.Perm.Subperm
import Wordwalk.Path

/-! Paths as lists of names. Below a directory every file has one path, and its names can be read
off it again. -/
namespace Wordwalk

namespace Bytes

variable {sep : UInt8} {part : Bytes} {parts : List Bytes}

theorem splitOn_append (sep : UInt8) (s t : Bytes) :
    splitOn sep (s ++ sep :: t) = splitOn sep s ++ splitOn sep t := by
  induction s with
  | nil => simp [splitOn]
  | cons b s ih =>
    simp only [List.cons_append, splitOn, ih]
    split
    · rfl
    · cases h : splitOn sep s with
      | nil => exact absurd h (splitOn_ne_nil sep s)
      | cons piece pieces => rfl

theorem splitOn_of_notMem (h : sep ∉ part) : splitOn sep part = [part] := by
  induction part with
  | nil => rfl
  | cons b part ih =>
    have hb : b ≠ sep := fun he => h (by simp [he])
    simp [splitOn, hb, ih fun hm => h (List.mem_cons_of_mem b hm)]

/-- Parts without the separator come back when what they were joined to is split. -/
theorem splitOn_join (hne : parts ≠ []) (h : ∀ part ∈ parts, sep ∉ part) :
    splitOn sep (join [sep] parts) = parts := by
  induction parts with
  | nil => exact absurd rfl hne
  | cons part parts ih =>
    have hpart := splitOn_of_notMem (h part (by simp))
    cases parts with
    | nil => exact hpart
    | cons next parts =>
      have hrest := ih (by simp) fun p hp => h p (by simp [hp])
      rw [join_cons, List.append_assoc, List.singleton_append, splitOn_append, hpart, hrest]
      rfl

theorem join_concat (hne : parts ≠ []) (s part : Bytes) :
    join s (parts ++ [part]) = join s parts ++ s ++ part := by
  induction parts with
  | nil => exact absurd rfl hne
  | cons first parts ih =>
    cases parts with
    | nil => rfl
    | cons next parts =>
      rw [List.cons_append, List.cons_append, join_cons, join_cons, ← List.cons_append,
        ih (by simp)]
      simp

theorem exists_join_concat (s : Bytes) (parts : List Bytes) (part : Bytes) :
    ∃ t, join s (parts ++ [part]) = t ++ part := by
  by_cases hne : parts = []
  · exact ⟨[], by simp [hne, join]⟩
  · exact ⟨_, join_concat hne s part⟩

end Bytes

/-- Things of which each is larger than those before are no more than there are to choose from. -/
theorem length_le_of_climb {α : Type} (size : α → Nat) {climb pool : List α}
    (hclimb : climb.Pairwise fun a b => size a < size b) (hin : ∀ a ∈ climb, a ∈ pool) :
    climb.length ≤ pool.length := by
  have hnodup : climb.Nodup := by
    refine hclimb.imp ?_
    rintro a _ hlt rfl
    exact Nat.lt_irrefl _ hlt
  exact (List.subperm_of_subset hnodup hin).length_le

namespace Path

variable {dir root name : Bytes} {names above : List Bytes}

/-- A name that an entry of a directory can have. -/
def IsName (name : Bytes) : Prop :=
  name ≠ [] ∧ name ≠ [0x2E] ∧ name ≠ [0x2E, 0x2E] ∧ 0x2F ∉ name

/-- What stands before the name of an entry in its path. -/
def stem (dir : Bytes) : Bytes :=
  if dir = [] then [] else if dir.getLast? = some 0x2F then dir else dir ++ [0x2F]

/-- The path that `names` make below `dir`. -/
def under (dir : Bytes) (names : List Bytes) : Bytes := stem dir ++ Bytes.join [0x2F] names

/-- The leading parts of a path, from its first name on up to the whole. -/
def leadingParts (path : Bytes) : List Bytes :=
  (Bytes.splitOn 0x2F path).inits.tail.map (Bytes.join [0x2F])

theorem join_eq (dir name : Bytes) : join dir name = stem dir ++ name := by
  unfold join stem
  split
  · rfl
  · split
    · rfl
    · simp

theorem length_le_stem (dir : Bytes) : dir.length ≤ (stem dir).length := by
  unfold stem
  split
  · rename_i h
    simp [h]
  · split <;> simp

theorem under_singleton (dir name : Bytes) : under dir [name] = join dir name :=
  (join_eq dir name).symm

theorem getLast?_append_name (h : IsName name) (s : Bytes) : (s ++ name).getLast? ≠ some 0x2F := by
  have hne : s ++ name ≠ [] := by simp [h.1]
  intro hl
  rw [List.getLast?_eq_some_getLast hne, List.getLast_append_of_ne_nil _ h.1] at hl
  exact h.2.2.2 (Option.some.inj hl ▸ List.getLast_mem h.1)

/-- A path that ends in a name takes one more slash. -/
theorem stem_append (h : IsName name) (s : Bytes) : stem (s ++ name) = s ++ name ++ [0x2F] := by
  have hne : s ++ name ≠ [] := by simp [h.1]
  rw [stem, if_neg hne, if_neg (getLast?_append_name h s)]

/-- The path of an entry of a sub-directory is its path from the directory above. -/
theorem under_join (h : IsName name) (hne : names ≠ []) (dir : Bytes) :
    under (join dir name) names = under dir (name :: names) := by
  cases names with
  | nil => exact absurd rfl hne
  | cons next names =>
    rw [under, under, join_eq, stem_append h, Bytes.join_cons]
    simp

/-- Different files below a directory have different paths. -/
theorem under_injective {others : List Bytes} (hn : names ≠ []) (ho : others ≠ [])
    (hnames : ∀ part ∈ names, IsName part) (hothers : ∀ part ∈ others, IsName part)
    (h : under root names = under root others) : names = others := by
  have hjoin : Bytes.join [0x2F] names = Bytes.join [0x2F] others := List.append_cancel_left h
  rw [← Bytes.splitOn_join hn fun part hp => (hnames part hp).2.2.2, hjoin]
  exact Bytes.splitOn_join ho fun part hp => (hothers part hp).2.2.2

theorem join_slashed (h : ∀ part ∈ above, IsName part) (name : Bytes) :
    join (Bytes.join [0x2F] above) name = Bytes.join [0x2F] (above ++ [name]) := by
  rcases List.eq_nil_or_concat above with rfl | ⟨init, last, rfl⟩
  · rfl
  · rw [List.concat_eq_append] at h ⊢
    have hjoin := Bytes.join_concat (List.concat_ne_nil last init) [0x2F] name
    obtain ⟨s, hs⟩ := Bytes.exists_join_concat [0x2F] init last
    rw [hjoin, join_eq, hs, stem_append (h last (by simp))]

end Path
end Wordwalk
