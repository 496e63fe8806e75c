import Wordwalk.Glob.Class
import Wordwalk.Proofs.Glob.Plain
import Wordwalk.Proofs.Text.Rune

/-! Matching against a clear class stops between two of its members, and what is left of the pattern
from there on is as well formed as what follows the class. -/
namespace Wordwalk.Glob

open Rune

variable {s t cls members bar : Bytes} {depth : Nat} {b : UInt8}

theorem isOrdinary_of_continues (h : continues 0x80 0xBF b = true) :
    IsOrdinary b ∧ b ≠ 0x5D := by
  refine ⟨⟨?_, ?_, ?_, ?_⟩, ?_⟩ <;>
    · rintro rfl
      exact absurd h (by decide)

/-- A rune of the members of a class ends among them. -/
theorem width_le_members (b : UInt8) (members s : Bytes) :
    width b (members ++ 0x5D :: s) ≤ members.length := by
  by_contra hlong
  have hmem : 0x5D ∈ (members ++ 0x5D :: s).take (width b (members ++ 0x5D :: s)) := by
    obtain ⟨k, hk⟩ : ∃ k, width b (members ++ 0x5D :: s) = members.length + (k + 1) :=
      ⟨width b (members ++ 0x5D :: s) - members.length - 1, by omega⟩
    rw [hk, List.take_length_add_append, List.take_succ_cons]
    simp
  exact absurd (continues_of_mem_tail b _ _ hmem) (by decide)

theorem Members.drop (h : Members bar members) (k : Nat)
    (htail : ∀ c ∈ members.take k, continues 0x80 0xBF c = true) :
    Members bar (members.drop k) := by
  induction k generalizing members with
  | zero => exact h
  | succ k ih =>
    cases h with
    | nil => exact .nil
    | escape b h => exact absurd (htail 0x5C (by simp)) (by decide)
    | byte _ _ _ h => exact ih h fun c hc => htail c (by simp [hc])

/-- What is left after the first rune of a text within a class are members, and what follows the
class. -/
theorem Members.exists_drop_width (h : Members bar members) (b : UInt8) (s : Bytes) :
    ∃ more, Members bar more ∧
      (members ++ 0x5D :: s).drop (width b (members ++ 0x5D :: s)) = more ++ 0x5D :: s := by
  have hle := width_le_members b members s
  refine ⟨members.drop (width b (members ++ 0x5D :: s)), h.drop _ fun c hc => ?_,
    List.drop_append_of_le_length hle⟩
  apply continues_of_mem_tail b (members ++ 0x5D :: s)
  rwa [List.take_append_of_le_length hle]

/-- The next member can be read, and then those after it are left. -/
theorem Members.exists_literal (h : Members bar members) (hne : members ≠ []) (s : Bytes) :
    ∃ more, Members bar more ∧ (literal (members ++ 0x5D :: s)).2 = more ++ 0x5D :: s := by
  cases h with
  | nil => exact absurd rfl hne
  | escape b h =>
    obtain ⟨more, hmore, hdrop⟩ := h.exists_drop_width b s
    exact ⟨more, hmore, hdrop⟩
  | @byte b members hslash _ _ h =>
    obtain ⟨more, hmore, hdrop⟩ := h.exists_drop_width b s
    refine ⟨more, hmore, ?_⟩
    have hhead : ¬ ((b :: members) ++ 0x5D :: s).head? = some 0x5C := by simpa using hslash
    rw [literal, if_neg hhead]
    exact hdrop

theorem Members.ne_nil (h : members ++ 0x5D :: s = b :: t) (hb : b ≠ 0x5D) : members ≠ [] := by
  rintro rfl
  exact hb (List.cons.inj h).1.symm

/-- After a hyphen that stands between two members the second can be read. -/
theorem Members.exists_range (h : Members bar members)
    (ht : members ++ 0x5D :: s = 0x2D :: t) (hhead : t.head? ≠ some 0x5D) :
    ∃ more, Members bar more ∧ (literal t).2 = more ++ 0x5D :: s := by
  have hne := Members.ne_nil ht (by decide)
  cases h with
  | nil => exact absurd rfl hne
  | escape => simp at ht
  | @byte b members _ _ _ h =>
    obtain ⟨rfl, rfl⟩ := List.cons.inj ht
    refine h.exists_literal ?_ s
    rintro rfl
    exact hhead rfl

/-- Reading the members of a class stops within it, and if none matches at its end. -/
theorem Members.exists_stop (h : Members bar members) (x : Nat) (low : Option Nat) (s : Bytes) :
    ∃ more, Members bar more ∧ (scanMembers x low (members ++ 0x5D :: s)).2 = more ++ 0x5D :: s ∧
      ((scanMembers x low (members ++ 0x5D :: s)).1 = false → more = []) := by
  generalize ht : members ++ 0x5D :: s = t
  fun_induction scanMembers x low t generalizing members with
  | case1 => simp at ht
  | case2 low t =>
    cases h with
    | nil => exact ⟨[], .nil, ht.symm, fun _ => rfl⟩
    | escape => simp at ht
    | byte _ hclose => exact absurd (List.cons.inj ht).1 hclose
  | case3 low b t _ hrange _ =>
    obtain ⟨rfl, _, _, hhead⟩ := hrange
    obtain ⟨more, hmore, hstop⟩ := h.exists_range ht hhead
    exact ⟨more, hmore, hstop, fun hf => Bool.noConfusion hf⟩
  | case4 low b t _ hrange _ ih =>
    obtain ⟨rfl, _, _, hhead⟩ := hrange
    obtain ⟨more, hmore, hstop⟩ := h.exists_range ht hhead
    exact ih hmore hstop.symm
  | case5 low b t hclose _ _ =>
    obtain ⟨more, hmore, hstop⟩ := h.exists_literal (Members.ne_nil ht hclose) s
    exact ⟨more, hmore, ht ▸ hstop, fun hf => Bool.noConfusion hf⟩
  | case6 low b t hclose _ _ ih =>
    obtain ⟨more, hmore, hstop⟩ := h.exists_literal (Members.ne_nil ht hclose) s
    simpa using ih hmore (ht ▸ hstop.symm)

/-- A clear class is not found to be broken. If it takes a code point, the pattern goes on after it;
if it does not, what is left from the place where reading stopped is as well formed as that. -/
theorem IsClass.matchClass_cases (h : IsClass depth cls) (x : Nat) (s : Bytes) :
    matchClass x (cls ++ s) = .hit s ∨
      ∃ stop, matchClass x (cls ++ s) = .miss stop ∧ wellFormed stop = wellFormed s := by
  have hne := h.ne_nil
  obtain ⟨members, hbody, hm⟩ := h
  have hbody' : classBody (cls ++ s) = some (members ++ 0x5D :: s) := by
    simpa using (classBody_append_iff (t := s) hne (by simp)).mpr hbody
  obtain ⟨more, hmore, hstop, hend⟩ := hm.exists_stop x none s
  have hnegated : ((cls ++ s).head? == some 0x5E || (cls ++ s).head? == some 0x21) =
      isNegated cls := isNegated_append hne s
  generalize hscan : scanMembers x none (members ++ 0x5D :: s) = r at hstop hend
  obtain ⟨found, stop⟩ := r
  obtain rfl : stop = more ++ 0x5D :: s := hstop
  have hclose : IsOrdinary 0x5D := by decide
  simp only [matchClass, hbody', hscan, hnegated]
  by_cases hsame : found = isNegated cls
  · right
    refine ⟨more ++ 0x5D :: s, by simp [hsame], ?_⟩
    have hmore : balanced 0 (more ++ 0x5D :: s) = balanced 0 (0x5D :: s) := by
      cases hn : isNegated cls with
      | true =>
        rw [hn] at hmore
        exact hmore.balanced_append (List.subset_append_right _ _) 0 _
      | false => rw [hend (hsame.trans hn), List.nil_append]
    rw [wellFormed, hmore, balanced_byte hclose, wellFormed]
  · left
    rw [if_neg (by simpa using hsame), hmore.append_tail]

end Wordwalk.Glob
