import Mathlib.Data.List.Basic
import Wordwalk.Proofs.Text.Blanks
import Wordwalk.Replacement

/-! A replacement applied twice, when nothing stands between rejoined tokens. The pieces put
together can make a token that was not there, or a blank out of bytes that were none; only then does
the second time change anything. -/
namespace Wordwalk

namespace Replacement

variable {r : Replacement} {p s t v w : Bytes}

theorem find_ne_nil (hv : r.validate = .ok ()) : r.find ≠ [] := by
  intro hfind
  simp [validate, hfind] at hv

/-- A text without blanks is replaced as a whole or not at all. -/
theorem apply_of_hasBlank_eq_false (hfind : r.find ≠ []) (h : hasBlank s = false) :
    r.apply s = r.swap s := by
  by_cases hs : s = []
  · subst hs
    rw [swap, if_neg (Ne.symm hfind)]
    rfl
  · simp [apply, tokens_of_hasBlank_eq_false hs h, Bytes.join]

/-- Whether a replacement puts nothing between tokens, and a text without blanks for one that is not
empty. -/
structure Gluing (r : Replacement) : Prop where
  separator : r.separator = []
  find : r.find ≠ []
  replace : hasBlank r.replace = false

namespace Gluing

theorem apply_append_blank (hr : r.Gluing) (hw : IsBlankRune w) (s t : Bytes) :
    r.apply (s ++ w ++ t) = r.apply s ++ r.apply t := by
  simp only [apply, hr.separator, Bytes.join_nil, tokens_append_blank hw.ne_nil hw.all_isBlank,
    List.map_append, List.flatten_append]

theorem blanks_swap (hr : r.Gluing) (h : hasBlank s = false) : blanks (r.swap s) = 0 := by
  rw [blanks_eq_zero_iff]
  unfold swap
  split
  · exact hr.replace
  · exact h

/-- A replacement takes blanks away, and each of those it makes stands where one was. -/
theorem blanks_apply_le (hr : r.Gluing) (s : Bytes) : blanks (r.apply s) ≤ blanks s := by
  induction s using blank_induction with
  | plain s hs =>
    rw [apply_of_hasBlank_eq_false hr.find hs, hr.blanks_swap hs]
    exact Nat.zero_le _
  | split a w t ha hw ih =>
    have hjoin := blanks_append_le (r.swap a) (r.apply t)
    rw [hr.blanks_swap ha] at hjoin
    rw [hr.apply_append_blank hw, apply_of_hasBlank_eq_false hr.find ha, blanks_append_blank hw]
    omega

/-- If the replacement is longer than the token by the begin of a sequence, it never makes a text
longer by the rest of one. -/
theorem apply_ne_append (hr : r.Gluing) (hp : r.replace = r.find ++ p)
    (hlead : ∃ b ∈ p, Rune.continues 0x80 0xBF b = false) (hne : v ≠ [])
    (hv : ∀ c ∈ v, Rune.continues 0x80 0xBF c = true) (s : Bytes) : r.apply s ≠ v ++ s := by
  induction s using blank_induction generalizing v with
  | plain s hs =>
    rw [apply_of_hasBlank_eq_false hr.find hs, swap]
    split
    · rename_i hfind
      rw [hp, ← hfind]
      exact append_ne_append_of_continues hlead hv
    · intro h
      exact hne (List.self_eq_append_left.mp h)
  | split a w t ha hw ih =>
    intro h
    rw [hr.apply_append_blank hw, apply_of_hasBlank_eq_false hr.find ha, ← List.append_assoc,
      ← List.append_assoc] at h
    obtain ⟨p', v', hp', hne', rfl, _, hrest⟩ :=
      ends_within_blank hw (hr.blanks_swap ha) (hr.blanks_apply_le t) h
    exact ih hne' (hw.of_append hp').2 hrest

/-- A text stays as it is if and only if it has no blank and is not the text to find. -/
theorem apply_eq_self_iff (hr : r.Gluing) (hne : r.replace ≠ r.find) (s : Bytes) :
    r.apply s = s ↔ hasBlank s = false ∧ s ≠ r.find := by
  constructor
  · intro h
    rcases exists_first_blank s with hs | ⟨a, w, t, rfl, ha, hw⟩
    · refine ⟨hs, ?_⟩
      rintro rfl
      rw [apply_of_hasBlank_eq_false hr.find hs, swap, if_pos rfl] at h
      exact hne h
    · exfalso
      rw [hr.apply_append_blank hw, apply_of_hasBlank_eq_false hr.find ha] at h
      obtain ⟨p, v, hp, hv, rfl, hswap, hrest⟩ :=
        ends_within_blank hw (hr.blanks_swap ha) (hr.blanks_apply_le t) h
      obtain ⟨hlead, htail⟩ := hw.of_append hp
      -- The first piece grew into the blank, so it is the text to find; then the rest would have to
      -- grow by what is left of the blank.
      have hreplace : r.replace = r.find ++ p := by
        unfold swap at hswap
        split at hswap
        · rename_i hfind
          rw [hswap, hfind]
        · exact absurd (List.self_eq_append_right.mp hswap) hp
      exact hr.apply_ne_append hreplace hlead hv htail t hrest
  · rintro ⟨hs, hfind⟩
    rw [apply_of_hasBlank_eq_false hr.find hs, swap, if_neg hfind]

end Gluing

/-- A replacement that puts nothing between tokens, and another text without blanks for the text to
find, changes nothing the second time if and only if what it made the first time has no blank and is
not the text to find. -/
theorem apply_apply_eq_iff (hv : r.validate = .ok ()) (hsep : r.separator = [])
    (hblank : hasBlank r.replace = false) (hne : r.replace ≠ r.find) (s : Bytes) :
    r.apply (r.apply s) = r.apply s ↔ hasBlank (r.apply s) = false ∧ r.apply s ≠ r.find := by
  have hr : r.Gluing := ⟨hsep, find_ne_nil hv, hblank⟩
  exact hr.apply_eq_self_iff hne (r.apply s)

/-- The replacement of `ab` by `x` with nothing between tokens. -/
def gluing : Replacement := ⟨[0x61, 0x62], [0x78], []⟩

/-- A token that ends within a rune, before one that is replaced. -/
theorem apply_apply_eq_iff_truncated :
    gluing.validate = .ok () ∧ gluing.separator = [] ∧ hasBlank gluing.replace = false ∧
      gluing.replace ≠ gluing.find ∧
      gluing.apply [0xE2, 0x80, 0x20, 0x61, 0x62] = [0xE2, 0x80, 0x78] ∧
      gluing.apply (gluing.apply [0xE2, 0x80, 0x20, 0x61, 0x62]) =
        gluing.apply [0xE2, 0x80, 0x20, 0x61, 0x62] := by
  have hblank : hasBlank gluing.replace = false := by decide
  have hne : gluing.replace ≠ gluing.find := by decide
  refine ⟨rfl, rfl, hblank, hne, by decide, ?_⟩
  exact (apply_apply_eq_iff rfl rfl hblank hne _).mpr ⟨by decide, by decide⟩

/-- Two tokens that are not the text to find become it when they are rejoined. -/
theorem apply_apply_joined :
    gluing.validate = .ok () ∧ gluing.separator = [] ∧ hasBlank gluing.replace = false ∧
      gluing.replace ≠ gluing.find ∧
      gluing.apply (gluing.apply [0x61, 0x20, 0x62]) ≠ gluing.apply [0x61, 0x20, 0x62] :=
  ⟨rfl, by decide⟩

/-- Two stray bytes become a blank, which is lost the second time. -/
example : gluing.apply [0xC2, 0x20, 0xA0] = [0xC2, 0xA0] ∧ gluing.apply [0xC2, 0xA0] = [] := by
  decide

end Replacement
end Wordwalk
