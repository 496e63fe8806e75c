import Mathlib.Data.List.Basic
import Wordwalk.Proofs.Text.Token

/-! When the tokens of joined texts are these texts. What stands between two texts keeps their tokens
apart if it is blank, even where the first ends within a rune and the second begins with the rest of
one. -/
namespace Wordwalk

variable {w : Bytes} {parts : List Bytes}

theorem tokens_append_iff :
    (∀ a b, tokens (a ++ w ++ b) = tokens a ++ tokens b) ↔
      w ≠ [] ∧ (Rune.decode w).all Rune.isBlank = true := by
  constructor
  · intro h
    refine ⟨?_, ?_⟩
    · rintro rfl
      -- Two letters with nothing between them are one token.
      exact absurd (h [0x61] [0x62]) (by decide)
    · rw [← tokens_eq_nil_iff]
      calc tokens w
        _ = tokens ([] ++ w ++ []) := by rw [List.nil_append, List.append_nil]
        _ = [] := h [] []
  · rintro ⟨hne, hw⟩ a b
    exact tokens_append_blank hne hw a b

theorem flatMap_tokens_of_plain (h : ∀ part ∈ parts, part ≠ [] ∧ hasBlank part = false) :
    parts.flatMap tokens = parts := by
  have hpart : ∀ part ∈ parts, tokens part = [part] := by
    intro part hm
    obtain ⟨hne, hplain⟩ := h part hm
    exact tokens_of_hasBlank_eq_false hne hplain
  calc parts.flatMap tokens
    _ = parts.flatMap fun part => [part] := List.flatMap_congr hpart
    _ = parts := List.flatMap_singleton' parts

theorem tokens_join_eq_iff (hne : w ≠ []) (hw : (Rune.decode w).all Rune.isBlank = true) :
    tokens (Bytes.join w parts) = parts ↔ ∀ part ∈ parts, part ≠ [] ∧ hasBlank part = false := by
  constructor
  · intro h part hm
    rw [← h] at hm
    exact exists_mem_tokens_iff.mp ⟨_, hm⟩
  · intro h
    rw [tokens_join hne hw]
    exact flatMap_tokens_of_plain h

/-- A text keeps the tokens before it apart from those after it, whatever stands around it, if and
only if it is not empty and all its runes are blank. Texts joined by it are then the tokens of the
whole if and only if none of them is empty and none has a blank. -/
theorem tokens_parted_iff (w : Bytes) :
    ((∀ a b, tokens (a ++ w ++ b) = tokens a ++ tokens b) ↔
        w ≠ [] ∧ (Rune.decode w).all Rune.isBlank = true) ∧
      (w ≠ [] → (Rune.decode w).all Rune.isBlank = true → ∀ parts : List Bytes,
        tokens (Bytes.join w parts) = parts ↔
          ∀ part ∈ parts, part ≠ [] ∧ hasBlank part = false) := by
  refine ⟨tokens_append_iff, ?_⟩
  intro hne hw parts
  exact tokens_join_eq_iff hne hw

/-- A line separator and a space stand between the two halves of another line separator, which would
be a blank if nothing stood between them. -/
theorem tokens_parted_iff_halves :
    (Rune.decode [0xE2, 0x80, 0xA8, 0x20]).all Rune.isBlank = true ∧
      tokens ([0x61, 0xE2, 0x80] ++ [0xE2, 0x80, 0xA8, 0x20] ++ [0xA8, 0x62]) =
        [[0x61, 0xE2, 0x80], [0xA8, 0x62]] ∧
      tokens ([0x61, 0xE2, 0x80] ++ [0xA8, 0x62]) = [[0x61], [0x62]] ∧
      tokens (Bytes.join [0xE2, 0x80, 0xA8, 0x20] [[0x61, 0xE2, 0x80], [0xA8, 0x62], [0xC2]]) =
        [[0x61, 0xE2, 0x80], [0xA8, 0x62], [0xC2]] := by
  have hne : ([0xE2, 0x80, 0xA8, 0x20] : Bytes) ≠ [] := by simp
  have hw : (Rune.decode [0xE2, 0x80, 0xA8, 0x20]).all Rune.isBlank = true := by decide
  obtain ⟨happend, hjoin⟩ := tokens_parted_iff [0xE2, 0x80, 0xA8, 0x20]
  refine ⟨hw, ?_, by decide, ?_⟩
  · exact (happend.mpr ⟨hne, hw⟩ [0x61, 0xE2, 0x80] [0xA8, 0x62]).trans (by decide)
  · exact (hjoin hne hw _).mpr (by decide)

end Wordwalk
