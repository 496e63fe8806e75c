import Wordwalk.Proofs.Replacement.Twice
import Wordwalk.Proofs.Text.Utf8

/-! What is left of well-formed text once its tokens are rejoined with nothing between them: one
token at most. Whatever is replaced in it later is replaced as a whole or not at all. -/
namespace Wordwalk.Replacement

variable {r r₂ : Replacement} {s : Bytes}

/-- In well-formed text no blank is made where tokens meet. -/
theorem Gluing.hasBlank_apply (hr : r.Gluing) (hutf8 : r.replace.isUtf8 = true)
    (hs : s.isUtf8 = true) : hasBlank (r.apply s) = false := by
  have hparts : ∀ part ∈ (tokens s).map r.swap, part.isUtf8 = true ∧ hasBlank part = false := by
    intro part hpart
    obtain ⟨token, htoken, rfl⟩ := List.mem_map.mp hpart
    unfold swap
    split
    · exact ⟨hutf8, hr.replace⟩
    · exact ⟨isUtf8_of_mem_tokens hs htoken, hasBlank_of_mem_tokens htoken⟩
  rw [apply, hr.separator, Bytes.join_nil]
  exact hasBlank_flatten (fun part h => (hparts part h).1) fun part h => (hparts part h).2

theorem tokens_of_plain (h : hasBlank s = false) : tokens s = if s = [] then [] else [s] := by
  split
  · rename_i hs
    rw [hs]
    rfl
  · rename_i hs
    exact tokens_of_hasBlank_eq_false hs h

/-- A text without blanks is left to a later replacement as one token, which is either the text to
find or stays. -/
theorem apply_of_plain (hv : r₂.validate = .ok ()) (h : hasBlank s = false) :
    r₂.apply s = if s = r₂.find then r₂.replace else s :=
  apply_of_hasBlank_eq_false (find_ne_nil hv) h

/-- A replacement that puts nothing between tokens makes of well-formed text a text without blanks,
which has no token if it is empty and itself as its only token if not. A later replacement, whatever
it puts between tokens, only looks whether this text is the text to find; and the same replacement
changes it if and only if it is and the replacement is another text. -/
theorem apply_leaves_single_token (hv : r.validate = .ok ()) (hsep : r.separator = [])
    (hblank : hasBlank r.replace = false) (hutf8 : r.replace.isUtf8 = true) (hs : s.isUtf8 = true) :
    hasBlank (r.apply s) = false ∧
      tokens (r.apply s) = (if r.apply s = [] then [] else [r.apply s]) ∧
      (∀ r₂ : Replacement, r₂.validate = .ok () →
        r₂.apply (r.apply s) = if r.apply s = r₂.find then r₂.replace else r.apply s) ∧
      (r.apply (r.apply s) ≠ r.apply s ↔ r.apply s = r.find ∧ r.replace ≠ r.find) := by
  have hr : r.Gluing := ⟨hsep, find_ne_nil hv, hblank⟩
  have hplain : hasBlank (r.apply s) = false := hr.hasBlank_apply hutf8 hs
  refine ⟨hplain, tokens_of_plain hplain, fun r₂ hv₂ => apply_of_plain hv₂ hplain, ?_⟩
  rw [apply_of_plain hv hplain]
  split
  · rename_i hfind
    simp [hfind]
  · rename_i hfind
    simp [hfind]

/-- The line separator between `a` and `b` is lost, and what is left is the text to find. -/
theorem apply_leaves_single_token_found :
    gluing.validate = .ok () ∧ gluing.separator = [] ∧ hasBlank gluing.replace = false ∧
      gluing.replace.isUtf8 = true ∧ Bytes.isUtf8 [0x61, 0xE2, 0x80, 0xA8, 0x62] = true ∧
      tokens (gluing.apply [0x61, 0xE2, 0x80, 0xA8, 0x62]) = [[0x61, 0x62]] ∧
      gluing.apply (gluing.apply [0x61, 0xE2, 0x80, 0xA8, 0x62]) = gluing.replace ∧
      gluing.apply (gluing.apply [0x61, 0xE2, 0x80, 0xA8, 0x62]) ≠
        gluing.apply [0x61, 0xE2, 0x80, 0xA8, 0x62] := by
  have hblank : hasBlank gluing.replace = false := by decide
  have hutf8 : gluing.replace.isUtf8 = true := by decide
  have hs : Bytes.isUtf8 [0x61, 0xE2, 0x80, 0xA8, 0x62] = true := by decide
  obtain ⟨_, htokens, hlater, hagain⟩ := apply_leaves_single_token rfl rfl hblank hutf8 hs
  exact ⟨rfl, rfl, hblank, hutf8, hs, htokens.trans (by decide),
    (hlater gluing rfl).trans (by decide), hagain.mpr (by decide)⟩

end Wordwalk.Replacement
