import Mathlib.Data.List.Basic
import Wordwalk.Proofs.Text.Token
import Wordwalk.Replacement

/-! What a replacement does to the tokens of a text. -/
namespace Wordwalk.Replacement

variable {r : Replacement}

/-- The tokens that stand in the place of a token once the text is put together again. -/
def successors (r : Replacement) (token : Bytes) : List Bytes :=
  if token = r.find then tokens r.replace else [token]

theorem tokens_swap {s token : Bytes} (h : token ∈ tokens s) :
    tokens (r.swap token) = r.successors token := by
  unfold swap successors
  split
  · rfl
  · exact tokens_of_mem_tokens h

/-- With blanks as the separator a replacement works token by token: each token equal to the text
to find becomes the tokens of its replacement, every other stays, and what is counted are the
tokens and those equal to the text to find. -/
theorem tokens_run_content (hne : r.separator ≠ [])
    (hsep : (Rune.decode r.separator).all Rune.isBlank = true) (s : Bytes) :
    tokens (r.run s).content = (tokens s).flatMap r.successors ∧
      (r.run s).tokens = (tokens s).length ∧
      (r.run s).replacements = (tokens s).count r.find := by
  refine ⟨?_, rfl, ?_⟩
  · have hjoin : tokens (r.apply s) = ((tokens s).map r.swap).flatMap tokens :=
      tokens_join hne hsep _
    rw [List.flatMap_map] at hjoin
    refine hjoin.trans ?_
    exact List.flatMap_congr fun token h => tokens_swap h
  · rw [List.count_eq_countP]
    exact List.countP_congr fun token _ => by simp

/-- A replacement of `a` that ends within a rune, with a line separator between tokens. -/
def truncating : Replacement := ⟨[0x61], [0xE2, 0x80], [0xE2, 0x80, 0xA8]⟩

/-- The token after the replacement would finish its rune but stays a token of its own. -/
theorem tokens_run_content_truncated :
    (Rune.decode truncating.separator).all Rune.isBlank = true ∧
      tokens (truncating.run [0x61, 0x20, 0xA8, 0x0A, 0x62]).content =
        [[0xE2, 0x80], [0xA8], [0x62]] ∧
      (truncating.run [0x61, 0x20, 0xA8, 0x0A, 0x62]).tokens = 3 ∧
      (truncating.run [0x61, 0x20, 0xA8, 0x0A, 0x62]).replacements = 1 := by
  have hsep : (Rune.decode truncating.separator).all Rune.isBlank = true := by decide
  obtain ⟨htokens, hlength, hcount⟩ :=
    tokens_run_content (by decide) hsep [0x61, 0x20, 0xA8, 0x0A, 0x62]
  exact ⟨hsep, htokens.trans (by decide), hlength.trans (by decide), hcount.trans (by decide)⟩

end Wordwalk.Replacement
