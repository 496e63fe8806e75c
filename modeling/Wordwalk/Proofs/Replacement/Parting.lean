import Wordwalk.Proofs.Replacement
import Wordwalk.Proofs.Text.Blanks

/-! Replacements that put blanks between tokens. They work token by token, so one that puts in a
single token makes a text in which it finds nothing, and two that have nothing to do with each other
can change places. -/
namespace Wordwalk.Replacement

variable {r r₁ r₂ : Replacement} {s : Bytes} {l : List Bytes}

/-- Whether a replacement puts blanks between tokens. -/
structure Parting (r : Replacement) : Prop where
  separator : r.separator ≠ []
  blank : (Rune.decode r.separator).all Rune.isBlank = true

/-- Whether a replacement puts in a single token. -/
structure PutsToken (r : Replacement) : Prop where
  replace : r.replace ≠ []
  plain : hasBlank r.replace = false

/-- Whether two replacements find different tokens, and neither puts in what the other finds. -/
structure Apart (r₁ r₂ : Replacement) : Prop where
  find : r₁.find ≠ r₂.find
  left : r₁.find ∉ tokens r₂.replace
  right : r₂.find ∉ tokens r₁.replace

theorem run_replacements (r : Replacement) (s : Bytes) :
    (r.run s).replacements = (tokens s).count r.find := by
  rw [List.count_eq_countP]
  exact List.countP_congr fun token _ => by simp

theorem flatMap_successors_of_notMem (h : r.find ∉ l) : l.flatMap r.successors = l := by
  induction l with
  | nil => rfl
  | cons token l ih =>
    rw [List.mem_cons, not_or] at h
    rw [List.flatMap_cons, successors, if_neg (Ne.symm h.1), ih h.2]
    rfl

theorem Parting.tokens_apply (hr : r.Parting) (s : Bytes) :
    tokens (r.apply s) = (tokens s).flatMap r.successors := by
  rw [apply, tokens_join hr.separator hr.blank, List.flatMap_map]
  exact List.flatMap_congr fun token h => tokens_swap h

namespace PutsToken

theorem successors_eq (h : r.PutsToken) (token : Bytes) : r.successors token = [r.swap token] := by
  unfold successors swap
  split
  · exact tokens_of_hasBlank_eq_false h.replace h.plain
  · rfl

theorem tokens_apply (h : r.PutsToken) (hr : r.Parting) (s : Bytes) :
    tokens (r.apply s) = (tokens s).map r.swap := by
  rw [hr.tokens_apply, List.map_eq_flatMap]
  exact List.flatMap_congr fun token _ => h.successors_eq token

/-- What it makes of a text is given by the tokens that it makes. -/
theorem apply_eq_join (h : r.PutsToken) (hr : r.Parting) (s : Bytes) :
    r.apply s = Bytes.join r.separator (tokens (r.apply s)) := by
  rw [h.tokens_apply hr, apply]

theorem find_notMem_tokens_apply (h : r.PutsToken) (hr : r.Parting) (hne : r.replace ≠ r.find)
    (s : Bytes) : r.find ∉ tokens (r.apply s) := by
  rw [h.tokens_apply hr, List.mem_map]
  rintro ⟨token, _, hswap⟩
  unfold swap at hswap
  split at hswap
  · exact hne hswap
  · rename_i htoken
    exact htoken hswap

/-- A text that holds none of what is to be found keeps its tokens, so the second time changes
nothing. -/
theorem apply_apply (h : r.PutsToken) (hr : r.Parting) (hne : r.replace ≠ r.find) (s : Bytes) :
    r.apply (r.apply s) = r.apply s := by
  have htokens : tokens (r.apply (r.apply s)) = tokens (r.apply s) := by
    rw [hr.tokens_apply]
    exact flatMap_successors_of_notMem (h.find_notMem_tokens_apply hr hne s)
  rw [h.apply_eq_join hr (r.apply s), htokens]
  exact (h.apply_eq_join hr s).symm

end PutsToken

namespace Apart

theorem symm (h : r₁.Apart r₂) : r₂.Apart r₁ := ⟨h.find.symm, h.right, h.left⟩

/-- What takes the place of a token does not depend on which of the two comes first. -/
theorem flatMap_successors (h : r₁.Apart r₂) (token : Bytes) :
    (r₁.successors token).flatMap r₂.successors = (r₂.successors token).flatMap r₁.successors := by
  by_cases h₁ : token = r₁.find
  · have hput : (tokens r₁.replace).flatMap r₂.successors = tokens r₁.replace :=
      flatMap_successors_of_notMem h.right
    simp [successors, h₁, h.find, hput]
  · by_cases h₂ : token = r₂.find
    · have hput : (tokens r₂.replace).flatMap r₁.successors = tokens r₂.replace :=
        flatMap_successors_of_notMem h.left
      simp [successors, h₂, h.find.symm, hput]
    · simp [successors, h₁, h₂]

/-- The other makes none of what the one finds, and takes none of it away. -/
theorem count_successors (h : r₁.Apart r₂) (l : List Bytes) :
    (l.flatMap r₂.successors).count r₁.find = l.count r₁.find := by
  induction l with
  | nil => rfl
  | cons token l ih =>
    have hfirst : (r₂.successors token).count r₁.find = [token].count r₁.find := by
      unfold successors
      split
      · rename_i htoken
        rw [List.count_eq_zero_of_not_mem h.left]
        simp [htoken, h.find.symm]
      · rfl
    rw [List.flatMap_cons, List.count_append, ih, hfirst, ← List.count_append]
    rfl

theorem tokens_apply_apply (h : r₁.Apart r₂) (hr₁ : r₁.Parting) (hr₂ : r₂.Parting) (s : Bytes) :
    tokens (r₂.apply (r₁.apply s)) = tokens (r₁.apply (r₂.apply s)) := by
  rw [hr₂.tokens_apply, hr₁.tokens_apply, hr₁.tokens_apply, hr₂.tokens_apply, List.flatMap_assoc,
    List.flatMap_assoc]
  exact List.flatMap_congr fun token _ => h.flatMap_successors token

theorem run_replacements_apply (h : r₁.Apart r₂) (hr₂ : r₂.Parting) (s : Bytes) :
    (r₁.run (r₂.apply s)).replacements = (r₁.run s).replacements := by
  rw [run_replacements, run_replacements, hr₂.tokens_apply, h.count_successors]

end Apart

/-- Two replacements with the same blanks between tokens, of which neither finds what the other
finds or puts in, give the same tokens in either order and replace as many of them. If each puts in
a single token, they give the same text. -/
theorem run_comm (hr₁ : r₁.Parting) (hsep : r₂.separator = r₁.separator) (h : r₁.Apart r₂)
    (s : Bytes) :
    tokens (r₂.run (r₁.run s).content).content = tokens (r₁.run (r₂.run s).content).content ∧
      (r₁.run (r₂.run s).content).replacements = (r₁.run s).replacements ∧
      (r₂.run (r₁.run s).content).replacements = (r₂.run s).replacements ∧
      (r₁.PutsToken → r₂.PutsToken →
        (r₂.run (r₁.run s).content).content = (r₁.run (r₂.run s).content).content) := by
  have hr₂ : r₂.Parting := ⟨hsep ▸ hr₁.separator, hsep ▸ hr₁.blank⟩
  have htokens := h.tokens_apply_apply hr₁ hr₂ s
  refine ⟨htokens, h.run_replacements_apply hr₂ s, h.symm.run_replacements_apply hr₁ s, ?_⟩
  intro h₁ h₂
  calc r₂.apply (r₁.apply s)
    _ = Bytes.join r₂.separator (tokens (r₂.apply (r₁.apply s))) := h₂.apply_eq_join hr₂ _
    _ = Bytes.join r₁.separator (tokens (r₁.apply (r₂.apply s))) := by rw [hsep, htokens]
    _ = r₁.apply (r₂.apply s) := (h₁.apply_eq_join hr₁ _).symm

/-- A replacement of what would finish the rune that `truncating` begins. -/
def finishing : Replacement := ⟨[0xA8], [0x62], [0xE2, 0x80, 0xA8]⟩

theorem parting_truncating : truncating.Parting := ⟨by decide, by decide⟩

theorem apart_truncating_finishing : truncating.Apart finishing :=
  ⟨by decide, by decide, by decide⟩

/-- The separator keeps apart the begin of a rune, which the one puts in, and its end, which the
other finds. -/
theorem run_comm_truncated :
    truncating.Parting ∧ finishing.separator = truncating.separator ∧ truncating.Apart finishing ∧
      truncating.PutsToken ∧ finishing.PutsToken ∧
      (finishing.run (truncating.run [0x61, 0x20, 0xA8]).content).replacements = 1 ∧
      (finishing.run (truncating.run [0x61, 0x20, 0xA8]).content).content =
        (truncating.run (finishing.run [0x61, 0x20, 0xA8]).content).content ∧
      (truncating.run (finishing.run [0x61, 0x20, 0xA8]).content).content =
        [0xE2, 0x80, 0xE2, 0x80, 0xA8, 0x62] := by
  have h₁ : truncating.PutsToken := ⟨by decide, by decide⟩
  have h₂ : finishing.PutsToken := ⟨by decide, by decide⟩
  have hsep : finishing.separator = truncating.separator := rfl
  obtain ⟨_, _, hcount, hcontent⟩ :=
    run_comm parting_truncating hsep apart_truncating_finishing [0x61, 0x20, 0xA8]
  exact ⟨parting_truncating, hsep, apart_truncating_finishing, h₁, h₂, hcount.trans (by decide),
    hcontent h₁ h₂, by decide⟩

/-- A replacement that takes tokens away leaves the separators that stood around them, unless
another follows it. -/
example :
    (Replacement.mk [0x62] [0x63] [0x20]).apply
        ((Replacement.mk [0x61] [] [0x20]).apply [0x61, 0x20, 0x62]) = [0x63] ∧
      (Replacement.mk [0x61] [] [0x20]).apply
        ((Replacement.mk [0x62] [0x63] [0x20]).apply [0x61, 0x20, 0x62]) = [0x20, 0x63] := by
  decide

end Wordwalk.Replacement
