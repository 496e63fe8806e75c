import Wordwalk.Proofs.Replacement.Parting

/-! Which replacements are valid: those whose text to find is a token of some text. For the others
there is nothing to replace in any text. -/
namespace Wordwalk.Replacement

variable {r : Replacement} {s : Bytes}

theorem validate_eq_ok_iff : r.validate = .ok () ↔ r.find ≠ [] ∧ hasBlank r.find = false := by
  unfold validate
  split
  · rename_i hfind
    simp [hfind]
  · rename_i hfind
    cases hblank : hasBlank r.find with
    | true => simp
    | false => simp [hfind]

theorem exists_fault_iff : (∃ fault, r.validate = .error fault) ↔ r.validate ≠ .ok () := by
  cases r.validate with
  | error fault => simp
  | ok _ => simp

theorem run_replacements_eq_zero_iff : (r.run s).replacements = 0 ↔ r.find ∉ tokens s := by
  rw [run_replacements, List.count_eq_zero]

/-- A replacement is valid if and only if some text has the text to find as a token. It is refused if
and only if no replacement for this text, whatever it puts in its place and between the tokens,
replaces anything in any text. -/
theorem validate_iff_findable (r : Replacement) :
    (r.validate = .ok () ↔ ∃ s, r.find ∈ tokens s) ∧
      ((∃ fault, r.validate = .error fault) ↔
        ∀ r₂ : Replacement, r₂.find = r.find → ∀ s, (r₂.run s).replacements = 0) := by
  have hvalid : r.validate = .ok () ↔ ∃ s, r.find ∈ tokens s :=
    validate_eq_ok_iff.trans exists_mem_tokens_iff.symm
  refine ⟨hvalid, ?_⟩
  rw [exists_fault_iff, ne_eq, hvalid, not_exists]
  constructor
  · intro hnever r₂ hfind s
    rw [run_replacements_eq_zero_iff, hfind]
    exact hnever s
  · intro hzero s
    exact run_replacements_eq_zero_iff.mp (hzero r rfl s)

/-- An information separator makes a text that is refused; a byte that is not UTF-8 does not. -/
example :
    (∃ fault, (Replacement.mk [0x61, 0x1F] [] []).validate = .error fault) ∧
      (Replacement.mk [0x61, 0x85] [] []).validate = .ok () :=
  ⟨⟨_, rfl⟩, rfl⟩

end Wordwalk.Replacement
