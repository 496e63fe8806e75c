import Wordwalk.Proofs.Operation.Replace
import Wordwalk.Proofs.Replacement.Parting
import Wordwalk.Proofs.Text.Spacing

/-! What the status of a file says about the text that it held. A file in which no token was replaced
is unchanged if its tokens stood as the replacement puts them together, and reformatted if not. -/
namespace Wordwalk.ReplaceRun

variable {r : Replacement} {path s : Bytes}

theorem apply_of_find_notMem (h : r.find ∉ tokens s) :
    r.apply s = Bytes.join r.separator (tokens s) := by
  have hswap : ∀ token ∈ tokens s, r.swap token = token := by
    intro token htoken
    have hne : token ≠ r.find := fun he => h (he ▸ htoken)
    rw [Replacement.swap, if_neg hne]
  rw [Replacement.apply, List.map_congr_left hswap, List.map_id']

/-- Of the three statuses a file has the one that its text calls for. -/
theorem outcomeOf_status_cases (r : Replacement) (path s : Bytes) :
    r.find ∈ tokens s ∧ (outcomeOf r path s).status = .rewritten ∨
      r.find ∉ tokens s ∧ Bytes.join r.separator (tokens s) ≠ s ∧
        (outcomeOf r path s).status = .reformatted ∨
      r.find ∉ tokens s ∧ Bytes.join r.separator (tokens s) = s ∧
        (outcomeOf r path s).status = .unchanged := by
  have hstatus : (outcomeOf r path s).status =
      FileStatus.of (r.run s).replacements (r.run s).modified := rfl
  have hcount := r.run_replacements s
  by_cases hfind : r.find ∈ tokens s
  · have hpos : 0 < (tokens s).count r.find := List.count_pos_iff.mpr hfind
    left
    refine ⟨hfind, ?_⟩
    rw [hstatus, hcount, FileStatus.of, if_pos (by omega)]
  · have hzero : (tokens s).count r.find = 0 := List.count_eq_zero_of_not_mem hfind
    have happly := apply_of_find_notMem hfind
    right
    by_cases hsame : Bytes.join r.separator (tokens s) = s
    · have hmodified : (r.run s).modified = false := by
        simp [Replacement.run, happly, hsame]
      right
      refine ⟨hfind, hsame, ?_⟩
      rw [hstatus, hcount, hzero, hmodified]
      rfl
    · have hmodified : (r.run s).modified = true := by
        simp [Replacement.run, happly, hsame]
      left
      refine ⟨hfind, hsame, ?_⟩
      rw [hstatus, hcount, hzero, hmodified]
      rfl

theorem status_eq_rewritten_iff :
    (outcomeOf r path s).status = .rewritten ↔ r.find ∈ tokens s := by
  rcases outcomeOf_status_cases r path s with ⟨hfind, h⟩ | ⟨hfind, _, h⟩ | ⟨hfind, _, h⟩
  · simp [h, hfind]
  · simp [h, hfind]
  · simp [h, hfind]

theorem status_eq_unchanged_iff :
    (outcomeOf r path s).status = .unchanged ↔
      r.find ∉ tokens s ∧ Bytes.join r.separator (tokens s) = s := by
  rcases outcomeOf_status_cases r path s with ⟨hfind, h⟩ | ⟨hfind, hjoin, h⟩ | ⟨hfind, hjoin, h⟩
  · simp [h, hfind]
  · simp [h, hjoin]
  · simp [h, hfind, hjoin]

theorem status_eq_reformatted_iff :
    (outcomeOf r path s).status = .reformatted ↔
      r.find ∉ tokens s ∧ Bytes.join r.separator (tokens s) ≠ s := by
  rcases outcomeOf_status_cases r path s with ⟨hfind, h⟩ | ⟨hfind, hjoin, h⟩ | ⟨hfind, hjoin, h⟩
  · simp [h, hfind]
  · simp [h, hfind, hjoin]
  · simp [h, hjoin]

/-- There is one way to cut a text into its tokens and the blanks around them, and it settles the
status that a run with blanks or nothing between tokens reports. A file is rewritten if the text to
find is one of its tokens. If not it is unchanged if no blanks stand before the first token or after
the last and those between each two are the separator, which is to say that there are no blanks if
the separator is empty; and it is reformatted in every other case. -/
theorem status_of_cut (hsep : (Rune.decode r.separator).all Rune.isBlank = true)
    (path s : Bytes) :
    (∃ c : Cut Rune, c.Of Rune.isBlank (Rune.decode s) ∧
      (∀ c' : Cut Rune, c'.Of Rune.isBlank (Rune.decode s) → c' = c) ∧
      ((outcomeOf r path s).status = .rewritten ↔ r.find ∈ tokens s) ∧
      ((outcomeOf r path s).status = .unchanged ↔
        r.find ∉ tokens s ∧ c.SpacedBy r.separator) ∧
      ((outcomeOf r path s).status = .reformatted ↔
        r.find ∉ tokens s ∧ ¬ c.SpacedBy r.separator) ∧
      (r.separator = [] → (c.SpacedBy r.separator ↔ hasBlank s = false))) ∧
    ∀ (l : Listener) (dry : Bool) (n : Nat) (d : Disk) (paths : List Bytes),
      l.cancelled n = false → d.read path = .ok s → d.barred? (access dry) path = none →
        (replace r { dryRun := dry, listener := l } n d (path :: paths)).files.head? =
          some (outcomeOf r path s) := by
  obtain ⟨c, hc⟩ := Cut.exists_of Rune.isBlank (Rune.decode s)
  have hspaced : Bytes.join r.separator (tokens s) = s ↔ c.SpacedBy r.separator :=
    hc.join_tokens_eq_iff hsep
  constructor
  · refine ⟨c, hc, fun c' hc' => hc'.unique hc, status_eq_rewritten_iff, ?_, ?_, ?_⟩
    · rw [status_eq_unchanged_iff, hspaced]
    · rw [status_eq_reformatted_iff, ne_eq, hspaced]
    · intro hnil
      rw [hnil]
      exact hc.spacedBy_nil_iff
  · intro l dry n d paths hl hread hbar
    rw [replace_cons_of_read hl hread hbar]
    rfl

/-- A replacement of `x` with a line separator between tokens. -/
def ruling : Replacement := ⟨[0x78], [0x79], [0xE2, 0x80, 0xA8]⟩

/-- A token that ends within a rune is followed by the separator; one more blank at the end and the
text is no longer as the replacement puts it together. -/
theorem status_of_cut_truncated :
    (Rune.decode ruling.separator).all Rune.isBlank = true ∧
      (outcomeOf ruling [0x66] [0xE2, 0x80, 0xE2, 0x80, 0xA8, 0x61]).status = .unchanged ∧
      (outcomeOf ruling [0x66] [0xE2, 0x80, 0xE2, 0x80, 0xA8, 0x61, 0x20]).status = .reformatted ∧
      (∃ c : Cut Rune, c.Of Rune.isBlank (Rune.decode [0xE2, 0x80, 0xE2, 0x80, 0xA8, 0x61]) ∧
        c.SpacedBy ruling.separator) ∧
      ∃ c : Cut Rune, c.Of Rune.isBlank (Rune.decode [0xE2, 0x80, 0xE2, 0x80, 0xA8, 0x61, 0x20]) ∧
        ¬ c.SpacedBy ruling.separator := by
  have hsep : (Rune.decode ruling.separator).all Rune.isBlank = true := by decide
  obtain ⟨⟨c, hc, _, _, hunchanged, _⟩, _⟩ :=
    status_of_cut hsep [0x66] [0xE2, 0x80, 0xE2, 0x80, 0xA8, 0x61]
  obtain ⟨⟨c', hc', _, _, _, hreformatted, _⟩, _⟩ :=
    status_of_cut hsep [0x66] [0xE2, 0x80, 0xE2, 0x80, 0xA8, 0x61, 0x20]
  exact ⟨hsep, rfl, rfl, ⟨c, hc, (hunchanged.mp rfl).2⟩, c', hc', (hreformatted.mp rfl).2⟩

end Wordwalk.ReplaceRun
