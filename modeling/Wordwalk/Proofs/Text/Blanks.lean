import Wordwalk.Proofs.Text.Token

/-! The blank runes of a text. A blank is found wherever its bytes stand, so cutting a text in two
loses at most the one blank that the cut goes through, and a text is parted at its first blank. -/
namespace Wordwalk

open Rune

variable {b : UInt8} {a s t u v w x y : Bytes}

/-- How many runes of a text are blank. -/
def blanks (s : Bytes) : Nat := (decode s).countP Rune.isBlank

/-- Whether a text is one blank rune. -/
def IsBlankRune (w : Bytes) : Prop := ∃ r, decode w = [r] ∧ r.isBlank = true

theorem blanks_eq_zero_iff : blanks s = 0 ↔ hasBlank s = false := by
  simp [blanks, hasBlank, List.countP_eq_zero, List.any_eq_false]

theorem blanks_of_continues (hu : ∀ c ∈ u, continues 0x80 0xBF c = true) (t : Bytes) :
    blanks (u ++ t) = blanks t := by
  induction u with
  | nil => rfl
  | cons c u ih =>
    have hc := following_of_continues (hu c (by simp))
    have hfirst : first c (u ++ t) = ⟨replacement, [c]⟩ := by simp [first, hc]
    have hblank : Rune.isBlank ⟨replacement, [c]⟩ = false := by
      simp [Rune.isBlank, replacement, Wordwalk.isBlank, isWhite]
    rw [← ih fun d hd => hu d (by simp [hd]), List.cons_append, blanks, decode_cons, hfirst]
    simp [width, hfirst, hblank, blanks]

/-- A blank is found at its first byte, whatever that byte stands after. -/
theorem blanks_cons (b : UInt8) (s : Bytes) :
    blanks (b :: s) = (if (first b s).isBlank then 1 else 0) + blanks s := by
  have hskip : blanks s = blanks (s.drop (width b s)) := by
    have hdrop := blanks_of_continues (continues_of_mem_tail b s) (s.drop (width b s))
    rwa [List.take_append_drop] at hdrop
  rw [hskip, blanks, decode_cons, List.countP_cons, blanks, Nat.add_comm]

theorem le_blanks_append (s t : Bytes) : blanks s + blanks t ≤ blanks (s ++ t) := by
  induction s with
  | nil => simp [blanks]
  | cons b s ih =>
    rw [List.cons_append, blanks_cons, blanks_cons]
    cases hb : (first b s).isBlank with
    | false => simp; omega
    | true =>
      have hfirst : first b (s ++ t) = first b s :=
        (first_append b s t).resolve_right fun h => code_ne_of_isBlank hb h.1
      simp [hfirst, hb]
      omega

theorem first_of_ascii (hb : b < 0x80) (s : Bytes) : first b s = ⟨b.toNat, [b]⟩ := by
  simp [first, Rune.following, hb]

/-- A byte that is a blank of its own is one wherever it stands. -/
theorem notMem_of_plain (hb : b < 0x80) (hblank : isBlank b.toNat = true)
    (h : hasBlank s = false) : b ∉ s := by
  intro hmem
  obtain ⟨before, rest, rfl⟩ := List.append_of_mem hmem
  have hfirst : (first b rest).isBlank = true := by
    rw [first_of_ascii hb rest]
    exact hblank
  have hzero : blanks (before ++ b :: rest) = 0 := blanks_eq_zero_iff.mpr h
  have hle := le_blanks_append before (b :: rest)
  rw [blanks_cons, if_pos hfirst] at hle
  omega

/-- Putting two texts together makes at most one blank. -/
theorem blanks_append_le (s t : Bytes) : blanks (s ++ t) ≤ blanks s + blanks t + 1 := by
  induction s with
  | nil => simp [blanks]
  | cons b s ih =>
    rw [List.cons_append, blanks_cons, blanks_cons b s]
    rcases first_append_of_tail b s t with hfirst | hs
    · rw [hfirst]
      omega
    · rw [blanks_of_continues hs]
      split <;> omega

namespace IsBlankRune

theorem ne_nil (h : IsBlankRune w) : w ≠ [] := by
  rintro rfl
  obtain ⟨r, hr, _⟩ := h
  simp at hr

theorem all_isBlank (h : IsBlankRune w) : (decode w).all Rune.isBlank = true := by
  obtain ⟨r, hr, hb⟩ := h
  simp [hr, hb]

theorem blanks_eq_one (h : IsBlankRune w) : blanks w = 1 := by
  obtain ⟨r, hr, hb⟩ := h
  simp [blanks, hr, hb]

/-- A blank rune has a first byte, which goes on with nothing, and others, which go on with it. -/
theorem exists_cons (h : IsBlankRune w) :
    ∃ b u, w = b :: u ∧ continues 0x80 0xBF b = false ∧
      ∀ c ∈ u, continues 0x80 0xBF c = true := by
  obtain ⟨r, hr, hblank⟩ := h
  cases w with
  | nil => simp at hr
  | cons b u =>
    rw [decode_cons, List.cons.injEq] at hr
    obtain ⟨rfl, hrest⟩ := hr
    have hdrop : u.drop (width b u) = [] := by
      rw [← flatten_decode (u.drop (width b u)), hrest]
      rfl
    refine ⟨b, u, rfl, ?_, ?_⟩
    · simpa [Bytes.startsFresh] using startsFresh_of_isBlank hblank []
    · have htail := continues_of_mem_tail b u
      rwa [List.take_of_length_le (List.drop_eq_nil_iff.mp hdrop)] at htail

/-- Of a blank rune cut in two the front begins a sequence and the rest only goes on with it. -/
theorem of_append (h : IsBlankRune (u ++ v)) (hne : u ≠ []) :
    (∃ b ∈ u, continues 0x80 0xBF b = false) ∧ ∀ c ∈ v, continues 0x80 0xBF c = true := by
  obtain ⟨b, rest, hb, hlead, htail⟩ := h.exists_cons
  cases u with
  | nil => exact absurd rfl hne
  | cons c u =>
    obtain ⟨rfl, rfl⟩ := List.cons.inj hb
    exact ⟨⟨c, by simp, hlead⟩, fun d hd => htail d (List.mem_append_right u hd)⟩

end IsBlankRune

/-- A blank rune inside a text counts, whatever stands around it. -/
theorem blanks_append_blank (hw : IsBlankRune w) (s t : Bytes) :
    blanks (s ++ w ++ t) = blanks s + 1 + blanks t := by
  rw [blanks, decode_append_blank hw.ne_nil hw.all_isBlank, List.countP_append,
    List.countP_append, ← hw.blanks_eq_one]
  rfl

/-- If a text without blanks begins a text with one, and what goes on after it has no more blanks
than what goes on after that blank, then it ends within the blank. -/
theorem ends_within_blank (hw : IsBlankRune w) (hx : blanks x = 0) (hy : blanks y ≤ blanks t)
    (h : x ++ y = a ++ w ++ t) :
    ∃ p v, p ≠ [] ∧ v ≠ [] ∧ w = p ++ v ∧ x = a ++ p ∧ y = v ++ t := by
  have hone := hw.blanks_eq_one
  rcases List.append_eq_append_iff.mp h with ⟨v, haw, hvt⟩ | ⟨v, hxv, _⟩
  · have hv : blanks v = 0 := by
      have hle := le_blanks_append v t
      rw [hvt] at hy
      omega
    rcases List.append_eq_append_iff.mp haw with ⟨p, hxp, hwp⟩ | ⟨p, _, hvp⟩
    · refine ⟨p, v, ?_, ?_, hwp, hxp, hvt⟩
      · rintro rfl
        rw [List.nil_append] at hwp
        rw [hwp] at hone
        omega
      · rintro rfl
        have hle := le_blanks_append a w
        rw [haw, List.append_nil] at hle
        omega
    · have hle := le_blanks_append p w
      rw [← hvp] at hle
      omega
  · have hcount := blanks_append_blank hw a v
    rw [← hxv] at hcount
    omega

/-- What is put after a text and begins a sequence is not the same as what is put before it and
begins none. -/
theorem append_ne_append_of_continues (hu : ∃ b ∈ u, continues 0x80 0xBF b = false)
    (hv : ∀ c ∈ v, continues 0x80 0xBF c = true) : s ++ u ≠ v ++ s := by
  intro h
  have hcount := congrArg (List.countP fun c => !continues 0x80 0xBF c) h
  have hnone : v.countP (fun c => !continues 0x80 0xBF c) = 0 := by
    simpa [List.countP_eq_zero] using hv
  have hsome : 0 < u.countP (fun c => !continues 0x80 0xBF c) := by
    obtain ⟨b, hb, hlead⟩ := hu
    exact List.countP_pos_iff.mpr ⟨b, hb, by simp [hlead]⟩
  rw [List.countP_append, List.countP_append] at hcount
  omega

/-- A text has no blank, or a first one. -/
theorem exists_first_blank (s : Bytes) :
    hasBlank s = false ∨
      ∃ a w t, s = a ++ w ++ t ∧ hasBlank a = false ∧ IsBlankRune w := by
  induction s using decode_induction with
  | nil => exact Or.inl rfl
  | cons b s ih =>
    have hs : b :: s = (first b s).bytes ++ s.drop (width b s) := (first_bytes_append b s).symm
    cases hb : (first b s).isBlank with
    | true => exact Or.inr ⟨[], _, _, hs, rfl, first b s, decode_first_bytes b s, hb⟩
    | false =>
      rcases ih with hrest | ⟨a, w, t, hrest, ha, hw⟩
      · left
        rw [hasBlank, decode_cons, List.any_cons, hb, Bool.false_or]
        exact hrest
      · right
        have hparts : b :: s = (first b s).bytes ++ a ++ w ++ t := by
          rw [hs, hrest]
          simp
        refine ⟨(first b s).bytes ++ a, w, t, hparts, ?_, hw⟩
        rw [← blanks_eq_zero_iff] at ha ⊢
        have hall : blanks (b :: s) = blanks (s.drop (width b s)) := by
          simp [blanks, decode_cons, hb]
        rw [hrest, blanks_append_blank hw, ha, hparts, blanks_append_blank hw] at hall
        omega

/-- Induction over a text from blank to blank. -/
theorem blank_induction {P : Bytes → Prop} (plain : ∀ s, hasBlank s = false → P s)
    (split : ∀ a w t, hasBlank a = false → IsBlankRune w → P t → P (a ++ w ++ t)) (s : Bytes) :
    P s := by
  induction hn : s.length using Nat.strongRecOn generalizing s with
  | ind n ih =>
    rcases exists_first_blank s with hs | ⟨a, w, t, rfl, ha, hw⟩
    · exact plain s hs
    · refine split a w t ha hw (ih _ ?_ t rfl)
      have hpos := List.length_pos_iff.mpr hw.ne_nil
      simp only [List.length_append] at hn
      omega

end Wordwalk
