import Wordwalk.Text.Blank

/-! Decoding is local: no byte is lost, it restarts at every rune, and it can be cut wherever no
sequence reaches across the cut. -/
namespace Wordwalk

/-- Whether no sequence that began earlier can go on into the text. -/
def Bytes.startsFresh (s : Bytes) : Bool := s.head?.all fun b => !Rune.continues 0x80 0xBF b

namespace Rune

variable {s t : Bytes} {b : UInt8} {r : Rune} {rs before : List Rune}

theorem continues_of_second {c : UInt8} (h : continues (secondLo b) (secondHi b) c = true) :
    continues 0x80 0xBF c = true := by
  have hlo : (0x80 : UInt8) ≤ secondLo b := by
    unfold secondLo
    split
    · decide
    · split <;> decide
  have hhi : secondHi b ≤ (0xBF : UInt8) := by
    unfold secondHi
    split
    · decide
    · split <;> decide
  simp only [continues, Bool.and_eq_true, decide_eq_true_eq] at h ⊢
  exact ⟨UInt8.le_trans hlo h.1, UInt8.le_trans h.2 hhi⟩

theorem following_of_continues (h : continues 0x80 0xBF b = true) : following b = none := by
  simp only [continues, Bool.and_eq_true, decide_eq_true_eq] at h
  have hlo : ¬ b < 0x80 := UInt8.not_lt.mpr h.1
  have hhi : b < 0xC2 := UInt8.lt_of_le_of_lt h.2 (by decide)
  simp [following, hlo, hhi]

/-- More text changes the first rune only if that was cut short and the text can go on with it. -/
theorem first_append (b : UInt8) (s t : Bytes) :
    first b (s ++ t) = first b s ∨ (first b s).code = replacement ∧ t.startsFresh = false := by
  have hsecond : ∀ c, continues (secondLo b) (secondHi b) c = true → continues 0x80 0xBF c = true :=
    fun c => continues_of_second
  -- A lead byte looks at as many bytes as it asks for: only when `s` has fewer is `t` looked at.
  unfold first
  rcases following b with _ | _ | _ | _ | _ | k
  · exact Or.inl rfl
  · exact Or.inl rfl
  · rcases s with _ | ⟨c, s⟩
    · rcases t with _ | ⟨c, t⟩
      · exact Or.inl rfl
      · by_cases hc : continues 0x80 0xBF c = true <;> simp [hc, Bytes.startsFresh]
    · exact Or.inl rfl
  · rcases s with _ | ⟨c, _ | ⟨d, s⟩⟩
    · rcases t with _ | ⟨c, _ | ⟨d, t⟩⟩
      · exact Or.inl rfl
      · exact Or.inl rfl
      · by_cases hc : continues (secondLo b) (secondHi b) c = true
        · exact Or.inr (by simp [hsecond c hc, Bytes.startsFresh])
        · simp [hc]
    · rcases t with _ | ⟨d, t⟩
      · exact Or.inl rfl
      · by_cases hd : continues 0x80 0xBF d = true <;> simp [hd, Bytes.startsFresh]
    · exact Or.inl rfl
  · rcases s with _ | ⟨c, _ | ⟨d, _ | ⟨e, s⟩⟩⟩
    · rcases t with _ | ⟨c, _ | ⟨d, _ | ⟨e, t⟩⟩⟩
      · exact Or.inl rfl
      · exact Or.inl rfl
      · exact Or.inl rfl
      · by_cases hc : continues (secondLo b) (secondHi b) c = true
        · exact Or.inr (by simp [hsecond c hc, Bytes.startsFresh])
        · simp [hc]
    · rcases t with _ | ⟨d, _ | ⟨e, t⟩⟩
      · exact Or.inl rfl
      · exact Or.inl rfl
      · by_cases hd : continues 0x80 0xBF d = true <;> simp [hd, Bytes.startsFresh]
    · rcases t with _ | ⟨e, t⟩
      · exact Or.inl rfl
      · by_cases he : continues 0x80 0xBF e = true <;> simp [he, Bytes.startsFresh]
    · exact Or.inl rfl
  · exact Or.inl rfl

/-- More text changes the first rune only if all that follows its first byte goes on with it. -/
theorem first_append_of_tail (b : UInt8) (s t : Bytes) :
    first b (s ++ t) = first b s ∨ ∀ c ∈ s, continues 0x80 0xBF c = true := by
  have hsecond : ∀ c, continues (secondLo b) (secondHi b) c = true → continues 0x80 0xBF c = true :=
    fun c => continues_of_second
  unfold first
  rcases following b with _ | _ | _ | _ | _ | k
  · exact Or.inl rfl
  · exact Or.inl rfl
  · rcases s with _ | ⟨c, s⟩
    · exact Or.inr (by simp)
    · exact Or.inl rfl
  · rcases s with _ | ⟨c, _ | ⟨d, s⟩⟩
    · exact Or.inr (by simp)
    · by_cases hc : continues (secondLo b) (secondHi b) c = true
      · exact Or.inr (by simp [hsecond c hc])
      · left
        cases t <;> simp [hc]
    · exact Or.inl rfl
  · rcases s with _ | ⟨c, _ | ⟨d, _ | ⟨e, s⟩⟩⟩
    · exact Or.inr (by simp)
    · by_cases hc : continues (secondLo b) (secondHi b) c = true
      · exact Or.inr (by simp [hsecond c hc])
      · left
        rcases t with _ | ⟨d, _ | ⟨e, t⟩⟩ <;> simp [hc]
    · by_cases hc : (continues (secondLo b) (secondHi b) c && continues 0x80 0xBF d) = true
      · rw [Bool.and_eq_true] at hc
        exact Or.inr (by simp [hsecond c hc.1, hc.2])
      · left
        cases t <;> simp [hc]
    · exact Or.inl rfl
  · exact Or.inl rfl

theorem first_bytes (b : UInt8) (s : Bytes) :
    ∃ k, k ≤ s.length ∧ (first b s).bytes = b :: s.take k := by
  unfold first
  split
  · exact ⟨0, by simp⟩
  · split
    · exact ⟨1, by simp⟩
    · exact ⟨0, by simp⟩
  · split
    · exact ⟨2, by simp⟩
    · exact ⟨0, by simp⟩
  · split
    · exact ⟨3, by simp⟩
    · exact ⟨0, by simp⟩
  · exact ⟨0, by simp⟩

/-- How many bytes after its first a rune takes. -/
def width (b : UInt8) (s : Bytes) : Nat := (first b s).bytes.length - 1

theorem width_le (b : UInt8) (s : Bytes) : width b s ≤ s.length := by
  obtain ⟨k, hk, h⟩ := first_bytes b s
  simp [width, h, hk]

theorem first_bytes_append (b : UInt8) (s : Bytes) :
    (first b s).bytes ++ s.drop (width b s) = b :: s := by
  obtain ⟨k, hk, h⟩ := first_bytes b s
  simp [width, h, Nat.min_eq_left hk]

theorem first_bytes_eq (b : UInt8) (s : Bytes) :
    (first b s).bytes = b :: s.take (width b s) := by
  obtain ⟨k, hk, h⟩ := first_bytes b s
  simp [width, h, Nat.min_eq_left hk]

/-- A rune is read from its own bytes. -/
theorem first_take (b : UInt8) (s : Bytes) : first b (s.take (width b s)) = first b s := by
  unfold width first
  rcases following b with _ | _ | _ | _ | _ | k
  · rfl
  · rfl
  · rcases s with _ | ⟨c, s⟩
    · rfl
    · by_cases hc : continues 0x80 0xBF c = true <;> simp [hc]
  · rcases s with _ | ⟨c, _ | ⟨d, s⟩⟩
    · rfl
    · rfl
    · by_cases hc : (continues (secondLo b) (secondHi b) c && continues 0x80 0xBF d) = true <;>
        simp [hc]
  · rcases s with _ | ⟨c, _ | ⟨d, _ | ⟨e, s⟩⟩⟩
    · rfl
    · rfl
    · rfl
    · by_cases hc : (continues (secondLo b) (secondHi b) c && continues 0x80 0xBF d &&
          continues 0x80 0xBF e) = true <;> simp [hc]
  · rfl

/-- The bytes of a rune after its first go on with it. -/
theorem continues_of_mem_tail (b : UInt8) (s : Bytes) :
    ∀ c ∈ s.take (width b s), continues 0x80 0xBF c = true := by
  unfold width first
  split
  · simp
  · split
    · rename_i c _ _ hc
      simpa using hc
    · simp
  · split
    · rename_i c d _ _ hcd
      rw [Bool.and_eq_true] at hcd
      simp [continues_of_second hcd.1, hcd.2]
    · simp
  · split
    · rename_i c d e _ _ hcde
      rw [Bool.and_eq_true, Bool.and_eq_true] at hcde
      simp [continues_of_second hcde.1.1, hcde.1.2, hcde.2]
    · simp
  · simp

@[simp]
theorem decode_nil : decode [] = [] := rfl

theorem decodeFrom_eq (skip : Nat) (s : Bytes) : decodeFrom skip s = decode (s.drop skip) := by
  induction s generalizing skip with
  | nil => simp [decodeFrom]
  | cons b s ih =>
    cases skip with
    | zero => rfl
    | succ skip => simpa [decodeFrom] using ih skip

theorem decode_cons (b : UInt8) (s : Bytes) :
    decode (b :: s) = first b s :: decode (s.drop (width b s)) := by
  rw [decode, decodeFrom, decodeFrom_eq]
  rfl

/-- The bytes of a rune decode to it. -/
theorem decode_first_bytes (b : UInt8) (s : Bytes) : decode (first b s).bytes = [first b s] := by
  have hwidth : width b (s.take (width b s)) = width b s := by
    rw [width, first_take, width]
  rw [first_bytes_eq, decode_cons, first_take, hwidth, List.drop_eq_nil_of_le (List.length_take_le _ _)]
  rfl

/-- Induction over a text rune by rune. -/
theorem decode_induction {P : Bytes → Prop} (nil : P [])
    (cons : ∀ b s, P (s.drop (width b s)) → P (b :: s)) (s : Bytes) : P s := by
  induction hn : s.length using Nat.strongRecOn generalizing s with
  | ind n ih =>
    cases s with
    | nil => exact nil
    | cons b s =>
      refine cons b s (ih _ ?_ _ rfl)
      rw [← hn, List.length_drop, List.length_cons]
      omega

/-- The runes of a text hold its bytes in order. -/
theorem flatten_decode (s : Bytes) : flatten (decode s) = s := by
  induction s using decode_induction with
  | nil => rfl
  | cons b s ih =>
    rw [decode_cons, flatten, List.flatMap_cons]
    change (first b s).bytes ++ flatten (decode (s.drop (width b s))) = b :: s
    rw [ih, first_bytes_append]

theorem exists_of_mem_decode (h : r ∈ decode s) : ∃ b t, r = first b t := by
  induction s using decode_induction with
  | nil => simp at h
  | cons b s ih =>
    rw [decode_cons, List.mem_cons] at h
    rcases h with h | h
    · exact ⟨b, s, h⟩
    · exact ih h

/-- Decoding can be cut before a text that goes on with no earlier sequence, and after a text that
leaves none unfinished. -/
theorem decode_append (h : t.startsFresh = true ∨ ∀ r ∈ decode s, r.code ≠ replacement) :
    decode (s ++ t) = decode s ++ decode t := by
  induction s using decode_induction with
  | nil => simp
  | cons b s ih =>
    have hfirst : first b (s ++ t) = first b s := by
      rcases first_append b s t with hf | ⟨hcode, hfresh⟩
      · exact hf
      · rcases h with h | h
        · simp [hfresh] at h
        · exact absurd hcode (h _ (by simp [decode_cons]))
    have hdrop : (s ++ t).drop (width b s) = s.drop (width b s) ++ t :=
      List.drop_append_of_le_length (width_le b s)
    have hrest := ih (h.imp_right fun hs r hr => hs r (by simp [decode_cons, hr]))
    rw [List.cons_append, decode_cons, decode_cons b s, hfirst]
    rw [show width b (s ++ t) = width b s by simp [width, hfirst], hdrop, hrest]
    rfl

/-- Decoding restarts at every rune. -/
theorem decode_flatten_of_suffix (h : decode s = before ++ rs) : decode (flatten rs) = rs := by
  induction s using decode_induction generalizing before with
  | nil =>
    obtain ⟨rfl, rfl⟩ : before = [] ∧ rs = [] := by simpa using h.symm
    rfl
  | cons b s ih =>
    cases before with
    | nil =>
      rw [List.nil_append] at h
      rw [← h, flatten_decode]
    | cons r before =>
      rw [decode_cons, List.cons_append, List.cons.injEq] at h
      exact ih h.2

end Rune
end Wordwalk
