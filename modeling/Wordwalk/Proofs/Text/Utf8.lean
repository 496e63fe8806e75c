import Wordwalk.Proofs.Text.Token

/-! Texts of well-formed UTF-8. No sequence goes on into such a text from what stands before it, so
texts put together decode as they do alone. -/
namespace Wordwalk

open Rune

variable {s t token : Bytes} {parts : List Bytes}

theorem startsFresh_of_isUtf8 (h : t.isUtf8 = true) : t.startsFresh = true := by
  cases t with
  | nil => rfl
  | cons b t =>
    cases hb : continues 0x80 0xBF b with
    | false => simp [Bytes.startsFresh, hb]
    | true =>
      have hfirst : first b t = ⟨replacement, [b]⟩ := by
        simp [first, following_of_continues hb]
      simp [Bytes.isUtf8, decode_cons, hfirst, isStray] at h

theorem decode_append_of_isUtf8 (ht : t.isUtf8 = true) (s : Bytes) :
    decode (s ++ t) = decode s ++ decode t :=
  decode_append (Or.inl (startsFresh_of_isUtf8 ht))

theorem isUtf8_append (hs : s.isUtf8 = true) (ht : t.isUtf8 = true) : (s ++ t).isUtf8 = true := by
  rw [Bytes.isUtf8, decode_append_of_isUtf8 ht, List.all_append, Bool.and_eq_true]
  exact ⟨hs, ht⟩

/-- Nothing is replaced in a text of well-formed UTF-8. -/
theorem scrub_of_isUtf8 (h : s.isUtf8 = true) : s.scrub = s := by
  simp only [Bytes.isUtf8, List.all_eq_true, Bool.not_eq_true'] at h
  have hbytes : ∀ r ∈ decode s, (if r.isStray then encode replacement else r.bytes) = r.bytes := by
    intro r hr
    rw [h r hr]
    rfl
  rw [Bytes.scrub, List.flatMap_def, List.map_congr_left hbytes, ← List.flatMap_def]
  exact flatten_decode s

theorem hasBlank_append (ht : t.isUtf8 = true) (s : Bytes) :
    hasBlank (s ++ t) = (hasBlank s || hasBlank t) := by
  rw [hasBlank, decode_append_of_isUtf8 ht, List.any_append]
  rfl

theorem isUtf8_flatten (h : ∀ part ∈ parts, part.isUtf8 = true) :
    Bytes.isUtf8 parts.flatten = true := by
  induction parts with
  | nil => rfl
  | cons part parts ih =>
    obtain ⟨hpart, hparts⟩ := List.forall_mem_cons.mp h
    exact isUtf8_append hpart (ih hparts)

theorem hasBlank_flatten (hutf8 : ∀ part ∈ parts, part.isUtf8 = true)
    (hblank : ∀ part ∈ parts, hasBlank part = false) : hasBlank parts.flatten = false := by
  induction parts with
  | nil => rfl
  | cons part parts ih =>
    obtain ⟨_, hutf8⟩ := List.forall_mem_cons.mp hutf8
    obtain ⟨hpart, hblank⟩ := List.forall_mem_cons.mp hblank
    rw [List.flatten_cons, hasBlank_append (isUtf8_flatten hutf8), hpart, ih hutf8 hblank,
      Bool.or_false]

theorem isUtf8_of_mem_tokens (hs : s.isUtf8 = true) (h : token ∈ tokens s) :
    token.isUtf8 = true := by
  obtain ⟨_, _, before, after, hdecode, _⟩ := isRun_decode_token h
  rw [Bytes.isUtf8, hdecode, List.all_append, List.all_append] at hs
  simp only [Bool.and_eq_true] at hs
  exact hs.2.1

end Wordwalk
