import Wordwalk.Glob.Basic

/-! Matching one code point against a character class. -/
namespace Wordwalk.Glob

/-- The first code point of a text, or the one after the backslash it starts with, and the text
after it. -/
def literal (s : Bytes) : Nat × Bytes :=
  (Bytes.nextCode (if s.head? = some 0x5C then s.tail else s)).getD (Rune.replacement, [])

theorem length_literal {s : Bytes} (h : s ≠ []) : (literal s).2.length < s.length := by
  have hpos := List.length_pos_iff.2 h
  have key : ∀ t : Bytes, t.length ≤ s.length →
      ((Bytes.nextCode t).getD (Rune.replacement, [])).2.length < s.length := by
    intro t ht
    cases hn : Bytes.nextCode t with
    | none => simpa using hpos
    | some r =>
      have := Bytes.length_of_nextCode hn
      simp only [Option.getD_some]
      omega
  simp only [literal]
  split
  · exact key _ (by simp)
  · exact key _ (Nat.le_refl _)

/-- Read the members of a class until one matches `x` or the class ends: whether one matched, and
the text from there on. `low` is the member before, which a hyphen makes the start of a range. -/
def scanMembers (x : Nat) (low : Option Nat) (s : Bytes) : Bool × Bytes :=
  match s with
  | [] => (false, [])
  | b :: t =>
    if b = 0x5D then (false, b :: t)
    else if _h : b = 0x2D ∧ low.isSome ∧ t ≠ [] ∧ t.head? ≠ some 0x5D then
      if low.any (· ≤ x) ∧ x ≤ (literal t).1 then (true, (literal t).2)
      else scanMembers x none (literal t).2
    else if (literal (b :: t)).1 = x then (true, (literal (b :: t)).2)
    else
      scanMembers x (if (literal (b :: t)).1 < 0x10FFFF then some (literal (b :: t)).1 else none)
        (literal (b :: t)).2
termination_by s.length
decreasing_by
  · have := length_literal _h.2.2.1
    simp only [List.length_cons]
    omega
  · exact length_literal (by simp)

/-- What a class says about a code point: the class is broken, or it does not take the code point
and reading stopped at `stop`, or it takes it and the pattern goes on at `rest`. -/
inductive ClassMatch where
  | broken
  | miss (stop : Bytes)
  | hit (rest : Bytes)

/-- Match `x` against the class whose opening bracket stands before `s`. -/
def matchClass (x : Nat) (s : Bytes) : ClassMatch :=
  match classBody s with
  | none => .broken
  | some body =>
    match scanMembers x none body with
    | (found, stop) =>
      if found == (s.head? == some 0x5E || s.head? == some 0x21) then
        if stop.isEmpty then .broken else .miss stop
      else
        match afterUnescaped 0x5D stop with
        | none => .broken
        | some rest => .hit rest

theorem length_scanMembers (x : Nat) (low : Option Nat) (s : Bytes) :
    (scanMembers x low s).2.length ≤ s.length := by
  fun_induction scanMembers x low s with
  | case1 => simp
  | case2 => simp
  | case3 =>
    rename_i h _
    have := length_literal h.2.2.1
    simp only [List.length_cons]
    omega
  | case4 =>
    rename_i h _ ih
    have := length_literal h.2.2.1
    simp only [List.length_cons]
    omega
  | case5 => exact Nat.le_of_lt (length_literal (by simp))
  | case6 =>
    rename_i ih
    exact Nat.le_trans ih (Nat.le_of_lt (length_literal (by simp)))

theorem length_matchClass {x : Nat} {s rest : Bytes} (h : matchClass x s = .hit rest) :
    rest.length < s.length := by
  simp only [matchClass] at h
  split at h
  · simp at h
  · rename_i body hb
    split at h
    · split at h <;> simp at h
    · split at h
      · simp at h
      · rename_i r hr
        simp only [ClassMatch.hit.injEq] at h
        have h1 := length_afterUnescaped hr
        have h2 := length_scanMembers x none body
        have h3 := length_classBody hb
        subst h
        omega

end Wordwalk.Glob
