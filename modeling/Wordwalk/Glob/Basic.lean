import Wordwalk.Text.Rune

/-! Path patterns: `*` and `?` stay within a path segment, `**` crosses segments, `[...]` is a
class, `{a,b}` lists alternatives and a backslash takes the next character literally. -/
namespace Wordwalk.Glob

/-- The text after the first `stop` that no backslash protects. -/
def afterUnescaped (stop : UInt8) : Bytes → Option Bytes
  | [] => none
  | 0x5C :: _ :: s => afterUnescaped stop s
  | b :: s => if b = stop then some s else afterUnescaped stop s

/-- The text after the opening bracket of a class and its negation mark, if a member follows. -/
def classBody : Bytes → Option Bytes
  | [] => none
  | b :: s =>
    match if b = 0x5E ∨ b = 0x21 then s else b :: s with
    | [] => none
    | c :: body => if c = 0x5D then none else some (c :: body)

theorem length_afterUnescaped {stop : UInt8} {s rest : Bytes}
    (h : afterUnescaped stop s = some rest) : rest.length < s.length := by
  fun_induction afterUnescaped stop s with
  | case1 => simp at h
  | case2 _ s ih =>
    have := ih h
    simp only [List.length_cons]
    omega
  | case3 s =>
    simp only [Option.some.injEq] at h
    simp [h]
  | case4 b s _ _ ih =>
    have := ih h
    simp only [List.length_cons]
    omega

theorem length_classBody {s body : Bytes} (h : classBody s = some body) :
    body.length ≤ s.length := by
  cases s with
  | nil => simp [classBody] at h
  | cons b s =>
    simp only [classBody] at h
    split at h
    · simp at h
    · rename_i c rest heq
      split at h
      · simp at h
      · split at heq
        · simp_all
        · simp_all

/-- Whether the brackets close and the braces balance, given the number of open braces. -/
def balanced (depth : Nat) (s : Bytes) : Bool :=
  match s with
  | [] => depth == 0
  | [0x5C] => false
  | 0x5C :: _ :: s => balanced depth s
  | b :: s =>
    if b = 0x5B then
      match _h : (classBody s).bind (afterUnescaped 0x5D) with
      | none => false
      | some rest => balanced depth rest
    else if b = 0x7B then balanced (depth + 1) s
    else if b = 0x7D then depth != 0 && balanced (depth - 1) s
    else balanced depth s
termination_by s.length
decreasing_by
  · simp only [List.length_cons]; omega
  · obtain ⟨body, hb, hr⟩ := Option.bind_eq_some_iff.1 _h
    have := length_classBody hb
    have := length_afterUnescaped hr
    simp only [List.length_cons]; omega
  all_goals simp

/-- Whether the text is a pattern. -/
def wellFormed (s : Bytes) : Bool := balanced 0 s

/-- The alternatives up to the brace that closes them, and the text after it. `depth` counts the
braces opened inside them. Commas split only outside those. -/
def alternatives : (depth : Nat) → Bytes → Option (List Bytes × Bytes)
  | _, [] => none
  | _, [0x5C] => none
  | depth, 0x5C :: b :: s => (alternatives depth s).map (keep [0x5C, b])
  | depth, b :: s =>
    if b = 0x7B then (alternatives (depth + 1) s).map (keep [b])
    else if b = 0x7D then
      match depth with
      | 0 => some ([[]], s)
      | depth + 1 => (alternatives depth s).map (keep [b])
    else if b = 0x2C ∧ depth = 0 then
      (alternatives depth s).map fun (alts, rest) => ([] :: alts, rest)
    else (alternatives depth s).map (keep [b])
where
  /-- Put bytes in front of the first alternative. -/
  keep (front : Bytes) : List Bytes × Bytes → List Bytes × Bytes
    | ([], rest) => ([front], rest)
    | (alt :: alts, rest) => ((front ++ alt) :: alts, rest)

/-- The alternatives and the text after them are together shorter than what they were read from. -/
def Shorter (s : Bytes) (r : List Bytes × Bytes) : Prop :=
  r.2.length < s.length ∧ ∀ alt ∈ r.1, alt.length + r.2.length < s.length

theorem Shorter.keep {s : Bytes} {r : List Bytes × Bytes} (front : Bytes) (h : Shorter s r) :
    Shorter (front ++ s) (alternatives.keep front r) := by
  obtain ⟨alts, rest⟩ := r
  obtain ⟨h1, h2⟩ := h
  cases alts with
  | nil => constructor <;> (simp_all [alternatives.keep]; try omega)
  | cons alt alts =>
    refine ⟨?_, fun a ha => ?_⟩
    · simp_all [alternatives.keep]
      omega
    · simp only [alternatives.keep, List.mem_cons] at ha
      rcases ha with rfl | ha
      · have := h2 alt (by simp)
        simp_all [alternatives.keep]
        omega
      · have := h2 a (by simp [ha])
        simp only [alternatives.keep, List.length_append] at this ⊢
        omega

theorem shorter_alternatives {depth : Nat} {s : Bytes} {r : List Bytes × Bytes}
    (h : alternatives depth s = some r) : Shorter s r := by
  fun_induction alternatives depth s generalizing r with
  | case1 => simp at h
  | case2 => simp at h
  | case3 depth b s ih =>
    obtain ⟨r, hr, rfl⟩ := Option.map_eq_some_iff.1 h
    exact Shorter.keep [0x5C, b] (ih hr)
  | case4 =>
    rename_i ih
    obtain ⟨r, hr, rfl⟩ := Option.map_eq_some_iff.1 h
    exact Shorter.keep [0x7B] (ih hr)
  | case5 s =>
    simp only [Option.some.injEq] at h
    subst h
    constructor <;> simp
  | case6 =>
    rename_i ih
    obtain ⟨r, hr, rfl⟩ := Option.map_eq_some_iff.1 h
    exact Shorter.keep [0x7D] (ih hr)
  | case7 =>
    rename_i ih
    obtain ⟨r, hr, rfl⟩ := Option.map_eq_some_iff.1 h
    obtain ⟨h1, h2⟩ := ih hr
    refine ⟨by simp; omega, fun a ha => ?_⟩
    rcases List.mem_cons.1 ha with rfl | ha
    · simp; omega
    · have := h2 a ha
      simp; omega
  | case8 =>
    rename_i ih
    obtain ⟨r, hr, rfl⟩ := Option.map_eq_some_iff.1 h
    exact Shorter.keep [_] (ih hr)

end Wordwalk.Glob
