import Mathlib.Data.List.Basic
import Wordwalk.Glob.Basic

/-! Patterns whose classes hold nothing that can be taken for syntax. Alternatives are split without
regard to classes, and a match that is given up looks at the pattern from where it stands, which can
be inside a negated class. -/
namespace Wordwalk.Glob

/-- A class in a pattern: the number of braces open around it, whether it is negated, and its
members as they are written. -/
structure ClassPart where
  depth : Nat
  negated : Bool
  members : Bytes

/-- Whether a class is negated, from the text after its opening bracket. -/
def isNegated (s : Bytes) : Bool := s.head? == some 0x5E || s.head? == some 0x21

/-- The classes of a pattern, given the number of open braces. -/
def classes (depth : Nat) (s : Bytes) : List ClassPart :=
  match s with
  | [] => []
  | 0x5C :: _ :: s => classes depth s
  | b :: s =>
    if b = 0x5B then
      match _hb : classBody s with
      | none => []
      | some body =>
        match _hr : afterUnescaped 0x5D body with
        | none => []
        | some rest =>
          ⟨depth, isNegated s, body.take (body.length - rest.length - 1)⟩ :: classes depth rest
    else if b = 0x7B then classes (depth + 1) s
    else if b = 0x7D then classes (depth - 1) s
    else classes depth s
termination_by s.length
decreasing_by
  · simp only [List.length_cons]
    omega
  · have := length_classBody _hb
    have := length_afterUnescaped _hr
    simp only [List.length_cons]
    omega
  all_goals simp

/-- The bytes of a text that no backslash protects. -/
def unescaped : Bytes → Bytes
  | [] => []
  | 0x5C :: _ :: s => unescaped s
  | b :: s => b :: unescaped s

/-- The bytes that a class must not hold unprotected: within braces a comma or a brace, and if it is
negated a brace or an opening bracket. -/
def barred (depth : Nat) (negated : Bool) : Bytes :=
  (if depth = 0 then [] else [0x2C, 0x7B, 0x7D]) ++ if negated then [0x5B, 0x7B, 0x7D] else []

/-- Whether no class of a pattern holds a byte that it must not hold unprotected. -/
def ClearClasses (pat : Bytes) : Prop :=
  ∀ part ∈ classes 0 pat, ∀ b ∈ barred part.depth part.negated, b ∉ unescaped part.members

/-- The members of a class, none of them an unprotected byte of `bar`. -/
inductive Members (bar : Bytes) : Bytes → Prop where
  | nil : Members bar []
  | escape {s : Bytes} (b : UInt8) : Members bar s → Members bar (0x5C :: b :: s)
  | byte {b : UInt8} {s : Bytes} :
      b ≠ 0x5C → b ≠ 0x5D → b ∉ bar → Members bar s → Members bar (b :: s)

/-- The text of a class after its opening bracket, with `depth` braces open around it. -/
def IsClass (depth : Nat) (cls : Bytes) : Prop :=
  ∃ members, classBody cls = some (members ++ [0x5D]) ∧
    Members (barred depth (isNegated cls)) members

/-- Whether a byte stands for itself, or for something that does not go beyond it. -/
def IsOrdinary (b : UInt8) : Prop := b ≠ 0x5C ∧ b ≠ 0x5B ∧ b ≠ 0x7B ∧ b ≠ 0x7D

instance (b : UInt8) : Decidable (IsOrdinary b) :=
  inferInstanceAs (Decidable (b ≠ 0x5C ∧ b ≠ 0x5B ∧ b ≠ 0x7B ∧ b ≠ 0x7D))

/-- The patterns with clear classes that close `depth` braces more than they open. -/
inductive Plain : (depth : Nat) → Bytes → Prop where
  | nil : Plain 0 []
  | escape {depth : Nat} {s : Bytes} (b : UInt8) : Plain depth s → Plain depth (0x5C :: b :: s)
  | cls {depth : Nat} {cls s : Bytes} :
      IsClass depth cls → Plain depth s → Plain depth (0x5B :: (cls ++ s))
  | opened {depth : Nat} {s : Bytes} : Plain (depth + 1) s → Plain depth (0x7B :: s)
  | closed {depth : Nat} {s : Bytes} : Plain depth s → Plain (depth + 1) (0x7D :: s)
  | byte {depth : Nat} {b : UInt8} {s : Bytes} :
      IsOrdinary b → Plain depth s → Plain depth (b :: s)

variable {s t cls members bar body rest : Bytes} {depth : Nat} {b : UInt8}

theorem barred_subset (depth : Nat) (negated : Bool) :
    barred depth negated ⊆ barred (depth + 1) negated := by
  intro b hb
  rw [barred, List.mem_append] at hb ⊢
  rcases hb with hb | hb
  · left
    split at hb
    · simp at hb
    · simpa using hb
  · exact Or.inr hb

theorem Members.mono {less : Bytes} (h : Members bar members) (hsub : less ⊆ bar) :
    Members less members := by
  induction h with
  | nil => exact .nil
  | escape b _ ih => exact .escape b ih
  | byte hslash hclose hbar _ ih => exact .byte hslash hclose (fun hb => hbar (hsub hb)) ih

theorem IsClass.mono (h : IsClass (depth + 1) cls) : IsClass depth cls := by
  obtain ⟨members, hbody, hm⟩ := h
  exact ⟨members, hbody, hm.mono (barred_subset depth _)⟩

theorem IsClass.ne_nil (h : IsClass depth cls) : cls ≠ [] := by
  rintro rfl
  obtain ⟨_, hbody, _⟩ := h
  simp [classBody] at hbody

theorem classBody_eq_some_iff :
    classBody s = some body ↔
      (if isNegated s then s.tail else s) = body ∧ ∃ c ∈ body.head?, c ≠ 0x5D := by
  cases s with
  | nil =>
    have hnone : classBody [] = none := rfl
    rw [hnone]
    constructor
    · intro h
      cases h
    · rintro ⟨rfl, c, hc, _⟩
      cases hc
  | cons b s =>
    have hmark : isNegated (b :: s) = true ↔ b = 0x5E ∨ b = 0x21 := by simp [isNegated]
    simp only [classBody, hmark, List.tail_cons]
    split
    · rename_i hnil
      simp only [hnil]
      constructor
      · intro h
        cases h
      · rintro ⟨rfl, c, hc, _⟩
        cases hc
    · rename_i c rest hcons
      simp only [hcons]
      by_cases hc : c = 0x5D
      · subst hc
        rw [if_pos rfl]
        constructor
        · intro h
          cases h
        · rintro ⟨rfl, c, hc, hne⟩
          exact absurd (Option.some.inj hc).symm hne
      · rw [if_neg hc, Option.some.injEq]
        constructor
        · rintro rfl
          exact ⟨rfl, c, rfl, hc⟩
        · exact And.left

theorem isNegated_append (h : s ≠ []) (t : Bytes) : isNegated (s ++ t) = isNegated s := by
  cases s with
  | nil => exact absurd rfl h
  | cons b s => rfl

/-- What follows a class does not change what its members are. -/
theorem classBody_append_iff (hs : s ≠ []) (hbody : body ≠ []) :
    classBody (s ++ t) = some (body ++ t) ↔ classBody s = some body := by
  have hhead : (body ++ t).head? = body.head? := by
    rw [List.head?_append_of_ne_nil _ hbody]
  have htail : (if isNegated s then (s ++ t).tail else s ++ t) =
      (if isNegated s then s.tail else s) ++ t := by
    split
    · rw [List.tail_append_of_ne_nil hs]
    · rfl
  rw [classBody_eq_some_iff, classBody_eq_some_iff, isNegated_append hs, hhead, htail,
    List.append_cancel_right_eq]

/-- The members of a class come after at most a negation mark. -/
theorem exists_mark (h : classBody s = some body) :
    ∃ mark, s = mark ++ body ∧ mark ⊆ [0x5E, 0x21] := by
  obtain ⟨htail, _⟩ := classBody_eq_some_iff.mp h
  split at htail
  · rename_i hmark
    cases s with
    | nil => simp [isNegated] at hmark
    | cons b s => exact ⟨[b], by simpa using htail, by simpa [isNegated] using hmark⟩
  · exact ⟨[], by simpa using htail, by simp⟩

/-- A class can be cut off from what follows it. -/
theorem exists_class (h : classBody s = some (body ++ rest)) (hbody : body ≠ []) :
    ∃ cls, s = cls ++ rest ∧ cls ≠ [] ∧ classBody cls = some body := by
  obtain ⟨mark, hs, _⟩ := exists_mark h
  have hcls : mark ++ body ≠ [] := by simp [hbody]
  rw [← List.append_assoc] at hs
  rw [hs] at h
  exact ⟨mark ++ body, hs, hcls, (classBody_append_iff hcls hbody).mp h⟩

theorem Members.append_tail (h : Members bar members) (s : Bytes) :
    afterUnescaped 0x5D (members ++ 0x5D :: s) = some s := by
  induction h with
  | nil => rfl
  | escape b _ ih => simpa [afterUnescaped] using ih
  | byte hslash hclose _ _ ih =>
    rw [List.cons_append, afterUnescaped, if_neg hclose, ih]
    intro _ _ h _
    exact hslash h

/-- A text up to the first unprotected closing bracket, seen as the members of a class. -/
theorem exists_members (h : afterUnescaped 0x5D body = some rest) :
    ∃ members, body = members ++ 0x5D :: rest ∧
      ∀ bar : Bytes, (∀ b ∈ bar, b ∉ unescaped members) → Members bar members := by
  fun_induction afterUnescaped 0x5D body with
  | case1 => cases h
  | case2 b s ih =>
    obtain ⟨members, rfl, hm⟩ := ih h
    exact ⟨0x5C :: b :: members, rfl, fun bar hbar => .escape b (hm bar hbar)⟩
  | case3 s =>
    obtain rfl := Option.some.inj h
    exact ⟨[], rfl, fun _ _ => .nil⟩
  | case4 b s hslash hclose ih =>
    obtain ⟨members, rfl, hm⟩ := ih h
    have hb : b ≠ 0x5C := by
      rintro rfl
      cases members with
      | nil => exact hslash _ _ rfl rfl
      | cons c members => exact hslash _ _ rfl rfl
    refine ⟨b :: members, rfl, fun bar hbar => ?_⟩
    have hu : unescaped (b :: members) = b :: unescaped members := by
      rw [unescaped]
      intro _ _ he _
      exact hb he
    rw [hu] at hbar
    exact .byte hb hclose (fun hmem => hbar b hmem (by simp))
      (hm bar fun c hc hmem => hbar c hc (by simp [hmem]))

theorem balanced_escape (depth : Nat) (b : UInt8) (s : Bytes) :
    balanced depth (0x5C :: b :: s) = balanced depth s := by
  rw [balanced]

theorem balanced_opened (depth : Nat) (s : Bytes) :
    balanced depth (0x7B :: s) = balanced (depth + 1) s := by
  rw [balanced] <;> simp

theorem balanced_closed (depth : Nat) (s : Bytes) :
    balanced (depth + 1) (0x7D :: s) = balanced depth s := by
  rw [balanced] <;> simp

theorem balanced_byte (hb : IsOrdinary b) (depth : Nat) (s : Bytes) :
    balanced depth (b :: s) = balanced depth s := by
  obtain ⟨hslash, hclass, hopen, hclose⟩ := hb
  rw [balanced, if_neg hclass, if_neg hopen, if_neg hclose]
  · intro h _
    exact hslash h
  · intro _ _ h _
    exact hslash h

theorem balanced_class (h : IsClass depth cls) (n : Nat) (s : Bytes) :
    balanced n (0x5B :: (cls ++ s)) = balanced n s := by
  obtain ⟨members, hbody, hm⟩ := h
  have hne : cls ≠ [] := IsClass.ne_nil ⟨members, hbody, hm⟩
  have hbind : (classBody (cls ++ s)).bind (afterUnescaped 0x5D) = some s := by
    rw [(classBody_append_iff hne (by simp)).mpr hbody, Option.bind_some, List.append_assoc]
    exact hm.append_tail s
  rw [balanced, if_pos rfl]
  · split
    · rename_i hnone
      rw [hbind] at hnone
      cases hnone
    · rename_i rest hsome
      rw [hbind] at hsome
      obtain rfl := Option.some.inj hsome
      rfl
  · intro h _
    exact absurd h (by decide)
  · intro _ _ h _
    exact absurd h (by decide)

theorem Members.balanced_append (h : Members bar members) (hbar : [0x5B, 0x7B, 0x7D] ⊆ bar)
    (depth : Nat) (s : Bytes) : balanced depth (members ++ s) = balanced depth s := by
  induction h with
  | nil => rfl
  | escape b _ ih => rw [List.cons_append, List.cons_append, balanced_escape, ih]
  | byte hslash hclose hnot _ ih =>
    have hb : IsOrdinary _ := ⟨hslash, fun h => hnot (hbar (by simp [h])),
      fun h => hnot (hbar (by simp [h])), fun h => hnot (hbar (by simp [h]))⟩
    rw [List.cons_append, balanced_byte hb, ih]

/-- A plain pattern is well formed. -/
theorem Plain.balanced_eq (h : Plain depth s) : balanced depth s = true := by
  induction h with
  | nil => rw [balanced]; rfl
  | escape b _ ih => rw [balanced_escape, ih]
  | cls hcls _ ih => rw [balanced_class hcls, ih]
  | opened _ ih => rw [balanced_opened, ih]
  | closed _ ih => rw [balanced_closed, ih]
  | byte hb _ ih => rw [balanced_byte hb, ih]

theorem classes_class (hbody : classBody s = some (members ++ 0x5D :: rest))
    (hafter : afterUnescaped 0x5D (members ++ 0x5D :: rest) = some rest) (depth : Nat) :
    classes depth (0x5B :: s) = ⟨depth, isNegated s, members⟩ :: classes depth rest := by
  have htake : (members ++ 0x5D :: rest).take
      ((members ++ 0x5D :: rest).length - rest.length - 1) = members := by
    rw [List.length_append, List.length_cons]
    exact List.take_left' (by omega)
  rw [classes, if_pos rfl]
  · split
    · rename_i hnone
      rw [hbody] at hnone
      cases hnone
    · rename_i body hb
      obtain rfl := Option.some.inj (hbody.symm.trans hb)
      split
      · rename_i hnone
        rw [hafter] at hnone
        cases hnone
      · rename_i rest' hr
        obtain rfl := Option.some.inj (hafter.symm.trans hr)
        rw [htake]
  · intro _ _ h _
    exact absurd h (by decide)

/-- A well-formed pattern with clear classes is plain. -/
theorem plain_of_balanced (h : balanced depth s = true)
    (hclear : ∀ part ∈ classes depth s, ∀ b ∈ barred part.depth part.negated,
      b ∉ unescaped part.members) : Plain depth s := by
  fun_induction balanced depth s with
  | case1 depth =>
    obtain rfl := beq_iff_eq.mp h
    exact .nil
  | case2 => cases h
  | case3 depth b s ih =>
    rw [classes] at hclear
    exact .escape b (ih h hclear)
  | case4 => cases h
  | case5 depth s rest hrest _ _ ih =>
    obtain ⟨body, hbody, hafter⟩ := Option.bind_eq_some_iff.mp hrest
    obtain ⟨members, rfl, hm⟩ := exists_members hafter
    rw [classes_class hbody hafter, List.forall_mem_cons] at hclear
    have hcut : classBody s = some ((members ++ [0x5D]) ++ rest) := by simpa using hbody
    obtain ⟨cls, rfl, hne, hcls⟩ := exists_class hcut (by simp)
    rw [isNegated_append hne] at hclear
    exact .cls ⟨members, hcls, hm _ hclear.1⟩ (ih h hclear.2)
  | case6 depth s _ _ _ ih =>
    rw [classes] at hclear
    · exact .opened (ih h (by simpa using hclear))
    · simp
  | case7 depth s _ _ _ _ ih =>
    rw [Bool.and_eq_true] at h
    cases depth with
    | zero => simp at h
    | succ depth =>
      rw [classes] at hclear
      · exact .closed (ih h.2 (by simpa using hclear))
      · simp
  | case8 depth b s hnil hslash hclass hopen hclose ih =>
    rw [classes, if_neg hclass, if_neg hopen, if_neg hclose] at hclear
    · refine .byte ⟨?_, hclass, hopen, hclose⟩ (ih h hclear)
      rintro rfl
      cases s with
      | nil => exact hnil rfl rfl
      | cons c s => exact hslash c s rfl rfl
    · exact hslash

end Wordwalk.Glob
