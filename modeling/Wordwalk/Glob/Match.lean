import Wordwalk.Glob.Class

/-! Matching a name against a pattern by trying the shortest stretch for each star first. -/
namespace Wordwalk.Glob

/-- The answer of the first option that does not say no, or no if there is none. `none` stands for a
pattern found to be malformed. -/
def firstDecided {α : Type} (f : α → Option Bool) : List α → Option Bool
  | [] => some false
  | a :: as =>
    match f a with
    | some false => firstDecided f as
    | answer => answer

/-- Whether the pattern takes the empty text. A pattern for everything below a directory takes the
directory itself too. -/
def takesEmpty (pat : Bytes) : Option Bool :=
  if pat ∈ [[], [0x2A], [0x2A, 0x2A], [0x2F, 0x2A, 0x2A], [0x2A, 0x2A, 0x2F],
      [0x2F, 0x2A, 0x2A, 0x2F]] then some true
  else
    match pat with
    | 0x7B :: s =>
      match _h : alternatives 0 s with
      | none => none
      | some (alts, rest) => firstDecided (fun alt => takesEmpty (alt.1 ++ rest)) alts.attach
    | _ => if wellFormed pat then some false else none
termination_by pat.length
decreasing_by
  have : alt.1.length + rest.length < s.length := (shorter_alternatives _h).2 alt.1 alt.2
  simp only [List.length_append, List.length_cons]
  omega

/-- A place to come back to: the rest of the name there, if it can still be used, and the pattern
read since, last byte first. -/
structure Retry where
  name : Option Bytes
  seen : Bytes

/-- A match in progress. `star` is the last `*`, and `deep` the last `**/`, with the pattern between
the two as what it has seen. -/
structure Cursor where
  pat : Bytes
  name : Bytes
  atStart : Bool
  star : Retry
  deep : Retry

/-- What to do next: answer, go on, or try several ways in order. -/
inductive Step where
  | answer (verdict : Option Bool)
  | move (next : Cursor)
  | choose (options : List Cursor)

namespace Cursor

/-- Take `n` bytes of the pattern, and of the name all but `name`. -/
def take (c : Cursor) (n : Nat) (name : Bytes) (atStart : Bool) : Cursor :=
  { c with
    pat := c.pat.drop n, name, atStart
    star := { c.star with seen := (c.pat.take n).reverse ++ c.star.seen } }

/-- Take the `n` bytes of a `*` and come back here when the match fails. -/
def markStar (c : Cursor) (n : Nat) : Cursor :=
  { c with
    pat := c.pat.drop n, atStart := false
    star := ⟨some c.name, []⟩
    deep := { c.deep with seen := (c.pat.take n).reverse ++ c.star.seen ++ c.deep.seen } }

/-- Take the `n` bytes of a `**/` and come back here when the match fails. -/
def markDeep (c : Cursor) (n : Nat) : Cursor :=
  { c with pat := c.pat.drop n, star := ⟨none, []⟩, deep := ⟨some c.name, []⟩ }

/-- The text after the first slash. -/
def afterSlash : Bytes → Option Bytes
  | [] => none
  | b :: s => if b = 0x2F then some s else afterSlash s

/-- The rest of a name after one more code point for a star, which takes no slash. -/
def afterStar (name : Bytes) : Option Bytes :=
  match name.nextCode with
  | some (c, rest) => if c = 0x2F then none else some rest
  | none => none

/-- Let the last star take one code point more, or the last `**/` one segment more. If neither can,
the answer is no, provided the pattern from `stop` on is well formed. -/
def retry (c : Cursor) (stop : Bytes) : Step :=
  match c.star.name.bind afterStar with
  | some name =>
    .move { c with
      pat := c.star.seen.reverse ++ c.pat, name, atStart := false, star := ⟨some name, []⟩ }
  | none =>
    match c.deep.name.bind afterSlash with
    | some name =>
      .move {
        pat := c.deep.seen.reverse ++ c.star.seen.reverse ++ c.pat, name, atStart := true
        star := ⟨none, []⟩, deep := ⟨some name, []⟩ }
    | none => .answer (if wellFormed stop then some false else none)

/-- Compare the code point `y` of the pattern, written with `n` bytes, with `x` of the name. -/
def compare (c : Cursor) (n y x : Nat) (name stop : Bytes) : Step :=
  if y = x then .move (c.take n name (y == 0x2F)) else c.retry stop

/-- One step of the match. -/
def step (c : Cursor) : Step :=
  match c.name.nextCode with
  | none => .answer (takesEmpty c.pat)
  | some (x, name) =>
    match c.pat with
    | [] => c.retry []
    | 0x2A :: 0x2A :: rest =>
      if c.atStart && rest.isEmpty then .answer (some true)
      else if c.atStart && rest.head? == some 0x2F then .move (c.markDeep 3)
      else .move (c.markStar 2)
    | 0x2A :: _ => .move (c.markStar 1)
    | 0x3F :: _ => if x = 0x2F then c.retry c.pat else .move (c.take 1 name false)
    | 0x5B :: s =>
      match matchClass x s with
      | .broken => .answer none
      | .miss stop => c.retry stop
      | .hit rest => .move (c.take (c.pat.length - rest.length) name false)
    | 0x7B :: s =>
      match alternatives 0 s with
      | none => .answer none
      | some (alts, rest) =>
        .choose (alts.map fun alt => { c with pat := alt ++ rest, atStart := true })
    | [0x5C] => .answer none
    | 0x5C :: b :: s =>
      c.compare ((Rune.first b s).bytes.length + 1) (Rune.first b s).code x name c.pat
    | b :: s =>
      c.compare (Rune.first b s).bytes.length (Rune.first b s).code x name
        (if c.star.seen.head? = some 0x5C then 0x5C :: c.pat else c.pat)

/-- Each step lowers this, compared from the left: the pattern that is or may come again, the name
left to the last `**/`, the pattern since the last star, the name left to it, the pattern left. -/
def rank (c : Cursor) : Nat × Nat × Nat × Nat × Nat :=
  (c.deep.seen.length + c.star.seen.length + c.pat.length, (c.deep.name.getD []).length,
    c.star.seen.length + c.pat.length, (c.star.name.getD []).length, c.pat.length)

/-- `d` ranks below `c`. -/
def Below (d c : Cursor) : Prop := Prod.Lex (· < ·) (Prod.Lex (· < ·) (Prod.Lex (· < ·)
  (Prod.Lex (· < ·) (· < ·)))) d.rank c.rank

variable {c d : Cursor}

theorem below_take {n : Nat} {name : Bytes} {atStart : Bool} (hn : 0 < n) (hc : c.pat ≠ []) :
    (c.take n name atStart).Below c := by
  have := List.length_pos_iff.2 hc
  have split : (c.pat.take n).length + (c.pat.drop n).length = c.pat.length := by simp; omega
  have less : (c.pat.drop n).length < c.pat.length := by simp; omega
  simp only [Below, rank, take, Prod.lex_def, List.length_append, List.length_reverse]
  exact .inr ⟨by omega, .inr ⟨trivial, .inr ⟨by omega, .inr ⟨trivial, less⟩⟩⟩⟩

theorem below_markStar {n : Nat} (hn : 0 < n) (hc : c.pat ≠ []) : (c.markStar n).Below c := by
  have := List.length_pos_iff.2 hc
  have split : (c.pat.take n).length + (c.pat.drop n).length = c.pat.length := by simp; omega
  have less : (c.pat.drop n).length < c.pat.length := by simp; omega
  simp only [Below, rank, markStar, Prod.lex_def, List.length_append, List.length_reverse,
    List.length_nil]
  exact .inr ⟨by omega, .inr ⟨trivial, .inl (by omega)⟩⟩

theorem below_markDeep {n : Nat} (hn : 0 < n) (hc : c.pat ≠ []) : (c.markDeep n).Below c := by
  have := List.length_pos_iff.2 hc
  simp only [Below, rank, markDeep, Prod.lex_def, List.length_drop, List.length_nil]
  omega

theorem length_afterSlash {s rest : Bytes} (h : afterSlash s = some rest) :
    rest.length < s.length := by
  induction s with
  | nil => simp [afterSlash] at h
  | cons b s ih =>
    simp only [afterSlash] at h
    split at h
    · simp_all
    · have := ih h
      simp only [List.length_cons]
      omega

theorem length_afterStar {s rest : Bytes} (h : afterStar s = some rest) :
    rest.length < s.length := by
  simp only [afterStar] at h
  split at h
  · rename_i hn
    split at h
    · simp at h
    · simp only [Option.some.injEq] at h
      subst h
      exact Bytes.length_of_nextCode hn
  · simp at h

theorem below_retry {stop : Bytes} (h : c.retry stop = .move d) : d.Below c := by
  simp only [retry] at h
  split at h
  · rename_i name hs
    obtain ⟨s, hs, hr⟩ := Option.bind_eq_some_iff.1 hs
    have := length_afterStar hr
    simp only [Step.move.injEq] at h
    subst h
    simp only [Below, rank, Prod.lex_def, List.length_append, List.length_reverse, hs,
      Option.getD_some, List.length_nil]
    exact .inr ⟨by omega, .inr ⟨trivial, .inr ⟨by omega, .inl this⟩⟩⟩
  · split at h
    · rename_i name hs
      obtain ⟨s, hs, hr⟩ := Option.bind_eq_some_iff.1 hs
      have := length_afterSlash hr
      simp only [Step.move.injEq] at h
      subst h
      simp only [Below, rank, Prod.lex_def, List.length_append, List.length_reverse, hs,
        Option.getD_some, List.length_nil]
      omega
    · simp at h

theorem retry_ne_choose {stop : Bytes} {ds : List Cursor} : c.retry stop ≠ .choose ds := by
  simp only [retry]
  split
  · simp
  · split <;> simp

theorem length_first_pos (b : UInt8) (s : Bytes) : 0 < (Rune.first b s).bytes.length := by
  simp only [Rune.first]
  split <;> (try split) <;> simp

theorem below_compare {n y x : Nat} {name stop : Bytes} (hn : 0 < n) (hc : c.pat ≠ [])
    (h : c.compare n y x name stop = .move d) : d.Below c := by
  simp only [compare] at h
  split at h
  · simp only [Step.move.injEq] at h
    subst h
    exact below_take hn hc
  · exact below_retry h

theorem compare_ne_choose {n y x : Nat} {name stop : Bytes} {ds : List Cursor} :
    c.compare n y x name stop ≠ .choose ds := by
  simp only [compare]
  split
  · simp
  · exact retry_ne_choose

/-- Every step leads to lower cursors. -/
theorem below_step :
    (∀ d, c.step = .move d → d.Below c) ∧ ∀ ds, c.step = .choose ds → ∀ d ∈ ds, d.Below c := by
  simp only [step]
  split
  · simp
  · split
    · exact ⟨fun _ h => below_retry h, fun _ h => absurd h retry_ne_choose⟩
    · rename_i hp
      split
      · simp
      · split
        · refine ⟨fun d h => ?_, by simp⟩
          simp only [Step.move.injEq] at h
          subst h
          exact below_markDeep (by decide) (by simp [hp])
        · refine ⟨fun d h => ?_, by simp⟩
          simp only [Step.move.injEq] at h
          subst h
          exact below_markStar (by decide) (by simp [hp])
    · rename_i hp
      refine ⟨fun d h => ?_, by simp⟩
      simp only [Step.move.injEq] at h
      subst h
      exact below_markStar (by decide) (by simp [hp])
    · rename_i hp
      split
      · exact ⟨fun _ h => below_retry h, fun _ h => absurd h retry_ne_choose⟩
      · refine ⟨fun d h => ?_, by simp⟩
        simp only [Step.move.injEq] at h
        subst h
        exact below_take (by decide) (by simp [hp])
    · rename_i s hp
      split
      · simp
      · exact ⟨fun _ h => below_retry h, fun _ h => absurd h retry_ne_choose⟩
      · rename_i rest hm
        have := length_matchClass hm
        refine ⟨fun d h => ?_, by simp⟩
        simp only [Step.move.injEq] at h
        subst h
        exact below_take (by simp only [hp, List.length_cons]; omega) (by simp [hp])
    · rename_i s hp
      split
      · simp
      · rename_i alts rest ha
        refine ⟨by simp, fun ds h => ?_⟩
        simp only [Step.choose.injEq] at h
        subst h
        intro d hd
        obtain ⟨alt, halt, rfl⟩ := List.mem_map.1 hd
        have : alt.length + rest.length < s.length := (shorter_alternatives ha).2 alt halt
        simp only [Below, rank, Prod.lex_def, List.length_append, hp, List.length_cons]
        omega
    · simp
    · rename_i hp
      exact ⟨fun _ h => below_compare (by omega) (by simp [hp]) h,
        fun _ h => absurd h compare_ne_choose⟩
    · rename_i hp
      exact ⟨fun _ h => below_compare (length_first_pos _ _) (by simp [hp]) h,
        fun _ h => absurd h compare_ne_choose⟩

/-- Run a match to its answer. -/
def run (c : Cursor) : Option Bool :=
  match _h : c.step with
  | .answer verdict => verdict
  | .move d => d.run
  | .choose ds => firstDecided (fun d => d.1.run) ds.attach
termination_by c.rank
decreasing_by
  · exact below_step.1 _ _h
  · exact below_step.2 _ _h d.1 d.2

end Cursor

/-- Whether the pattern takes the whole name; `none` if the pattern turned out to be malformed. -/
def matches? (pat name : Bytes) : Option Bool :=
  Cursor.run ⟨pat, name, true, ⟨none, []⟩, ⟨none, []⟩⟩

end Wordwalk.Glob
