import Wordwalk.Proofs.Glob.Match
import Wordwalk.Proofs.Walk.Branches

/-! What the check of the patterns is worth to a walk: a pattern that passes it decides about every
path, unless one of its classes holds a byte that is taken for syntax while matching. -/
namespace Wordwalk.Walker

variable {scanner : Scanner} {ignore : List Bytes} {w : Walker}

/-- The patterns of a walker decide about every path if their classes are clear: none of them is
found to be malformed, so a path that is not ignored is one that no pattern takes. -/
theorem patterns_decide (hw : make scanner ignore = .ok w)
    (hclear : ∀ pattern ∈ ignore, Glob.ClearClasses pattern) (rel : Bytes) :
    (∀ pattern ∈ w.ignore, ∃ verdict, Glob.matches? pattern rel = some verdict) ∧
      (ignored w.ignore rel = false ↔
        ∀ pattern ∈ w.ignore, Glob.matches? pattern rel = some false) := by
  have hwell := wellFormed_of_make hw
  obtain rfl := eq_of_make hw
  have hdecided : ∀ pattern ∈ ignore, ∃ verdict, Glob.matches? pattern rel = some verdict :=
    fun pattern hp => Option.ne_none_iff_exists'.mp
      (Glob.matches?_ne_none (hwell pattern hp) (hclear pattern hp) rel)
  refine ⟨hdecided, ?_⟩
  rw [ignored, List.any_eq_false]
  refine forall₂_congr fun pattern hp => ?_
  obtain ⟨verdict, hverdict⟩ := hdecided pattern hp
  cases verdict <;> simp [hverdict]

/-- The pattern "{[^\,\{],b}[{,]": the comma and the brace in the class within braces are protected,
those in the class outside need not be. -/
def guarded : Bytes :=
  [0x7B, 0x5B, 0x5E, 0x5C, 0x2C, 0x5C, 0x7B, 0x5D, 0x2C, 0x62, 0x7D, 0x5B, 0x7B, 0x2C, 0x5D]

/-- Neither alternative takes the comma. The match with the first is given up within its class. -/
theorem patterns_decide_guarded :
    make (fun _ _ => { outcome := .error .missing }) [guarded] =
        .ok ⟨fun _ _ => { outcome := .error .missing }, [guarded], none⟩ ∧
      Glob.ClearClasses guarded ∧ ignored [guarded] [0x2C] = false ∧
      Glob.matches? guarded [0x2C] = some false := by
  have hw : make (fun _ _ => { outcome := .error .missing }) [guarded] =
      .ok ⟨fun _ _ => { outcome := .error .missing }, [guarded], none⟩ := by cbv
  have hclasses : Glob.classes 0 guarded =
      [⟨1, true, [0x5C, 0x2C, 0x5C, 0x7B]⟩, ⟨0, false, [0x7B, 0x2C]⟩] := by cbv
  have hclear : Glob.ClearClasses guarded := by
    rw [Glob.ClearClasses, hclasses]
    simp [Glob.barred, Glob.unescaped]
  obtain ⟨hdecided, hfree⟩ := patterns_decide hw (by simpa using hclear) [0x2C]
  have hcomma : Bytes.nextCode [0x2C] = some (0x2C, []) := rfl
  have hmember : Glob.literal [0x5C, 0x2C, 0x5C, 0x7B, 0x5D, 0x5B, 0x7B, 0x2C, 0x5D] =
      (0x2C, [0x5C, 0x7B, 0x5D, 0x5B, 0x7B, 0x2C, 0x5D]) := rfl
  have hmiss : Glob.matchClass 0x2C [0x5E, 0x5C, 0x2C, 0x5C, 0x7B, 0x5D, 0x5B, 0x7B, 0x2C, 0x5D] =
      .miss [0x5C, 0x7B, 0x5D, 0x5B, 0x7B, 0x2C, 0x5D] := by
    simp [Glob.matchClass, Glob.classBody, Glob.scanMembers, hmember]
  have hrest : Glob.wellFormed [0x5C, 0x7B, 0x5D, 0x5B, 0x7B, 0x2C, 0x5D] = true := by cbv
  have hfirst : Glob.matches? [0x5B, 0x5E, 0x5C, 0x2C, 0x5C, 0x7B, 0x5D, 0x5B, 0x7B, 0x2C, 0x5D]
      [0x2C] = some false :=
    Glob.Cursor.run_of_answer (by simp [Glob.Cursor.step, hcomma, hmiss, Glob.Cursor.retry, hrest])
  have hsecond : Glob.matches? [0x62, 0x5B, 0x7B, 0x2C, 0x5D] [0x2C] = some false :=
    Glob.Cursor.run_of_answer (by cbv)
  have hno : Glob.matches? guarded [0x2C] = some false := by
    rw [guarded, Glob.matches?_alternatives (by simp) (by rfl)]
    simp [Glob.firstDecided, hfirst, hsecond]
  exact ⟨hw, hclear, hfree.mpr (by simpa using hno), hno⟩

/-- The pattern "{[,],b}": the comma in the class cuts its first alternative short. -/
def severed : Bytes := [0x7B, 0x5B, 0x2C, 0x5D, 0x2C, 0x62, 0x7D]

/-- For each byte that a class must not hold unprotected, within braces or if it is negated, a
pattern in which it does and a path. -/
def unclear : List (Bytes × Bytes) :=
  [(severed, [0x62]), ([0x7B, 0x5B, 0x7B, 0x5D, 0x2C, 0x62, 0x7D], [0x62]),
    ([0x7B, 0x5B, 0x7D, 0x5D, 0x2C, 0x62, 0x7D], [0x62]), ([0x5B, 0x5E, 0x61, 0x5B, 0x5D], [0x61]),
    ([0x5B, 0x5E, 0x61, 0x7B, 0x5D], [0x61]), ([0x5B, 0x5E, 0x61, 0x7D, 0x5D], [0x61])]

/-- A pattern for a comma or `b` passes the check and is then found to be malformed by the match
with either, so that it takes neither. No byte can be spared from those that a class must not
hold. -/
theorem make_accepts_undecided :
    make (fun _ _ => { outcome := .error .missing }) [severed] =
        .ok ⟨fun _ _ => { outcome := .error .missing }, [severed], none⟩ ∧
      (∀ rel ∈ [[0x2C], [0x62]], Glob.matches? severed rel = none ∧ ignored [severed] rel = false) ∧
      ∀ p ∈ unclear, Glob.wellFormed p.1 = true ∧ Glob.matches? p.1 p.2 = none := by
  have hcomma : Glob.matches? severed [0x2C] = none := by
    rw [severed, Glob.matches?_alternatives (by simp) (by rfl)]
    cbv
  have hletter : Glob.matches? severed [0x62] = none := by
    rw [severed, Glob.matches?_alternatives (by simp) (by rfl)]
    cbv
  have hopening : Glob.matches? [0x7B, 0x5B, 0x7B, 0x5D, 0x2C, 0x62, 0x7D] [0x62] = none :=
    Glob.Cursor.run_of_answer (by cbv)
  have hclosing : Glob.matches? [0x7B, 0x5B, 0x7D, 0x5D, 0x2C, 0x62, 0x7D] [0x62] = none := by
    rw [Glob.matches?_alternatives (by simp) (by rfl)]
    cbv
  -- What follows the member that the path is equal to is looked at as if it stood outside.
  have hnegated : ∀ b, Glob.wellFormed [b, 0x5D] = false →
      Glob.matches? [0x5B, 0x5E, 0x61, b, 0x5D] [0x61] = none := by
    intro b hb
    have hpath : Bytes.nextCode [0x61] = some (0x61, []) := rfl
    have hmember : Glob.literal [0x61, b, 0x5D] = (0x61, [b, 0x5D]) := rfl
    have hmiss : Glob.matchClass 0x61 [0x5E, 0x61, b, 0x5D] = .miss [b, 0x5D] := by
      simp [Glob.matchClass, Glob.classBody, Glob.scanMembers, hmember]
    exact Glob.Cursor.run_of_answer
      (by simp [Glob.Cursor.step, hpath, hmiss, Glob.Cursor.retry, hb])
  refine ⟨by cbv, by simp [ignored, hcomma, hletter], ?_⟩
  simp only [unclear, List.forall_mem_cons]
  exact ⟨⟨by cbv, hletter⟩, ⟨by cbv, hopening⟩, ⟨by cbv, hclosing⟩,
    ⟨by cbv, hnegated 0x5B (by cbv)⟩, ⟨by cbv, hnegated 0x7B (by cbv)⟩,
    ⟨by cbv, hnegated 0x7D (by cbv)⟩, by simp⟩

end Wordwalk.Walker
