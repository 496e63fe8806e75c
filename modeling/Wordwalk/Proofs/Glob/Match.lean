import Wordwalk.Glob.Match
import Wordwalk.Proofs.Glob.Alternatives
import Wordwalk.Proofs.Glob.Class

/-! Matching a name against a plain pattern always comes to an answer. -/
namespace Wordwalk.Glob

open Rune

variable {s pat token rest name stop : Bytes} {b : UInt8} {c : Cursor}

theorem firstDecided_ne_none {α : Type} {f : α → Option Bool} {as : List α}
    (h : ∀ a ∈ as, f a ≠ none) : firstDecided f as ≠ none := by
  induction as with
  | nil => exact Option.some_ne_none false
  | cons a as ih =>
    obtain ⟨ha, has⟩ := List.forall_mem_cons.mp h
    rw [firstDecided]
    split
    · exact ih has
    · exact ha

theorem firstDecided_map {α β : Type} (f : β → Option Bool) (g : α → β) (as : List α) :
    firstDecided f (as.map g) = firstDecided (fun a => f (g a)) as := by
  induction as with
  | nil => rfl
  | cons a as ih => rw [List.map_cons, firstDecided, firstDecided, ih]

theorem takesEmpty_ne_none (h : Plain 0 pat) : takesEmpty pat ≠ none := by
  fun_induction takesEmpty pat with
  | case1 => exact Option.some_ne_none true
  | case2 s hnone =>
    obtain ⟨alts, rest, hfound, _⟩ := h.exists_choices
    cases hnone.symm.trans hfound
  | case3 s alts rest hfound _ ih =>
    obtain ⟨alts, rest, hfound', hplain⟩ := h.exists_choices
    obtain ⟨rfl, rfl⟩ := Prod.mk.inj (Option.some.inj (hfound.symm.trans hfound'))
    exact firstDecided_ne_none fun alt _ => ih alt (hplain alt.1 alt.2)
  | case4 s _ hwell =>
    rw [if_pos hwell]
    exact Option.some_ne_none false
  | case5 s _ hwell => exact absurd h.balanced_eq hwell

namespace Cursor

/-- Whether the pattern that is left, and the patterns read since the places to come back to, are
plain each by itself. -/
structure IsPlain (c : Cursor) : Prop where
  pat : Plain 0 c.pat
  star : Plain 0 c.star.seen.reverse
  deep : Plain 0 c.deep.seen.reverse

/-- Whether a step finds nothing wrong and leads on to plain cursors. -/
def StaysPlain : Step → Prop
  | .answer verdict => verdict ≠ none
  | .move next => next.IsPlain
  | .choose options => ∀ c ∈ options, c.IsPlain

/-- A part of the pattern that is plain by itself can be taken. -/
theorem IsPlain.take (h : c.IsPlain) (hpat : c.pat = token ++ rest) (htoken : Plain 0 token)
    (hrest : Plain 0 rest) (name : Bytes) (atStart : Bool) :
    (c.take token.length name atStart).IsPlain where
  pat := by simpa [Cursor.take, hpat] using hrest
  star := by simpa [Cursor.take, hpat] using h.star.append htoken
  deep := h.deep

theorem IsPlain.markStar (h : c.IsPlain) (hpat : c.pat = token ++ rest) (htoken : Plain 0 token)
    (hrest : Plain 0 rest) : (c.markStar token.length).IsPlain where
  pat := by simpa [Cursor.markStar, hpat] using hrest
  star := .nil
  deep := by
    simpa [Cursor.markStar, hpat, List.append_assoc] using h.deep.append (h.star.append htoken)

theorem IsPlain.markDeep (hpat : c.pat = token ++ rest) (hrest : Plain 0 rest) :
    (c.markDeep token.length).IsPlain where
  pat := by simpa [Cursor.markDeep, hpat] using hrest
  star := .nil
  deep := .nil

theorem IsPlain.retry (h : c.IsPlain) (hstop : wellFormed stop = true) :
    StaysPlain (c.retry stop) := by
  unfold Cursor.retry
  split
  · exact ⟨h.star.append h.pat, .nil, h.deep⟩
  · split
    · exact ⟨List.append_assoc _ _ _ ▸ h.deep.append (h.star.append h.pat), .nil, .nil⟩
    · rw [if_pos hstop]
      exact Option.some_ne_none false

theorem IsPlain.compare (h : c.IsPlain) (hpat : c.pat = token ++ rest) (htoken : Plain 0 token)
    (hrest : Plain 0 rest) (hstop : wellFormed stop = true) (y x : Nat) (name : Bytes) :
    StaysPlain (c.compare token.length y x name stop) := by
  unfold Cursor.compare
  split
  · exact h.take hpat htoken hrest name _
  · exact h.retry hstop

/-- The bytes of a rune of a plain pattern can be taken, after a backslash too. -/
theorem plain_rune (h : Plain 0 s) (b : UInt8) :
    Plain 0 (s.take (width b s)) ∧ Plain 0 (s.drop (width b s)) := by
  have hordinary : ∀ c ∈ s.take (width b s), IsOrdinary c := fun c hc =>
    (isOrdinary_of_continues (continues_of_mem_tail b s c hc)).1
  constructor
  · have hnil : Plain 0 (s.take (width b s) ++ []) := (plain_append_iff hordinary).mpr .nil
    rwa [List.append_nil] at hnil
  · exact (plain_append_iff hordinary).mp (by rwa [List.take_append_drop])

/-- A rune of the pattern that stands for itself, with a backslash before it or not, can be compared
with one of the name. -/
theorem IsPlain.compare_rune {front : Bytes} (h : c.IsPlain) (hpat : c.pat = front ++ b :: s)
    (hs : Plain 0 s) (hfront : ∀ t, Plain 0 t → Plain 0 (front ++ b :: t))
    (hstop : wellFormed stop = true) (y x : Nat) (name : Bytes) :
    StaysPlain (c.compare (front ++ (first b s).bytes).length y x name stop) := by
  obtain ⟨htake, hdrop⟩ := plain_rune hs b
  have hcut : c.pat = (front ++ (first b s).bytes) ++ s.drop (width b s) := by
    rw [hpat, List.append_assoc, first_bytes_append]
  have htoken : Plain 0 (front ++ (first b s).bytes) := by
    rw [first_bytes_eq]
    exact hfront _ htake
  exact h.compare hcut htoken hdrop hstop y x name

/-- No step from a plain cursor finds anything wrong with the pattern. -/
theorem IsPlain.step (h : c.IsPlain) : StaysPlain c.step := by
  have hplain := h.pat
  have hwell : wellFormed c.pat = true := hplain.balanced_eq
  -- One case for each way in which the pattern can go on, in the order of the definition.
  unfold Cursor.step
  split
  · exact takesEmpty_ne_none hplain
  · rename_i x name _
    split
    · exact h.retry Plain.nil.balanced_eq
    · rename_i s hpat
      have hs : Plain 0 s := by
        rwa [hpat, plain_byte_iff (by decide), plain_byte_iff (by decide)] at hplain
      split
      · exact Option.some_ne_none true
      · split
        · rename_i hslash
          rw [Bool.and_eq_true, beq_iff_eq, List.head?_eq_some_iff] at hslash
          obtain ⟨_, s, rfl⟩ := hslash
          have hcut : c.pat = [0x2A, 0x2A, 0x2F] ++ s := hpat
          exact IsPlain.markDeep hcut ((plain_byte_iff (by decide)).mp hs)
        · have hcut : c.pat = [0x2A, 0x2A] ++ s := hpat
          exact h.markStar hcut (.byte (by decide) (.byte (by decide) .nil)) hs
    · rename_i s _ hpat
      have hs : Plain 0 s := (plain_byte_iff (by decide)).mp (hpat ▸ hplain)
      have hcut : c.pat = [0x2A] ++ s := hpat
      exact h.markStar hcut (.byte (by decide) .nil) hs
    · rename_i s hpat
      split
      · exact h.retry hwell
      · have hs : Plain 0 s := (plain_byte_iff (by decide)).mp (hpat ▸ hplain)
        have hcut : c.pat = [0x3F] ++ s := hpat
        exact h.take hcut (.byte (by decide) .nil) hs name false
    · rename_i s hpat
      obtain ⟨cls, rest, rfl, hcls, hrest⟩ := (hpat ▸ hplain : Plain 0 (0x5B :: s)).exists_class
      have htoken : Plain 0 (0x5B :: cls) := by simpa using Plain.cls hcls .nil
      rcases hcls.matchClass_cases x rest with hmatch | ⟨stop, hmatch, hstop⟩
      · have hlength : c.pat.length - rest.length = (0x5B :: cls).length := by
          simp [hpat]
          omega
        simp only [hmatch, hlength]
        exact h.take hpat htoken hrest name false
      · simp only [hmatch]
        exact h.retry (hstop.trans hrest.balanced_eq)
    · rename_i s hpat
      obtain ⟨alts, rest, hfound, hchoices⟩ := (hpat ▸ hplain : Plain 0 (0x7B :: s)).exists_choices
      simp only [hfound]
      intro d hd
      obtain ⟨alt, halt, rfl⟩ := List.mem_map.mp hd
      exact ⟨hchoices alt halt, h.star, h.deep⟩
    · rename_i hpat
      obtain ⟨b, s, hs, _⟩ := (hpat ▸ hplain : Plain 0 [0x5C]).exists_escape
      cases hs
    · rename_i b s hpat
      obtain ⟨_, _, hcons, hs⟩ := (hpat ▸ hplain : Plain 0 (0x5C :: b :: s)).exists_escape
      obtain ⟨rfl, rfl⟩ := List.cons.inj hcons
      have hcut : c.pat = [0x5C] ++ b :: s := hpat
      exact h.compare_rune hcut hs (fun _ => .escape b) hwell _ x name
    · rename_i b s _ _ _ hclass hopen _ hslash hpat
      rw [hpat] at hplain
      have hb : IsOrdinary b := by
        refine ⟨?_, hclass, hopen, ?_⟩
        · rintro rfl
          obtain ⟨_, _, rfl, _⟩ := hplain.exists_escape
          exact hslash _ _ rfl rfl
        · rintro rfl
          exact not_plain_closed hplain
      have hs := (plain_byte_iff hb).mp hplain
      have hcut : c.pat = [] ++ b :: s := hpat
      refine h.compare_rune hcut hs (fun _ => .byte hb) ?_ _ x name
      -- A backslash that was read before the byte protects it, and that changes nothing.
      split
      · rw [hpat, wellFormed, balanced_escape, hs.balanced_eq]
      · exact hwell

/-- A match against a plain pattern is decided. -/
theorem IsPlain.run_ne_none (h : c.IsPlain) : c.run ≠ none := by
  have hstep := h.step
  fun_induction Cursor.run c with
  | case1 c verdict hanswer =>
    rw [hanswer] at hstep
    exact hstep
  | case2 c d hmove ih =>
    rw [hmove] at hstep
    exact ih hstep hstep.step
  | case3 c ds hchoose ih =>
    rw [hchoose] at hstep
    exact firstDecided_ne_none fun d _ => ih d (hstep d.1 d.2) (hstep d.1 d.2).step

theorem run_of_answer {verdict : Option Bool} (h : c.step = .answer verdict) : c.run = verdict := by
  rw [run]
  split
  · rename_i hanswer
    exact Step.answer.inj (hanswer.symm.trans h)
  · rename_i hmove
    cases hmove.symm.trans h
  · rename_i hchoose
    cases hchoose.symm.trans h

theorem run_of_choose {options : List Cursor} (h : c.step = .choose options) :
    c.run = firstDecided run options := by
  rw [run]
  split
  · rename_i hanswer
    cases hanswer.symm.trans h
  · rename_i hmove
    cases hmove.symm.trans h
  · rename_i hchoose
    obtain rfl := Step.choose.inj (hchoose.symm.trans h)
    rw [← firstDecided_map run Subtype.val, List.attach_map_subtype_val]

end Cursor

/-- A well-formed pattern with clear classes takes a name or does not take it. -/
theorem matches?_ne_none (hwell : wellFormed pat = true) (hclear : ClearClasses pat)
    (name : Bytes) : matches? pat name ≠ none :=
  Cursor.IsPlain.run_ne_none ⟨plain_of_balanced hwell hclear, .nil, .nil⟩

/-- A name is matched against the alternatives that a pattern begins with in turn. -/
theorem matches?_alternatives {alts : List Bytes} (hname : name ≠ [])
    (h : alternatives 0 s = some (alts, rest)) :
    matches? (0x7B :: s) name = firstDecided (fun alt => matches? (alt ++ rest) name) alts := by
  obtain ⟨b, name, rfl⟩ := List.exists_cons_of_ne_nil hname
  have hstep : (⟨0x7B :: s, b :: name, true, ⟨none, []⟩, ⟨none, []⟩⟩ : Cursor).step =
      .choose (alts.map fun alt => ⟨alt ++ rest, b :: name, true, ⟨none, []⟩, ⟨none, []⟩⟩) := by
    simp [Cursor.step, Bytes.nextCode, h]
  rw [matches?, Cursor.run_of_choose hstep, firstDecided_map]
  rfl

end Wordwalk.Glob
