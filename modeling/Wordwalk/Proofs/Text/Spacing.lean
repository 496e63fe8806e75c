import Wordwalk.Proofs.Text.Blanks
import Wordwalk.Proofs.Text.Cut

/-! When the tokens of a text, joined again with blanks between them, are the text: if it begins and
ends with a token and has these blanks wherever two tokens meet. With nothing put between the tokens
it must have no blank at all. -/
namespace Wordwalk

open Rune (decode flatten)

variable {s sep : Bytes} {c : Cut Rune}

namespace Cut

section Spaced

variable {α : Type} {p : α → Bool} {gap : List α} {runs : List (List α)}
  {parts : List (List α × List α)} {part : List α × List α}

theorem Alternates.of_mem (h : Alternates p parts) (hm : part ∈ parts) :
    (∀ a ∈ part.1, p a = false) ∧ ∀ a ∈ part.2, p a = true := by
  induction h with
  | nil => simp at hm
  | @cons run gap parts hne hrun hgap hlast hparts ih =>
    rcases List.mem_cons.mp hm with rfl | hm
    · exact ⟨hrun, hgap⟩
    · exact ih hm

/-- The runs with the stretch `gap` between each two of them. -/
def spaced (gap : List α) : List (List α) → List (List α × List α)
  | [] => []
  | [run] => [(run, [])]
  | run :: next :: runs => (run, gap) :: spaced gap (next :: runs)

theorem spaced_ne_nil (gap run : List α) (runs : List (List α)) : spaced gap (run :: runs) ≠ [] := by
  cases runs <;> simp [spaced]

theorem alternates_spaced (hne : gap ≠ []) (hgap : ∀ a ∈ gap, p a = true)
    (hruns : ∀ run ∈ runs, run ≠ [] ∧ ∀ a ∈ run, p a = false) :
    Alternates p (spaced gap runs) := by
  induction runs with
  | nil => exact .nil
  | cons run runs ih =>
    obtain ⟨⟨hrun, hplain⟩, hrest⟩ := List.forall_mem_cons.mp hruns
    cases runs with
    | nil => exact .cons hrun hplain (by simp) (fun _ => rfl) .nil
    | cons next runs => exact .cons hrun hplain hgap (fun h => absurd h hne) (ih hrest)

end Spaced

variable {gap : List Rune} {runs : List (List Rune)} {part : List Rune × List Rune}
  {parts : List (List Rune × List Rune)}

/-- Whether nothing stands before the first run or after the last, and what stands between each two
of them has the bytes `sep`. -/
structure SpacedBy (c : Cut Rune) (sep : Bytes) : Prop where
  front : c.front = []
  inner : ∀ part ∈ c.parts.dropLast, flatten part.2 = sep
  last : ∀ part ∈ c.parts.getLast?, part.2 = []

theorem spacedBy_singleton : SpacedBy ⟨[], [part]⟩ sep ↔ part.2 = [] := by
  constructor
  · intro h
    exact h.last part rfl
  · intro h
    exact ⟨rfl, by simp, by simp [h]⟩

theorem spacedBy_cons (hne : parts ≠ []) :
    SpacedBy ⟨[], part :: parts⟩ sep ↔ flatten part.2 = sep ∧ SpacedBy ⟨[], parts⟩ sep := by
  have hlast : (part :: parts).getLast? = parts.getLast? := List.getLast?_cons_of_ne_nil hne
  have hinner : (part :: parts).dropLast = part :: parts.dropLast := List.dropLast_cons_of_ne_nil hne
  constructor
  · rintro ⟨_, h, h'⟩
    rw [hinner, List.forall_mem_cons] at h
    rw [hlast] at h'
    exact ⟨h.1, rfl, h.2, h'⟩
  · rintro ⟨hpart, _, h, h'⟩
    refine ⟨rfl, ?_, ?_⟩
    · rw [hinner, List.forall_mem_cons]
      exact ⟨hpart, h⟩
    · rwa [hlast]

theorem spacedBy_spaced (gap : List Rune) (runs : List (List Rune)) :
    SpacedBy ⟨[], spaced gap runs⟩ (flatten gap) := by
  induction runs using spaced.induct with
  | case1 => exact ⟨rfl, by simp [spaced], by simp [spaced]⟩
  | case2 run => exact spacedBy_singleton.mpr rfl
  | case3 run next runs ih => exact (spacedBy_cons (spaced_ne_nil gap next runs)).mpr ⟨rfl, ih⟩

theorem together_spaced (hne : sep ≠ []) (hsep : (decode sep).all Rune.isBlank = true)
    (hruns : ∀ run ∈ runs, decode (flatten run) = run) :
    together (spaced (decode sep) runs) = decode (Bytes.join sep (runs.map flatten)) := by
  induction runs using spaced.induct with
  | case1 => rfl
  | case2 run =>
    have hrun : decode (flatten run) = run := hruns run (by simp)
    simp [spaced, together, Bytes.join, hrun]
  | case3 run next runs ih =>
    obtain ⟨hrun, hrest⟩ := List.forall_mem_cons.mp hruns
    rw [spaced, together_cons, ih hrest]
    simp only [List.map_cons, Bytes.join_cons]
    rw [decode_append_blank hne hsep, hrun, List.append_assoc]

/-- The bytes of evenly spaced runs are the runs joined. -/
theorem join_runs (h : SpacedBy ⟨[], parts⟩ sep) :
    Bytes.join sep (parts.map fun part => flatten part.1) =
      parts.flatMap fun part => flatten part.1 ++ flatten part.2 := by
  induction parts with
  | nil => rfl
  | cons part parts ih =>
    cases parts with
    | nil =>
      have hgap : part.2 = [] := spacedBy_singleton.mp h
      simp [Bytes.join, hgap, flatten]
    | cons next parts =>
      obtain ⟨hgap, hrest⟩ := (spacedBy_cons (by simp)).mp h
      rw [List.flatMap_cons, ← ih hrest, hgap]
      rfl

namespace Of

theorem tokens_eq (hc : c.Of Rune.isBlank (decode s)) :
    tokens s = c.parts.map fun part => flatten part.1 := by
  rw [tokens, hc.runs_eq, List.map_map]
  rfl

theorem join_tokens (hc : c.Of Rune.isBlank (decode s)) (h : c.SpacedBy sep) :
    Bytes.join sep (tokens s) = s := by
  obtain ⟨front, parts⟩ := c
  obtain rfl : front = [] := h.front
  rw [hc.tokens_eq, join_runs h]
  exact hc.flatten_append

/-- A text that is its tokens joined by blanks is cut as they are put together. -/
theorem spacedBy_of_join_eq (hne : sep ≠ []) (hsep : (decode sep).all Rune.isBlank = true)
    (hc : c.Of Rune.isBlank (decode s)) (h : Bytes.join sep (tokens s) = s) : c.SpacedBy sep := by
  have hruns : ∀ run ∈ runs Rune.isBlank (decode s), IsRun Rune.isBlank (decode s) run :=
    fun run hm => isRun_of_mem_runs hm
  have hdecode : decode sep ≠ [] := by
    intro hnil
    have hbytes := Rune.flatten_decode sep
    rw [hnil] at hbytes
    exact hne hbytes.symm
  -- The runs of the text with the separator between them are a cut of it too, so they are the cut.
  have hof : Of Rune.isBlank (decode s)
      ⟨[], spaced (decode sep) (runs Rune.isBlank (decode s))⟩ := by
    refine ⟨?_, by simp, ?_⟩
    · have htogether := together_spaced hne hsep fun run hm =>
        Rune.decode_flatten_of_isRun (hruns run hm)
      exact htogether.trans (congrArg decode h)
    · refine alternates_spaced hdecode (List.all_eq_true.mp hsep) fun run hm => ?_
      exact ⟨(hruns run hm).1, (hruns run hm).2.1⟩
  have hspaced := spacedBy_spaced (decode sep) (runs Rune.isBlank (decode s))
  rw [Rune.flatten_decode] at hspaced
  rwa [hc.unique hof]

/-- A text without blanks is cut nowhere. -/
theorem spacedBy_of_hasBlank_eq_false (hc : c.Of Rune.isBlank (decode s))
    (h : hasBlank s = false) : c.SpacedBy [] := by
  have hnone : ∀ l : List Rune, (∀ r ∈ l, r ∈ decode s) → (∀ r ∈ l, r.isBlank = true) → l = [] := by
    intro l hmem hblank
    rw [List.eq_nil_iff_forall_not_mem]
    intro r hr
    have hplain : r.isBlank = false := by
      simpa using List.any_eq_false.mp h r (hmem r hr)
    simp [hblank r hr] at hplain
  have hgap : ∀ part ∈ c.parts, part.2 = [] := by
    intro part hm
    refine hnone part.2 (fun r hr => ?_) (hc.alternates.of_mem hm).2
    have hr' : r ∈ together c.parts := List.mem_flatMap.mpr ⟨part, hm, by simp [hr]⟩
    rw [← hc.elements]
    exact List.mem_append_right _ hr'
  refine ⟨hnone c.front (fun r hr => ?_) hc.front, fun part hm => ?_, fun part hm => ?_⟩
  · rw [← hc.elements]
    exact List.mem_append_left _ hr
  · rw [hgap part (List.dropLast_subset _ hm)]
    rfl
  · exact hgap part (List.mem_of_getLast? hm)

end Of

end Cut

theorem flatten_tokens_of_plain (h : hasBlank s = false) : (tokens s).flatten = s := by
  by_cases hne : s = []
  · rw [hne]
    rfl
  · rw [tokens_of_hasBlank_eq_false hne h, List.flatten_singleton]

theorem length_flatten_tokens_le (s : Bytes) : (tokens s).flatten.length ≤ s.length := by
  induction s using blank_induction with
  | plain s hs => rw [flatten_tokens_of_plain hs]
  | split a w t ha hw ih =>
    rw [tokens_append_blank hw.ne_nil hw.all_isBlank, List.flatten_append,
      flatten_tokens_of_plain ha]
    simp only [List.length_append]
    omega

/-- The tokens of a text with a blank have fewer bytes than the text. -/
theorem hasBlank_of_flatten_tokens (h : (tokens s).flatten = s) : hasBlank s = false := by
  rcases exists_first_blank s with hs | ⟨a, w, t, rfl, ha, hw⟩
  · exact hs
  · have hlength := congrArg List.length h
    have hle := length_flatten_tokens_le a
    have hle' := length_flatten_tokens_le t
    have hpos := List.length_pos_iff.mpr hw.ne_nil
    rw [tokens_append_blank hw.ne_nil hw.all_isBlank] at hlength
    simp only [List.flatten_append, List.length_append] at hlength
    omega

namespace Cut.Of

theorem spacedBy_nil_iff (hc : c.Of Rune.isBlank (decode s)) :
    c.SpacedBy [] ↔ hasBlank s = false := by
  constructor
  · intro h
    have hjoin := hc.join_tokens h
    rw [Bytes.join_nil] at hjoin
    exact hasBlank_of_flatten_tokens hjoin
  · intro h
    exact hc.spacedBy_of_hasBlank_eq_false h

/-- A text is its tokens joined by blanks if and only if these stand wherever two of its tokens
meet, and nothing around them. -/
theorem join_tokens_eq_iff (hsep : (decode sep).all Rune.isBlank = true)
    (hc : c.Of Rune.isBlank (decode s)) : Bytes.join sep (tokens s) = s ↔ c.SpacedBy sep := by
  constructor
  · intro h
    by_cases hne : sep = []
    · subst hne
      rw [Bytes.join_nil] at h
      exact hc.spacedBy_of_hasBlank_eq_false (hasBlank_of_flatten_tokens h)
    · exact hc.spacedBy_of_join_eq hne hsep h
  · intro h
    exact hc.join_tokens h

end Cut.Of

end Wordwalk
