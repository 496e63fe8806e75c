import Wordwalk.Proofs.Text.Token

/-! The one way to cut a text into its tokens and the blanks around them. -/
namespace Wordwalk

/-- A list cut into stretches: the one in front of the first run, and each run with the one after
it. -/
structure Cut (α : Type) where
  front : List α
  parts : List (List α × List α)

namespace Cut

variable {α : Type} {p : α → Bool} {Q : α → Prop} {l u v s t : List α}
  {parts parts' : List (List α × List α)} {c c' : Cut α}

/-- Whether the pairs are runs in which `p` fails everywhere, each with a stretch after it in which
`p` holds everywhere. Only the stretch after the last run may be empty. -/
inductive Alternates (p : α → Bool) : List (List α × List α) → Prop where
  | nil : Alternates p []
  | cons {run gap : List α} {parts : List (List α × List α)} :
      run ≠ [] → (∀ a ∈ run, p a = false) → (∀ a ∈ gap, p a = true) →
        (gap = [] → parts = []) → Alternates p parts → Alternates p ((run, gap) :: parts)

/-- The pairs put together again. -/
def together (parts : List (List α × List α)) : List α := parts.flatMap fun part => part.1 ++ part.2

/-- Whether the cut goes through the list `l` at the elements that satisfy `p`, and loses none. -/
structure Of (p : α → Bool) (l : List α) (c : Cut α) : Prop where
  elements : c.front ++ together c.parts = l
  front : ∀ a ∈ c.front, p a = true
  alternates : Alternates p c.parts

theorem together_cons (run gap : List α) (parts : List (List α × List α)) :
    together ((run, gap) :: parts) = run ++ (gap ++ together parts) := by
  simp [together]

/-- What begins a list up to the first element without the property is determined by the list. -/
theorem eq_of_append_eq (hu : ∀ a ∈ u, Q a) (hv : ∀ a ∈ v, Q a) (hs : ∀ a ∈ s.head?, ¬ Q a)
    (ht : ∀ a ∈ t.head?, ¬ Q a) (h : u ++ s = v ++ t) : u = v ∧ s = t := by
  induction u generalizing v with
  | nil =>
    cases v with
    | nil => exact ⟨rfl, h⟩
    | cons b v =>
      obtain rfl : s = b :: (v ++ t) := h
      exact absurd (hv b (by simp)) (hs b rfl)
  | cons a u ih =>
    cases v with
    | nil =>
      obtain rfl : a :: (u ++ s) = t := h
      exact absurd (hu a (by simp)) (ht a rfl)
    | cons b v =>
      obtain ⟨rfl, hrest⟩ := List.cons.inj h
      have hu' : ∀ a ∈ u, Q a := fun a ha => hu a (by simp [ha])
      have hv' : ∀ a ∈ v, Q a := fun a ha => hv a (by simp [ha])
      obtain ⟨rfl, hst⟩ := ih hu' hv' hrest
      exact ⟨rfl, hst⟩

namespace Alternates

theorem head_together (h : Alternates p parts) : ∀ a ∈ (together parts).head?, p a = false := by
  cases h with
  | nil => simp [together]
  | @cons run gap parts hne hrun hgap hlast hparts =>
    intro a ha
    cases run with
    | nil => exact absurd rfl hne
    | cons b run =>
      rw [together_cons] at ha
      obtain rfl : b = a := by simpa using ha
      exact hrun b (by simp)

theorem head_gap {gap : List α} (hgap : ∀ a ∈ gap, p a = true) (hlast : gap = [] → parts = []) :
    ∀ a ∈ (gap ++ together parts).head?, p a = true := by
  intro a ha
  cases gap with
  | nil =>
    obtain rfl : parts = [] := hlast rfl
    simp [together] at ha
  | cons b gap =>
    obtain rfl : b = a := by simpa using ha
    exact hgap b (by simp)

theorem unique (h : Alternates p parts) (h' : Alternates p parts')
    (heq : together parts = together parts') : parts = parts' := by
  induction h generalizing parts' with
  | nil =>
    cases h' with
    | nil => rfl
    | cons hne _ _ _ _ => simp [together, hne] at heq
  | @cons run gap parts hne hrun hgap hlast hparts ih =>
    cases h' with
    | nil => simp [together, hne] at heq
    | @cons run' gap' parts' hne' hrun' hgap' hlast' hparts' =>
      rw [together_cons, together_cons] at heq
      obtain ⟨rfl, hrest⟩ := eq_of_append_eq (Q := fun a => p a = false) hrun hrun'
        (fun a ha => by simp [head_gap hgap hlast a ha])
        (fun a ha => by simp [head_gap hgap' hlast' a ha]) heq
      obtain ⟨rfl, htogether⟩ := eq_of_append_eq (Q := fun a => p a = true) hgap hgap'
        (fun a ha => by simp [hparts.head_together a ha])
        (fun a ha => by simp [hparts'.head_together a ha]) hrest
      rw [ih hparts' htogether]

theorem runs_together (h : Alternates p parts) : runs p (together parts) = parts.map Prod.fst := by
  induction h with
  | nil => rfl
  | @cons run gap parts hne hrun hgap hlast hparts ih =>
    rw [together_cons]
    cases gap with
    | nil =>
      obtain rfl : parts = [] := hlast rfl
      simpa [together] using runs_eq_singleton hne hrun
    | cons b gap =>
      have hb : p b = true := hgap b (by simp)
      have hleft : runs p (gap ++ together parts) = runs p (together parts) :=
        runs_append_left fun a ha => hgap a (by simp [ha])
      rw [List.cons_append, runs_append hb, hleft, ih, runs_eq_singleton hne hrun]
      rfl

end Alternates

theorem exists_of (p : α → Bool) (l : List α) : ∃ c : Cut α, c.Of p l := by
  induction l with
  | nil => exact ⟨⟨[], []⟩, rfl, by simp, .nil⟩
  | cons a l ih =>
    obtain ⟨⟨front, parts⟩, rfl, hfront, hparts⟩ := ih
    cases ha : p a with
    | true => exact ⟨⟨a :: front, parts⟩, rfl, by simpa [ha] using hfront, hparts⟩
    | false =>
      -- The element begins a run of its own unless the first run follows at once.
      by_cases hnew : front = [] → parts = []
      · refine ⟨⟨[], ([a], front) :: parts⟩, by simp [together_cons], by simp, ?_⟩
        exact .cons (by simp) (by simpa using ha) hfront hnew hparts
      · obtain ⟨rfl, hne⟩ : front = [] ∧ parts ≠ [] := by simpa using hnew
        cases hparts with
        | nil => exact absurd rfl hne
        | @cons run gap parts _ hrun hgap hlast hparts =>
          refine ⟨⟨[], (a :: run, gap) :: parts⟩, by simp [together_cons], by simp, ?_⟩
          exact .cons (by simp) (by simpa [ha] using hrun) hgap hlast hparts

namespace Of

theorem unique (h : c.Of p l) (h' : c'.Of p l) : c = c' := by
  obtain ⟨front, parts⟩ := c
  obtain ⟨front', parts'⟩ := c'
  obtain ⟨hfront, hparts⟩ := eq_of_append_eq (Q := fun a => p a = true) h.front h'.front
    (fun a ha => by simp [h.alternates.head_together a ha])
    (fun a ha => by simp [h'.alternates.head_together a ha]) (h.elements.trans h'.elements.symm)
  rw [Cut.mk.injEq]
  exact ⟨hfront, h.alternates.unique h'.alternates hparts⟩

theorem runs_eq (h : c.Of p l) : runs p l = c.parts.map Prod.fst := by
  rw [← h.elements, runs_append_left h.front, h.alternates.runs_together]

end Of

/-- The bytes of the stretches of a cut are those of the text, in order. -/
theorem Of.flatten_append {s : Bytes} {c : Cut Rune} (h : c.Of Rune.isBlank (Rune.decode s)) :
    Rune.flatten c.front ++
        c.parts.flatMap (fun part => Rune.flatten part.1 ++ Rune.flatten part.2) = s := by
  have htogether : Rune.flatten (together c.parts) =
      c.parts.flatMap fun part => Rune.flatten part.1 ++ Rune.flatten part.2 := by
    simp [Rune.flatten, together, List.flatMap_assoc]
  rw [← htogether, Rune.flatten, Rune.flatten, ← List.flatMap_append, h.elements]
  exact Rune.flatten_decode s

end Cut

/-- There is exactly one way to cut the runes of a text into blanks, a token, blanks, a token and so
on to the end, where only the first and the last blanks may be missing and no token is empty; its
tokens are the tokens of the text, in order, and its pieces hold the bytes of the text. Each token
is its own only token. -/
theorem tokens_of_unique_cut (s : Bytes) :
    (∃ c : Cut Rune, c.Of Rune.isBlank (Rune.decode s) ∧
      (∀ c' : Cut Rune, c'.Of Rune.isBlank (Rune.decode s) → c' = c) ∧
      Rune.flatten c.front ++
          c.parts.flatMap (fun part => Rune.flatten part.1 ++ Rune.flatten part.2) = s ∧
      tokens s = c.parts.map fun part => Rune.flatten part.1) ∧
    ∀ token ∈ tokens s, tokens token = [token] := by
  obtain ⟨c, hc⟩ := Cut.exists_of Rune.isBlank (Rune.decode s)
  refine ⟨⟨c, hc, fun c' hc' => hc'.unique hc, hc.flatten_append, ?_⟩, ?_⟩
  · rw [tokens, hc.runs_eq, List.map_map]
    rfl
  · intro token htoken
    exact tokens_of_mem_tokens htoken

/-- A line separator stands between two tokens, of which the second ends within a rune. -/
example : tokens [0x20, 0x61, 0xE2, 0x80, 0xA8, 0xE2, 0x80] = [[0x61], [0xE2, 0x80]] := by decide

end Wordwalk
