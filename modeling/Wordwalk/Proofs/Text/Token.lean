import Mathlib.Data.List.TakeWhile
import Wordwalk.Proofs.Text.Rune
import Wordwalk.Text.Token

/-! The tokens of a text that was put together from pieces. A token keeps its runes when it is cut
out, and texts with blanks between them have the tokens of each in turn. -/
namespace Wordwalk

section Runs

variable {α : Type} {p : α → Bool} {a : α} {l m run : List α}

theorem openRun_fst (p : α → Bool) (l : List α) :
    (openRun p l).1 = l.takeWhile fun a => !p a := by
  induction l with
  | nil => rfl
  | cons a l ih =>
    cases ha : p a with
    | true => simp [openRun, ha]
    | false => simp [openRun, ha, ih]

theorem openRun_append (ha : p a = true) (l m : List α) :
    openRun p (l ++ a :: m) = ((openRun p l).1, (openRun p l).2 ++ runs p m) := by
  induction l with
  | nil => simp [openRun, ha, runs]
  | cons c l ih =>
    cases hc : p c with
    | true =>
      simp only [List.cons_append, openRun, ih, hc, if_true]
      split <;> rfl
    | false => simp [openRun, ih, hc]

/-- An element that satisfies `p` parts the runs before it from those after it. -/
theorem runs_append (ha : p a = true) (l m : List α) :
    runs p (l ++ a :: m) = runs p l ++ runs p m := by
  simp only [runs, openRun_append ha]
  split <;> rfl

theorem runs_append_left (hl : ∀ c ∈ l, p c = true) : runs p (l ++ m) = runs p m := by
  induction l with
  | nil => rfl
  | cons c l ih =>
    rw [List.cons_append, runs_cons_of_pos (hl c (by simp))]
    exact ih fun d hd => hl d (by simp [hd])

theorem runs_eq_singleton (hne : run ≠ []) (hrun : ∀ c ∈ run, p c = false) :
    runs p run = [run] := by
  have hopen : ∀ l : List α, (∀ c ∈ l, p c = false) → openRun p l = (l, []) := by
    intro l hl
    induction l with
    | nil => rfl
    | cons c l ih =>
      have hc : p c = false := hl c (by simp)
      simp [openRun, ih fun d hd => hl d (by simp [hd]), hc]
  simp [runs, hopen run hrun, hne]

theorem runs_cons_of_neg (ha : p a = false) (l : List α) :
    runs p (a :: l) = (a :: (openRun p l).1) :: (openRun p l).2 := by
  simp [runs, openRun, ha]

theorem runs_eq_nil_iff : runs p l = [] ↔ ∀ c ∈ l, p c = true := by
  induction l with
  | nil => simp
  | cons c l ih =>
    cases hc : p c with
    | true => rw [runs_cons_of_pos hc, ih, List.forall_mem_cons, and_iff_right hc]
    | false => simp [runs_cons_of_neg hc, hc]

theorem openRun_snd_subset (p : α → Bool) (l : List α) : (openRun p l).2 ⊆ runs p l := by
  intro m hm
  simp only [runs]
  split
  · exact hm
  · exact List.mem_cons_of_mem _ hm

/-- A stretch of a list that is not empty, satisfies `p` nowhere, and ends where the list does or
where `p` holds. -/
def IsRun (p : α → Bool) (l run : List α) : Prop :=
  run ≠ [] ∧ (∀ c ∈ run, p c = false) ∧
    ∃ before after, l = before ++ (run ++ after) ∧ ∀ c ∈ after.head?, p c = true

theorem IsRun.cons (h : IsRun p l run) (a : α) : IsRun p (a :: l) run := by
  obtain ⟨hne, hrun, before, after, rfl, hafter⟩ := h
  exact ⟨hne, hrun, a :: before, after, rfl, hafter⟩

theorem isRun_of_mem_runs (h : run ∈ runs p l) : IsRun p l run := by
  induction l with
  | nil => simp at h
  | cons a l ih =>
    cases ha : p a with
    | true =>
      rw [runs_cons_of_pos ha] at h
      exact (ih h).cons a
    | false =>
      rw [runs_cons_of_neg ha, List.mem_cons] at h
      rcases h with rfl | h
      · rw [openRun_fst]
        refine ⟨by simp, ?_, [], l.dropWhile fun a => !p a, by simp, ?_⟩
        · intro c hc
          rcases List.mem_cons.mp hc with rfl | hc
          · exact ha
          · simpa using List.mem_takeWhile_imp hc
        · intro c hc
          have := List.head?_dropWhile_not (fun a => !p a) l
          rw [Option.mem_def.mp hc] at this
          simpa using this
      · exact (ih (openRun_snd_subset p l h)).cons a

end Runs

namespace Rune

variable {r : Rune} {rs : List Rune} {s t sep token : Bytes}

theorem code_ne_of_isBlank (h : r.isBlank = true) : r.code ≠ replacement := by
  intro hcode
  rw [isBlank, hcode] at h
  exact absurd h (by decide)

/-- A blank rune is well formed, so it goes on with nothing that stands before it. -/
theorem startsFresh_of_isBlank {b : UInt8} (h : (first b s).isBlank = true) (t : Bytes) :
    Bytes.startsFresh (b :: t) = true := by
  cases hb : continues 0x80 0xBF b with
  | false => simp [Bytes.startsFresh, hb]
  | true =>
    refine absurd ?_ (code_ne_of_isBlank h)
    simp [first, following_of_continues hb]

theorem startsFresh_flatten (hs : ∀ r ∈ rs, r ∈ decode s)
    (hblank : ∀ r ∈ rs.head?, r.isBlank = true) : Bytes.startsFresh (flatten rs) = true := by
  cases rs with
  | nil => rfl
  | cons r rs =>
    obtain ⟨b, t, rfl⟩ := exists_of_mem_decode (hs r (by simp))
    obtain ⟨k, _, hbytes⟩ := first_bytes b t
    rw [flatten, List.flatMap_cons, hbytes]
    exact startsFresh_of_isBlank (hblank (first b t) (by simp)) _

/-- A run of runes without a blank decodes alone as it does in its text. -/
theorem decode_flatten_of_isRun (h : IsRun isBlank (decode s) rs) : decode (flatten rs) = rs := by
  obtain ⟨_, _, before, after, hs, hafter⟩ := h
  have hsuffix := decode_flatten_of_suffix hs
  have hend : decode s = before ++ rs ++ after := by simp [hs]
  have hrest := decode_flatten_of_suffix hend
  have hfresh : Bytes.startsFresh (flatten after) = true :=
    startsFresh_flatten (fun r hr => by rw [hend]; exact List.mem_append_right _ hr) hafter
  rw [flatten, List.flatMap_append] at hsuffix
  change decode (flatten rs ++ flatten after) = rs ++ after at hsuffix
  rw [decode_append (Or.inl hfresh), hrest] at hsuffix
  exact List.append_cancel_right hsuffix

end Rune

variable {s t sep token : Bytes} {parts : List Bytes}

/-- The runes of a token are a run of the runes of its text. -/
theorem isRun_decode_token (h : token ∈ tokens s) :
    IsRun Rune.isBlank (Rune.decode s) (Rune.decode token) := by
  obtain ⟨rs, hrs, rfl⟩ := List.mem_map.mp h
  have hrun := isRun_of_mem_runs hrs
  rwa [Rune.decode_flatten_of_isRun hrun]

theorem hasBlank_of_mem_tokens (h : token ∈ tokens s) : hasBlank token = false := by
  obtain ⟨_, hrun, _⟩ := isRun_decode_token h
  simpa [hasBlank] using hrun

theorem ne_nil_of_mem_tokens (h : token ∈ tokens s) : token ≠ [] := by
  rintro rfl
  obtain ⟨hne, _⟩ := isRun_decode_token h
  exact hne rfl

/-- A text without blanks is its own only token unless it is empty. -/
theorem tokens_of_hasBlank_eq_false (hne : s ≠ []) (h : hasBlank s = false) : tokens s = [s] := by
  have hdecode : Rune.decode s ≠ [] := by
    intro hd
    rw [← Rune.flatten_decode s, hd] at hne
    exact hne rfl
  have hrun : ∀ r ∈ Rune.decode s, r.isBlank = false := by
    simpa [hasBlank] using h
  rw [tokens, runs_eq_singleton hdecode hrun, List.map_singleton, Rune.flatten_decode]

/-- A token is its own only token. -/
theorem tokens_of_mem_tokens (h : token ∈ tokens s) : tokens token = [token] :=
  tokens_of_hasBlank_eq_false (ne_nil_of_mem_tokens h) (hasBlank_of_mem_tokens h)

/-- A text is a token of some text if and only if it is a token of its own. -/
theorem exists_mem_tokens_iff :
    (∃ s, token ∈ tokens s) ↔ token ≠ [] ∧ hasBlank token = false := by
  constructor
  · rintro ⟨s, h⟩
    exact ⟨ne_nil_of_mem_tokens h, hasBlank_of_mem_tokens h⟩
  · rintro ⟨hne, hplain⟩
    refine ⟨token, ?_⟩
    rw [tokens_of_hasBlank_eq_false hne hplain]
    exact List.mem_singleton_self token

theorem tokens_eq_nil_iff : tokens s = [] ↔ (Rune.decode s).all Rune.isBlank = true := by
  rw [tokens, List.map_eq_nil_iff, runs_eq_nil_iff, List.all_eq_true]

/-- Decoding can be cut before and after a text of blanks. -/
theorem decode_append_blank (hne : sep ≠ []) (hsep : (Rune.decode sep).all Rune.isBlank = true)
    (s t : Bytes) :
    Rune.decode (s ++ sep ++ t) = Rune.decode s ++ Rune.decode sep ++ Rune.decode t := by
  have hblank : ∀ r ∈ Rune.decode sep, r.isBlank = true := List.all_eq_true.mp hsep
  cases sep with
  | nil => exact absurd rfl hne
  | cons b sep =>
    have hfresh : ∀ u, Bytes.startsFresh (b :: u) = true :=
      Rune.startsFresh_of_isBlank (hblank (Rune.first b sep) (by simp [Rune.decode_cons]))
    have hrest : Rune.decode (b :: sep ++ t) = Rune.decode (b :: sep) ++ Rune.decode t :=
      Rune.decode_append (Or.inr fun r hr => Rune.code_ne_of_isBlank (hblank r hr))
    have hall : Rune.decode (s ++ (b :: sep ++ t)) = Rune.decode s ++ Rune.decode (b :: sep ++ t) :=
      Rune.decode_append (Or.inl (hfresh (sep ++ t)))
    rw [List.append_assoc, hall, hrest, List.append_assoc]

/-- A text of blanks parts the tokens before it from those after it. -/
theorem tokens_append_blank (hne : sep ≠ []) (hsep : (Rune.decode sep).all Rune.isBlank = true)
    (s t : Bytes) : tokens (s ++ sep ++ t) = tokens s ++ tokens t := by
  have hblank : ∀ r ∈ Rune.decode sep, r.isBlank = true := List.all_eq_true.mp hsep
  rw [tokens, decode_append_blank hne hsep, List.append_assoc]
  cases sep with
  | nil => exact absurd rfl hne
  | cons b sep =>
    rw [Rune.decode_cons] at hblank ⊢
    rw [List.cons_append, runs_append (hblank _ (by simp)), List.map_append]
    rw [runs_append_left fun r hr => hblank r (List.mem_cons_of_mem _ hr)]
    rfl

/-- Texts joined by blanks have the tokens of each in turn. -/
theorem tokens_join (hne : sep ≠ []) (hsep : (Rune.decode sep).all Rune.isBlank = true)
    (parts : List Bytes) : tokens (Bytes.join sep parts) = parts.flatMap tokens := by
  induction parts with
  | nil => rfl
  | cons part parts ih =>
    cases parts with
    | nil => simp [Bytes.join]
    | cons next parts =>
      rw [Bytes.join_cons, tokens_append_blank hne hsep, ih]
      rfl

end Wordwalk
