import Wordwalk.Proofs.Glob.Plain

/-! The alternatives of a plain pattern: they are found, and each is plain again. -/
namespace Wordwalk.Glob

variable {s t cls members bar : Bytes} {depth : Nat} {b : UInt8}

theorem Plain.append (hs : Plain depth s) (ht : Plain 0 t) : Plain depth (s ++ t) := by
  induction hs with
  | nil => exact ht
  | escape b _ ih => exact .escape b ih
  | cls hcls _ ih =>
    rw [List.cons_append, List.append_assoc]
    exact .cls hcls ih
  | opened _ ih => exact .opened ih
  | closed _ ih => exact .closed ih
  | byte hb _ ih => exact .byte hb ih

theorem plain_byte_iff (hb : IsOrdinary b) : Plain depth (b :: s) ↔ Plain depth s := by
  constructor
  · intro h
    cases h with
    | escape => exact absurd rfl hb.1
    | cls => exact absurd rfl hb.2.1
    | opened => exact absurd rfl hb.2.2.1
    | closed => exact absurd rfl hb.2.2.2
    | byte _ h => exact h
  · exact .byte hb

theorem plain_append_iff (ht : ∀ c ∈ t, IsOrdinary c) : Plain depth (t ++ s) ↔ Plain depth s := by
  induction t with
  | nil => rfl
  | cons b t ih =>
    obtain ⟨hb, ht⟩ := List.forall_mem_cons.mp ht
    rw [List.cons_append, plain_byte_iff hb, ih ht]

theorem Plain.exists_escape (h : Plain depth (0x5C :: s)) : ∃ b t, s = b :: t ∧ Plain depth t := by
  cases h with
  | escape b h => exact ⟨b, _, rfl, h⟩
  | byte hb => exact absurd rfl hb.1

theorem Plain.exists_class (h : Plain depth (0x5B :: s)) :
    ∃ cls t, s = cls ++ t ∧ IsClass depth cls ∧ Plain depth t := by
  cases h with
  | cls hcls h => exact ⟨_, _, rfl, hcls, h⟩
  | byte hb => exact absurd rfl hb.2.1

theorem Plain.of_opened (h : Plain depth (0x7B :: s)) : Plain (depth + 1) s := by
  cases h with
  | opened h => exact h
  | byte hb => exact absurd rfl hb.2.2.1

theorem not_plain_closed : ¬ Plain 0 (0x7D :: s) := by
  intro h
  cases h with
  | byte hb => exact absurd rfl hb.2.2.2

theorem alternatives_byte (hb : b ∉ [0x5C, 0x7B, 0x7D]) (hsplit : ¬ (b = 0x2C ∧ depth = 0))
    (s : Bytes) :
    alternatives depth (b :: s) = (alternatives depth s).map (alternatives.keep [b]) := by
  simp only [List.mem_cons, List.not_mem_nil, or_false, not_or] at hb
  cases depth <;> simp_all [alternatives]

theorem alternatives_opened (depth : Nat) (s : Bytes) :
    alternatives depth (0x7B :: s) =
      (alternatives (depth + 1) s).map (alternatives.keep [0x7B]) := by
  cases depth <;> simp [alternatives]

/-- Whether the search for alternatives takes a text as it is, into the alternative it is in. -/
def Passes (front : Bytes) : Prop :=
  ∀ (depth : Nat) (s alt : Bytes) (alts : List Bytes) (rest : Bytes),
    alternatives depth s = some (alt :: alts, rest) →
      alternatives depth (front ++ s) = some ((front ++ alt) :: alts, rest)

theorem Passes.append (hs : Passes s) (ht : Passes t) : Passes (s ++ t) := by
  intro depth u alt alts rest h
  rw [List.append_assoc, List.append_assoc]
  exact hs _ _ _ _ _ (ht _ _ _ _ _ h)

theorem passes_escape (b : UInt8) : Passes [0x5C, b] := by
  intro depth s alt alts rest h
  simp [alternatives, h, alternatives.keep]

theorem passes_byte (hslash : b ≠ 0x5C) (hplain : b ∉ [0x2C, 0x7B, 0x7D]) : Passes [b] := by
  intro depth s alt alts rest h
  rw [List.mem_cons, not_or] at hplain
  have hb : b ∉ [0x5C, 0x7B, 0x7D] := by simpa [hslash] using hplain.2
  rw [List.singleton_append, alternatives_byte hb fun hb => hplain.1 hb.1, h]
  rfl

theorem Members.passes (h : Members bar members) (hbar : [0x2C, 0x7B, 0x7D] ⊆ bar) :
    Passes members := by
  induction h with
  | nil => exact fun _ _ _ _ _ h => h
  | escape b _ ih => exact (passes_escape b).append ih
  | byte hslash _ hnot _ ih => exact (passes_byte hslash fun hb => hnot (hbar hb)).append ih

/-- Within braces a clear class is not split. -/
theorem IsClass.passes (h : IsClass (depth + 1) cls) : Passes (0x5B :: cls) := by
  obtain ⟨members, hbody, hm⟩ := h
  obtain ⟨mark, rfl, hmark⟩ := exists_mark hbody
  have hbar : [0x2C, 0x7B, 0x7D] ⊆ barred (depth + 1) (isNegated (mark ++ (members ++ [0x5D]))) :=
    List.subset_append_left _ _
  have hpass : Passes mark := by
    clear hbody hm hbar
    induction mark with
    | nil => exact fun _ _ _ _ _ h => h
    | cons b mark ih =>
      obtain ⟨hb, hmark⟩ := List.cons_subset.mp hmark
      have hb : Passes [b] := by
        rcases List.mem_pair.mp hb with rfl | rfl <;> exact passes_byte (by decide) (by decide)
      exact hb.append (ih hmark)
  exact (passes_byte (by decide) (by decide) : Passes [0x5B]).append
    (hpass.append ((hm.passes hbar).append (passes_byte (by decide) (by decide))))

/-- In a plain pattern that an opening brace stands before, the alternatives are found. They are
plain, and so is what follows them. The first closes all braces but one of those that are open. -/
theorem Plain.exists_alternatives (h : Plain (depth + 1) s) :
    ∃ alt alts rest, alternatives depth s = some (alt :: alts, rest) ∧ Plain depth alt ∧
      (∀ other ∈ alts, Plain 0 other) ∧ Plain 0 rest := by
  generalize hd : depth + 1 = d at h
  induction h generalizing depth with
  | nil => cases hd
  | escape b _ ih =>
    obtain ⟨alt, alts, rest, hfound, halt, hmore⟩ := ih hd
    exact ⟨_, alts, rest, passes_escape b _ _ _ _ _ hfound, .escape b halt, hmore⟩
  | cls hcls _ ih =>
    subst hd
    obtain ⟨alt, alts, rest, hfound, halt, hmore⟩ := ih rfl
    exact ⟨_, alts, rest, hcls.passes _ _ _ _ _ hfound, .cls hcls.mono halt, hmore⟩
  | opened _ ih =>
    subst hd
    obtain ⟨alt, alts, rest, hfound, halt, hmore⟩ := ih rfl
    refine ⟨_, alts, rest, ?_, .opened halt, hmore⟩
    rw [alternatives_opened, hfound]
    rfl
  | closed hs ih =>
    obtain rfl := Nat.succ.inj hd
    cases depth with
    | zero =>
      refine ⟨[], [], _, ?_, .nil, by simp, hs⟩
      simp [alternatives]
    | succ depth =>
      obtain ⟨alt, alts, rest, hfound, halt, hmore⟩ := ih rfl
      refine ⟨_, alts, rest, ?_, .closed halt, hmore⟩
      simp [alternatives, hfound, alternatives.keep]
  | @byte d b s hb hs ih =>
    obtain ⟨alt, alts, rest, hfound, halt, hothers, hrest⟩ := ih hd
    by_cases hsplit : b = 0x2C ∧ depth = 0
    · obtain ⟨rfl, rfl⟩ := hsplit
      refine ⟨[], alt :: alts, rest, by simp [alternatives, hfound], .nil, ?_, hrest⟩
      exact List.forall_mem_cons.mpr ⟨halt, hothers⟩
    · refine ⟨b :: alt, alts, rest, ?_, .byte hb halt, hothers, hrest⟩
      obtain ⟨hslash, _, hopen, hclose⟩ := hb
      rw [alternatives_byte (by simp [hslash, hopen, hclose]) hsplit, hfound]
      rfl

/-- A plain pattern can go on with each of the alternatives that it begins with. -/
theorem Plain.exists_choices (h : Plain 0 (0x7B :: s)) :
    ∃ alts rest, alternatives 0 s = some (alts, rest) ∧ ∀ alt ∈ alts, Plain 0 (alt ++ rest) := by
  obtain ⟨first, others, rest, hfound, hfirst, hothers, hrest⟩ := h.of_opened.exists_alternatives
  refine ⟨first :: others, rest, hfound, fun alt halt => ?_⟩
  rcases List.mem_cons.mp halt with rfl | halt
  · exact hfirst.append hrest
  · exact (hothers alt halt).append hrest

end Wordwalk.Glob
