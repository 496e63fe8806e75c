import Mathlib.Logic.Function.Basic
import Wordwalk.CommandLine.Flag

/-! Reading flags. The words of a command line are read in the same way whatever was set before, so
what two readings of them set differs only by what it differed by at the start. -/
namespace Wordwalk.CommandLine

namespace Flag

/-- The flag as it is spelled out. -/
def word (f : Flag) : Bytes := "--" ++ f.name

/-- The flag spelled out once for each value, with the value after it. -/
def each (f : Flag) (values : List Bytes) : List Bytes :=
  values.flatMap fun value => [f.word, value]

theorem name_injective : Function.Injective name := by
  intro f g h
  cases f <;> cases g <;> first | rfl | exact absurd h (by decide +kernel)

theorem eq_of_letter? {f g : Flag} {letter : UInt8} (hf : f.letter? = some letter)
    (hg : g.letter? = some letter) : f = g := by
  cases f <;> cases hf <;> cases g <;> first | rfl | exact absurd hg (by decide)

end Flag

namespace Flags

variable {known : Flags} {words : List Bytes} {o o' : Options} {R : Options → Options → Prop}
  {word value cluster : Bytes} {f : Flag} {letter : UInt8} {missing : UsageFault}

theorem byName_of_mem (h : f ∈ known) : known.byName f.name = some f := by
  cases hf : known.byName f.name with
  | none => simpa using List.find?_eq_none.mp hf f h
  | some g =>
    have hname : g.name = f.name := by simpa using List.find?_some hf
    rw [Flag.name_injective hname]

theorem byName_of_notMem (h : f ∉ known) : known.byName f.name = none := by
  refine List.find?_eq_none.mpr fun g hg hname => h ?_
  obtain rfl : g = f := Flag.name_injective (by simpa using hname)
  exact hg

theorem byLetter_of_mem (h : f ∈ known) (hl : f.letter? = some letter) :
    known.byLetter letter = some f := by
  cases hf : known.byLetter letter with
  | none => exact absurd hl (by simpa using List.find?_eq_none.mp hf f h)
  | some g =>
    have hletter : g.letter? = some letter := by simpa using List.find?_some hf
    rw [Flag.eq_of_letter? hletter hl]

/-- What a flag leaves to do: nothing, or it still wants its value, and without one there is a
fault. -/
inductive WordEnd where
  | complete (o : Options)
  | wants (f : Flag) (missing : UsageFault) (o : Options)

/-- Set what a word that is a flag stands for, long or a cluster of letters. -/
def readWord (known : Flags) (word : Bytes) (o : Options) : Except UsageFault WordEnd :=
  if (word.drop 1).head? = some 0x2D then
    (readLong known word o).map fun
      | .inl o => .complete o
      | .inr f => .wants f (.flagNeedsValue f.name) o
  else
    (readCluster known (word.drop 1) o).map fun
      | .complete o => .complete o
      | .wants f letter cluster o => .wants f (.letterNeedsValue letter cluster) o

theorem read_of_plain (h : isFlag word = false) :
    read known (word :: words) o =
      (read known words o).map fun (o, args) => (o, word :: args) := by
  rw [read]
  simp [h]

theorem read_of_args (h : ∀ word ∈ words, isFlag word = false) :
    read known words o = .ok (o, words) := by
  induction words with
  | nil => rw [read]
  | cons word words ih =>
    obtain ⟨hword, hwords⟩ := List.forall_mem_cons.mp h
    rw [read_of_plain hword, ih hwords]
    rfl

theorem read_of_dashes : read known ([0x2D, 0x2D] :: words) o = .ok (o, words) := by
  rw [read]
  simp [isFlag]

theorem read_of_flag (h : isFlag word = true) (hne : word ≠ [0x2D, 0x2D]) :
    read known (word :: words) o =
      match readWord known word o with
      | .error fault => .error fault
      | .ok (.complete o) => read known words o
      | .ok (.wants f missing o) =>
        match words with
        | [] => .error missing
        | value :: words =>
          match f.set value o with
          | .error fault => .error fault
          | .ok o => read known words o := by
  rw [read]
  simp only [h, Bool.not_true, Bool.false_eq_true, if_false, hne, readWord]
  split
  · rcases readLong known word o with _ | _ | _ <;> rfl
  · rcases readCluster known (word.drop 1) o with _ | _ | _ <;> rfl

/-- A flag that wants a value is given the next word. -/
theorem read_of_wants (h : isFlag word = true) (hne : word ≠ [0x2D, 0x2D])
    (hw : readWord known word o = .ok (.wants f missing o)) (hset : f.set value o = .ok o') :
    read known (word :: value :: words) o = read known words o' := by
  rw [read_of_flag h hne, hw]
  simp [hset]

theorem isFlag_word (f : Flag) : isFlag f.word = true ∧ f.word ≠ [0x2D, 0x2D] := by
  cases f <;> decide +kernel

theorem readWord_word (known : Flags) (f : Flag) (o : Options) :
    readWord known f.word o =
      match known.byName f.name with
      | none => .error (.unknownFlag f.name)
      | some g =>
        if g.isSwitch then (g.set "true" o).map .complete
        else .ok (.wants g (.flagNeedsValue g.name) o) := by
  have hdashes : (f.word.drop 1).head? = some 0x2D := by cases f <;> decide +kernel
  have hdrop : f.word.drop 2 = f.name := by cases f <;> decide +kernel
  have hsplit : splitAtEquals f.name = (f.name, none) := by cases f <;> decide +kernel
  have hname : f.name ≠ [] ∧ f.name.head? ≠ some 0x2D ∧ f.name.head? ≠ some 0x3D := by
    cases f <;> decide +kernel
  rw [readWord, if_pos hdashes]
  simp only [readLong, hdrop, hsplit, hname, false_or, if_false]
  cases known.byName f.name with
  | none => rfl
  | some g =>
    dsimp only
    split
    · cases g.set "true" o <;> rfl
    · rfl

/-- A flag spelled out with the next word as its value. -/
theorem read_word (h : f ∈ known) (hv : f.isSwitch = false) (hset : f.set value o = .ok o') :
    read known (f.word :: value :: words) o = read known words o' := by
  have hw : readWord known f.word o = .ok (.wants f (.flagNeedsValue f.name) o) := by
    rw [readWord_word, byName_of_mem h]
    simp [hv]
  exact read_of_wants (isFlag_word f).1 (isFlag_word f).2 hw hset

theorem read_unknown (h : f ∉ known) :
    read known (f.word :: words) o = .error (.unknownFlag f.name) := by
  rw [read_of_flag (isFlag_word f).1 (isFlag_word f).2, readWord_word, byName_of_notMem h]

/-- A flag given by its letter with the next word as its value. -/
theorem read_letter (h : f ∈ known) (hl : f.letter? = some letter) (hv : f.isSwitch = false)
    (hset : f.set value o = .ok o') :
    read known ([0x2D, letter] :: value :: words) o = read known words o' := by
  have hdash : letter ≠ 0x2D := by
    rintro rfl
    exact absurd hl (by cases f <;> decide)
  have hcluster : readCluster known [letter] o = .ok (.wants f letter [letter] o) := by
    have hlength : ¬ testMark.length ≤ [letter].length := by
      rw [List.length_singleton]
      decide +kernel
    have hmark : testMark.isPrefixOf [letter] ≠ true := fun hp =>
      absurd (List.isPrefixOf_iff_prefix.mp hp).length_le hlength
    simp [readCluster, hmark, byLetter_of_mem h hl, hv]
  have hw : readWord known [0x2D, letter] o =
      .ok (.wants f (.letterNeedsValue letter [letter]) o) := by
    simp [readWord, hdash, hcluster, Except.map]
  exact read_of_wants (by simp [isFlag]) (by simpa using hdash) hw hset

/-- Whether two readings have the same fault, or both give a result and the results are related. -/
inductive SameUpTo {α β : Type} (R : α → β → Prop) :
    Except UsageFault α → Except UsageFault β → Prop where
  | error (fault : UsageFault) : SameUpTo R (.error fault) (.error fault)
  | ok {a : α} {b : β} : R a b → SameUpTo R (.ok a) (.ok b)

theorem SameUpTo.map {α β γ δ : Type} {R : α → β → Prop} {S : γ → δ → Prop}
    {x : Except UsageFault α} {y : Except UsageFault β} {g : α → γ} {k : β → δ}
    (h : SameUpTo R x y) (hgk : ∀ a b, R a b → S (g a) (k b)) : SameUpTo S (x.map g) (y.map k) := by
  cases h with
  | error fault => exact .error fault
  | ok h => exact .ok (hgk _ _ h)

theorem SameUpTo.error_or_ok {α β : Type} {R : α → β → Prop} {x : Except UsageFault α}
    {y : Except UsageFault β} (h : SameUpTo R x y) :
    (∃ fault, x = .error fault ∧ y = .error fault) ∨ ∃ a b, R a b ∧ x = .ok a ∧ y = .ok b := by
  cases h with
  | error fault => exact Or.inl ⟨fault, rfl, rfl⟩
  | ok h => exact Or.inr ⟨_, _, h, rfl, rfl⟩

/-- A switch is read in the same way in both. -/
theorem SameUpTo.switch {α β : Type} {R : α → β → Prop} {g : Bool → α} {k : Bool → β}
    (h : ∀ b, R (g b) (k b)) (truth : Option Bool) (fault : UsageFault) :
    SameUpTo R (match truth with | some b => .ok (g b) | none => .error fault)
      (match truth with | some b => .ok (k b) | none => .error fault) := by
  cases truth with
  | none => exact .error fault
  | some b => exact .ok (h b)

/-- Whether related options are still related once a flag has been set in both. -/
def KeptBySet (R : Options → Options → Prop) : Prop :=
  ∀ (f : Flag) (value : Bytes) (o o' : Options),
    R o o' → SameUpTo R (f.set value o) (f.set value o')

inductive ClusterEnd.Related (R : Options → Options → Prop) : ClusterEnd → ClusterEnd → Prop where
  | complete {o o' : Options} : R o o' → Related R (.complete o) (.complete o')
  | wants (f : Flag) (letter : UInt8) (cluster : Bytes) {o o' : Options} :
      R o o' → Related R (.wants f letter cluster o) (.wants f letter cluster o')

inductive WordEnd.Related (R : Options → Options → Prop) : WordEnd → WordEnd → Prop where
  | complete {o o' : Options} : R o o' → Related R (.complete o) (.complete o')
  | wants (f : Flag) (missing : UsageFault) {o o' : Options} :
      R o o' → Related R (.wants f missing o) (.wants f missing o')

theorem readCluster_sameUpTo (hset : KeptBySet R) (h : R o o') :
    SameUpTo (ClusterEnd.Related R) (readCluster known cluster o)
      (readCluster known cluster o') := by
  induction cluster generalizing o o' with
  | nil => exact .ok (.complete h)
  | cons letter rest ih =>
    have hvalue (f : Flag) (value : Bytes) : SameUpTo (ClusterEnd.Related R)
        ((f.set value o).map .complete) ((f.set value o').map .complete) :=
      (hset f value o o' h).map fun _ _ => .complete
    unfold readCluster
    split
    · exact .ok (.complete h)
    · cases hf : known.byLetter letter with
      | none => exact .error _
      | some f =>
        dsimp only
        split
        · exact hvalue f _
        · split
          · rcases (hset f "true" o o' h).error_or_ok with ⟨fault, hs, hs'⟩ | ⟨_, _, h, hs, hs'⟩
            · rw [hs, hs']
              exact .error fault
            · rw [hs, hs']
              exact ih h
          · split
            · exact .ok (.wants f letter _ h)
            · exact hvalue f _

theorem readLong_sameUpTo (hset : KeptBySet R) (h : R o o') :
    SameUpTo (Sum.LiftRel R (@Eq Flag)) (readLong known word o) (readLong known word o') := by
  have hvalue (f : Flag) (value : Bytes) : SameUpTo (Sum.LiftRel R (@Eq Flag))
      ((f.set value o).map .inl) ((f.set value o').map .inl) :=
    (hset f value o o' h).map fun _ _ => .inl
  simp only [readLong]
  split
  · exact .error _
  · split
    · exact .error _
    · exact hvalue _ _
    · split
      · exact hvalue _ _
      · exact .ok (.inr rfl)

theorem readWord_sameUpTo (hset : KeptBySet R) (h : R o o') :
    SameUpTo (WordEnd.Related R) (readWord known word o) (readWord known word o') := by
  unfold readWord
  split
  · refine (readLong_sameUpTo hset h).map ?_
    rintro _ _ (h | rfl)
    · exact .complete h
    · exact .wants _ _ ‹R o o'›
  · refine (readCluster_sameUpTo hset h).map ?_
    rintro _ _ (h | ⟨f, letter, cluster, h⟩)
    · exact .complete h
    · exact .wants f _ h

/-- Options that are related before the words are read are related after, and the arguments are the
same. -/
theorem read_sameUpTo (hset : KeptBySet R) (h : R o o') :
    SameUpTo (fun p p' => R p.1 p'.1 ∧ p.2 = p'.2) (read known words o) (read known words o') := by
  -- A flag may take the word after it, so the induction is on the number of words.
  induction hn : words.length using Nat.strongRecOn generalizing words o o' with
  | ind n ih =>
    subst hn
    cases words with
    | nil => exact .ok ⟨h, rfl⟩
    | cons word words =>
      have hrest {o o' : Options} (h : R o o') := ih words.length (by simp) h rfl
      cases hf : isFlag word with
      | false =>
        rw [read_of_plain hf, read_of_plain hf]
        exact (hrest h).map fun _ _ hp => ⟨hp.1, congrArg (word :: ·) hp.2⟩
      | true =>
        by_cases hd : word = [0x2D, 0x2D]
        · subst hd
          rw [read_of_dashes, read_of_dashes]
          exact .ok ⟨h, rfl⟩
        · rw [read_of_flag hf hd, read_of_flag hf hd]
          have hword : SameUpTo (WordEnd.Related R) (readWord known word o)
              (readWord known word o') := readWord_sameUpTo hset h
          rcases hword.error_or_ok with ⟨fault, hw, hw'⟩ | ⟨_, _, hend, hw, hw'⟩ <;> rw [hw, hw']
          · exact .error fault
          · cases hend with
            | complete h => exact hrest h
            | wants f missing h =>
              cases words with
              | nil => exact .error missing
              | cons value words =>
                rcases (hset f value _ _ h).error_or_ok with ⟨fault, hs, hs'⟩ | ⟨_, _, h, hs, hs'⟩
                · simp only [hs, hs']
                  exact .error fault
                · simp only [hs, hs']
                  exact ih words.length (by simp only [List.length_cons]; omega) h rfl

end Flags
end Wordwalk.CommandLine
