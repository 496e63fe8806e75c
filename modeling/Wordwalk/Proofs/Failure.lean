import Mathlib.Data.List.Infix
import Wordwalk.Operation.Basic

/-! The failure of work on a file, and what can still be told from it behind any number of contexts:
the file, the phase, the causes, and a message that names the file. -/
namespace Wordwalk.Failure

variable {f cause : Failure} {path : Bytes}

/-- A failure within contexts, the outermost first. -/
def behind (contexts : List Bytes) (f : Failure) : Failure := contexts.foldr within f

theorem behind_cons (context : Bytes) (contexts : List Bytes) (f : Failure) :
    behind (context :: contexts) f = .within context (behind contexts f) := rfl

/-- Whether the outermost failed file system operation that a failure comes from was on `path`. -/
inductive OutermostOn (path : Bytes) : Failure → Prop where
  | operation (action : Bytes) (cause : Failure) : OutermostOn path (.operation action path cause)
  | file (other phase : Bytes) {cause : Failure} :
      OutermostOn path cause → OutermostOn path (.file other phase cause)
  | within (context : Bytes) {cause : Failure} :
      OutermostOn path cause → OutermostOn path (.within context cause)

theorem outermostOn_iff : OutermostOn path f ↔ f.chain.findSome? operationPath? = some path := by
  constructor
  · intro h
    induction h with
    | operation => rfl
    | file _ _ _ ih => exact ih
    | within _ _ ih => exact ih
  · intro h
    induction f with
    | operation action other cause =>
      obtain rfl := Option.some.inj h
      exact .operation action cause
    | file other phase cause ih =>
      exact .file other phase (ih h)
    | within context cause ih =>
      exact .within context (ih h)
    | _ => exact nomatch h

/-- Every layer's message has the message of its cause in it. -/
theorem OutermostOn.isInfix_message (h : OutermostOn path f) : path <:+: f.message := by
  induction h with
  | operation action cause => exact ⟨action ++ " ", ": " ++ cause.message, by simp [message]⟩
  | file other phase _ ih =>
    rw [message]
    split
    · exact ih
    · exact ih.trans (List.suffix_append _ _).isInfix
  | within context _ ih =>
    rw [message]
    exact ih.trans (List.suffix_append _ _).isInfix

theorem message_file_of_outermostOn (h : OutermostOn path cause) (phase : Bytes) :
    (Failure.file path phase cause).message = cause.message := by
  rw [message, if_pos (outermostOn_iff.mp h)]

theorem message_file_of_not_outermostOn (h : ¬ OutermostOn path cause) (phase : Bytes) :
    (Failure.file path phase cause).message = phase ++ " " ++ path ++ ": " ++ cause.message := by
  rw [message, if_neg (mt outermostOn_iff.mpr h)]

/-- The message of a file's failure has its path in it, from its own prefix or from its cause. -/
theorem isInfix_message_file (path phase : Bytes) (cause : Failure) :
    path <:+: (Failure.file path phase cause).message := by
  by_cases h : OutermostOn path cause
  · rw [message_file_of_outermostOn h]
    exact h.isInfix_message
  · rw [message_file_of_not_outermostOn h]
    exact ⟨phase ++ " ", ": " ++ cause.message, by simp⟩

theorem message_behind (contexts : List Bytes) (f : Failure) :
    (behind contexts f).message =
      contexts.flatMap (fun context => context ++ (": " : Bytes)) ++ f.message := by
  induction contexts with
  | nil => rfl
  | cons context contexts ih =>
    rw [behind_cons, message, ih, List.flatMap_cons, List.append_assoc _ _ f.message]

theorem is_behind (contexts : List Bytes) (f : Failure) (c : Cause) :
    (behind contexts f).is c = f.is c := by
  induction contexts with
  | nil => rfl
  | cons context contexts ih =>
    rw [← ih]
    rfl

theorem is_file (path phase : Bytes) (cause : Failure) (c : Cause) :
    (Failure.file path phase cause).is c = (c == .io || cause.is c) := by
  cases c <;> rfl

theorem findFile_behind (contexts : List Bytes) (path phase : Bytes) (cause : Failure) :
    (behind contexts (.file path phase cause)).chain.find? (·.cause? == some .io) =
      some (.file path phase cause) := by
  induction contexts with
  | nil => rfl
  | cons context contexts ih =>
    rw [behind_cons, chain, List.find?_cons_of_neg (by simp [cause?]), ih]

theorem file?_behind (contexts : List Bytes) (f : Failure) :
    (behind contexts f).file? = f.file? := by
  induction contexts with
  | nil => rfl
  | cons context contexts ih =>
    rw [← ih]
    rfl

/-- The failure of work on a file can be told behind any number of contexts, those that a supervisor
puts there among them: callers see that the file system failed, and that the run was cancelled or
the file does not exist exactly if its cause says so, and they find the failure itself with its path
and its phase. Its message is that of its cause if the outermost failed file system operation there
was on the same path, and names phase and path before that otherwise. Either way the path is in
it. -/
theorem file_behind_contexts (path phase : Bytes) (cause : Failure) (contexts : List Bytes) :
    (behind contexts (.file path phase cause)).is .io = true ∧
      (behind contexts (.file path phase cause)).is .canceled = cause.is .canceled ∧
      (behind contexts (.file path phase cause)).is .notExist = cause.is .notExist ∧
      (behind contexts (.file path phase cause)).chain.find? (·.cause? == some .io) =
        some (.file path phase cause) ∧
      (behind contexts (.file path phase cause)).file? = some (path, phase) ∧
      (OutermostOn path cause ∧ (Failure.file path phase cause).message = cause.message ∨
        ¬ OutermostOn path cause ∧
          (Failure.file path phase cause).message =
            phase ++ " " ++ path ++ ": " ++ cause.message) ∧
      (behind contexts (.file path phase cause)).message =
        contexts.flatMap (fun context => context ++ (": " : Bytes)) ++
          (Failure.file path phase cause).message ∧
      path <:+: (Failure.file path phase cause).message ∧
      path <:+: (behind contexts (.file path phase cause)).message ∧
      ∀ (name : Bytes) (signals : List Signal),
        (supervise name signals (some (behind contexts (.file path phase cause)))).2 =
          some (behind (("running " ++ name) :: contexts) (.file path phase cause)) := by
  have hmessage := message_behind contexts (.file path phase cause)
  have hpath := isInfix_message_file path phase cause
  refine ⟨?_, ?_, ?_, findFile_behind contexts path phase cause, ?_, ?_, hmessage, hpath, ?_,
    fun _ _ => rfl⟩
  · rw [is_behind, is_file]
    rfl
  · rw [is_behind, is_file]
    rfl
  · rw [is_behind, is_file]
    rfl
  · rw [file?_behind]
    rfl
  · by_cases h : OutermostOn path cause
    · exact Or.inl ⟨h, message_file_of_outermostOn h phase⟩
    · exact Or.inr ⟨h, message_file_of_not_outermostOn h phase⟩
  · rw [hmessage]
    exact hpath.trans (List.suffix_append _ _).isInfix

/-- Only the outermost operation counts: that one further in was on the path does not. -/
example :
    (Failure.file "a" "read" (.operation "open" "b" (.operation "stat" "a" .missing))).message =
      ("read a: open b: stat a: file does not exist" : Bytes) := by decide

end Wordwalk.Failure
