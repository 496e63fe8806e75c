import Wordwalk.Text.Blank

/-! The tokens of a text: its longest runs of runes that are not blank. -/
namespace Wordwalk

variable {α : Type}

/-- The longest run at the front of a list in which `p` fails, and the longest such runs after it;
the first component is empty if the list starts with an element that satisfies `p`. -/
def openRun (p : α → Bool) : List α → List α × List (List α)
  | [] => ([], [])
  | a :: l =>
    match openRun p l with
    | (run, runs) =>
      if p a then ([], if run.isEmpty then runs else run :: runs) else (a :: run, runs)

/-- The longest non-empty runs of a list in which `p` fails, in order. -/
def runs (p : α → Bool) (l : List α) : List (List α) :=
  match openRun p l with
  | (run, rest) => if run.isEmpty then rest else run :: rest

/-- The tokens of a text. -/
def tokens (s : Bytes) : List Bytes :=
  (runs Rune.isBlank (Rune.decode s)).map Rune.flatten

/-- Whether the text holds a blank rune. -/
def hasBlank (s : Bytes) : Bool := (Rune.decode s).any Rune.isBlank

@[simp]
theorem runs_nil (p : α → Bool) : runs p ([] : List α) = [] := rfl

theorem runs_cons_of_pos {p : α → Bool} {a : α} (h : p a = true) (l : List α) :
    runs p (a :: l) = runs p l := by
  simp [runs, openRun, h]

end Wordwalk
