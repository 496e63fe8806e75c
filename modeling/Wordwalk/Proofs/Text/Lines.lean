import Wordwalk.Text.Lines

/-! Texts by lines. A text is put together from lines without CR and LF and a line end of one of three
kinds in each gap. The lines can be told apart again unless a CR, an empty line and an LF follow each
other, which look like a single line end. -/
namespace Wordwalk

variable {s line : Bytes}

section Neighbours

variable {α : Type}

/-- Each two elements of a list that follow each other. -/
def neighbours (l : List α) : List (α × α) := l.zip l.tail

theorem countP_neighbours_cons (q : α × α → Bool) (a : α) (l : List α) :
    (neighbours (a :: l)).countP q =
      (l.head?.any fun b => q (a, b)).toNat + (neighbours l).countP q := by
  cases l with
  | nil => rfl
  | cons b l =>
    change ((a, b) :: neighbours (b :: l)).countP q = _
    rw [List.countP_cons, Nat.add_comm, List.head?_cons, Option.any_some]
    cases q (a, b) <;> rfl

end Neighbours

/-- A CR ends a line if no LF follows it, and an LF always does. -/
theorem lineEnds_cons (b : UInt8) (s : Bytes) :
    lineEnds (b :: s) =
      (if b = 0x0A ∨ b = 0x0D ∧ s.head? ≠ some 0x0A then 1 else 0) + lineEnds s := by
  by_cases hb : b = 0x0D
  · subst hb
    cases s with
    | nil => rfl
    | cons c s =>
      by_cases hc : c = 0x0A
      · subst hc
        simp [lineEnds]
      · simp [lineEnds, hc, Nat.add_comm]
  · by_cases hb' : b = 0x0A
    · subst hb'
      simp [lineEnds, Nat.add_comm]
    · simp [lineEnds, hb, hb']

theorem count_neighbours_cons (b : UInt8) (s : Bytes) :
    (neighbours (b :: s)).count (0x0D, 0x0A) =
      (if b = 0x0D ∧ s.head? = some 0x0A then 1 else 0) + (neighbours s).count (0x0D, 0x0A) := by
  rw [List.count_eq_countP, countP_neighbours_cons, List.count_eq_countP]
  cases s with
  | nil => simp
  | cons c s => by_cases hb : b = 0x0D <;> by_cases hc : c = 0x0A <;> simp [hb, hc]

/-- There is a line end for each CR and each LF, but only one for a CR and the LF after it. -/
theorem lineEnds_add_neighbours (s : Bytes) :
    lineEnds s + (neighbours s).count (0x0D, 0x0A) = s.count 0x0D + s.count 0x0A := by
  induction s with
  | nil => rfl
  | cons b s ih =>
    rw [lineEnds_cons, count_neighbours_cons, List.count_cons, List.count_cons]
    by_cases hb : b = 0x0D
    · by_cases hs : s.head? = some 0x0A <;> grind
    · by_cases hb' : b = 0x0A <;> grind

/-- Without a CR the line ends are the LFs. -/
theorem lineEnds_of_notMem (h : 0x0D ∉ s) : lineEnds s = s.count 0x0A := by
  have hpairs : ((0x0D : UInt8), (0x0A : UInt8)) ∉ neighbours s := by
    intro hmem
    exact h (List.of_mem_zip hmem).1
  have hsum := lineEnds_add_neighbours s
  rw [List.count_eq_zero_of_not_mem hpairs, List.count_eq_zero_of_not_mem h] at hsum
  omega

/-- Whether a line has no byte that ends a line. -/
def IsLine (line : Bytes) : Prop := 0x0D ∉ line ∧ 0x0A ∉ line

theorem isLine_nil : IsLine [] := ⟨by simp, by simp⟩

theorem isLine_cons {b : UInt8} : IsLine (b :: line) ↔ b ≠ 0x0D ∧ b ≠ 0x0A ∧ IsLine line := by
  rw [IsLine, IsLine, List.mem_cons, List.mem_cons, not_or, not_or]
  constructor
  · rintro ⟨⟨hcr, hcr'⟩, hlf, hlf'⟩
    exact ⟨Ne.symm hcr, Ne.symm hlf, hcr', hlf'⟩
  · rintro ⟨hcr, hlf, hcr', hlf'⟩
    exact ⟨⟨Ne.symm hcr, hcr'⟩, Ne.symm hlf, hlf'⟩

theorem lineEnds_append (h : IsLine line) (s : Bytes) : lineEnds (line ++ s) = lineEnds s := by
  induction line with
  | nil => rfl
  | cons b line ih =>
    obtain ⟨hcr, hlf, hline⟩ := isLine_cons.mp h
    rw [List.cons_append, lineEnds_cons, if_neg (by simp [hcr, hlf]), Nat.zero_add]
    exact ih hline

/-- What ends a line. -/
inductive LineEnd where
  | lf
  | cr
  | crLf
deriving DecidableEq

namespace LineEnd

variable {e : LineEnd}

def bytes : LineEnd → Bytes
  | .lf => [0x0A]
  | .cr => [0x0D]
  | .crLf => [0x0D, 0x0A]

/-- Whether a line end and the begin of the text after it look like one line end. -/
def Joins (e : LineEnd) (s : Bytes) : Prop := e = .cr ∧ s.head? = some 0x0A

theorem lineEnds_of_joins (h : e.Joins s) : lineEnds (e.bytes ++ s) = lineEnds s := by
  obtain ⟨rfl, hhead⟩ := h
  change lineEnds (0x0D :: s) = lineEnds s
  rw [lineEnds_cons, if_neg (by simp [hhead]), Nat.zero_add]

theorem lineEnds_of_not_joins (h : ¬ e.Joins s) : lineEnds (e.bytes ++ s) = lineEnds s + 1 := by
  have hlf : lineEnds (0x0A :: s) = 1 + lineEnds s := by
    rw [lineEnds_cons, if_pos (Or.inl rfl)]
  cases e with
  | lf => exact hlf.trans (Nat.add_comm _ _)
  | cr =>
    have hhead : s.head? ≠ some 0x0A := fun hhead => h ⟨rfl, hhead⟩
    change lineEnds (0x0D :: s) = lineEnds s + 1
    rw [lineEnds_cons, if_pos (Or.inr ⟨rfl, hhead⟩), Nat.add_comm]
  | crLf =>
    change lineEnds (0x0D :: 0x0A :: s) = lineEnds s + 1
    rw [lineEnds_cons, if_neg (by simp), hlf]
    omega

end LineEnd

/-- A text by lines: the first line, and each line end with the line after it. -/
structure Lined where
  first : Bytes
  rest : List (LineEnd × Bytes)

namespace Lined

variable {t : Lined} {e : LineEnd} {rest : List (LineEnd × Bytes)}

def lines (t : Lined) : List Bytes := t.first :: t.rest.map Prod.snd

/-- The bytes of line ends, each with the line after it. -/
def after (rest : List (LineEnd × Bytes)) : Bytes := rest.flatMap fun part => part.1.bytes ++ part.2

def bytes (t : Lined) : Bytes := t.first ++ after t.rest

/-- Whether no line has a byte that ends a line. -/
def Plain (t : Lined) : Prop := ∀ line ∈ t.lines, IsLine line

/-- Whether the two are a CR with an empty line after it, and an LF. -/
def meets (pair : (LineEnd × Bytes) × (LineEnd × Bytes)) : Bool :=
  pair.1 = (.cr, []) && pair.2.1 = .lf

/-- Whether no CR is followed by an empty line and an LF. -/
def Clear (t : Lined) : Prop := ∀ pair ∈ neighbours t.rest, meets pair = false

theorem after_cons (e : LineEnd) (line : Bytes) (rest : List (LineEnd × Bytes)) :
    after ((e, line) :: rest) = e.bytes ++ (line ++ after rest) := by
  simp [after]

/-- A line end meets the next one if the bytes of the two look like one line end. -/
theorem any_meets_iff (h : IsLine line) :
    (rest.head?.any fun next => meets ((e, line), next)) = true ↔ e.Joins (line ++ after rest) := by
  cases line with
  | nil =>
    cases rest with
    | nil => simp [LineEnd.Joins, after]
    | cons next rest =>
      obtain ⟨e', line⟩ := next
      rw [after_cons]
      cases e' <;> simp [LineEnd.Joins, LineEnd.bytes, meets]
  | cons b line =>
    obtain ⟨_, hlf, _⟩ := isLine_cons.mp h
    cases rest <;> simp [LineEnd.Joins, hlf, meets]

/-- Every line end is counted, except that one that meets the next counts as one with it. -/
theorem lineEnds_after (h : ∀ part ∈ rest, IsLine part.2) :
    lineEnds (after rest) + (neighbours rest).countP meets = rest.length := by
  induction rest with
  | nil => rfl
  | cons part rest ih =>
    obtain ⟨e, line⟩ := part
    obtain ⟨hline, hrest⟩ := List.forall_mem_cons.mp h
    have hskip : lineEnds (line ++ after rest) = lineEnds (after rest) :=
      lineEnds_append hline (after rest)
    have hlength := ih hrest
    rw [after_cons, countP_neighbours_cons, List.length_cons]
    by_cases hjoins : e.Joins (line ++ after rest)
    · rw [LineEnd.lineEnds_of_joins hjoins, (any_meets_iff hline).mpr hjoins, Bool.toNat_true]
      omega
    · have hmeets := mt (any_meets_iff hline).mp hjoins
      rw [LineEnd.lineEnds_of_not_joins hjoins, Bool.eq_false_iff.mpr hmeets, Bool.toNat_false]
      omega

theorem Plain.parts (h : t.Plain) : IsLine t.first ∧ ∀ part ∈ t.rest, IsLine part.2 := by
  obtain ⟨hfirst, hrest⟩ := List.forall_mem_cons.mp h
  exact ⟨hfirst, List.forall_mem_map.mp hrest⟩

theorem clear_iff : t.Clear ↔ (neighbours t.rest).countP meets = 0 := by
  simp [Clear, List.countP_eq_zero]

/-- The lines of a text are as many as it was put together from if and only if no CR was followed by
an empty line and an LF. -/
theorem Plain.lineCount_eq_iff (h : t.Plain) : lineCount t.bytes = t.lines.length ↔ t.Clear := by
  obtain ⟨hfirst, hrest⟩ := h.parts
  have hbytes : lineEnds t.bytes = lineEnds (after t.rest) := lineEnds_append hfirst _
  have hsum := lineEnds_after hrest
  rw [clear_iff, lineCount, lines, List.length_cons, List.length_map, hbytes]
  omega

/-- The text with a line end before it, and an empty line before that. -/
def behind (e : LineEnd) (t : Lined) : Lined := ⟨[], (e, t.first) :: t.rest⟩

/-- The text with more at the front of its first line. -/
def extend (line : Bytes) (t : Lined) : Lined := ⟨line ++ t.first, t.rest⟩

theorem bytes_behind (e : LineEnd) (t : Lined) : (t.behind e).bytes = e.bytes ++ t.bytes := by
  rw [bytes, behind, after_cons]
  rfl

theorem bytes_extend (line : Bytes) (t : Lined) : (t.extend line).bytes = line ++ t.bytes := by
  rw [bytes, extend, bytes, List.append_assoc]

theorem Plain.behind (h : t.Plain) (e : LineEnd) : (t.behind e).Plain :=
  List.forall_mem_cons.mpr ⟨isLine_nil, h⟩

/-- A line end may come before any text with which it does not look like one. -/
theorem Plain.clear_behind_iff (h : t.Plain) (e : LineEnd) :
    (t.behind e).Clear ↔ ¬ e.Joins t.bytes ∧ t.Clear := by
  have hcons := countP_neighbours_cons meets (e, t.first) t.rest
  rw [clear_iff, Lined.behind, hcons, Nat.add_eq_zero_iff, ← clear_iff]
  refine and_congr_left fun _ => ?_
  rw [bytes, ← any_meets_iff h.parts.1, Bool.toNat_eq_zero, Bool.not_eq_true]

/-- A text cut at its line ends, at a CR and an LF together if they follow each other. -/
def read : Bytes → Lined
  | [] => ⟨[], []⟩
  | 0x0D :: 0x0A :: s => (read s).behind .crLf
  | b :: s =>
    if b = 0x0D then (read s).behind .cr
    else if b = 0x0A then (read s).behind .lf
    else (read s).extend [b]

theorem read_behind (h : ¬ e.Joins s) : read (e.bytes ++ s) = (read s).behind e := by
  cases e with
  | lf => simp [LineEnd.bytes, read]
  | cr =>
    cases s with
    | nil => rfl
    | cons c s =>
      have hc : c ≠ 0x0A := by
        rintro rfl
        exact h ⟨rfl, rfl⟩
      simp [LineEnd.bytes, read, hc]
  | crLf => rfl

theorem read_cons {b : UInt8} (hcr : b ≠ 0x0D) (hlf : b ≠ 0x0A) (s : Bytes) :
    read (b :: s) = (read s).extend [b] := by
  simp [read, hcr, hlf]

/-- Induction over a text from line end to line end, and byte by byte between them. -/
theorem read_induction {P : Bytes → Prop} (nil : P [])
    (behind : ∀ (e : LineEnd) s, ¬ e.Joins s → P s → P (e.bytes ++ s))
    (plain : ∀ b s, b ≠ 0x0D → b ≠ 0x0A → P s → P (b :: s)) (s : Bytes) : P s := by
  induction s using read.induct with
  | case1 => exact nil
  | case2 s ih => exact behind .crLf s (by simp [LineEnd.Joins]) ih
  | case3 s hnot ih =>
    refine behind .cr s ?_ ih
    rintro ⟨_, hhead⟩
    obtain ⟨rest, hs⟩ := List.head?_eq_some_iff.mp hhead
    exact hnot rest rfl hs
  | case4 s _ _ ih => exact behind .lf s (by simp [LineEnd.Joins]) ih
  | case5 b s _ hcr hlf ih => exact plain b s hcr hlf ih

theorem bytes_read (s : Bytes) : (read s).bytes = s := by
  induction s using read_induction with
  | nil => rfl
  | behind e s hjoins ih => rw [read_behind hjoins, bytes_behind, ih]
  | plain b s hcr hlf ih =>
    rw [read_cons hcr hlf, bytes_extend, ih]
    rfl

theorem plain_read (s : Bytes) : (read s).Plain := by
  induction s using read_induction with
  | nil =>
    intro line hm
    rw [List.mem_singleton.mp hm]
    exact isLine_nil
  | behind e s hjoins ih =>
    rw [read_behind hjoins]
    exact ih.behind e
  | plain b s hcr hlf ih =>
    obtain ⟨hfirst, hrest⟩ := List.forall_mem_cons.mp ih
    rw [read_cons hcr hlf]
    exact List.forall_mem_cons.mpr ⟨isLine_cons.mpr ⟨hcr, hlf, hfirst⟩, hrest⟩

theorem clear_read (s : Bytes) : (read s).Clear := by
  induction s using read_induction with
  | nil => simp [read, Clear, neighbours]
  | behind e s hjoins ih =>
    rw [read_behind hjoins, (plain_read s).clear_behind_iff, bytes_read]
    exact ⟨hjoins, ih⟩
  | plain b s hcr hlf ih =>
    rw [read_cons hcr hlf]
    exact ih

theorem read_append (h : IsLine line) (s : Bytes) : read (line ++ s) = (read s).extend line := by
  induction line with
  | nil => rfl
  | cons b line ih =>
    obtain ⟨hcr, hlf, hline⟩ := isLine_cons.mp h
    rw [List.cons_append, read_cons hcr hlf, ih hline]
    rfl

/-- A text is read as it was put together, unless a CR was followed by an empty line and an LF. -/
theorem read_bytes (h : t.Plain) (hclear : t.Clear) : read t.bytes = t := by
  obtain ⟨first, rest⟩ := t
  induction rest generalizing first with
  | nil =>
    have hread := read_append h.parts.1 []
    simpa [bytes, after, read, extend] using hread
  | cons part rest ih =>
    obtain ⟨e, line⟩ := part
    obtain ⟨hfirst, hrest⟩ := List.forall_mem_cons.mp h
    have hplain : Plain ⟨line, rest⟩ := hrest
    obtain ⟨hjoins, hclear⟩ := (hplain.clear_behind_iff e).mp hclear
    have hbytes : bytes ⟨first, (e, line) :: rest⟩ = first ++ (e.bytes ++ bytes ⟨line, rest⟩) := by
      rw [bytes, after_cons, bytes]
    rw [hbytes, read_append hfirst, read_behind hjoins, ih line hplain hclear]
    simp [extend, behind]

end Lined

/-- A text put together from lines and line ends has as many lines as were put together if and only
if no CR was followed by an empty line and an LF. Every text can be put together without that, and in
one way only, so it has one line more than it has CRs and LFs, if a CR and the LF after it are taken
as one. -/
theorem lineCount_of_unique_lines :
    (∀ t : Lined, t.Plain → (lineCount t.bytes = t.lines.length ↔ t.Clear)) ∧
      ∀ s : Bytes,
        (∃ t : Lined, t.Plain ∧ t.Clear ∧ t.bytes = s ∧
          ∀ t' : Lined, t'.Plain → t'.Clear → t'.bytes = s → t' = t) ∧
        lineCount s + (neighbours s).count (0x0D, 0x0A) = 1 + s.count 0x0D + s.count 0x0A := by
  refine ⟨fun t h => h.lineCount_eq_iff, fun s => ⟨?_, ?_⟩⟩
  · refine ⟨Lined.read s, Lined.plain_read s, Lined.clear_read s, Lined.bytes_read s, ?_⟩
    rintro t' hplain hclear rfl
    exact (Lined.read_bytes hplain hclear).symm
  · have hsum := lineEnds_add_neighbours s
    rw [lineCount]
    omega

/-- A CR, a CR LF, and an LF at the end. -/
example : lineCount [0x0D, 0x0D, 0x0A, 0x61, 0x0A] = 4 := by decide

end Wordwalk
