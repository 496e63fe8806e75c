import Mathlib.Data.List.DropRight
import Mathlib.Tactic.IntervalCases
import Wordwalk.Proofs.Text.Utf8
import Wordwalk.Settings.Json

/-! Settings written in JSON are read back, however the text is laid out and its strings are
escaped, and whatever comes after it. -/
namespace Wordwalk.Settings.Json

variable {text inner name s : Bytes} {items : List Bytes} {settings : Settings} {b : UInt8}

/-- White space between the elements of a text. -/
def Blank (s : Bytes) : Prop := ∀ b ∈ s, b = 0x20 ∨ b = 0x09 ∨ b = 0x0A ∨ b = 0x0D

/-- The byte is the hexadecimal digit for `n`, small or capital. -/
def Digit (b : UInt8) (n : Nat) : Prop :=
  ("0123456789abcdef" : Bytes)[n]? = some b ∨ ("0123456789ABCDEF" : Bytes)[n]? = some b

/-- The escape of a number by its four digits. -/
inductive Escape : Bytes → Nat → Prop where
  | mk {a b c d : UInt8} {i j k l : Nat} : Digit a i → Digit b j → Digit c k → Digit d l →
      Escape [0x5C, 0x75, a, b, c, d] (((i * 16 + j) * 16 + k) * 16 + l)

/-- The letters that can follow a backslash, each with the byte that it stands for. -/
def letters : List (UInt8 × UInt8) :=
  [(0x22, 0x22), (0x5C, 0x5C), (0x2F, 0x2F), (0x62, 0x08), (0x66, 0x0C), (0x6E, 0x0A),
    (0x72, 0x0D), (0x74, 0x09)]

/-- The text between two quotes stands for a string: quotes, backslashes and control characters
are escaped there, and whatever else the writer likes. -/
inductive Spells : Bytes → Bytes → Prop where
  | nil : Spells [] []
  | plain {b : UInt8} {text s : Bytes} : 0x20 ≤ b → b ≠ 0x22 → b ≠ 0x5C → Spells text s →
      Spells (b :: text) (b :: s)
  | letter {e b : UInt8} {text s : Bytes} : (e, b) ∈ letters → Spells text s →
      Spells (0x5C :: e :: text) (b :: s)
  | code {n : Nat} {u text s : Bytes} : Escape u n → n < 0xD800 ∨ 0xE000 ≤ n → Spells text s →
      Spells (u ++ text) (Rune.encode n ++ s)
  | surrogates {hi lo : Nat} {u v text s : Bytes} : Escape u (0xD800 + hi) → hi < 0x400 →
      Escape v (0xDC00 + lo) → lo < 0x400 → Spells text s →
      Spells (u ++ v ++ text) (Rune.encode (0x10000 + hi * 0x400 + lo) ++ s)

/-- The text is a string in its quotes. -/
def IsString (s text : Bytes) : Prop := ∃ inner, Spells inner s ∧ text = 0x22 :: inner ++ [0x22]

/-- A text of some kind with white space around it. -/
def Spaced (kind : Bytes → Prop) (text : Bytes) : Prop :=
  ∃ before core after, Blank before ∧ kind core ∧ Blank after ∧ text = before ++ core ++ after

/-- The text between two brackets lists strings. -/
inductive Lists : List Bytes → Bytes → Prop where
  | nil {text : Bytes} : Blank text → Lists [] text
  | one {s text : Bytes} : Spaced (IsString s) text → Lists [s] text
  | more {s text rest : Bytes} {items : List Bytes} : Spaced (IsString s) text →
      items ≠ [] → Lists items rest → Lists (s :: items) (text ++ 0x2C :: rest)

/-- The text is an array of strings in its brackets. -/
def IsArray (items : List Bytes) (text : Bytes) : Prop :=
  ∃ inner, Lists items inner ∧ text = 0x5B :: inner ++ [0x5D]

/-- The text is a member of an object: a name and a value. -/
def IsMember (name : Bytes) (kind : Bytes → Prop) (text : Bytes) : Prop :=
  ∃ key value, Spaced (IsString name) key ∧ Spaced kind value ∧ text = key ++ 0x3A :: value

/-- The text is an object of the two settings, in either order. -/
def IsText (settings : Settings) (text : Bytes) : Prop :=
  ∃ before ignore separator, Blank before ∧
    IsMember "ignore" (IsArray settings.ignore) ignore ∧
    IsMember "separator" (IsString settings.separator) separator ∧
    (text = before ++ 0x7B :: ignore ++ 0x2C :: separator ++ [0x7D] ∨
      text = before ++ 0x7B :: separator ++ 0x2C :: ignore ++ [0x7D])

theorem skipBlanks_append (h : Blank s) (rest : Bytes) :
    skipBlanks (s ++ rest) = skipBlanks rest :=
  List.dropWhile_append_of_pos fun b hb => by simpa [or_assoc] using h b hb

theorem skipBlanks_skipBlanks (s : Bytes) : skipBlanks (skipBlanks s) = skipBlanks s :=
  List.dropWhile_idempotent _ s

theorem hexValue?_of_digit {n : Nat} (h : Digit b n) : hexValue? b = some n := by
  have hn : n < 16 := by
    rcases h with h | h <;> exact (List.getElem?_eq_some_iff.mp h).1
  unfold Digit at h
  interval_cases n <;> rcases h with h | h <;> cases h <;> rfl

theorem unit?_of_digit {a c d : UInt8} {i j k l : Nat} (ha : Digit a i) (hb : Digit b j)
    (hc : Digit c k) (hd : Digit d l) :
    unit? a b c d = some (((i * 16 + j) * 16 + k) * 16 + l) := by
  simp only [unit?, hexValue?_of_digit ha, hexValue?_of_digit hb, hexValue?_of_digit hc,
    hexValue?_of_digit hd, bind, Option.bind, pure, Option.some.injEq]
  omega

theorem readPieces_plain (hlo : 0x20 ≤ b) (hquote : b ≠ 0x22) (hslash : b ≠ 0x5C) (s : Bytes) :
    readPieces (b :: s) = (readPieces s).map fun (pieces, rest) => (.byte b :: pieces, rest) := by
  rw [readPieces, if_neg (UInt8.not_lt.mpr hlo)]
  · cases readPieces s <;> rfl
  · exact hquote
  · intro _ _ _ _ _ h
    exact absurd h hslash
  · intro _ _ h
    exact absurd h hslash

theorem escape?_of_mem_letters : ∀ p ∈ letters, p.1 ≠ 0x75 ∧ escape? p.1 = some p.2 := by
  simp [letters, escape?]

theorem readPieces_letter {e : UInt8} (h : (e, b) ∈ letters) (s : Bytes) :
    readPieces (0x5C :: e :: s) =
      (readPieces s).map fun (pieces, rest) => (.byte b :: pieces, rest) := by
  obtain ⟨hu, he⟩ := escape?_of_mem_letters _ h
  rw [readPieces, he]
  · cases readPieces s <;> rfl
  · intro _ _ _ _ _ h
    exact absurd h hu

theorem readPieces_escape {u : Bytes} {n : Nat} (h : Escape u n) (s : Bytes) :
    readPieces (u ++ s) = (readPieces s).map fun (pieces, rest) => (.unit n :: pieces, rest) := by
  obtain ⟨ha, hb, hc, hd⟩ := h
  simp only [List.cons_append, List.nil_append, readPieces, unit?_of_digit ha hb hc hd]
  cases readPieces s <;> rfl

theorem spell_code {n : Nat} (h : n < 0xD800 ∨ 0xE000 ≤ n) (pieces : List Piece) :
    spell (.unit n :: pieces) = Rune.encode n ++ spell pieces := by
  rcases pieces with _ | ⟨_ | m, pieces⟩
  · rfl
  · rfl
  · rw [spell, if_neg (by omega)]

theorem spell_surrogates {hi lo : Nat} (hhi : hi < 0x400) (hlo : lo < 0x400)
    (pieces : List Piece) : spell (.unit (0xD800 + hi) :: .unit (0xDC00 + lo) :: pieces) =
      Rune.encode (0x10000 + hi * 0x400 + lo) ++ spell pieces := by
  rw [spell, if_pos (by omega), Nat.add_sub_cancel_left, Nat.add_sub_cancel_left]

/-- What stands between two quotes is read up to the second one, and spells its string. -/
theorem Spells.exists_pieces (h : Spells text s) :
    ∃ pieces, spell pieces = s ∧
      ∀ rest, readPieces (text ++ 0x22 :: rest) = some (pieces, rest) := by
  induction h with
  | nil => exact ⟨[], rfl, fun _ => rfl⟩
  | plain hlo hquote hslash _ ih =>
    obtain ⟨pieces, hs, hread⟩ := ih
    refine ⟨.byte _ :: pieces, by rw [spell, hs], fun rest => ?_⟩
    rw [List.cons_append, readPieces_plain hlo hquote hslash, hread, Option.map_some]
  | letter he _ ih =>
    obtain ⟨pieces, hs, hread⟩ := ih
    refine ⟨.byte _ :: pieces, by rw [spell, hs], fun rest => ?_⟩
    rw [List.cons_append, List.cons_append, readPieces_letter he, hread, Option.map_some]
  | code hu hn _ ih =>
    obtain ⟨pieces, hs, hread⟩ := ih
    refine ⟨.unit _ :: pieces, by rw [spell_code hn, hs], fun rest => ?_⟩
    rw [List.append_assoc, readPieces_escape hu, hread, Option.map_some]
  | surrogates hu hhi hv hlo _ ih =>
    obtain ⟨pieces, hs, hread⟩ := ih
    refine ⟨.unit _ :: .unit _ :: pieces, by rw [spell_surrogates hhi hlo, hs], fun rest => ?_⟩
    rw [List.append_assoc, List.append_assoc, readPieces_escape hu, readPieces_escape hv, hread,
      Option.map_some, Option.map_some]

theorem readString_of_spells (h : Spells inner s) (hs : s.isUtf8 = true) (rest : Bytes) :
    readString (inner ++ 0x22 :: rest) = some (s, rest) := by
  obtain ⟨pieces, rfl, hread⟩ := h.exists_pieces
  simp only [readString, hread, Option.map_some, scrub_of_isUtf8 hs]

/-- The reader takes a value from a text and leaves at most white space of it. -/
def Reads {α : Type} (read : Bytes → Option (α × Bytes)) (text : Bytes) (value : α) : Prop :=
  ∃ after, Blank after ∧ ∀ rest, read (text ++ rest) = some (value, after ++ rest)

/-- The white space before a text in brackets or quotes is skipped. -/
theorem skipBlanks_enclosed {before : Bytes} {left right : UInt8} (hbefore : Blank before)
    (hleft : ∀ s, skipBlanks (left :: s) = left :: s) (inner after rest : Bytes) :
    skipBlanks (before ++ (left :: inner ++ [right]) ++ after ++ rest) =
      left :: (inner ++ right :: (after ++ rest)) := by
  simp only [List.append_assoc, List.cons_append, List.nil_append]
  rw [skipBlanks_append hbefore, hleft]

theorem reads_item (h : Spaced (IsString s) text) (hs : s.isUtf8 = true) :
    Reads readItem text (some s) := by
  obtain ⟨before, _, after, hbefore, ⟨inner, hinner, rfl⟩, hafter, rfl⟩ := h
  refine ⟨after, hafter, fun rest => ?_⟩
  rw [readItem, skipBlanks_enclosed hbefore (fun _ => rfl)]
  simp only [readString_of_spells hinner hs, Option.map_some]

theorem readItem_skipBlanks (s : Bytes) : readItem (skipBlanks s) = readItem s := by
  rw [readItem, readItem, skipBlanks_skipBlanks]

theorem readItems_skipBlanks (s : Bytes) : readItems (skipBlanks s) = readItems s := by
  rw [readItems, readItem_skipBlanks, readItems]

theorem readItems_last {item : Option Bytes} (h : Reads readItem text item) (rest : Bytes) :
    readItems (text ++ 0x5D :: rest) = some ([item], rest) := by
  obtain ⟨after, hafter, hread⟩ := h
  rw [readItems, hread]
  dsimp only
  rw [skipBlanks_append hafter]
  rfl

theorem readItems_more {item : Option Bytes} (h : Reads readItem text item) (rest : Bytes) :
    readItems (text ++ 0x2C :: rest) =
      (readItems rest).map fun (items, rest) => (item :: items, rest) := by
  obtain ⟨after, hafter, hread⟩ := h
  rw [readItems, hread]
  dsimp only
  rw [skipBlanks_append hafter]
  rfl

theorem Lists.readItems (h : Lists items text) (hne : items ≠ [])
    (hutf8 : ∀ item ∈ items, item.isUtf8 = true) (rest : Bytes) :
    readItems (text ++ 0x5D :: rest) = some (items.map some, rest) := by
  induction h with
  | nil => exact absurd rfl hne
  | one h => exact readItems_last (reads_item h (hutf8 _ (List.mem_singleton.mpr rfl))) rest
  | more h hmore _ ih =>
    obtain ⟨hs, hutf8⟩ := List.forall_mem_cons.mp hutf8
    rw [List.append_assoc, List.cons_append, readItems_more (reads_item h hs), ih hmore hutf8]
    rfl

theorem Spaced.exists_quote (h : Spaced (IsString s) text) (rest : Bytes) :
    ∃ more, skipBlanks (text ++ rest) = 0x22 :: more := by
  obtain ⟨before, _, after, hbefore, ⟨inner, _, rfl⟩, _, rfl⟩ := h
  exact ⟨_, skipBlanks_enclosed hbefore (fun _ => rfl) inner after rest⟩

theorem Lists.exists_quote (h : Lists items text) (hne : items ≠ []) (rest : Bytes) :
    ∃ more, skipBlanks (text ++ rest) = 0x22 :: more := by
  cases h with
  | nil => exact absurd rfl hne
  | one h => exact h.exists_quote rest
  | more h =>
    rw [List.append_assoc]
    exact h.exists_quote _

theorem readArray_nil {more : Bytes} (h : skipBlanks s = 0x5B :: text)
    (hend : skipBlanks text = 0x5D :: more) : readArray s = some (some [], more) := by
  simp only [readArray, h, hend]

theorem readArray_items {more : Bytes} (h : skipBlanks s = 0x5B :: text)
    (hquote : skipBlanks text = 0x22 :: more) :
    readArray s = (readItems text).map fun (items, rest) => (some items, rest) := by
  rw [← readItems_skipBlanks, hquote]
  simp only [readArray, h, hquote]
  rfl

theorem reads_array (h : Spaced (IsArray items) text)
    (hutf8 : ∀ item ∈ items, item.isUtf8 = true) :
    Reads readArray text (some (items.map some)) := by
  obtain ⟨before, _, after, hbefore, ⟨inner, hinner, rfl⟩, hafter, rfl⟩ := h
  refine ⟨after, hafter, fun rest => ?_⟩
  have hopen : skipBlanks (before ++ (0x5B :: inner ++ [0x5D]) ++ after ++ rest) =
      0x5B :: (inner ++ 0x5D :: (after ++ rest)) :=
    skipBlanks_enclosed hbefore (fun _ => rfl) inner after rest
  -- An array is taken for empty by the bracket at its front, for any other it is a quote.
  by_cases hne : items = []
  · subst hne
    cases hinner with
    | nil hblank => exact readArray_nil hopen (skipBlanks_append hblank _)
  · obtain ⟨more, hmore⟩ := hinner.exists_quote hne (0x5D :: (after ++ rest))
    rw [readArray_items hopen hmore, hinner.readItems hne hutf8, Option.map_some]

theorem readName_of_spaced (h : Spaced (IsString name) text) (hname : name.isUtf8 = true)
    (rest : Bytes) : readName (text ++ 0x3A :: rest) = some (name, rest) := by
  obtain ⟨before, _, after, hbefore, ⟨inner, hinner, rfl⟩, hafter, rfl⟩ := h
  rw [readName, skipBlanks_enclosed hbefore (fun _ => rfl)]
  simp only [readString_of_spells hinner hname, skipBlanks_append hafter]
  rfl

theorem readName_skipBlanks (s : Bytes) : readName (skipBlanks s) = readName s := by
  rw [readName, readName, skipBlanks_skipBlanks]

theorem readMembers_skipBlanks (d : Draft) (s : Bytes) :
    readMembers d (skipBlanks s) = readMembers d s := by
  have hmember : readMember d (skipBlanks s) = readMember d s := by
    rw [readMember, readMember, readName_skipBlanks]
  rw [readMembers, hmember, readMembers]

theorem reads_ignore (h : IsMember "ignore" (IsArray items) text)
    (hutf8 : ∀ item ∈ items, item.isUtf8 = true) (d : Draft) :
    Reads (readMember d) text (d.setIgnore (some (items.map some))) := by
  obtain ⟨key, value, hkey, hvalue, rfl⟩ := h
  obtain ⟨after, hafter, hread⟩ := reads_array hvalue hutf8
  refine ⟨after, hafter, fun rest => ?_⟩
  rw [readMember, List.append_assoc, List.cons_append, readName_of_spaced hkey (by decide)]
  dsimp only
  rw [if_pos (by decide), hread]
  rfl

theorem reads_separator (h : IsMember "separator" (IsString s) text) (hs : s.isUtf8 = true)
    (d : Draft) : Reads (readMember d) text (d.setSeparator (some s)) := by
  obtain ⟨key, value, hkey, hvalue, rfl⟩ := h
  obtain ⟨after, hafter, hread⟩ := reads_item hvalue hs
  refine ⟨after, hafter, fun rest => ?_⟩
  rw [readMember, List.append_assoc, List.cons_append, readName_of_spaced hkey (by decide)]
  dsimp only
  rw [if_neg (by decide), if_pos (by decide), hread]
  rfl

theorem readMembers_last {d e : Draft} (h : Reads (readMember d) text e) (rest : Bytes) :
    readMembers d (text ++ 0x7D :: rest) = some e := by
  obtain ⟨after, hafter, hread⟩ := h
  rw [readMembers, hread]
  dsimp only
  rw [skipBlanks_append hafter]
  rfl

theorem readMembers_more {d e : Draft} (h : Reads (readMember d) text e) (rest : Bytes) :
    readMembers d (text ++ 0x2C :: rest) = readMembers e rest := by
  obtain ⟨after, hafter, hread⟩ := h
  rw [readMembers, hread]
  dsimp only
  rw [skipBlanks_append hafter]
  rfl

theorem IsMember.exists_quote {kind : Bytes → Prop} (h : IsMember name kind text) (rest : Bytes) :
    ∃ more, skipBlanks (text ++ rest) = 0x22 :: more := by
  obtain ⟨key, value, hkey, _, rfl⟩ := h
  rw [List.append_assoc]
  exact hkey.exists_quote _

/-- A list without nulls takes the place of every one before it. -/
theorem take_overlay (stored items : List Bytes) :
    (Draft.overlay stored (items.map some)).take items.length = items := by
  induction items generalizing stored with
  | nil => rfl
  | cons item items ih =>
    cases stored with
    | nil => simp [Draft.overlay, ih]
    | cons old stored => simp [Draft.overlay, ih]

theorem settings_setIgnore (d : Draft) (items : List Bytes) :
    (d.setIgnore (some (items.map some))).settings = ⟨items, d.separator⟩ := by
  cases items with
  | nil => rfl
  | cons item items =>
    change (⟨(Draft.overlay d.stored ((item :: items).map some)).take
      ((item :: items).map some).length, d.separator⟩ : Settings) = _
    rw [List.length_map, take_overlay]

theorem settings_setSeparator (d : Draft) (s : Bytes) :
    (d.setSeparator (some s)).settings = ⟨d.settings.ignore, s⟩ := rfl

theorem parse_of_members {before members : Bytes} {d : Draft} (hbefore : Blank before)
    (hquote : ∃ more, skipBlanks members = 0x22 :: more) (hread : readMembers {} members = some d) :
    parse (before ++ 0x7B :: members) = .ok d.settings := by
  obtain ⟨more, hmore⟩ := hquote
  have hopen : skipBlanks (before ++ 0x7B :: members) = 0x7B :: members := by
    rw [skipBlanks_append hbefore]
    rfl
  rw [← readMembers_skipBlanks, hmore] at hread
  simp only [parse, hopen, hmore]
  split
  · rename_i draft hdraft
    obtain rfl := Option.some.inj (hread.symm.trans hdraft)
    rfl
  · rename_i hnone
    cases hread.symm.trans hnone

theorem parse_of_isText (h : IsText settings text)
    (hignore : ∀ pattern ∈ settings.ignore, pattern.isUtf8 = true)
    (hseparator : settings.separator.isUtf8 = true) (rest : Bytes) :
    parse (text ++ rest) = .ok settings := by
  obtain ⟨before, ignore, separator, hbefore, hi, hs, rfl | rfl⟩ := h
  · simp only [List.append_assoc, List.cons_append, List.nil_append]
    rw [parse_of_members hbefore (hi.exists_quote _)
      ((readMembers_more (reads_ignore hi hignore _) _).trans
        (readMembers_last (reads_separator hs hseparator _) rest)),
      settings_setSeparator, settings_setIgnore]
  · simp only [List.append_assoc, List.cons_append, List.nil_append]
    rw [parse_of_members hbefore (hs.exists_quote _)
      ((readMembers_more (reads_separator hs hseparator _) _).trans
        (readMembers_last (reads_ignore hi hignore _) rest)), settings_setIgnore]
    rfl

/-- The hexadecimal digit for a number below sixteen. -/
def digit (n : Nat) : UInt8 := ("0123456789abcdef" : Bytes).getD n 0x30

/-- A byte as it is written between quotes. -/
def escape (b : UInt8) : Bytes :=
  if b = 0x22 ∨ b = 0x5C then [0x5C, b]
  else if b < 0x20 then [0x5C, 0x75, 0x30, 0x30, digit (b.toNat / 16), digit (b.toNat % 16)]
  else [b]

/-- A string in quotes. -/
def quote (s : Bytes) : Bytes := 0x22 :: s.flatMap escape ++ [0x22]

/-- Settings as a text without white space. -/
def write (settings : Settings) : Bytes :=
  0x7B :: (quote "ignore" ++
      0x3A :: (0x5B :: Bytes.join [0x2C] (settings.ignore.map quote) ++ [0x5D])) ++
    0x2C :: (quote "separator" ++ 0x3A :: quote settings.separator) ++ [0x7D]

theorem digit_spec {n : Nat} (h : n < 16) : Digit (digit n) n := by
  left
  interval_cases n <;> rfl

theorem encode_toNat (h : b.toNat < 0x80) : Rune.encode b.toNat = [b] := by
  simp [Rune.encode, h]

theorem spells_escape (s : Bytes) : Spells (s.flatMap escape) s := by
  induction s with
  | nil => exact .nil
  | cons b s ih =>
    rw [List.flatMap_cons, escape]
    split_ifs with hletter hlow
    · rcases hletter with rfl | rfl <;> exact .letter (by decide) ih
    -- The number of a control character has two digits, and its encoding is that byte alone.
    · have hb : b.toNat < 0x20 := UInt8.lt_iff_toNat_lt.mp hlow
      have hzero : Digit 0x30 0 := Or.inl rfl
      have hescape := Escape.mk hzero hzero (digit_spec (n := b.toNat / 16) (by omega))
        (digit_spec (n := b.toNat % 16) (by omega))
      have hcode : ((0 * 16 + 0) * 16 + b.toNat / 16) * 16 + b.toNat % 16 = b.toNat := by omega
      rw [hcode] at hescape
      have hspells := Spells.code hescape (Or.inl (by omega)) ih
      rwa [encode_toNat (by omega)] at hspells
    · rw [not_or] at hletter
      exact .plain (UInt8.not_lt.mp hlow) hletter.1 hletter.2 ih

theorem spaced_of {kind : Bytes → Prop} (h : kind text) : Spaced kind text :=
  ⟨[], text, [], List.forall_mem_nil _, h, List.forall_mem_nil _, by simp⟩

theorem isString_quote (s : Bytes) : IsString s (quote s) := ⟨_, spells_escape s, rfl⟩

theorem lists_join (items : List Bytes) : Lists items (Bytes.join [0x2C] (items.map quote)) := by
  induction items with
  | nil => exact .nil (List.forall_mem_nil _)
  | cons item items ih =>
    cases items with
    | nil => exact .one (spaced_of (isString_quote item))
    | cons next items =>
      have hmore := Lists.more (spaced_of (isString_quote item)) (List.cons_ne_nil _ _) ih
      rwa [List.map_cons, List.map_cons, Bytes.join_cons, List.append_assoc]

theorem isText_write (settings : Settings) : IsText settings (write settings) :=
  ⟨[], _, _, List.forall_mem_nil _,
    ⟨_, _, spaced_of (isString_quote _), spaced_of ⟨_, lists_join settings.ignore, rfl⟩, rfl⟩,
    ⟨_, _, spaced_of (isString_quote _), spaced_of (isString_quote settings.separator), rfl⟩,
    Or.inl rfl⟩

/-- Settings whose strings are UTF-8 can be written in JSON, and are what is read from every text
that is them in JSON. What comes after such a text makes no difference. -/
theorem parse_written (settings : Settings)
    (hignore : ∀ pattern ∈ settings.ignore, pattern.isUtf8 = true)
    (hseparator : settings.separator.isUtf8 = true) :
    IsText settings (write settings) ∧ ∀ text, IsText settings text →
      parse text = .ok settings ∧ ∀ rest, parse (text ++ rest) = .ok settings := by
  refine ⟨isText_write settings, fun text h => ⟨?_, parse_of_isText h hignore hseparator⟩⟩
  rw [← List.append_nil text]
  exact parse_of_isText h hignore hseparator []

/-- Strings with a quote and a backslash, control characters and characters beyond ASCII. -/
def mixed : Settings :=
  ⟨[[0x22, 0x5C, 0x01], [0xC3, 0xA9]], [0x09, 0xF0, 0x9F, 0x98, 0x80]⟩

/-- The separator before the list, white space, and escapes that need not be. -/
def scattered : Bytes :=
  "\n\x7b \"separator\" : \"\\t\\uD83d\\uDE00\"\r\n," ++
    " \"ignore\" :[\"\\\"\\\\\\u0001\" ,\"\\u00e9\"]\x7d"

theorem isText_scattered : IsText mixed scattered := by
  have hgap : Blank [0x20] := by simp [Blank]
  have hhi : Escape "\\uD83d" (0xD800 + 0x3D) :=
    .mk (i := 0xD) (j := 8) (k := 3) (l := 0xD) (Or.inr rfl) (Or.inl rfl) (Or.inl rfl) (Or.inl rfl)
  have hlo : Escape "\\uDE00" (0xDC00 + 0x200) :=
    .mk (i := 0xD) (j := 0xE) (k := 0) (l := 0) (Or.inr rfl) (Or.inr rfl) (Or.inl rfl) (Or.inl rfl)
  have hface : Spells "\\t\\uD83d\\uDE00" mixed.separator :=
    .letter (by decide) (.surrogates hhi (by decide) hlo (by decide) .nil)
  have hcode : Escape "\\u00e9" 0xE9 :=
    .mk (i := 0) (j := 0) (k := 0xE) (l := 9) (Or.inl rfl) (Or.inl rfl) (Or.inl rfl) (Or.inl rfl)
  have hletter : Spells "\\u00e9" [0xC3, 0xA9] := .code hcode (by decide) .nil
  have hlist : Lists mixed.ignore "\"\\\"\\\\\\u0001\" ,\"\\u00e9\"" :=
    .more ⟨[], _, [0x20], by simp [Blank], isString_quote _, hgap, rfl⟩ (by decide)
      (.one (spaced_of ⟨_, hletter, rfl⟩))
  have hseparator : IsMember "separator" (IsString mixed.separator)
      " \"separator\" : \"\\t\\uD83d\\uDE00\"\r\n" :=
    ⟨_, _, ⟨[0x20], _, [0x20], hgap, isString_quote _, hgap, rfl⟩,
      ⟨[0x20], _, [0x0D, 0x0A], hgap, ⟨_, hface, rfl⟩, by simp [Blank], rfl⟩, by decide⟩
  have hignore : IsMember "ignore" (IsArray mixed.ignore)
      " \"ignore\" :[\"\\\"\\\\\\u0001\" ,\"\\u00e9\"]" :=
    ⟨_, _, ⟨[0x20], _, [0x20], hgap, isString_quote _, hgap, rfl⟩, spaced_of ⟨_, hlist, rfl⟩,
      by decide⟩
  exact ⟨[0x0A], _, _, by simp [Blank], hignore, hseparator, Or.inr (by decide)⟩

theorem parse_written_scattered :
    (∀ pattern ∈ mixed.ignore, pattern.isUtf8 = true) ∧ mixed.separator.isUtf8 = true ∧
      IsText mixed scattered ∧ parse (scattered ++ "] 1,") = .ok mixed := by
  have hignore : ∀ pattern ∈ mixed.ignore, pattern.isUtf8 = true := by decide
  have hseparator : mixed.separator.isUtf8 = true := by decide
  obtain ⟨_, hread⟩ := parse_written mixed hignore hseparator
  obtain ⟨_, hrest⟩ := hread scattered isText_scattered
  exact ⟨hignore, hseparator, isText_scattered, hrest "] 1,"⟩

end Wordwalk.Settings.Json
