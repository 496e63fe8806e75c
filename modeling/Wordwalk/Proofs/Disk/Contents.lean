import Mathlib.Data.List.Perm.Basic
import Mathlib.Logic.Function.Iterate
import Wordwalk.Disk.Access
import Wordwalk.Proofs.Disk.Resolve

/-! What a change of file contents can and cannot be seen by. Paths lead to the same places before
and after it and the same files are barred, so two such steps can change places. -/
namespace Wordwalk

/-- The entry with `f` applied to what a file holds. -/
def Entry.mapContent (f : Bytes → Bytes) : Entry → Entry
  | .file content mode => .file (f content) mode
  | entry => entry

namespace Entry

variable {f g : Bytes → Bytes} {e : Entry}

@[simp]
theorem mapContent_eq_dir : e.mapContent f = .dir ↔ e = .dir := by
  cases e <;> simp [mapContent]

@[simp]
theorem mapContent_id : mapContent id = id := by
  funext e
  cases e <;> rfl

theorem mapContent_mapContent : (e.mapContent f).mapContent g = e.mapContent (g ∘ f) := by
  cases e <;> rfl

end Entry

namespace Disk

variable {d : Disk} {path content : Bytes} {place : Place}

/-- The disk with `f place` applied to the content of the file at each place. -/
def mapContents (d : Disk) (f : Place → Bytes → Bytes) : Disk :=
  { d with entries := d.entries.map fun e => (e.1, e.2.mapContent (f e.1)) }

@[simp]
theorem refusal?_mapContents (d : Disk) (f : Place → Bytes → Bytes) :
    (d.mapContents f).refusal? = d.refusal? := rfl

theorem setContent_eq_mapContents (d : Disk) (place : Place) (content : Bytes) :
    d.setContent place content =
      d.mapContents fun p old => if p = place then content else old := by
  simp only [setContent, mapContents, Disk.mk.injEq, true_and, and_true]
  apply List.map_congr_left
  rintro ⟨p, e⟩ _
  cases e <;> rfl

theorem lookup_mapContents (d : Disk) (f : Place → Bytes → Bytes) (place : Place) :
    (d.mapContents f).lookup place = (d.lookup place).map (Entry.mapContent (f place)) := by
  cases place with
  | nil => rfl
  | cons name parent =>
    simp only [lookup, mapContents]
    induction d.entries with
    | nil => rfl
    | cons e entries ih =>
      obtain ⟨p, e⟩ := e
      by_cases hp : name :: parent = p
      · subst hp
        simp
      · have hb : (name :: parent == p) = false := by simpa using hp
        simp only [List.map_cons, List.lookup_cons, hb, ih]

@[simp]
theorem mapContents_id (d : Disk) : (d.mapContents fun _ => id) = d := by
  simp [mapContents]

theorem mapContents_mapContents (d : Disk) (f g : Place → Bytes → Bytes) :
    (d.mapContents f).mapContents g = d.mapContents fun place => g place ∘ f place := by
  simp [mapContents, Function.comp_def, Entry.mapContent_mapContent]

theorem lookup_mapContents_eq_dir (d : Disk) (f : Place → Bytes → Bytes) (place : Place) :
    (d.mapContents f).lookup place = some .dir ↔ d.lookup place = some .dir := by
  rw [lookup_mapContents]
  cases d.lookup place <;> simp

theorem turn_mapContents (d : Disk) (f : Place → Bytes → Bytes) (here : Place) (name : Bytes) :
    (d.mapContents f).turn here name = d.turn here name := by
  simp only [turn, ne_eq, lookup_mapContents_eq_dir]
  rw [lookup_mapContents]
  cases d.lookup (name :: here) with
  | none => rfl
  | some e => cases e <;> rfl

theorem along_mapContents (d : Disk) (f : Place → Bytes → Bytes) (create : Bool)
    (follow : Place → List Bytes → Except Refusal Place) (here : Place) (names : List Bytes) :
    (d.mapContents f).along create follow here names = d.along create follow here names := by
  induction names generalizing here with
  | nil => rfl
  | cons name names ih => simp only [along_cons, turn_mapContents, ih]

theorem resolve_mapContents (d : Disk) (f : Place → Bytes → Bytes) (create : Bool) (links : Nat) :
    (d.mapContents f).resolve create links = d.resolve create links := by
  induction links with
  | zero =>
    funext here names
    exact along_mapContents d f create _ here names
  | succ links ih =>
    funext here names
    simp only [resolve, ih]
    exact along_mapContents d f create _ here names

/-- No path leads elsewhere because the content of a file changed. -/
theorem locate_mapContents (d : Disk) (f : Place → Bytes → Bytes) (path : Bytes) (create : Bool) :
    (d.mapContents f).locate path create = d.locate path create := by
  simp only [locate, resolve_mapContents]
  rfl

/-- Why the file that a path leads to is refused when it is opened for an access, if it is. -/
def barred? (d : Disk) (access : Access) (path : Bytes) : Option Refusal :=
  match d.locate path with
  | .ok place => d.refusal? access place
  | .error _ => none

theorem barred?_of_locate {access : Access} (hp : d.locate path = .ok place) :
    d.barred? access path = d.refusal? access place := by
  simp [barred?, hp]

@[simp]
theorem unlessBarred_eq_ok_iff {α : Type} {access : Access} {a b : α} :
    d.unlessBarred access path place a = .ok b ↔
      d.refusal? access place = none ∧ a = b := by
  unfold unlessBarred
  cases d.refusal? access place <;> simp

theorem read_eq_ok_iff :
    d.read path = .ok content ↔
      ∃ place mode, d.locate path = .ok place ∧ d.lookup place = some (.file content mode) ∧
        d.refusal? .read place = none := by
  unfold read
  cases hp : d.locate path with
  | error refusal => simp
  | ok place =>
    cases he : d.lookup place with
    | none => simp [he]
    | some e => cases e <;> simp [he, and_comm]

/-- What was read was not barred from reading. -/
theorem barred?_of_read (h : d.read path = .ok content) : d.barred? .read path = none := by
  obtain ⟨place, mode, hp, _, hbar⟩ := read_eq_ok_iff.mp h
  rw [barred?_of_locate hp, hbar]

/-- Writing to a file that was just read makes no new file, and does not fail unless the file is
barred. -/
theorem write_of_locate {old : Bytes} {mode : Nat} (hp : d.locate path = .ok place)
    (he : d.lookup place = some (.file old mode)) :
    d.write path content = d.unlessBarred .write path place (d.setContent place content) := by
  simp [write, locate_create hp, he]

/-- The disk with `f` applied to the content of the file at a place, if there is one. -/
def editAt (d : Disk) (f : Bytes → Bytes) (place : Place) : Disk :=
  match d.lookup place with
  | some (.file content _) => d.setContent place (f content)
  | _ => d

/-- The disk with `f` applied to the content of the file that a path leads to, if there is one. -/
def edit (d : Disk) (f : Bytes → Bytes) (path : Bytes) : Disk :=
  match d.locate path with
  | .ok place => d.editAt f place
  | .error _ => d

theorem lookup_editAt (d : Disk) (f : Bytes → Bytes) (place other : Place) :
    (d.editAt f place).lookup other =
      (d.lookup other).map (Entry.mapContent (if other = place then f else id)) := by
  by_cases ho : other = place
  · subst ho
    unfold editAt
    cases he : d.lookup other with
    | none => simp [he]
    | some e =>
      cases e <;> simp [he, setContent_eq_mapContents, lookup_mapContents, Entry.mapContent]
  · unfold editAt
    split
    · rw [setContent_eq_mapContents, lookup_mapContents]
      simp [ho, Function.id_def]
    · simp [ho]

theorem setContent_comm {place other : Place} (hne : place ≠ other) (a b : Bytes) :
    (d.setContent place a).setContent other b = (d.setContent other b).setContent place a := by
  simp only [setContent_eq_mapContents, mapContents, List.map_map, Disk.mk.injEq, true_and,
    and_true]
  apply List.map_congr_left
  rintro ⟨p, e⟩ _
  by_cases hp : p = place
  · subst hp
    cases e <;> simp [Entry.mapContent, hne]
  · cases e <;> simp [Entry.mapContent, hp]

theorem editAt_comm (d : Disk) (f : Bytes → Bytes) (place other : Place) :
    (d.editAt f place).editAt f other = (d.editAt f other).editAt f place := by
  by_cases hne : place = other
  · rw [hne]
  · have hp : (d.editAt f other).lookup place = d.lookup place := by
      simp [lookup_editAt, hne]
    have ho : (d.editAt f place).lookup other = d.lookup other := by
      simp [lookup_editAt, Ne.symm hne]
    rw [editAt, ho, editAt.eq_def (d.editAt f other), hp]
    unfold editAt
    split
    · split
      · exact setContent_comm hne _ _
      · rfl
    · split
      · rfl
      · rfl

/-- How many of the paths lead to a place. -/
def hits (d : Disk) (paths : List Bytes) (place : Place) : Nat :=
  paths.countP fun path => d.locate path = .ok place

theorem locate_editAt (d : Disk) (f : Bytes → Bytes) (place : Place) (path : Bytes)
    (create : Bool) : (d.editAt f place).locate path create = d.locate path create := by
  unfold editAt
  split
  · rw [setContent_eq_mapContents, locate_mapContents]
  · rfl

@[simp]
theorem locate_edit (d : Disk) (f : Bytes → Bytes) (path other : Bytes) (create : Bool) :
    (d.edit f path).locate other create = d.locate other create := by
  unfold edit
  split
  · exact locate_editAt d f _ other create
  · rfl

theorem lookup_edit (d : Disk) (f : Bytes → Bytes) (path : Bytes) (place : Place) :
    (d.edit f path).lookup place =
      (d.lookup place).map (Entry.mapContent (if d.locate path = .ok place then f else id)) := by
  unfold edit
  cases hp : d.locate path with
  | error refusal => simp
  | ok target =>
    simp only [lookup_editAt, Except.ok.injEq]
    by_cases ht : place = target
    · simp [ht]
    · simp [ht, Ne.symm ht]

/-- An edit changes contents at most, and only where its path leads. -/
theorem exists_edit_eq_mapContents (d : Disk) (f : Bytes → Bytes) (path : Bytes) :
    ∃ g, d.edit f path = d.mapContents g ∧ ∀ place, d.locate path ≠ .ok place → g place = id := by
  unfold edit
  cases hp : d.locate path with
  | error refusal => exact ⟨fun _ => id, by simp, fun _ _ => rfl⟩
  | ok target =>
    simp only [editAt]
    split
    · refine ⟨_, setContent_eq_mapContents d target _, fun place hne => ?_⟩
      have hplace : place ≠ target := fun he => hne (he ▸ rfl)
      funext old
      simp [hplace]
    · exact ⟨fun _ => id, by simp, fun _ _ => rfl⟩

theorem edit_comm (d : Disk) (f : Bytes → Bytes) (path other : Bytes) :
    (d.edit f path).edit f other = (d.edit f other).edit f path := by
  rw [edit, locate_edit, edit.eq_def (d.edit f other), locate_edit]
  unfold edit
  cases d.locate path with
  | error _ => cases d.locate other <;> rfl
  | ok place =>
    cases d.locate other with
    | error _ => rfl
    | ok target => exact editAt_comm d f place target

/-- No edit bars a file or sets it free. -/
@[simp]
theorem refusal?_edit (d : Disk) (f : Bytes → Bytes) (path : Bytes) :
    (d.edit f path).refusal? = d.refusal? := by
  obtain ⟨g, hg, _⟩ := exists_edit_eq_mapContents d f path
  rw [hg, refusal?_mapContents]

@[simp]
theorem unlessBarred_edit {α : Type} (d : Disk) (f : Bytes → Bytes) (path other : Bytes)
    (access : Access) (place : Place) (a : α) :
    (d.edit f path).unlessBarred access other place a = d.unlessBarred access other place a := by
  simp only [unlessBarred, refusal?_edit]

@[simp]
theorem barred?_edit (d : Disk) (f : Bytes → Bytes) (path other : Bytes) (access : Access) :
    (d.edit f path).barred? access other = d.barred? access other := by
  simp only [barred?, locate_edit, refusal?_edit]

/-- Whether a path leads to a file that may be read. -/
def Readable (d : Disk) (path : Bytes) : Prop := ∃ content, d.read path = .ok content

/-- A change of contents makes no path readable and none unreadable. -/
@[simp]
theorem readable_edit (d : Disk) (f : Bytes → Bytes) (path other : Bytes) :
    (d.edit f path).Readable other ↔ d.Readable other := by
  simp only [Readable, read_eq_ok_iff, locate_edit, lookup_edit, refusal?_edit, Option.map_eq_some_iff]
  constructor
  · rintro ⟨content, place, mode, hp, ⟨e, he, hm⟩, hbar⟩
    cases e with
    | file old mode => exact ⟨old, place, mode, hp, he, hbar⟩
    | dir => simp [Entry.mapContent] at hm
    | link target => simp [Entry.mapContent] at hm
  · rintro ⟨content, place, mode, hp, he, hbar⟩
    exact ⟨_, place, mode, hp, ⟨_, he, rfl⟩, hbar⟩

/-- Whether a path leads to a file that may be read and then opened for an access. -/
def Usable (d : Disk) (access : Access) (path : Bytes) : Prop :=
  d.Readable path ∧ d.barred? access path = none

theorem usable_read_iff : d.Usable .read path ↔ d.Readable path := by
  refine ⟨And.left, fun h => ⟨h, ?_⟩⟩
  obtain ⟨content, hr⟩ := h
  exact barred?_of_read hr

@[simp]
theorem usable_edit (d : Disk) (f : Bytes → Bytes) (path other : Bytes) (access : Access) :
    (d.edit f path).Usable access other ↔ d.Usable access other := by
  simp only [Usable, readable_edit, barred?_edit]

/-- Whether no file of the disk is barred. -/
def Unbarred (d : Disk) : Prop := ∀ access place, d.refusal? access place = none

theorem Unbarred.barred?_eq_none (h : d.Unbarred) (access : Access) (path : Bytes) :
    d.barred? access path = none := by
  unfold barred?
  split
  · exact h access _
  · rfl

theorem Unbarred.usable_iff (h : d.Unbarred) {access : Access} :
    d.Usable access path ↔ d.Readable path :=
  and_iff_left (h.barred?_eq_none access path)

/-- Editing along a list of paths edits each file as often as paths in the list lead to it. -/
theorem lookup_foldl_edit (d : Disk) (f : Bytes → Bytes) (paths : List Bytes) (place : Place) :
    (paths.foldl (fun d path => d.edit f path) d).lookup place =
      (d.lookup place).map (Entry.mapContent f^[d.hits paths place]) := by
  induction paths generalizing d with
  | nil => simp [hits]
  | cons path paths ih =>
    have hh : (d.edit f path).hits paths place = d.hits paths place := by simp [hits]
    rw [List.foldl_cons, ih, lookup_edit, hh, Option.map_map]
    congr 1
    funext e
    rw [Function.comp_apply, Entry.mapContent_mapContent]
    by_cases hp : d.locate path = .ok place
    · have hc : d.hits (path :: paths) place = d.hits paths place + 1 := by simp [hits, hp]
      rw [if_pos hp, hc, Function.iterate_succ]
    · have hc : d.hits (path :: paths) place = d.hits paths place := by simp [hits, hp]
      rw [if_neg hp, hc, Function.comp_id]

end Disk
end Wordwalk
