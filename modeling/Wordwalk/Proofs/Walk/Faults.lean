import Wordwalk.Proofs.Walk.Depth
import Wordwalk.Proofs.Listing

/-! What a walk says of a listing that makes no sense: that it is for another directory, or what is
wrong with the first of its entries that cannot stand where it stands. -/
namespace Wordwalk.Listing

variable {l : Listing} {dir name : Bytes} {kind : Kind} {seen earlier later : List Bytes}
  {entry : Kind × Bytes} {entries before rest : List (Kind × Bytes)} {fault : Fault}

/-- What is wrong with an entry that comes after entries with the names `earlier`: its own name, or,
if an entry can have that name, that one of them has it. -/
inductive Blames (earlier : List Bytes) : Kind × Bytes → Fault → Prop where
  | empty (kind : Kind) : Blames earlier (kind, []) (.emptyName kind)
  | dot (kind : Kind) : Blames earlier (kind, [0x2E]) (.notEntry kind [0x2E])
  | dots (kind : Kind) : Blames earlier (kind, [0x2E, 0x2E]) (.notEntry kind [0x2E, 0x2E])
  | slash {kind : Kind} {name : Bytes} :
      0x2F ∈ name → Blames earlier (kind, name) (.hasSlash kind name)
  | repeated {kind : Kind} {name : Bytes} :
      Path.IsName name → name ∈ earlier → Blames earlier (kind, name) (.repeated name)

theorem Blames.congr (h : Blames earlier entry fault)
    (hsame : ∀ name, name ∈ earlier ↔ name ∈ later) : Blames later entry fault := by
  cases h with
  | empty => exact .empty _
  | dot => exact .dot _
  | dots => exact .dots _
  | slash hslash => exact .slash hslash
  | repeated hname hseen => exact .repeated hname ((hsame _).mp hseen)

theorem nameFault_of_slash (h : 0x2F ∈ name) :
    nameFault kind name = some (.hasSlash kind name) := by
  have hempty : name ≠ [] := List.ne_nil_of_mem h
  have hdots : ¬ (name = [0x2E] ∨ name = [0x2E, 0x2E]) := by
    rintro (rfl | rfl) <;> simp at h
  rw [nameFault, if_neg hempty, if_neg hdots, if_pos h]

/-- The check of a single entry finds what it is to be blamed for. -/
theorem entryFault_singleton_iff :
    entryFault seen [entry] = some fault ↔ Blames seen entry fault := by
  obtain ⟨kind, name⟩ := entry
  rw [entryFault_cons]
  constructor
  · intro h
    by_cases hname : Path.IsName name
    · rw [nameFault_eq_none_iff.mpr hname, Option.none_or] at h
      by_cases hseen : name ∈ seen
      · rw [if_pos hseen, Option.some.injEq] at h
        exact h ▸ .repeated hname hseen
      · rw [if_neg hseen] at h
        exact nomatch h
    · by_cases hslash : 0x2F ∈ name
      · rw [nameFault_of_slash hslash, Option.some_or, Option.some.injEq] at h
        exact h ▸ .slash hslash
      · have hshort : name = [] ∨ name = [0x2E] ∨ name = [0x2E, 0x2E] := by
          unfold Path.IsName at hname
          tauto
        rcases hshort with rfl | rfl | rfl
        · exact Option.some.inj h ▸ .empty kind
        · exact Option.some.inj h ▸ .dot kind
        · exact Option.some.inj h ▸ .dots kind
  · intro h
    cases h with
    | empty => rfl
    | dot => rfl
    | dots => rfl
    | slash hslash => rw [nameFault_of_slash hslash, Option.some_or]
    | repeated hname hseen =>
      rw [nameFault_eq_none_iff.mpr hname, Option.none_or, if_pos hseen]

/-- The check goes on after some entries with their names among those seen. -/
theorem entryFault_append :
    entryFault seen (before ++ rest) =
      (entryFault seen before).or (entryFault ((before.map Prod.snd).reverse ++ seen) rest) := by
  induction before generalizing seen with
  | nil => rfl
  | cons e before ih =>
    obtain ⟨kind, name⟩ := e
    rw [List.cons_append, entryFault_cons, entryFault_cons, Option.or_assoc]
    congr 1
    by_cases hseen : name ∈ seen
    · rw [if_pos hseen, if_pos hseen, Option.some_or]
    · rw [if_neg hseen, if_neg hseen, ih]
      simp

/-- The check stops at the first entry that it blames for something. -/
theorem entryFault_eq_some_iff :
    entryFault seen entries = some fault ↔
      ∃ before entry after, entries = before ++ entry :: after ∧ entryFault seen before = none ∧
        Blames ((before.map Prod.snd).reverse ++ seen) entry fault := by
  constructor
  · intro h
    induction entries generalizing seen with
    | nil => exact nomatch h
    | cons e entries ih =>
      rw [← List.singleton_append, entryFault_append] at h
      cases he : entryFault seen [e] with
      | some first =>
        rw [he, Option.some_or, Option.some.injEq] at h
        exact ⟨[], e, entries, rfl, rfl, entryFault_singleton_iff.mp (h ▸ he)⟩
      | none =>
        rw [he, Option.none_or] at h
        obtain ⟨before, entry, after, rfl, hbefore, hblames⟩ := ih h
        refine ⟨e :: before, entry, after, rfl, ?_, by simpa using hblames⟩
        rw [← List.singleton_append, entryFault_append, he, Option.none_or, hbefore]
  · rintro ⟨before, entry, after, rfl, hbefore, hblames⟩
    have hentry := entryFault_singleton_iff.mpr hblames
    rw [← List.singleton_append, entryFault_append, hbefore, Option.none_or, entryFault_append,
      hentry, Option.some_or]

theorem fault?_eq_some_iff :
    l.fault? dir = some fault ↔
      l.dir ≠ dir ∧ fault = .wrongDir l.dir ∨
        l.dir = dir ∧ entryFault [] l.entries = some fault := by
  unfold fault?
  by_cases hdir : l.dir = dir
  · simp [hdir]
  · simp [hdir, eq_comm]

/-- The entries before the first fault have names of their own, no two the same, and that fault is
what the entry after them is to be blamed for. -/
theorem entryFault_nil_eq_some_iff :
    entryFault [] entries = some fault ↔
      ∃ before entry after, entries = before ++ entry :: after ∧
        (∀ name ∈ before.map Prod.snd, Path.IsName name) ∧ (before.map Prod.snd).Nodup ∧
        Blames (before.map Prod.snd) entry fault := by
  have hsame : ∀ (before : List (Kind × Bytes)) name,
      name ∈ (before.map Prod.snd).reverse ++ [] ↔ name ∈ before.map Prod.snd := by simp
  rw [entryFault_eq_some_iff]
  constructor
  · rintro ⟨before, entry, after, hcut, hbefore, hblames⟩
    obtain ⟨hnames, hnodup⟩ := entryFault_eq_none_iff.mp hbefore
    exact ⟨before, entry, after, hcut, fun name hn => (hnames name hn).1, hnodup,
      hblames.congr (hsame before)⟩
  · rintro ⟨before, entry, after, hcut, hnames, hnodup, hblames⟩
    have hbefore : entryFault [] before = none :=
      entryFault_eq_none_iff.mpr ⟨fun name hn => ⟨hnames name hn, by simp⟩, hnodup⟩
    exact ⟨before, entry, after, hcut, hbefore, hblames.congr fun name => (hsame before name).symm⟩

/-- A listing passes the check if it is for the directory that was asked for and its entries have
names of their own, no two the same. The fault of any other listing is that it is for another
directory or, if it is not, what its first entry that cannot stand after those before it is to be
blamed for. A walk that is given such a listing fails with the directory and the fault, which its
message tells, and callers can see that the listing is malformed. -/
theorem fault_of_first_entry (l : Listing) (dir : Bytes) :
    (l.fault? dir = none ↔
      l.dir = dir ∧ (∀ name ∈ l.subDirs ++ l.files, Path.IsName name) ∧
        (l.subDirs ++ l.files).Nodup) ∧
    (∀ fault, l.fault? dir = some fault ↔
      l.dir ≠ dir ∧ fault = .wrongDir l.dir ∨
      l.dir = dir ∧ ∃ before entry after, l.entries = before ++ entry :: after ∧
        (∀ name ∈ before.map Prod.snd, Path.IsName name) ∧ (before.map Prod.snd).Nodup ∧
        Blames (before.map Prod.snd) entry fault) ∧
    ∀ fault, l.fault? dir = some fault →
      (∀ (w : Walker) (depth : Nat) (scanned : List Bytes) (rel : Bytes),
        w.cancelled scanned.length = false → (w.scanner scanned dir).outcome = .ok l →
          (w.visit depth scanned dir rel).stop = some (.failed (.listing dir fault))) ∧
      (Failure.listing dir fault).is .malformedListing = true ∧
      (Failure.listing dir fault).listing? = some (dir, fault) ∧
      (Failure.listing dir fault).message =
        "traversing " ++ dir ++ ": malformed directory listing: " ++ fault.reason := by
  refine ⟨fault?_eq_none_iff, fun fault => ?_, fun fault hfault => ⟨?_, rfl, rfl, rfl⟩⟩
  · rw [fault?_eq_some_iff, entryFault_nil_eq_some_iff]
  · intro w depth scanned rel hcancel houtcome
    have hrefusal : w.refusal? scanned dir = some (.listing dir fault) := by
      simp [Walker.refusal?, houtcome, hfault]
    rw [Walker.visit_of_refusal hcancel hrefusal]

/-- A directory `r` in which a file has the name of a sub-directory; the file after it has none. -/
def shared : Listing := ⟨[0x72], [[0x61], [0x62]], [[0x63], [0x61], []]⟩

/-- The name that a file shares with a sub-directory comes first, the empty name is not reached. -/
theorem fault_of_first_entry_shared :
    shared.fault? [0x72] = some (.repeated [0x61]) ∧
      Blames [[0x61], [0x62], [0x63]] (.file, [0x61]) (.repeated [0x61]) ∧
      (((⟨fun _ _ => { outcome := .ok shared }, [], none⟩ : Walker).visit 3 [] [0x72] []).stop =
        some (.failed (.listing [0x72] (.repeated [0x61])))) := by
  have hname : Path.IsName [0x61] := by simp [Path.IsName]
  have hblames : Blames [[0x61], [0x62], [0x63]] (.file, [0x61]) (.repeated [0x61]) :=
    .repeated hname (by simp)
  obtain ⟨_, hsome, hwalk⟩ := fault_of_first_entry shared [0x72]
  have hfault : shared.fault? [0x72] = some (.repeated [0x61]) :=
    (hsome _).mpr (.inr ⟨rfl, [(.directory, [0x61]), (.directory, [0x62]), (.file, [0x63])],
      (.file, [0x61]), [(.file, [])], rfl, by simp [Path.IsName], by decide, hblames⟩)
  exact ⟨hfault, hblames, (hwalk _ hfault).1 _ 3 [] [] rfl rfl⟩

end Wordwalk.Listing
