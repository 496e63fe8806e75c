import Wordwalk.Disk.Resolve
import Wordwalk.Proofs.Path

/-! Going along a path one name at a time, and what follows for the whole path. -/
namespace Wordwalk

namespace Path

variable {dir name : Bytes}

/-- The names along a path, without the dot that a slash at its end stands for. -/
def parts (path : Bytes) : List Bytes := (Bytes.splitOn 0x2F path).filter (· ≠ [])

theorem names_eq (path : Bytes) :
    names path = parts path ++ if path.getLast? = some 0x2F then [[0x2E]] else [] := rfl

theorem parts_append (s t : Bytes) : parts (s ++ 0x2F :: t) = parts s ++ parts t := by
  rw [parts, Bytes.splitOn_append, List.filter_append]
  rfl

theorem parts_name (h : IsName name) : parts name = [name] := by
  rw [parts, Bytes.splitOn_of_notMem h.2.2.2]
  simp [h.1]

theorem parts_join (h : IsName name) (dir : Bytes) :
    parts (join dir name) = parts dir ++ [name] := by
  unfold join
  split
  · rename_i hd
    subst hd
    exact parts_name h
  · split
    · rename_i hd hslash
      obtain ⟨init, rfl⟩ := List.getLast?_eq_some_iff.mp hslash
      have hinit : parts (init ++ [0x2F]) = parts init := by
        simpa [parts, Bytes.splitOn] using parts_append init []
      rw [List.append_assoc, List.singleton_append, parts_append, parts_name h, hinit]
    · rw [parts_append, parts_name h]

theorem exists_join_eq (dir : Bytes) (hz : 0 ∉ name) :
    ∃ tail, join dir name = dir ++ tail ∧ 0 ∉ tail := by
  unfold join
  split
  · rename_i hd
    exact ⟨name, by simp [hd], hz⟩
  · split
    · exact ⟨name, rfl, hz⟩
    · exact ⟨0x2F :: name, rfl, by simpa using hz⟩

/-- The path of an entry goes along that of its directory and then to the entry. -/
theorem names_join (h : IsName name) (dir : Bytes) :
    names (join dir name) = parts dir ++ [name] := by
  have hlast : (join dir name).getLast? ≠ some 0x2F := by
    rw [join_eq]
    exact getLast?_append_name h _
  rw [names_eq, parts_join h, if_neg hlast, List.append_nil]

end Path

namespace Disk

/-- What a name leads to from a place. -/
inductive Turn where
  | refused (refusal : Refusal)
  | arrive (place : Place)
  | link (target : Bytes)
  | absent

/-- What `name` leads to from `here`. -/
def turn (d : Disk) (here : Place) (name : Bytes) : Turn :=
  if d.lookup here ≠ some .dir then .refused .notDirectory
  else if name = [0x2E] then .arrive here
  else if name = [0x2E, 0x2E] then .arrive here.tail
  else if nameLimit < name.length then .refused .nameTooLong
  else
    match d.lookup (name :: here) with
    | none => .absent
    | some (.link target) => .link target
    | some _ => .arrive (name :: here)

variable {d : Disk} {path dir name : Bytes} {place : Place}

/-- A path is resolved by turning at each of its names. -/
theorem along_cons (d : Disk) (create : Bool)
    (follow : Place → List Bytes → Except Refusal Place) (here : Place) (name : Bytes)
    (names : List Bytes) :
    d.along create follow here (name :: names) =
      match d.turn here name with
      | .refused refusal => .error refusal
      | .arrive place => d.along create follow place names
      | .link target => follow (start here target) (Path.names target ++ names)
      | .absent => if create ∧ names = [] then .ok (name :: here) else .error .noEntry := by
  simp only [along, turn]
  by_cases hdir : d.lookup here ≠ some .dir
  · simp [hdir]
  by_cases hdot : name = [0x2E]
  · simp [hdir, hdot]
  by_cases hup : name = [0x2E, 0x2E]
  · simp [hdir, hup]
  by_cases hlong : nameLimit < name.length
  · simp [hdir, hdot, hup, hlong]
  simp only [hdir, hdot, hup, hlong, if_false]
  cases d.lookup (name :: here) with
  | none => rfl
  | some e => cases e <;> rfl

theorem along_create {follow follow' : Place → List Bytes → Except Refusal Place}
    (hf : ∀ here names, follow here names = .ok place → follow' here names = .ok place)
    {here : Place} {names : List Bytes} (h : d.along false follow here names = .ok place) :
    d.along true follow' here names = .ok place := by
  induction names generalizing here with
  | nil => exact h
  | cons name names ih =>
    rw [along_cons] at h ⊢
    cases ht : d.turn here name with
    | refused refusal => simp [ht] at h
    | arrive next => exact ih (by simpa [ht] using h)
    | link target => exact hf _ _ (by simpa [ht] using h)
    | absent => simp [ht] at h

theorem resolve_create {links : Nat} {here : Place} {names : List Bytes}
    (h : d.resolve false links here names = .ok place) :
    d.resolve true links here names = .ok place := by
  induction links generalizing here names with
  | zero => exact along_create (fun _ _ hf => by simp at hf) h
  | succ links ih => exact along_create (fun _ _ hf => ih hf) h

theorem locate_eq_ok_iff {create : Bool} :
    d.locate path create = .ok place ↔
      0 ∉ path ∧ path ≠ [] ∧ path.length < pathLimit ∧
        d.resolve create linkLimit (start d.home path) (Path.names path) = .ok place := by
  unfold locate
  by_cases hz : 0 ∈ path
  · simp [hz]
  by_cases he : path = []
  · simp [he]
  by_cases hl : pathLimit ≤ path.length
  · simp [hz, he, hl, Nat.not_lt.mpr hl]
  · simp [hz, he, hl, Nat.not_le.mp hl]

/-- A path that leads somewhere leads there also when it may name a new file. -/
theorem locate_create (h : d.locate path = .ok place) : d.locate path true = .ok place := by
  obtain ⟨hz, he, hl, hr⟩ := locate_eq_ok_iff.mp h
  exact locate_eq_ok_iff.mpr ⟨hz, he, hl, resolve_create hr⟩

theorem resolve_nil (d : Disk) (create : Bool) (links : Nat) (here : Place) :
    d.resolve create links here [] = .ok here := by
  cases links <;> rfl

theorem resolve_cons (d : Disk) (create : Bool) (links : Nat) (here : Place) (name : Bytes)
    (names : List Bytes) :
    d.resolve create links here (name :: names) =
      match d.turn here name with
      | .refused refusal => .error refusal
      | .arrive place => d.resolve create links place names
      | .link target =>
        match links with
        | 0 => .error .tooManyLinks
        | links + 1 => d.resolve create links (start here target) (Path.names target ++ names)
      | .absent => if create ∧ names = [] then .ok (name :: here) else .error .noEntry := by
  cases links <;> exact along_cons d create _ here name names

/-- A path that can be followed to its end passes through one place after each of its names, from
which the rest is followed with the links that are left. -/
theorem resolve_split {links : Nat} {here : Place} {names more : List Bytes}
    (h : d.resolve false links here (names ++ more) = .ok place) :
    ∃ left there, ∀ rest,
      d.resolve false links here (names ++ rest) = d.resolve false left there rest := by
  induction links using Nat.strongRecOn generalizing here names with
  | ind links ihl =>
    induction names generalizing here with
    | nil => exact ⟨links, here, fun _ => rfl⟩
    | cons name names ih =>
      simp only [List.cons_append, resolve_cons] at h ⊢
      cases ht : d.turn here name with
      | refused refusal => simp [ht] at h
      | arrive next =>
        simp only [ht] at h
        exact ih h
      | link target =>
        cases links with
        | zero => simp [ht] at h
        | succ links =>
          simp only [ht, ← List.append_assoc] at h ⊢
          exact ihl links (Nat.lt_succ_self links) h
      | absent => simp [ht] at h

/-- A path that can be followed to its end with some number of links leads there with every number,
unless that is too small. -/
theorem resolve_of_links {create : Bool} {links left : Nat} {here : Place} {names : List Bytes}
    (h : d.resolve create links here names = .ok place) :
    d.resolve create left here names = .ok place ∨
      d.resolve create left here names = .error .tooManyLinks := by
  induction links using Nat.strongRecOn generalizing left here names with
  | ind links ihl =>
    induction names generalizing here with
    | nil =>
      rw [resolve_nil] at h ⊢
      exact Or.inl h
    | cons name names ih =>
      rw [resolve_cons] at h ⊢
      cases ht : d.turn here name with
      | refused refusal => simp [ht] at h
      | arrive next =>
        simp only [ht] at h ⊢
        exact ih h
      | link target =>
        -- The link is taken off both numbers, and only `left` can be used up by it.
        cases links with
        | zero => simp [ht] at h
        | succ links =>
          cases left with
          | zero => exact Or.inr rfl
          | succ left =>
            simp only [ht] at h ⊢
            exact ihl links (Nat.lt_succ_self links) h
      | absent =>
        simp only [ht] at h ⊢
        exact Or.inl h

/-- A name that the file system takes for an entry. -/
def Nameable (name : Bytes) : Prop := Path.IsName name ∧ 0 ∉ name ∧ name.length ≤ nameLimit

theorem resolve_dot {create : Bool} {links : Nat} {here : Place}
    (h : d.resolve create links here [[0x2E]] = .ok place) : here = place := by
  rw [resolve_cons] at h
  by_cases hd : d.lookup here = some .dir
  · simpa [turn, hd, resolve_nil] using h
  · simp [turn, hd] at h

/-- The name of an entry that is no link leads to it. -/
theorem turn_entry {e : Entry} (hn : Nameable name) (hp : d.lookup place = some .dir)
    (he : d.lookup (name :: place) = some e) (hlink : ∀ target, e ≠ .link target) :
    d.turn place name = .arrive (name :: place) := by
  cases e with
  | link target => exact absurd rfl (hlink target)
  | dir => simp [turn, hp, he, hn.1.2.1, hn.1.2.2.1, Nat.not_lt.mpr hn.2.2]
  | file content mode => simp [turn, hp, he, hn.1.2.1, hn.1.2.2.1, Nat.not_lt.mpr hn.2.2]

/-- What follows a path that leads to a directory goes on from there. -/
theorem resolve_parts (h : d.locate dir = .ok place) :
    ∃ left, ∀ rest, d.resolve false linkLimit (start d.home dir) (Path.parts dir ++ rest) =
      d.resolve false left place rest := by
  obtain ⟨_, _, _, hr⟩ := locate_eq_ok_iff.mp h
  rw [Path.names_eq] at hr
  obtain ⟨left, there, hsplit⟩ := resolve_split hr
  have hthere : there = place := by
    rw [hsplit] at hr
    split at hr
    · exact resolve_dot hr
    · simpa [resolve_nil] using hr
  exact ⟨left, hthere ▸ hsplit⟩

/-- The path of an entry goes to its directory and from there to the entry, unless it is too
long. -/
theorem exists_locate_join (hdir : d.locate dir = .ok place) (hn : Nameable name)
    (hl : (Path.join dir name).length < pathLimit) :
    ∃ left, d.locate (Path.join dir name) = d.resolve false left place [name] := by
  obtain ⟨hz, hne, _, _⟩ := locate_eq_ok_iff.mp hdir
  obtain ⟨left, hresolve⟩ := resolve_parts hdir
  obtain ⟨tail, htail, hzt⟩ := Path.exists_join_eq dir hn.2.1
  have hzero : 0 ∉ Path.join dir name := by simp [htail, hz, hzt]
  have hnil : Path.join dir name ≠ [] := by simp [Path.join_eq, hn.1.1]
  have hstart : start d.home (Path.join dir name) = start d.home dir := by
    rw [htail, start, start, List.head?_append_of_ne_nil _ hne]
  refine ⟨left, ?_⟩
  rw [locate, if_neg hzero, if_neg hnil, if_neg (Nat.not_le.mpr hl), hstart, Path.names_join hn.1,
    hresolve]

/-- The path of an entry that is no link leads to it unless it is too long. -/
theorem locate_entry {e : Entry} (hdir : d.locate dir = .ok place)
    (hp : d.lookup place = some .dir) (hn : Nameable name)
    (he : d.lookup (name :: place) = some e) (hlink : ∀ target, e ≠ .link target)
    (hl : (Path.join dir name).length < pathLimit) :
    d.locate (Path.join dir name) = .ok (name :: place) := by
  obtain ⟨left, hresolve⟩ := exists_locate_join hdir hn hl
  rw [hresolve, resolve_cons, turn_entry hn hp he hlink]
  exact resolve_nil d false left _

/-- The path of a sub-directory leads to it unless it is too long. -/
theorem locate_join (hdir : d.locate dir = .ok place) (hp : d.lookup place = some .dir)
    (hn : Nameable name) (he : d.lookup (name :: place) = some .dir)
    (hl : (Path.join dir name).length < pathLimit) :
    d.locate (Path.join dir name) = .ok (name :: place) :=
  locate_entry hdir hp hn he (by simp) hl

end Disk
end Wordwalk
