import Wordwalk.Proofs.Listing
import Wordwalk.Proofs.Walk.Ignore

/-! What the ignore patterns hide from a walk. A walk never scans a directory that a pattern takes
nor one below it, so two sources of listings that differ only there are walked in the same way,
whatever goes wrong in the hidden parts. -/
namespace Wordwalk

namespace Path

variable {above dir name s t : Bytes}

/-- Whether the path `dir` is that of `above` or goes on from there. -/
def AtOrBelow (above dir : Bytes) : Prop := dir = above ∨ above ++ [0x2F] <+: dir

/-- A name holds no slash, so what ends with one ends before it. -/
theorem prefix_of_prefix_append_name (hn : IsName name) (h : s ++ [0x2F] <+: t ++ name) :
    s ++ [0x2F] <+: t := by
  obtain ⟨u, hu⟩ := h
  rcases List.append_eq_append_iff.mp hu with ⟨v, ht, _⟩ | ⟨v, hs, hname⟩
  · exact ⟨v, ht.symm⟩
  · rcases List.eq_nil_or_concat v with rfl | ⟨v, c, rfl⟩
    · exact ⟨[], by simpa using hs⟩
    · rw [List.concat_eq_append, ← List.append_assoc] at hs
      obtain ⟨_, hc⟩ := List.append_inj' hs rfl
      exact absurd (by simp [hname, ← hc]) hn.2.2.2

theorem atOrBelow_append (root : Bytes) :
    AtOrBelow (root ++ above) (root ++ dir) ↔ AtOrBelow above dir := by
  simp [AtOrBelow, List.append_assoc, List.prefix_append_right_inj]

/-- What an entry of a directory is or lies below is the entry, or the directory is it or lies
below it. -/
theorem atOrBelow_join (hn : IsName name) (h : AtOrBelow above (join dir name)) :
    join dir name = above ∨ above ++ [0x2F] <+: stem dir := by
  rw [join_eq] at h ⊢
  exact h.imp_right (prefix_of_prefix_append_name hn)

end Path

namespace Walk

variable {v v' w w' : Walk}

/-- Whether two walks scanned the same directories, found the same files and ended in the same way.
They may have logged different events. -/
structure Alike (v w : Walk) : Prop where
  files : v.files = w.files
  scanned : v.scanned = w.scanned
  stop : v.stop = w.stop

theorem Alike.andThen (hv : v.Alike v') (hw : w.Alike w') :
    (v.andThen w).Alike (v'.andThen w') := by
  cases hs : v'.stop with
  | some stop =>
    rw [andThen_of_stop (hv.stop.trans hs), andThen_of_stop hs]
    exact hv
  | none =>
    simp only [Walk.andThen, hv.stop, hs]
    exact ⟨by rw [hv.files, hw.files], by rw [hv.scanned, hw.scanned], hw.stop⟩

theorem mem_scanned_andThen {dir : Bytes} (h : dir ∈ (v.andThen w).scanned) :
    dir ∈ v.scanned ∨ dir ∈ w.scanned := by
  cases hs : v.stop with
  | some stop =>
    rw [andThen_of_stop hs] at h
    exact Or.inl h
  | none => simpa [Walk.andThen, hs] using h

end Walk

namespace Walker

variable {w w' : Walker} {ignore scanned names : List Bytes} {depth : Nat}
  {root dir rel name above : Bytes} {scanner scanner' : Scanner}

/-- Whether a pattern takes the path below `root` of a directory that `dir` is or lies below. The
root itself is never hidden. -/
def Hidden (ignore : List Bytes) (root dir : Bytes) : Prop :=
  ∃ rel, rel ≠ [] ∧ ignored ignore rel = true ∧ Path.AtOrBelow (Path.stem root ++ rel) dir

/-- Whether a walk from `root` can come to `dir`, with `rel` as its path below the root, through
entries that no pattern takes. -/
inductive Open (ignore : List Bytes) (root : Bytes) : (dir rel : Bytes) → Prop where
  | root : Open ignore root root []
  | through {dir rel name : Bytes} :
      Open ignore root dir rel → Path.IsName name →
        ignored ignore (Path.join rel name) = false →
        Open ignore root (Path.join dir name) (Path.join rel name)

/-- Below the root the paths of a directory from the root and from the start differ by the stem of
the root, and both end in a name. -/
theorem Open.eq_root_or (h : Open ignore root dir rel) :
    dir = root ∧ rel = [] ∨
      ∃ s name, Path.IsName name ∧ rel = s ++ name ∧ dir = Path.stem root ++ rel := by
  induction h with
  | root => exact Or.inl ⟨rfl, rfl⟩
  | @through dir rel name _ hn _ ih =>
    right
    rw [Path.join_eq, Path.join_eq]
    rcases ih with ⟨rfl, rfl⟩ | ⟨s, last, hlast, rfl, rfl⟩
    · exact ⟨[], name, hn, rfl, rfl⟩
    · refine ⟨Path.stem (s ++ last), name, hn, rfl, ?_⟩
      rw [← List.append_assoc, Path.stem_append hlast, Path.stem_append hlast]
      simp

/-- No pattern takes the path of an open directory or of one that it lies below. -/
theorem Open.not_ignored (h : Open ignore root dir rel) (hne : above ≠ [])
    (habove : Path.AtOrBelow above rel) : ignored ignore above = false := by
  induction h with
  | root => exact absurd habove (by simp [Path.AtOrBelow, hne.symm])
  | @through dir rel name h hn hi ih =>
    rcases Path.atOrBelow_join hn habove with rfl | hstem
    · exact hi
    · rcases h.eq_root_or with ⟨_, rfl⟩ | ⟨s, last, hlast, rfl, _⟩
      · simp [Path.stem] at hstem
      · rw [Path.stem_append hlast, List.prefix_concat_iff] at hstem
        refine ih (hstem.imp_left fun he => ?_)
        exact (List.append_cancel_right he).symm

theorem Open.not_hidden (h : Open ignore root dir rel) : ¬ Hidden ignore root dir := by
  rintro ⟨above, hne, hi, habove⟩
  rcases h.eq_root_or with ⟨rfl, _⟩ | ⟨_, _, _, _, rfl⟩
  · have hlength := Path.length_le_stem dir
    have hpos := List.length_pos_iff.mpr hne
    rcases habove with he | hp
    · have hsame := congrArg List.length he
      rw [List.length_append] at hsame
      omega
    · have hle := hp.length_le
      simp only [List.length_append, List.length_singleton] at hle
      omega
  · rw [Path.atOrBelow_append] at habove
    rw [h.not_ignored hne habove] at hi
    exact Bool.noConfusion hi

/-- Whether two walkers leave out the same and get the same answer about every directory that is not
hidden. -/
structure AgreeOutside (w w' : Walker) (root : Bytes) : Prop where
  ignore : w.ignore = w'.ignore
  cancelAfter : w.cancelAfter = w'.cancelAfter
  outcome : ∀ scanned dir, ¬ Hidden w.ignore root dir →
    (w.scanner scanned dir).outcome = (w'.scanner scanned dir).outcome

theorem visitAll_alike {visit visit' : List Bytes → Bytes → Bytes → Walk}
    (hignore : w.ignore = w'.ignore)
    (hvisit : ∀ name ∈ names, ignored w.ignore (Path.join rel name) = false → ∀ scanned,
      (visit scanned (Path.join dir name) (Path.join rel name)).Alike
        (visit' scanned (Path.join dir name) (Path.join rel name))) :
    (w.visitAll visit dir rel scanned names).Alike (w'.visitAll visit' dir rel scanned names) := by
  induction names generalizing scanned with
  | nil => exact ⟨rfl, rfl, rfl⟩
  | cons name names ih =>
    have hrest := fun n hn => hvisit n (List.mem_cons_of_mem name hn)
    cases hi : ignored w.ignore (Path.join rel name) with
    | true =>
      rw [visitAll_cons_of_ignored hi, visitAll_cons_of_ignored (hignore ▸ hi)]
      exact Walk.Alike.andThen ⟨rfl, rfl, rfl⟩ (ih hrest)
    | false =>
      have hfirst := hvisit name (by simp) hi scanned
      rw [visitAll_cons_of_kept hi, visitAll_cons_of_kept (hignore ▸ hi), hfirst.scanned]
      exact hfirst.andThen (ih hrest)

/-- One level of `visit_alike`: about a directory that is open both get the same answer. -/
theorem visit_alike_of_below (h : w.AgreeOutside w' root) (hopen : Open w.ignore root dir rel)
    (hbelow : ∀ scanned dir rel, Open w.ignore root dir rel →
      (w.below depth scanned dir rel).Alike (w'.below depth scanned dir rel)) :
    (w.visit depth scanned dir rel).Alike (w'.visit depth scanned dir rel) := by
  have hcancel : w.cancelled scanned.length = w'.cancelled scanned.length := by
    rw [cancelled, cancelled, h.cancelAfter]
  have houtcome := h.outcome scanned dir hopen.not_hidden
  rcases w.opens_or_refusal scanned dir with ⟨listing, hw⟩ | hc | ⟨hc, f, hf⟩
  · have hw' : w'.Opens scanned dir listing := ⟨hcancel ▸ hw.1, houtcome ▸ hw.2.1, hw.2.2⟩
    have hnames := (Listing.fault?_eq_none_iff.mp hw.2.2).2.1
    rw [visit_of_opens hw, visit_of_opens hw']
    refine Walk.Alike.andThen ⟨by simp [keptFiles, h.ignore], rfl, rfl⟩ (visitAll_alike h.ignore ?_)
    intro name hn hi scanned
    exact hbelow scanned _ _ (hopen.through (hnames name (List.mem_append_left _ hn)) hi)
  · rw [visit_of_cancelled hc, visit_of_cancelled (hcancel ▸ hc)]
    exact ⟨rfl, rfl, rfl⟩
  · have hf' : w'.refusal? scanned dir = some f := by
      rw [← hf, refusal?, refusal?, houtcome]
    rw [visit_of_refusal hc hf, visit_of_refusal (hcancel ▸ hc) hf']
    exact ⟨rfl, rfl, rfl⟩

theorem visit_alike (h : w.AgreeOutside w' root) (hopen : Open w.ignore root dir rel) :
    (w.visit depth scanned dir rel).Alike (w'.visit depth scanned dir rel) := by
  induction depth generalizing scanned dir rel with
  | zero => exact visit_alike_of_below h hopen fun _ _ _ _ => ⟨rfl, rfl, rfl⟩
  | succ depth ih => exact visit_alike_of_below h hopen fun _ _ _ ho => ih ho

theorem visitAll_scanned {visit : List Bytes → Bytes → Bytes → Walk} {P : Bytes → Prop}
    (hvisit : ∀ name ∈ names, ignored w.ignore (Path.join rel name) = false → ∀ scanned,
      ∀ path ∈ (visit scanned (Path.join dir name) (Path.join rel name)).scanned, P path) :
    ∀ path ∈ (w.visitAll visit dir rel scanned names).scanned, P path := by
  induction names generalizing scanned with
  | nil => simp [visitAll]
  | cons name names ih =>
    have hrest := fun n hn => hvisit n (List.mem_cons_of_mem name hn)
    intro path hp
    cases hi : ignored w.ignore (Path.join rel name) with
    | true =>
      rw [visitAll_cons_of_ignored hi] at hp
      exact ih hrest path ((Walk.mem_scanned_andThen hp).resolve_left (by simp))
    | false =>
      rw [visitAll_cons_of_kept hi] at hp
      rcases Walk.mem_scanned_andThen hp with hp | hp
      · exact hvisit name (by simp) hi scanned path hp
      · exact ih hrest path hp

/-- One level of `visit_scanned`. -/
theorem visit_scanned_of_below (hopen : Open w.ignore root dir rel)
    (hbelow : ∀ scanned dir rel, Open w.ignore root dir rel →
      ∀ path ∈ (w.below depth scanned dir rel).scanned, ¬ Hidden w.ignore root path) :
    ∀ path ∈ (w.visit depth scanned dir rel).scanned, ¬ Hidden w.ignore root path := by
  intro path hp
  rcases w.opens_or_refusal scanned dir with ⟨listing, hw⟩ | hc | ⟨hc, f, hf⟩
  · have hnames := (Listing.fault?_eq_none_iff.mp hw.2.2).2.1
    rw [visit_of_opens hw] at hp
    rcases Walk.mem_scanned_andThen hp with hp | hp
    · rw [List.mem_singleton.mp hp]
      exact hopen.not_hidden
    · refine visitAll_scanned (P := fun path => ¬ Hidden w.ignore root path) ?_ path hp
      intro name hn hi scanned
      exact hbelow scanned _ _ (hopen.through (hnames name (List.mem_append_left _ hn)) hi)
  · simp [visit_of_cancelled hc] at hp
  · rw [visit_of_refusal hc hf] at hp
    rw [List.mem_singleton.mp hp]
    exact hopen.not_hidden

theorem visit_scanned (hopen : Open w.ignore root dir rel) :
    ∀ path ∈ (w.visit depth scanned dir rel).scanned, ¬ Hidden w.ignore root path := by
  induction depth generalizing scanned dir rel with
  | zero => exact visit_scanned_of_below hopen fun _ _ _ _ => by simp [below]
  | succ depth ih => exact visit_scanned_of_below hopen fun _ _ _ ho => ih ho

theorem enumerate_alike (h : w.AgreeOutside w' root) (depth : Nat) :
    (w.enumerate depth root).Alike (w'.enumerate depth root) := by
  have hvisit : (w.visit depth [] root []).Alike (w'.visit depth [] root []) :=
    visit_alike h Open.root
  refine ⟨?_, ?_, ?_⟩
  · cases hs : (w'.visit depth [] root []).stop with
    | some stop => simp [enumerate, hs, hvisit.stop]
    | none => simp [enumerate, hs, hvisit.stop, hvisit.files]
  · rw [enumerate_scanned, enumerate_scanned, hvisit.scanned]
  · rw [enumerate_stop, enumerate_stop, hvisit.stop]

/-- Two sources of listings that give the same answer about every directory that the patterns do not
hide are walked alike: the same files are found or the walk fails in the same way, and the same
directories are scanned in the same order, from the root on, none of them hidden. How deep the
second walk may go makes no difference, unless the first is stopped for its depth. -/
theorem enumerate_hidden (hw : make scanner ignore = .ok w) (hw' : make scanner' ignore = .ok w')
    (h : ∀ scanned dir, ¬ Hidden ignore root dir →
      (scanner scanned dir).outcome = (scanner' scanned dir).outcome) (depth : Nat) :
    (w.enumerate depth root).Alike (w'.enumerate depth root) ∧
      ((w.enumerate depth root).stop ≠ some .tooDeep → ∀ deeper, depth ≤ deeper →
        (w.enumerate depth root).Alike (w'.enumerate deeper root)) ∧
      (w.enumerate depth root).scanned.head? = some root ∧
      ∀ dir ∈ (w.enumerate depth root).scanned, ¬ Hidden ignore root dir := by
  obtain rfl : w = { scanner, ignore } := eq_of_make hw
  obtain rfl : w' = { scanner := scanner', ignore } := eq_of_make hw'
  have hagree : AgreeOutside { scanner, ignore } { scanner := scanner', ignore } root :=
    ⟨rfl, rfl, h⟩
  have hdepth := enumerate_alike hagree depth
  refine ⟨hdepth, fun hstop deeper hle => ?_, ?_, ?_⟩
  · rw [enumerate_of_le (hdepth.stop ▸ hstop) hle]
    exact hdepth
  · rw [enumerate_scanned]
    exact visit_scanned_head? rfl
  · rw [enumerate_scanned]
    exact visit_scanned Open.root

/-- The two directories, when `d` in `r` cannot be read. -/
def oneUnreadable (dir : Bytes) : Scan :=
  if dir = [0x72, 0x2F, 0x64] then { outcome := .error .denied } else twoDirectories dir

/-- A directory that cannot be read makes no difference where a pattern takes it, and ends the walk
where none does. -/
theorem enumerate_hidden_unreadable :
    ((steady twoDirectories [[0x64]]).enumerate 1 [0x72]).Alike
        ((steady oneUnreadable [[0x64]]).enumerate 1 [0x72]) ∧
      [0x72, 0x2F, 0x64] ∉ ((steady oneUnreadable [[0x64]]).enumerate 1 [0x72]).scanned ∧
      ((steady oneUnreadable []).enumerate 1 [0x72]).stop ≠ none := by
  have hw : make (fun _ => twoDirectories) [[0x64]] = .ok (steady twoDirectories [[0x64]]) := by
    cbv
  have hw' : make (fun _ => oneUnreadable) [[0x64]] = .ok (steady oneUnreadable [[0x64]]) := by
    cbv
  have hidden : Hidden [[0x64]] [0x72] [0x72, 0x2F, 0x64] :=
    ⟨[0x64], by simp, by cbv, Or.inl rfl⟩
  have hsame : ∀ (_ : List Bytes) (dir : Bytes), ¬ Hidden [[0x64]] [0x72] dir →
      (twoDirectories dir).outcome = (oneUnreadable dir).outcome := by
    intro _ dir hdir
    have hne : dir ≠ [0x72, 0x2F, 0x64] := fun he => hdir (he ▸ hidden)
    rw [oneUnreadable, if_neg hne]
  obtain ⟨halike, -, -, hscanned⟩ := enumerate_hidden hw hw' hsame 1
  refine ⟨halike, fun hmem => ?_, by decide +kernel⟩
  rw [← halike.scanned] at hmem
  exact hscanned _ hmem hidden

end Walker
end Wordwalk
