import Wordwalk.Proofs.Walk.Ignore

/-! A walk that is cancelled while it runs. It goes as it would have gone up to the next directory
that it would have scanned, at whatever depth that is, and fails there; a walk that has begun its
last scan no longer notices. -/
namespace Wordwalk

namespace Walk

variable {v v' w w' : Walk} {n : Nat}

/-- Whether `w` is the walk `v` when no more than `n` scans of it may begin. -/
structure Cut (n : Nat) (v w : Walk) : Prop where
  whole : v.scanned.length ≤ n → w = v
  early : ∀ h : n < v.scanned.length, w.scanned = v.scanned.take n ∧
    w.stop = some (.failed (.within ("walking " ++ v.scanned[n]) .canceled))

theorem cut_self (h : v.scanned.length ≤ n) : Cut n v v where
  whole _ := rfl
  early hlt := absurd h (Nat.not_le.mpr hlt)

theorem Cut.length_scanned_le (h : Cut n v w) : w.scanned.length ≤ v.scanned.length := by
  rcases Nat.lt_or_ge n v.scanned.length with hlt | hle
  · rw [(h.early hlt).1, List.length_take]
    exact Nat.min_le_right n _
  · rw [h.whole hle]

theorem Cut.stop_ne_tooDeep (h : Cut n v w) (hv : v.stop ≠ some .tooDeep) :
    w.stop ≠ some .tooDeep := by
  rcases Nat.lt_or_ge n v.scanned.length with hlt | hle
  · simp [(h.early hlt).2]
  · rwa [h.whole hle]

/-- The scans of the first walk are the first to begin. -/
theorem Cut.andThen (hv : Cut n v v')
    (hw : v.scanned.length ≤ n → Cut (n - v.scanned.length) w w') :
    Cut n (v.andThen w) (v'.andThen w') := by
  cases hs : v.stop with
  | some stop =>
    -- Both walks end with the first.
    have hstop' : v'.stop ≠ none := by
      rcases Nat.lt_or_ge n v.scanned.length with hlt | hle
      · simp [(hv.early hlt).2]
      · simp [hv.whole hle, hs]
    obtain ⟨stop', hs'⟩ := Option.ne_none_iff_exists'.mp hstop'
    rw [andThen_of_stop hs, andThen_of_stop hs']
    exact hv
  | none =>
    have hthen := andThen_scanned (w := w) hs
    constructor
    · intro hlong
      rw [hthen, List.length_append] at hlong
      rw [hv.whole (by omega), (hw (by omega)).whole (by omega)]
    · intro hlt
      simp only [hthen]
      rcases Nat.lt_or_ge n v.scanned.length with hfirst | hle
      · obtain ⟨hscanned, hstop⟩ := hv.early hfirst
        rw [andThen_of_stop hstop, List.getElem_append_left hfirst]
        exact ⟨by rw [hscanned, List.take_append_of_le_length (by omega)], hstop⟩
      · have hsecond : n - v.scanned.length < w.scanned.length := by
          rw [hthen, List.length_append] at hlt
          omega
        obtain ⟨hscanned, hstop⟩ := (hw hle).early hsecond
        rw [hv.whole hle, andThen_scanned hs, andThen_stop, hs, Option.none_or,
          List.getElem_append_right hle]
        exact ⟨by rw [hscanned, List.take_append, List.take_of_length_le hle], hstop⟩

end Walk

namespace Walker

variable {scanner : Scanner} {ignore scanned names : List Bytes} {depth n : Nat}
  {dir rel : Bytes} {all w : Walker}

/-- A walk over several directories is cut where the walk of one of them is. -/
theorem visitAll_cut {visit visit' : List Bytes → Bytes → Bytes → Walk}
    (hignore : all.ignore = w.ignore)
    (hvisit : ∀ scanned dir rel, scanned.length ≤ n →
      Walk.Cut (n - scanned.length) (visit scanned dir rel) (visit' scanned dir rel))
    (h : scanned.length ≤ n) :
    Walk.Cut (n - scanned.length) (all.visitAll visit dir rel scanned names)
      (w.visitAll visit' dir rel scanned names) := by
  induction names generalizing scanned with
  | nil => exact Walk.cut_self (Nat.zero_le _)
  | cons name names ih =>
    cases hi : ignored all.ignore (Path.join rel name) with
    | true =>
      rw [visitAll_cons_of_ignored hi, visitAll_cons_of_ignored (hignore ▸ hi)]
      exact (Walk.cut_self (Nat.zero_le _)).andThen fun _ => ih h
    | false =>
      rw [visitAll_cons_of_kept hi, visitAll_cons_of_kept (hignore ▸ hi)]
      have hfirst := hvisit scanned (Path.join dir name) (Path.join rel name) h
      refine hfirst.andThen fun hle => ?_
      -- The first directory was walked to its end, so both walks have scanned the same so far.
      rw [hfirst.whole hle, Nat.sub_sub, ← List.length_append]
      refine ih ?_
      rw [List.length_append]
      omega

/-- One level of `visit_cut`: a walk can be cancelled only before it scans the directory. -/
theorem visit_cut_of_below
    (hbelow : ∀ scanned dir rel, scanned.length ≤ n →
      Walk.Cut (n - scanned.length) (below { scanner, ignore } depth scanned dir rel)
        (below { scanner, ignore, cancelAfter := some n } depth scanned dir rel))
    (h : scanned.length ≤ n) :
    Walk.Cut (n - scanned.length) (visit { scanner, ignore } depth scanned dir rel)
      (visit { scanner, ignore, cancelAfter := some n } depth scanned dir rel) := by
  rcases Nat.lt_or_eq_of_le h with hlt | rfl
  · have hc : cancelled { scanner, ignore, cancelAfter := some n } scanned.length = false := by
      simpa [cancelled] using hlt
    rcases opens_or_refusal { scanner, ignore } scanned dir with ⟨listing, ho⟩ | hnone | ⟨_, f, hf⟩
    · have ho' : Opens { scanner, ignore, cancelAfter := some n } scanned dir listing :=
        ⟨hc, ho.2⟩
      rw [visit_of_opens ho, visit_of_opens ho']
      refine (Walk.cut_self (Nat.sub_pos_of_lt hlt)).andThen fun _ => ?_
      have hlength : (scanned ++ [dir]).length = scanned.length + 1 := by simp
      rw [List.length_singleton, Nat.sub_sub, ← hlength]
      exact visitAll_cut rfl hbelow (hlength ▸ hlt)
    · exact Bool.noConfusion hnone
    · rw [visit_of_refusal rfl hf, visit_of_refusal hc hf]
      exact Walk.cut_self (Nat.sub_pos_of_lt hlt)
  · have hc : cancelled { scanner, ignore, cancelAfter := some scanned.length } scanned.length =
        true := by simp [cancelled]
    have hhead : (visit { scanner, ignore } depth scanned dir rel).scanned.head? = some dir :=
      visit_scanned_head? rfl
    obtain ⟨rest, hrest⟩ := List.head?_eq_some_iff.mp hhead
    rw [visit_of_cancelled hc, Nat.sub_self]
    constructor
    · intro hle
      simp [hrest] at hle
    · intro _
      simp [hrest]

/-- A walk that is cancelled once `n` scans have begun is cut after them. -/
theorem visit_cut (h : scanned.length ≤ n) :
    Walk.Cut (n - scanned.length) (visit { scanner, ignore } depth scanned dir rel)
      (visit { scanner, ignore, cancelAfter := some n } depth scanned dir rel) := by
  induction depth generalizing scanned dir rel with
  | zero => exact visit_cut_of_below (fun _ _ _ _ => Walk.cut_self (Nat.zero_le _)) h
  | succ depth ih => exact visit_cut_of_below (fun _ _ _ => ih) h

theorem enumerate_cut (scanner : Scanner) (ignore : List Bytes) (n depth : Nat) (root : Bytes) :
    Walk.Cut n (enumerate { scanner, ignore } depth root)
      (enumerate { scanner, ignore, cancelAfter := some n } depth root) := by
  have hcut : Walk.Cut (n - ([] : List Bytes).length) (visit { scanner, ignore } depth [] root [])
      (visit { scanner, ignore, cancelAfter := some n } depth [] root []) :=
    visit_cut (Nat.zero_le n)
  rw [List.length_nil, Nat.sub_zero] at hcut
  constructor
  · intro hle
    rw [enumerate_scanned] at hle
    rw [enumerate, enumerate, hcut.whole hle]
  · intro hlt
    simp only [enumerate_scanned, enumerate_stop] at hlt ⊢
    exact hcut.early hlt

/-- A walk that is cancelled as its scan number `n` begins is the same walk if it scans no more than
`n` directories. Otherwise it scans the first `n` of them and fails at the next. -/
theorem enumerate_cancelled (hall : make scanner ignore = .ok all)
    (hw : make scanner ignore (some n) = .ok w) (depth : Nat) (root : Bytes) :
    ((all.enumerate depth root).scanned.length ≤ n →
      w.enumerate depth root = all.enumerate depth root) ∧
    ∀ h : n < (all.enumerate depth root).scanned.length,
      (w.enumerate depth root).scanned = (all.enumerate depth root).scanned.take n ∧
        (w.enumerate depth root).files = [] ∧
        (w.enumerate depth root).stop =
          some (.failed (.within ("walking " ++ (all.enumerate depth root).scanned[n])
            .canceled)) := by
  obtain rfl := eq_of_make hall
  obtain rfl := eq_of_make hw
  have hcut := enumerate_cut scanner ignore n depth root
  refine ⟨hcut.whole, fun hlt => ?_⟩
  obtain ⟨hscanned, hstop⟩ := hcut.early hlt
  exact ⟨hscanned, enumerate_files_of_stop (by simp [hstop]), hstop⟩

/-- Of three scans the last is the second directory in `r`. A walk that is cancelled as it begins
comes to its end; one that is cancelled as the scan before begins fails at that directory. -/
theorem enumerate_cancelled_twoDirectories :
    make (fun _ => twoDirectories) [] (some 2) =
        .ok { scanner := fun _ => twoDirectories, ignore := [], cancelAfter := some 2 } ∧
      (enumerate { scanner := fun _ => twoDirectories, ignore := [], cancelAfter := some 3 } 1
          [0x72]).stop = none ∧
      (enumerate { scanner := fun _ => twoDirectories, ignore := [], cancelAfter := some 2 } 1
          [0x72]).scanned = [[0x72], [0x72, 0x2F, 0x64]] ∧
      (enumerate { scanner := fun _ => twoDirectories, ignore := [], cancelAfter := some 2 } 1
          [0x72]).files = [] ∧
      (enumerate { scanner := fun _ => twoDirectories, ignore := [], cancelAfter := some 2 } 1
          [0x72]).stop =
        some (.failed (.within ("walking " ++ ([0x72, 0x2F, 0x65] : Bytes)) .canceled)) := by
  have hall : make (fun _ => twoDirectories) [] = .ok (steady twoDirectories []) := rfl
  have hscanned : ((steady twoDirectories []).enumerate 1 [0x72]).scanned =
      [[0x72], [0x72, 0x2F, 0x64], [0x72, 0x2F, 0x65]] := by decide +kernel
  have hend : ((steady twoDirectories []).enumerate 1 [0x72]).stop = none := by decide +kernel
  have hlast := (enumerate_cancelled hall (n := 3) rfl 1 [0x72]).1 (by simp [hscanned])
  have hearly := (enumerate_cancelled hall (n := 2) rfl 1 [0x72]).2 (by simp [hscanned])
  simp only [hscanned] at hearly
  exact ⟨rfl, by rw [hlast, hend], hearly⟩

end Walker
end Wordwalk
