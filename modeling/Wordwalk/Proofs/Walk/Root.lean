import Wordwalk.Proofs.Walk.Ends
import Wordwalk.Proofs.Walk.Hidden

/-! A walk does not depend on how its root is spelled. Two sources of listings that give like
answers about the directories below two roots are walked in step, and what is found below the one is
found below the other. -/
namespace Wordwalk

namespace Walk

variable {v v' w w' : Walk} {s t : Bytes}

/-- Whether two walks both come to their end or both do not, and find the same paths, the one after
`s` and the other after `t`. -/
structure Mirrors (s t : Bytes) (v v' : Walk) : Prop where
  stop : v.stop = none ↔ v'.stop = none
  files : ∃ rels : List Bytes, v.files = rels.map (s ++ ·) ∧ v'.files = rels.map (t ++ ·)

theorem Mirrors.andThen (hv : Mirrors s t v v') (hw : Mirrors s t w w') :
    Mirrors s t (v.andThen w) (v'.andThen w') := by
  cases hs : v.stop with
  | some stop =>
    have hne : v'.stop ≠ none := fun hs' => by simp [hv.stop.mpr hs'] at hs
    obtain ⟨stop', hs'⟩ := Option.ne_none_iff_exists'.mp hne
    rw [andThen_of_stop hs, andThen_of_stop hs']
    exact hv
  | none =>
    have hs' := hv.stop.mp hs
    obtain ⟨rels, hf, hf'⟩ := hv.files
    obtain ⟨more, hm, hm'⟩ := hw.files
    refine ⟨by simp [hs, hs', hw.stop], rels ++ more, ?_, ?_⟩
    · rw [andThen_files hs, hf, hm, List.map_append]
    · rw [andThen_files hs', hf', hm', List.map_append]

end Walk

namespace Walker

variable {scan scan' : Bytes → Scan} {ignore keys keys' scanned scanned' names : List Bytes}
  {depth depth' : Nat} {root root' dir dir' rel name : Bytes} {w w' : Walker}

/-- Whether two sources of listings give like answers about a directory each: both fail, or both
list the directory that was asked for, with the same entries. -/
inductive AnswersLike (scan scan' : Bytes → Scan) (dir dir' : Bytes) : Prop where
  | failed {failure failure' : Failure} :
      (scan dir).outcome = .error failure → (scan' dir').outcome = .error failure' →
        AnswersLike scan scan' dir dir'
  | listed {subDirs files : List Bytes} :
      (scan dir).outcome = .ok ⟨dir, subDirs, files⟩ →
        (scan' dir').outcome = .ok ⟨dir', subDirs, files⟩ → AnswersLike scan scan' dir dir'

/-- Whether two sources of listings give like answers about two roots and about what has the same
path below them. -/
structure AlikeBelow (scan scan' : Bytes → Scan) (root root' : Bytes) : Prop where
  atRoot : AnswersLike scan scan' root root'
  below : ∀ rel, rel ≠ [] → AnswersLike scan scan' (Path.stem root ++ rel) (Path.stem root' ++ rel)

/-- Like answers about two directories are refused both or make sense both: a listing is checked by
its entries once it is for the directory that was asked for. -/
theorem AnswersLike.refuses_or_opens (h : AnswersLike scan scan' dir dir') :
    (∃ f f', Refuses scan dir f ∧ Refuses scan' dir' f') ∨
      ∃ subDirs files,
        (scan dir).outcome = .ok ⟨dir, subDirs, files⟩ ∧
          (⟨dir, subDirs, files⟩ : Listing).fault? dir = none ∧
        (scan' dir').outcome = .ok ⟨dir', subDirs, files⟩ ∧
          (⟨dir', subDirs, files⟩ : Listing).fault? dir' = none := by
  cases h with
  | failed he he' => exact Or.inl ⟨_, _, .scan he, .scan he'⟩
  | @listed subDirs files hl hl' =>
    have hsame : (⟨dir, subDirs, files⟩ : Listing).fault? dir = none ↔
        (⟨dir', subDirs, files⟩ : Listing).fault? dir' = none := by
      simp [Listing.fault?_eq_none_iff]
    cases hf : (⟨dir, subDirs, files⟩ : Listing).fault? dir with
    | some fault =>
      obtain ⟨fault', hf'⟩ := Option.ne_none_iff_exists'.mp fun hn => by simp [hsame.mpr hn] at hf
      exact Or.inl ⟨_, _, .listing hl hf, .listing hl' hf'⟩
    | none => exact Or.inr ⟨subDirs, files, hl, hf, hl', hsame.mp hf⟩

/-- The path of an entry below the root is the same whatever the root. -/
theorem Open.join_eq (h : Open ignore root dir rel) (name : Bytes) :
    Path.join dir name = Path.stem root ++ Path.join rel name := by
  rw [Path.join_eq, Path.join_eq]
  rcases h.eq_root_or with ⟨rfl, rfl⟩ | ⟨s, last, hlast, rfl, rfl⟩
  · rfl
  · rw [← List.append_assoc, Path.stem_append hlast, Path.stem_append hlast]
    simp

theorem AlikeBelow.answersLike (h : AlikeBelow scan scan' root root')
    (ho : Open ignore root dir rel) (ho' : Open ignore root' dir' rel) :
    AnswersLike scan scan' dir dir' := by
  rcases ho.eq_root_or with ⟨rfl, rfl⟩ | ⟨s, last, hlast, rfl, rfl⟩
  · rcases ho'.eq_root_or with ⟨rfl, _⟩ | ⟨s, last, hlast, he, _⟩
    · exact h.atRoot
    · simp [hlast.1] at he
  · have hne : s ++ last ≠ [] := by simp [hlast.1]
    rcases ho'.eq_root_or with ⟨_, he⟩ | ⟨_, _, _, _, rfl⟩
    · exact absurd he hne
    · exact h.below _ hne

theorem keptFiles_of_open (h : Open ignore root dir rel) (listing : Listing) :
    (steady scan ignore).keptFiles dir rel listing =
      ((listing.files.filter fun name => !ignored ignore (Path.join rel name)).map
        (Path.join rel)).map (Path.stem root ++ ·) := by
  rw [keptFiles, List.map_map]
  apply List.map_congr_left
  intro name _
  exact h.join_eq name

theorem visitAll_mirrors {s t : Bytes} {visit visit' : List Bytes → Bytes → Bytes → Walk}
    (hignore : w.ignore = w'.ignore)
    (hvisit : ∀ name ∈ names, ignored w.ignore (Path.join rel name) = false →
      ∀ scanned scanned', Walk.Mirrors s t
        (visit scanned (Path.join dir name) (Path.join rel name))
        (visit' scanned' (Path.join dir' name) (Path.join rel name))) :
    Walk.Mirrors s t (w.visitAll visit dir rel scanned names)
      (w'.visitAll visit' dir' rel scanned' names) := by
  induction names generalizing scanned scanned' with
  | nil => exact ⟨Iff.rfl, [], rfl, rfl⟩
  | cons name names ih =>
    have hrest := fun n hn => hvisit n (List.mem_cons_of_mem name hn)
    cases hi : ignored w.ignore (Path.join rel name) with
    | true =>
      rw [visitAll_cons_of_ignored hi, visitAll_cons_of_ignored (hignore ▸ hi)]
      exact Walk.Mirrors.andThen ⟨Iff.rfl, [], rfl, rfl⟩ (ih hrest)
    | false =>
      rw [visitAll_cons_of_kept hi, visitAll_cons_of_kept (hignore ▸ hi)]
      exact (hvisit name (by simp) hi _ _).andThen (ih hrest)

/-- One level of `visit_mirrors`: patterns see only the path below the root, which is the same. -/
theorem visit_mirrors_of_below (h : AlikeBelow scan scan' root root')
    (ho : Open ignore root dir rel) (ho' : Open ignore root' dir' rel)
    (hbelow : ∀ scanned scanned' dir dir' rel, Open ignore root dir rel →
      Open ignore root' dir' rel →
        Walk.Mirrors (Path.stem root) (Path.stem root')
          ((steady scan ignore).below depth scanned dir rel)
          ((steady scan' ignore).below depth scanned' dir' rel)) :
    Walk.Mirrors (Path.stem root) (Path.stem root')
      ((steady scan ignore).visit depth scanned dir rel)
      ((steady scan' ignore).visit depth scanned' dir' rel) := by
  rcases (h.answersLike ho ho').refuses_or_opens with
    ⟨f, f', hf, hf'⟩ | ⟨subDirs, files, hl, hf, hl', hf'⟩
  · rw [visit_of_refuses hf, visit_of_refuses hf']
    exact ⟨by simp, [], rfl, rfl⟩
  · have hnames := (Listing.fault?_eq_none_iff.mp hf).2.1
    rw [visit_of_opens (opens_steady hl hf), visit_of_opens (opens_steady hl' hf')]
    refine Walk.Mirrors.andThen
      ⟨Iff.rfl, _, keptFiles_of_open ho _, keptFiles_of_open ho' _⟩ (visitAll_mirrors rfl ?_)
    intro name hn hi scanned scanned'
    have hname := hnames name (List.mem_append_left _ hn)
    exact hbelow _ _ _ _ _ (ho.through hname hi) (ho'.through hname hi)

theorem visit_mirrors (h : AlikeBelow scan scan' root root') (ho : Open ignore root dir rel)
    (ho' : Open ignore root' dir' rel) :
    Walk.Mirrors (Path.stem root) (Path.stem root')
      ((steady scan ignore).visit depth scanned dir rel)
      ((steady scan' ignore).visit depth scanned' dir' rel) := by
  induction depth generalizing scanned scanned' dir dir' rel with
  | zero =>
    exact visit_mirrors_of_below h ho ho' fun _ _ _ _ _ _ _ => ⟨by simp [below], [], rfl, rfl⟩
  | succ depth ih => exact visit_mirrors_of_below h ho ho' fun _ _ _ _ _ => ih

theorem enumerate_mirrors (h : AlikeBelow scan scan' root root') (ignore : List Bytes)
    (depth : Nat) :
    Walk.Mirrors (Path.stem root) (Path.stem root') ((steady scan ignore).enumerate depth root)
      ((steady scan' ignore).enumerate depth root') := by
  have hvisit : Walk.Mirrors (Path.stem root) (Path.stem root')
      ((steady scan ignore).visit depth [] root [])
      ((steady scan' ignore).visit depth [] root' []) :=
    visit_mirrors h .root .root
  refine ⟨by rw [enumerate_stop, enumerate_stop, hvisit.stop], ?_⟩
  cases hs : ((steady scan ignore).visit depth [] root []).stop with
  | some stop =>
    have hstop : ((steady scan ignore).enumerate depth root).stop ≠ none := by
      simp [enumerate_stop, hs]
    have hstop' : ((steady scan' ignore).enumerate depth root').stop ≠ none := by
      rwa [enumerate_stop, ne_eq, ← hvisit.stop, ← enumerate_stop]
    exact ⟨[], enumerate_files_of_stop hstop, enumerate_files_of_stop hstop'⟩
  | none => simpa [enumerate, hs, hvisit.stop.mp hs] using hvisit.files

/-- Two sources that give like answers below two roots are both walked to the end or both not. What
is found below the two roots then has the same paths below them, in the same order. -/
theorem enumerate_from_alike_roots (hw : make (fun _ => scan) ignore = .ok w)
    (hw' : make (fun _ => scan') ignore = .ok w') (hkeys : AnswersIn scan keys)
    (hkeys' : AnswersIn scan' keys') (hdepth : keys.length ≤ depth)
    (hdepth' : keys'.length ≤ depth') (h : AlikeBelow scan scan' root root') :
    ((w.enumerate depth root).stop = none ↔ (w'.enumerate depth' root').stop = none) ∧
      ((w.enumerate depth root).stop = none →
        ∃ rels : List Bytes,
          (w.enumerate depth root).files = rels.map (Path.stem root ++ ·) ∧
          (w'.enumerate depth' root').files = rels.map (Path.stem root' ++ ·)) := by
  have hends : w.EndsWithin depth root :=
    endsWithin_of_leads hw fun names hl => Nat.le_trans (hl.length_le hkeys) hdepth
  have hends' : w'.EndsWithin depth' root' :=
    endsWithin_of_leads hw' fun names hl => Nat.le_trans (hl.length_le hkeys') hdepth'
  obtain rfl := make_eq_ok hw
  obtain rfl := make_eq_ok hw'
  -- Both walks are the same at any depth that is enough for both.
  rw [← hends.2 (max depth depth') (le_max_left _ _),
    ← hends'.2 (max depth depth') (le_max_right _ _)]
  have hmirrors := enumerate_mirrors h ignore (max depth depth')
  exact ⟨hmirrors.stop, fun _ => hmirrors.files⟩

/-- Below `root` a file `f` and a directory `d` with two files. -/
def shelf (root dir : Bytes) : Scan where
  outcome :=
    if dir = root then .ok ⟨dir, [[0x64]], [[0x66]]⟩
    else if dir = Path.stem root ++ [0x64] then .ok ⟨dir, [], [[0x78], [0x79]]⟩
    else .error .missing

theorem answersIn_shelf (root : Bytes) :
    AnswersIn (shelf root) [root, Path.stem root ++ [0x64]] := by
  intro dir listing h
  by_cases hroot : dir = root
  · simp [hroot]
  · by_cases hd : dir = Path.stem root ++ [0x64]
    · simp [hd]
    · simp [shelf, hroot, hd] at h

theorem shelf_below (root : Bytes) (hne : rel ≠ []) :
    (shelf root (Path.stem root ++ rel)).outcome =
      if rel = [0x64] then .ok ⟨Path.stem root ++ rel, [], [[0x78], [0x79]]⟩
      else .error .missing := by
  have hroot : Path.stem root ++ rel ≠ root := by
    intro he
    have hstem := Path.length_le_stem root
    have hpos := List.length_pos_iff.mpr hne
    have hsame := congrArg List.length he
    rw [List.length_append] at hsame
    omega
  simp [shelf, hroot]

theorem alikeBelow_shelf (root root' : Bytes) :
    AlikeBelow (shelf root) (shelf root') root root' := by
  refine ⟨.listed (if_pos rfl) (if_pos rfl), fun rel hne => ?_⟩
  by_cases hd : rel = [0x64]
  · exact .listed (by rw [shelf_below root hne, if_pos hd])
      (by rw [shelf_below root' hne, if_pos hd])
  · exact .failed (by rw [shelf_below root hne, if_neg hd])
      (by rw [shelf_below root' hne, if_neg hd])

/-- The empty root and one with a slash at its end, with a pattern that takes one file in `d`. -/
theorem enumerate_from_alike_roots_shelf :
    AlikeBelow (shelf []) (shelf [0x72, 0x2F]) [] [0x72, 0x2F] ∧
      ((steady (shelf []) [[0x64, 0x2F, 0x78]]).enumerate 2 []).stop = none ∧
      ((steady (shelf [0x72, 0x2F]) [[0x64, 0x2F, 0x78]]).enumerate 3 [0x72, 0x2F]).stop = none ∧
      ∃ rels : List Bytes,
        ((steady (shelf []) [[0x64, 0x2F, 0x78]]).enumerate 2 []).files =
          rels.map (Path.stem [] ++ ·) ∧
        ((steady (shelf [0x72, 0x2F]) [[0x64, 0x2F, 0x78]]).enumerate 3 [0x72, 0x2F]).files =
          rels.map (Path.stem [0x72, 0x2F] ++ ·) := by
  have hw : make (fun _ => shelf []) [[0x64, 0x2F, 0x78]] =
      .ok (steady (shelf []) [[0x64, 0x2F, 0x78]]) := by cbv
  have hw' : make (fun _ => shelf [0x72, 0x2F]) [[0x64, 0x2F, 0x78]] =
      .ok (steady (shelf [0x72, 0x2F]) [[0x64, 0x2F, 0x78]]) := by cbv
  have halike := alikeBelow_shelf [] [0x72, 0x2F]
  obtain ⟨hiff, hfiles⟩ := enumerate_from_alike_roots hw hw' (answersIn_shelf [])
    (answersIn_shelf _) (Nat.le_refl 2) (Nat.le_succ 2) halike
  have hunpatterned : Completes (shelf []) [] 2 [] [] :=
    (enumerate_completes (shelf []) [] 2 []).mp (by decide +kernel)
  have hstop := (enumerate_completes (shelf []) [[0x64, 0x2F, 0x78]] 2 []).mpr
    (completes_of_unpatterned hunpatterned)
  exact ⟨halike, hstop, hiff.mp hstop, hfiles hstop⟩

end Walker
end Wordwalk
