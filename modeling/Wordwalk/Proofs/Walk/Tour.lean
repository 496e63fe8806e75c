import Wordwalk.Proofs.Walk.Branches

/-! The tour of a walk: the directories that it can come to, each before those in it and in the
order of the listings. A walk scans its tour up to the first directory that cannot be walked, and
fails with the reason for that one. -/
namespace Wordwalk

namespace Path

/-- The path that `names` lead to from `dir`, one after the other. -/
def descend (dir : Bytes) (names : List Bytes) : Bytes := names.foldl join dir

@[simp]
theorem descend_nil (dir : Bytes) : descend dir [] = dir := rfl

@[simp]
theorem descend_cons (dir name : Bytes) (names : List Bytes) :
    descend dir (name :: names) = descend (join dir name) names := rfl

theorem length_lt_join {name : Bytes} (h : IsName name) (dir : Bytes) :
    dir.length < (join dir name).length := by
  have hname := List.length_pos_iff.mpr h.1
  have hstem := length_le_stem dir
  rw [join_eq, List.length_append]
  omega

end Path

namespace Walker

variable {scan : Bytes → Scan} {ignore scanned keys names others : List Bytes} {depth : Nat}
  {dir rel name root : Bytes} {w : Walker}

/-- Whether only the directories `keys` can be listed. -/
def AnswersIn (scan : Bytes → Scan) (keys : List Bytes) : Prop :=
  ∀ dir listing, (scan dir).outcome = .ok listing → dir ∈ keys

/-- The answers of a finite map: a directory that is not in it cannot be listed. -/
def ofListings (listings : List (Bytes × Except Failure Listing)) (dir : Bytes) : Scan where
  outcome := (listings.lookup dir).getD (.error (.plain ("no listing for " ++ dir)))

theorem answersIn_ofListings (listings : List (Bytes × Except Failure Listing)) :
    AnswersIn (ofListings listings) (listings.map Prod.fst) := by
  intro dir listing h
  cases hl : listings.lookup dir with
  | none => simp [ofListings, hl] at h
  | some answer =>
    obtain ⟨before, after, rfl, _⟩ := List.lookup_eq_some_iff.mp hl
    simp

/-- Why a directory cannot be walked: its scan fails, or what its scan gives makes no sense. -/
inductive Refuses (scan : Bytes → Scan) (dir : Bytes) : Failure → Prop where
  | scan {failure : Failure} :
      (scan dir).outcome = .error failure → Refuses scan dir (.within ("scanning " ++ dir) failure)
  | listing {listing : Listing} {fault : Listing.Fault} :
      (scan dir).outcome = .ok listing → listing.fault? dir = some fault →
        Refuses scan dir (.listing dir fault)

/-- Whether `names` lead from `dir`, whose path below the root is `rel`, to a directory that a walk
can come to: each is a sub-directory that no pattern takes, in a listing that makes sense. -/
inductive Leads (scan : Bytes → Scan) (ignore : List Bytes) :
    (dir rel : Bytes) → List Bytes → Prop where
  | here {dir rel : Bytes} : Leads scan ignore dir rel []
  | on {dir rel name : Bytes} {names : List Bytes} {listing : Listing} :
      (scan dir).outcome = .ok listing → listing.fault? dir = none → name ∈ listing.subDirs →
        ignored ignore (Path.join rel name) = false →
        Leads scan ignore (Path.join dir name) (Path.join rel name) names →
        Leads scan ignore dir rel (name :: names)

/-- The order of a tour from `dir`: a directory comes before what is below it, and of two
sub-directories the first in the listing with all that is below it before the second. -/
inductive Precedes (scan : Bytes → Scan) : (dir : Bytes) → List Bytes → List Bytes → Prop where
  | above {dir name : Bytes} {names : List Bytes} : Precedes scan dir [] (name :: names)
  | apart {dir first second : Bytes} {names others : List Bytes} {listing : Listing} :
      (scan dir).outcome = .ok listing →
        listing.subDirs.idxOf first < listing.subDirs.idxOf second →
        Precedes scan dir (first :: names) (second :: others)
  | within {dir name : Bytes} {names others : List Bytes} :
      Precedes scan (Path.join dir name) names others →
        Precedes scan dir (name :: names) (name :: others)

/-- Whether `tour` holds all directories that a walk from `root` can come to, in their order. -/
structure IsTour (scan : Bytes → Scan) (ignore : List Bytes) (root : Bytes)
    (tour : List (List Bytes)) : Prop where
  mem_iff : ∀ names, names ∈ tour ↔ Leads scan ignore root [] names
  ordered : tour.Pairwise (Precedes scan root)

theorem Precedes.asymm (h : Precedes scan dir names others) : ¬ Precedes scan dir others names := by
  intro h'
  induction h with
  | above => cases h'
  | apart ho hlt =>
    cases h' with
    | apart ho' hlt' =>
      obtain rfl := Except.ok.inj (ho.symm.trans ho')
      omega
    | within _ => omega
  | within _ ih =>
    cases h' with
    | apart _ hlt => omega
    | within h' => exact ih h'

/-- There is only one tour from a root. -/
theorem IsTour.unique {tour other : List (List Bytes)} (h : IsTour scan ignore root tour)
    (h' : IsTour scan ignore root other) : other = tour := by
  have hnodup : ∀ {t : List (List Bytes)}, t.Pairwise (Precedes scan root) → t.Nodup := by
    intro t ht
    refine ht.imp ?_
    rintro names _ hn rfl
    exact hn.asymm hn
  have hsame : ∀ names, names ∈ other ↔ names ∈ tour := fun names =>
    (h'.mem_iff names).trans (h.mem_iff names).symm
  have hperm := (List.perm_ext_iff_of_nodup (hnodup h'.ordered) (hnodup h.ordered)).mpr hsame
  exact hperm.eq_of_pairwise (fun _ _ _ _ hab hba => absurd hba hab.asymm) h'.ordered h.ordered

/-- Only finitely many directories can be listed, so none lies deeper than there are such: the way
to it goes through ever longer paths. -/
theorem Leads.length_le (hkeys : AnswersIn scan keys) (h : Leads scan ignore dir rel names) :
    names.length ≤ keys.length := by
  have hpaths : ∃ paths : List Bytes, paths.length = names.length ∧
      paths.Pairwise (fun p q => p.length < q.length) ∧
      ∀ path ∈ paths, dir.length ≤ path.length ∧ path ∈ keys := by
    induction h with
    | here => exact ⟨[], rfl, by simp, by simp⟩
    | @on dir rel name names listing ho hf hn hi _ ih =>
      obtain ⟨paths, hlength, hclimb, hin⟩ := ih
      have hname := (Listing.fault?_eq_none_iff.mp hf).2.1 name (List.mem_append_left _ hn)
      have hlt := Path.length_lt_join hname dir
      have hlong : ∀ path ∈ paths, dir.length < path.length := by
        intro path hp
        have hle := (hin path hp).1
        omega
      refine ⟨dir :: paths, by simp [hlength], List.pairwise_cons.mpr ⟨hlong, hclimb⟩, ?_⟩
      intro path hp
      rcases List.mem_cons.mp hp with rfl | hp
      · exact ⟨le_rfl, hkeys path listing ho⟩
      · exact ⟨Nat.le_of_lt (hlong path hp), (hin path hp).2⟩
  obtain ⟨paths, hlength, hclimb, hin⟩ := hpaths
  rw [← hlength]
  exact length_le_of_climb List.length hclimb fun path hp => (hin path hp).2

/-- The sub-directories of `dir` that a walk goes into. -/
def entered (scan : Bytes → Scan) (ignore : List Bytes) (dir rel : Bytes) : List Bytes :=
  match (scan dir).outcome with
  | .error _ => []
  | .ok listing =>
    if (listing.fault? dir).isSome then []
    else listing.subDirs.filter fun name => !ignored ignore (Path.join rel name)

/-- The tour from `dir`, at most `depth` levels down. -/
def tour (scan : Bytes → Scan) (ignore : List Bytes) : Nat → (dir rel : Bytes) → List (List Bytes)
  | 0, _, _ => [[]]
  | depth + 1, dir, rel =>
    [] :: (entered scan ignore dir rel).flatMap fun name =>
      (tour scan ignore depth (Path.join dir name) (Path.join rel name)).map (name :: ·)

theorem entered_of_listing {listing : Listing} (ho : (scan dir).outcome = .ok listing)
    (hf : listing.fault? dir = none) :
    entered scan ignore dir rel =
      listing.subDirs.filter fun name => !ignored ignore (Path.join rel name) := by
  simp [entered, ho, hf]

theorem entered_of_refuses {f : Failure} (h : Refuses scan dir f) :
    entered scan ignore dir rel = [] := by
  cases h with
  | scan ho => simp [entered, ho]
  | listing ho hf => simp [entered, ho, hf]

theorem refusal?_eq_some_iff (ignore scanned : List Bytes) {f : Failure} :
    (steady scan ignore).refusal? scanned dir = some f ↔ Refuses scan dir f := by
  constructor
  · intro h
    unfold refusal? at h
    cases ho : ((steady scan ignore).scanner scanned dir).outcome with
    | error failure =>
      rw [ho, Option.some.injEq] at h
      exact h ▸ .scan ho
    | ok listing =>
      rw [ho, Option.map_eq_some_iff] at h
      obtain ⟨fault, hf, rfl⟩ := h
      exact .listing ho hf
  · intro h
    cases h with
    | scan ho => simp [refusal?, steady, ho]
    | listing ho hf => simp [refusal?, steady, ho, hf]

theorem visit_of_refuses {f : Failure} (h : Refuses scan dir f) :
    (steady scan ignore).visit depth scanned dir rel =
      { scanned := [dir], events := (scan dir).events, stop := some (.failed f) } :=
  visit_of_refusal rfl ((refusal?_eq_some_iff ignore scanned).mpr h)

theorem not_refuses {listing : Listing} {f : Failure} (ho : (scan dir).outcome = .ok listing)
    (hf : listing.fault? dir = none) : ¬ Refuses scan dir f := by
  rw [← refusal?_eq_some_iff [] []]
  simp [refusal?, steady, ho, hf]

theorem opens_or_refuses (scan : Bytes → Scan) (dir : Bytes) :
    (∃ listing, (scan dir).outcome = .ok listing ∧ listing.fault? dir = none) ∨
      ∃ f, Refuses scan dir f := by
  rcases (steady scan []).opens_or_refusal [] dir with ⟨listing, _, ho⟩ | hc | ⟨_, f, hf⟩
  · exact Or.inl ⟨listing, ho⟩
  · exact Bool.noConfusion hc
  · exact Or.inr ⟨f, (refusal?_eq_some_iff [] []).mp hf⟩

theorem leads_cons_iff :
    Leads scan ignore dir rel (name :: names) ↔
      name ∈ entered scan ignore dir rel ∧
        Leads scan ignore (Path.join dir name) (Path.join rel name) names := by
  constructor
  · intro h
    cases h with
    | on ho hf hn hi h =>
      rw [entered_of_listing ho hf]
      exact ⟨by simp [hn, hi], h⟩
  · rintro ⟨hn, h⟩
    rcases opens_or_refuses scan dir with ⟨listing, ho, hf⟩ | ⟨f, hf⟩
    · rw [entered_of_listing ho hf, List.mem_filter] at hn
      exact .on ho hf hn.1 (by simpa using hn.2) h
    · simp [entered_of_refuses hf] at hn

theorem mem_tour_iff :
    names ∈ tour scan ignore depth dir rel ↔
      Leads scan ignore dir rel names ∧ names.length ≤ depth := by
  induction depth generalizing dir rel names with
  | zero =>
    simp only [tour, List.mem_singleton, Nat.le_zero, List.length_eq_zero_iff]
    constructor
    · rintro rfl
      exact ⟨.here, rfl⟩
    · exact And.right
  | succ depth ih =>
    cases names with
    | nil => simp [tour, Leads.here]
    | cons name names =>
      simp [tour, ih, leads_cons_iff, and_assoc]

theorem tour_pairwise : (tour scan ignore depth dir rel).Pairwise (Precedes scan dir) := by
  induction depth generalizing dir rel with
  | zero => simp [tour]
  | succ depth ih =>
    rw [tour, List.pairwise_cons]
    constructor
    · intro names hn
      obtain ⟨name, _, hn⟩ := List.mem_flatMap.mp hn
      obtain ⟨rest, _, rfl⟩ := List.mem_map.mp hn
      exact .above
    · rw [List.pairwise_flatMap]
      constructor
      · intro name _
        exact List.pairwise_map.mpr (ih.imp .within)
      · rcases opens_or_refuses scan dir with ⟨listing, ho, hf⟩ | ⟨f, hf⟩
        · rw [entered_of_listing ho hf]
          have hnodup := (List.nodup_append.mp (Listing.fault?_eq_none_iff.mp hf).2.2).1
          refine List.Pairwise.filter _ (List.pairwise_iff_getElem.mpr ?_)
          intro i j hi hj hij xs hxs ys hys
          obtain ⟨_, _, rfl⟩ := List.mem_map.mp hxs
          obtain ⟨_, _, rfl⟩ := List.mem_map.mp hys
          refine .apart ho ?_
          rwa [hnodup.idxOf_getElem i hi, hnodup.idxOf_getElem j hj]
        · simp [entered_of_refuses hf]

/-- Whether a walk scans the directories `dirs` in order: all of them, or up to the first that
cannot be walked, for the reason of which it then fails. -/
inductive Covers (scan : Bytes → Scan) : (dirs : List Bytes) → Walk → Prop where
  | all {dirs : List Bytes} {v : Walk} :
      (∀ dir ∈ dirs, ∀ f, ¬ Refuses scan dir f) → v.scanned = dirs → v.stop = none →
        Covers scan dirs v
  | upTo {dirs before after : List Bytes} {dir : Bytes} {f : Failure} {v : Walk} :
      dirs = before ++ dir :: after → (∀ dir ∈ before, ∀ f, ¬ Refuses scan dir f) →
        Refuses scan dir f → v.scanned = before ++ [dir] → v.stop = some (.failed f) →
        Covers scan dirs v

theorem covers_nil {v : Walk} (hscanned : v.scanned = []) (hstop : v.stop = none) :
    Covers scan [] v :=
  .all (by simp) hscanned hstop

theorem Covers.andThen {dirs more : List Bytes} {v w : Walk} (hv : Covers scan dirs v)
    (hw : Covers scan more w) : Covers scan (dirs ++ more) (v.andThen w) := by
  cases hv with
  | upTo hdirs hbefore hf hscanned hstop =>
    rw [Walk.andThen_of_stop hstop]
    exact .upTo (by rw [hdirs, List.append_assoc, List.cons_append]) hbefore hf hscanned hstop
  | all hdirs hscanned hstop =>
    have hthen : (v.andThen w).scanned = dirs ++ w.scanned := by
      rw [Walk.andThen_scanned hstop, hscanned]
    cases hw with
    | all hmore hmoreScanned hmoreStop =>
      refine .all ?_ (by rw [hthen, hmoreScanned]) (by simp [hstop, hmoreStop])
      intro dir hd
      rcases List.mem_append.mp hd with hd | hd
      · exact hdirs dir hd
      · exact hmore dir hd
    | upTo hcut hbefore hf hmoreScanned hmoreStop =>
      refine .upTo (by rw [hcut, List.append_assoc]) ?_ hf
        (by rw [hthen, hmoreScanned, List.append_assoc]) ?_
      · intro dir hd
        rcases List.mem_append.mp hd with hd | hd
        · exact hdirs dir hd
        · exact hbefore dir hd
      · rw [Walk.andThen_stop, hstop, hmoreStop, Option.none_or]

theorem visitAll_covers {visit : List Bytes → Bytes → Bytes → Walk} (found : Bytes → List Bytes)
    (hvisit : ∀ name ∈ names, ignored w.ignore (Path.join rel name) = false → ∀ scanned,
      Covers scan (found name) (visit scanned (Path.join dir name) (Path.join rel name))) :
    Covers scan
      ((names.filter fun name => !ignored w.ignore (Path.join rel name)).flatMap found)
      (w.visitAll visit dir rel scanned names) := by
  induction names generalizing scanned with
  | nil => exact covers_nil rfl rfl
  | cons name names ih =>
    have hrest := fun n hn => hvisit n (List.mem_cons_of_mem name hn)
    cases hi : ignored w.ignore (Path.join rel name) with
    | true =>
      rw [visitAll_cons_of_ignored hi, List.filter_cons_of_neg (by simp [hi])]
      exact (covers_nil rfl rfl).andThen (ih hrest)
    | false =>
      rw [visitAll_cons_of_kept hi, List.filter_cons_of_pos (by simp [hi]), List.flatMap_cons]
      exact (hvisit name (by simp) hi scanned).andThen (ih hrest)

/-- One level of `visit_covers`: the directory itself and then those that are entered. -/
theorem visit_covers_of_below (found : Bytes → List Bytes)
    (hbelow : ∀ name ∈ entered scan ignore dir rel, ∀ scanned,
      Covers scan (found name)
        ((steady scan ignore).below depth scanned (Path.join dir name) (Path.join rel name))) :
    Covers scan (dir :: (entered scan ignore dir rel).flatMap found)
      ((steady scan ignore).visit depth scanned dir rel) := by
  rcases opens_or_refuses scan dir with ⟨listing, ho, hf⟩ | ⟨f, hf⟩
  · have hentered : entered scan ignore dir rel = _ := entered_of_listing ho hf
    rw [visit_of_opens (opens_steady ho hf), hentered, ← List.singleton_append]
    refine Covers.andThen (.all ?_ rfl rfl) (visitAll_covers (w := steady scan ignore) found ?_)
    · intro path hp g
      rw [List.mem_singleton.mp hp]
      exact not_refuses ho hf
    · intro name hn hi scanned
      have hkept : ignored ignore (Path.join rel name) = false := hi
      refine hbelow name ?_ scanned
      rw [hentered, List.mem_filter]
      exact ⟨hn, by simp [hkept]⟩
  · rw [visit_of_refuses hf, entered_of_refuses hf]
    exact .upTo (List.nil_append [dir]).symm (by simp) hf rfl rfl

/-- A walk that is allowed to go as deep as its tour covers it. -/
theorem visit_covers (h : ∀ names, Leads scan ignore dir rel names → names.length ≤ depth) :
    Covers scan ((tour scan ignore depth dir rel).map (Path.descend dir))
      ((steady scan ignore).visit depth scanned dir rel) := by
  induction depth generalizing scanned dir rel with
  | zero =>
    have hnone : entered scan ignore dir rel = [] := by
      refine List.eq_nil_iff_forall_not_mem.mpr fun name hn => ?_
      exact absurd (h [name] (leads_cons_iff.mpr ⟨hn, .here⟩)) (by simp)
    have hcovers : Covers scan (dir :: (entered scan ignore dir rel).flatMap fun _ => [])
        ((steady scan ignore).visit 0 scanned dir rel) :=
      visit_covers_of_below (fun _ => []) (by simp [hnone])
    simpa [hnone, tour] using hcovers
  | succ depth ih =>
    have hbelow : ∀ name ∈ entered scan ignore dir rel, ∀ scanned,
        Covers scan
          ((tour scan ignore depth (Path.join dir name) (Path.join rel name)).map
            (Path.descend (Path.join dir name)))
          ((steady scan ignore).visit depth scanned (Path.join dir name) (Path.join rel name)) := by
      intro name hn scanned
      refine ih fun names hl => ?_
      exact Nat.le_of_succ_le_succ (h (name :: names) (leads_cons_iff.mpr ⟨hn, hl⟩))
    have hmap : (tour scan ignore (depth + 1) dir rel).map (Path.descend dir) =
        dir :: (entered scan ignore dir rel).flatMap fun name =>
          (tour scan ignore depth (Path.join dir name) (Path.join rel name)).map
            (Path.descend (Path.join dir name)) := by
      simp [tour, List.map_flatMap, Function.comp_def]
    rw [hmap]
    exact visit_covers_of_below _ hbelow

theorem isTour_tour (h : ∀ names, Leads scan ignore root [] names → names.length ≤ depth) :
    IsTour scan ignore root (tour scan ignore depth root []) where
  mem_iff names := by
    rw [mem_tour_iff]
    exact and_iff_left_of_imp (h names)
  ordered := tour_pairwise

/-- A walk of finitely many listings fails exactly if it can come to a directory that cannot be
walked. It scans its whole tour or, if it fails, the tour up to the first such directory. It fails
with the reason of that one and then has no files. -/
theorem enumerate_fails_at_first (hkeys : AnswersIn scan keys)
    (hw : make (fun _ => scan) ignore = .ok w) (hdepth : keys.length ≤ depth) (root : Bytes) :
    ((w.enumerate depth root).stop ≠ none ↔
      ∃ names f, Leads scan ignore root [] names ∧ Refuses scan (Path.descend root names) f) ∧
    ∃ tour, IsTour scan ignore root tour ∧ (∀ other, IsTour scan ignore root other → other = tour) ∧
      ((w.enumerate depth root).stop = none →
        (w.enumerate depth root).scanned = tour.map (Path.descend root)) ∧
      ((w.enumerate depth root).stop ≠ none →
        ∃ before names after f, tour = before ++ names :: after ∧
          (∀ earlier ∈ before, ∀ g, ¬ Refuses scan (Path.descend root earlier) g) ∧
          Refuses scan (Path.descend root names) f ∧
          (w.enumerate depth root).stop = some (.failed f) ∧
          (w.enumerate depth root).files = [] ∧
          (w.enumerate depth root).scanned = (before ++ [names]).map (Path.descend root)) := by
  have hshort : ∀ names, Leads scan ignore root [] names → names.length ≤ depth :=
    fun names hl => Nat.le_trans (hl.length_le hkeys) hdepth
  have htour := isTour_tour hshort
  have hstopped := w.enumerate_stop depth root
  have hfiles : (w.enumerate depth root).stop ≠ none → (w.enumerate depth root).files = [] :=
    enumerate_files_of_stop
  have hscanned := w.enumerate_scanned depth root
  obtain rfl := make_eq_ok hw
  cases visit_covers hshort with
  | all hnone hall hstop =>
    rw [hstop] at hstopped
    rw [hall] at hscanned
    refine ⟨⟨fun h => absurd hstopped h, ?_⟩, _, htour, fun _ => htour.unique, fun _ => hscanned,
      fun h => absurd hstopped h⟩
    rintro ⟨names, f, hl, hf⟩
    exact absurd hf (hnone _ (List.mem_map_of_mem ((htour.mem_iff names).mpr hl)) f)
  | upTo hcut hbefore hf hall hstop =>
    rw [hstop] at hstopped
    rw [hall] at hscanned
    have hfailed : ((steady scan ignore).enumerate depth root).stop ≠ none := by simp [hstopped]
    obtain ⟨before, rest, htail, rfl, hrest⟩ := List.map_eq_append_iff.mp hcut
    obtain ⟨names, after, rfl, rfl, rfl⟩ := List.map_eq_cons_iff.mp hrest
    have hl := (htour.mem_iff names).mp (by simp [htail])
    refine ⟨⟨fun _ => ⟨names, _, hl, hf⟩, fun _ => hfailed⟩, _, htour, fun _ => htour.unique,
      fun h => absurd h hfailed, ?_⟩
    intro _
    refine ⟨before, names, after, _, htail, ?_, hf, hstopped, hfiles hfailed, ?_⟩
    · intro earlier he
      exact hbefore _ (List.mem_map_of_mem he)
    · rw [hscanned, List.map_append, List.map_singleton]

/-- A directory `r` with three directories: `a` is empty, `b` cannot be listed, and the listing of
`c` has an empty name in it. -/
def spoiled : List (Bytes × Except Failure Listing) :=
  [([0x72], .ok ⟨[0x72], [[0x61], [0x62], [0x63]], [[0x66]]⟩),
    ([0x72, 0x2F, 0x61], .ok ⟨[0x72, 0x2F, 0x61], [], []⟩),
    ([0x72, 0x2F, 0x63], .ok ⟨[0x72, 0x2F, 0x63], [], [[]]⟩)]

/-- A pattern takes the directory `b`, so the walk goes on to the listing of `c`. -/
theorem enumerate_fails_at_first_malformed :
    AnswersIn (ofListings spoiled) (spoiled.map Prod.fst) ∧
      ((steady (ofListings spoiled) [[0x62]]).enumerate 3 [0x72]).stop ≠ none ∧
      ∃ tour, IsTour (ofListings spoiled) [[0x62]] [0x72] tour ∧
        ∃ before names after f, tour = before ++ names :: after ∧
          (∀ earlier ∈ before, ∀ g,
            ¬ Refuses (ofListings spoiled) (Path.descend [0x72] earlier) g) ∧
          Refuses (ofListings spoiled) (Path.descend [0x72] names) f ∧
          ((steady (ofListings spoiled) [[0x62]]).enumerate 3 [0x72]).stop = some (.failed f) ∧
          ((steady (ofListings spoiled) [[0x62]]).enumerate 3 [0x72]).files = [] ∧
          ((steady (ofListings spoiled) [[0x62]]).enumerate 3 [0x72]).scanned =
            (before ++ [names]).map (Path.descend [0x72]) := by
  have hkeys := answersIn_ofListings spoiled
  have hw : make (fun _ => ofListings spoiled) [[0x62]] =
      .ok (steady (ofListings spoiled) [[0x62]]) := by cbv
  obtain ⟨hfails, tour, htour, -, -, hfirst⟩ := enumerate_fails_at_first hkeys hw le_rfl [0x72]
  have hkept : ignored [[0x62]] [0x63] = false := by cbv
  have hl : Leads (ofListings spoiled) [[0x62]] [0x72] [] [[0x63]] :=
    .on rfl rfl (by simp) hkept .here
  have hf : Refuses (ofListings spoiled) [0x72, 0x2F, 0x63]
      (.listing [0x72, 0x2F, 0x63] (.emptyName .file)) :=
    .listing rfl rfl
  have hstop := hfails.mpr ⟨[[0x63]], _, hl, hf⟩
  exact ⟨hkeys, hstop, tour, htour, hfirst hstop⟩

end Walker
end Wordwalk
