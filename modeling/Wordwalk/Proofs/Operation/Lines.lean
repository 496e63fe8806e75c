import Wordwalk.Proofs.Operation.Again
import Wordwalk.Proofs.Operation.Found
import Wordwalk.Proofs.Operation.Tally
import Wordwalk.Proofs.Text.Lines

/-! The lines of files in which tokens were replaced. A token holds no line end, so all line ends of
a text are lost, and those of the new text were put in with the replacement or between tokens. -/
namespace Wordwalk

variable {b : UInt8} {s token : Bytes}

theorem notMem_of_mem_tokens (hb : b < 0x80) (hblank : isBlank b.toNat = true)
    (h : token ∈ tokens s) : b ∉ token :=
  notMem_of_plain hb hblank (hasBlank_of_mem_tokens h)

/-- Of a byte the parts have as many joined as put together at once, apart from the separators. -/
theorem Bytes.count_join (b : UInt8) (sep : Bytes) (parts : List Bytes) :
    (join sep parts).count b = parts.flatten.count b + (parts.length - 1) * sep.count b := by
  induction parts with
  | nil => simp [join]
  | cons part parts ih =>
    cases parts with
    | nil => simp [join]
    | cons next parts =>
      rw [join_cons, List.count_append, List.count_append, ih]
      simp only [List.flatten_cons, List.count_append, List.length_cons, Nat.add_sub_cancel,
        Nat.add_mul, Nat.one_mul]
      omega

namespace Replacement

variable {r : Replacement}

theorem count_flatten_swap {l : List Bytes} (h : ∀ token ∈ l, b ∉ token) :
    (l.map r.swap).flatten.count b = l.count r.find * r.replace.count b := by
  induction l with
  | nil => simp
  | cons token l ih =>
    obtain ⟨htoken, hrest⟩ := List.forall_mem_cons.mp h
    have hzero : token.count b = 0 := List.count_eq_zero_of_not_mem htoken
    rw [List.map_cons, List.flatten_cons, List.count_append, ih hrest, List.count_cons, swap]
    by_cases hfind : token = r.find <;> grind

/-- A byte that is a blank of its own stands in the new text only where the replacement or the
separator has it. -/
theorem count_apply (hb : b < 0x80) (hblank : isBlank b.toNat = true) (r : Replacement)
    (s : Bytes) :
    (r.apply s).count b =
      (tokens s).count r.find * r.replace.count b +
        ((tokens s).length - 1) * r.separator.count b := by
  have htokens : ∀ token ∈ tokens s, b ∉ token := fun token h => notMem_of_mem_tokens hb hblank h
  rw [apply, Bytes.count_join, count_flatten_swap htokens, List.length_map]

theorem lineCount_apply (hreplace : 0x0D ∉ r.replace) (hsep : 0x0D ∉ r.separator) (s : Bytes) :
    lineCount (r.apply s) =
      1 + (tokens s).count r.find * r.replace.count 0x0A +
        ((tokens s).length - 1) * r.separator.count 0x0A := by
  have hcr : 0x0D ∉ r.apply s := by
    rw [← List.count_eq_zero, count_apply (by decide) (by decide),
      List.count_eq_zero_of_not_mem hreplace, List.count_eq_zero_of_not_mem hsep]
    simp
  have hlf := count_apply (b := 0x0A) (by decide) (by decide) r s
  rw [lineCount, lineEnds_of_notMem hcr, hlf]
  omega

/-- A replacement that puts in neither CR nor LF leaves a single line. -/
theorem lineCount_apply_of_isLine (hreplace : IsLine r.replace) (hsep : IsLine r.separator)
    (s : Bytes) : lineCount (r.apply s) = 1 := by
  rw [lineCount_apply hreplace.1 hsep.1, List.count_eq_zero_of_not_mem hreplace.2,
    List.count_eq_zero_of_not_mem hsep.2, Nat.mul_zero, Nat.mul_zero]

end Replacement

namespace Disk

variable {d : Disk} {f : Bytes → Bytes} {path other content : Bytes} {paths : List Bytes}

/-- A file that is edited by one path or another holds what the edit makes of it, or what it held. -/
theorem read_edit (h : d.read path = .ok content) (f : Bytes → Bytes) (other : Bytes) :
    (d.edit f other).read path =
      .ok (if d.locate other = d.locate path then f content else content) := by
  obtain ⟨place, mode, hp, he, hbar⟩ := read_eq_ok_iff.mp h
  refine read_eq_ok_iff.mpr ⟨place, mode, by rw [locate_edit, hp], ?_, by rw [refusal?_edit, hbar]⟩
  rw [lookup_edit, he, hp]
  split <;> rfl

/-- Whether the file that a path leads to holds something that `f` made. -/
def Made (f : Bytes → Bytes) (d : Disk) (path : Bytes) : Prop :=
  ∃ content, d.read path = .ok (f content)

theorem Made.readable (h : Made f d path) : d.Readable path := by
  obtain ⟨content, hr⟩ := h
  exact ⟨f content, hr⟩

theorem Made.edit (h : Made f d path) (other : Bytes) : Made f (d.edit f other) path := by
  obtain ⟨content, hr⟩ := h
  have hread := read_edit hr f other
  split at hread
  · exact ⟨f content, hread⟩
  · exact ⟨content, hread⟩

theorem Made.foldl_edit (h : Made f d path) (paths : List Bytes) :
    Made f (paths.foldl (fun d path => d.edit f path) d) path := by
  induction paths generalizing d with
  | nil => exact h
  | cons other paths ih => exact ih (h.edit other)

theorem Made.of_locate_eq (h : Made f d path) (heq : d.locate other = d.locate path) :
    Made f d other := by
  obtain ⟨content, hr⟩ := h
  obtain ⟨place, mode, hp, he, hbar⟩ := read_eq_ok_iff.mp hr
  exact ⟨content, read_eq_ok_iff.mpr ⟨place, mode, heq.trans hp, he, hbar⟩⟩

/-- A path that is among those edited leads to a file that the edit made. -/
theorem made_foldl_edit (hmem : path ∈ paths) (hr : d.Readable path) :
    Made f (paths.foldl (fun d path => d.edit f path) d) path := by
  obtain ⟨before, rest, rfl⟩ := List.append_of_mem hmem
  rw [List.foldl_append, List.foldl_cons]
  obtain ⟨⟨content, hbefore⟩, _⟩ :=
    (usable_foldl_edit d f before path .read).mpr (usable_read_iff.mpr hr)
  have hmade : Made f ((before.foldl (fun d path => d.edit f path) d).edit f path) path := by
    refine ⟨content, ?_⟩
    rw [read_edit hbefore f path, if_pos rfl]
  exact hmade.foldl_edit rest

end Disk

variable {d : Disk} {r : Replacement} {l : Listener} {n : Nat} {f : Bytes → Bytes} {path : Bytes}
  {paths : List Bytes} {run : ReplaceRun}

/-- What a run has done when it ends, well or not, is to edit the files that it reports. -/
theorem ReplaceRun.exists_done (r : Replacement) (l : Listener) (n : Nat) (d : Disk)
    (paths : List Bytes) :
    ∃ i, (replace r { listener := l } n d paths).files.map FileOutcome.path = paths.take i ∧
      (replace r { listener := l } n d paths).disk =
        (paths.take i).foldl (fun d path => d.edit r.apply path) d ∧
      ∀ path ∈ paths.take i, d.Readable path := by
  obtain ⟨i, done, rfl, hend, _, hstop⟩ := replace_stops r l false n d paths
  have hpaths := replace_files_path hend
  have hdisk := replace_disk hend
  have hreadable : ∀ path ∈ paths.take i, d.Readable path :=
    fun path hp => ((replace_failure_eq_none_iff.mp hend).2 path hp).1
  rcases hstop with ⟨_, hrun⟩ | ⟨_, events, f, _, hrun⟩
  · rw [hrun]
    exact ⟨i, hpaths, hdisk, hreadable⟩
  · rw [hrun]
    exact ⟨i, hpaths, hdisk, hreadable⟩

theorem made_of_mem_files (h : replaceInFiles d r { listener := l } paths = .ok run)
    (hmem : path ∈ run.files.map FileOutcome.path) : run.disk.Made r.apply path := by
  have hv : r.validate = .ok () := replaceInFiles_eq_ok_iff.mp ⟨run, h⟩
  obtain ⟨began, hrun⟩ := replaceInFiles_of_valid hv d { listener := l } paths
  obtain rfl := Except.ok.inj (h.symm.trans hrun)
  obtain ⟨i, hpaths, hdisk, hreadable⟩ := ReplaceRun.exists_done r l 0 d paths
  change path ∈ (ReplaceRun.replace r { listener := l } 0 d paths).files.map _ at hmem
  change (ReplaceRun.replace r { listener := l } 0 d paths).disk.Made r.apply path
  rw [hpaths] at hmem
  rw [hdisk]
  exact Disk.made_foldl_edit hmem (hreadable path hmem)

namespace CountRun

theorem counted?_of_mem {entry : Bytes × Nat} (h : entry ∈ (count d l n paths).files) :
    counted? d entry.1 = some entry := by
  obtain ⟨i, _, hfiles, _⟩ := count_stops d l n paths
  have hmem : some entry ∈ (paths.take i).map (counted? d) := by
    rw [← hfiles]
    exact List.mem_map_of_mem h
  obtain ⟨path, _, hcounted⟩ := List.mem_map.mp hmem
  obtain ⟨content, _, hentry⟩ := Option.map_eq_some_iff.mp hcounted
  obtain rfl : path = entry.1 := congrArg Prod.fst hentry
  exact hcounted

theorem counted?_of_made (hone : ∀ s, lineCount (f s) = 1) (h : d.Made f path) :
    counted? d path = some (path, 1) := by
  obtain ⟨content, hread⟩ := h
  simp [counted?, hread, Except.toOption, hone]

/-- Files that were made with a single line each can all be counted, and have one line each. -/
theorem countLines_of_made (hone : ∀ s, lineCount (f s) = 1)
    (h : ∀ path ∈ paths, d.Made f path) (l : Listener) :
    (countLines d l.patient paths).failure = none ∧
      (countLines d l.patient paths).files = paths.map fun path => (path, 1) := by
  have hend : (countLines d l.patient paths).failure = none :=
    countLines_failure_eq_none_iff.mpr fun path hpath => (h path hpath).readable
  have hfiles : (countLines d l.patient paths).files.map some = paths.map (counted? d) :=
    count_files hend
  have hones : paths.map (counted? d) = (paths.map fun path => (path, 1)).map some := by
    rw [List.map_congr_left fun path hpath => counted?_of_made hone (h path hpath), List.map_map]
    rfl
  exact ⟨hend, List.map_injective_iff.mpr (fun _ _ h => Option.some.inj h) (hfiles.trans hones)⟩

end CountRun

/-- A text made by a replacement that puts in no CR has one line, and one more for each LF that was put
in with the replacement or between tokens. So if it puts in no LF either, every count of the lines
after a run, whether the run ended well or not, finds a single line in each file that the run
reports, whatever path leads there. -/
theorem lineCount_of_replaced (hreplace : 0x0D ∉ r.replace) (hsep : 0x0D ∉ r.separator) :
    (∀ s, lineCount (r.run s).content =
      1 + (r.run s).replacements * r.replace.count 0x0A +
        (max (r.run s).tokens 1 - 1) * r.separator.count 0x0A) ∧
    (0x0A ∉ r.replace → 0x0A ∉ r.separator → ∀ (d : Disk) (l : Listener) (paths : List Bytes)
      (run : ReplaceRun), replaceInFiles d r { listener := l } paths = .ok run →
        ∀ l' : Listener,
          (countLines run.disk l'.patient (run.files.map FileOutcome.path)).failure = none ∧
          (countLines run.disk l'.patient (run.files.map FileOutcome.path)).files =
            run.files.map (fun file => (file.path, 1)) ∧
          ∀ others, ∀ entry ∈ (countLines run.disk l' others).files, ∀ file ∈ run.files,
            run.disk.locate entry.1 = run.disk.locate file.path → entry.2 = 1) := by
  constructor
  · intro s
    have htokens : max (tokens s).length 1 - 1 = (tokens s).length - 1 := by omega
    have hlines := Replacement.lineCount_apply hreplace hsep s
    rw [← Replacement.run_replacements, ← htokens] at hlines
    exact hlines
  · intro hreplace' hsep' d l paths run hrun l'
    have hone : ∀ s, lineCount (r.apply s) = 1 :=
      Replacement.lineCount_apply_of_isLine ⟨hreplace, hreplace'⟩ ⟨hsep, hsep'⟩
    have hmade : ∀ path ∈ run.files.map FileOutcome.path, run.disk.Made r.apply path :=
      fun path hpath => made_of_mem_files hrun hpath
    obtain ⟨hend, hfiles⟩ := CountRun.countLines_of_made hone hmade l'
    refine ⟨hend, ?_, ?_⟩
    · rw [hfiles, List.map_map]
      rfl
    · intro others entry hentry file hfile heq
      have hsame : run.disk.Made r.apply entry.1 :=
        (hmade file.path (List.mem_map_of_mem hfile)).of_locate_eq heq
      have hcounted := CountRun.counted?_of_mem hentry
      rw [CountRun.counted?_of_made hone hsame, Option.some.injEq] at hcounted
      exact (congrArg Prod.snd hcounted).symm

/-- A replacement of `a` by a line that ends within a rune, with an LF between tokens. -/
def breaking : Replacement := ⟨[0x61], [0x62, 0x0A, 0xE2, 0x80], [0x0A]⟩

/-- The CR LF of the text is lost, and two LFs are put in. The file that two paths lead to has one
line although the run ends at a path that leads nowhere. -/
theorem lineCount_of_replaced_missing :
    0x0D ∉ breaking.replace ∧ 0x0D ∉ breaking.separator ∧
      lineCount (breaking.run [0x61, 0x0D, 0x0A, 0x63]).content = 3 ∧
      0x0D ∉ doubling.replace ∧ 0x0D ∉ doubling.separator ∧ 0x0A ∉ doubling.replace ∧
      0x0A ∉ doubling.separator ∧
      ∃ run, replaceInFiles aliased doubling {} [[0x66], [0x6C], [0x78], [0x66]] = .ok run ∧
        run.failure ≠ none ∧
        (countLines run.disk {} (run.files.map FileOutcome.path)).files =
          [([0x66], 1), ([0x6C], 1)] := by
  have hreplace : 0x0D ∉ breaking.replace := by decide
  have hsep : 0x0D ∉ breaking.separator := by decide
  have hreplace' : 0x0D ∉ doubling.replace := by decide
  have hsep' : 0x0D ∉ doubling.separator := by decide
  have hlf : 0x0A ∉ doubling.replace := by decide
  have hlf' : 0x0A ∉ doubling.separator := by decide
  obtain ⟨hlines, _⟩ := lineCount_of_replaced hreplace hsep
  obtain ⟨_, hruns⟩ := lineCount_of_replaced hreplace' hsep'
  have hfailure : (ReplaceRun.replace doubling {} 0 aliased
      [[0x66], [0x6C], [0x78], [0x66]]).failure ≠ none := by decide +kernel
  have hdone : (ReplaceRun.replace doubling {} 0 aliased
      [[0x66], [0x6C], [0x78], [0x66]]).files.map (fun file => (file.path, 1)) =
        [([0x66], 1), ([0x6C], 1)] := by decide +kernel
  obtain ⟨_, hrun⟩ := replaceInFiles_of_valid (r := doubling) rfl aliased {}
    [[0x66], [0x6C], [0x78], [0x66]]
  obtain ⟨_, hfiles, _⟩ := hruns hlf hlf' _ _ _ _ hrun {}
  exact ⟨hreplace, hsep, (hlines _).trans (by decide), hreplace', hsep', hlf, hlf', _, hrun,
    hfailure, hfiles.trans hdone⟩

end Wordwalk
