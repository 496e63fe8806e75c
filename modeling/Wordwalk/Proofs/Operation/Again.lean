import Wordwalk.Proofs.Operation.Stop
import Wordwalk.Proofs.Replacement.Parting

/-! A run of replacements that is repeated. Editing a file twice over is editing it once if what is
done to its content is done at once, and edits can change places; so a disk on which every path was
edited is as it is after another round. -/
namespace Wordwalk

namespace Disk

variable {d : Disk} {f : Bytes → Bytes} {path content : Bytes} {paths : List Bytes}

theorem setContent_setContent (d : Disk) (place : Place) (content : Bytes) :
    (d.setContent place content).setContent place content = d.setContent place content := by
  simp only [setContent_eq_mapContents, mapContents_mapContents]
  congr 1
  funext p old
  by_cases hp : p = place <;> simp [hp]

theorem editAt_editAt (hf : ∀ s, f (f s) = f s) (d : Disk) (place : Place) :
    (d.editAt f place).editAt f place = d.editAt f place := by
  have hl := lookup_editAt d f place place
  rw [if_pos rfl] at hl
  rw [editAt, hl]
  unfold editAt
  cases d.lookup place with
  | none => rfl
  | some e =>
    cases e with
    | dir => rfl
    | link target => rfl
    | file content mode => simp only [Option.map_some, Entry.mapContent, hf, setContent_setContent]

theorem edit_edit (hf : ∀ s, f (f s) = f s) (d : Disk) (path : Bytes) :
    (d.edit f path).edit f path = d.edit f path := by
  rw [edit, locate_edit]
  unfold edit
  cases d.locate path with
  | error refusal => rfl
  | ok place => exact editAt_editAt hf d place

/-- One more edit may as well come first. -/
theorem edit_foldl_edit (d : Disk) (f : Bytes → Bytes) (paths : List Bytes) (path : Bytes) :
    (paths.foldl (fun d path => d.edit f path) d).edit f path =
      paths.foldl (fun d path => d.edit f path) (d.edit f path) := by
  induction paths generalizing d with
  | nil => rfl
  | cons first paths ih => rw [List.foldl_cons, ih, edit_comm, List.foldl_cons]

/-- A path that was edited among others is as it is after one more edit. -/
theorem edit_foldl_edit_of_mem (hf : ∀ s, f (f s) = f s) (d : Disk) (h : path ∈ paths) :
    (paths.foldl (fun d path => d.edit f path) d).edit f path =
      paths.foldl (fun d path => d.edit f path) d := by
  induction paths generalizing d with
  | nil => simp at h
  | cons first paths ih =>
    rcases List.mem_cons.mp h with rfl | hrest
    · rw [List.foldl_cons, edit_foldl_edit, edit_edit hf]
    · exact ih (d.edit f first) hrest

theorem usable_foldl_edit (d : Disk) (f : Bytes → Bytes) (paths : List Bytes) (path : Bytes)
    (access : Access) :
    (paths.foldl (fun d path => d.edit f path) d).Usable access path ↔ d.Usable access path := by
  induction paths generalizing d with
  | nil => rfl
  | cons first paths ih => rw [List.foldl_cons, ih, usable_edit]

/-- A file that an edit leaves as it is holds what the edit makes of it. -/
theorem eq_of_edit_eq (h : d.edit f path = d) (hr : d.read path = .ok content) :
    f content = content := by
  obtain ⟨place, mode, hp, he, _⟩ := read_eq_ok_iff.mp hr
  have hl := lookup_edit d f path place
  rw [h, he, if_pos hp] at hl
  simpa [Entry.mapContent] using hl.symm

end Disk

open Replacement

variable {d : Disk} {r : Replacement} {l : Listener} {n : Nat} {paths : List Bytes}
  {run : ReplaceRun}

/-- What is reported of files that were left as they are. -/
def unchanged (paths : List Bytes) : List FileOutcome := paths.map fun path => ⟨path, .unchanged, 0⟩

namespace ReplaceRun

theorem outcomeOf_of_apply_eq {path content : Bytes} (h : r.apply content = content)
    (hfind : r.find ∉ tokens content) : outcomeOf r path content = ⟨path, .unchanged, 0⟩ := by
  have hcount : (r.run content).replacements = 0 := by
    rw [Replacement.run_replacements]
    exact List.count_eq_zero_of_not_mem hfind
  have hmodified : (r.run content).modified = false := by
    simp [Replacement.run, h]
  rw [outcomeOf, hcount, hmodified]
  rfl

/-- A run over files of which each holds what the replacement makes of it, and nothing that is to be
found, leaves the disk as it is. -/
theorem replace_of_edit_eq (hedit : ∀ path ∈ paths, d.edit r.apply path = d)
    (hfind : ∀ s, r.apply s = s → r.find ∉ tokens s)
    (h : (replace r { listener := l } n d paths).failure = none) :
    (replace r { listener := l } n d paths).disk = d ∧
      (replace r { listener := l } n d paths).files = unchanged paths := by
  induction paths generalizing n with
  | nil => exact ⟨rfl, rfl⟩
  | cons path paths ih =>
    obtain ⟨hpath, hrest⟩ := List.forall_mem_cons.mp hedit
    obtain ⟨hc, ⟨⟨content, hr⟩, hbar⟩, hend⟩ := replace_cons_failure.mp h
    have hsame := Disk.eq_of_edit_eq hpath hr
    rw [if_neg Bool.false_ne_true, hpath] at hend
    obtain ⟨hdisk, hfiles⟩ := ih hrest hend
    rw [replace_cons_of_read hc hr hbar, if_neg Bool.false_ne_true, hpath]
    refine ⟨hdisk, ?_⟩
    rw [after, outcomeOf_of_apply_eq hsame (hfind content hsame), hfiles]
    rfl

theorem report_of_unchanged (h : run.files = unchanged paths) :
    run.report { listener := l } = ⟨unchanged paths, 0, false⟩ := by
  have hnone : run.replacements = 0 := by
    rw [replacements, h]
    clear h
    induction paths with
    | nil => rfl
    | cons path paths ih => simpa [unchanged] using ih
  rw [report, h, hnone]

end ReplaceRun

/-- A run of replacements that put blanks between tokens and put in a single token, not the one they
find: once it ended well, the same run over again ends well too, leaves the disk exactly as it is,
and reports every file as unchanged and no token as replaced. -/
theorem replaceInFiles_again (hr : r.Parting) (hput : r.PutsToken) (hne : r.replace ≠ r.find)
    (h : replaceInFiles d r { listener := l } paths = .ok run) (hok : run.failure = none) :
    ∃ again, replaceInFiles run.disk r { listener := l } paths = .ok again ∧
      again.failure = none ∧ again.disk = run.disk ∧
      again.report { listener := l } = ⟨unchanged paths, 0, false⟩ := by
  obtain ⟨hdisk, hfailure⟩ := replaceInFiles_run h
  rw [hfailure] at hok
  rw [ReplaceRun.replace_disk hok] at hdisk
  obtain ⟨hcancel, husable⟩ := ReplaceRun.replace_failure_eq_none_iff.mp hok
  have hidem : ∀ s, r.apply (r.apply s) = r.apply s := hput.apply_apply hr hne
  have hedit : ∀ path ∈ paths, run.disk.edit r.apply path = run.disk := by
    intro path hp
    rw [hdisk]
    exact Disk.edit_foldl_edit_of_mem hidem d hp
  have hfind : ∀ s, r.apply s = s → r.find ∉ tokens s := by
    intro s hs
    rw [← hs]
    exact hput.find_notMem_tokens_apply hr hne s
  have hend : (ReplaceRun.replace r { listener := l } 0 run.disk paths).failure = none := by
    refine ReplaceRun.replace_failure_eq_none_iff.mpr ⟨hcancel, fun path hp => ?_⟩
    rw [hdisk]
    exact (Disk.usable_foldl_edit d r.apply paths path _).mpr (husable path hp)
  obtain ⟨hsame, hfiles⟩ := ReplaceRun.replace_of_edit_eq hedit hfind hend
  obtain ⟨_, hagain⟩ := replaceInFiles_of_valid (replaceInFiles_eq_ok_iff.mp ⟨run, h⟩) run.disk
    { listener := l } paths
  exact ⟨_, hagain, hend, hsame, ReplaceRun.report_of_unchanged hfiles⟩

/-- A disk with a file `f` that holds two words, and a link `l` to it. -/
def twoWords : Disk :=
  ⟨[], [([[0x66]], .file [0x61, 0x20, 0x61] 0o644), ([[0x6C]], .link [0x66])]⟩

/-- A file reached in two ways, in which the begin of a rune is put before each separator. -/
theorem replaceInFiles_again_alias :
    truncating.Parting ∧ truncating.PutsToken ∧ truncating.replace ≠ truncating.find ∧
    ∃ run again, replaceInFiles twoWords truncating {} [[0x66], [0x6C]] = .ok run ∧
      run.failure = none ∧
      run.disk.lookup [[0x66]] = some (.file [0xE2, 0x80, 0xE2, 0x80, 0xA8, 0xE2, 0x80] 0o644) ∧
      replaceInFiles run.disk truncating {} [[0x66], [0x6C]] = .ok again ∧
      again.failure = none ∧ again.disk = run.disk ∧
      again.report {} = ⟨[⟨[0x66], .unchanged, 0⟩, ⟨[0x6C], .unchanged, 0⟩], 0, false⟩ := by
  have hput : truncating.PutsToken := ⟨by decide, by decide⟩
  have hne : truncating.replace ≠ truncating.find := by decide
  obtain ⟨run, h⟩ : ∃ run, replaceInFiles twoWords truncating {} [[0x66], [0x6C]] = .ok run :=
    replaceInFiles_eq_ok_iff.mpr rfl
  obtain ⟨hdisk, hfailure⟩ := replaceInFiles_run h
  have hok : run.failure = none := hfailure.trans (by decide +kernel)
  obtain ⟨again, hagain, hend, hsame, hreport⟩ :=
    replaceInFiles_again parting_truncating hput hne h hok
  exact ⟨parting_truncating, hput, hne, run, again, h, hok, hdisk ▸ by decide +kernel, hagain, hend,
    hsame, hreport⟩

end Wordwalk
