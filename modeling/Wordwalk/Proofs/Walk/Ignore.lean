import Wordwalk.Proofs.Walk.Branches

/-! Leaving entries out while walking is the same as walking everything and leaving files out
afterwards. -/
namespace Wordwalk.Walker

variable {scan : Bytes → Scan} {ignore : List Bytes} {depth deeper : Nat}
  {names : List Bytes} {root : Bytes} {w all : Walker}

/-- Whether no pattern takes a leading part of the path of `file` below `root`. -/
def spared (ignore : List Bytes) (root file : Bytes) : Bool :=
  (Path.leadingParts (file.drop (Path.stem root).length)).all fun part => !ignored ignore part

theorem spared_under (hne : names ≠ []) (h : ∀ part ∈ names, Path.IsName part) :
    spared ignore root (Path.under root names) = kept ignore [] names := by
  have hsplit : Bytes.splitOn 0x2F (Bytes.join [0x2F] names) = names :=
    Bytes.splitOn_join hne fun part hp => (h part hp).2.2.2
  rw [spared, Path.under, List.drop_left, Path.leadingParts, hsplit, kept_eq_all, List.all_map]
  rfl

/-- If a walk without patterns comes to its end, so does the walk with them, and it finds the same
files in the same order less those with a leading part that a pattern takes. -/
theorem enumerate_ignoring (hall : make (fun _ => scan) [] = .ok all)
    (hw : make (fun _ => scan) ignore = .ok w) (h : (all.enumerate depth root).stop = none)
    (hle : depth ≤ deeper) :
    (w.enumerate deeper root).stop = none ∧
      (w.enumerate deeper root).files =
        (all.enumerate depth root).files.filter (spared ignore root) := by
  rw [make_eq_ok hall] at h ⊢
  rw [make_eq_ok hw]
  have hcompletes := (enumerate_completes scan [] depth root).mp h
  have h' := (enumerate_completes scan ignore depth root).mpr (completes_of_unpatterned hcompletes)
  -- The walk with patterns ends within the depth of the walk without, so more depth adds nothing.
  rw [enumerate_of_le (by simp [h']) hle]
  refine ⟨h', ?_⟩
  rw [enumerate_files h, enumerate_files h', keptPaths, keptPaths, List.filter_map]
  congr 1
  rw [List.filter_eq_self.mpr fun names _ => kept_nil [] names]
  apply List.filter_congr
  intro names hn
  exact (spared_under (branch_ne_nil hn) (isName_of_mem_branches hcompletes hn)).symm

/-- A directory `r` that holds a file `f` and two directories, `d` and `e`, with a file each. -/
def twoDirectories (dir : Bytes) : Scan where
  outcome :=
    match dir with
    | [0x72] => .ok ⟨dir, [[0x64], [0x65]], [[0x66]]⟩
    | [0x72, 0x2F, 0x64] => .ok ⟨dir, [], [[0x78]]⟩
    | [0x72, 0x2F, 0x65] => .ok ⟨dir, [], [[0x79]]⟩
    | _ => .error .missing

/-- The pattern takes a directory but not the path of the file in it. -/
theorem enumerate_ignoring_directory :
    ((steady twoDirectories []).enumerate 1 [0x72]).stop = none ∧
      ((steady twoDirectories [[0x64]]).enumerate 2 [0x72]).stop = none ∧
      ((steady twoDirectories [[0x64]]).enumerate 2 [0x72]).files =
        [[0x72, 0x2F, 0x66], [0x72, 0x2F, 0x65, 0x2F, 0x79]] := by
  have hall : make (fun _ => twoDirectories) [] = .ok (steady twoDirectories []) := rfl
  have hw : make (fun _ => twoDirectories) [[0x64]] = .ok (steady twoDirectories [[0x64]]) := by
    cbv
  have h : ((steady twoDirectories []).enumerate 1 [0x72]).stop = none := by decide +kernel
  have hfound : ((steady twoDirectories []).enumerate 1 [0x72]).files =
      [[0x72, 0x2F, 0x66], [0x72, 0x2F, 0x64, 0x2F, 0x78], [0x72, 0x2F, 0x65, 0x2F, 0x79]] := by
    decide +kernel
  obtain ⟨hstop, hfiles⟩ := enumerate_ignoring hall hw h (Nat.le_succ 1)
  refine ⟨h, hstop, ?_⟩
  have hf : ignored [[0x64]] [0x66] = false := by cbv
  have hd : ignored [[0x64]] [0x64] = true := by cbv
  have he : ignored [[0x64]] [0x65] = false := by cbv
  have hy : ignored [[0x64]] [0x65, 0x2F, 0x79] = false := by cbv
  rw [hfiles, hfound]
  simp [spared, Path.leadingParts, Path.stem, Bytes.splitOn, Bytes.join, hf, hd, he, hy]

end Wordwalk.Walker
