import Wordwalk.Proofs.CommandLine.Settings
import Wordwalk.Proofs.Operation.Progress

/-! The commands that look for files find the same files. What one of them lists, the others go
through in the same order, and what keeps it from listing keeps the others from starting. -/
namespace Wordwalk.CommandLine

variable {term : Terminal} {d : Disk} {access : Access} {c : Command} {words args ignore files : List Bytes}
  {config root : Bytes} {o : Options} {settings : Settings} {t t' t'' : Transcript}
  {lines lines' : List Console.Line}

/-- Whether a transcript is another with some lines added to its output. -/
structure Transcript.Adds (term : Terminal) (lines : List Console.Line) (t t' : Transcript) :
    Prop where
  stdout : t'.stdout = t.stdout ++ lines.flatMap (Console.Line.text term.colour)
  failure : t'.failure = t.failure

namespace Transcript

theorem Adds.trans (h : Adds term lines t t') (h' : Adds term lines' t' t'') :
    Adds term (lines ++ lines') t t'' :=
  ⟨by rw [h'.stdout, h.stdout, List.flatMap_append, List.append_assoc], h'.failure.trans h.failure⟩

theorem log_adds (term : Terminal) (o : Options) (t : Transcript) (events : List Event) :
    Adds term [] t (t.log term o events) := by
  unfold log
  split <;> exact ⟨by simp, rfl⟩

theorem display_adds (term : Terminal) (o : Options) (t : Transcript) (line : Console.Line) :
    Adds term [line] t (t.display term o line) := by
  have hprint : Adds term [line] t (t.print (line.text term.colour)) := ⟨by simp [print], rfl⟩
  exact hprint.trans (log_adds term o _ line.event?.toList)

theorem foldl_display_adds (term : Terminal) (o : Options) (line : Bytes → Console.Line)
    (paths : List Bytes) (t : Transcript) :
    Adds term (paths.map line) t (paths.foldl (fun t path => t.display term o (line path)) t) := by
  induction paths generalizing t with
  | nil => exact ⟨by simp, rfl⟩
  | cons path paths ih => exact (display_adds term o t (line path)).trans (ih _)

/-- Of all that is signalled only the notifications are shown. -/
theorem relay_adds (term : Terminal) (o : Options) (line : Bytes → Nat → Console.Line)
    (signals : List Signal) (t : Transcript) :
    Adds term ((signals.filterMap Signal.progress?).map fun shown => line shown.1 shown.2) t
      (t.relay term o line signals) := by
  induction signals generalizing t with
  | nil => exact ⟨by simp [relay], rfl⟩
  | cons signal signals ih =>
    cases signal with
    | event e => exact (log_adds term o t [e]).trans (ih _)
    | progress path n => exact (display_adds term o t (line path n)).trans (ih _)

/-- The log around an operation shows nothing more. -/
theorem relay_supervise_adds (term : Terminal) (o : Options) (line : Bytes → Nat → Console.Line)
    (t : Transcript) (name : Bytes) {signals : List Signal} {shown : List (Bytes × Nat)}
    (h : signals.filterMap Signal.progress? = shown) (failure : Option Failure) :
    Adds term (shown.map fun file => line file.1 file.2) t
      (t.relay term o line (supervise name signals failure).1) := by
  have hsignals : (supervise name signals failure).1.filterMap Signal.progress? = shown := by
    rw [← h]
    cases failure <;>
      simp [supervise, Signal.progress?, List.filterMap_append, List.filterMap_cons]
  rw [← hsignals]
  exact relay_adds term o line _ t

end Transcript

theorem goesThrough_supervise {shown : List (Bytes × Nat)} {failure : Option Failure}
    (h : GoesThrough d access files shown failure) (name : Bytes) (signals : List Signal) :
    GoesThrough d access files shown (supervise name signals failure).2 := by
  have hfailure : (supervise name signals failure).2 =
      failure.map (.within ("running " ++ name)) := by
    cases failure <;> rfl
  rw [hfailure]
  exact h.within _

/-- Whether a command that opens `files` for `access` shows a line for each of them, up to the first
that cannot be used, at which it fails, and the closing lines if and only if it gets to their end. -/
def ShowsProgress (term : Terminal) (d : Disk) (access : Access) (files : List Bytes)
    (line : Bytes → Nat → Console.Line) (closing : List (Bytes × Nat) → List Console.Line)
    (t : Transcript) : Prop :=
  ∃ shown : List (Bytes × Nat), GoesThrough d access files shown t.failure ∧
    t.stdout = ((shown.map fun file => line file.1 file.2) ++
      if t.failure = none then closing shown else []).flatMap (Console.Line.text term.colour)

theorem ShowsProgress.of_ending {line : Bytes → Nat → Console.Line}
    {closing : List (Bytes × Nat) → List Console.Line} {shown : List (Bytes × Nat)}
    {failure : Option Failure} (hstdout : t.stdout = []) (hnone : t.failure = none)
    (hgoes : GoesThrough d access files shown failure)
    (hshown : t.Adds term (shown.map fun file => line file.1 file.2) t')
    (hend : (∃ f, failure = some f ∧ t'' = t'.fail f) ∨
      failure = none ∧ t'.Adds term (closing shown) t'') :
    ShowsProgress term d access files line closing t'' := by
  rcases hend with ⟨f, rfl, rfl⟩ | ⟨rfl, hclosing⟩
  · refine ⟨shown, hgoes, ?_⟩
    have hlines := hshown.stdout
    rw [hstdout, List.nil_append] at hlines
    simpa [Transcript.fail] using hlines
  · have hall := hshown.trans hclosing
    have hfailure : t''.failure = none := hall.failure.trans hnone
    have hlines := hall.stdout
    rw [hstdout, List.nil_append] at hlines
    refine ⟨shown, hfailure ▸ hgoes, ?_⟩
    rw [if_pos hfailure]
    exact hlines

/-- The lines after those of the files counted. -/
def countClosing (shown : List (Bytes × Nat)) : List Console.Line :=
  [Console.countRule, .lineTotal (CountRun.total { files := shown }) shown.length]

/-- The lines after those of the files worked on. -/
def replaceClosing : List Console.Line :=
  [Console.replaceRule, .done "mission accomplished!"]

theorem runCount_showsProgress (term : Terminal) (o : Options) (files : List Bytes)
    (hstdout : t.stdout = []) (hnone : t.failure = none) :
    ShowsProgress term t.disk .read files (fun path n => .foundLines path n) countClosing
      (runCount term o t files) := by
  obtain ⟨run, hrun⟩ : ∃ run, countLines t.disk {} files = run := ⟨_, rfl⟩
  obtain ⟨hprogress, hgoes⟩ := countLines_goesThrough t.disk files
  rw [hrun] at hprogress hgoes
  have hshown := t.relay_supervise_adds term o (fun path n => .foundLines path n) CountRun.name
    hprogress run.failure
  refine .of_ending hstdout hnone (goesThrough_supervise hgoes CountRun.name run.signals) hshown ?_
  cases hend : (supervise CountRun.name run.signals run.failure).2 with
  | some f => exact Or.inl ⟨f, rfl, by simp only [runCount, hrun, hend]⟩
  | none =>
    right
    simp only [runCount, hrun, hend, true_and]
    exact (Transcript.display_adds term o _ _).trans (Transcript.display_adds term o _ _)

theorem runReplace_showsProgress (term : Terminal) (o : Options) {r : Replacement}
    (hv : r.validate = .ok ()) (files : List Bytes) (hstdout : t.stdout = [])
    (hnone : t.failure = none) :
    ShowsProgress term t.disk (ReplaceRun.access o.dryRun) files (fun path n => .workingOn path n)
      (fun _ => replaceClosing) (runReplace term o t r files) := by
  obtain ⟨run, hrun, hprogress, hgoes⟩ := replaceInFiles_goesThrough hv t.disk o.dryRun files
  have hshown := Transcript.relay_supervise_adds term o (fun path n => .workingOn path n)
    { t with disk := run.disk } ReplaceRun.name hprogress run.failure
  have hends := (goesThrough_supervise hgoes ReplaceRun.name run.signals).within
    ("replacing " ++ r.find.quoted)
  have hstdout' : Transcript.stdout { t with disk := run.disk } = [] := hstdout
  have hnone' : Transcript.failure { t with disk := run.disk } = none := hnone
  refine .of_ending hstdout' hnone' hends hshown ?_
  cases hend : (supervise ReplaceRun.name run.signals run.failure).2 with
  | some f => exact Or.inl ⟨_, rfl, by simp only [runReplace, hrun, hend]⟩
  | none =>
    right
    simp only [runReplace, hrun, hend, Option.map_none, true_and]
    exact (Transcript.display_adds term o _ _).trans (Transcript.display_adds term o _ _)

/-- The files below `root` that are left by the patterns of the settings in the file `config`, if
one is named, and those of `ignore`; or why they cannot be found. -/
def search (d : Disk) (config : Bytes) (ignore : List Bytes) (root : Bytes) :
    Except Failure (List Bytes) :=
  match (chosenSettings d { config }).2 with
  | .error f => .error (.within "loading config" f)
  | .ok settings => (enumerate d (settings.ignore ++ ignore) root).2

theorem search_of_error {f : Failure} (hs : (chosenSettings d o).2 = .error f) (root : Bytes) :
    search d o.config o.ignore root = .error (.within "loading config" f) := by
  unfold chosenSettings at hs
  simp only [search, chosenSettings, hs]

theorem search_of_ok (hs : (chosenSettings d o).2 = .ok settings) (root : Bytes) :
    search d o.config o.ignore root = (enumerate d (ignorePatterns settings o) root).2 := by
  unfold chosenSettings at hs
  simp only [search, chosenSettings, hs, ignorePatterns]

/-- Whether a command that is to find files and go on with them ends as `P` says if they are found,
and has failed for the same reason with nothing shown if not. -/
def Follows (P : List Bytes → Transcript → Prop) (t : Transcript) :
    Except Failure (List Bytes) → Prop
  | .error f => t.failure = some f ∧ t.stdout = []
  | .ok files => P files t

theorem execute_follows {P : List Bytes → Transcript → Prop}
    {next : Settings → Transcript → List Bytes → Transcript}
    (hperform : ∀ settings t, perform term c o settings args t =
      withFiles term o t (ignorePatterns settings o) root (next settings))
    (hnext : ∀ settings files (t : Transcript), t.disk = d → t.stdout = [] → t.failure = none →
      P files (next settings t files)) :
    Follows P (execute term d c o args) (search d o.config o.ignore root) := by
  have hload := Transcript.log_adds term o { disk := d } (chosenSettings d o).1
  cases hs : (chosenSettings d o).2 with
  | error f =>
    rw [search_of_error hs]
    simp only [execute, hs]
    exact ⟨rfl, hload.stdout⟩
  | ok settings =>
    rw [search_of_ok hs, execute_of_ok hs, hperform]
    have hwalk := hload.trans
      (Transcript.log_adds term o _ (enumerate d (ignorePatterns settings o) root).1)
    simp only [withFiles, Transcript.log_disk]
    cases (enumerate d (ignorePatterns settings o) root).2 with
    | error f => exact ⟨rfl, hwalk.stdout⟩
    | ok files => exact hnext settings files _ (by simp) hwalk.stdout hwalk.failure

/-- Whether the words ask for the command with these arguments, the file of settings `config`, or
none if it is empty, and the patterns `ignore`. -/
def Searches (c : Command) (words : List Bytes) (config : Bytes) (ignore args : List Bytes) :
    Prop :=
  ∃ rest o, Command.select words = .ok (c, rest) ∧ Flags.read c.flags rest {} = .ok (o, args) ∧
    o.config = config ∧ o.ignore = ignore ∧ o.help = false

/-- The words that ask for a command with some arguments, its file of settings and the patterns. -/
def searchWords (c : Command) (config? : Option Bytes) (ignore args : List Bytes) : List Bytes :=
  c.name :: (Flag.config.each config?.toList ++ (Flag.ignore.each ignore ++ args))

theorem searches_searchWords (hc : c ≠ .root) (config? : Option Bytes) (ignore : List Bytes)
    (hargs : ∀ word ∈ args, Flags.isFlag word = false) :
    Searches c (searchWords c config? ignore args) (config?.getD []) ignore args := by
  obtain ⟨rest, hs, hf⟩ := readsAs_name hc
    (Flag.config.each config?.toList ++ (Flag.ignore.each ignore ++ args))
  have hconfig : Flags.read c.flags
      (Flag.config.each config?.toList ++ (Flag.ignore.each ignore ++ args)) {} =
        Flags.read c.flags (Flag.ignore.each ignore ++ args) { config := config?.getD [] } := by
    cases config? with
    | none => rfl
    | some file =>
      exact Flags.read_word (f := .config) (mem_flags_of_mem_globalFlags (by decide) c) rfl rfl
  have hread := hf.trans (hconfig.trans
    ((read_ignore c ignore args _).trans (Flags.read_of_args hargs)))
  exact ⟨rest, _, hs, hread, rfl, rfl, rfl⟩

theorem run_follows {P : List Bytes → Transcript → Prop}
    (next : Options → Settings → Transcript → List Bytes → Transcript)
    (h : Searches c words config ignore args) (hc : c ≠ .root ∧ c ≠ .completion)
    (hargs : c.checkArgs args = .ok ())
    (hperform : ∀ o settings t, perform term c o settings args t =
      withFiles term o t (ignorePatterns settings o) root (next o settings))
    (hnext : ∀ rest o, Command.select words = .ok (c, rest) →
      Flags.read c.flags rest {} = .ok (o, args) → ∀ settings files (t : Transcript),
        t.disk = d → t.stdout = [] → t.failure = none → P files (next o settings t files)) :
    Follows P (run term d words) (search d config ignore root) := by
  obtain ⟨rest, o, hs, hf, rfl, rfl, hhelp⟩ := h
  have hrun : run term d words = execute term d c o args := by
    rw [run_of_readsAs ⟨rest, hs, rfl⟩, hf]
    simp [answer, hhelp, hc, hargs]
  rw [hrun]
  exact execute_follows (hperform o) (hnext rest o hs hf)

/-- The transcript of a run that has listed `files`. -/
def Lists (files : List Bytes) (t : Transcript) : Prop :=
  t.failure = none ∧ t.stdout = files.flatMap (· ++ [0x0A])

variable {start : Option Bytes}

theorem run_listFiles_follows (h : Searches .listFiles words config ignore start.toList) :
    Follows Lists (run term d words) (search d config ignore (start.getD ".")) := by
  refine run_follows
    (fun o _ t files => files.foldl (fun t path => t.display term o (.file path)) t) h (by decide)
    (by cases start <;> rfl) ?_ ?_
  · intro o settings t
    cases start <;> rfl
  · intro _ o _ _ settings files t _ hstdout hnone
    have hadds := Transcript.foldl_display_adds term o .file files t
    refine ⟨hadds.failure.trans hnone, ?_⟩
    rw [hadds.stdout, hstdout, List.nil_append, List.flatMap_map]
    rfl

theorem run_countLines_follows (h : Searches .countLines words config ignore start.toList) :
    Follows (ShowsProgress term d .read · (fun path n => .foundLines path n) countClosing)
      (run term d words) (search d config ignore (start.getD ".")) := by
  refine run_follows (fun o _ t files => runCount term o t files) h (by decide)
    (by cases start <;> rfl) ?_ ?_
  · intro o settings t
    cases start <;> rfl
  · rintro _ o _ _ settings files t rfl hstdout hnone
    exact runCount_showsProgress term o files hstdout hnone

/-- Whether the words ask for a replacement in files that shows its progress on `files`. The files
are opened for reading only if a dry run is asked for. -/
def ReplacesIn (term : Terminal) (d : Disk) (words args files : List Bytes) (t : Transcript) : Prop :=
  ∃ o, AsksToReplace words o args ∧
    ShowsProgress term d (ReplaceRun.access o.dryRun) files (fun path n => .workingOn path n)
      (fun _ => replaceClosing) t

theorem run_findAndReplace_follows {find replace : Bytes}
    (h : Searches .findAndReplace words config ignore (find :: replace :: start.toList))
    (hfind : (Replacement.mk find replace []).validate = .ok ()) :
    Follows (ReplacesIn term d words (find :: replace :: start.toList)) (run term d words)
      (search d config ignore (start.getD ".")) := by
  have hvalid (settings : Settings) (o : Options) :
      (replacementOf settings o (find :: replace :: start.toList)).validate = .ok () := hfind
  refine run_follows
    (fun o settings t files =>
      runReplace term o t (replacementOf settings o (find :: replace :: start.toList)) files) h
    (by decide) (by cases start <;> rfl) ?_ ?_
  · intro o settings t
    rw [perform_of_ok (hvalid settings o)]
    cases start <;> rfl
  · rintro rest o hs hf settings files t rfl hstdout hnone
    exact ⟨o, ⟨rest, hs, hf⟩,
      runReplace_showsProgress term o (hvalid settings o) files hstdout hnone⟩

/-- The files that one command lists are those that the others go through when they are given the
same place to start, settings and patterns, whatever is replaced, and where it fails they do so in
the same way with nothing shown. -/
theorem listed_files_are_worked_on (term : Terminal) (d : Disk) {find replace : Bytes}
    {listing counting replacing : List Bytes}
    (hlisting : Searches .listFiles listing config ignore start.toList)
    (hcounting : Searches .countLines counting config ignore start.toList)
    (hreplacing : Searches .findAndReplace replacing config ignore
      (find :: replace :: start.toList))
    (hfind : (Replacement.mk find replace []).validate = .ok ()) :
    ((run term d listing).failure = none →
      ∃ files, (run term d listing).stdout = files.flatMap (· ++ [0x0A]) ∧
        ShowsProgress term d .read files (fun path n => .foundLines path n) countClosing
          (run term d counting) ∧
        ReplacesIn term d replacing (find :: replace :: start.toList) files
          (run term d replacing)) ∧
    ∀ f, (run term d listing).failure = some f →
      ((run term d counting).failure = some f ∧ (run term d counting).stdout = []) ∧
        (run term d replacing).failure = some f ∧ (run term d replacing).stdout = [] := by
  have hlist : Follows _ (run term d listing) _ := run_listFiles_follows hlisting
  have hcount : Follows _ (run term d counting) _ := run_countLines_follows hcounting
  have hreplace : Follows _ (run term d replacing) _ := run_findAndReplace_follows hreplacing hfind
  cases hsearch : search d config ignore (start.getD ".") with
  | error f =>
    rw [hsearch] at hlist hcount hreplace
    refine ⟨fun hnone => (nomatch hlist.1.symm.trans hnone), fun f' hf' => ?_⟩
    obtain rfl : f = f' := Option.some.inj (hlist.1.symm.trans hf')
    exact ⟨hcount, hreplace⟩
  | ok files =>
    rw [hsearch] at hlist hcount hreplace
    obtain ⟨hnone, hlines⟩ := hlist
    exact ⟨fun _ => ⟨files, hlines, hcount, hreplace⟩, fun f hf => nomatch hnone.symm.trans hf⟩

/-- A directory with files, of which one is a link that leads nowhere. -/
def dangling : Disk where
  home := []
  entries :=
    [([[0x64]], .dir), ([[0x63], [0x64]], .link [0x78]), ([[0x65], [0x64]], .file [0x78] 0o644),
      ([[0x62], [0x64]], .file [0x78, 0x0A, 0x79] 0o644), ([[0x69], [0x64]], .file [0x78] 0o644),
      ([[0x61], [0x64]], .file [0x78] 0o644)]

theorem scan_dangling : (dangling.scan [0x64]).outcome =
    .ok ⟨[0x64], [], [[0x61], [0x62], [0x63], [0x65], [0x69]]⟩ := by
  have hl : dangling.locate [0x64] = .ok [[0x64]] := by decide
  have hp : dangling.lookup [[0x64]] = some .dir := rfl
  have hlink : dangling.isDir (Path.join [0x64] [0x63]) = false := by decide
  have hchildren : dangling.children [[0x64]] =
      [([0x61], .file [0x78] 0o644), ([0x62], .file [0x78, 0x0A, 0x79] 0o644),
        ([0x63], .link [0x78]), ([0x65], .file [0x78] 0o644), ([0x69], .file [0x78] 0o644)] := by
    simp +decide [Disk.children, dangling, List.mergeSort, List.MergeSort.Internal.splitInTwo]
  simp [Disk.scan, hl, hp, hchildren, Disk.isDirLink, hlink, List.partition_eq_filter_filter]

theorem search_dangling : search dangling [] [[0x69]] [0x64] =
    .ok [[0x64, 0x2F, 0x61], [0x64, 0x2F, 0x62], [0x64, 0x2F, 0x63], [0x64, 0x2F, 0x65]] := by
  have hwell : Glob.wellFormed [0x69] = true := by cbv
  have hw : dangling.walker [[0x69]] = .ok (Walker.steady dangling.scan [[0x69]]) := by
    simp [Disk.walker, Walker.make, Walker.steady, hwell]
  have hstop :
      ((Walker.steady dangling.scan [[0x69]]).enumerate dangling.depth [0x64]).stop = none :=
    (Walker.enumerate_completes _ _ _ _).mpr ⟨_, scan_dangling, by decide, by simp⟩
  have hbranches : Walker.branches dangling.scan dangling.depth [0x64] =
      [[[0x61]], [[0x62]], [[0x63]], [[0x65]], [[0x69]]] :=
    Walker.branchesVia_of_listing scan_dangling
  have ha : ignored [[0x69]] [0x61] = false := by cbv
  have hb : ignored [[0x69]] [0x62] = false := by cbv
  have hc : ignored [[0x69]] [0x63] = false := by cbv
  have he : ignored [[0x69]] [0x65] = false := by cbv
  have hi : ignored [[0x69]] [0x69] = true := by cbv
  have hkept : (Walker.branches dangling.scan dangling.depth [0x64]).filter
      (Walker.kept [[0x69]] []) = [[[0x61]], [[0x62]], [[0x63]], [[0x65]]] := by
    rw [hbranches]
    simp [Walker.kept, Bytes.join, ha, hb, hc, he, hi]
  have hfiles := Walker.enumerate_files hstop
  rw [Walker.keptPaths, hkept] at hfiles
  simp only [search, chosenSettings, enumerate, if_true, List.nil_append, hw, hstop, hfiles]
  rfl

/-- What is left by the pattern is listed in order, and the others stop at the link. -/
theorem listed_files_are_worked_on_dangling :
    (run {} dangling (searchWords .listFiles none [[0x69]] [[0x64]])).stdout =
        "d/a\nd/b\nd/c\nd/e\n" ∧
      (countLines dangling {} [[0x64, 0x2F, 0x61], [0x64, 0x2F, 0x62], [0x64, 0x2F, 0x63],
        [0x64, 0x2F, 0x65]]).files = [([0x64, 0x2F, 0x61], 1), ([0x64, 0x2F, 0x62], 2)] ∧
      ∃ files, Bytes.ofString "d/a\nd/b\nd/c\nd/e\n" = files.flatMap (· ++ [0x0A]) ∧
        ShowsProgress {} dangling .read files (fun path n => .foundLines path n) countClosing
          (run {} dangling (searchWords .countLines none [[0x69]] [[0x64]])) ∧
        ReplacesIn {} dangling (searchWords .findAndReplace none [[0x69]] [[0x78], [0x7A], [0x64]])
          [[0x78], [0x7A], [0x64]] files
          (run {} dangling
            (searchWords .findAndReplace none [[0x69]] [[0x78], [0x7A], [0x64]])) := by
  have hlisting : Searches .listFiles _ [] [[0x69]] (some [0x64]).toList :=
    searches_searchWords (by decide) none [[0x69]] (by decide)
  have hcounting : Searches .countLines _ [] [[0x69]] (some [0x64]).toList :=
    searches_searchWords (by decide) none [[0x69]] (by decide)
  have hreplacing : Searches .findAndReplace _ [] [[0x69]] ([0x78] :: [0x7A] :: (some [0x64]).toList) :=
    searches_searchWords (by decide) none [[0x69]] (by decide)
  have hlists : Follows Lists (run {} dangling (searchWords .listFiles none [[0x69]] [[0x64]]))
      (search dangling [] [[0x69]] [0x64]) := run_listFiles_follows hlisting
  rw [search_dangling] at hlists
  obtain ⟨hnone, hlines⟩ := hlists
  obtain ⟨files, hfiles, hcount, hreplace⟩ :=
    (listed_files_are_worked_on {} dangling hlisting hcounting hreplacing rfl).1 hnone
  have hlisted : (run {} dangling (searchWords .listFiles none [[0x69]] [[0x64]])).stdout =
      "d/a\nd/b\nd/c\nd/e\n" := hlines.trans (by decide +kernel)
  exact ⟨hlisted, by decide +kernel, files, hlisted.symm.trans hfiles, hcount, hreplace⟩

end Wordwalk.CommandLine
