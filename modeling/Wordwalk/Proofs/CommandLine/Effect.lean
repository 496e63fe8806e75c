import Wordwalk.CommandLine.Run
import Wordwalk.Proofs.Operation.Stop
import Wordwalk.Proofs.Walk.Branches

/-! What a command line can do to the disk. Everything that can be wrong with it is found before the
first file is written, and no command but one writes at all. -/
namespace Wordwalk

namespace CommandLine

variable {term : Terminal} {d : Disk} {words args patterns : List Bytes} {o : Options}
  {settings : Settings} {w : Walker} {c : Command} {t : Transcript} {root : Bytes}

namespace Transcript

@[simp]
theorem print_disk (t : Transcript) (s : Bytes) : (t.print s).disk = t.disk := rfl

@[simp]
theorem fail_disk (t : Transcript) (f : Failure) : (t.fail f).disk = t.disk := rfl

@[simp]
theorem log_disk (t : Transcript) (term : Terminal) (o : Options) (events : List Event) :
    (t.log term o events).disk = t.disk := by
  unfold log
  split <;> rfl

@[simp]
theorem display_disk (t : Transcript) (term : Terminal) (o : Options) (line : Console.Line) :
    (t.display term o line).disk = t.disk := by
  simp [display]

@[simp]
theorem relay_disk (t : Transcript) (term : Terminal) (o : Options)
    (line : Bytes → Nat → Console.Line) (signals : List Signal) :
    (t.relay term o line signals).disk = t.disk := by
  unfold relay
  induction signals generalizing t with
  | nil => rfl
  | cons signal signals ih => cases signal <;> simp [ih]

theorem foldl_display_disk (t : Transcript) (term : Terminal) (o : Options)
    (line : Bytes → Console.Line) (paths : List Bytes) :
    (paths.foldl (fun t path => t.display term o (line path)) t).disk = t.disk := by
  induction paths generalizing t with
  | nil => rfl
  | cons path paths ih => rw [List.foldl_cons, ih, display_disk]

end Transcript

theorem runCount_disk (term : Terminal) (o : Options) (t : Transcript) (files : List Bytes) :
    (runCount term o t files).disk = t.disk := by
  simp only [runCount]
  split <;> simp

theorem runHelp_disk (term : Terminal) (t : Transcript) (words : List Bytes) :
    (runHelp term t words).disk = t.disk := by
  unfold runHelp
  split
  · rfl
  · split <;> rfl

theorem withFiles_disk {next : Transcript → List Bytes → Transcript}
    (hnext : ∀ t files, (next t files).disk = t.disk) :
    (withFiles term o t patterns root next).disk = t.disk := by
  simp only [withFiles]
  split
  · simp
  · simp [hnext]

/-- Every command but one leaves the disk as it is. -/
theorem perform_disk (hc : c ≠ .findAndReplace) :
    (perform term c o settings args t).disk = t.disk := by
  cases c with
  | root | completion | version => rfl
  | help => exact runHelp_disk term t args
  | countLines => exact withFiles_disk (runCount_disk term o)
  | listFiles => exact withFiles_disk fun t files => t.foldl_display_disk term o .file files
  | findAndReplace => exact absurd rfl hc

/-- The flags that the command takes. -/
def Command.flags (c : Command) : Flags := c.ownFlags ++ Command.globalFlags ++ [.help]

/-- Whether the words ask for the replacement in files with these options and arguments. -/
def AsksToReplace (words : List Bytes) (o : Options) (args : List Bytes) : Prop :=
  ∃ rest, Command.select words = .ok (.findAndReplace, rest) ∧
    Flags.read Command.findAndReplace.flags rest {} = .ok (o, args)

/-- The replacement that is asked for. -/
def replacementOf (settings : Settings) (o : Options) (args : List Bytes) : Replacement :=
  ⟨rootArg args 0, rootArg args 1, o.separator.getD settings.separator⟩

/-- Whether the words ask for the replacement in files and everything on the way to the first file
goes well: the flags and arguments, the settings if a file of them is named, the text to find, the
patterns, and the whole walk of the root by the walker `w`. -/
structure ReachesFiles (d : Disk) (words : List Bytes) (o : Options) (args : List Bytes)
    (settings : Settings) (w : Walker) : Prop where
  asks : AsksToReplace words o args
  noHelp : o.help = false
  arguments : Command.findAndReplace.checkArgs args = .ok ()
  unset : o.config = [] → settings = {}
  loaded : o.config ≠ [] → (Settings.load d o.config).2 = .ok settings ∧ settings.fault? = none
  valid : (replacementOf settings o args).validate = .ok ()
  wellFormed : ∀ pattern ∈ ignorePatterns settings o, Glob.wellFormed pattern = true
  walker : d.walker (ignorePatterns settings o) = .ok w
  walked : (w.enumerate d.depth (rootArg args 2)).stop = none

/-- Whether the words ask for another command, or something goes wrong before the first file. -/
inductive EndsBeforeFiles (d : Disk) (words : List Bytes) : Prop where
  | command {fault : UsageFault} : Command.select words = .error fault → EndsBeforeFiles d words
  | other {c : Command} {rest : List Bytes} :
      Command.select words = .ok (c, rest) → c ≠ .findAndReplace → EndsBeforeFiles d words
  | flags {rest : List Bytes} {fault : UsageFault} :
      Command.select words = .ok (.findAndReplace, rest) →
        Flags.read Command.findAndReplace.flags rest {} = .error fault → EndsBeforeFiles d words
  | help {o : Options} {args : List Bytes} :
      AsksToReplace words o args → o.help = true → EndsBeforeFiles d words
  | arguments {o : Options} {args : List Bytes} {fault : UsageFault} :
      AsksToReplace words o args → Command.findAndReplace.checkArgs args = .error fault →
        EndsBeforeFiles d words
  | settings {o : Options} {args : List Bytes} {f : Failure} :
      AsksToReplace words o args → (chosenSettings d o).2 = .error f → EndsBeforeFiles d words
  | replacement {o : Options} {args : List Bytes} {settings : Settings}
      {fault : Replacement.Fault} :
      AsksToReplace words o args → (chosenSettings d o).2 = .ok settings →
        (replacementOf settings o args).validate = .error fault → EndsBeforeFiles d words
  | patterns {o : Options} {args : List Bytes} {settings : Settings} {f : Failure} :
      AsksToReplace words o args → (chosenSettings d o).2 = .ok settings →
        d.walker (ignorePatterns settings o) = .error f → EndsBeforeFiles d words
  | walk {o : Options} {args : List Bytes} {settings : Settings} {w : Walker} {stop : Stop} :
      AsksToReplace words o args → (chosenSettings d o).2 = .ok settings →
        d.walker (ignorePatterns settings o) = .ok w →
        (w.enumerate d.depth (rootArg args 2)).stop = some stop → EndsBeforeFiles d words

theorem fault?_of_load {path : Bytes} (h : (Settings.load d path).2 = .ok settings) :
    settings.fault? = none := by
  unfold Settings.load at h
  cases hread : d.read path with
  | error f => simp [hread] at h
  | ok text =>
    cases hformat : Settings.Format.of? path with
    | none => simp [hread, hformat] at h
    | some format =>
      cases hparse : format.parse text with
      | error fault => simp [hread, hformat, hparse] at h
      | ok parsed =>
        cases hfault : parsed.fault? with
        | some fault => simp [hread, hformat, hparse, hfault] at h
        | none =>
          obtain rfl : parsed = settings := by simpa [hread, hformat, hparse, hfault] using h
          exact hfault

/-- The settings are those of the file that is named, where they have no fault, or the default. -/
theorem chosenSettings_eq_ok_iff :
    (chosenSettings d o).2 = .ok settings ↔
      (o.config = [] → settings = {}) ∧
        (o.config ≠ [] → (Settings.load d o.config).2 = .ok settings ∧ settings.fault? = none) := by
  unfold chosenSettings
  by_cases hconfig : o.config = []
  · simpa [hconfig] using eq_comm
  · simp only [hconfig, if_false, false_implies, true_and, ne_eq, not_false_eq_true, true_implies]
    exact ⟨fun h => ⟨h, fault?_of_load h⟩, And.left⟩

theorem execute_of_ok (h : (chosenSettings d o).2 = .ok settings) (args : List Bytes) :
    execute term d c o args =
      perform term c o settings args
        (Transcript.log { disk := d } term o (chosenSettings d o).1) := by
  unfold execute
  simp only [h]

theorem withFiles_of_error {f : Failure} {next : Transcript → List Bytes → Transcript}
    (h : (enumerate t.disk patterns root).2 = .error f) :
    (withFiles term o t patterns root next).disk = t.disk := by
  simp [withFiles, h]

theorem withFiles_of_ok {files : List Bytes} {next : Transcript → List Bytes → Transcript}
    (h : (enumerate t.disk patterns root).2 = .ok files) :
    withFiles term o t patterns root next =
      next (t.log term o (enumerate t.disk patterns root).1) files := by
  simp [withFiles, h]

/-- The files are enumerated if the patterns make a walker and its walk comes to its end. -/
theorem enumerate_cases (d : Disk) (patterns : List Bytes) (root : Bytes) :
    (∃ f f', d.walker patterns = .error f ∧ (enumerate d patterns root).2 = .error f') ∨
      ∃ w, d.walker patterns = .ok w ∧
        ((∃ stop f, (w.enumerate d.depth root).stop = some stop ∧
            (enumerate d patterns root).2 = .error f) ∨
          (w.enumerate d.depth root).stop = none ∧
            (enumerate d patterns root).2 = .ok (w.enumerate d.depth root).files) := by
  cases hw : d.walker patterns with
  | error f => exact Or.inl ⟨f, _, rfl, by rw [enumerate, hw]⟩
  | ok w =>
    refine Or.inr ⟨w, rfl, ?_⟩
    cases hs : (w.enumerate d.depth root).stop with
    | none => exact Or.inr ⟨rfl, by simp only [enumerate, hw, hs]⟩
    | some stop =>
      left
      cases stop with
      | failed f => exact ⟨_, _, rfl, by simp only [enumerate, hw, hs]; rfl⟩
      | tooDeep => exact ⟨_, _, rfl, by simp only [enumerate, hw, hs]; rfl⟩

theorem runReplace_disk (term : Terminal) (o : Options) (t : Transcript) {r : Replacement}
    (hv : r.validate = .ok ()) (files : List Bytes) :
    ∃ done, replaceInFiles t.disk r { dryRun := o.dryRun } files = .ok done ∧
      (runReplace term o t r files).disk = done.disk := by
  obtain ⟨began, hdone⟩ := replaceInFiles_of_valid hv t.disk { dryRun := o.dryRun } files
  refine ⟨_, hdone, ?_⟩
  simp only [runReplace, hdone]
  split <;> simp

theorem perform_of_error {fault : Replacement.Fault}
    (hv : (replacementOf settings o args).validate = .error fault) :
    (perform term .findAndReplace o settings args t).disk = t.disk := by
  unfold replacementOf at hv
  simp [perform, hv]

theorem perform_of_ok (hv : (replacementOf settings o args).validate = .ok ()) :
    perform term .findAndReplace o settings args t =
      withFiles term o t (ignorePatterns settings o) (rootArg args 2) fun t files =>
        runReplace term o t (replacementOf settings o args) files := by
  have hv' := hv
  unfold replacementOf at hv'
  simp [perform, hv', replacementOf]

/-- The replacement in files, once its flags and arguments are right: it ends before the first file
and leaves the disk as it is, or it is a run over the files of a walk. -/
theorem execute_findAndReplace (term : Terminal) (d : Disk) (ha : AsksToReplace words o args)
    (hhelp : o.help = false) (harguments : Command.findAndReplace.checkArgs args = .ok ()) :
    EndsBeforeFiles d words ∧ (execute term d .findAndReplace o args).disk = d ∨
      ∃ settings w, ReachesFiles d words o args settings w ∧
        ∃ done, replaceInFiles d (replacementOf settings o args) { dryRun := o.dryRun }
            (w.enumerate d.depth (rootArg args 2)).files = .ok done ∧
          (execute term d .findAndReplace o args).disk = done.disk := by
  cases hs : (chosenSettings d o).2 with
  | error f => exact Or.inl ⟨.settings ha hs, by simp [execute, hs]⟩
  | ok settings =>
    obtain ⟨t, ht, hexecute⟩ : ∃ t : Transcript, t.disk = d ∧
        execute term d .findAndReplace o args =
          perform term .findAndReplace o settings args t :=
      ⟨_, Transcript.log_disk _ term o _, execute_of_ok hs args⟩
    subst ht
    rw [hexecute]
    cases hv : (replacementOf settings o args).validate with
    | error fault => exact Or.inl ⟨.replacement ha hs hv, perform_of_error hv⟩
    | ok _ =>
      rw [perform_of_ok hv]
      rcases enumerate_cases t.disk (ignorePatterns settings o) (rootArg args 2) with
        ⟨f, f', hw, he⟩ | ⟨w, hw, ⟨stop, f, hstop, he⟩ | ⟨hend, he⟩⟩
      · exact Or.inl ⟨.patterns ha hs hw, withFiles_of_error he⟩
      · exact Or.inl ⟨.walk ha hs hw hstop, withFiles_of_error he⟩
      · right
        obtain ⟨hunset, hloaded⟩ := chosenSettings_eq_ok_iff.mp hs
        refine ⟨settings, w, ⟨ha, hhelp, harguments, hunset, hloaded, hv,
          Walker.wellFormed_of_make hw, hw, hend⟩, ?_⟩
        rw [withFiles_of_ok he]
        have hrun := runReplace_disk term o
          (t.log term o (enumerate t.disk (ignorePatterns settings o) (rootArg args 2)).1) hv
          (w.enumerate t.disk.depth (rootArg args 2)).files
        rwa [Transcript.log_disk] at hrun

theorem execute_disk (hc : c ≠ .findAndReplace) : (execute term d c o args).disk = d := by
  simp only [execute]
  split
  · simp
  · rw [perform_disk hc, Transcript.log_disk]

theorem run_of_other {rest : List Bytes} (hs : Command.select words = .ok (c, rest))
    (hc : c ≠ .findAndReplace) : (run term d words).disk = d := by
  simp only [run, hs]
  split
  · rfl
  · split
    · rfl
    · split
      · rfl
      · exact execute_disk hc

/-- A command line ends before the first file and leaves the disk as it is, or it is a run over the
files of a walk. -/
theorem run_cases (term : Terminal) (d : Disk) (words : List Bytes) :
    EndsBeforeFiles d words ∧ (run term d words).disk = d ∨
      ∃ o args settings w, ReachesFiles d words o args settings w ∧
        ∃ done, replaceInFiles d (replacementOf settings o args) { dryRun := o.dryRun }
            (w.enumerate d.depth (rootArg args 2)).files = .ok done ∧
          (run term d words).disk = done.disk := by
  cases hs : Command.select words with
  | error fault => exact Or.inl ⟨.command hs, by simp [run, hs]⟩
  | ok selected =>
    obtain ⟨c, rest⟩ := selected
    by_cases hc : c = .findAndReplace
    · subst hc
      cases hf : Flags.read Command.findAndReplace.flags rest {} with
      | error fault =>
        refine Or.inl ⟨.flags hs hf, ?_⟩
        unfold Command.flags at hf
        simp only [run, hs, hf, Transcript.fail_disk]
      | ok read =>
        obtain ⟨o, args⟩ := read
        have ha : AsksToReplace words o args := ⟨rest, hs, hf⟩
        unfold Command.flags at hf
        cases hhelp : o.help with
        | true =>
          refine Or.inl ⟨.help ha hhelp, ?_⟩
          simp only [run, hs, hf, hhelp, true_or, if_true, Transcript.print_disk]
        | false =>
          cases hargs : Command.findAndReplace.checkArgs args with
          | error fault =>
            refine Or.inl ⟨.arguments ha hargs, ?_⟩
            simp only [run, hs, hf, hargs]
            split <;> rfl
          | ok _ =>
            have hrun : run term d words = execute term d .findAndReplace o args := by
              simp only [run, hs, hf, hargs]
              exact if_neg (by simp [hhelp])
            rw [hrun]
            exact (execute_findAndReplace term d ha hhelp hargs).imp_right
              fun ⟨settings, w, h⟩ => ⟨o, args, settings, w, h⟩
    · exact Or.inl ⟨.other hs hc, run_of_other hs hc⟩

theorem AsksToReplace.unique {o' : Options} {args' : List Bytes} (h : AsksToReplace words o args)
    (h' : AsksToReplace words o' args') : o = o' ∧ args = args' := by
  obtain ⟨rest, hs, hf⟩ := h
  obtain ⟨rest', hs', hf'⟩ := h'
  obtain rfl : rest = rest' := by simpa [hs] using hs'
  simpa [hf] using hf'

/-- What ends before the first file does not reach it. -/
theorem EndsBeforeFiles.not_reachesFiles (h : EndsBeforeFiles d words) :
    ¬ ReachesFiles d words o args settings w := by
  intro hr
  have hsettings := chosenSettings_eq_ok_iff.mpr ⟨hr.unset, hr.loaded⟩
  obtain ⟨rest, hs, hf⟩ := hr.asks
  cases h with
  | command hs' => simp [hs] at hs'
  | other hs' hc =>
    rw [hs, Except.ok.injEq, Prod.mk.injEq] at hs'
    exact hc hs'.1.symm
  | flags hs' hf' =>
    obtain rfl : rest = _ := by simpa [hs] using hs'
    simp [hf] at hf'
  | help ha hhelp =>
    obtain ⟨rfl, rfl⟩ := hr.asks.unique ha
    simp [hr.noHelp] at hhelp
  | arguments ha hargs =>
    obtain ⟨rfl, rfl⟩ := hr.asks.unique ha
    simp [hr.arguments] at hargs
  | settings ha hs' =>
    obtain ⟨rfl, rfl⟩ := hr.asks.unique ha
    simp [hsettings] at hs'
  | replacement ha hs' hv =>
    obtain ⟨rfl, rfl⟩ := hr.asks.unique ha
    obtain rfl : settings = _ := by simpa [hsettings] using hs'
    simp [hr.valid] at hv
  | patterns ha hs' hw =>
    obtain ⟨rfl, rfl⟩ := hr.asks.unique ha
    obtain rfl : settings = _ := by simpa [hsettings] using hs'
    simp [hr.walker] at hw
  | walk ha hs' hw hstop =>
    obtain ⟨rfl, rfl⟩ := hr.asks.unique ha
    obtain rfl : settings = _ := by simpa [hsettings] using hs'
    obtain rfl : w = _ := by simpa [hr.walker] using hw
    simp [hr.walked] at hstop

/-- A run changes the disk only if it is the replacement in files, not a dry run, and nothing went
wrong on the way to the first file: then the disk is that of a run over the files that the walk
found. Everything else leaves the disk as it was. -/
theorem run_changes_disk_only_after_checks (term : Terminal) (d : Disk) (words : List Bytes) :
    ((run term d words).disk ≠ d →
      ∃ o args settings w, ReachesFiles d words o args settings w ∧ o.dryRun = false ∧
        ∃ done, replaceInFiles d (replacementOf settings o args) {}
            (w.enumerate d.depth (rootArg args 2)).files = .ok done ∧
          (run term d words).disk = done.disk) ∧
      (EndsBeforeFiles d words → (run term d words).disk = d) := by
  rcases run_cases term d words with
    ⟨_, hdisk⟩ | ⟨o, args, settings, w, hreaches, done, hdone, hdisk⟩
  · exact ⟨fun hne => absurd hdisk hne, fun _ => hdisk⟩
  · refine ⟨fun hne => ?_, fun hends => absurd hreaches hends.not_reachesFiles⟩
    cases hdry : o.dryRun with
    | true =>
      rw [hdry] at hdone
      rw [hdisk, (replaceInFiles_run hdone).1, ReplaceRun.replace_dry_disk] at hne
      exact absurd rfl hne
    | false =>
      rw [hdry] at hdone
      exact ⟨o, args, settings, w, hreaches, hdry, done, hdone, hdisk⟩

/-- A disk with one file. -/
def single : Disk := ⟨[], [([[0x66]], .file [0x61] 0o644)]⟩

theorem lookup_run_single :
    (run {} single ["find-and-replace", "a", "b"]).disk.lookup [[0x66]] =
      some (.file [0x62] 0o644) := by
  decide +kernel

theorem endsBeforeFiles_blank : EndsBeforeFiles single ["find-and-replace", "a b", "c"] := by
  have ha : AsksToReplace ["find-and-replace", "a b", "c"] {} ["a b", "c"] := ⟨_, rfl, rfl⟩
  have hs : (chosenSettings single {}).2 = .ok {} := rfl
  have hv : (replacementOf {} {} ["a b", "c"]).validate = .error (.blankFind "a b") := rfl
  exact .replacement ha hs hv

/-- The file is written when all is well, and stays when the text to find has a blank. -/
theorem run_changes_disk_only_after_checks_single :
    (run {} single ["find-and-replace", "a", "b"]).disk ≠ single ∧
      (∃ o args settings w,
        ReachesFiles single ["find-and-replace", "a", "b"] o args settings w ∧
          o.dryRun = false) ∧
      EndsBeforeFiles single ["find-and-replace", "a b", "c"] ∧
      (run {} single ["find-and-replace", "a b", "c"]).disk = single := by
  have hchanged : (run {} single ["find-and-replace", "a", "b"]).disk ≠ single := by
    intro hsame
    have hlookup := lookup_run_single
    rw [hsame] at hlookup
    exact absurd hlookup (by decide)
  obtain ⟨o, args, settings, w, hreaches, hdry, _⟩ :=
    (run_changes_disk_only_after_checks {} single _).1 hchanged
  exact ⟨hchanged, ⟨o, args, settings, w, hreaches, hdry⟩, endsBeforeFiles_blank,
    (run_changes_disk_only_after_checks {} single _).2 endsBeforeFiles_blank⟩

end CommandLine
end Wordwalk
