import Wordwalk.Proofs.CommandLine.Effect
import Wordwalk.Proofs.CommandLine.Flags

/-! Settings from a file and from flags come to the same. A run whose settings are in a file is the
run with these settings given as flags, but for what reading the file has logged. -/
namespace Wordwalk.CommandLine

variable {term : Terminal} {d : Disk} {words words' rest line args patterns : List Bytes}
  {o o' : Options} {settings : Settings} {c : Command} {file root log : Bytes}

namespace Transcript

/-- The same transcript when `log` was written to the error stream before all else. -/
def after (t : Transcript) (log : Bytes) : Transcript := { t with stderr := log ++ t.stderr }

@[simp]
theorem after_disk (t : Transcript) (log : Bytes) : (t.after log).disk = t.disk := rfl

@[simp]
theorem after_failure (t : Transcript) (log : Bytes) : (t.after log).failure = t.failure := rfl

@[simp]
theorem after_nil (t : Transcript) : t.after [] = t := rfl

theorem log_after (h : o'.debug = o.debug) (t : Transcript) (events : List Event) :
    (t.after log).log term o events = (t.log term o' events).after log := by
  unfold Transcript.log
  rw [h]
  split
  · simp [after]
  · rfl

theorem display_after (h : o'.debug = o.debug) (t : Transcript) (line : Console.Line) :
    (t.after log).display term o line = (t.display term o' line).after log :=
  log_after h (t.print (line.text term.colour)) line.event?.toList

theorem relay_after (h : o'.debug = o.debug) (t : Transcript) (line : Bytes → Nat → Console.Line)
    (signals : List Signal) :
    (t.after log).relay term o line signals = (t.relay term o' line signals).after log := by
  unfold relay
  induction signals generalizing t with
  | nil => rfl
  | cons signal signals ih =>
    cases signal with
    | event e =>
      simp only [List.foldl_cons, log_after h]
      exact ih _
    | progress path n =>
      simp only [List.foldl_cons, display_after h]
      exact ih _

theorem foldl_display_after (h : o'.debug = o.debug) (t : Transcript) (line : Bytes → Console.Line)
    (paths : List Bytes) :
    paths.foldl (fun t path => t.display term o (line path)) (t.after log) =
      (paths.foldl (fun t path => t.display term o' (line path)) t).after log := by
  induction paths generalizing t with
  | nil => rfl
  | cons path paths ih => rw [List.foldl_cons, List.foldl_cons, display_after h, ih]

end Transcript

theorem runCount_after (h : o'.debug = o.debug) (t : Transcript) (files : List Bytes) :
    runCount term o (t.after log) files = (runCount term o' t files).after log := by
  unfold runCount
  simp only [Transcript.after_disk, Transcript.relay_after h]
  split
  · rfl
  · rw [Transcript.display_after h, Transcript.display_after h]

theorem runReplace_after (h : o'.debug = o.debug) (hdry : o'.dryRun = o.dryRun) (t : Transcript)
    (r : Replacement) (files : List Bytes) :
    runReplace term o (t.after log) r files = (runReplace term o' t r files).after log := by
  have hdisk (disk : Disk) :
      ({ t.after log with disk } : Transcript) = Transcript.after { t with disk } log := rfl
  unfold runReplace
  simp only [Transcript.after_disk, hdry, hdisk, Transcript.relay_after h]
  split
  · rfl
  · rw [Transcript.display_after h, Transcript.display_after h]

theorem withFiles_after {next next' : Transcript → List Bytes → Transcript}
    (h : o'.debug = o.debug)
    (hnext : ∀ t files, next (t.after log) files = (next' t files).after log) :
    withFiles term o (t.after log) patterns root next =
      (withFiles term o' t patterns root next').after log := by
  unfold withFiles
  simp only [Transcript.after_disk, Transcript.log_after h]
  split
  · rfl
  · exact hnext _ _

theorem runHelp_after (term : Terminal) (t : Transcript) (words : List Bytes) :
    runHelp term (t.after log) words = (runHelp term t words).after log := by
  unfold runHelp
  split
  · rfl
  · split
    · simp [Transcript.after]
    · rfl

/-- Whether the second options have some patterns before those of the first and are the same but for
the separator and the file of settings. -/
structure Presets (ignore : List Bytes) (o o' : Options) : Prop where
  debug : o'.debug = o.debug
  help : o'.help = o.help
  dryRun : o'.dryRun = o.dryRun
  ignore : o'.ignore = ignore ++ o.ignore

/-- Whether the second options without settings come to the same as the first with the settings.
Only one command looks at the separator. -/
structure Inlines (c : Command) (settings : Settings) (o o' : Options) : Prop
    extends Presets settings.ignore o o' where
  separator : c = .findAndReplace → o'.separator = some (o.separator.getD settings.separator)

theorem perform_after (h : Inlines c settings o o') (args : List Bytes) (t : Transcript) :
    perform term c o settings args (t.after log) = (perform term c o' {} args t).after log := by
  have hpatterns : ignorePatterns settings o = ignorePatterns {} o' := by
    rw [ignorePatterns, ignorePatterns, h.ignore, List.nil_append]
  cases c with
  | root | completion | version => rfl
  | help => exact runHelp_after term t args
  | countLines =>
    simp only [perform, hpatterns]
    exact withFiles_after h.debug (runCount_after h.debug)
  | listFiles =>
    simp only [perform, hpatterns]
    exact withFiles_after h.debug fun t files =>
      Transcript.foldl_display_after h.debug t .file files
  | findAndReplace =>
    simp only [perform, hpatterns, h.separator rfl, Option.getD_some]
    split
    · rfl
    · exact withFiles_after h.debug fun t files => runReplace_after h.debug h.dryRun t _ files

/-- What is logged while the settings in a file are loaded. -/
def loadLog (term : Terminal) (d : Disk) (file : Bytes) (o : Options) : Bytes :=
  if o.debug then (Settings.load d file).1.flatMap (Event.debugLine term.logColour) else []

theorem load_nil (d : Disk) (settings : Settings) : (Settings.load d []).2 ≠ .ok settings := by
  simp [Settings.load, Disk.read, Disk.locate]

/-- The work with the settings of a file is the work with these settings in the options. -/
theorem execute_after (hload : (Settings.load d file).2 = .ok settings)
    (h : Inlines c settings o o') (ho : o.config = file) (ho' : o'.config = [])
    (args : List Bytes) :
    execute term d c o args = (execute term d c o' args).after (loadLog term d file o) := by
  have hfile : file ≠ [] := by
    rintro rfl
    exact load_nil d settings hload
  have hwith : chosenSettings d o = Settings.load d file := by
    rw [chosenSettings, ho, if_neg hfile]
  have hwithout : chosenSettings d o' = ([], .ok {}) := by
    rw [chosenSettings, if_pos ho']
  have hlog : Transcript.log { disk := d } term o (Settings.load d file).1 =
      Transcript.after { disk := d } (loadLog term d file o) := by
    unfold Transcript.log loadLog
    split <;> simp [Transcript.after]
  have hlog' : Transcript.log { disk := d } term o' [] = { disk := d } := by
    unfold Transcript.log
    split <;> simp
  rw [execute_of_ok (hwith ▸ hload), execute_of_ok (congrArg Prod.snd hwithout), hwith, hwithout,
    hlog, hlog', perform_after h]

/-- Whether a command line comes to the same as a command followed by some words: the command may be
named later, and the flags may be in another order or spelled in another way. -/
def ReadsAs (words : List Bytes) (c : Command) (line : List Bytes) : Prop :=
  ∃ rest, Command.select words = .ok (c, rest) ∧
    Flags.read c.flags rest {} = Flags.read c.flags line {}

theorem readsAs_name (hc : c ≠ .root) (line : List Bytes) : ReadsAs (c.name :: line) c line := by
  have hfind : Command.find? c.name = some c := by
    cases c with
    | root => exact absurd rfl hc
    | _ => decide +kernel
  have hword : c.name ≠ [0x2D, 0x2D] ∧ c.name ≠ [] ∧ c.name.head? ≠ some 0x2D := by
    cases c <;> decide +kernel
  have htakes : Command.takesNext Command.globalFlags c.name = false := by
    cases c <;> decide +kernel
  refine ⟨line, ?_, rfl⟩
  have hplain : Command.plainWords Command.globalFlags (c.name :: line) =
      c.name :: Command.plainWords Command.globalFlags line := by
    simp [Command.plainWords.eq_def _ (c.name :: line), hword, htakes]
  have hwithout : Command.without Command.globalFlags c.name (c.name :: line) = line := by
    simp [Command.without.eq_def _ _ (c.name :: line), hword, htakes]
  simp only [Command.select, hplain, hfind, hwithout]

/-- What a command does once its flags are read. -/
def answer (term : Terminal) (d : Disk) (c : Command) :
    Except UsageFault (Options × List Bytes) → Transcript
  | .error fault => Transcript.fail { disk := d } (.usage fault)
  | .ok (o, args) =>
    if o.help ∨ c = .root ∨ c = .completion then Transcript.print { disk := d } c.helpText
    else
      match c.checkArgs args with
      | .error fault => Transcript.fail { disk := d } (.usage fault)
      | .ok () => execute term d c o args

theorem run_of_readsAs (h : ReadsAs words c line) :
    run term d words = answer term d c (Flags.read c.flags line {}) := by
  obtain ⟨rest, hs, hf⟩ := h
  rw [← hf]
  unfold Command.flags
  simp only [run, hs]
  rfl

/-- Whether the second options have moreover the separator of the first, or what is `given` where
they have none. -/
structure PresetsWith (ignore : List Bytes) (given : Option Bytes) (o o' : Options) : Prop
    extends Presets ignore o o' where
  separator : o'.separator = o.separator.or given

theorem keptBySet_presetsWith (ignore : List Bytes) (given : Option Bytes) :
    Flags.KeptBySet (PresetsWith ignore given) := by
  intro f value o o' h
  obtain ⟨⟨hdebug, hhelp, hdry, hignore⟩, hseparator⟩ := h
  cases f with
  | config => exact .ok ⟨⟨hdebug, hhelp, hdry, hignore⟩, hseparator⟩
  | separator => exact .ok ⟨⟨hdebug, hhelp, hdry, hignore⟩, rfl⟩
  | ignore => exact .ok ⟨⟨hdebug, hhelp, hdry, by simp [hignore]⟩, hseparator⟩
  | debug => exact .switch (fun _ => ⟨⟨rfl, hhelp, hdry, hignore⟩, hseparator⟩) _ _
  | help => exact .switch (fun _ => ⟨⟨hdebug, rfl, hdry, hignore⟩, hseparator⟩) _ _
  | dryRun => exact .switch (fun _ => ⟨⟨hdebug, hhelp, rfl, hignore⟩, hseparator⟩) _ _

/-- Whether the words leave the choice of a file of settings as it is. -/
def NamesNoSettings (c : Command) (words : List Bytes) : Prop :=
  ∀ start o args, Flags.read c.flags words start = .ok (o, args) → o.config = start.config

theorem namesNoSettings_args (h : ∀ word ∈ args, Flags.isFlag word = false) :
    NamesNoSettings c args := by
  intro start o rest hread
  rw [Flags.read_of_args h, Except.ok.injEq, Prod.mk.injEq] at hread
  rw [hread.1]

theorem NamesNoSettings.each {f : Flag} (h : NamesNoSettings c rest) (hf : f ≠ .config)
    (hv : f.isSwitch = false) (values : List Bytes) :
    NamesNoSettings c (f.each values ++ rest) := by
  induction values with
  | nil => exact h
  | cons value values ih =>
    intro start o args hread
    obtain ⟨next, hset, hnext⟩ : ∃ next, f.set value start = .ok next ∧
        next.config = start.config := by
      cases f with
      | config => exact absurd rfl hf
      | ignore | separator => exact ⟨_, rfl, rfl⟩
      | debug | dryRun | help => simp [Flag.isSwitch, Flag.valueName?] at hv
    by_cases hk : f ∈ c.flags
    · have hword : Flags.read c.flags (f.each (value :: values) ++ rest) start =
          Flags.read c.flags (f.each values ++ rest) next := Flags.read_word hk hv hset
      rw [hword] at hread
      rw [ih next o args hread, hnext]
    · have hword : Flags.read c.flags (f.each (value :: values) ++ rest) start = .error _ :=
        Flags.read_unknown hk
      exact nomatch hword.symm.trans hread

/-- Whether the words give a separator, be it an empty one. -/
def givesSeparator (c : Command) (words : List Bytes) : Bool :=
  match Flags.read c.flags words {} with
  | .ok (o, _) => o.separator.isSome
  | .error _ => false

/-- Whether the words ask for the log. -/
def AsksToDebug (c : Command) (words : List Bytes) : Prop :=
  ∃ o args, Flags.read c.flags words {} = .ok (o, args) ∧ o.debug = true

/-- The separator of the settings, if it is one that the words do not replace. -/
def settingsSeparator? (settings : Settings) (c : Command) (words : List Bytes) : Option Bytes :=
  if c = .findAndReplace ∧ givesSeparator c words = false then some settings.separator else none

/-- The settings as flags to stand before the words: one for each pattern, and one for the separator
where the command takes it and the words give none. -/
def settingsFlags (settings : Settings) (c : Command) (words : List Bytes) : List Bytes :=
  Flag.ignore.each settings.ignore ++
    Flag.separator.each (settingsSeparator? settings c words).toList

theorem mem_flags_of_mem_globalFlags {f : Flag} (h : f ∈ Command.globalFlags) (c : Command) :
    f ∈ c.flags :=
  List.mem_append_left _ (List.mem_append_right _ h)

theorem read_config (c : Command) (file : Bytes) (rest : List Bytes) (o : Options) :
    Flags.read c.flags ("-c" :: file :: rest) o =
      Flags.read c.flags rest { o with config := file } :=
  Flags.read_letter (f := .config) (mem_flags_of_mem_globalFlags (by decide) c) rfl rfl rfl

theorem read_ignore (c : Command) (patterns rest : List Bytes) (o : Options) :
    Flags.read c.flags (Flag.ignore.each patterns ++ rest) o =
      Flags.read c.flags rest { o with ignore := o.ignore ++ patterns } := by
  induction patterns generalizing o with
  | nil => simp [Flag.each]
  | cons pattern patterns ih =>
    have hfirst : Flags.read c.flags (Flag.ignore.each (pattern :: patterns) ++ rest) o =
        Flags.read c.flags (Flag.ignore.each patterns ++ rest)
          { o with ignore := o.ignore ++ [pattern] } :=
      Flags.read_word (mem_flags_of_mem_globalFlags (by decide) c) rfl rfl
    rw [hfirst, ih]
    simp

theorem read_separator (separator : Bytes) (rest : List Bytes) (o : Options) :
    Flags.read Command.findAndReplace.flags (Flag.separator.each [separator] ++ rest) o =
      Flags.read Command.findAndReplace.flags rest { o with separator := some separator } :=
  Flags.read_word (by decide) rfl rfl

theorem read_settingsFlags (settings : Settings) (c : Command) (rest : List Bytes) :
    Flags.read c.flags (settingsFlags settings c rest ++ rest) {} =
      Flags.read c.flags rest
        { ignore := settings.ignore, separator := settingsSeparator? settings c rest } := by
  rw [settingsFlags, List.append_assoc, read_ignore]
  by_cases hc : c = .findAndReplace ∧ givesSeparator c rest = false
  · rw [settingsSeparator?, if_pos hc]
    obtain ⟨rfl, -⟩ := hc
    exact read_separator settings.separator rest _
  · rw [settingsSeparator?, if_neg hc]
    rfl

/-- A file of settings that is named before the words makes no difference to how they are read. -/
theorem read_of_config
    (h : Flags.read c.flags rest { config := file } = .ok (o, args)) :
    ∃ plain, Flags.read c.flags rest {} = .ok (plain, args) ∧ PresetsWith [] none o plain := by
  have hsame : Flags.SameUpTo _ (Flags.read c.flags rest { config := file })
      (Flags.read c.flags rest {}) :=
    Flags.read_sameUpTo (keptBySet_presetsWith [] none) ⟨⟨rfl, rfl, rfl, rfl⟩, rfl⟩
  rcases hsame.error_or_ok with ⟨fault, hf, _⟩ | ⟨⟨o₁, args₁⟩, ⟨plain, args₂⟩, ⟨hp, ha⟩, hf, hplain⟩
  · exact nomatch h.symm.trans hf
  · rw [h, Except.ok.injEq, Prod.mk.injEq] at hf
    obtain ⟨rfl, rfl⟩ := hf
    obtain rfl : args = args₂ := ha
    exact ⟨plain, hplain, hp⟩

/-- The words read after the file of settings and after the settings as flags come to the same. -/
theorem inlines_of_read
    (h : Flags.read c.flags rest { config := file } = .ok (o, args))
    (hp : PresetsWith settings.ignore (settingsSeparator? settings c rest) o o') :
    Inlines c settings o o' := by
  refine ⟨hp.toPresets, fun hc => ?_⟩
  obtain ⟨plain, hplain, hsame⟩ := read_of_config h
  have hgives : givesSeparator c rest = o.separator.isSome := by
    rw [givesSeparator, hplain]
    simp [hsame.separator]
  rw [hp.separator, settingsSeparator?, hgives]
  cases o.separator <;> simp [hc]

/-- The two lines with the settings in a file and as flags have the same fault, or ask for the same
with the same arguments. -/
theorem read_inlines (settings : Settings) (file : Bytes) (hrest : NamesNoSettings c rest) :
    Flags.SameUpTo
      (fun p p' => (Inlines c settings p.1 p'.1 ∧ p.1.config = file ∧ p'.1.config = [] ∧
        (p.1.debug = true → AsksToDebug c rest)) ∧ p.2 = p'.2)
      (Flags.read c.flags ("-c" :: file :: rest) {})
      (Flags.read c.flags (settingsFlags settings c rest ++ rest) {}) := by
  rw [read_config, read_settingsFlags]
  have hsame : Flags.SameUpTo _ (Flags.read c.flags rest { config := file })
      (Flags.read c.flags rest
        { ignore := settings.ignore, separator := settingsSeparator? settings c rest }) :=
    Flags.read_sameUpTo (keptBySet_presetsWith settings.ignore (settingsSeparator? settings c rest))
      ⟨⟨rfl, rfl, rfl, (List.append_nil _).symm⟩, rfl⟩
  rcases hsame.error_or_ok with ⟨fault, hf, hf'⟩ | ⟨⟨o, args⟩, ⟨o', args'⟩, ⟨hp, ha⟩, hf, hf'⟩
  · rw [hf, hf']
    exact .error fault
  · obtain ⟨plain, hplain, hdebug⟩ := read_of_config hf
    rw [hf, hf']
    refine .ok ⟨⟨inlines_of_read hf hp, hrest _ o args hf, hrest _ o' args' hf', fun ho => ?_⟩, ha⟩
    exact ⟨plain, args, hplain, hdebug.debug.trans ho⟩

theorem answer_after (hload : (Settings.load d file).2 = .ok settings)
    (h : Inlines c settings o o') (ho : o.config = file) (ho' : o'.config = [])
    (args : List Bytes) :
    ∃ log, (log ≠ [] → o.debug = true) ∧
      answer term d c (.ok (o, args)) = (answer term d c (.ok (o', args))).after log := by
  simp only [answer, h.help]
  split
  · exact ⟨[], by simp, rfl⟩
  · cases c.checkArgs args with
    | error fault => exact ⟨[], by simp, rfl⟩
    | ok _ =>
      refine ⟨loadLog term d file o, fun hlog => ?_, execute_after hload h ho ho' args⟩
      by_contra hdebug
      exact hlog (if_neg hdebug)

theorem runProcess_after (h : run term d words = (run term d words').after log) :
    runProcess term d words =
      ((runProcess term d words').1.after log, (runProcess term d words').2) := by
  unfold runProcess
  simp only [h, Transcript.after_failure]
  split
  · rfl
  · simp [Transcript.after]

/-- Settings in a file and settings given as flags are interchangeable. A command whose settings are
in a file runs as it does when each pattern of the settings is given before the other words and, if
it takes a separator and the words give none, the separator of the settings: the output, the disk,
the failure, its report and the exit code are the same. Only the log has more, at its beginning, if
the words ask for it. -/
theorem runProcess_settings_as_flags (hload : (Settings.load d file).2 = .ok settings)
    (hrest : NamesNoSettings c rest) (hfile : ReadsAs words c ("-c" :: file :: rest))
    (hflags : ReadsAs words' c (settingsFlags settings c rest ++ rest)) :
    ∃ log, (log ≠ [] → AsksToDebug c rest) ∧
      runProcess term d words =
        ((runProcess term d words').1.after log, (runProcess term d words').2) := by
  have hwith : run term d words = _ := run_of_readsAs hfile
  have hwithout : run term d words' = _ := run_of_readsAs hflags
  rcases (read_inlines settings file hrest).error_or_ok with
    ⟨fault, hf, hf'⟩ | ⟨⟨o, args⟩, ⟨o', _⟩, ⟨⟨h, ho, ho', hdebug⟩, rfl⟩, hf, hf'⟩
  · refine ⟨[], by simp, runProcess_after ?_⟩
    rw [hwith, hwithout, hf, hf', Transcript.after_nil]
  · obtain ⟨log, hlog, hanswer⟩ := answer_after hload h ho ho' args
    refine ⟨log, fun hne => hdebug (hlog hne), runProcess_after ?_⟩
    rw [hwith, hwithout, hf, hf', hanswer]

/-- An empty separator among the words is one all the same. -/
example : settingsFlags ⟨["x"], "-"⟩ .findAndReplace ["--separator", "", "a", "b"] =
    ["--ignore", "x"] := by decide +kernel

/-- A disk with a file of settings and a directory with two files, one of which the settings leave
out. -/
def settled : Disk where
  home := []
  entries :=
    [(["s.json"], .file "\x7b\"ignore\": [\"x\"], \"separator\": \"-\"\x7d" 0o644), (["d"], .dir),
      (["f", "d"], .file "a c" 0o644), (["x", "d"], .file "a c" 0o644)]

/-- The words of a command line but for the settings. -/
def unsettled : List Bytes := ["--ignore", "g", "a", "b", "d"]

theorem load_settled : (Settings.load settled "s.json").2 = .ok ⟨["x"], "-"⟩ := by
  have hpair : (Settings.load settled "s.json").2.toOption.map (fun s => (s.ignore, s.separator)) =
      some ([Bytes.ofString "x"], Bytes.ofString "-") := by decide +kernel
  cases hload : (Settings.load settled "s.json").2 with
  | error f => simp [hload, Except.toOption] at hpair
  | ok s =>
    rw [hload] at hpair
    obtain ⟨hignore, hseparator⟩ := Prod.mk.inj (Option.some.inj hpair)
    rw [← hignore, ← hseparator]

theorem unsettled_quiet : ¬ AsksToDebug .findAndReplace unsettled := by
  rintro ⟨o, args, hread, hdebug⟩
  have hoff : (Flags.read Command.findAndReplace.flags unsettled {}).toOption.map
      (fun p => p.1.debug) = some false := by decide +kernel
  simp [hread, Except.toOption, hdebug] at hoff

/-- The pattern and the separator of the file stand before the other words. -/
theorem runProcess_settings_as_flags_json :
    runProcess {} settled ("find-and-replace" :: "-c" :: "s.json" :: unsettled) =
      runProcess {} settled
        ("find-and-replace" :: "--ignore" :: "x" :: "--separator" :: "-" :: unsettled) := by
  have hargs : NamesNoSettings .findAndReplace ["a", "b", "d"] :=
    namesNoSettings_args (by decide +kernel)
  have hrest : NamesNoSettings .findAndReplace unsettled :=
    hargs.each (f := .ignore) (by decide) rfl ["g"]
  have hwords : settingsFlags ⟨["x"], "-"⟩ .findAndReplace unsettled =
      ["--ignore", "x", "--separator", "-"] := by decide +kernel
  have hfile : ReadsAs ("find-and-replace" :: "-c" :: "s.json" :: unsettled) .findAndReplace
      ("-c" :: "s.json" :: unsettled) := readsAs_name (c := .findAndReplace) (by decide) _
  have hflags : ReadsAs
      ("find-and-replace" :: "--ignore" :: "x" :: "--separator" :: "-" :: unsettled)
      .findAndReplace (settingsFlags ⟨["x"], "-"⟩ .findAndReplace unsettled ++ unsettled) := by
    rw [hwords]
    exact readsAs_name (c := .findAndReplace) (by decide) _
  obtain ⟨log, hlog, hrun⟩ :=
    runProcess_settings_as_flags (d := settled) load_settled hrest hfile hflags
  obtain rfl : log = [] := by
    by_contra hne
    exact unsettled_quiet (hlog hne)
  rw [hrun, Transcript.after_nil]

end Wordwalk.CommandLine
