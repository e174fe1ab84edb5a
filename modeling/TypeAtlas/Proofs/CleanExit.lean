import TypeAtlas.CommandLine
import TypeAtlas.Proofs.Failure
import TypeAtlas.Proofs.JobAgreement
import TypeAtlas.Proofs.Legibility

/-! # How a run ends

`CommandLine.run` ends with an exit code and a message for whatever the user can mend. What is not
reported that way are files that are no texts, settings that cannot be looked for or hold values that
cannot be written, and home directories that there are not.

* `JobFault.isReported`: the faults of a job that are reported. All others are faults of reading the source
  file as a text (`Job.isReported_or_decoding`), and those arise exactly when a checked job has a source
  file that is none (`Job.run_eq_decoding_iff`).
* `CommandLine.EndsCleanly`: a run that ends with an exit code, and with a message if that is not zero.
* `CommandLine.SourceLegible`: the source file of a run is a text, if the run gets to read it.
* `CommandLine.Legible`: all files of a run are legible.

What is said here of runs rests on what a `World` is: in a `FileTree` everything may be looked at, read
and written and nothing is a link, and the console takes every text. It also rests on the parameters of a
run: a `Parser` gives statements for every text or is missing, a `Yaml.Loader` gives a value or a fault,
and neither gives up on a text because it is nested too deeply, as no other step does.

Main statement: `CommandLine.endsCleanly_iff_legible`. -/

namespace TypeAtlas

/-! ## Documenting well-formed statements -/

/-- A parser that finds well-formed statements only. -/
def Parser.WellFormed (parser : Parser) : Prop :=
  ∀ source ss, (parser source).outcome = .ok ss → ∀ s ∈ ss, s.WellFormed

/-- The statements of a tree are well-formed. -/
theorem Parser.wellFormed_typeScript : Parser.WellFormed .typeScript := by
  intro source ss h
  cases h
  exact SyntaxTree.wellFormed_statements _ _

/-- Documenting a source text fails because there is no parser or because of the format. -/
theorem generate_eq_error {parser : Parser} (hparser : parser.WellFormed) {formatName : String}
    {inline : List String} {source : List Char} {e : GenerateFault}
    (h : (generate parser formatName inline source).outcome = .error e) :
    (∃ m, e = .parser m) ∨ ∃ f, Format.parse formatName = .error f := by
  cases hstatements : (parser source).outcome with
  | error m =>
    rw [generate, Report.bind_eq, Report.andThen, Report.mapError, hstatements] at h
    cases h
    exact .inl ⟨m, rfl⟩
  | ok ss =>
    rw [generate, Report.bind_eq,
      Report.outcome_andThen (Report.outcome_mapError_of_ok hstatements _), Report.mapError] at h
    cases hdocument : (document formatName inline ss).outcome with
    | error e' =>
      have hformat := failsByFormatOnly_document (hparser source ss hstatements) inline
      obtain ⟨f, hf, -⟩ := (hformat.error_iff formatName e').1 hdocument
      exact .inr ⟨f, hf⟩
    | ok page =>
      rw [hdocument] at h
      cases h

/-! ## Faults of a job that are reported -/

/-- Whether a run reports a fault of its job. -/
def JobFault.isReported : JobFault → Bool
  | .usage _ => true
  | .file f => f ≠ .nulInName
  | .parser _ => true
  | _ => false

namespace Job

variable {parser : Parser} {job : Job} {w : World}

/-- A job that passes its check has a format. -/
theorem parse_of_check {files : FileTree} {cwd : Location} {output : Option Path}
    (h : check files cwd job = .ok output) (f : FormatFault) : Format.parse job.format ≠ .error f := by
  intro hformat
  rw [check, hformat] at h
  cases h

/-- Putting a page into a file with a possible name does not fail because of the name. -/
theorem put_ne_nulInName {out : Outcome} (h : ∀ p, out.output = some p → p.NulFree) :
    out.put w ≠ .error .nulInName := by
  obtain ⟨output, page, messages⟩ := out
  cases output with
  | none =>
    rw [Outcome.put_none]
    exact fun h => nomatch h
  | some p =>
    rw [Outcome.put_some]
    cases hwrite : w.files.write w.cwd p (Text.Utf8.encode page.toList) with
    | ok files => exact fun h => nomatch h
    | error e =>
      rintro ⟨⟩
      exact FileTree.modify_ne_nulInName (h p rfl) _ hwrite

/-- The file of a page has a possible name if the source file and what was given for it have one. -/
theorem nulFree_of_resolveOutput {input p : Path} {output : Option String} (hinput : input.NulFree)
    (houtput : ∀ o, output = some o → '\x00' ∉ o.toList)
    (h : resolveOutput input output = .ok (some p)) : p.NulFree := by
  have hbeside : resolveOutput.beside input = .ok (some p) → p.NulFree := by
    intro h
    rw [resolveOutput.beside] at h
    split at h
    · rename_i hsuffix
      cases h
      exact hinput.of_withSuffix (by decide) hsuffix
    · cases h
  cases output with
  | none => exact hbeside h
  | some o =>
    rw [resolveOutput] at h
    split at h
    · cases h
    · split at h
      · exact hbeside h
      · split at h
        · cases h
          exact Path.nulFree_ofString (houtput o rfl)
        · cases h

/-- **A fault of a job is reported**, unless it is that its source file is no text. -/
theorem isReported_or_decoding {e : JobFault} (hparser : parser.WellFormed)
    (hinput : job.input.NulFree)
    (houtput : ∀ p, resolveOutput job.input job.output = .ok (some p) → p.NulFree)
    (h : (run parser job w).1 = .error e) : e.isReported = true ∨ ∃ f, e = .decoding f := by
  have hcourse := course_run parser job w
  generalize run parser job w = result at h hcourse
  cases hcourse with
  | refused hcheck =>
    cases h
    left
    rcases check_eq_error hcheck with ⟨f, -, rfl⟩ | hmem | ⟨path, rfl⟩
    · rfl
    · simp only [List.mem_cons, List.not_mem_nil, or_false] at hmem
      rcases hmem with rfl | rfl | rfl | rfl <;> rfl
    · rfl
  | unread hcheck hsource =>
    cases h
    rw [source_eq] at hsource
    split at hsource
    · rename_i f hread
      cases hsource
      refine .inl (decide_eq_true fun hf => ?_)
      exact FileTree.read_ne_nulInName hinput (hf ▸ hread)
    · split at hsource
      · cases hsource
        exact .inr ⟨_, rfl⟩
      · cases hsource
  | undocumented hcheck _ hreport =>
    cases h
    obtain ⟨e', hgenerate, rfl⟩ := (tellsAs_report parser job _).outcome_eq_error hreport
    rcases generate_eq_error hparser hgenerate with ⟨m, rfl⟩ | ⟨f, hformat⟩
    · exact .inl rfl
    · -- the format was looked at in the check
      exact absurd hformat (parse_of_check hcheck f)
  | unwritten hcheck _ _ hput =>
    cases h
    obtain ⟨-, houtput', -⟩ := check_eq_ok hcheck
    refine .inl (decide_eq_true fun hf => ?_)
    exact put_ne_nulInName (fun p hp => houtput p (houtput'.trans (congrArg _ hp))) (hf ▸ hput)
  | done => cases h

/-- The text of a source file cannot be made exactly when it is there and is none. -/
theorem source_eq_decoding_iff {files : FileTree} {cwd : Location} :
    (∃ f, source files cwd job = .error (.decoding f)) ↔ ¬ files.IsText cwd job.input := by
  rw [source_eq, FileTree.IsText]
  cases files.read cwd job.input with
  | error e => simp
  | ok bytes => cases hdecode : Text.Utf8.decode bytes <;> simp [hdecode]

/-- **A job fails because its source file is no text** exactly when it passes its check and the file was
no text from the start. -/
theorem run_eq_decoding_iff :
    (∃ f, (run parser job w).1 = .error (.decoding f)) ↔
      (∃ output, check w.files w.cwd job = .ok output) ∧ ¬ w.files.IsText w.cwd job.input := by
  -- the record that a job starts with may go into its source file
  have hread : ¬ w.files.IsText w.cwd job.input ↔
      ∃ f, source (w.record job.startRecord).files (w.record job.startRecord).cwd job =
        .error (.decoding f) := by
    rw [source_eq_decoding_iff, (World.onlyLogs_record job.startRecord w).cwd_eq,
      (World.textAdded_record job.startRecord w).isText_iff]
  rw [hread]
  have hcourse := course_run parser job w
  generalize run parser job w = result at hcourse ⊢
  constructor
  · rintro ⟨f, hf⟩
    cases hcourse with
    | refused hcheck =>
      cases hf
      rcases check_eq_error hcheck with ⟨_, -, h⟩ | h | ⟨_, h⟩ <;> simp at h
    | unread hcheck hsource =>
      cases hf
      exact ⟨⟨_, hcheck⟩, f, hsource⟩
    | undocumented _ _ hreport =>
      cases hf
      obtain ⟨e', -, he'⟩ := (tellsAs_report parser job _).outcome_eq_error hreport
      cases e' <;> cases he'
    | unwritten => cases hf
    | done => cases hf
  · rintro ⟨⟨output, hcheck⟩, f, hf⟩
    cases hcourse with
    | refused hcheck' => cases hcheck.symm.trans hcheck'
    | unread _ hsource =>
      cases hf.symm.trans hsource
      exact ⟨f, rfl⟩
    | undocumented _ hsource _ => cases hf.symm.trans hsource
    | unwritten _ hsource _ _ => cases hf.symm.trans hsource
    | done _ hsource _ _ => cases hf.symm.trans hsource

end Job

/-! ## Journals -/

namespace Action

variable {verbose : Bool} {logFile : Option Path} {w w' : World}

/-- Where the log file of a run is opened. -/
def logPlace (cwd : Location) (p : Path) : Path :=
  ⟨if p.anchor = .doubled then .doubled else .root, p.normal cwd⟩

/-- The journal set up, by what becomes of the log file. -/
theorem setUpJournal_some (verbose : Bool) (p : Path) (w : World) :
    setUpJournal verbose (some p) w =
      match w.files.append w.cwd (logPlace w.cwd p) [] with
      | .ok files => (.ok (), { w with files, journal := .setUp verbose (some (p.normal w.cwd)) })
      | .error e => (.error e, { w with journal := .setUp verbose none }) := by
  rw [setUpJournal, bind_of_ok (change_apply _ w)]
  -- only the console is left while the log file is opened
  let w₀ : World := { w with journal := .setUp verbose none }
  have hplace : (look fun w => .ok (p.normal w.cwd) : Action FileFault Location) w₀ =
      (.ok (p.normal w.cwd), w₀) := rfl
  dsimp only
  rw [bind_of_ok hplace]
  cases happend : w.files.append w.cwd (logPlace w.cwd p) [] with
  | ok files => exact bind_of_ok (look_of_ok happend) _
  | error e => exact bind_of_error (look_of_error happend) _

/-- A journal that was set up has added nothing but text to a file, and has not moved. -/
theorem textAdded_setUpJournal (h : setUpJournal verbose logFile w = (.ok (), w')) :
    FileTree.TextAdded w.files w'.files ∧ w'.cwd = w.cwd := by
  cases logFile with
  | none =>
    cases h
    exact ⟨.refl _, rfl⟩
  | some p =>
    rw [setUpJournal_some] at h
    split at h
    · rename_i files happend
      cases h
      exact ⟨.of_append (t := []) happend, rfl⟩
    · cases h

/-- A log file with a possible name in a directory with one is not refused because of its name. -/
theorem setUpJournal_ne_nulInName (hcwd : ∀ part ∈ w.cwd, '\x00' ∉ part.toList)
    (hlog : ∀ p, logFile = some p → p.NulFree) :
    setUpJournal verbose logFile w ≠ (.error .nulInName, w') := by
  cases logFile with
  | none => exact fun h => nomatch h
  | some p =>
    rw [setUpJournal_some]
    split
    · exact fun h => nomatch h
    · rename_i e happend
      intro h
      cases h
      exact FileTree.modify_ne_nulInName ((hlog p rfl).absolute_normal hcwd _) _ happend

end Action

/-! ## Runs -/

namespace CommandLine

/-- A run that ends with an exit code: zero, or one behind a message. -/
inductive EndsCleanly : Except Escape Nat × World → Prop
  /-- Nothing was wrong. -/
  | completed (w : World) : EndsCleanly (.ok 0, w)
  /-- What was wrong was written to the console. -/
  | reported {message : String} (h : message ≠ "") (w : World) :
      EndsCleanly (.ok 1, w.printError message)

/-- A message about a fault ends cleanly. -/
theorem endsCleanly_leave (s : String) {t : String} (h : t ≠ "") (w : World) :
    EndsCleanly (leave 1 (s ++ t) w) :=
  .reported (fun hst => h (String.append_eq_empty_iff.1 hst).2) w

/-- A run ends cleanly with a fault of its job exactly when it reports it. -/
theorem endsCleanly_leaveJob_iff {f : JobFault} {w : World} :
    EndsCleanly (leaveJob f w) ↔ f.isReported = true := by
  cases f with
  | usage u => exact iff_of_true (endsCleanly_leave _ (by decide) w) rfl
  | file e =>
    cases e with
    | nulInName => exact iff_of_false (fun h => nomatch h) Bool.false_ne_true
    | _ => exact iff_of_true (endsCleanly_leave _ (by decide) w) rfl
  | parser m => exact iff_of_true (endsCleanly_leave _ (by decide) w) rfl
  | _ => exact iff_of_false (fun h => nomatch h) Bool.false_ne_true

/-- The paths among some options are written without the character that no file name can hold. -/
structure Options.NulFree (o : Options) : Prop where
  /-- The source file. -/
  input : '\x00' ∉ o.input.toList
  /-- Where the page goes. -/
  output : ∀ s, o.output = some s → '\x00' ∉ s.toList
  /-- The settings. -/
  config : ∀ s, o.config = some s → '\x00' ∉ s.toList
  /-- The log file. -/
  logFile : ∀ s, o.logFile = some s → '\x00' ∉ s.toList

section

variable {homes : Homes} {yaml : Yaml.Loader} {parser : Parser} {o : Options} {s : Settings}
  {w : World}

/-- There is a path where the settings of a run are looked for, unless that is the directory of a source
file in a home directory that there is not. -/
theorem settingsPath_eq_ok_or_error {cwd : Location}
    (hhomes : homes.NulFree) (ho : o.NulFree) (hcwd : ∀ part ∈ cwd, '\x00' ∉ part.toList) :
    (∃ path, settingsPath homes cwd o = .ok path ∧ path.NulFree ∧
      (o.config = none → (Path.ofString o.input).HasHome homes)) ∨
    (∃ e, settingsPath homes cwd o = .error e ∧ o.config = none ∧
      ¬ (Path.ofString o.input).HasHome homes) := by
  cases hconfig : o.config with
  | some c =>
    refine .inl ⟨Path.ofString c, ?_, Path.nulFree_ofString (ho.config c hconfig),
      fun hnone => nomatch hnone⟩
    rw [settingsPath, hconfig]
  | none =>
    rw [settingsPath, hconfig, ← Path.exists_expandHome_iff]
    cases hexpanded : (Path.ofString o.input).expandHome homes with
    | error fault => exact .inr ⟨.home fault, rfl, rfl, fun ⟨q, hq⟩ => nomatch hq⟩
    | ok input =>
      have hinput := (Path.nulFree_ofString ho.input).of_expandHome hhomes hexpanded
      refine .inl ⟨(Path.absolute (input.normal cwd)).parent, ?_,
        (hinput.absolute_normal hcwd .root).parent, fun _ => ⟨input, rfl⟩⟩
      simp [bind, Except.bind, FileTree.mapError_ok, Path.hasNul_eq_false_iff.2 hinput]

/-- The log file of a run has a possible name if the one of its settings has. -/
theorem nulFree_logFile? (ho : o.NulFree) (hs : ∀ p, s.logFile = some p → p.NulFree) (p : Path)
    (h : logFile? o s = some p) : p.NulFree := by
  cases hlog : o.logFile with
  | none =>
    rw [logFile?, hlog] at h
    exact hs p h
  | some l =>
    rw [logFile?, hlog] at h
    cases h
    exact Path.nulFree_ofString (ho.logFile l hlog)

/-- The work of a run, by how its journal is set up. -/
theorem work_eq (parser : Parser) (o : Options) (s : Settings) (w : World) :
    work parser o s w =
      match Action.setUpJournal o.verbose (logFile? o s) w with
      | (.ok _, w₁) => (job o s).run parser w₁
      | (.error e, w₁) => (.error (.file e), w₁) := by
  cases hjournal : Action.setUpJournal o.verbose (logFile? o s) w with
  | mk r w₁ =>
    cases r with
    | error e => exact Action.bind_of_error (by rw [Action.adapt, hjournal]; rfl) _
    | ok u => exact Action.bind_of_ok (by rw [Action.adapt, hjournal]; rfl) _

/-- If a run gets to read its source file, that is a text. -/
def SourceLegible (o : Options) (s : Settings) (w : World) : Prop :=
  ∀ w₁ output, Action.setUpJournal o.verbose (logFile? o s) w = (.ok (), w₁) →
    Job.check w₁.files w₁.cwd (job o s) = .ok output → w.files.IsText w.cwd (job o s).input

/-- The source file of a run with a journal is legible exactly when its job does not fail because of it. -/
theorem sourceLegible_iff (parser : Parser) {w₁ : World}
    (hjournal : Action.setUpJournal o.verbose (logFile? o s) w = (.ok (), w₁)) :
    SourceLegible o s w ↔ ¬ ∃ f, ((job o s).run parser w₁).1 = .error (.decoding f) := by
  obtain ⟨htext, hplace⟩ := Action.textAdded_setUpJournal hjournal
  rw [Job.run_eq_decoding_iff, htext.isText_iff]
  constructor
  · rintro h ⟨⟨output, hcheck⟩, hnot⟩
    rw [hplace] at hnot
    exact hnot (h w₁ output hjournal hcheck)
  · intro h w₂ output hjournal' hcheck
    cases hjournal.symm.trans hjournal'
    by_contra hnot
    rw [← hplace] at hnot
    exact h ⟨⟨output, hcheck⟩, hnot⟩

/-- **A run with settings ends cleanly exactly when its source file is legible.** -/
theorem endsCleanly_finish_iff (hparser : parser.WellFormed) (ho : o.NulFree)
    (hcwd : ∀ part ∈ w.cwd, '\x00' ∉ part.toList) (hs : ∀ p, s.logFile = some p → p.NulFree) :
    EndsCleanly (finish parser o s w) ↔ SourceLegible o s w := by
  cases hjournal : Action.setUpJournal o.verbose (logFile? o s) w with
  | mk r w₁ =>
    cases r with
    | error e =>
      have hfinish : finish parser o s w = leaveJob (.file e) w₁ := by
        rw [finish, work_eq, hjournal]
      -- a log file that cannot be opened is reported before anything is read
      have hname : e ≠ .nulInName := fun he =>
        Action.setUpJournal_ne_nulInName hcwd (nulFree_logFile? ho hs) (he ▸ hjournal)
      rw [hfinish, endsCleanly_leaveJob_iff]
      exact iff_of_true (decide_eq_true hname) fun _ _ h => nomatch hjournal.symm.trans h
    | ok u =>
      rw [sourceLegible_iff parser hjournal]
      cases hrun : (job o s).run parser w₁ with
      | mk r w₂ =>
        cases r with
        | ok out =>
          have hfinish : finish parser o s w = (.ok 0, w₂) := by
            simp only [finish, work_eq, hjournal, hrun]
          rw [hfinish]
          exact iff_of_true (.completed w₂) fun ⟨f, hf⟩ => nomatch hf
        | error e =>
          have hfinish : finish parser o s w = leaveJob e w₂ := by
            simp only [finish, work_eq, hjournal, hrun]
          have hinput : (job o s).input.NulFree := Path.nulFree_ofString ho.input
          have hfault := Job.isReported_or_decoding hparser hinput
            (fun p => Job.nulFree_of_resolveOutput hinput ho.output) (congrArg Prod.fst hrun)
          rw [hfinish, endsCleanly_leaveJob_iff]
          rcases hfault with hreported | ⟨f, rfl⟩
          · refine iff_of_true hreported ?_
            rintro ⟨f, hf⟩
            cases hf
            cases hreported
          · exact iff_of_false Bool.false_ne_true fun h => h ⟨f, rfl⟩

/-- A run with options, by its settings. -/
theorem run_eq {argv : List String} {path : Path} (hargv : Options.parse argv = .ok o)
    (hpath : settingsPath homes w.cwd o = .ok path) :
    run homes yaml parser argv w =
      match Settings.load homes yaml w.files w.cwd path with
      | .ok s => finish parser o s w
      | .error f =>
        if f.isOfFile then leave 1 (f.message ++ "\n") w else (.error (.settings f), w) := by
  have hload : (Action.look fun w => .ok (Settings.load homes yaml w.files w.cwd path) :
      Action Escape (Except SettingsFault Settings)) w =
        (.ok (Settings.load homes yaml w.files w.cwd path), w) := rfl
  rw [run, hargv]
  dsimp only
  rw [Action.bind_of_ok (Action.look_of_ok hpath), Action.bind_of_ok hload]
  cases Settings.load homes yaml w.files w.cwd path with
  | ok s => rfl
  | error f =>
    dsimp only
    split <;> rfl

/-- A run with options that does not get to its settings. -/
theorem run_of_error {argv : List String} {e : Escape} (hargv : Options.parse argv = .ok o)
    (hpath : settingsPath homes w.cwd o = .error e) :
    run homes yaml parser argv w = (.error e, w) := by
  rw [run, hargv]
  exact Action.bind_of_error (Action.look_of_error hpath) _

end

/-- The files of a run are legible. -/
structure Legible (homes : Homes) (yaml : Yaml.Loader) (o : Options) (w : World) : Prop where
  /-- If the settings are next to a source file in a home directory, there is one. -/
  hasHome : o.config = none → (Path.ofString o.input).HasHome homes
  /-- The settings are legible. -/
  settings : ∀ path, settingsPath homes w.cwd o = .ok path →
    Settings.Legible homes yaml w.files w.cwd path
  /-- If the run gets to read its source file, that is a text. -/
  source : ∀ path s, settingsPath homes w.cwd o = .ok path →
    Settings.load homes yaml w.files w.cwd path = .ok s → SourceLegible o s w

/-- With a path where its settings are looked for, the files of a run are legible if the settings there
are and, for what they set, the source file. -/
theorem legible_iff {homes : Homes} {yaml : Yaml.Loader} {o : Options} {w : World} {path : Path}
    (hpath : settingsPath homes w.cwd o = .ok path)
    (hhome : o.config = none → (Path.ofString o.input).HasHome homes) :
    Legible homes yaml o w ↔ Settings.Legible homes yaml w.files w.cwd path ∧
      ∀ s, Settings.load homes yaml w.files w.cwd path = .ok s → SourceLegible o s w := by
  constructor
  · exact fun h => ⟨h.settings path hpath, fun s hs => h.source path s hpath hs⟩
  · rintro ⟨hsettings, hsource⟩
    refine ⟨hhome, fun path' hpath' => ?_, fun path' s hpath' hs => ?_⟩
    · cases hpath.symm.trans hpath'
      exact hsettings
    · cases hpath.symm.trans hpath'
      exact hsource s hs

/-- **A run ends cleanly exactly when its files are legible.** For options without impossible names, in a
directory with a possible one and with such home directories, for a loader that refuses texts only as
malformed and a parser that finds well-formed statements:

* `Settings.load` gives settings, or a fault of their file, exactly when the settings are legible: they
  are in no home directory that there is not, no path to them is too long, their file is a text, and what
  it sets can be written.
* Unless the settings name a log file that cannot be, `run` ends with exit code zero, or with exit code
  one behind a message, exactly when there is a home directory if the settings are looked for in one, the
  settings are legible, and the source file is a text, if the run gets to read it. -/
theorem endsCleanly_iff_legible {homes : Homes} {yaml : Yaml.Loader} {parser : Parser}
    (hhomes : homes.NulFree) (hyaml : yaml.SignalsMalformed) (hparser : parser.WellFormed)
    {argv : List String} {o : Options} (hargv : Options.parse argv = .ok o) (ho : o.NulFree)
    {w : World} (hcwd : ∀ part ∈ w.cwd, '\x00' ∉ part.toList) :
    (∀ path : Path, path.NulFree →
      ((∀ f, Settings.load homes yaml w.files w.cwd path = .error f → f.isOfFile = true) ↔
        Settings.Legible homes yaml w.files w.cwd path)) ∧
    ((∀ path s, settingsPath homes w.cwd o = .ok path →
        Settings.load homes yaml w.files w.cwd path = .ok s → ∀ p, s.logFile = some p → p.NulFree) →
      (EndsCleanly (run homes yaml parser argv w) ↔ Legible homes yaml o w)) := by
  have hsettings (path : Path) (hnul : path.NulFree) :=
    Settings.isOfFile_iff_legible hhomes hyaml w.files w.cwd hnul
  refine ⟨hsettings, fun hlog => ?_⟩
  rcases settingsPath_eq_ok_or_error hhomes ho hcwd with
    ⟨path, hpath, hnul, hhome⟩ | ⟨e, hpath, hconfig, hhome⟩
  · rw [legible_iff hpath hhome, ← hsettings path hnul, run_eq hargv hpath]
    cases hload : Settings.load homes yaml w.files w.cwd path with
    | ok s =>
      have hfinish : EndsCleanly (finish parser o s w) ↔ SourceLegible o s w :=
        endsCleanly_finish_iff hparser ho hcwd (hlog path s hpath hload)
      simpa using hfinish
    | error f =>
      -- without settings the source file does not matter
      cases hfile : f.isOfFile with
      | true =>
        refine iff_of_true ?_ (by simp [hfile])
        simpa [hfile] using endsCleanly_leave f.message (by decide) w
      | false =>
        refine iff_of_false ?_ (by simp [hfile])
        simp only [hfile]
        exact fun h => nomatch h
  · rw [run_of_error hargv hpath]
    exact iff_of_false (fun h => nomatch h) fun h => hhome (h.hasHome hconfig)

/-- A world with one file in the working directory. -/
def oneFile (name : String) (bytes : List UInt8) : World where
  files := [([name], .file bytes)]
  cwd := []
  journal := .plain
  stamp := ""
  stdout := ""
  stderr := ""

/-- Ann has a home directory and nobody else has one. -/
def annsHome : Homes := fun user => if user = "ann" then some (Path.absolute ["ann"]) else none

/-- The home directory of Ann has a possible name. -/
theorem nulFree_annsHome : Homes.NulFree annsHome := by
  intro user home h
  obtain ⟨-, hhome⟩ := Option.ite_none_right_eq_some.1 h
  cases hhome
  exact Path.hasNul_eq_false_iff.1 (by decide)

/-- A text that sets one thing. -/
def forceText : String := "force: true\n"

/-- A loader that takes this text for what it says, and any other one to be malformed. -/
def forceOnly : Yaml.Loader := fun text =>
  if text = forceText then .ok (.map [(.text "force", .truth true)]) else .error (.malformed text)

/-- It refuses texts only as malformed. -/
theorem signalsMalformed_forceOnly : Yaml.Loader.SignalsMalformed forceOnly := by
  intro text fault h
  rw [forceOnly] at h
  split at h <;> cases h
  exact ⟨text, rfl⟩

/-- A world with settings in the home directory of Ann and a source file of some bytes. -/
def withSettings (bytes : List UInt8) : World where
  files := [(["ann"], .directory), (["ann", "s.yml"], .file (Text.Utf8.encode forceText.toList)),
    (["a.ts"], .file bytes)]
  cwd := []
  journal := .plain
  stamp := ""
  stdout := ""
  stderr := ""

/-- The settings of Ann. -/
def annsSettings : Settings := ⟨Path.absolute ["ann"], none, some true, [], none⟩

/-- The options of a run with settings in the home directory of Ann. -/
def withAnns : Options := ⟨"a.ts", none, none, false, false, some "~ann/s.yml", none⟩

/-- A run with settings ends cleanly for a source file of two lines, and does not for a byte that starts
no character; one for a source file in a home directory that there is not does not end cleanly either. -/
theorem endsCleanly_iff_legible_annsSettings :
    Settings.load annsHome forceOnly (withSettings [0xC3, 0x89, 13, 10, 66]).files []
        (Path.ofString "~ann/s.yml") = .ok annsSettings ∧
      EndsCleanly (run annsHome forceOnly .typeScript ["-i", "a.ts", "-c", "~ann/s.yml"]
        (withSettings [0xC3, 0x89, 13, 10, 66])) ∧
      ¬ EndsCleanly (run annsHome forceOnly .typeScript ["-i", "a.ts", "-c", "~ann/s.yml"]
        (withSettings [0xFF])) ∧
      ¬ EndsCleanly (run annsHome forceOnly .typeScript ["-i", "~bob/a.ts"] (withSettings [])) := by
  have hanns : Options.parse ["-i", "a.ts", "-c", "~ann/s.yml"] = .ok withAnns := by decide +kernel
  have hnul : withAnns.NulFree := by
    refine ⟨by decide, fun s hs => (nomatch hs), fun s hs => ?_, fun s hs => nomatch hs⟩
    cases hs
    decide
  have hload : Settings.load annsHome forceOnly (withSettings [0xC3, 0x89, 13, 10, 66]).files []
      (Path.ofString "~ann/s.yml") = .ok annsSettings := by decide +kernel
  have hload' : Settings.load annsHome forceOnly (withSettings [0xFF]).files []
      (Path.ofString "~ann/s.yml") = .ok annsSettings := by decide +kernel
  -- with these settings, all depends on the source file
  have hends (bytes : List UInt8) (hload : Settings.load annsHome forceOnly
      (withSettings bytes).files [] (Path.ofString "~ann/s.yml") = .ok annsSettings) :
      EndsCleanly (run annsHome forceOnly .typeScript ["-i", "a.ts", "-c", "~ann/s.yml"]
        (withSettings bytes)) ↔ SourceLegible withAnns annsSettings (withSettings bytes) := by
    obtain ⟨hsettings, hends⟩ := endsCleanly_iff_legible nulFree_annsHome signalsMalformed_forceOnly
      Parser.wellFormed_typeScript hanns hnul (w := withSettings bytes) (fun part hpart => nomatch hpart)
    have hpath : settingsPath annsHome (withSettings bytes).cwd withAnns =
        .ok (Path.ofString "~ann/s.yml") := rfl
    have hlegible : Settings.Legible annsHome forceOnly (withSettings bytes).files []
        (Path.ofString "~ann/s.yml") :=
      (hsettings _ (Path.nulFree_ofString (by decide))).1 fun f hf => nomatch hload.symm.trans hf
    rw [hends, legible_iff hpath fun hnone => nomatch hnone]
    · constructor
      · exact fun h => h.2 annsSettings hload
      · refine fun h => ⟨hlegible, fun s hs => ?_⟩
        cases hload.symm.trans hs
        exact h
    · intro path s hpath' hs p hp
      cases hpath.symm.trans hpath'
      cases hload.symm.trans hs
      cases hp
  refine ⟨hload, (hends _ hload).2 ?_, fun h => ?_, fun h => ?_⟩
  · intro w₁ output _ _ bytes hread
    have htext : (withSettings [0xC3, 0x89, 13, 10, 66]).files.read [] (Path.ofString "a.ts") =
        .ok [0xC3, 0x89, 13, 10, 66] := by decide +kernel
    cases htext.symm.trans hread
    exact ⟨['\u00c9', '\r', '\n', 'B'], by decide +kernel⟩
  · obtain ⟨chars, hchars⟩ := (hends _ hload').1 h _ (some ⟨.none, ["a.md"]⟩) rfl (by decide +kernel)
      [0xFF] (by decide +kernel)
    have herror : Text.Utf8.decode [0xFF] = .error ⟨0, [0xFF], .startByte⟩ := by decide +kernel
    cases herror.symm.trans hchars
  · have hbob : Options.parse ["-i", "~bob/a.ts"] =
        .ok ⟨"~bob/a.ts", none, none, false, false, none, none⟩ := by decide +kernel
    obtain ⟨-, hends⟩ := endsCleanly_iff_legible nulFree_annsHome signalsMalformed_forceOnly
      Parser.wellFormed_typeScript hbob ⟨by decide, fun s hs => (nomatch hs), fun s hs => (nomatch hs), fun s hs => nomatch hs⟩
      (w := withSettings []) (fun part hpart => nomatch hpart)
    have hlegible := (hends fun path s hpath => nomatch hpath).1 h
    obtain ⟨home, hhome⟩ := hlegible.hasHome rfl "bob" (by decide +kernel)
    cases hhome

/-- A source file or a settings file that is no text ends a run with a fault that is not reported, and so
does a home directory that there is not. -/
theorem faults_unreported :
    (run annsHome forceOnly .typeScript ["-i", "a.ts"] (oneFile "a.ts" [0xFF])).1 =
        .error (.job (.decoding ⟨0, [0xFF], .startByte⟩)) ∧
      Settings.load annsHome forceOnly (oneFile ".interface-docs.yml" [0xFF]).files []
        (Path.ofString ".") = .error (.undecodable ⟨0, [0xFF], .startByte⟩) ∧
      (run annsHome forceOnly .typeScript ["-i", "a.ts"] (oneFile ".interface-docs.yml" [0xFF])).1 =
        .error (.settings (.undecodable ⟨0, [0xFF], .startByte⟩)) ∧
      (run annsHome forceOnly .typeScript ["-i", "~bob/a.ts"] (oneFile "a.ts" [])).1 =
        .error (.home ⟨"bob"⟩) ∧
      (run annsHome forceOnly .typeScript ["-i", "a.ts", "-c", "~bob/s.yml"] (oneFile "a.ts" [])).1 =
        .error (.settings (.home ⟨"bob"⟩)) := by
  decide +kernel

end CommandLine

end TypeAtlas
