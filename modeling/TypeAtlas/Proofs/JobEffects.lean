import Mathlib.Data.List.Basic
import TypeAtlas.Proofs.JobCourse

/-! # What a job changes

`Job.run` looks, writes records, and puts its page somewhere at the very end. So a job that fails leaves
everything as it was, and a job that succeeds writes the page to one file or to the output and nothing
else, up to the records in the log file.

* `Job.Prepared`: a job that has its page and has not put it anywhere.
* `Job.Run`: all that a job can do (`Job.run_cases`).
* `Job.check_eq_ok`, `Job.isSuffix_name_of_resolveOutput`: what is known of the file of a page.
* `Job.check_eq_error`: why a job does not pass its check.

Main statement: `Job.all_or_nothing`. -/

namespace TypeAtlas.Job

/-! ## Where the page goes -/

/-- Only a dash stands for the output of the program. -/
theorem resolveOutput_eq_none_iff {input : Path} {output : Option String} :
    resolveOutput input output = .ok none ↔ output = some dash := by
  have hbeside : resolveOutput.beside input ≠ .ok none := by
    rw [resolveOutput.beside]
    split <;> simp
  cases output with
  | none => simpa [resolveOutput] using hbeside
  | some o =>
    rw [resolveOutput]
    by_cases hdash : o = dash
    · simp [hdash]
    · rw [if_neg hdash]
      refine iff_of_false (fun h => ?_) (by simpa using hdash)
      split at h
      · exact hbeside h
      · split at h <;> cases h

/-- The file of a page next to the source file has the suffix of a page. -/
theorem isSuffix_name_of_beside {input p : Path} (h : resolveOutput.beside input = .ok (some p)) :
    ".md".toList <:+ p.name.toList := by
  rw [resolveOutput.beside] at h
  split at h
  · rename_i q hq
    cases h
    rw [Path.name_of_withSuffix hq, String.toList_append]
    exact List.suffix_append _ _
  · cases h

/-- The name of the file of a page ends in the suffix of a page, given or not. -/
theorem isSuffix_name_of_resolveOutput {input p : Path} {output : Option String}
    (h : resolveOutput input output = .ok (some p)) : ".md".toList <:+ p.name.toList := by
  cases output with
  | none => exact isSuffix_name_of_beside h
  | some o =>
    rw [resolveOutput] at h
    split at h
    · cases h
    · split at h
      · exact isSuffix_name_of_beside h
      · split at h
        · rename_i hsuffix
          cases h
          exact Path.isSuffix_name_ofString (by decide) (by decide)
            (List.isSuffixOf_iff_suffix.1 hsuffix)
        · cases h

/-- Without a file for its page, a source file has one next to it. -/
theorem resolveOutput_of_not_given {input : Path} {output : Option String}
    (houtput : output = none ∨ output = some "") (hparts : input.parts ≠ []) :
    ∃ p, input.withSuffix ".md" = .ok p ∧ resolveOutput input output = .ok (some p) := by
  have hsuffix := Path.withSuffix_of_parts hparts ".md"
  refine ⟨_, hsuffix, ?_⟩
  have hbeside : resolveOutput input output = resolveOutput.beside input := by
    rcases houtput with rfl | rfl
    · rfl
    · rw [resolveOutput, if_neg (by decide), if_pos rfl]
  rw [hbeside, resolveOutput.beside, hsuffix]

/-- **Pages next to their sources do not meet:** different source files have different ones. -/
theorem resolveOutput_ne {p q : Path} {output : Option String}
    (houtput : output = none ∨ output = some "") (hp : p.suffix = ".ts") (hq : q.suffix = ".ts")
    (hne : p ≠ q) :
    ∃ p' q', resolveOutput p output = .ok (some p') ∧ resolveOutput q output = .ok (some q') ∧
      p' ≠ q' := by
  obtain ⟨p', hpsuffix, hpoutput⟩ :=
    resolveOutput_of_not_given houtput (Path.parts_ne_nil_of_suffix hp (by decide))
  obtain ⟨q', hqsuffix, hqoutput⟩ :=
    resolveOutput_of_not_given houtput (Path.parts_ne_nil_of_suffix hq (by decide))
  refine ⟨p', q', hpoutput, hqoutput, ?_⟩
  rintro rfl
  exact hne (Path.withSuffix_inj hp hq (by decide) (hpsuffix.trans hqsuffix.symm))

/-! ## What a check tells -/

/-- A source file that passes the check has the suffix of one. -/
theorem suffix_of_checkInput {files : FileTree} {cwd : Location} {input : Path}
    (h : checkInput files cwd input = .ok ()) : input.suffix = ".ts" := by
  by_cases hsuffix : input.suffix = ".ts"
  · exact hsuffix
  · rw [checkInput, if_pos hsuffix] at h
    cases h

/-- A checked job has a source file with the right suffix and a place for its page, which is free unless
the job is forced. -/
theorem check_eq_ok {files : FileTree} {cwd : Location} {job : Job} {output : Option Path}
    (h : check files cwd job = .ok output) :
    job.input.suffix = ".ts" ∧ resolveOutput job.input job.output = .ok output ∧
      ∀ p, output = some p → files.exists? cwd p = .ok false ∨ job.force = true := by
  simp only [check, bind, Except.bind] at h
  split at h
  · cases h
  · split at h
    · cases h
    · rename_i hinput
      have hsuffix := suffix_of_checkInput hinput
      split at h
      · cases h
      · rename_i output' houtput
        cases output' with
        | none =>
          cases h
          exact ⟨hsuffix, houtput, fun p hp => nomatch hp⟩
        | some p =>
          simp only at h
          split at h
          · cases h
          · rename_i there hthere
            split at h
            · cases h
            · rename_i hfree
              cases h
              refine ⟨hsuffix, houtput, fun q hq => ?_⟩
              cases hq
              -- the place was asked for and answered
              cases hexists : files.exists? cwd p with
              | error e =>
                rw [hexists] at hthere
                cases hthere
              | ok b =>
                rw [hexists] at hthere
                cases hthere
                cases there with
                | false => exact .inl rfl
                | true => exact .inr (by simpa using hfree)

/-- A source file does not pass the check by its suffix, because it is not there, or because its path is
too long. -/
theorem checkInput_eq_error {files : FileTree} {cwd : Location} {input : Path} {e : JobFault}
    (h : checkInput files cwd input = .error e) :
    e = .usage .inputSuffix ∨ e = .usage (.inputMissing input.text) ∨
      ∃ path, e = .file (.tooLong path) := by
  by_cases hsuffix : input.suffix = ".ts"
  · rw [checkInput, if_neg (not_not_intro hsuffix)] at h
    cases hthere : files.isFile cwd input with
    | error e' =>
      rw [hthere] at h
      obtain ⟨path, rfl⟩ := FileTree.isFile_eq_error hthere
      cases h
      exact .inr (.inr ⟨path, rfl⟩)
    | ok there =>
      rw [hthere] at h
      cases there with
      | false =>
        cases h
        exact .inr (.inl rfl)
      | true => cases h
  · rw [checkInput, if_pos hsuffix] at h
    cases h
    exact .inl rfl

/-- A source file with a name has a place for its page, unless that was given with another suffix. -/
theorem resolveOutput_eq_error {input : Path} {output : Option String} {e : JobFault}
    (hparts : input.parts ≠ []) (h : resolveOutput input output = .error e) :
    e = .usage .outputSuffix := by
  have hbeside : resolveOutput.beside input ≠ .error e := by
    rw [resolveOutput.beside, Path.withSuffix_of_parts hparts]
    exact fun h => nomatch h
  cases output with
  | none => exact absurd h hbeside
  | some o =>
    rw [resolveOutput] at h
    split at h
    · cases h
    · split at h
      · exact absurd h hbeside
      · split at h
        · cases h
        · cases h
          rfl

/-- A job does not pass its check because of its format, its source file or the file of its page. -/
theorem check_eq_error {files : FileTree} {cwd : Location} {job : Job} {e : JobFault}
    (h : check files cwd job = .error e) :
    (∃ f, Format.parse job.format = .error f ∧ e = .usage (.format f)) ∨
      e ∈ [.usage .inputSuffix, .usage (.inputMissing job.input.text), .usage .outputSuffix,
        .usage .outputExists] ∨
      ∃ path, e = .file (.tooLong path) := by
  simp only [check, bind, Except.bind] at h
  split at h
  · rename_i e' hformat
    cases h
    cases hparse : Format.parse job.format with
    | error f =>
      rw [hparse] at hformat
      cases hformat
      exact .inl ⟨f, rfl, rfl⟩
    | ok format =>
      rw [hparse] at hformat
      cases hformat
  · right
    split at h
    · rename_i hinput
      cases h
      rcases checkInput_eq_error hinput with rfl | rfl | ⟨path, rfl⟩
      · exact .inl (by simp)
      · exact .inl (by simp)
      · exact .inr ⟨path, rfl⟩
    · rename_i hinput
      have hparts := Path.parts_ne_nil_of_suffix (suffix_of_checkInput hinput) (by decide)
      split at h
      · rename_i houtput
        cases h
        exact .inl (by simp [resolveOutput_eq_error hparts houtput])
      · rename_i output houtput
        cases output with
        | none => cases h
        | some p =>
          simp only at h
          cases hthere : files.exists? cwd p with
          | error e' =>
            rw [hthere] at h
            obtain ⟨path, rfl⟩ := FileTree.exists?_eq_error hthere
            cases h
            exact .inr ⟨path, rfl⟩
          | ok there =>
            rw [hthere] at h
            simp only [FileTree.mapError_ok] at h
            split at h
            · cases h
              exact .inl (by simp)
            · cases h

/-! ## From start to end -/

/-- A job that has its page and its messages, and has written nothing but records. -/
structure Prepared (parser : Parser) (job : Job) (w : World) (output : Option Path) (page : String)
    (messages : List String) (w' : World) : Prop where
  /-- The job was checked. -/
  check_eq : check w.files w.cwd job = .ok output
  /-- The page and the messages are those of the source text, read when records had been written. -/
  report_eq : ∃ w₀ text, w.OnlyLogs w₀ ∧ source w₀.files w₀.cwd job = .ok text ∧
    (report parser job text).outcome = .ok page ∧ (report parser job text).messages = messages
  /-- Only records were written. -/
  onlyLogs : w.OnlyLogs w'

/-- All that a job can do. -/
inductive Run (parser : Parser) (job : Job) (w : World) : Except JobFault Outcome × World → Prop
  /-- It fails, and has written nothing but records. -/
  | failed {e : JobFault} {w' : World} (h : w.OnlyLogs w') : Run parser job w (.error e, w')
  /-- It writes its page to the output. -/
  | printed {page : String} {messages : List String} {w₁ w' : World}
      (h : Prepared parser job w none page messages w₁) (h' : (w₁.print page).OnlyLogs w') :
      Run parser job w (.ok ⟨none, page, messages⟩, w')
  /-- It writes its page to a file. -/
  | wrote {p : Path} {page : String} {messages : List String} {w₁ w' : World} {files : FileTree}
      (h : Prepared parser job w (some p) page messages w₁)
      (hwrite : w₁.files.write w₁.cwd p (Text.Utf8.encode page.toList) = .ok files)
      (h' : World.OnlyLogs { w₁ with files } w') :
      Run parser job w (.ok ⟨some p, page, messages⟩, w')

/-- **A job fails, prints or writes**, and around that there are only records. -/
theorem run_cases (parser : Parser) (job : Job) (w : World) :
    Run parser job w (run parser job w) := by
  have hcourse := course_run parser job w
  generalize run parser job w = result at hcourse
  cases hcourse with
  | refused _ => exact .failed (.refl w)
  | unread _ _ => exact .failed (World.onlyLogs_record _ w)
  | undocumented _ _ _ => exact .failed (World.onlyLogs_recordAll _ w)
  | unwritten _ _ _ _ => exact .failed (World.onlyLogs_recordAll _ w)
  | @done output text page w' hcheck hsource hreport hput =>
    have hprepared : Prepared parser job w output page (report parser job text).messages
        (w.recordAll (records parser job text)) :=
      ⟨hcheck, ⟨_, text, World.onlyLogs_record _ w, hsource, hreport, rfl⟩,
        World.onlyLogs_recordAll _ w⟩
    cases output with
    | none =>
      rw [Outcome.put_none] at hput
      cases hput
      exact .printed hprepared (World.onlyLogs_recordAll _ _)
    | some p =>
      obtain ⟨files, hwrite, rfl⟩ := Outcome.exists_files_of_put hput
      exact .wrote hprepared hwrite (World.onlyLogs_recordAll _ _)

/-! ## What is left as it was -/

section

variable {parser : Parser} {job : Job} {w w' : World} {r : Except JobFault Outcome}

/-- A job changes no place but that of its page. -/
theorem Run.holds_or_locate (h : Run parser job w (r, w')) (l : Location) :
    w'.files.Holds w.logFile? l (w.files.lookup? l) ∨
      ∃ p, check w.files w.cwd job = .ok (some p) ∧ w.files.locate w.cwd p = .ok l := by
  cases h with
  | failed h => exact .inl (h.holds l)
  | printed h h' => exact .inl (((h.onlyLogs.print _).trans h').holds l)
  | @wrote p _ _ _ _ _ h hwrite h' =>
    obtain ⟨place, hlocate, -, hother⟩ := h.onlyLogs.holds_of_write hwrite h'
    by_cases hl : l = place
    · exact .inr ⟨p, h.check_eq, hl ▸ hlocate⟩
    · exact .inl (hother l hl)

/-- The file of a page is never a source file: their names end differently. -/
theorem locate_input_ne {files : FileTree} {cwd l m : Location} {p q : Path}
    (hp : ".md".toList <:+ p.name.toList) (hq : q.suffix = ".ts")
    (hl : files.locate cwd p = .ok l) (hm : files.locate cwd q = .ok m) : m ≠ l := by
  have hq' : ".ts".toList <:+ q.name.toList := by
    rw [Path.name_of_suffix hq, String.toList_append]
    exact List.suffix_append _ _
  rintro rfl
  have hlast := FileTree.getLast?_of_locate hl (by decide) hp
  rw [FileTree.getLast?_of_locate hm (by decide) hq', Option.some.injEq] at hlast
  rw [hlast] at hq'
  have hsame : ".ts".toList = ".md".toList :=
    (List.suffix_of_suffix_length_le hq' hp (by decide)).eq_of_length (by decide)
  exact absurd hsame (by decide)

/-- The source file is left as it was. -/
theorem Run.holds_input (h : Run parser job w (r, w')) {l : Location}
    (hl : w.files.locate w.cwd job.input = .ok l) :
    w'.files.Holds w.logFile? l (w.files.lookup? l) := by
  rcases h.holds_or_locate l with hsame | ⟨p, hcheck, hlocate⟩
  · exact hsame
  · obtain ⟨hsuffix, houtput, -⟩ := check_eq_ok hcheck
    exact absurd rfl (locate_input_ne (isSuffix_name_of_resolveOutput houtput) hsuffix hlocate hl)

/-- What is there is left as it was, unless the job is forced. -/
theorem Run.holds_of_not_force (h : Run parser job w (r, w')) (hforce : job.force = false)
    {l : Location} (hl : w.files.lookup? l ≠ none) :
    w'.files.Holds w.logFile? l (w.files.lookup? l) := by
  rcases h.holds_or_locate l with hsame | ⟨p, hcheck, hlocate⟩
  · exact hsame
  · obtain ⟨-, -, hfree⟩ := check_eq_ok hcheck
    rcases hfree p rfl with hfree | hforced
    · exact absurd (FileTree.lookup?_of_not_exists hfree hlocate) hl
    · rw [hforce] at hforced
      cases hforced

end

/-- **A job is all or nothing.** Up to the records that are added to the log file, if there is one:

* A job that fails leaves files and output as they were.
* A job that succeeds and was given a dash adds its page to the output and leaves the files.
* Any other job that succeeds leaves the output, puts its page into one file, with a name that ends as
  that of a page, and leaves all else.
* The source file is left as it was, and so is everything that was there unless the job is forced.
* Different source files have different pages next to them. -/
theorem all_or_nothing (parser : Parser) (job : Job) (w : World) :
    (∀ e, (run parser job w).1 = .error e → w.OnlyLogs (run parser job w).2) ∧
    (∀ out, (run parser job w).1 = .ok out →
      (job.output = some dash ∧ out.output = none ∧
        (w.print out.markdown).OnlyLogs (run parser job w).2) ∨
      (job.output ≠ some dash ∧ (run parser job w).2.stdout = w.stdout ∧
        ∃ p place, out.output = some p ∧ ".md".toList <:+ p.name.toList ∧
          w.files.locate w.cwd p = .ok place ∧
          (run parser job w).2.files.Holds w.logFile? place
            (some (.file (Text.Utf8.encode out.markdown.toList))) ∧
          ∀ l, l ≠ place → (run parser job w).2.files.Holds w.logFile? l (w.files.lookup? l))) ∧
    (∀ l, w.files.locate w.cwd job.input = .ok l →
      (run parser job w).2.files.Holds w.logFile? l (w.files.lookup? l)) ∧
    (job.force = false → ∀ l, w.files.lookup? l ≠ none →
      (run parser job w).2.files.Holds w.logFile? l (w.files.lookup? l)) ∧
    (∀ (p q : Path) (output : Option String), output = none ∨ output = some "" →
      p.suffix = ".ts" → q.suffix = ".ts" → p ≠ q →
      ∃ p' q', resolveOutput p output = .ok (some p') ∧ resolveOutput q output = .ok (some q') ∧
        p' ≠ q') := by
  have hrun := run_cases parser job w
  generalize run parser job w = result at hrun
  obtain ⟨r, w'⟩ := result
  refine ⟨?_, ?_, fun l => hrun.holds_input, fun hforce l => hrun.holds_of_not_force hforce,
    fun p q output houtput hp hq => resolveOutput_ne houtput hp hq⟩
  · rintro e rfl
    cases hrun with
    | failed h => exact h
  · rintro out rfl
    cases hrun with
    | printed h h' =>
      obtain ⟨-, houtput, -⟩ := check_eq_ok h.check_eq
      exact .inl ⟨resolveOutput_eq_none_iff.1 houtput, rfl, (h.onlyLogs.print _).trans h'⟩
    | @wrote p _ _ _ _ _ h hwrite h' =>
      obtain ⟨-, houtput, -⟩ := check_eq_ok h.check_eq
      obtain ⟨place, hlocate, hpage, hother⟩ := h.onlyLogs.holds_of_write hwrite h'
      refine .inr ⟨fun hdash => ?_, h'.stdout_eq.trans h.onlyLogs.stdout_eq, p, place, rfl,
        isSuffix_name_of_resolveOutput houtput, hlocate, hpage, hother⟩
      rw [resolveOutput_eq_none_iff.2 hdash] at houtput
      cases houtput

/-- The parser that takes each line of a source text for the name of an exported alias of `X`. -/
def lineAliases : Parser := fun source =>
  .done ((Text.lines source).map fun l => .typeAlias (String.ofList l) true (.named "X") none)

/-- A source file of two lines, the first one a letter of two bytes and a line break of two characters; a
page next to it; and an empty log file at a given place. -/
def sourceAndPage (log : Location) : World where
  files := Catalogue.insert log (.file [])
    [(["a.ts"], .file [0xC3, 0x89, 13, 10, 66]), (["a.md"], .file [35])]
  cwd := []
  journal := .setUp false (some log)
  stamp := ""
  stdout := ""
  stderr := ""

/-- A job for the source file there. -/
def ofSource (output : Option String) (force : Bool) : Job where
  input := ⟨.none, ["a.ts"]⟩
  output := output
  format := "table"
  force := force
  inlineTypes := []

/-- The page of the source file there. -/
def aliasesPage : String := "\n## \u00c9\nType: X\n\n## B\nType: X\n"

/-- What is said about the source file there. -/
def aliasesMessages : List String :=
  ["Could not resolve type link for \u00c9: X", "Could not resolve type link for B: X"]

/-- With a log file, a job without a directory for its page leaves the page that is there, and a forced
one replaces it. -/
theorem all_or_nothing_replacedPage :
    ((run lineAliases (ofSource (some "no/a.md") false) (sourceAndPage ["x.log"])).1 =
        .error (.file (.missing "no/a.md")) ∧
      (sourceAndPage ["x.log"]).OnlyLogs
        (run lineAliases (ofSource (some "no/a.md") false) (sourceAndPage ["x.log"])).2) ∧
    ((run lineAliases (ofSource none true) (sourceAndPage ["x.log"])).1 =
        .ok ⟨some ⟨.none, ["a.md"]⟩, aliasesPage, aliasesMessages⟩ ∧
      (run lineAliases (ofSource none true) (sourceAndPage ["x.log"])).2.stdout = "" ∧
      (run lineAliases (ofSource none true) (sourceAndPage ["x.log"])).2.files.lookup? ["a.ts"] =
        some (.file [0xC3, 0x89, 13, 10, 66]) ∧
      (run lineAliases (ofSource none true) (sourceAndPage ["x.log"])).2.files.lookup? ["a.md"] =
        some (.file (Text.Utf8.encode aliasesPage.toList))) ∧
    ((sourceAndPage ["x.log"]).files.lookup? ["a.md"] ≠ none ∧
      (run lineAliases (ofSource (some "no/a.md") false) (sourceAndPage ["x.log"])).2.files.lookup?
        ["a.md"] = some (.file [35])) ∧
    (∃ p' q', resolveOutput ⟨.none, ["a.ts"]⟩ none = .ok (some p') ∧
      resolveOutput ⟨.none, ["b.ts"]⟩ none = .ok (some q') ∧ p' ≠ q') := by
  obtain ⟨hfailed, -, -, hkept, hpages⟩ :=
    all_or_nothing lineAliases (ofSource (some "no/a.md") false) (sourceAndPage ["x.log"])
  obtain ⟨-, hdone, hinput, -, -⟩ :=
    all_or_nothing lineAliases (ofSource none true) (sourceAndPage ["x.log"])
  have herror : (run lineAliases (ofSource (some "no/a.md") false) (sourceAndPage ["x.log"])).1 =
      .error (.file (.missing "no/a.md")) := by decide +kernel
  have hok : (run lineAliases (ofSource none true) (sourceAndPage ["x.log"])).1 =
      .ok ⟨some ⟨.none, ["a.md"]⟩, aliasesPage, aliasesMessages⟩ := by decide +kernel
  have hlog : (sourceAndPage ["x.log"]).logFile? = some ["x.log"] := by decide +kernel
  have hsource := (hinput ["a.ts"] (by decide +kernel)).lookup?_eq (by decide +kernel)
  have hold := (hkept rfl ["a.md"] (by decide +kernel)).lookup?_eq (by decide +kernel)
  rcases hdone _ hok with ⟨hdash, -⟩ | ⟨-, hstdout, p, place, hp, -, hplace, hnew, -⟩
  · cases hdash
  · cases hp
    have hlocate : (sourceAndPage ["x.log"]).files.locate [] ⟨.none, ["a.md"]⟩ = .ok ["a.md"] := by
      decide +kernel
    cases hlocate.symm.trans hplace
    have hpage := hnew.lookup?_eq (by rw [hlog]; decide)
    exact ⟨⟨herror, hfailed _ herror⟩, ⟨hok, hstdout, hsource, hpage⟩, ⟨by decide +kernel, hold⟩,
      hpages _ _ none (.inl rfl) (by decide +kernel) (by decide +kernel) (by decide)⟩

/-- The log file is not left as it was: a job that fails adds its records to it, and so does a job that
reads it as its source file. -/
theorem log_file_grows :
    ((run (.fixed []) (ofSource (some "no/a.md") false) (sourceAndPage ["x.log"])).1 =
        .error (.file (.missing "no/a.md")) ∧
      (run (.fixed []) (ofSource (some "no/a.md") false) (sourceAndPage ["x.log"])).2.files.lookup?
        ["x.log"] ≠ (sourceAndPage ["x.log"]).files.lookup? ["x.log"]) ∧
    ((sourceAndPage ["a.ts"]).files.locate [] (ofSource (some dash) false).input = .ok ["a.ts"] ∧
      (run (.fixed []) (ofSource (some dash) false) (sourceAndPage ["a.ts"])).2.files.lookup?
        ["a.ts"] ≠ (sourceAndPage ["a.ts"]).files.lookup? ["a.ts"]) := by
  decide +kernel

end TypeAtlas.Job
