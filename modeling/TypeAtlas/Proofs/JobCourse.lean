import TypeAtlas.Job
import TypeAtlas.Proofs.Recording

/-! # The course of a job

All ways in which `Job.run` can go, with what each of them gives and leaves behind. Whatever is to be
known of jobs follows from these, without a look at the steps again.

* `Job.records`: the records of a job up to its page; `Job.endRecords`: those behind it.
* `Outcome.put`: a page put where it belongs.
* `Job.Course`: the ways in which a job can go.
* `Job.source_eq_ok_iff`: the source text by the bytes of the source file, which records leave as they
  are if they do not go there (`Job.read_of_onlyLogs`).

Main statement: `Job.course_run`. -/

namespace TypeAtlas

/-- A page put where it belongs: printed, or written to its file. -/
def Outcome.put (out : Outcome) (w : World) : Except FileFault World :=
  match out.output with
  | none => .ok (w.print out.markdown)
  | some p =>
    (w.files.write w.cwd p (Text.Utf8.encode out.markdown.toList)).map fun files => { w with files }

/-- A page without a file is printed. -/
theorem Outcome.put_none (page : String) (messages : List String) (w : World) :
    put ⟨none, page, messages⟩ w = .ok (w.print page) := rfl

/-- A page with a file is written to it. -/
theorem Outcome.put_some (p : Path) (page : String) (messages : List String) (w : World) :
    put ⟨some p, page, messages⟩ w =
      (w.files.write w.cwd p (Text.Utf8.encode page.toList)).map fun files => { w with files } := rfl

/-- A page that was put into a file was written there, and nothing else was done. -/
theorem Outcome.exists_files_of_put {p : Path} {page : String} {messages : List String}
    {w w' : World} (h : put ⟨some p, page, messages⟩ w = .ok w') :
    ∃ files, w.files.write w.cwd p (Text.Utf8.encode page.toList) = .ok files ∧
      w' = { w with files } := by
  rw [put_some] at h
  cases hwrite : w.files.write w.cwd p (Text.Utf8.encode page.toList) with
  | error e =>
    rw [hwrite] at h
    cases h
  | ok files =>
    rw [hwrite] at h
    exact ⟨files, rfl, (Except.ok.inj h).symm⟩

namespace Job

/-- The record with which a job starts. -/
def startRecord (job : Job) : Record := progress .info ("Reading file " ++ job.input.text)

/-- The records of a job that reads a source text, until it has its page or fails to. -/
def records (parser : Parser) (job : Job) (text : List Char) : List Record :=
  job.startRecord :: (report parser job text).events.map Event.record

/-- The records of a job that has put its page somewhere. -/
def endRecords (out : Outcome) : List Record :=
  (out.output.map fun p => progress .info ("Wrote documentation to " ++ p.text)).toList ++
    [progress .debug ("Emitted " ++ toString out.diagnostics.length ++ " diagnostics")]

/-- The ways in which a job can go. -/
inductive Course (parser : Parser) (job : Job) (w : World) :
    Except JobFault Outcome × World → Prop
  /-- It does not pass its check. -/
  | refused {e : JobFault} (hcheck : check w.files w.cwd job = .error e) :
      Course parser job w (.error e, w)
  /-- Its source file cannot be read. -/
  | unread {output : Option Path} {e : JobFault} (hcheck : check w.files w.cwd job = .ok output)
      (hsource : source (w.record job.startRecord).files (w.record job.startRecord).cwd job =
        .error e) :
      Course parser job w (.error e, w.record job.startRecord)
  /-- There is no page of its source text. -/
  | undocumented {output : Option Path} {text : List Char} {e : JobFault}
      (hcheck : check w.files w.cwd job = .ok output)
      (hsource : source (w.record job.startRecord).files (w.record job.startRecord).cwd job =
        .ok text)
      (hreport : (report parser job text).outcome = .error e) :
      Course parser job w (.error e, w.recordAll (records parser job text))
  /-- Its page cannot be written. -/
  | unwritten {output : Option Path} {text : List Char} {page : String} {e : FileFault}
      (hcheck : check w.files w.cwd job = .ok output)
      (hsource : source (w.record job.startRecord).files (w.record job.startRecord).cwd job =
        .ok text)
      (hreport : (report parser job text).outcome = .ok page)
      (hput : Outcome.put ⟨output, page, (report parser job text).messages⟩
        (w.recordAll (records parser job text)) = .error e) :
      Course parser job w (.error (.file e), w.recordAll (records parser job text))
  /-- It succeeds. -/
  | done {output : Option Path} {text : List Char} {page : String} {w' : World}
      (hcheck : check w.files w.cwd job = .ok output)
      (hsource : source (w.record job.startRecord).files (w.record job.startRecord).cwd job =
        .ok text)
      (hreport : (report parser job text).outcome = .ok page)
      (hput : Outcome.put ⟨output, page, (report parser job text).messages⟩
        (w.recordAll (records parser job text)) = .ok w') :
      Course parser job w (.ok ⟨output, page, (report parser job text).messages⟩,
        w'.recordAll (endRecords ⟨output, page, (report parser job text).messages⟩))

/-- A page written to a file, by what becomes of the files. -/
theorem adapt_writeFile_apply (p : Path) (page : String) (w : World) :
    ((Action.writeFile p page).adapt JobFault.file) w =
      match w.files.write w.cwd p (Text.Utf8.encode page.toList) with
      | .ok files => (.ok (), { w with files })
      | .error e => (.error (.file e), w) := by
  simp only [Action.adapt, Action.writeFile]
  cases w.files.write w.cwd p (Text.Utf8.encode page.toList) <;> rfl

/-- **A job goes one of these ways.** -/
theorem course_run (parser : Parser) (job : Job) (w : World) :
    Course parser job w (run parser job w) := by
  rw [run]
  cases hcheck : check w.files w.cwd job with
  | error e =>
    rw [Action.bind_of_error (by rw [Action.look_apply, hcheck])]
    exact .refused hcheck
  | ok output =>
    rw [Action.bind_of_ok (by rw [Action.look_apply, hcheck]),
      Action.bind_of_ok (Action.record_apply _ w), ← startRecord]
    cases hsource : source (w.record job.startRecord).files (w.record job.startRecord).cwd job with
    | error e =>
      rw [Action.bind_of_error (by rw [Action.look_apply, hsource])]
      exact .unread hcheck hsource
    | ok text =>
      rw [Action.bind_of_ok (by rw [Action.look_apply, hsource])]
      -- telling the report is recording its events
      have hworld : (report parser job text).events.foldl (fun w e => w.record e.record)
          (w.record job.startRecord) = w.recordAll (records parser job text) := by
        rw [World.recordAll, records, List.foldl_cons, List.foldl_map]
      cases hreport : (report parser job text).outcome with
      | error e =>
        rw [Action.bind_of_error (by rw [Action.tell_apply, hreport, hworld])]
        exact .undocumented hcheck hsource hreport
      | ok page =>
        rw [Action.bind_of_ok (by rw [Action.tell_apply, hreport, hworld])]
        cases output with
        | none => exact .done hcheck hsource hreport (Outcome.put_none ..)
        | some p =>
          cases hwrite : (w.recordAll (records parser job text)).files.write
              (w.recordAll (records parser job text)).cwd p (Text.Utf8.encode page.toList) with
          | error e =>
            simp only
            rw [Action.bind_of_error (by rw [adapt_writeFile_apply, hwrite])]
            exact .unwritten hcheck hsource hreport (by rw [Outcome.put_some, hwrite]; rfl)
          | ok files =>
            simp only
            rw [Action.bind_of_ok (by rw [adapt_writeFile_apply, hwrite])]
            exact .done hcheck hsource hreport (by rw [Outcome.put_some, hwrite]; rfl)

/-! ## What is read -/

/-- The source text of a job, by the bytes of its source file. -/
theorem source_eq (files : FileTree) (cwd : Location) (job : Job) :
    source files cwd job =
      match files.read cwd job.input with
      | .error e => .error (.file e)
      | .ok bytes =>
        match Text.Utf8.decode bytes with
        | .error e => .error (.decoding e)
        | .ok chars => .ok (Text.unifyBreaks chars) := by
  rw [source]
  cases files.read cwd job.input with
  | error e => rfl
  | ok bytes =>
    simp only [FileTree.mapError_ok, bind, Except.bind]
    cases Text.Utf8.decode bytes <;> rfl

end Job

end TypeAtlas
