import TypeAtlas.Settings
import TypeAtlas.Proofs.Encoding
import TypeAtlas.Proofs.Recording

/-! # Files that can be read as text

When the bytes of a file are a text, and when `Settings.load` makes settings of the text of a file. The
loader of such texts may be any one that refuses malformed texts as such and gives a value for all
others (`Yaml.Loader.SignalsMalformed`).

* `FileTree.IsText`: a file that is a text, if it is there.
* `FileTree.TextAdded`: a tree whose files have got some text behind them. A file in it is a text exactly
  when it was one (`FileTree.TextAdded.isText_iff`).
* `Settings.FileLegible`: a settings file that can be looked for, is a text if it is there, and sets
  nothing that cannot be written.
* `Settings.Legible`: the same of a path that may start in a home directory.

Main statement: `Settings.isOfFile_iff_legible`. -/

namespace TypeAtlas

/-! ## Text behind what is there -/

namespace FileTree

variable {files files' files'' : FileTree}

/-- If a path leads to a file, its bytes are a text. -/
def IsText (files : FileTree) (cwd : Location) (p : Path) : Prop :=
  ∀ bytes, files.read cwd p = .ok bytes → ∃ chars, Text.Utf8.decode bytes = .ok chars

/-- What stands in a tree stands in another one, or there is a file with some text behind it. -/
def TextAdded (files files' : FileTree) : Prop :=
  ∀ l, files'.lookup? l = files.lookup? l ∨ files.lookup? l ≠ some .directory ∧
    ∃ t, files'.lookup? l = some (.file (Entry.contents (files.lookup? l) ++ Text.Utf8.encode t))

namespace TextAdded

theorem refl (files : FileTree) : TextAdded files files := fun _ => .inl rfl

theorem trans (h : TextAdded files files') (h' : TextAdded files' files'') :
    TextAdded files files'' := by
  intro l
  rcases h' l with hsame' | ⟨-, t', ht'⟩
  · rw [hsame']
    exact h l
  · rcases h l with hsame | ⟨hne, t, ht⟩
    · exact hsame ▸ h' l
    · -- text behind text is text
      refine .inr ⟨hne, t ++ t', ?_⟩
      rw [ht', ht, Entry.contents, Text.Utf8.encode_append, List.append_assoc]

/-- Added text makes no directory and takes none away. -/
theorem sameDirectories (h : TextAdded files files') : SameDirectories files files' := by
  intro l
  rcases h l with hsame | ⟨hne, t, ht⟩
  · rw [hsame]
  · rw [ht]
    simp [hne]

/-- Text that is added to a file is added to the tree. -/
theorem of_append {cwd : Location} {p : Path} {t : List Char}
    (h : files.append cwd p (Text.Utf8.encode t) = .ok files') : TextAdded files files' := by
  obtain ⟨place, -, hne, hlookup⟩ := lookup?_append h
  intro l
  by_cases hl : l = place
  · subst hl
    exact .inr ⟨hne, t, by rw [hlookup, if_pos rfl]⟩
  · exact .inl (by rw [hlookup, if_neg hl])

/-- A file that is there is still there. -/
theorem exists_read (h : TextAdded files files') {cwd : Location} {p : Path} {old : List UInt8}
    (hread : files.read cwd p = .ok old) : ∃ bytes, files'.read cwd p = .ok bytes := by
  obtain ⟨l, hlocate, hfile⟩ := read_eq_ok_iff.1 hread
  have hafter := (locate_eq_ok_iff h.sameDirectories cwd p).1 hlocate
  rcases h l with hsame | ⟨-, t, ht⟩
  · exact ⟨old, read_eq_ok_iff.2 ⟨l, hafter, hsame.trans hfile⟩⟩
  · exact ⟨_, read_eq_ok_iff.2 ⟨l, hafter, ht⟩⟩

/-- The bytes of a file are a text exactly when they were one before, or were not there. -/
theorem decodes_iff (h : TextAdded files files') {cwd : Location} {p : Path} {bytes : List UInt8}
    (hread : files'.read cwd p = .ok bytes) :
    (∃ chars, Text.Utf8.decode bytes = .ok chars) ↔ files.IsText cwd p := by
  obtain ⟨l, hlocate, hfile⟩ := read_eq_ok_iff.1 hread
  have hbefore := (locate_eq_ok_iff h.sameDirectories cwd p).2 hlocate
  have hold : ∀ old, files.read cwd p = .ok old ↔ files.lookup? l = some (.file old) := by
    intro old
    rw [read_eq_ok_iff]
    constructor
    · rintro ⟨l', hl', hlookup⟩
      cases hbefore.symm.trans hl'
      exact hlookup
    · exact fun hlookup => ⟨l, hbefore, hlookup⟩
  simp only [IsText, hold]
  rcases h l with hsame | ⟨hne, t, ht⟩
  · rw [← hsame, hfile]
    simp
  · rw [hfile, Option.some.injEq, Entry.file.injEq] at ht
    rw [ht, Text.Utf8.decode_append_encode_iff]
    -- what was there is a file or nothing at all
    cases hlookup : files.lookup? l with
    | none => simp [Entry.contents, Text.Utf8.decode, Text.Utf8.decodeFrom]
    | some e =>
      cases e with
      | directory => exact absurd hlookup hne
      | file old => simp [Entry.contents]

/-- **A file is a text exactly when it was one** before text was added to it. -/
theorem isText_iff (h : TextAdded files files') (cwd : Location) (p : Path) :
    files'.IsText cwd p ↔ files.IsText cwd p := by
  constructor
  · intro htext old hread
    obtain ⟨bytes, hbytes⟩ := h.exists_read hread
    exact (h.decodes_iff hbytes).1 (htext bytes hbytes) old hread
  · exact fun htext bytes hread => (h.decodes_iff hread).2 htext

end TextAdded

end FileTree

/-- A record adds text to a file at most. -/
theorem World.textAdded_record (r : Record) (w : World) :
    FileTree.TextAdded w.files (w.record r).files := by
  rw [record]
  split
  · exact .refl _
  · rw [addTo]
    split
    · rename_i happend
      exact .of_append happend
    · exact .refl _

/-! ## Settings files -/

/-- A loader that refuses a text only as malformed. -/
def Yaml.Loader.SignalsMalformed (yaml : Yaml.Loader) : Prop :=
  ∀ text fault, yaml text = .error fault → ∃ wording, fault = .malformed wording

namespace Settings

variable {homes : Homes} {yaml : Yaml.Loader} {files : FileTree} {cwd : Location} {path : Path}

/-- The file in which settings are looked for: the one at a path, or one in the directory there. -/
def file? (files : FileTree) (cwd : Location) (path : Path) : Except FileFault Path :=
  (files.isDirectory cwd path).map fun inside =>
    if inside then path.join (Path.ofString fileName) else path

/-- A text that is blank, or sets no number that is too long to be written. -/
def Writable (yaml : Yaml.Loader) (source : List Char) : Prop :=
  Text.allBlank source = true ∨
    ∀ entries, yaml (String.ofList source) = .ok (.map entries) → hasOverlong entries = false

/-- A settings file that can be looked for, and if it is there is a text with values that can be
written. -/
structure FileLegible (yaml : Yaml.Loader) (files : FileTree) (cwd : Location) (path : Path) :
    Prop where
  /-- No path that is looked at is too long. -/
  fits : ∃ file there, file? files cwd path = .ok file ∧ files.exists? cwd file = .ok there
  /-- It is a text. -/
  isText : ∀ file, file? files cwd path = .ok file → files.IsText cwd file
  /-- What it sets can be written. -/
  writable : ∀ file bytes chars, file? files cwd path = .ok file → files.read cwd file = .ok bytes →
    Text.Utf8.decode bytes = .ok chars → Writable yaml (Text.unifyBreaks chars)

/-- Settings whose file is legible, in a home directory that there is if they are in one. -/
structure Legible (homes : Homes) (yaml : Yaml.Loader) (files : FileTree) (cwd : Location)
    (path : Path) : Prop where
  /-- If the path starts in a home directory, there is one. -/
  hasHome : path.HasHome homes
  /-- The file is legible. -/
  file : ∀ expanded, path.expandHome homes = .ok expanded → FileLegible yaml files cwd expanded

/-- The file in which settings are looked for has a name that a file can have. -/
theorem nulFree_file? {file : Path} (hpath : path.NulFree) (h : file? files cwd path = .ok file) :
    file.NulFree := by
  rw [file?] at h
  cases hinside : files.isDirectory cwd path with
  | error e =>
    rw [hinside] at h
    cases h
  | ok inside =>
    rw [hinside] at h
    cases h
    dsimp only
    split
    · exact hpath.join (Path.nulFree_ofString (by decide))
    · exact hpath

/-- The settings in a home directory that there is not. -/
theorem load_of_noHome {fault : NoHome} (h : path.expandHome homes = .error fault) :
    load homes yaml files cwd path = .error (.home fault) := by
  rw [load, h]
  rfl

/-- The settings at a path, step by step. -/
theorem load_eq {expanded : Path} (hexpanded : path.expandHome homes = .ok expanded)
    (hnul : expanded.NulFree) :
    load homes yaml files cwd path =
      match file? files cwd expanded with
      | .error e => .error (.place e)
      | .ok file =>
        match files.exists? cwd file with
        | .error e => .error (.place e)
        | .ok false => .ok (none (Path.absolute (file.parent.normal cwd)))
        | .ok true =>
          match files.read cwd file with
          | .error e => .error (.unreadable file.text e)
          | .ok bytes =>
            match Text.Utf8.decode bytes with
            | .error e => .error (.undecodable e)
            | .ok chars =>
              parse yaml (Path.absolute (file.parent.normal cwd)) file.name
                (Text.unifyBreaks chars) := by
  rw [load, hexpanded]
  simp only [FileTree.mapError_ok, bind, Except.bind]
  cases hinside : files.isDirectory cwd expanded with
  | error e =>
    rw [file?, hinside]
    rfl
  | ok inside =>
    have hfile : file? files cwd expanded =
        .ok (if inside then expanded.join (Path.ofString fileName) else expanded) := by
      rw [file?, hinside]
      rfl
    have hparent := Path.hasNul_eq_false_iff.2 (nulFree_file? hnul hfile).parent
    rw [hfile]
    simp only [FileTree.mapError_ok]
    generalize (if inside then expanded.join (Path.ofString fileName) else expanded) = file
      at hparent ⊢
    rw [if_neg (by rw [hparent]; decide)]
    cases files.exists? cwd file with
    | error e => rfl
    | ok there =>
      cases there with
      | false => rfl
      | true =>
        cases files.read cwd file with
        | error e => rfl
        | ok bytes =>
          simp only [FileTree.mapError_ok, Bool.not_true, Bool.false_eq_true, if_false]
          cases Text.Utf8.decode bytes <;> rfl

/-- The text of a settings file gives settings, or a fault of the file, exactly when what it sets can be
written. -/
theorem isOfFile_of_parse_iff (hyaml : yaml.SignalsMalformed) (root : Path) (name : String)
    (source : List Char) :
    (∀ f, parse yaml root name source = .error f → f.isOfFile = true) ↔ Writable yaml source := by
  rw [Writable, parse]
  by_cases hblank : Text.allBlank source = true
  · simp [hblank]
  · rw [if_neg hblank, or_iff_right hblank]
    cases hload : yaml (String.ofList source) with
    | error e =>
      obtain ⟨wording, rfl⟩ := hyaml _ e hload
      simp [SettingsFault.isOfFile]
    | ok v =>
      cases v with
      | map entries =>
        cases hoverlong : hasOverlong entries <;> simp [hoverlong, SettingsFault.isOfFile]
      | null => simp
      -- anything else is not a mapping
      | _ => simp [SettingsFault.isOfFile]

/-- A settings file that was looked for is legible if it is a text with values that can be written. -/
theorem fileLegible_iff {file : Path} {there : Bool} (hfile : file? files cwd path = .ok file)
    (hthere : files.exists? cwd file = .ok there) :
    FileLegible yaml files cwd path ↔ ∀ bytes, files.read cwd file = .ok bytes →
      ∃ chars, Text.Utf8.decode bytes = .ok chars ∧ Writable yaml (Text.unifyBreaks chars) := by
  constructor
  · intro h bytes hread
    obtain ⟨chars, hchars⟩ := h.isText file hfile bytes hread
    exact ⟨chars, hchars, h.writable file bytes chars hfile hread hchars⟩
  · refine fun h => ⟨⟨file, there, hfile, hthere⟩, fun file' hfile' bytes hread => ?_,
      fun file' bytes chars hfile' hread hchars => ?_⟩
    · cases hfile.symm.trans hfile'
      obtain ⟨chars, hchars, -⟩ := h bytes hread
      exact ⟨chars, hchars⟩
    · cases hfile.symm.trans hfile'
      obtain ⟨chars', hchars', hwritable⟩ := h bytes hread
      cases hchars.symm.trans hchars'
      exact hwritable

/-- Settings at a path that can be written out fail as settings exactly when the file there is legible. -/
theorem isOfFile_iff_fileLegible (hyaml : yaml.SignalsMalformed) (files : FileTree) (cwd : Location)
    {expanded : Path} (hexpanded : path.expandHome homes = .ok expanded) (hnul : expanded.NulFree) :
    (∀ f, load homes yaml files cwd path = .error f → f.isOfFile = true) ↔
      FileLegible yaml files cwd expanded := by
  rw [load_eq hexpanded hnul]
  cases hfile : file? files cwd expanded with
  | error e =>
    refine iff_of_false (fun h => ?_) fun h => ?_
    · exact absurd (h _ rfl) (by simp [SettingsFault.isOfFile])
    · obtain ⟨file, -, hfile', -⟩ := h.fits
      cases hfile.symm.trans hfile'
  | ok file =>
    dsimp only
    cases hthere : files.exists? cwd file with
    | error e =>
      refine iff_of_false (fun h => ?_) fun h => ?_
      · exact absurd (h _ rfl) (by simp [SettingsFault.isOfFile])
      · obtain ⟨file', there, hfile', hthere'⟩ := h.fits
        cases hfile.symm.trans hfile'
        cases hthere.symm.trans hthere'
    | ok there =>
      rw [fileLegible_iff hfile hthere]
      cases there with
      | false =>
        -- without the file nothing is set, and nothing can be read
        refine iff_of_true (fun f h => nomatch h) fun bytes hread => ?_
        obtain ⟨l, hlocate, hlookup⟩ := FileTree.read_eq_ok_iff.1 hread
        cases (FileTree.lookup?_of_not_exists hthere hlocate).symm.trans hlookup
      | true =>
        dsimp only
        cases hread : files.read cwd file with
        | error e => simp [SettingsFault.isOfFile]
        | ok bytes =>
          dsimp only
          cases hdecode : Text.Utf8.decode bytes with
          | error e => simp [SettingsFault.isOfFile, hdecode]
          | ok chars => simp [isOfFile_of_parse_iff hyaml, hdecode]

/-- **Settings fail as settings exactly when their file is legible.** -/
theorem isOfFile_iff_legible (hhomes : homes.NulFree) (hyaml : yaml.SignalsMalformed)
    (files : FileTree) (cwd : Location) (hpath : path.NulFree) :
    (∀ f, load homes yaml files cwd path = .error f → f.isOfFile = true) ↔
      Legible homes yaml files cwd path := by
  cases hexpanded : path.expandHome homes with
  | error fault =>
    refine iff_of_false (fun h => ?_) fun h => ?_
    · exact absurd (h _ (load_of_noHome hexpanded)) (by simp [SettingsFault.isOfFile])
    · obtain ⟨q, hq⟩ := Path.exists_expandHome_iff.2 h.hasHome
      cases hexpanded.symm.trans hq
  | ok expanded =>
    rw [isOfFile_iff_fileLegible hyaml files cwd hexpanded (hpath.of_expandHome hhomes hexpanded)]
    constructor
    · intro h
      refine ⟨Path.exists_expandHome_iff.1 ⟨expanded, hexpanded⟩, fun q hq => ?_⟩
      cases hexpanded.symm.trans hq
      exact h
    · exact fun h => h.file expanded hexpanded

end Settings

end TypeAtlas
