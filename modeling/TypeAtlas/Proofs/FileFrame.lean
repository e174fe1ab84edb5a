import TypeAtlas.FileTree
import TypeAtlas.Proofs.PathNames

/-! # What writing a file changes

`FileTree.write` and `FileTree.append` change one location, and it was no directory before. A path leads
to a location by the directories on the way (`FileTree.locate`), so it leads there before and after.

* `FileTree.SameDirectories`: two trees with the same directories, in which paths lead to the same
  locations (`FileTree.locate_eq_ok_iff`).
* `FileTree.getLast?_of_locate`: the location that a path leads to ends in the name of the path.
* `FileTree.find?_eq_error`, `FileTree.read_eq_ok_iff`, `FileTree.locate_ne_nulInName`: when looking and
  reading fail.
* `FileTree.Holds`: what stands at a location, up to what a log has added to it.

Main statements: `FileTree.lookup?_write`, `FileTree.lookup?_append`. -/

namespace TypeAtlas

/-- The bytes of a file, none if there is no file. -/
def Entry.contents : Option Entry → List UInt8
  | some (.file bytes) => bytes
  | _ => []

namespace FileTree

variable {files files' : FileTree} {path : String} {place l : Location}

/-! ## Where paths lead -/

/-- Two trees with the same directories. -/
def SameDirectories (files files' : FileTree) : Prop :=
  ∀ l, files.lookup? l = some .directory ↔ files'.lookup? l = some .directory

/-- From what is no directory, no part of a path leads on. -/
theorem walk_of_not_directory (h : files.lookup? place ≠ some .directory) (part : String)
    (rest : List String) : walk files path place (part :: rest) ≠ .ok l := by
  intro hwalk
  unfold walk at hwalk
  split at hwalk
  · rename_i hdirectory
    exact h hdirectory
  · cases hwalk
  · cases hwalk

/-- Parts lead to the same location in trees with the same directories. -/
theorem walk_eq_ok_iff (h : SameDirectories files files') (ps : List String) :
    walk files path place ps = .ok l ↔ walk files' path place ps = .ok l := by
  induction ps generalizing place with
  | nil => rfl
  | cons part rest ih =>
    by_cases hdirectory : files.lookup? place = some .directory
    · have hdirectory' := (h place).1 hdirectory
      rw [walk, walk]
      simp only [hdirectory, hdirectory']
      split
      · rfl
      · exact ih
    · have hdirectory' : files'.lookup? place ≠ some .directory := fun e => hdirectory ((h place).2 e)
      exact iff_of_false (walk_of_not_directory hdirectory part rest)
        (walk_of_not_directory hdirectory' part rest)

/-- Paths lead to the same location in trees with the same directories. -/
theorem locate_eq_ok_iff (h : SameDirectories files files') (cwd : Location) (p : Path) :
    files.locate cwd p = .ok l ↔ files'.locate cwd p = .ok l := by
  rw [locate, locate]
  split
  · rfl
  · split
    · rfl
    · exact walk_eq_ok_iff h p.parts

/-- Where several parts and one more lead: the last one is put behind what the others lead to. -/
theorem walk_concat {ps : List String} {part : String} (hpart : part ≠ "..")
    (h : walk files path place (ps ++ [part]) = .ok l) : ∃ dir, l = dir ++ [part] := by
  induction ps generalizing place with
  | nil =>
    rw [List.nil_append, walk] at h
    split at h
    · split at h
      · cases h
      · exact ⟨place, (Except.ok.inj h).symm⟩
    · cases h
    · cases h
  | cons p ps ih =>
    rw [List.cons_append, walk] at h
    split at h
    · split at h
      · cases h
      · exact ih h
    · cases h
    · cases h

/-- The location that a path leads to ends in the name of the path, if that ends in a text longer than a
double dot. -/
theorem getLast?_of_locate {cwd : Location} {p : Path} {text : List Char}
    (h : files.locate cwd p = .ok l) (hlength : 2 < text.length) (htext : text <:+ p.name.toList) :
    l.getLast? = some p.name := by
  have hlong : 2 < p.name.toList.length := Nat.lt_of_lt_of_le hlength htext.length_le
  have hparts : p.parts ≠ [] := by
    intro hnil
    rw [Path.name, hnil] at hlong
    exact absurd hlong (by decide)
  have hname : p.name ≠ ".." := by
    intro hdots
    rw [hdots] at hlong
    exact absurd hlong (by decide)
  rw [locate] at h
  split at h
  · cases h
  · split at h
    · cases h
    · rw [← Path.dropLast_append_name hparts] at h
      obtain ⟨dir, rfl⟩ := walk_concat hname h
      rw [List.getLast?_concat]

/-! ## Looking and reading -/

section

variable {cwd : Location} {p : Path} {e : FileFault}

/-- What is found stays as it is, whatever a fault would be passed on as. -/
theorem mapError_ok {ε ε' α : Type} (f : ε → ε') (a : α) : (Except.ok a).mapError f = .ok a := rfl

/-- Looking at a path fails only when it is too long. -/
theorem find?_eq_error (h : files.find? cwd p = .error e) : ∃ path, e = .tooLong path := by
  rw [find?] at h
  split at h
  · cases h
  · rename_i path _
    cases h
    exact ⟨path, rfl⟩
  · cases h

/-- Asking whether there is a file fails only when its path is too long. -/
theorem isFile_eq_error (h : files.isFile cwd p = .error e) : ∃ path, e = .tooLong path := by
  cases hfind : files.find? cwd p with
  | error e' =>
    rw [isFile, hfind] at h
    cases h
    exact find?_eq_error hfind
  | ok entry =>
    rw [isFile, hfind] at h
    simp only [bind, Except.bind] at h
    split at h <;> cases h

/-- Asking whether there is anything fails only when its path is too long. -/
theorem exists?_eq_error (h : files.exists? cwd p = .error e) : ∃ path, e = .tooLong path := by
  cases hfind : files.find? cwd p with
  | error e' =>
    rw [exists?, hfind] at h
    cases h
    exact find?_eq_error hfind
  | ok entry =>
    rw [exists?, hfind] at h
    cases h

/-- Where a path leads to nothing, nothing stands. -/
theorem lookup?_of_not_exists (h : files.exists? cwd p = .ok false)
    (hlocate : files.locate cwd p = .ok l) : files.lookup? l = none := by
  simp only [exists?, find?, hlocate, bind, Except.bind, pure, Except.pure] at h
  simpa using h

/-- A file is read where its path leads. -/
theorem read_eq_ok_iff {bytes : List UInt8} :
    files.read cwd p = .ok bytes ↔
      ∃ place, files.locate cwd p = .ok place ∧ files.lookup? place = some (.file bytes) := by
  rw [read]
  split
  · rename_i e hlocate
    exact iff_of_false (fun h => nomatch h) fun ⟨_, h, _⟩ => nomatch hlocate.symm.trans h
  · rename_i place hlocate
    constructor
    · intro h
      split at h
      · rename_i hfile
        cases h
        exact ⟨place, hlocate, hfile⟩
      · cases h
      · cases h
    · rintro ⟨place', hlocate', hfile⟩
      cases hlocate.symm.trans hlocate'
      simp only [hfile]

/-- Walking along some parts does not fail because of a name that no file can have. -/
theorem walk_ne_nulInName (ps : List String) : walk files path place ps ≠ .error .nulInName := by
  induction ps generalizing place with
  | nil => exact fun h => nomatch h
  | cons part rest ih =>
    rw [walk]
    split
    · split
      · exact fun h => nomatch h
      · exact ih
    · exact fun h => nomatch h
    · exact fun h => nomatch h

/-- A path of names that a file can have is not refused because of them. -/
theorem locate_ne_nulInName (h : p.NulFree) : files.locate cwd p ≠ .error .nulInName := by
  rw [locate, if_neg (by rw [Path.hasNul_eq_false_iff.2 h]; decide)]
  split
  · exact fun h => nomatch h
  · exact walk_ne_nulInName p.parts

/-- Reading does not fail because of names that a file can have. -/
theorem read_ne_nulInName (h : p.NulFree) : files.read cwd p ≠ .error .nulInName := by
  rw [read]
  split
  · rename_i e hlocate
    rintro ⟨⟩
    exact locate_ne_nulInName h hlocate
  · split <;> exact fun h => nomatch h

/-- Writing does not fail because of names that a file can have. -/
theorem modify_ne_nulInName (h : p.NulFree) (f : Option (List UInt8) → List UInt8) :
    files.modify cwd p f ≠ .error .nulInName := by
  rw [modify]
  split
  · rename_i e hlocate
    rintro ⟨⟩
    exact locate_ne_nulInName h hlocate
  · split
    · exact fun h => nomatch h
    · exact fun h => nomatch h
    · split <;> exact fun h => nomatch h

end

/-! ## Writing and appending -/

/-- Filing an entry below the root changes what stands there and nothing else. -/
theorem lookup?_insert (hne : place ≠ []) (e : Entry) (files : FileTree) (l : Location) :
    lookup? (Catalogue.insert place e files) l = if l = place then some e else files.lookup? l := by
  by_cases hl : l = place
  · subst hl
    rw [if_pos rfl, lookup?, if_neg (by rwa [List.isEmpty_iff]), Catalogue.find?_insert_self]
  · rw [if_neg hl, lookup?, lookup?, Catalogue.find?_insert_of_ne hl]

/-- What is no directory is not the root. -/
theorem ne_nil_of_lookup? (h : files.lookup? place ≠ some .directory) : place ≠ [] := by
  rintro rfl
  exact h rfl

/-- A changed file is where its path leads, was no directory, and holds what was made of its bytes. -/
theorem modify_eq_ok {cwd : Location} {p : Path} {f : Option (List UInt8) → List UInt8}
    (h : files.modify cwd p f = .ok files') :
    ∃ place, files.locate cwd p = .ok place ∧ files.lookup? place ≠ some .directory ∧
      ∃ old, old.getD [] = Entry.contents (files.lookup? place) ∧
        ∀ l, files'.lookup? l = if l = place then some (.file (f old)) else files.lookup? l := by
  rw [modify] at h
  split at h
  · cases h
  · rename_i place hlocate
    refine ⟨place, hlocate, ?_⟩
    split at h
    · cases h
    · rename_i bytes hfile
      have hne : files.lookup? place ≠ some .directory := by rw [hfile]; simp
      cases h
      exact ⟨hne, some bytes, by rw [hfile]; rfl, lookup?_insert (ne_nil_of_lookup? hne) _ files⟩
    · rename_i hnone
      have hne : files.lookup? place ≠ some .directory := by rw [hnone]; simp
      split at h
      · cases h
        exact ⟨hne, none, by rw [hnone]; rfl, lookup?_insert (ne_nil_of_lookup? hne) _ files⟩
      · cases h

/-- **A written file** is where its path leads, and nothing else changes. -/
theorem lookup?_write {cwd : Location} {p : Path} {bytes : List UInt8}
    (h : files.write cwd p bytes = .ok files') :
    ∃ place, files.locate cwd p = .ok place ∧ files.lookup? place ≠ some .directory ∧
      ∀ l, files'.lookup? l = if l = place then some (.file bytes) else files.lookup? l := by
  obtain ⟨place, hlocate, hfile, _, -, hlookup⟩ := modify_eq_ok h
  exact ⟨place, hlocate, hfile, hlookup⟩

/-- **Added bytes** come behind what was in the file, and nothing else changes. -/
theorem lookup?_append {cwd : Location} {p : Path} {bytes : List UInt8}
    (h : files.append cwd p bytes = .ok files') :
    ∃ place, files.locate cwd p = .ok place ∧ files.lookup? place ≠ some .directory ∧
      ∀ l, files'.lookup? l =
        if l = place then some (.file (Entry.contents (files.lookup? place) ++ bytes))
        else files.lookup? l := by
  obtain ⟨place, hlocate, hfile, old, hold, hlookup⟩ := modify_eq_ok h
  rw [hold] at hlookup
  exact ⟨place, hlocate, hfile, hlookup⟩

/-- A file in place of no directory leaves the directories as they are. -/
theorem sameDirectories_of_lookup? {bytes : List UInt8} (hfile : files.lookup? place ≠ some .directory)
    (h : ∀ l, files'.lookup? l = if l = place then some (.file bytes) else files.lookup? l) :
    SameDirectories files files' := by
  intro l
  rw [h l]
  by_cases hl : l = place
  · subst hl
    simp [hfile]
  · rw [if_neg hl]

/-! ## Up to a log -/

/-- At a location stands `e`, or what a log has made of it if it is the location of the log: a file that
starts with the same bytes. -/
def Holds (files : FileTree) (log? : Option Location) (l : Location) (e : Option Entry) : Prop :=
  files.lookup? l = e ∨
    log? = some l ∧ e ≠ some .directory ∧
      ∃ more, files.lookup? l = some (.file (Entry.contents e ++ more))

/-- What is made of something by a log, and then again, is made of it by the log. -/
theorem Holds.trans {log? : Option Location} {e : Option Entry}
    (h' : files'.Holds log? l (files.lookup? l)) (h : files.Holds log? l e) :
    files'.Holds log? l e := by
  rcases h with rfl | ⟨hlog, hdirectory, more, hmore⟩
  · exact h'
  · right
    refine ⟨hlog, hdirectory, ?_⟩
    rcases h' with hsame | ⟨-, -, more', hmore'⟩
    · exact ⟨more, hsame.trans hmore⟩
    · rw [hmore] at hmore'
      exact ⟨more ++ more', by rw [hmore', Entry.contents, List.append_assoc]⟩

/-- Off the log, there is no difference. -/
theorem Holds.lookup?_eq {log? : Option Location} {e : Option Entry} (h : files.Holds log? l e)
    (hlog : log? ≠ some l) : files.lookup? l = e := by
  rcases h with h | ⟨hsome, -⟩
  · exact h
  · exact absurd hsome hlog

/-- A log makes no directory and takes none away. -/
theorem sameDirectories_of_holds {log? : Option Location}
    (h : ∀ l, files'.Holds log? l (files.lookup? l)) : SameDirectories files files' := by
  intro l
  rcases h l with hsame | ⟨-, hdirectory, more, hmore⟩
  · rw [hsame]
  · rw [hmore]
    simp [hdirectory]

end FileTree

end TypeAtlas
