import Mathlib.Data.List.Basic
import TypeAtlas.Page

/-! # The lines of an object

`Page.object` shows each property on a line of its own, below its documentation as comment lines.

* `Page.docLines`: the documentation lines of a property.
* `Page.memberLine`: the line of the property itself.
* `Page.Documented`: lines that show properties in this way.
* `Page.SingleLine`: a text without line feeds, or none.

A description is cut into its lines before they become comment lines, and may hold line feeds. A default
and an example are not: behind a line feed in one of them the comment is over (`lines_objectLines`). Main
statement: `Page.documented_iff_singleLine`. -/

namespace TypeAtlas

/-! ## Lines -/

namespace Text

/-- A text without line feeds in front of another one stands on its first line. -/
theorem lines_append_of_notMem {u : List Char} (h : '\n' ∉ u) (s : List Char) :
    lines (u ++ s) = (lines s).modifyHead (u ++ ·) := by
  induction u with
  | nil =>
    rw [List.nil_append]
    exact (congrFun List.modifyHead_id (lines s)).symm
  | cons c u ih =>
    rw [List.mem_cons, not_or] at h
    have hu := ih h.2
    simp only [lines, splitAt, List.modifyHead_cons] at hu
    obtain ⟨hfirst, hothers⟩ := List.cons.inj hu
    have hc : c ≠ '\n' := Ne.symm h.1
    rw [List.cons_append, lines, splitAt, cut]
    simp only [hc, if_false, hfirst, hothers]
    rfl

/-- The lines of texts that are ended by line feeds are the lines of each of them, and an empty one. -/
theorem lines_ended (ss : List (List Char)) :
    lines (ss.flatMap (· ++ ['\n'])) = ss.flatMap lines ++ [[]] := by
  induction ss with
  | nil => rfl
  | cons s ss ih =>
    rw [List.flatMap_cons, List.flatMap_cons, List.append_assoc, List.singleton_append,
      lines_append_cons, ih, List.append_assoc]

/-- A text has no line but the first exactly when it has no line feed. -/
theorem tail_lines_eq_nil_iff {s : List Char} : (lines s).tail = [] ↔ '\n' ∉ s := by
  constructor
  · intro h hmem
    obtain ⟨a, b, rfl⟩ := List.append_of_mem hmem
    rw [lines_append_cons, lines, splitAt, List.cons_append, List.tail_cons] at h
    exact absurd (List.append_eq_nil_iff.1 h).2 (by simp [lines, splitAt])
  · intro h
    rw [lines, splitAt_of_notMem h]
    rfl

end Text

/-- Putting a text before the first of some texts and putting it before all of them is the same only when
there is no second one. -/
theorem modifyHead_eq_map_iff {u : List Char} (hu : u ≠ []) {ls : List (List Char)} :
    ls.modifyHead (u ++ ·) = ls.map (u ++ ·) ↔ ls.tail = [] := by
  cases ls with
  | nil => simp
  | cons l ls =>
    cases ls with
    | nil => simp
    | cons l' ls =>
      refine iff_of_false ?_ (by simp)
      intro h
      simp only [List.modifyHead_cons, List.map_cons, List.cons.injEq, List.self_eq_append_left] at h
      exact hu h.2.1

/-- Lists that are made piece by piece, with pieces of the same lengths, are the same exactly when the
pieces are. -/
theorem flatMap_eq_flatMap_iff {α β : Type} {f g : α → List β} {xs : List α}
    (h : ∀ x ∈ xs, (f x).length = (g x).length) :
    xs.flatMap f = xs.flatMap g ↔ ∀ x ∈ xs, f x = g x := by
  induction xs with
  | nil => simp
  | cons x xs ih =>
    obtain ⟨hx, hxs⟩ := List.forall_mem_cons.1 h
    rw [List.flatMap_cons, List.flatMap_cons, List.forall_mem_cons, ← ih hxs]
    exact ⟨fun e => List.append_inj e hx, fun e => by rw [e.1, e.2]⟩

namespace Page

open Text

/-! ## What an object is to look like -/

/-- What starts a comment line. -/
def commentMark : List Char := [' ', ' ', '/', '/', ' ']

/-- What starts the line of a property. -/
def memberMark : List Char := [' ', ' ', '<', 's', 't', 'r', 'o', 'n', 'g', '>']

/-- The line of a property itself. -/
def memberLine (p : Property LinkedShape) : String :=
  "  <strong>" ++ p.name ++ "</strong>" ++ (if p.optional then "?" else "") ++ ": " ++ p.shape.html ++ ","

/-- A property is shown by its documentation and then by its own line. -/
theorem objectLines_eq (p : Property LinkedShape) :
    objectLines p = ((given p.description).map commentLines).getD [] ++
      ((given p.defaultText).map fun s => "  // Defaults to: " ++ s).toList ++
      ((given p.exampleText).map fun s => "  // Example: " ++ s).toList ++ [memberLine p] := rfl

/-- The lines of a text behind a label, none if there is no text. -/
def labelledLines (label : String) (text : Option String) : List (List Char) :=
  ((given text).map fun s => lines (label ++ s).toList).getD []

/-- The documentation lines of a property: description, default, example. -/
def docLines (p : Property LinkedShape) : List (List Char) :=
  labelledLines "" p.description ++ labelledLines "Defaults to: " p.defaultText ++
    labelledLines "Example: " p.exampleText

/-- Lines that show properties, each below its documentation. -/
structure Documented (ps : List (Property LinkedShape)) (body : List (List Char)) : Prop where
  /-- Every line is a comment line or the line of a property. -/
  marked : ∀ l ∈ body, commentMark <+: l ∨ memberMark <+: l
  /-- There is one line for each property, in order. -/
  members : body.filter (memberMark.isPrefixOf ·) = ps.map fun p => (memberLine p).toList
  /-- The comment lines before it are the documentation lines of the property. -/
  documented : body = ps.flatMap fun p => (docLines p).map (commentMark ++ ·) ++ [(memberLine p).toList]

/-- A text is one line, or there is none. -/
def SingleLine (text : Option String) : Prop := ∀ s, text = some s → '\n' ∉ s.toList

/-- Whether a text is one line can be computed. -/
instance (text : Option String) : Decidable (SingleLine text) :=
  match text with
  | none => isTrue fun _ h => nomatch h
  | some s => decidable_of_iff ('\n' ∉ s.toList) (by simp [SingleLine])

/-! ## What it looks like -/

/-- The lines of a comment line with a label: what stands behind a line feed is no comment. -/
def spilledLines (label : String) (text : Option String) : List (List Char) :=
  (labelledLines label text).modifyHead (commentMark ++ ·)

/-- A labelled text makes comment lines exactly when it is one line. -/
theorem spilledLines_eq_iff (label : String) (hlabel : '\n' ∉ label.toList) (text : Option String) :
    spilledLines label text = (labelledLines label text).map (commentMark ++ ·) ↔ SingleLine text := by
  rw [spilledLines, modifyHead_eq_map_iff (by decide)]
  cases text with
  | none => simp [labelledLines, given, SingleLine]
  | some s =>
    by_cases hs : s = ""
    · subst hs
      exact iff_of_true rfl (by simp [SingleLine])
    · have hgiven : given (some s) = some s := by simp [given, hs]
      rw [labelledLines, hgiven, Option.map_some, Option.getD_some, tail_lines_eq_nil_iff]
      simp [SingleLine, hlabel]

/-- A labelled text, put behind the mark of a comment as it is, spills over. -/
theorem lines_labelled (label : String) (text : Option String) :
    ((given text).map fun s => "  // " ++ label ++ s).toList.flatMap (fun l => lines l.toList) =
      spilledLines label text := by
  rw [spilledLines, labelledLines]
  cases given text with
  | none => rfl
  | some s =>
    have hmark : ("  // " ++ label ++ s).toList = commentMark ++ (label ++ s).toList := by
      simp [commentMark]
    simp only [Option.map_some, Option.toList_some, List.flatMap_singleton, Option.getD_some, hmark]
    exact lines_append_of_notMem (by decide) _

/-- The comment lines of a description are lines. -/
theorem lines_commentLines (text : Option String) :
    (((given text).map commentLines).getD []).flatMap (fun l => lines l.toList) =
      (labelledLines "" text).map (commentMark ++ ·) := by
  rw [labelledLines]
  cases given text with
  | none => rfl
  | some s =>
    simp only [Option.map_some, Option.getD_some, commentLines, List.flatMap_map, String.empty_append]
    rw [List.map_eq_flatMap]
    apply List.flatMap_congr
    intro l hl
    have hmark : ("  // " ++ String.ofList l).toList = commentMark ++ l := by simp [commentMark]
    have hsingle : '\n' ∉ commentMark ++ l := by
      rw [List.mem_append, not_or]
      exact ⟨by decide, notMem_of_mem_splitAt hl⟩
    rw [hmark, lines, splitAt_of_notMem hsingle]

/-- **The lines that show a property**: those of its description are comment lines, those of its default
and its example spill over. -/
theorem lines_objectLines {p : Property LinkedShape} (hname : '\n' ∉ p.name.toList)
    (hshape : '\n' ∉ p.shape.html.toList) :
    (objectLines p).flatMap (fun l => lines l.toList) =
      (labelledLines "" p.description).map (commentMark ++ ·) ++
        (spilledLines "Defaults to: " p.defaultText ++
          (spilledLines "Example: " p.exampleText ++ [(memberLine p).toList])) := by
  have hmember : '\n' ∉ (memberLine p).toList := by
    have hoptional : '\n' ∉ (if p.optional then "?" else "").toList := by split <;> decide
    unfold memberLine
    simp [hname, hshape, hoptional]
  have hlines : lines (memberLine p).toList = [(memberLine p).toList] := splitAt_of_notMem hmember
  rw [objectLines_eq, List.flatMap_append, List.flatMap_append, List.flatMap_append,
    lines_commentLines, ← lines_labelled, ← lines_labelled, List.flatMap_singleton, hlines]
  simp only [List.append_assoc]
  rfl

/-- The lines of an object: two before those of the properties, and two behind them. -/
theorem lines_object (ps : List (Property LinkedShape)) :
    lines (object ps).toList = "<pre>".toList :: "\x7b".toList ::
      (ps.flatMap (fun p => (objectLines p).flatMap fun l => lines l.toList) ++
        ["\x7d".toList, "</pre>".toList, []]) := by
  have hended : (object ps).toList = ((["<pre>", "\x7b"] ++ ps.flatMap objectLines ++
      ["\x7d", "</pre>"]).map String.toList).flatMap (· ++ ['\n']) := by
    rw [object, String.toList_join, List.flatMap_map, List.flatMap_map]
    apply List.flatMap_congr
    intro l _
    rw [String.toList_append]
    rfl
  rw [hended, lines_ended, List.flatMap_map, List.flatMap_append, List.flatMap_append,
    List.flatMap_assoc]
  have hopen : (["<pre>", "\x7b"] : List String).flatMap (fun l => lines l.toList) =
      ["<pre>".toList, "\x7b".toList] := by decide
  have hclose : (["\x7d", "</pre>"] : List String).flatMap (fun l => lines l.toList) =
      ["\x7d".toList, "</pre>".toList] := by decide
  rw [hopen, hclose]
  simp

/-! ## When documentation stays in its comments -/

/-- The lines that show a property are the right ones exactly when its default and its example are one
line each. -/
theorem lines_objectLines_eq_iff {p : Property LinkedShape} (hname : '\n' ∉ p.name.toList)
    (hshape : '\n' ∉ p.shape.html.toList) :
    (objectLines p).flatMap (fun l => lines l.toList) =
        (docLines p).map (commentMark ++ ·) ++ [(memberLine p).toList] ↔
      SingleLine p.defaultText ∧ SingleLine p.exampleText := by
  rw [lines_objectLines hname hshape, docLines, List.map_append, List.map_append, List.append_assoc,
    List.append_assoc, List.append_cancel_left_eq,
    ← spilledLines_eq_iff "Defaults to: " (by decide),
    ← spilledLines_eq_iff "Example: " (by decide)]
  constructor
  · intro h
    obtain ⟨hdefault, hrest⟩ := List.append_inj h (by simp [spilledLines])
    exact ⟨hdefault, List.append_cancel_right hrest⟩
  · rintro ⟨hdefault, hexample⟩
    rw [hdefault, hexample]

/-- As many lines show a property as are to. -/
theorem length_lines_objectLines {p : Property LinkedShape} (hname : '\n' ∉ p.name.toList)
    (hshape : '\n' ∉ p.shape.html.toList) :
    ((objectLines p).flatMap fun l => lines l.toList).length =
      ((docLines p).map (commentMark ++ ·) ++ [(memberLine p).toList]).length := by
  rw [lines_objectLines hname hshape]
  simp [docLines, spilledLines]

/-- The line of a property is marked as one. -/
theorem memberMark_isPrefix (p : Property LinkedShape) : memberMark <+: (memberLine p).toList := by
  unfold memberLine
  simp only [String.toList_append, List.append_assoc]
  exact List.prefix_append _ _

/-- No comment line is marked as the line of a property. -/
theorem memberMark_not_isPrefix (l : List Char) : memberMark.isPrefixOf (commentMark ++ l) = false := by
  rfl

/-- Comment lines with the documentation of each property before its own line show the properties. -/
theorem documented_of_eq {ps : List (Property LinkedShape)} {body : List (List Char)}
    (h : body = ps.flatMap fun p => (docLines p).map (commentMark ++ ·) ++ [(memberLine p).toList]) :
    Documented ps body where
  marked l hl := by
    rw [h, List.mem_flatMap] at hl
    obtain ⟨p, -, hl⟩ := hl
    rcases List.mem_append.1 hl with hl | hl
    · obtain ⟨d, -, rfl⟩ := List.mem_map.1 hl
      exact .inl (List.prefix_append _ _)
    · rw [List.mem_singleton.1 hl]
      exact .inr (memberMark_isPrefix p)
  members := by
    rw [h, List.filter_flatMap, List.map_eq_flatMap]
    apply List.flatMap_congr
    intro p _
    have hcomments : ((docLines p).map (commentMark ++ ·)).filter (memberMark.isPrefixOf ·) = [] := by
      rw [List.filter_eq_nil_iff]
      intro l hl
      obtain ⟨d, -, rfl⟩ := List.mem_map.1 hl
      simp [memberMark_not_isPrefix]
    have hmember : memberMark.isPrefixOf (memberLine p).toList = true :=
      List.isPrefixOf_iff_prefix.2 (memberMark_isPrefix p)
    rw [List.filter_append, hcomments, List.nil_append, List.filter_singleton, hmember]
    rfl
  documented := h

/-- **Documentation stays in comment lines exactly when defaults and examples are single lines.**
Whatever the names and the types, as long as they are one line each, the lines of an object between its
braces are the comment lines and the line of each property in order if and only if no default and no
example holds a line feed. Descriptions may hold any number of them. -/
theorem documented_iff_singleLine (ps : List (Property LinkedShape))
    (hname : ∀ p ∈ ps, '\n' ∉ p.name.toList) (hshape : ∀ p ∈ ps, '\n' ∉ p.shape.html.toList) :
    ∃ body, lines (object ps).toList = "<pre>".toList :: "\x7b".toList ::
        (body ++ ["\x7d".toList, "</pre>".toList, []]) ∧
      (Documented ps body ↔ ∀ p ∈ ps, SingleLine p.defaultText ∧ SingleLine p.exampleText) := by
  refine ⟨_, lines_object ps, ?_⟩
  have hbody := flatMap_eq_flatMap_iff fun p hp =>
    length_lines_objectLines (hname p hp) (hshape p hp)
  constructor
  · intro h p hp
    exact (lines_objectLines_eq_iff (hname p hp) (hshape p hp)).1 (hbody.1 h.documented p hp)
  · intro h
    exact documented_of_eq (hbody.2 fun p hp =>
      (lines_objectLines_eq_iff (hname p hp) (hshape p hp)).2 (h p hp))

/-- A property with a description of two lines, a default and an example. -/
def described (defaultText : String) : Property LinkedShape :=
  ⟨"p", [.link "A"], true, some "One\ntwo", some defaultText, some "e"⟩

/-- A description of two lines stays in its comments. -/
theorem documented_iff_singleLine_description :
    '\n' ∉ (described "1").name.toList ∧ '\n' ∉ (described "1").shape.html.toList ∧
      ∃ body, lines (object [described "1"]).toList = "<pre>".toList :: "\x7b".toList ::
          (body ++ ["\x7d".toList, "</pre>".toList, []]) ∧
        Documented [described "1"] body := by
  have hname : ∀ p ∈ [described "1"], '\n' ∉ p.name.toList := by decide +kernel
  have hshape : ∀ p ∈ [described "1"], '\n' ∉ p.shape.html.toList := by decide +kernel
  obtain ⟨body, hlines, hdocumented⟩ := documented_iff_singleLine [described "1"] hname hshape
  exact ⟨hname _ List.mem_cons_self, hshape _ List.mem_cons_self, body, hlines,
    hdocumented.2 (by decide +kernel)⟩

/-- The second line of a default is no comment line. -/
theorem default_leaves_comment :
    '\n' ∉ (described "1\n2").name.toList ∧ '\n' ∉ (described "1\n2").shape.html.toList ∧
      lines (object [described "1\n2"]).toList = ["<pre>", "\x7b", "  // One", "  // two",
        "  // Defaults to: 1", "2", "  // Example: e",
        "  <strong>p</strong>?: <a href=\"#A\">A</a>,", "\x7d", "</pre>", ""].map String.toList ∧
      ¬ commentMark <+: "2".toList ∧ ¬ memberMark <+: "2".toList := by
  rw [lines_object]
  decide +kernel

end Page

end TypeAtlas
