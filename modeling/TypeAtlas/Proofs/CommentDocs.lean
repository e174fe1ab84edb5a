import TypeAtlas.Proofs.Extraction
import TypeAtlas.Proofs.LinkedForm
import TypeAtlas.Proofs.ObjectLines
import TypeAtlas.Proofs.Passages

/-! # What joined comments say

What two comments say, one behind the other (`Comment.docs`), comes from what each of them says:
descriptions are put one below the other, and of examples and defaults the first one counts, even if it
is empty.

* `Comment.HasTag`: a tag that occurs in a comment.
* `shownTags`: the tags that documentation shows, each with the place where it shows them.
* `Page.ShowsDefault`: a table and an object show the same default, or both leave it out.

A block that goes on with a tag line is read as two comments (`parseBody_append_tagLine`), the second of
which has no description. Main statement: `comment_docs_compose`. -/

namespace TypeAtlas

open Text

/-! ## Texts that are there -/

/-- A text is there exactly when it is not empty. -/
theorem nonEmpty_eq_some_iff {s t : String} : nonEmpty s = some t ↔ s = t ∧ t ≠ "" := by
  rw [nonEmpty, Option.ite_none_left_eq_some, String.isEmpty_iff, Option.some_inj]
  constructor
  · rintro ⟨hne, rfl⟩
    exact ⟨rfl, hne⟩
  · rintro ⟨rfl, hne⟩
    exact ⟨hne, rfl⟩

/-- A text that is not empty is there. -/
theorem nonEmpty_of_ne {s : String} (h : s ≠ "") : nonEmpty s = some s :=
  nonEmpty_eq_some_iff.2 ⟨rfl, h⟩

/-- Texts of which none is empty, joined, are there as soon as there is one of them. -/
theorem nonEmpty_intercalate {sep : String} {us : List String} (h : ∀ u ∈ us, u ≠ "") (hne : us ≠ []) :
    nonEmpty (sep.intercalate us) = some (sep.intercalate us) := by
  apply nonEmpty_of_ne
  cases us with
  | nil => exact absurd rfl hne
  | cons u us =>
    have hu : u ≠ "" := h u List.mem_cons_self
    cases us with
    | nil => rwa [String.intercalate_singleton]
    | cons u' us => simp [String.intercalate_cons_cons, hu]

namespace Comment

/-! ## Comments one behind the other -/

/-- A tag occurs in a comment, with or without a text. -/
def HasTag (tag : String) (c : Comment) : Prop := ∃ f ∈ c, f.tag = some tag

/-- Whether a tag occurs can be computed. -/
instance (tag : String) (c : Comment) : Decidable (HasTag tag c) :=
  inferInstanceAs (Decidable (∃ f ∈ c, f.tag = some tag))

/-- Untagged texts are not empty. -/
theorem ne_empty_of_mem_untagged {c : Comment} {u : String} (h : u ∈ untagged c) : u ≠ "" := by
  obtain ⟨f, -, hf⟩ := List.mem_filterMap.1 h
  split at hf
  · exact (nonEmpty_eq_some_iff.1 hf).2
  · cases hf

/-- The untagged texts of two comments. -/
theorem untagged_append (xs ys : Comment) : untagged (xs ++ ys) = untagged xs ++ untagged ys :=
  List.filterMap_append

/-- **Descriptions are put one below the other**, as far as they are there. -/
theorem description_append (xs ys : Comment) :
    (docs (xs ++ ys)).description =
      (docs xs).description.merge (fun s t => s ++ "\n" ++ t) (docs ys).description := by
  have htexts (c : Comment) : ∀ u ∈ untagged c, u ≠ "" := fun _ => ne_empty_of_mem_untagged
  simp only [docs, untagged_append]
  by_cases hxs : untagged xs = []
  · rw [hxs, List.nil_append]
    exact Option.merge_none_left.symm
  by_cases hys : untagged ys = []
  · rw [hys, List.append_nil]
    exact Option.merge_none_right.symm
  · have hboth : ∀ u ∈ untagged xs ++ untagged ys, u ≠ "" :=
      fun u hu => (List.mem_append.1 hu).elim (htexts xs u) (htexts ys u)
    rw [nonEmpty_intercalate hboth (by simp [hxs]), nonEmpty_intercalate (htexts xs) hxs,
      nonEmpty_intercalate (htexts ys) hys, String.intercalate_append_of_ne_nil hxs hys]
    rfl

/-- A tag that does not occur is not found. -/
theorem find?_tag_eq_none_iff {tag : String} {c : Comment} :
    (c.find? fun f => f.tag == some tag) = none ↔ ¬ HasTag tag c := by
  simp [HasTag]

/-- **The first fragment under a tag counts**, whichever comment it stands in. -/
theorem tagged_append (tag : String) (xs ys : Comment) :
    tagged tag (xs ++ ys) = if HasTag tag xs then tagged tag xs else tagged tag ys := by
  rw [tagged, List.find?_append]
  split
  · rename_i htag
    obtain ⟨f, hf⟩ := Option.ne_none_iff_exists'.1 (find?_tag_eq_none_iff.not.2 (not_not.2 htag))
    rw [tagged, hf, Option.some_or]
  · rename_i htag
    rw [tagged, find?_tag_eq_none_iff.2 htag, Option.none_or]

/-- A first fragment without text says that there is nothing under its tag. -/
theorem tagged_of_first_empty {tag : String} {before after : Comment} {f : Fragment}
    (hbefore : ¬ HasTag tag before) (hf : f.tag = some tag) (hempty : f.text = "") :
    tagged tag (before ++ f :: after) = none := by
  rw [tagged_append, if_neg hbefore, tagged, List.find?_cons_of_pos (by simp [hf]), Option.bind_some,
    hempty]
  rfl

/-- A text under a tag is not empty. -/
theorem ne_empty_of_tagged {tag t : String} {c : Comment} (h : tagged tag c = some t) : t ≠ "" := by
  obtain ⟨f, -, hf⟩ := Option.bind_eq_some_iff.1 h
  exact (nonEmpty_eq_some_iff.1 hf).2

end Comment

/-- The tags that documentation shows, and the parts of what a comment says that show them. -/
def shownTags : List (String × (Docs → Option String)) :=
  [("example", Docs.exampleText), ("default", Docs.defaultText)]

/-- What is shown of a tag is the text under it. -/
theorem shown_docs {tag : String} {field : Docs → Option String} (h : (tag, field) ∈ shownTags)
    (c : Comment) : field (Comment.docs c) = Comment.tagged tag c := by
  simp only [shownTags, List.mem_cons, Prod.mk.injEq, List.not_mem_nil, or_false] at h
  obtain ⟨rfl, rfl⟩ | ⟨rfl, rfl⟩ := h <;> rfl

/-- A part of what documentation shows that is there is not empty. -/
structure Docs.Filled (d : Docs) : Prop where
  /-- So is the description. -/
  description : ∀ t, d.description = some t → t ≠ ""
  /-- So is all that is shown under a tag. -/
  shown : ∀ tag field, (tag, field) ∈ shownTags → ∀ t, field d = some t → t ≠ ""

/-- **Nothing that a comment says is empty.** -/
theorem Comment.filled_docs (c : Comment) : (docs c).Filled where
  description _ ht := (nonEmpty_eq_some_iff.1 ht).2
  shown _ _ h _ ht := ne_empty_of_tagged ((shown_docs h c).symm.trans ht)

/-- What follows from the result of a report ends well only if the report does. -/
theorem Report.exists_of_outcome_andThen {ε α β : Type} {r : Report ε α} {f : α → Report ε β} {b : β}
    (h : (r.andThen f).outcome = .ok b) : ∃ a, r.outcome = .ok a ∧ (f a).outcome = .ok b := by
  cases hr : r.outcome with
  | error e =>
    rw [andThen, hr] at h
    cases h
  | ok a => exact ⟨a, rfl, (outcome_andThen hr f).symm.trans h⟩

/-- The default of an extracted property is not empty. -/
theorem Declaration.defaultText_ne_empty {owner : String} {m : PropertyMember} {q : Property Shape}
    (h : (extractProperty owner m).outcome = .ok q) : q.defaultText ≠ some "" := by
  obtain ⟨s, -, hq⟩ := Report.exists_of_outcome_andThen h
  cases hq
  cases m.comment with
  | none => exact fun e => nomatch e
  | some c =>
    intro hempty
    have htagged : Comment.tagged "default" c = some "" := hempty
    exact Comment.ne_empty_of_tagged htagged rfl

/-! ## Defaults in tables and objects -/

namespace Page

/-- A property is shown with a default, or with none, in both forms: in its cell, where a dash stands for
none, and by one comment line more than without a default, or by no more. -/
def ShowsDefault (p : Property LinkedShape) (d : Option String) : Prop :=
  (cells p)[3]? = some (d.getD "-") ∧
    ∃ before after, objectLines { p with defaultText := none } = before ++ after ∧
      objectLines p = before ++ ((d.map ("  // Defaults to: " ++ ·)).toList ++ after)

/-- Both forms show the default of a property if it is not the empty text. -/
theorem showsDefault_iff {p : Property LinkedShape} :
    ShowsDefault p p.defaultText ↔ p.defaultText ≠ some "" := by
  constructor
  · -- an empty default has a cell of its own, and no line
    rintro ⟨-, before, after, hwithout, hlines⟩ hempty
    have hsame : objectLines p = objectLines { p with defaultText := none } := by
      rw [objectLines_eq, objectLines_eq, hempty]
      rfl
    have hlength := congrArg List.length (hlines.symm.trans (hsame.trans hwithout))
    simp [hempty] at hlength
  · intro hne
    have hgiven : given p.defaultText = p.defaultText := by
      cases hd : p.defaultText with
      | none => rfl
      | some t =>
        have ht : t ≠ "" := fun e => hne (by rw [hd, e])
        simp [given, ht]
    -- the line of the default stands between the description and the example
    refine ⟨rfl, ((given p.description).map commentLines).getD [],
      ((given p.exampleText).map fun s => "  // Example: " ++ s).toList ++ [memberLine p], ?_, ?_⟩
    · have hmember : memberLine { p with defaultText := none } = memberLine p := rfl
      rw [objectLines_eq, hmember]
      simp only [given, Option.filter_none, Option.map_none, Option.toList_none, List.append_nil,
        List.append_assoc]
    · rw [objectLines_eq, hgiven]
      simp only [List.append_assoc]

end Page

/-! ## Blocks that go on -/

namespace Comment

/-- The blocks are what can be read, by their bodies. -/
theorem parse?_eq_some_iff {text : String} {c : Comment} :
    parse? text = some c ↔ isBlock text.toList = true ∧ parseBody (body text.toList) = c := by
  rw [parse?]
  split
  · rename_i h
    simp [h]
  · rename_i h
    simp [h]

/-- A body that goes on with a tag line is read as a comment and another one, without untagged text, behind
it. -/
theorem parseBody_append_tagLine (s more : List Char)
    (h : ∃ l ∈ ((lines more).map undecorate).head?, IsTagLine l) :
    parseBody (s ++ '\n' :: more) = parseBody s ++ parseBody more ∧ untagged (parseBody more) = [] := by
  obtain ⟨lead, ps, hlead, hs⟩ := exists_passages ((lines s).map undecorate)
  obtain ⟨ps', hmore⟩ := exists_passages_of_tagLine h
  have hread : parseBody more = ps'.map Passage.fragment := by
    rw [parseBody, hmore]
    exact fragments_passages (List.forall_mem_nil _) ps'
  constructor
  · have hboth : lead ++ ps.flatMap Passage.lines ++ ps'.flatMap Passage.lines =
        lead ++ (ps ++ ps').flatMap Passage.lines := by
      rw [List.flatMap_append, List.append_assoc]
    rw [hread, parseBody, parseBody, lines_append_cons, List.map_append, hs, hmore, hboth,
      fragments_passages hlead, fragments_passages hlead, List.map_append, List.append_assoc]
  · rw [hread, untagged, List.filterMap_eq_nil_iff]
    intro f hf
    obtain ⟨p, -, rfl⟩ := List.mem_map.1 hf
    rfl

/-- What further lines with a tag line in front leave as it was. -/
theorem docs_of_longer_block {text text' more : String} {c : Comment} (hc : parse? text = some c)
    (hblock : isBlock text'.toList = true)
    (hbody : body text'.toList = body text.toList ++ '\n' :: more.toList)
    (hmore : ∃ l ∈ (bodyLines more).head?, IsTagLine l) :
    ∃ c', parse? text' = some c' ∧ (docs c').description = (docs c).description ∧
      ∀ tag field, (tag, field) ∈ shownTags → HasTag tag c → field (docs c') = field (docs c) := by
  obtain ⟨-, rfl⟩ := parse?_eq_some_iff.1 hc
  obtain ⟨hread, huntagged⟩ := parseBody_append_tagLine (body text.toList) more.toList hmore
  rw [← hbody] at hread
  refine ⟨_, parse?_eq_some_iff.2 ⟨hblock, hread⟩, ?_, ?_⟩
  · have hnone : (docs (parseBody more.toList)).description = none := by
      rw [docs, huntagged]
      rfl
    rw [description_append, hnone, Option.merge_none_right]
  · intro tag field htag hhas
    rw [shown_docs htag, shown_docs htag, tagged_append, if_pos hhas]

end Comment

/-- **What comments say composes, and the first tag wins.** The description of two comments is their
descriptions one below the other. The example is that of the first comment if the tag occurs there, and
there is none if the first fragment under the tag is empty; else it is that of the second comment; and
so is the default. Nothing that is said is empty, so that a table and an object show the default of the
same extracted properties, although one asks whether there is a default and the other whether it has
text. A block that goes on with a tag line keeps its description, and the example and the default whose
tags it has. -/
theorem comment_docs_compose (xs ys : Comment) :
    (Comment.docs (xs ++ ys)).description =
        (Comment.docs xs).description.merge (fun s t => s ++ "\n" ++ t) (Comment.docs ys).description ∧
    (∀ tag field, (tag, field) ∈ shownTags →
      field (Comment.docs (xs ++ ys)) =
          (if Comment.HasTag tag xs then field (Comment.docs xs) else field (Comment.docs ys)) ∧
      ∀ before f after, xs = before ++ f :: after → ¬ Comment.HasTag tag before →
        f.tag = some tag → f.text = "" → field (Comment.docs (xs ++ ys)) = none) ∧
    (Comment.docs (xs ++ ys)).Filled ∧
    (∀ owner m q, (Declaration.extractProperty owner m).outcome = .ok q →
      ∀ link : Shape → LinkedShape, Page.ShowsDefault (q.map link) q.defaultText) ∧
    (∀ text text' more c, Comment.parse? text = some c → Comment.isBlock text'.toList = true →
      Comment.body text'.toList = Comment.body text.toList ++ '\n' :: more.toList →
      (∃ l ∈ (Comment.bodyLines more).head?, Comment.IsTagLine l) →
      ∃ c', Comment.parse? text' = some c' ∧
        (Comment.docs c').description = (Comment.docs c).description ∧
        ∀ tag field, (tag, field) ∈ shownTags → Comment.HasTag tag c →
          field (Comment.docs c') = field (Comment.docs c)) := by
  refine ⟨Comment.description_append xs ys, ?_, Comment.filled_docs _, ?_, ?_⟩
  · intro tag field htag
    simp only [shown_docs htag]
    refine ⟨Comment.tagged_append tag xs ys, ?_⟩
    rintro before f after rfl hbefore hf hempty
    rw [List.append_assoc, List.cons_append]
    exact Comment.tagged_of_first_empty hbefore hf hempty
  · intro owner m q hq link
    have hne : (q.map link).defaultText ≠ some "" := Declaration.defaultText_ne_empty hq
    exact Page.showsDefault_iff.2 hne
  · intro text text' more c hc hblock hbody hmore
    exact Comment.docs_of_longer_block hc hblock hbody hmore

/-- A comment whose example is empty. -/
def emptyExample : Comment := [⟨none, "One."⟩, ⟨some "example", ""⟩]

/-- A comment with another example and a default. -/
def fullComment : Comment := [⟨none, "two"⟩, ⟨some "example", "e"⟩, ⟨some "default", "1"⟩]

/-- An empty example wins over a later one, a default is taken from the second comment and shown in both
forms, and a block keeps its default when it goes on with another one. -/
theorem comment_docs_compose_emptyExample :
    Comment.docs (emptyExample ++ fullComment) = ⟨some "One.\ntwo", none, some "1"⟩ ∧
      (∃ q, (Declaration.extractProperty "A" ⟨"p", .named "string", true, some fullComment⟩).outcome =
          .ok q ∧ Page.ShowsDefault (q.map fun _ => []) (some "1")) ∧
      ∃ c, Comment.parse? "/** One.\n * @default 1\n * @default 2 */" = some c ∧
        (Comment.docs c).description = some "One." ∧ (Comment.docs c).defaultText = some "1" := by
  obtain ⟨hdescription, hshown, -, hdefaults, hblocks⟩ := comment_docs_compose emptyExample fullComment
  refine ⟨?_, ?_, ?_⟩
  · have hexample := (hshown "example" Docs.exampleText (by simp [shownTags])).2
      [⟨none, "One."⟩] ⟨some "example", ""⟩ [] rfl (by decide) rfl rfl
    have hdefault := (hshown "default" Docs.defaultText (by simp [shownTags])).1
    rw [if_neg (by decide)] at hdefault
    calc Comment.docs (emptyExample ++ fullComment)
        = ⟨(Comment.docs (emptyExample ++ fullComment)).description,
            (Comment.docs (emptyExample ++ fullComment)).exampleText,
            (Comment.docs (emptyExample ++ fullComment)).defaultText⟩ := rfl
      _ = ⟨some "One.\ntwo", none, some "1"⟩ := by
          rw [hdescription, hexample, hdefault]
          decide +kernel
  · exact ⟨_, rfl, hdefaults "A" ⟨"p", .named "string", true, some fullComment⟩ _ rfl fun _ => []⟩
  · obtain ⟨c, hc, hdescription, hshown⟩ := hblocks "/** One.\n * @default 1*/"
      "/** One.\n * @default 1\n * @default 2 */" " * @default 2 " _ rfl (by decide +kernel)
      (by decide +kernel) (by decide +kernel)
    refine ⟨c, hc, hdescription.trans (by decide +kernel), ?_⟩
    exact (hshown "default" Docs.defaultText (by simp [shownTags]) (by decide +kernel)).trans
      (by decide +kernel)

end TypeAtlas
