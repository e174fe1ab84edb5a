import Mathlib.Data.List.Forall2
import TypeAtlas.Proofs.BlockLines

/-! # The passages of a block

The lines of a block that `Comment.parse?` reads fall into passages: what stands before the first tag
line, and each tag line with the lines up to the next one.

* `Comment.OpensTag`: a line read as a tag and the text behind it.
* `Comment.TrimsTo`: what is left of lines without the blank ones at either end.
* `Comment.Passage`: a tag line with the lines under it.
* `Fragment.Gathers`: a fragment holds the lines of a passage.

All lines fall into passages (`exists_passages`), and reading gives one fragment for each of them
(`fragments_passages`). Passages that stand one behind the other are therefore read one behind the
other. Main statement: `segmentation_compositional`. -/

namespace TypeAtlas

open Text

namespace Comment

/-! ## Tag lines -/

/-- A line is an at sign, the tag, which is the longest word behind it, blanks, and the rest, which
starts with no blank. -/
structure OpensTag (l tag rest : List Char) : Prop where
  /-- The tag is a word. -/
  word : tag ≠ [] ∧ ∀ c ∈ tag, isWord c = true
  /-- The line is the tag and the rest with blanks between them. -/
  line : ∃ gap, l = '@' :: (tag ++ (gap ++ rest)) ∧ (∀ c ∈ gap, isBlank c = true) ∧
    ∀ c, (gap ++ rest).head? = some c → isWord c = false
  /-- The blanks behind the tag do not belong to the rest. -/
  rest_start : ∀ c, rest.head? = some c → isBlank c = false

/-- A line opens a tag exactly when it is read as that tag. -/
theorem tagLine?_eq_some_iff {l tag rest : List Char} :
    tagLine? l = some (tag, rest) ↔ OpensTag l tag rest := by
  constructor
  · intro h
    obtain ⟨hne, hword, -⟩ := tagLine?_eq_some h
    unfold tagLine? at h
    split at h
    · rename_i r
      obtain ⟨-, hparts⟩ := Option.ite_none_left_eq_some.1 h
      obtain ⟨rfl, rfl⟩ := Prod.mk.inj (Option.some.inj hparts)
      -- behind the word stand the longest run of blanks and the rest
      have hgap : (r.dropWhile isWord).takeWhile isBlank ++ trimStart (r.dropWhile isWord) =
          r.dropWhile isWord := List.takeWhile_append_dropWhile
      refine ⟨⟨hne, hword⟩, ⟨(r.dropWhile isWord).takeWhile isBlank, ?_, ?_, ?_⟩, ?_⟩
      · rw [hgap, List.takeWhile_append_dropWhile]
      · exact fun c hc => List.mem_takeWhile_imp hc
      · intro c hc
        rw [hgap] at hc
        exact eq_false_of_head?_dropWhile hc
      · exact fun c hc => eq_false_of_head?_dropWhile hc
    · cases h
  · rintro ⟨⟨hne, hword⟩, ⟨gap, rfl, hgap, hseam⟩, hrest⟩
    have hstart : trimStart (gap ++ rest) = rest := by
      rw [trimStart, List.dropWhile_append_of_pos hgap, dropWhile_of_head? hrest]
    rw [tagLine?_append hne hword _ hseam, hstart]

/-- The tag lines are the lines that open some tag. -/
theorem isTagLine_iff {l : List Char} : IsTagLine l ↔ ∃ tag rest, OpensTag l tag rest := by
  rw [← Classical.not_not (a := IsTagLine l), ← tagLine?_eq_none_iff, ← ne_eq,
    Option.ne_none_iff_exists']
  simp only [Prod.exists, tagLine?_eq_some_iff]

/-! ## Lines without outer blank lines -/

/-- The lines that are not blank. -/
def written (ls : List (List Char)) : List (List Char) := ls.filter fun l => !allBlank l

/-- Blank lines do not count. -/
theorem written_of_allBlank {ls : List (List Char)} (h : ∀ l ∈ ls, allBlank l = true) :
    written ls = [] := by
  rw [written, List.filter_eq_nil_iff]
  intro l hl
  simp [h l hl]

/-- Some lines are `kept` and stand between blank lines; the first and the last of them are not
blank. -/
structure TrimsTo (ls kept : List (List Char)) : Prop where
  /-- Nothing but blank lines stands around those that are kept. -/
  outer : ∃ before after, ls = before ++ (kept ++ after) ∧ (∀ l ∈ before, allBlank l = true) ∧
    ∀ l ∈ after, allBlank l = true
  /-- The first line that is kept is not blank. -/
  first : ∀ l, kept.head? = some l → allBlank l = false
  /-- The last line that is kept is not blank. -/
  last : ∀ l, kept.getLast? = some l → allBlank l = false

/-- There is one way to keep lines: dropping the blank ones at either end. -/
theorem trimsTo_iff {ls kept : List (List Char)} : TrimsTo ls kept ↔ dropOuterBlank ls = kept := by
  constructor
  · rintro ⟨⟨before, after, rfl, hbefore, hafter⟩, hfirst, hlast⟩
    exact dropOuterBlank_of_outer hbefore hafter hfirst hlast
  · -- the lines before and after are the runs of blank lines at either end
    rintro rfl
    refine ⟨⟨ls.takeWhile allBlank, (ls.dropWhile allBlank).rtakeWhile allBlank, ?_,
      fun l hl => List.mem_takeWhile_imp hl, fun l hl => List.mem_rtakeWhile_imp hl⟩,
      fun l hl => allBlank_head?_dropOuterBlank hl, fun l hl => allBlank_getLast?_dropOuterBlank hl⟩
    have hend : dropOuterBlank ls ++ (ls.dropWhile allBlank).rtakeWhile allBlank =
        ls.dropWhile allBlank := List.rdropWhile_append_rtakeWhile
    rw [hend, List.takeWhile_append_dropWhile]

namespace TrimsTo

variable {ls kept : List (List Char)} (h : TrimsTo ls kept)

include h

/-- The lines that are not blank are kept. -/
theorem written_eq : written kept = written ls := by
  obtain ⟨before, after, rfl, hbefore, hafter⟩ := h.outer
  have hparts : written (before ++ (kept ++ after)) =
      written before ++ (written kept ++ written after) := by
    simp only [written, List.filter_append]
  rw [hparts, written_of_allBlank hbefore, written_of_allBlank hafter, List.nil_append,
    List.append_nil]

/-- Nothing is kept of blank lines only. -/
theorem eq_nil_iff : kept = [] ↔ ∀ l ∈ ls, allBlank l = true := by
  constructor
  · rintro rfl
    obtain ⟨before, after, rfl, hbefore, hafter⟩ := h.outer
    intro l hl
    rw [List.nil_append, List.mem_append] at hl
    exact hl.elim (hbefore l) (hafter l)
  · intro hblank
    obtain ⟨before, after, rfl, -, -⟩ := h.outer
    cases hkept : kept with
    | nil => rfl
    | cons l rest =>
      have hfirst := h.first l (by rw [hkept]; rfl)
      rw [hblank l (by simp [hkept])] at hfirst
      cases hfirst

end TrimsTo

end Comment

/-! ## Fragments of lines -/

/-- A fragment holds some lines under a tag: without outer blank lines they are its text, so that of the
lines that are not blank none is left out, repeated or moved. -/
structure Fragment.Gathers (f : Fragment) (tag : Option (List Char)) (ls : List (List Char)) :
    Prop where
  /-- The lines are filed under the tag. -/
  tag_eq : f.tag = tag.map String.ofList
  /-- The text is the lines without outer blank lines. -/
  text_eq : ∃ kept, Comment.TrimsTo ls kept ∧ f.text = String.ofList (unlines kept)
  /-- The lines of the text are those lines, blank ones aside. -/
  written_eq : Comment.written (lines f.text.toList) = Comment.written ls

namespace Comment

/-- The fragment of some lines under a tag. -/
def gathered (tag : Option (List Char)) (ls : List (List Char)) : Fragment :=
  ⟨tag.map String.ofList, String.ofList (paragraph ls)⟩

/-- The fragment of some lines holds them. -/
theorem gathers_gathered (tag : Option (List Char)) {ls : List (List Char)}
    (h : ∀ l ∈ ls, '\n' ∉ l) : (gathered tag ls).Gathers tag ls where
  tag_eq := rfl
  text_eq := ⟨dropOuterBlank ls, trimsTo_iff.2 rfl, rfl⟩
  written_eq := by
    have htrims : TrimsTo ls (dropOuterBlank ls) := trimsTo_iff.2 rfl
    rw [gathered, String.toList_ofList, paragraph, ← htrims.written_eq]
    cases hkept : dropOuterBlank ls with
    | nil => rfl
    | cons l rest =>
      have hsingle : ∀ l' ∈ dropOuterBlank ls, '\n' ∉ l' :=
        fun l' hl' => h l' ((isInfix_dropOuterBlank ls).subset hl')
      rw [← hkept, lines_unlines (by simp [hkept]) hsingle]

/-- Lines that are not all blank have a text. -/
theorem paragraph_eq_nil_iff {ls : List (List Char)} :
    paragraph ls = [] ↔ ∀ l ∈ ls, allBlank l = true := by
  have htrims : TrimsTo ls (dropOuterBlank ls) := trimsTo_iff.2 rfl
  rw [← htrims.eq_nil_iff, paragraph]
  cases hkept : dropOuterBlank ls with
  | nil => simp [unlines]
  | cons l rest =>
    have hne : l ≠ [] := by
      rintro rfl
      have hfirst := htrims.first [] (by rw [hkept]; rfl)
      cases hfirst
    cases rest with
    | nil => simpa [unlines] using hne
    | cons l' rest => simp [unlines]

/-! ## Passages -/

/-- A tag line with the lines up to the next one. -/
structure Passage where
  /-- The tag line. -/
  opening : List Char
  /-- Its tag. -/
  tag : List Char
  /-- The rest of the tag line. -/
  rest : List Char
  /-- The lines under it. -/
  following : List (List Char)
  /-- The first line is a tag line. -/
  opens : OpensTag opening tag rest
  /-- No other line is. -/
  plain : ∀ l ∈ following, ¬ IsTagLine l

namespace Passage

/-- The lines of a passage. -/
def lines (p : Passage) : List (List Char) := p.opening :: p.following

/-- What stands under the tag: the rest of the tag line, if there is one, and the lines below it. -/
def content (p : Passage) : List (List Char) :=
  (if p.rest = [] then [] else [p.rest]) ++ p.following

/-- The fragment of a passage. -/
def fragment (p : Passage) : Fragment := gathered (some p.tag) p.content

/-- The fragment of a passage holds what stands under its tag. -/
theorem gathers_fragment {p : Passage} (h : ∀ l ∈ p.lines, '\n' ∉ l) :
    p.fragment.Gathers (some p.tag) p.content := by
  apply gathers_gathered
  obtain ⟨hopening, hfollowing⟩ := List.forall_mem_cons.1 h
  intro l hl
  rw [content, List.mem_append] at hl
  rcases hl with hl | hl
  · split at hl
    · cases hl
    · obtain rfl := List.mem_singleton.1 hl
      obtain ⟨-, -, hsuffix⟩ := tagLine?_eq_some (tagLine?_eq_some_iff.2 p.opens)
      exact fun hmem => hopening (hsuffix.subset hmem)
  · exact hfollowing l hl

end Passage

/-- Lines fall into those before the first tag line and passages. -/
theorem exists_passages (ls : List (List Char)) :
    ∃ (lead : List (List Char)) (ps : List Passage),
      (∀ l ∈ lead, ¬ IsTagLine l) ∧ ls = lead ++ ps.flatMap Passage.lines := by
  induction ls with
  | nil => exact ⟨[], [], by simp, rfl⟩
  | cons l ls ih =>
    obtain ⟨lead, ps, hlead, rfl⟩ := ih
    by_cases htag : IsTagLine l
    · -- what was before the first tag line stands under the new one
      obtain ⟨tag, rest, hopens⟩ := isTagLine_iff.1 htag
      exact ⟨[], ⟨l, tag, rest, lead, hopens, hlead⟩ :: ps, by simp, rfl⟩
    · exact ⟨l :: lead, ps, List.forall_mem_cons.2 ⟨htag, hlead⟩, rfl⟩

/-- Lines that start with a tag line fall into passages. -/
theorem exists_passages_of_tagLine {ls : List (List Char)} (h : ∃ l ∈ ls.head?, IsTagLine l) :
    ∃ ps : List Passage, ls = ps.flatMap Passage.lines := by
  obtain ⟨lead, ps, hlead, rfl⟩ := exists_passages ls
  obtain ⟨l, hhead, htag⟩ := h
  cases lead with
  | nil => exact ⟨ps, rfl⟩
  | cons l' lead =>
    obtain rfl : l' = l := Option.some.inj hhead
    exact absurd htag (hlead l' List.mem_cons_self)

/-- Grouping finds the passages. -/
theorem group_passages {lead : List (List Char)} (hlead : ∀ l ∈ lead, ¬ IsTagLine l)
    (ps : List Passage) :
    group (lead ++ ps.flatMap Passage.lines) = (lead, ps.map fun p => (p.tag, p.content)) := by
  induction ps generalizing lead with
  | nil =>
    rw [List.flatMap_nil, group_append hlead]
    simp [group]
  | cons p ps ih =>
    have hopens := tagLine?_eq_some_iff.2 p.opens
    have hcontent : (if p.rest.isEmpty then p.following else p.rest :: p.following) = p.content := by
      rw [Passage.content]
      by_cases hrest : p.rest = [] <;> simp [hrest]
    rw [List.flatMap_cons, Passage.lines, List.cons_append, group_append hlead,
      group_of_tagLine hopens, ih p.plain, hcontent, List.append_nil, List.map_cons]

/-! ## Reading passages -/

/-- The untagged fragment of some lines, if they have any text. -/
def leadFragments (lead : List (List Char)) : Comment :=
  if lead.all allBlank then [] else [gathered none lead]

/-- **Each passage gives one fragment**, behind the untagged one. -/
theorem fragments_passages {lead : List (List Char)} (hlead : ∀ l ∈ lead, ¬ IsTagLine l)
    (ps : List Passage) :
    fragments (group (lead ++ ps.flatMap Passage.lines)) =
      leadFragments lead ++ ps.map Passage.fragment := by
  have huntagged : (if (paragraph lead).isEmpty then ([] : Comment)
      else [⟨none, String.ofList (paragraph lead)⟩]) = leadFragments lead := by
    rw [leadFragments]
    refine if_congr ?_ rfl rfl
    rw [List.isEmpty_iff, paragraph_eq_nil_iff, List.all_eq_true]
  rw [group_passages hlead, fragments, huntagged, List.map_map]
  rfl

/-- What lines without a tag are read as: nothing when all are blank, else one untagged fragment. -/
structure GathersUntagged (c : Comment) (ls : List (List Char)) : Prop where
  /-- Blank lines are read as nothing. -/
  of_blank : (∀ l ∈ ls, allBlank l = true) → c = []
  /-- Other lines are read as one fragment. -/
  of_written : (∃ l ∈ ls, allBlank l = false) → ∃ f, c = [f] ∧ f.Gathers none ls

/-- The untagged fragment holds the lines before the first tag line. -/
theorem gathersUntagged_leadFragments {lead : List (List Char)} (h : ∀ l ∈ lead, '\n' ∉ l) :
    GathersUntagged (leadFragments lead) lead where
  of_blank hblank := if_pos (List.all_eq_true.2 hblank)
  of_written hwritten := by
    refine ⟨gathered none lead, if_neg ?_, gathers_gathered none h⟩
    obtain ⟨l, hl, hnot⟩ := hwritten
    intro hall
    rw [List.all_eq_true.1 hall l hl] at hnot
    cases hnot

/-- **Reading a block is compositional.** When the body `s` starts with a tag line, what is read from `b`
and `s` with a line feed between them is what is read from `b` and then what is read from `s`. A body
without a tag line is read as nothing if it is blank, else as its lines without outer blank lines; a
body that is one passage is read as the fragment of that passage. Any body falls into lines before the
first tag line and passages, and is read as one fragment for each of these, which holds just the lines
of its own passage. -/
theorem segmentation_compositional (b : String) :
    ∃ c, parse? (block b) = some c ∧
      (∀ s, (∃ l ∈ (bodyLines s).head?, IsTagLine l) →
        ∃ c', parse? (block s) = some c' ∧ parse? (block (b ++ "\n" ++ s)) = some (c ++ c')) ∧
      ((∀ l ∈ bodyLines b, ¬ IsTagLine l) → GathersUntagged c (bodyLines b)) ∧
      (∀ p : Passage, bodyLines b = p.lines → ∃ f, c = [f] ∧ f.Gathers (some p.tag) p.content) ∧
      ∃ (lead : List (List Char)) (ps : List Passage) (c₀ fs : Comment),
        (∀ l ∈ lead, ¬ IsTagLine l) ∧ bodyLines b = lead ++ ps.flatMap Passage.lines ∧
          c = c₀ ++ fs ∧ GathersUntagged c₀ lead ∧
          List.Forall₂ (fun p f => f.Gathers (some p.tag) p.content) ps fs := by
  obtain ⟨lead, ps, hlead, hb⟩ := exists_passages (bodyLines b)
  have hsingle : ∀ l ∈ bodyLines b, '\n' ∉ l := notMem_bodyLines
  have hread : fragments (group (bodyLines b)) = leadFragments lead ++ ps.map Passage.fragment := by
    rw [hb, fragments_passages hlead]
  refine ⟨_, parse?_block b, ?_, ?_, ?_, lead, ps, leadFragments lead, ps.map Passage.fragment, hlead,
    hb, hread, ?_, ?_⟩
  · -- the passages of `s` stand behind those of `b`, and no line of `s` joins the last of these
    intro s hs
    obtain ⟨ps', hs'⟩ := exists_passages_of_tagLine hs
    have hreads : fragments (group (bodyLines s)) = ps'.map Passage.fragment := by
      rw [hs']
      exact fragments_passages (List.forall_mem_nil _) ps'
    have hboth : bodyLines (b ++ "\n" ++ s) = lead ++ (ps ++ ps').flatMap Passage.lines := by
      rw [bodyLines_append, hb, hs', List.flatMap_append, List.append_assoc]
    refine ⟨_, parse?_block s, ?_⟩
    rw [parse?_block, hboth, fragments_passages hlead, hread, hreads, List.map_append,
      List.append_assoc]
  · -- the body is nothing but lines before the first tag line
    intro hplain
    have halone := fragments_passages hplain []
    rw [List.flatMap_nil, List.map_nil, List.append_nil, List.append_nil] at halone
    rw [halone]
    exact gathersUntagged_leadFragments hsingle
  · -- the body is nothing but one passage
    intro p hp
    have halone := fragments_passages (List.forall_mem_nil _) [p]
    rw [List.nil_append, List.flatMap_singleton, ← hp] at halone
    exact ⟨p.fragment, halone, p.gathers_fragment (hp ▸ hsingle)⟩
  · apply gathersUntagged_leadFragments
    intro l hl
    exact hsingle l (hb ▸ List.mem_append_left _ hl)
  · rw [List.forall₂_map_right_iff, List.forall₂_same]
    intro p hp
    apply p.gathers_fragment
    intro l hl
    exact hsingle l (hb ▸ List.mem_append_right _ (List.mem_flatMap_of_mem hp hl))

/-- Text of two paragraphs, and a tag without text. -/
def textAndTag : String := "\n * One.\n *\n * two\n *\n * @internal\n "

/-- A tag with text on its line and below, and the same tag again without text. -/
def repeatedTag : String := " * @see  three \n *\n *   four\n@see\n "

/-- The first passage of the repeated tag. -/
def seePassage : Passage where
  opening := "@see  three".toList
  tag := "see".toList
  rest := "three".toList
  following := [[], "  four".toList]
  opens := tagLine?_eq_some_iff.1 (by decide +kernel)
  plain := by decide +kernel

/-- A body and another one that starts with a tag line are read one behind the other; a body without a
tag line and one that is a single passage are read as one fragment each. -/
theorem segmentation_compositional_repeatedTag :
    (∃ l ∈ (bodyLines repeatedTag).head?, IsTagLine l) ∧
      parse? (block (textAndTag ++ "\n" ++ repeatedTag)) =
        some ([⟨none, "One.\n\ntwo"⟩, ⟨some "internal", ""⟩] ++
          [⟨some "see", "three\n\n  four"⟩, ⟨some "see", ""⟩]) ∧
      (∀ l ∈ bodyLines "One.\n*\n", ¬ IsTagLine l) ∧
      GathersUntagged [⟨none, "One."⟩] (bodyLines "One.\n*\n") ∧
      bodyLines "@see  three\n*\n*   four" = seePassage.lines ∧
      Fragment.Gathers ⟨some "see", "three\n\n  four"⟩ (some seePassage.tag) seePassage.content := by
  have hstarts : ∃ l ∈ (bodyLines repeatedTag).head?, IsTagLine l := ⟨_, rfl, by decide +kernel⟩
  have hplain : ∀ l ∈ bodyLines "One.\n*\n", ¬ IsTagLine l := by decide +kernel
  have hpassage : bodyLines "@see  three\n*\n*   four" = seePassage.lines := by decide +kernel
  obtain ⟨c, hc, hcompose, -⟩ := segmentation_compositional textAndTag
  obtain ⟨c', hc', hboth⟩ := hcompose repeatedTag hstarts
  obtain ⟨u, hu, -, huntagged, -⟩ := segmentation_compositional "One.\n*\n"
  obtain ⟨v, hv, -, -, hsingle, -⟩ := segmentation_compositional "@see  three\n*\n*   four"
  have hread : parse? (block textAndTag) = some [⟨none, "One.\n\ntwo"⟩, ⟨some "internal", ""⟩] := by
    decide +kernel
  have hread' : parse? (block repeatedTag) =
      some [⟨some "see", "three\n\n  four"⟩, ⟨some "see", ""⟩] := by
    decide +kernel
  have hreadu : parse? (block "One.\n*\n") = some [⟨none, "One."⟩] := by decide +kernel
  have hreadv : parse? (block "@see  three\n*\n*   four") =
      some [⟨some "see", "three\n\n  four"⟩] := by
    decide +kernel
  obtain rfl := Option.some.inj (hc.symm.trans hread)
  obtain rfl := Option.some.inj (hc'.symm.trans hread')
  obtain rfl := Option.some.inj (hu.symm.trans hreadu)
  obtain rfl := Option.some.inj (hv.symm.trans hreadv)
  obtain ⟨f, hf, hgathers⟩ := hsingle seePassage hpassage
  obtain rfl := (List.cons.inj hf).1
  exact ⟨hstarts, hboth, hplain, huntagged hplain, hpassage, hgathers⟩

end Comment

end TypeAtlas
