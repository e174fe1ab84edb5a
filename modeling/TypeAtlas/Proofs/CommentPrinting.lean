import TypeAtlas.Proofs.BlockLines

/-! # Printing comments

A comment is printed as a block with one decorated line for each tag and each line of text.
`Comment.parse?` gives the comment back, provided that it is one that reading can give at all.

* `Comment.Canonical`: the comments that reading gives.
* `Comment.print`: a comment as a block.

Main statements: what is read is canonical (`Comment.canonical_parseBody`), a canonical comment is read
back from its block (`Comment.parse?_print`), and both together `Comment.parsing_inverts_printing`. -/

namespace TypeAtlas

open Text

/-- A fragment as it is left when a block is read. -/
@[mk_iff]
structure Fragment.Canonical (f : Fragment) : Prop where
  /-- A tag is a word. -/
  tag_word : ∀ tag, f.tag = some tag → tag ≠ "" ∧ ∀ c ∈ tag.toList, isWord c = true
  /-- An untagged fragment has text. -/
  untagged : f.tag = none → f.text ≠ ""
  /-- A text that is not empty has canonical lines. -/
  text : f.text = "" ∨ Comment.CanonicalLines f.tag.isSome (lines f.text.toList)

/-- Whether a fragment is canonical can be computed. -/
instance (f : Fragment) : Decidable f.Canonical :=
  decidable_of_iff
    ((∀ tag ∈ f.tag, tag ≠ "" ∧ tag.toList.all isWord = true) ∧ (f.tag = none → f.text ≠ "") ∧
      (f.text = "" ∨ Comment.CanonicalLines f.tag.isSome (lines f.text.toList)))
    (by simp only [Fragment.canonical_iff, Option.mem_def, List.all_eq_true])

namespace Comment

/-- A comment as it is left when a block is read: all fragments are canonical, and none but the first is
untagged. -/
@[mk_iff]
structure Canonical (c : Comment) : Prop where
  /-- Each fragment is canonical. -/
  fragments : ∀ f ∈ c, f.Canonical
  /-- The later fragments have tags. -/
  tagged : ∀ f ∈ c.tail, f.tag ≠ none

/-- Whether a comment is canonical can be computed. -/
instance (c : Comment) : Decidable (Canonical c) :=
  decidable_of_iff ((∀ f ∈ c, f.Canonical) ∧ ∀ f ∈ c.tail, f.tag ≠ none) (canonical_iff c).symm

/-! ## What is read is canonical -/

/-- The fragment of a tag and the lines under it is canonical. -/
theorem TaggedLines.canonical {tag : List Char} {ls : List (List Char)} (h : TaggedLines tag ls) :
    Fragment.Canonical ⟨some (String.ofList tag), String.ofList (paragraph ls)⟩ where
  tag_word tag' htag := by
    obtain rfl := Option.some.inj htag
    refine ⟨?_, by simpa using h.tag_word⟩
    simpa using h.tag_ne_nil
  untagged hnone := by cases hnone
  text := by
    have htext := canonicalLines_paragraph true h.clean h.plain
    simpa using htext

/-- The untagged fragment of lines that open no fragment is canonical. -/
theorem canonical_lead {ls : List (List Char)} (h : ∀ l ∈ ls, Clean l ∧ ¬ IsTagLine l)
    (hne : paragraph ls ≠ []) : Fragment.Canonical ⟨none, String.ofList (paragraph ls)⟩ where
  tag_word tag htag := by cases htag
  untagged _ := by simpa using hne
  text := by
    have htext := canonicalLines_paragraph false (fun l hl => (h l hl).1)
      fun l hl => (h l hl).2
    simpa using htext

/-- Grouped lines give a canonical comment. -/
theorem canonical_fragments {g : List (List Char) × List (List Char × List (List Char))}
    (hlead : ∀ l ∈ g.1, Clean l ∧ ¬ IsTagLine l) (htagged : ∀ p ∈ g.2, TaggedLines p.1 p.2) :
    Canonical (fragments g) := by
  have hrest : ∀ f ∈ g.2.map fun p : List Char × List (List Char) =>
      (⟨some (String.ofList p.1), String.ofList (paragraph p.2)⟩ : Fragment),
      f.Canonical ∧ f.tag ≠ none := by
    intro f hf
    obtain ⟨p, hp, rfl⟩ := List.mem_map.1 hf
    exact ⟨(htagged p hp).canonical, Option.some_ne_none _⟩
  rw [fragments]
  dsimp only
  split
  · rw [List.nil_append]
    exact ⟨fun f hf => (hrest f hf).1, fun f hf => (hrest f (List.mem_of_mem_tail hf)).2⟩
  · rename_i hne
    have hcanonical := canonical_lead hlead (by simpa using hne)
    refine ⟨?_, fun f hf => (hrest f hf).2⟩
    exact List.forall_mem_cons.2 ⟨hcanonical, fun f hf => (hrest f hf).1⟩

/-- **What is read from a block is canonical.** -/
theorem canonical_parseBody (s : List Char) : Canonical (parseBody s) := by
  have hclean : ∀ l ∈ (lines s).map undecorate, Clean l := by
    intro l hl
    obtain ⟨raw, hraw, rfl⟩ := List.mem_map.1 hl
    exact clean_undecorate (notMem_of_mem_splitAt hraw)
  obtain ⟨hlead, htagged⟩ := group_clean hclean
  exact canonical_fragments hlead htagged

/-! ## The printer -/

/-- The lines of a text; an empty text has none. -/
def textLines (s : String) : List (List Char) := if s.isEmpty then [] else lines s.toList

/-- A tag with lines of text: the first of them stands on the line of the tag, unless it starts with a
blank. -/
def tagLines (tag : List Char) : List (List Char) → List (List Char)
  | (c :: l) :: ls =>
    if isBlank c then ('@' :: tag) :: (c :: l) :: ls
    else ('@' :: (tag ++ ' ' :: c :: l)) :: ls
  | ls => ('@' :: tag) :: ls

/-- The lines of a fragment. -/
def fragmentLines (f : Fragment) : List (List Char) :=
  match f.tag with
  | none => textLines f.text
  | some tag => tagLines tag.toList (textLines f.text)

/-- Lines with their decoration. -/
def decorate (ls : List (List Char)) : List Char :=
  ls.flatMap fun l => ' ' :: '*' :: ' ' :: (l ++ ['\n'])

/-- A comment as a block. -/
def print (c : Comment) : String :=
  "/**\n" ++ String.ofList (decorate (c.flatMap fragmentLines)) ++ " */"

/-- The lines of a text joined again. -/
theorem unlines_textLines (s : String) : unlines (textLines s) = s.toList := by
  rw [textLines]
  split
  · rename_i h
    have hs : s = "" := by simpa using h
    rw [hs]
    rfl
  · exact unlines_lines s.toList

/-- The lines of the text of a canonical fragment are canonical. -/
theorem canonicalLines_textLines {f : Fragment} (h : f.Canonical) :
    CanonicalLines f.tag.isSome (textLines f.text) := by
  rw [textLines]
  split
  · exact canonicalLines_nil _
  · rename_i hne
    exact h.text.resolve_left (by simpa using hne)

/-- The lines of the text of a canonical fragment are clean. -/
theorem clean_textLines {f : Fragment} (h : f.Canonical) : ∀ l ∈ textLines f.text, Clean l := by
  intro l hl
  refine ⟨(canonicalLines_textLines h).trimmed l hl, ?_⟩
  rw [textLines] at hl
  split at hl
  · cases hl
  · exact notMem_of_mem_splitAt hl

/-- The lines of a tag with clean lines of text are clean. -/
theorem clean_tagLines {tag : List Char} (hword : ∀ c ∈ tag, isWord c = true)
    {ls : List (List Char)} (hls : ∀ l ∈ ls, Clean l) : ∀ l ∈ tagLines tag ls, Clean l := by
  have hblank : ∀ c ∈ '@' :: tag, isBlank c = false :=
    List.forall_mem_cons.2 ⟨by decide, fun c hc => isBlank_of_isWord (hword c hc)⟩
  have hfeed : '\n' ∉ '@' :: tag := fun hmem => absurd (hblank _ hmem) (by decide)
  have htag : Clean ('@' :: tag) := ⟨fun c hc => hblank c (List.mem_of_getLast? hc), hfeed⟩
  fun_cases tagLines tag ls with
  | case1 c l ls hc => exact List.forall_mem_cons.2 ⟨htag, hls⟩
  | case2 c l ls hc =>
    obtain ⟨hl, hls⟩ := List.forall_mem_cons.1 hls
    have hline : Clean ('@' :: tag ++ [' '] ++ c :: l) :=
      hl.append_left (List.cons_ne_nil c l) (by simpa using hfeed)
    rw [List.append_assoc] at hline
    exact List.forall_mem_cons.2 ⟨hline, hls⟩
  | case3 hother => exact List.forall_mem_cons.2 ⟨htag, hls⟩

/-- A printed tag takes its lines of text, and the lines up to the next tag line. -/
theorem group_tagLines {tag : List Char} (hne : tag ≠ []) (hword : ∀ c ∈ tag, isWord c = true)
    {ls : List (List Char)} (hls : CanonicalLines true ls) (rest : List (List Char)) :
    group (tagLines tag ls ++ rest) =
      ([], (tag, ls ++ (group rest).1) :: (group rest).2) := by
  have halone : tagLine? ('@' :: tag) = some (tag, []) := by
    have happend := tagLine?_append hne hword [] fun c hc => by cases hc
    rwa [List.append_nil] at happend
  cases ls with
  | nil => exact group_of_tagLine halone rest
  | cons l ls =>
    have htail : ∀ l' ∈ ls, ¬ IsTagLine l' := hls.plain
    cases l with
    | nil => exact absurd rfl hls.first
    | cons c l =>
      rw [tagLines]
      split
      · rename_i hc
        -- a line that starts with a blank is no tag line
        have hplain : ∀ l' ∈ (c :: l) :: ls, ¬ IsTagLine l' := by
          refine List.forall_mem_cons.2 ⟨?_, htail⟩
          rintro ⟨d, r, heq, -⟩
          rw [(List.cons.inj heq).1] at hc
          cases hc
        rw [List.cons_append, group_of_tagLine halone, group_append hplain]
        rfl
      · rename_i hc
        have hline : tagLine? ('@' :: (tag ++ ' ' :: c :: l)) = some (tag, c :: l) := by
          have hspace : ∀ d, (' ' :: c :: l).head? = some d → isWord d = false := by
            intro d hd
            obtain rfl := Option.some.inj hd
            decide +kernel
          rw [tagLine?_append hne hword _ hspace, trimStart_cons, if_pos (by decide),
            trimStart_cons, if_neg hc]
        rw [List.cons_append, group_of_tagLine hline, group_append htail]
        rfl

/-- The lines of a canonical fragment are clean. -/
theorem clean_fragmentLines {f : Fragment} (h : f.Canonical) :
    ∀ l ∈ fragmentLines f, Clean l := by
  rw [fragmentLines]
  cases htag : f.tag with
  | none => exact clean_textLines h
  | some tag => exact clean_tagLines (h.tag_word tag htag).2 (clean_textLines h)

/-! ## Reading what is printed -/

/-- The lines of tagged fragments, with an empty line at the end, are gathered into the same fragments,
and nothing but blank lines stands before the first of them. -/
theorem group_tagged {fs : List Fragment} (hcanonical : ∀ f ∈ fs, f.Canonical)
    (htagged : ∀ f ∈ fs, f.tag ≠ none) :
    (∀ l ∈ (group (fs.flatMap fragmentLines ++ [[]])).1, allBlank l = true) ∧
      (group (fs.flatMap fragmentLines ++ [[]])).2.map
        (fun p => (⟨some (String.ofList p.1), String.ofList (paragraph p.2)⟩ : Fragment)) = fs := by
  induction fs with
  | nil =>
    have hend : group [[]] = ([[]], []) := rfl
    rw [List.flatMap_nil, List.nil_append, hend]
    exact ⟨by simp [allBlank], rfl⟩
  | cons f fs ih =>
    obtain ⟨hf, hfs⟩ := List.forall_mem_cons.1 hcanonical
    obtain ⟨hne, htagged⟩ := List.forall_mem_cons.1 htagged
    obtain ⟨hblank, hrest⟩ := ih hfs htagged
    obtain ⟨tag, htag⟩ := Option.ne_none_iff_exists'.1 hne
    obtain ⟨hname, hword⟩ := hf.tag_word tag htag
    have hlines : CanonicalLines true (textLines f.text) := by
      have hcanon := canonicalLines_textLines hf
      rwa [htag] at hcanon
    have hprinted : fragmentLines f = tagLines tag.toList (textLines f.text) := by
      rw [fragmentLines, htag]
    have htext : paragraph (textLines f.text ++ (group (fs.flatMap fragmentLines ++ [[]])).1) =
        f.text.toList := by
      have houter := paragraph_of_outer hlines (List.forall_mem_nil (allBlank · = true)) hblank
      rwa [List.nil_append, unlines_textLines] at houter
    rw [List.flatMap_cons, List.append_assoc, hprinted,
      group_tagLines (by simpa using hname) hword hlines]
    refine ⟨List.forall_mem_nil _, ?_⟩
    rw [List.map_cons, hrest, htext, String.ofList_toList, String.ofList_toList, ← htag]

/-- Untagged lines and tagged fragments, with empty lines around them, are gathered into an untagged
fragment, if there is any text in it, and the same tagged ones. -/
theorem fragments_group {ls : List (List Char)} (hls : CanonicalLines false ls)
    {fs : List Fragment} (hcanonical : ∀ f ∈ fs, f.Canonical) (htagged : ∀ f ∈ fs, f.tag ≠ none) :
    fragments (group ([] :: (ls ++ (fs.flatMap fragmentLines ++ [[]])))) =
      (if (unlines ls).isEmpty then [] else [⟨none, String.ofList (unlines ls)⟩]) ++ fs := by
  obtain ⟨hblank, hrest⟩ := group_tagged hcanonical htagged
  have hempty : ¬ IsTagLine [] := by
    rintro ⟨_, _, heq, -⟩
    cases heq
  have hfirst : ∀ l ∈ [[]], allBlank l = true := List.forall_mem_singleton.2 rfl
  have hlead := paragraph_of_outer hls hfirst hblank
  rw [List.singleton_append] at hlead
  have hplain : ∀ l ∈ ls, ¬ IsTagLine l := hls.plain
  rw [group_of_not_tagLine hempty, group_append hplain, fragments, hlead, hrest]

/-- The lines of a canonical comment, with empty lines around them, are gathered into the same
comment. -/
theorem fragments_group_lines {c : Comment} (h : Canonical c) :
    fragments (group ([] :: (c.flatMap fragmentLines ++ [[]]))) = c := by
  by_cases hall : ∀ f ∈ c, f.tag ≠ none
  · exact fragments_group (canonicalLines_nil false) h.fragments hall
  · cases c with
    | nil => exact absurd (List.forall_mem_nil _) hall
    | cons f fs =>
      have htag : f.tag = none := by
        by_contra hsome
        exact hall (List.forall_mem_cons.2 ⟨hsome, h.tagged⟩)
      obtain ⟨hf, hfs⟩ := List.forall_mem_cons.1 h.fragments
      have hlines : CanonicalLines false (textLines f.text) := by
        have hcanon := canonicalLines_textLines hf
        rwa [htag] at hcanon
      have hprinted : fragmentLines f = textLines f.text := by rw [fragmentLines, htag]
      have htext : ¬ f.text.toList.isEmpty = true := by simpa using hf.untagged htag
      rw [List.flatMap_cons, List.append_assoc, hprinted, fragments_group hlines hfs h.tagged,
        unlines_textLines, if_neg htext, String.ofList_toList, ← htag]
      rfl

/-! ## Blocks -/

/-- The lines of decorated lines. -/
theorem lines_decorate {ls : List (List Char)} (h : ∀ l ∈ ls, Clean l) :
    lines (decorate ls ++ [' ']) = ls.map (fun l => ' ' :: '*' :: ' ' :: l) ++ [[' ']] := by
  induction ls with
  | nil => rfl
  | cons l ls ih =>
    obtain ⟨hl, hls⟩ := List.forall_mem_cons.1 h
    have hline : lines (' ' :: '*' :: ' ' :: l) = [' ' :: '*' :: ' ' :: l] :=
      splitAt_of_notMem (by simp [hl.single])
    have hcons : decorate (l :: ls) ++ [' '] =
        (' ' :: '*' :: ' ' :: l) ++ '\n' :: (decorate ls ++ [' ']) := by
      simp [decorate]
    rw [hcons, lines_append_cons, hline, ih hls]
    rfl

/-- A printed comment is a block. -/
theorem print_eq_block (c : Comment) :
    print c = block ("\n" ++ String.ofList (decorate (c.flatMap fragmentLines)) ++ " ") := by
  simp [print, block, ← String.toList_inj]

/-- **A canonical comment is read back from its block.** -/
theorem parse?_print {c : Comment} (h : Canonical c) : parse? (print c) = some c := by
  have hclean : ∀ l ∈ c.flatMap fragmentLines, Clean l := by
    intro l hl
    obtain ⟨f, hf, hl⟩ := List.mem_flatMap.1 hl
    exact clean_fragmentLines (h.fragments f hf) l hl
  have hundecorate : (c.flatMap fragmentLines).map (undecorate ∘ fun l => ' ' :: '*' :: ' ' :: l) =
      c.flatMap fragmentLines :=
    (List.map_congr_left fun l hl => undecorate_decorated (hclean l hl)).trans (List.map_id' _)
  have hbody : ("\n" ++ String.ofList (decorate (c.flatMap fragmentLines)) ++ " ").toList =
      [] ++ '\n' :: (decorate (c.flatMap fragmentLines) ++ [' ']) := by
    simp
  have hlines : bodyLines ("\n" ++ String.ofList (decorate (c.flatMap fragmentLines)) ++ " ") =
      [] :: (c.flatMap fragmentLines ++ [[]]) := by
    rw [bodyLines, hbody, lines_append_cons, lines_decorate hclean, List.map_append, List.map_append,
      List.map_map, hundecorate]
    rfl
  rw [print_eq_block, parse?_block, hlines, fragments_group_lines h]

/-! ## Reading and printing -/

/-- **Reading inverts printing on canonical comments, and reading gives no others.** -/
theorem parsing_inverts_printing :
    (∀ c, Canonical c → parse? (print c) = some c) ∧
      (∀ t : String, isBlock t.toList = true →
        ∃ c, parse? t = some c ∧ Canonical c ∧ parse? (print c) = parse? t) ∧
      ∀ c, (∃ t, parse? t = some c) ↔ Canonical c := by
  have himage : ∀ t : String, isBlock t.toList = true →
      ∃ c, parse? t = some c ∧ Canonical c := fun t ht =>
    ⟨_, if_pos ht, canonical_parseBody _⟩
  refine ⟨fun c => parse?_print, ?_, fun c => ⟨?_, fun h => ⟨print c, parse?_print h⟩⟩⟩
  · intro t ht
    obtain ⟨c, hparse, hcanonical⟩ := himage t ht
    exact ⟨c, hparse, hcanonical, by rw [parse?_print hcanonical, hparse]⟩
  · rintro ⟨t, ht⟩
    rw [parse?] at ht
    split at ht
    · obtain rfl := Option.some.inj ht
      exact canonical_parseBody _
    · cases ht

/-- A comment with an empty line, an indented line, a line with a star and an at sign that opens no tag;
then a tag without text, a tag in front of another one, and a tag with indented text. -/
def irregular : Comment :=
  [⟨none, "First.\n\n  * indented\n@ no tag"⟩, ⟨some "internal", ""⟩, ⟨some "see", "@other\n*"⟩,
    ⟨some "example", "  let x\n  done"⟩]

/-- A block in an untidy layout with the same fragments. -/
def untidy : String :=
  " /** First. \n\n*   * indented\n@ no tag\n * @internal\n @see  @other\n **\n@example\n" ++
    "*\n *   let x\n*   done\n*/\n"

/-- An irregular comment is printed line by line, and read from its own block as from an untidy one. -/
theorem parsing_inverts_printing_irregular :
    Canonical irregular ∧ isBlock untidy.toList = true ∧ parse? untidy = some irregular ∧
      print irregular =
        "/**\n * First.\n * \n *   * indented\n * @ no tag\n * @internal\n * @see @other\n * *\n" ++
          " * @example\n *   let x\n *   done\n */" ∧
      parse? (print irregular) = some irregular ∧
      (∃ c, parse? untidy = some c ∧ Canonical c ∧ parse? (print c) = parse? untidy) := by
  have hcanonical : Canonical irregular := by decide +kernel
  have hblock : isBlock untidy.toList = true := by decide +kernel
  refine ⟨hcanonical, hblock, by decide +kernel, by decide +kernel, ?_, ?_⟩
  · exact parsing_inverts_printing.1 irregular hcanonical
  · exact parsing_inverts_printing.2.1 untidy hblock

end Comment

end TypeAtlas
