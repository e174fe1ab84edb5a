import Mathlib.Data.List.DropRight
import TypeAtlas.Comment.Block

/-! # The lines of a documentation block

What each step of `Comment.parse?` does to the lines of a block.

* `Comment.Clean`: a line without trailing blanks and line feeds; removing the decoration makes a line
  clean.
* `Comment.IsTagLine`: a line that opens a tagged fragment.
* `Comment.CanonicalLines`: the lines of a fragment's text.
* `Comment.block`: the block with a given body, which is read by the lines of that body (`parse?_block`).

Lines are gathered under the tag line before them (`group_of_tagLine`, `group_append`), and blank lines
around a paragraph are dropped (`dropOuterBlank_of_outer`). What is left of any clean lines are canonical
lines (`canonicalLines_dropOuterBlank`). -/

namespace TypeAtlas.Comment

open Text

/-! ## Word characters and blanks -/

/-- The blank characters, as inclusive ranges of code points. -/
def blankRanges : List (Nat × Nat) :=
  [(9, 13), (28, 32), (0x85, 0x85), (0xA0, 0xA0), (0x1680, 0x1680), (0x2000, 0x200A),
    (0x2028, 0x2028), (0x2029, 0x2029), (0x202F, 0x202F), (0x205F, 0x205F), (0x3000, 0x3000)]

/-- A character is blank when it lies in one of the ranges. -/
theorem isBlank_eq (c : Char) :
    isBlank c = blankRanges.any fun r => r.1 ≤ c.toNat && c.toNat ≤ r.2 := by
  have hpoint : ∀ n : Nat, (c.toNat == n) = (decide (n ≤ c.toNat) && decide (c.toNat ≤ n)) := by
    intro n
    rw [Bool.eq_iff_iff]
    simp only [beq_iff_eq, Bool.and_eq_true, decide_eq_true_eq]
    omega
  simp only [isBlank, blankRanges, List.any_cons, List.any_nil, Bool.or_false, Bool.or_assoc, hpoint]

/-- No blank character is a word character. -/
theorem isBlank_of_isWord {c : Char} (h : isWord c = true) : isBlank c = false := by
  have hnone : ∀ r ∈ blankRanges, ∀ n ∈ List.range' r.1 (r.2 + 1 - r.1),
      isWord (Char.ofNat n) = false := by
    decide +kernel
  rw [isBlank_eq, List.any_eq_false]
  intro r hr hc
  simp only [Bool.and_eq_true, decide_eq_true_eq] at hc
  have hword := hnone r hr c.toNat (List.mem_range'_1.2 (by omega))
  rw [Char.ofNat_toNat, h] at hword
  cases hword

/-! ## Clean lines -/

/-- A line has no blanks at its end, and no line feed. -/
structure Clean (l : List Char) : Prop where
  /-- The last character is not blank. -/
  trimmed : ∀ c, l.getLast? = some c → isBlank c = false
  /-- The line is one line. -/
  single : '\n' ∉ l

/-- The end of a clean line is clean. -/
theorem Clean.of_suffix {l r : List Char} (h : Clean l) (hr : r <:+ l) : Clean r := by
  refine ⟨?_, fun hmem => h.single (hr.subset hmem)⟩
  intro c hc
  obtain ⟨s, rfl⟩ := hr
  apply h.trimmed
  rw [List.getLast?_append, hc, Option.some_or]

/-- A line that ends with a clean one is clean. -/
theorem Clean.append_left {l : List Char} (h : Clean l) (hne : l ≠ []) {s : List Char}
    (hs : '\n' ∉ s) : Clean (s ++ l) := by
  refine ⟨fun c hc => h.trimmed c ?_, ?_⟩
  · rwa [List.getLast?_append_of_ne_nil _ hne] at hc
  · rw [List.mem_append, not_or]
    exact ⟨hs, h.single⟩

/-- Trimming the end of a line makes it clean. -/
theorem clean_trimEnd {l : List Char} (h : '\n' ∉ l) : Clean (trimEnd l) :=
  ⟨fun _ hc => isBlank_of_getLast?_trimEnd hc, fun hmem => h ((isPrefix_trimEnd l).subset hmem)⟩

/-- Removing the decoration makes a line clean. -/
theorem clean_undecorate {raw : List Char} (h : '\n' ∉ raw) : Clean (undecorate raw) := by
  have hstart : '\n' ∉ trimStart raw := fun hmem => h ((List.dropWhile_suffix _).subset hmem)
  rw [undecorate]
  split
  · rename_i r hraw
    rw [hraw] at hstart
    exact clean_trimEnd fun hmem => hstart (by simp [hmem])
  · rename_i r hnot hraw
    rw [hraw] at hstart
    exact clean_trimEnd fun hmem => hstart (by simp [hmem])
  · exact clean_trimEnd hstart

/-- The decoration of a clean line can be removed again. -/
theorem undecorate_decorated {l : List Char} (h : Clean l) :
    undecorate (' ' :: '*' :: ' ' :: l) = l := by
  have hstart : trimStart (' ' :: '*' :: ' ' :: l) = '*' :: ' ' :: l := by
    rw [trimStart_cons, if_pos (by decide), trimStart_cons, if_neg (by decide)]
  rw [undecorate, hstart]
  exact trimEnd_eq_self h.trimmed

/-! ## Tag lines -/

/-- A line that opens a tagged fragment: an at sign with a word character behind it. -/
def IsTagLine (l : List Char) : Prop := ∃ c r, l = '@' :: c :: r ∧ isWord c = true

/-- The lines that open no tagged fragment. -/
theorem tagLine?_eq_none_iff {l : List Char} : tagLine? l = none ↔ ¬ IsTagLine l := by
  unfold tagLine?
  split
  · rename_i r
    cases r with
    | nil => simp [IsTagLine]
    | cons c r => cases hc : isWord c <;> simp [IsTagLine, hc]
  · rename_i hat
    simp only [true_iff]
    rintro ⟨c, r, rfl, -⟩
    exact hat _ rfl

/-- Whether a line opens a tagged fragment can be computed. -/
instance (l : List Char) : Decidable (IsTagLine l) :=
  decidable_of_iff (tagLine? l ≠ none) (tagLine?_eq_none_iff.not.trans Classical.not_not)

/-- The parts of a tag line. -/
theorem tagLine?_eq_some {l tag text : List Char} (h : tagLine? l = some (tag, text)) :
    tag ≠ [] ∧ (∀ c ∈ tag, isWord c = true) ∧ text <:+ l := by
  unfold tagLine? at h
  split at h
  · rename_i r
    dsimp only at h
    split at h
    · cases h
    · rename_i hne
      obtain ⟨rfl, rfl⟩ := Prod.mk.inj (Option.some.inj h)
      refine ⟨by simpa using hne, fun c hc => List.mem_takeWhile_imp hc, ?_⟩
      have hrest : r.dropWhile isWord <:+ '@' :: r :=
        (List.dropWhile_suffix isWord).trans (List.suffix_cons '@' r)
      exact (List.dropWhile_suffix isBlank).trans hrest
  · cases h

/-- Nothing is dropped before an element that is to stay. -/
theorem dropWhile_of_head? {α : Type} {p : α → Bool} {xs : List α}
    (h : ∀ x, xs.head? = some x → p x = false) : xs.dropWhile p = xs := by
  cases xs with
  | nil => rfl
  | cons x xs => exact List.dropWhile_cons_of_neg (by simp [h x rfl])

/-- The first element behind those that are dropped is one that is to stay. -/
theorem eq_false_of_head?_dropWhile {α : Type} {p : α → Bool} {xs : List α} {x : α}
    (h : (xs.dropWhile p).head? = some x) : p x = false := by
  have hhead := List.head?_dropWhile_not p xs
  rw [h] at hhead
  exact hhead

/-- A tag line, by the tag and what stands behind it. -/
theorem tagLine?_append {tag : List Char} (hne : tag ≠ []) (hword : ∀ c ∈ tag, isWord c = true)
    (rest : List Char) (hrest : ∀ c, rest.head? = some c → isWord c = false) :
    tagLine? ('@' :: (tag ++ rest)) = some (tag, trimStart rest) := by
  have htake : rest.takeWhile isWord = [] := by
    cases rest with
    | nil => rfl
    | cons c r => rw [List.takeWhile_cons_of_neg (by simp [hrest c rfl])]
  have hdrop : rest.dropWhile isWord = rest := dropWhile_of_head? hrest
  rw [tagLine?, List.takeWhile_append_of_pos hword, List.dropWhile_append_of_pos hword, htake, hdrop,
    List.append_nil, if_neg (by simpa using hne)]

/-! ## Lines under tags -/

/-- A line that opens no fragment belongs to the lines before the first tag line. -/
theorem group_of_not_tagLine {l : List Char} (h : ¬ IsTagLine l) (ls : List (List Char)) :
    group (l :: ls) = (l :: (group ls).1, (group ls).2) := by
  rw [group, tagLine?_eq_none_iff.2 h]

/-- A tag line takes the lines up to the next one. -/
theorem group_of_tagLine {l tag text : List Char} (h : tagLine? l = some (tag, text))
    (ls : List (List Char)) :
    group (l :: ls) =
      ([], (tag, if text.isEmpty then (group ls).1 else text :: (group ls).1) :: (group ls).2) := by
  rw [group, h]

/-- Lines that open no fragment belong to the lines before the first tag line. -/
theorem group_append {ls : List (List Char)} (h : ∀ l ∈ ls, ¬ IsTagLine l)
    (rest : List (List Char)) : group (ls ++ rest) = (ls ++ (group rest).1, (group rest).2) := by
  induction ls with
  | nil => rfl
  | cons l ls ih =>
    rw [List.cons_append, group_of_not_tagLine (h l List.mem_cons_self),
      ih fun l' hl' => h l' (List.mem_cons_of_mem l hl')]
    rfl

/-- A tag with the lines under it: of these only the first, which may stand on the tag line, can look
like a tag line itself. -/
structure TaggedLines (tag : List Char) (ls : List (List Char)) : Prop where
  /-- There is a tag. -/
  tag_ne_nil : tag ≠ []
  /-- The tag is a word. -/
  tag_word : ∀ c ∈ tag, isWord c = true
  /-- The lines are clean. -/
  clean : ∀ l ∈ ls, Clean l
  /-- None but the first opens a fragment. -/
  plain : ∀ l ∈ ls.tail, ¬ IsTagLine l

/-- Clean lines stay clean when they are grouped, and tag lines open fragments. -/
theorem group_clean {ls : List (List Char)} (h : ∀ l ∈ ls, Clean l) :
    (∀ l ∈ (group ls).1, Clean l ∧ ¬ IsTagLine l) ∧ ∀ p ∈ (group ls).2, TaggedLines p.1 p.2 := by
  induction ls with
  | nil => simp [group]
  | cons l ls ih =>
    obtain ⟨hl, hls⟩ := List.forall_mem_cons.1 h
    obtain ⟨hlead, htagged⟩ := ih hls
    cases htag : tagLine? l with
    | none =>
      have hnot := tagLine?_eq_none_iff.1 htag
      rw [group_of_not_tagLine hnot]
      exact ⟨List.forall_mem_cons.2 ⟨⟨hl, hnot⟩, hlead⟩, htagged⟩
    | some parts =>
      obtain ⟨tag, text⟩ := parts
      obtain ⟨hne, hword, hsuffix⟩ := tagLine?_eq_some htag
      rw [group_of_tagLine htag]
      refine ⟨by simp, List.forall_mem_cons.2 ⟨⟨hne, hword, ?_, ?_⟩, htagged⟩⟩
      · split
        · exact fun l' hl' => (hlead l' hl').1
        · exact List.forall_mem_cons.2 ⟨hl.of_suffix hsuffix, fun l' hl' => (hlead l' hl').1⟩
      · split
        · exact fun l' hl' => (hlead l' (List.mem_of_mem_tail hl')).2
        · exact fun l' hl' => (hlead l' hl').2

/-! ## Paragraphs -/

/-- What is left of some lines is a part of them. -/
theorem isInfix_dropOuterBlank (ls : List (List Char)) : dropOuterBlank ls <:+: ls :=
  (List.rdropWhile_prefix allBlank _).isInfix.trans (List.dropWhile_suffix allBlank).isInfix

/-- The first line that is left is not blank. -/
theorem allBlank_head?_dropOuterBlank {ls : List (List Char)} {l : List Char}
    (h : (dropOuterBlank ls).head? = some l) : allBlank l = false := by
  obtain ⟨rest, hrest⟩ := List.rdropWhile_prefix allBlank (ls.dropWhile allBlank)
  have hhead : (ls.dropWhile allBlank).head? = some l := by
    rw [← hrest, List.head?_append, show (List.rdropWhile allBlank _).head? = some l from h]
    rfl
  exact eq_false_of_head?_dropWhile hhead

/-- The last line that is left is not blank. -/
theorem allBlank_getLast?_dropOuterBlank {ls : List (List Char)} {l : List Char}
    (h : (dropOuterBlank ls).getLast? = some l) : allBlank l = false := by
  rw [dropOuterBlank, List.getLast?_reverse] at h
  exact eq_false_of_head?_dropWhile h

/-- Blank lines around lines that start and end with others are dropped. -/
theorem dropOuterBlank_of_outer {before ls after : List (List Char)}
    (hbefore : ∀ l ∈ before, allBlank l = true) (hafter : ∀ l ∈ after, allBlank l = true)
    (hfirst : ∀ l, ls.head? = some l → allBlank l = false)
    (hlast : ∀ l, ls.getLast? = some l → allBlank l = false) :
    dropOuterBlank (before ++ (ls ++ after)) = ls := by
  have hafter' : ∀ l ∈ after.reverse, allBlank l = true := by simpa using hafter
  rw [dropOuterBlank, List.dropWhile_append_of_pos hbefore]
  cases ls with
  | nil =>
    have hnil : after.dropWhile allBlank = [] := List.dropWhile_eq_nil_iff.2 hafter
    rw [List.nil_append, hnil]
    rfl
  | cons l ls =>
    have hl : (l :: ls ++ after).dropWhile allBlank = l :: ls ++ after :=
      dropWhile_of_head? (by simpa using hfirst)
    have hend : (l :: ls).reverse.dropWhile allBlank = (l :: ls).reverse := by
      apply dropWhile_of_head?
      intro x hx
      rw [List.head?_reverse] at hx
      exact hlast x hx
    rw [hl, List.reverse_append, List.dropWhile_append_of_pos hafter', hend, List.reverse_reverse]

/-- The lines of the text of a fragment, as they are left when a block is read. -/
@[mk_iff]
structure CanonicalLines (tagged : Bool) (ls : List (List Char)) : Prop where
  /-- No line has blanks at its end. -/
  trimmed : ∀ l ∈ ls, ∀ c, l.getLast? = some c → isBlank c = false
  /-- The first line is not empty. -/
  first : ls.head? ≠ some []
  /-- The last line is not empty. -/
  last : ls.getLast? ≠ some []
  /-- No line looks like a tag line, but for the first one behind a tag. -/
  plain : ∀ l ∈ (if tagged then ls.tail else ls), ¬ IsTagLine l

/-- Whether lines are canonical can be computed. -/
instance (tagged : Bool) (ls : List (List Char)) : Decidable (CanonicalLines tagged ls) :=
  decidable_of_iff
    ((∀ l ∈ ls, l.getLast?.all (fun c => !isBlank c) = true) ∧ ls.head? ≠ some [] ∧
      ls.getLast? ≠ some [] ∧ ∀ l ∈ (if tagged then ls.tail else ls), ¬ IsTagLine l)
    (by simp only [canonicalLines_iff, Option.all_eq_true, Bool.not_eq_true'])

/-- No lines are canonical. -/
theorem canonicalLines_nil (tagged : Bool) : CanonicalLines tagged [] where
  trimmed l hl := by cases hl
  first := by simp
  last := by simp
  plain := by cases tagged <;> simp

/-- What is left of clean lines are canonical lines. -/
theorem canonicalLines_dropOuterBlank {tagged : Bool} {ls : List (List Char)}
    (hclean : ∀ l ∈ ls, Clean l)
    (hplain : ∀ l ∈ (if tagged then ls.tail else ls), ¬ IsTagLine l) :
    CanonicalLines tagged (dropOuterBlank ls) where
  trimmed l hl := (hclean l ((isInfix_dropOuterBlank ls).subset hl)).trimmed
  first h := by
    have hblank := allBlank_head?_dropOuterBlank h
    cases hblank
  last h := by
    have hblank := allBlank_getLast?_dropOuterBlank h
    cases hblank
  plain := by
    have hsub := (isInfix_dropOuterBlank ls).sublist
    cases tagged with
    | true => exact fun l hl => hplain l (hsub.tail.subset hl)
    | false => exact fun l hl => hplain l (hsub.subset hl)

/-- The text of clean lines is empty, or it has canonical lines. -/
theorem canonicalLines_paragraph (tagged : Bool) {ls : List (List Char)}
    (hclean : ∀ l ∈ ls, Clean l)
    (hplain : ∀ l ∈ (if tagged then ls.tail else ls), ¬ IsTagLine l) :
    paragraph ls = [] ∨ CanonicalLines tagged (lines (paragraph ls)) := by
  have hcanonical := canonicalLines_dropOuterBlank hclean hplain
  rw [paragraph]
  cases hleft : dropOuterBlank ls with
  | nil => exact Or.inl rfl
  | cons l rest =>
    have hsingle : ∀ l' ∈ dropOuterBlank ls, '\n' ∉ l' :=
      fun l' hl' => (hclean l' ((isInfix_dropOuterBlank ls).subset hl')).single
    rw [← hleft, lines_unlines (by simp [hleft]) hsingle]
    exact Or.inr hcanonical

/-- The text of canonical lines with blank lines around them. -/
theorem paragraph_of_outer {tagged : Bool} {before ls after : List (List Char)}
    (h : CanonicalLines tagged ls) (hbefore : ∀ l ∈ before, allBlank l = true)
    (hafter : ∀ l ∈ after, allBlank l = true) :
    paragraph (before ++ (ls ++ after)) = unlines ls := by
  have hline : ∀ l ∈ ls, l ≠ [] → allBlank l = false := by
    intro l hl hne
    rw [← Bool.not_eq_true, ← trimEnd_eq_nil_iff, trimEnd_eq_self (h.trimmed l hl)]
    exact hne
  rw [paragraph, dropOuterBlank_of_outer hbefore hafter]
  · intro l hl
    exact hline l (List.mem_of_mem_head? hl) fun e => h.first (e ▸ hl)
  · intro l hl
    exact hline l (List.mem_of_getLast? hl) fun e => h.last (e ▸ hl)

/-! ## Blocks -/

/-- The block with a given body. -/
def block (b : String) : String := "/**" ++ b ++ "*/"

/-- The characters of a block. -/
theorem toList_block (b : String) : (block b).toList = opener ++ (b.toList ++ closer) := by
  simp [block, opener, closer]

/-- A block has no outer blanks. -/
theorem trim_block (b : String) : trim (block b).toList = (block b).toList := by
  have hstart : trimStart (block b).toList = (block b).toList := by
    rw [toList_block, opener, List.cons_append, trimStart_cons, if_neg (by decide)]
  rw [trim, hstart]
  apply trimEnd_eq_self
  intro c hc
  rw [toList_block, ← List.append_assoc, List.getLast?_append] at hc
  obtain rfl : '/' = c := Option.some.inj hc
  decide

/-- A block is a documentation block, whatever its body. -/
theorem isBlock_block (b : String) : isBlock (block b).toList = true := by
  have hopen : opener <+: (block b).toList := toList_block b ▸ List.prefix_append _ _
  have hclose : closer <:+ (block b).toList := by
    rw [toList_block, ← List.append_assoc]
    exact List.suffix_append _ _
  -- the empty comment is shorter than an opener and a closer
  have hne : (block b).toList ≠ ['/', '*', '*', '/'] := by
    intro h
    have hlength := congrArg List.length h
    simp only [toList_block, opener, closer, List.length_append, List.length_cons,
      List.length_nil] at hlength
    omega
  simp [isBlock, trim_block, List.isPrefixOf_iff_prefix.2 hopen, List.isSuffixOf_iff_suffix.2 hclose,
    hne]

/-- The body of a block. -/
theorem body_block (b : String) : body (block b).toList = b.toList := by
  have hinner : (block b).toList.drop 3 = b.toList ++ closer := by
    rw [toList_block]
    rfl
  rw [body, trim_block, hinner]
  exact List.take_left' (by simp [closer])

/-- The lines of a body without their decoration. -/
def bodyLines (b : String) : List (List Char) := (lines b.toList).map undecorate

/-- No line of a body holds a line feed. -/
theorem notMem_bodyLines {b : String} : ∀ l ∈ bodyLines b, '\n' ∉ l := by
  intro l hl
  obtain ⟨raw, hraw, rfl⟩ := List.mem_map.1 hl
  exact (clean_undecorate (notMem_of_mem_splitAt hraw)).single

/-- A line feed between two bodies separates their lines. -/
theorem bodyLines_append (b s : String) : bodyLines (b ++ "\n" ++ s) = bodyLines b ++ bodyLines s := by
  have htext : (b ++ "\n" ++ s).toList = b.toList ++ '\n' :: s.toList := by simp
  rw [bodyLines, htext, lines_append_cons, List.map_append]
  rfl

/-- **A block is read by the lines of its body**, whatever these are. -/
theorem parse?_block (b : String) : parse? (block b) = some (fragments (group (bodyLines b))) := by
  rw [parse?, if_pos (isBlock_block b), body_block]
  rfl

end TypeAtlas.Comment
