import Mathlib.Data.List.Forall2
import TypeAtlas.Proofs.BlockLines

/-! # The spacing of lines

Blanks around the lines of a block have no effect on what `Comment.parse?` reads from it.

* `Comment.Padding`: blanks that can stand on one line.
* `Comment.Respaced`: a line and the same line with other blanks around it.
* `Comment.withReturns`, `Comment.indented`: a text with a carriage return at the end of each line, and
  with blanks before each line.

A line counts by what is left of it without outer blanks (`undecorate_trim`). The one line where this is
not plain is a star with blanks behind it: the blank that belongs to the star is among those that
are trimmed. Main statement: `reading_ignores_spacing`. -/

namespace TypeAtlas

open Text

/-! ## Trimming -/

namespace Text

/-- The first character is trimmed at the end when it is blank and all behind it is. -/
theorem trimEnd_cons (c : Char) (r : List Char) :
    trimEnd (c :: r) = if trimEnd r = [] ∧ isBlank c = true then [] else c :: trimEnd r := by
  rw [trimEnd]
  cases h : trimEnd r with
  | nil => by_cases hc : isBlank c = true <;> simp [hc]
  | cons d t => simp

/-- A first character that is not blank stays. -/
theorem trimEnd_cons_of_not_blank {c : Char} (h : isBlank c = false) (r : List Char) :
    trimEnd (c :: r) = c :: trimEnd r := by
  rw [trimEnd_cons, if_neg]
  simp [h]

/-- Trimming the end a second time changes nothing. -/
theorem trimEnd_trimEnd (s : List Char) : trimEnd (trimEnd s) = trimEnd s :=
  trimEnd_eq_self fun _ hc => isBlank_of_getLast?_trimEnd hc

/-- Blanks at the end are trimmed. -/
theorem trimEnd_append_blank (s : List Char) {v : List Char} (hv : allBlank v = true) :
    trimEnd (s ++ v) = trimEnd s := by
  induction s with
  | nil => exact (trimEnd_eq_nil_iff v).2 hv
  | cons c r ih => rw [List.cons_append, trimEnd_cons, trimEnd_cons, ih]

/-- Blanks around a text are trimmed. -/
theorem trim_append_blank {u v : List Char} (hu : allBlank u = true) (hv : allBlank v = true)
    (s : List Char) : trim (u ++ (s ++ v)) = trim s := by
  have hstart : trimStart (u ++ (s ++ v)) = trimStart (s ++ v) :=
    List.dropWhile_append_of_pos (List.all_eq_true.1 hu)
  have hblank : trimStart v = [] := List.dropWhile_eq_nil_iff.2 (List.all_eq_true.1 hv)
  rw [trim, trim, hstart, trimStart, List.dropWhile_append, ← trimStart, ← trimStart, hblank]
  -- either `s` is blank as a whole, or `v` stands at the end of what is left
  split
  · rename_i hnil
    rw [List.isEmpty_iff.1 hnil]
  · exact trimEnd_append_blank _ hv

end Text

namespace Comment

/-! ## Lines -/

/-- Blanks that can stand on one line. -/
def Padding (u : List Char) : Prop := ∀ c ∈ u, isBlank c = true ∧ c ≠ '\n'

/-- Whether blanks can stand on one line can be computed. -/
instance (u : List Char) : Decidable (Padding u) :=
  decidable_of_iff (u.all (fun c => isBlank c && c != '\n') = true) (by simp [Padding])

/-- A line and the same line with other blanks around it. -/
def Respaced (l l' : List Char) : Prop := ∃ u v, Padding u ∧ Padding v ∧ l' = u ++ (l ++ v)

/-- Padding is blank. -/
theorem Padding.allBlank {u : List Char} (h : Padding u) : allBlank u = true :=
  List.all_eq_true.2 fun c hc => (h c hc).1

/-- Padding stays on its line. -/
theorem Padding.single {u : List Char} (h : Padding u) : '\n' ∉ u := fun hmem => (h _ hmem).2 rfl

/-- No blanks are padding. -/
theorem padding_nil : Padding [] := List.forall_mem_nil _

/-- A line is read by what is left of it without outer blanks. -/
theorem undecorate_trim (l : List Char) : undecorate (trim l) = undecorate l := by
  rw [undecorate, undecorate, trim]
  cases hl : trimStart l with
  | nil => rfl
  | cons c r =>
    have hc : isBlank c = false := eq_false_of_head?_dropWhile (congrArg List.head? hl)
    rw [trimEnd_cons_of_not_blank hc, trimStart_cons, if_neg (by simp [hc])]
    by_cases hstar : c = '*'
    · subst hstar
      cases r with
      | nil => rfl
      | cons d r =>
        by_cases hd : d = ' '
        · -- the blank behind the star is trimmed itself when nothing else follows
          subst hd
          rw [trimEnd_cons]
          by_cases hr : trimEnd r = []
          · simp [hr, show isBlank ' ' = true from rfl]
          · simp [hr, trimEnd_trimEnd]
        · by_cases hblank : trimEnd r = [] ∧ isBlank d = true
          · simp [hd, trimEnd_cons, hblank]
          · simp [hd, trimEnd_cons, hblank, trimEnd_trimEnd]
    · simp [hstar, trimEnd_cons_of_not_blank hc, trimEnd_trimEnd]

/-- Other blanks around a line change nothing about how it is read. -/
theorem Respaced.undecorate_eq {l l' : List Char} (h : Respaced l l') :
    undecorate l' = undecorate l := by
  obtain ⟨u, v, hu, hv, rfl⟩ := h
  rw [← undecorate_trim, trim_append_blank hu.allBlank hv.allBlank, undecorate_trim]

/-- Other blanks around a line leave it one line. -/
theorem Respaced.single {l l' : List Char} (h : Respaced l l') (hl : '\n' ∉ l) : '\n' ∉ l' := by
  obtain ⟨u, v, hu, hv, rfl⟩ := h
  simp only [List.mem_append, not_or]
  exact ⟨hu.single, hl, hv.single⟩

/-- Other blanks around lines leave them as many lines, which are read in the same way. -/
theorem forall₂_respaced {ls ls' : List (List Char)} (h : List.Forall₂ Respaced ls ls')
    (hls : ∀ l ∈ ls, '\n' ∉ l) :
    (∀ l ∈ ls', '\n' ∉ l) ∧ ls'.map undecorate = ls.map undecorate := by
  induction h with
  | nil => exact ⟨List.forall_mem_nil _, rfl⟩
  | cons hl _ ih =>
    obtain ⟨hfirst, hrest⟩ := List.forall_mem_cons.1 hls
    obtain ⟨hsingle, hread⟩ := ih hrest
    refine ⟨List.forall_mem_cons.2 ⟨hl.single hfirst, hsingle⟩, ?_⟩
    rw [List.map_cons, List.map_cons, hl.undecorate_eq, hread]

/-! ## Bodies -/

/-- The lines of joined lines without their decoration; no lines are joined to one that is empty. -/
theorem bodyLines_unlines {ls : List (List Char)} (hne : ls ≠ []) (h : ∀ l ∈ ls, '\n' ∉ l) :
    bodyLines (String.ofList (unlines ls)) = ls.map undecorate := by
  rw [bodyLines, String.toList_ofList, lines_unlines hne h]

/-- Other blanks around the lines of a body change nothing about how they are read. -/
theorem bodyLines_respaced {ls ls' : List (List Char)} (hls : ∀ l ∈ ls, '\n' ∉ l)
    (h : List.Forall₂ Respaced ls ls') :
    bodyLines (String.ofList (unlines ls')) = bodyLines (String.ofList (unlines ls)) := by
  obtain ⟨hls', hread⟩ := forall₂_respaced h hls
  -- joining loses the difference between no line and one that is empty
  cases h with
  | nil => rfl
  | cons hl htail =>
    rw [bodyLines_unlines (List.cons_ne_nil _ _) hls', bodyLines_unlines (List.cons_ne_nil _ _) hls,
      hread]

/-- A text with a carriage return before each line feed. -/
def withReturns (s : List Char) : List Char :=
  s.flatMap fun c => if c = '\n' then ['\r', '\n'] else [c]

/-- A text with blanks before each line. -/
def indented (u s : List Char) : List Char := unlines ((lines s).map (u ++ ·))

/-- A line without line feeds gets no carriage return. -/
theorem withReturns_of_notMem {l : List Char} (h : '\n' ∉ l) : withReturns l = l := by
  induction l with
  | nil => rfl
  | cons c r ih =>
    rw [List.mem_cons, not_or] at h
    rw [withReturns, List.flatMap_cons, ← withReturns, ih h.2, if_neg (Ne.symm h.1)]
    rfl

/-- Carriage returns at the ends of lines are other blanks around them. -/
theorem exists_respaced_withReturns {ls : List (List Char)} (h : ∀ l ∈ ls, '\n' ∉ l) :
    ∃ ls', List.Forall₂ Respaced ls ls' ∧ withReturns (unlines ls) = unlines ls' := by
  have hreturn : Padding ['\r'] := by decide
  -- every line but the last has a line feed behind it
  fun_induction unlines ls with
  | case1 => exact ⟨[], .nil, rfl⟩
  | case2 l =>
    have hsame : Respaced l l := ⟨[], [], padding_nil, padding_nil, by simp⟩
    exact ⟨[l], .cons hsame .nil, withReturns_of_notMem (h l List.mem_cons_self)⟩
  | case3 l ls hls ih =>
    obtain ⟨hl, hrest⟩ := List.forall_mem_cons.1 h
    obtain ⟨ls', hspaced, hunlines⟩ := ih hrest
    have hend : Respaced l (l ++ ['\r']) := ⟨[], ['\r'], padding_nil, hreturn, rfl⟩
    have hne : ls' ≠ [] := by
      rintro rfl
      exact hls (List.forall₂_nil_right_iff.1 hspaced)
    refine ⟨(l ++ ['\r']) :: ls', .cons hend hspaced, ?_⟩
    have hsplit : withReturns (l ++ '\n' :: unlines ls) =
        withReturns l ++ '\r' :: '\n' :: withReturns (unlines ls) := by
      simp [withReturns]
    rw [hsplit, withReturns_of_notMem hl, hunlines, unlines, List.append_assoc]
    · rfl
    · exact hne

/-! ## Blocks -/

/-- **Reading a block ignores the spacing of its lines.** Blocks whose lines differ in nothing but the
blanks around them are read as the same comment. So are a block with carriage returns at the ends of
its lines, and one whose lines are all indented by the same blanks. -/
theorem reading_ignores_spacing :
    (∀ ls ls' : List (List Char), (∀ l ∈ ls, '\n' ∉ l) → List.Forall₂ Respaced ls ls' →
      ∃ c, parse? (block (String.ofList (unlines ls))) = some c ∧
        parse? (block (String.ofList (unlines ls'))) = some c) ∧
      (∀ s : String, parse? (block (String.ofList (withReturns s.toList))) = parse? (block s)) ∧
      ∀ (u : List Char) (s : String), Padding u →
        parse? (block (String.ofList (indented u s.toList))) = parse? (block s) := by
  have hread : ∀ ls ls' : List (List Char), (∀ l ∈ ls, '\n' ∉ l) → List.Forall₂ Respaced ls ls' →
      parse? (block (String.ofList (unlines ls'))) = parse? (block (String.ofList (unlines ls))) := by
    intro ls ls' hls h
    rw [parse?_block, parse?_block, bodyLines_respaced hls h]
  have hlines : ∀ s : String, ∀ l ∈ lines s.toList, '\n' ∉ l := fun s l hl =>
    notMem_of_mem_splitAt hl
  refine ⟨?_, ?_, ?_⟩
  · intro ls ls' hls h
    exact ⟨_, parse?_block _, (hread ls ls' hls h).trans (parse?_block _)⟩
  · intro s
    obtain ⟨ls', hspaced, hunlines⟩ := exists_respaced_withReturns (hlines s)
    have hsame := hread _ ls' (hlines s) hspaced
    rwa [← hunlines, unlines_lines, String.ofList_toList] at hsame
  · intro u s hu
    have hspaced : List.Forall₂ Respaced (lines s.toList) ((lines s.toList).map (u ++ ·)) := by
      rw [List.forall₂_map_right_iff, List.forall₂_same]
      intro l _
      exact ⟨u, [], hu, padding_nil, by rw [List.append_nil]⟩
    have hsame := hread _ _ (hlines s) hspaced
    rwa [unlines_lines, String.ofList_toList] at hsame

/-- A text, a star alone, an indented line, and a tag line without a star. -/
def tidyLines : List (List Char) :=
  [" One.".toList, "*".toList, "*   two".toList, "@see three".toList, []]

/-- The same lines with tabs, carriage returns and other blanks around them. -/
def untidyLines : List (List Char) :=
  ["  One. \t".toList, "\t*  \r".toList, "\u00a0*   two\u2028".toList, "\u3000@see three\r".toList,
    "  \r".toList]

/-- Blanks of all kinds around the lines of a block, behind a star alone too, change nothing; neither do
carriage returns alone, nor tabs before each line. -/
theorem reading_ignores_spacing_untidy :
    (∀ l ∈ tidyLines, '\n' ∉ l) ∧ List.Forall₂ Respaced tidyLines untidyLines ∧
      parse? (block (String.ofList (unlines tidyLines))) =
        some [⟨none, "One.\n\n  two"⟩, ⟨some "see", "three"⟩] ∧
      parse? (block (String.ofList (unlines untidyLines))) =
        some [⟨none, "One.\n\n  two"⟩, ⟨some "see", "three"⟩] ∧
      parse? (block (String.ofList (withReturns " One.\n*\n".toList))) = parse? (block " One.\n*\n") ∧
      Padding ['\t', '\t'] ∧
      parse? (block (String.ofList (indented ['\t', '\t'] " One.\n*\n".toList))) =
        parse? (block " One.\n*\n") := by
  have hsingle : ∀ l ∈ tidyLines, '\n' ∉ l := by decide +kernel
  have hspaced : List.Forall₂ Respaced tidyLines untidyLines :=
    .cons ⟨[' '], [' ', '\t'], by decide, by decide, rfl⟩ <|
    .cons ⟨['\t'], [' ', ' ', '\r'], by decide, by decide, rfl⟩ <|
    .cons ⟨['\u00a0'], ['\u2028'], by decide, by decide, rfl⟩ <|
    .cons ⟨['\u3000'], ['\r'], by decide, by decide, rfl⟩ <|
    .cons ⟨[' ', ' '], ['\r'], by decide, by decide, rfl⟩ .nil
  have hread : parse? (block (String.ofList (unlines tidyLines))) =
      some [⟨none, "One.\n\n  two"⟩, ⟨some "see", "three"⟩] := by
    decide +kernel
  have htabs : Padding ['\t', '\t'] := by decide
  obtain ⟨hlines, hreturns, hindent⟩ := reading_ignores_spacing
  obtain ⟨c, hc, hc'⟩ := hlines tidyLines untidyLines hsingle hspaced
  exact ⟨hsingle, hspaced, hread, hc'.trans (hc.symm.trans hread), hreturns _, htabs, hindent _ _ htabs⟩

end Comment

end TypeAtlas
