import TypeAtlas.Text.Blank

/-! # Lines

Three ways to see lines in a text. Main definitions:

* `lines` cuts at line feeds only, and `unlines` joins again.
* `firstLine` stops at the first of the wider set of line breaks (`isLineBreak`).
* `withoutBreak` leaves out a line feed at the end.
* `unifyBreaks` writes each carriage return, with the line feed after it if there is one, as one
  line feed. -/

namespace TypeAtlas.Text

/-- The part before the first `sep`, and the parts after each `sep`. -/
def cut (sep : Char) : List Char → List Char × List (List Char)
  | [] => ([], [])
  | c :: r =>
    let (first, others) := cut sep r
    if c = sep then ([], first :: others) else (c :: first, others)

/-- The parts of a text between the occurrences of `sep`; there is always one part. -/
def splitAt (sep : Char) (s : List Char) : List (List Char) :=
  (cut sep s).1 :: (cut sep s).2

/-- The lines of a text, cut at line feeds. -/
def lines (s : List Char) : List (List Char) := splitAt '\n' s

/-- Lines joined by line feeds. -/
def unlines : List (List Char) → List Char
  | [] => []
  | [l] => l
  | l :: ls => l ++ '\n' :: unlines ls

/-- The characters at which a summary line ends. -/
def isLineBreak (c : Char) : Bool :=
  let n := c.toNat
  (10 ≤ n && n ≤ 13) || (28 ≤ n && n ≤ 30) || n == 0x85 || n == 0x2028 || n == 0x2029

/-- A text up to its first line break. -/
def firstLine (s : List Char) : List Char := s.takeWhile fun c => !isLineBreak c

/-- A text without a line feed at its end. -/
def withoutBreak (s : List Char) : List Char :=
  if s.getLast? = some '\n' then s.dropLast else s

/-- One line feed for each carriage return and for each carriage return with a line feed. -/
def unifyBreaks : List Char → List Char
  | [] => []
  | '\r' :: '\n' :: r => '\n' :: unifyBreaks r
  | '\r' :: r => '\n' :: unifyBreaks r
  | c :: r => c :: unifyBreaks r

@[simp] theorem cut_nil (sep : Char) : cut sep [] = ([], []) := rfl

@[simp] theorem lines_nil : lines [] = [[]] := rfl

/-- A text is cut at a separator into the parts before it and the parts behind it. -/
theorem splitAt_append_cons (sep : Char) (s t : List Char) :
    splitAt sep (s ++ sep :: t) = splitAt sep s ++ splitAt sep t := by
  induction s with
  | nil => simp [splitAt, cut]
  | cons c r ih =>
    simp only [splitAt, List.cons_append, List.cons.injEq] at ih
    by_cases h : c = sep
    · simp [splitAt, cut, h, ih.1, ih.2]
    · simp [splitAt, cut, h, ih.1, ih.2]

/-- A line feed between two texts separates their lines. -/
theorem lines_append_cons (s t : List Char) : lines (s ++ '\n' :: t) = lines s ++ lines t :=
  splitAt_append_cons '\n' s t

/-- A text without the separator is one part. -/
theorem splitAt_of_notMem {sep : Char} {s : List Char} (h : sep ∉ s) : splitAt sep s = [s] := by
  induction s with
  | nil => rfl
  | cons c r ih =>
    simp only [List.mem_cons, not_or] at h
    have hr := ih h.2
    simp only [splitAt, List.cons.injEq] at hr
    have hc : c ≠ sep := fun e => h.1 e.symm
    simp [splitAt, cut, hc, hr.1, hr.2]

/-- Joining the lines of a text gives the text back. -/
theorem unlines_lines (s : List Char) : unlines (lines s) = s := by
  induction s with
  | nil => rfl
  | cons c r ih =>
    simp only [lines, splitAt, cut] at ih ⊢
    by_cases h : c = '\n'
    · simp [h, unlines, ih]
    · cases hr : (cut '\n' r).2 with
      | nil => simp [h, hr, unlines] at ih ⊢; exact ih
      | cons p ps => simp [h, hr, unlines] at ih ⊢; exact ih

/-- No part holds the separator. -/
theorem notMem_of_mem_splitAt {sep : Char} {s l : List Char} (h : l ∈ splitAt sep s) : sep ∉ l := by
  induction s generalizing l with
  | nil =>
    obtain rfl : l = [] := by simpa [splitAt] using h
    exact List.not_mem_nil
  | cons c r ih =>
    have hfirst : sep ∉ (cut sep r).1 := ih List.mem_cons_self
    have hothers : ∀ l ∈ (cut sep r).2, sep ∉ l := fun l hl => ih (List.mem_cons_of_mem _ hl)
    rw [splitAt, cut] at h
    by_cases hc : c = sep
    · simp only [hc, if_true, List.mem_cons] at h
      rcases h with rfl | rfl | h
      · exact List.not_mem_nil
      · exact hfirst
      · exact hothers l h
    · simp only [hc, if_false, List.mem_cons] at h
      rcases h with rfl | h
      · simpa [Ne.symm hc] using hfirst
      · exact hothers l h

/-- Lines without line feeds, joined, are cut into the same lines again. -/
theorem lines_unlines {ls : List (List Char)} (hne : ls ≠ []) (h : ∀ l ∈ ls, '\n' ∉ l) :
    lines (unlines ls) = ls := by
  fun_induction unlines ls with
  | case1 => exact absurd rfl hne
  | case2 l => exact splitAt_of_notMem (h l List.mem_cons_self)
  | case3 l ls hls ih =>
    have hl : lines l = [l] := splitAt_of_notMem (h l List.mem_cons_self)
    rw [lines_append_cons, hl, ih (by simpa using hls) fun l' hl' => h l' (List.mem_cons_of_mem _ hl')]
    rfl

end TypeAtlas.Text
