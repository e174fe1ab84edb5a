/-! # Blank characters

The characters that count as white space in every text this library reads, and trimming by them.
Main definitions:

* `isBlank`: the blank characters of Unicode, controls 28 to 31 included, the zero width ones not.
* `trimStart`, `trimEnd`, `trim`: a text without its blank outer characters. -/

namespace TypeAtlas.Text

/-- Whether a character is white space. -/
def isBlank (c : Char) : Bool :=
  let n := c.toNat
  (9 ≤ n && n ≤ 13) || (28 ≤ n && n ≤ 32) || n == 0x85 || n == 0xA0 || n == 0x1680 ||
    (0x2000 ≤ n && n ≤ 0x200A) || n == 0x2028 || n == 0x2029 || n == 0x202F || n == 0x205F ||
    n == 0x3000

/-- A text without its leading blanks. -/
def trimStart (s : List Char) : List Char := s.dropWhile isBlank

/-- A text without its trailing blanks: a character is kept when it, or one after it, is not
blank. -/
def trimEnd : List Char → List Char
  | [] => []
  | c :: r =>
    match trimEnd r with
    | [] => if isBlank c then [] else [c]
    | kept => c :: kept

/-- A text without its outer blanks. -/
def trim (s : List Char) : List Char := trimEnd (trimStart s)

/-- Whether a text holds blanks only. -/
def allBlank (s : List Char) : Bool := s.all isBlank

@[simp] theorem trimStart_nil : trimStart [] = [] := rfl

@[simp] theorem trimEnd_nil : trimEnd [] = [] := rfl

theorem trimStart_cons (c : Char) (r : List Char) :
    trimStart (c :: r) = if isBlank c then trimStart r else c :: r := by
  cases h : isBlank c <;> simp [trimStart, h]

/-- Nothing is left at the end exactly when all was blank. -/
theorem trimEnd_eq_nil_iff (s : List Char) : trimEnd s = [] ↔ allBlank s = true := by
  induction s with
  | nil => simp [allBlank]
  | cons c r ih =>
    unfold trimEnd
    cases h : trimEnd r with
    | nil =>
      have hr : allBlank r = true := ih.1 h
      cases hc : isBlank c <;> simp_all [allBlank]
    | cons d t =>
      have hr : ¬ allBlank r = true := fun hb => by simp [ih.2 hb] at h
      simp_all [allBlank]

/-- The last character that is left at the end is not blank. -/
theorem isBlank_of_getLast?_trimEnd {s : List Char} {c : Char}
    (h : (trimEnd s).getLast? = some c) : isBlank c = false := by
  fun_induction trimEnd s with
  | case1 => cases h
  | case2 d r hr hd ih => cases h
  | case3 d r hr hd ih =>
    obtain rfl : d = c := Option.some.inj h
    simpa using hd
  | case4 d r hr ih =>
    rw [List.getLast?_cons_of_ne_nil hr] at h
    exact ih h

/-- A text whose last character is not blank stays as it is. -/
theorem trimEnd_eq_self {s : List Char} (h : ∀ c, s.getLast? = some c → isBlank c = false) :
    trimEnd s = s := by
  induction s with
  | nil => rfl
  | cons c r ih =>
    cases r with
    | nil => simp [trimEnd, h c rfl]
    | cons d r =>
      have hr : trimEnd (d :: r) = d :: r := ih fun e he => h e (by simpa using he)
      rw [trimEnd, hr]

/-- What is left at the end is a beginning of the text. -/
theorem isPrefix_trimEnd (s : List Char) : trimEnd s <+: s := by
  fun_induction trimEnd s with
  | case1 => exact List.prefix_rfl
  | case2 d r hr hd ih => exact List.nil_prefix
  | case3 d r hr hd ih => exact List.cons_prefix_cons.2 ⟨rfl, List.nil_prefix⟩
  | case4 d r hr ih => exact List.cons_prefix_cons.2 ⟨rfl, ih⟩

end TypeAtlas.Text
