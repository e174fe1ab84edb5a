/-! # Templates

A template is a text in which each pair of braces marks a place. Places are found from left to right
and do not overlap. Main definitions:

* `Template.count`: the number of places.
* `Template.cut`: the text before the first place, and the texts after each place.

Main statements: cutting finds as many places as counting does (`length_cut_snd`), and counting
distributes over text that cannot complete a pair (`count_append_cons`). -/

namespace TypeAtlas.Template

/-- The text of a place. -/
def placeholder : List Char := ['\x7b', '\x7d']

/-- The number of places in a template. -/
def count : List Char → Nat
  | '\x7b' :: '\x7d' :: r => count r + 1
  | _ :: r => count r
  | [] => 0

/-- The text before the first place, and the texts after each place. -/
def cut : List Char → List Char × List (List Char)
  | '\x7b' :: '\x7d' :: r => ([], (cut r).1 :: (cut r).2)
  | c :: r => (c :: (cut r).1, (cut r).2)
  | [] => ([], [])

/-- The texts around the places, one more than there are places. -/
def parts (s : List Char) : List (List Char) := (cut s).1 :: (cut s).2

@[simp] theorem count_nil : count [] = 0 := rfl

@[simp] theorem count_place (r : List Char) : count ('\x7b' :: '\x7d' :: r) = count r + 1 := rfl

theorem length_cut_snd (s : List Char) : (cut s).2.length = count s := by
  fun_induction cut s with
  | case1 r ih => simp [ih]
  | case2 c r h ih => rw [count]; · exact ih
                      · exact h
  | case3 => rfl

theorem length_parts (s : List Char) : (parts s).length = count s + 1 := by
  simp [parts, length_cut_snd]

/-- Text whose first character cannot close a pair adds its own places. -/
theorem count_append_cons (s : List Char) {c : Char} (hc : c ≠ '\x7d') (r : List Char) :
    count (s ++ c :: r) = count s + count (c :: r) := by
  fun_induction count s with
  | case1 s ih => simp [ih]; omega
  | case2 d s h ih =>
    rw [List.cons_append, count, ih]
    intro t hd ht
    cases s with
    | nil => simp at ht; exact hc ht.1
    | cons e s => simp at ht; exact h s hd (by rw [ht.1])
  | case3 => simp

end TypeAtlas.Template
