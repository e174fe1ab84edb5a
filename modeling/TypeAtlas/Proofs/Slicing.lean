import Mathlib.Data.List.FinRange
import TypeAtlas.Proofs.Encoding
import TypeAtlas.SyntaxTree

/-! # The text between two offsets

A range of bytes may start or stop inside a character. `Text.Utf8.slice` skips what is left of the
first character and gives up on what is there of the last one, so the text of a range is made of the
characters that lie in it as a whole.

* `Continues`: bytes that do not start a character.
* `offset`: how many bytes stand before a character of a text.
* `wholeChars`: the characters of a text with all their bytes in a range. They are told by their
  offsets; nothing is encoded in part or decoded.

The step of the argument is the first character of the text, on both sides: `slice_encode_cons` for
bytes, `wholeChars_cons` for characters. Main statement: `SyntaxTree.text_eq_wholeChars`. -/

namespace TypeAtlas.Text.Utf8

/-! ## Broken characters -/

/-- A byte that continues a character. -/
def Continues (b : UInt8) : Prop := 0x80 ≤ b.toNat ∧ b.toNat ≤ 0xBF

section

variable {code taken count lo hi n k : Nat} {b : UInt8} {r s : List UInt8} {c : Char}

/-- All bytes behind the first of a character continue it. -/
theorem continues_of_readTail (hlo : 0x80 ≤ lo) (hhi : hi ≤ 0xBF)
    (h : readTail code taken count lo hi r = .ok n) : ∀ x ∈ r.take count, Continues x := by
  induction count generalizing code taken lo hi r with
  | zero => simp
  | succ count ih =>
    cases r with
    | nil => simp
    | cons b r =>
      rw [readTail] at h
      split at h
      · rename_i hwithin
        have hb : lo ≤ b.toNat ∧ b.toNat ≤ hi := by simpa [within] using hwithin
        have hrest := ih (Nat.le_refl _) (Nat.le_refl _) h
        intro x hx
        rw [List.take_succ_cons, List.mem_cons] at hx
        rcases hx with rfl | hx
        · exact ⟨by omega, by omega⟩
        · exact hrest x hx
      · cases h

/-- A character that is cut off is blamed with all that is there of it. -/
theorem readTail_take (h : readTail code taken count lo hi r = .ok n) (hk : k < count) :
    readTail code taken count lo hi (r.take k) = .error (.endOfData, taken + k) := by
  induction k generalizing code taken count lo hi r with
  | zero =>
    cases count with
    | zero => omega
    | succ count => simp [readTail]
  | succ k ih =>
    cases count with
    | zero => omega
    | succ count =>
      cases r with
      | nil => cases h
      | cons b r =>
        rw [readTail] at h
        split at h
        · rename_i hwithin
          have hcut := ih h (Nat.lt_of_succ_lt_succ hk)
          rw [List.take_succ_cons, readTail, if_pos hwithin, hcut, Nat.add_right_comm, Nat.add_assoc]
        · cases h

/-- A character that was read has one byte, or its further bytes are counted by the first. -/
theorem readTail_of_readChar (h : readChar b r = .ok (c, n)) :
    n = 1 ∨ ∃ lo hi code, ¬ b < 0x80 ∧ followers b = some (n - 1, lo, hi) ∧
      readTail (leadCode (n - 1) b) 1 (n - 1) lo hi r = .ok code := by
  by_cases hascii : b < 0x80
  · rw [readChar_of_ascii hascii] at h
    cases h
    exact Or.inl rfl
  · cases hfollowers : followers b with
    | none =>
      rw [readChar_of_none hascii hfollowers] at h
      cases h
    | some f =>
      rw [readChar_of_some hascii hfollowers] at h
      cases htail : readTail (leadCode f.1 b) 1 f.1 f.2.1 f.2.2 r with
      | error e =>
        rw [htail] at h
        cases h
      | ok code =>
        rw [htail] at h
        cases h
        exact Or.inr ⟨f.2.1, f.2.2, code, hascii, rfl, htail⟩

/-- The bytes behind the first of a character that was read continue it. -/
theorem continues_of_readChar (h : readChar b r = .ok (c, n)) :
    ∀ x ∈ r.take (n - 1), Continues x := by
  rcases readTail_of_readChar h with rfl | ⟨lo, hi, code, -, hfollowers, htail⟩
  · simp
  · obtain ⟨hlo, hhi⟩ := bounds_of_followers hfollowers
    exact continues_of_readTail hlo hhi htail

/-- Of a character that was read, less than all of it cannot be read. -/
theorem readChar_take (h : readChar b r = .ok (c, n)) (hk : k < n - 1) :
    readChar b (r.take k) = .error (.endOfData, k + 1) := by
  rcases readTail_of_readChar h with rfl | ⟨lo, hi, code, hascii, hfollowers, htail⟩
  · omega
  · rw [readChar_of_some hascii hfollowers, readTail_take htail hk, Nat.add_comm 1 k]
    rfl

/-- No character starts with a byte that continues one. -/
theorem readChar_of_continues (h : Continues b) (r : List UInt8) :
    readChar b r = .error (.startByte, 1) := by
  obtain ⟨hlo, hhi⟩ := h
  have hascii : ¬ b < 0x80 := by
    rw [UInt8.lt_iff_toNat_lt]
    exact Nat.not_lt.2 hlo
  have hnone : followers b = none := by
    -- every byte with which a character of several bytes starts is greater
    rw [followers_eq, if_neg (by omega), if_neg (by omega), if_neg (by omega), if_neg (by omega),
      if_neg (by omega), if_neg (by omega), if_neg (by omega)]
  exact readChar_of_none hascii hnone r

end

/-! ## Reading on behind what is broken -/

/-- Bytes that continue a character are skipped. -/
theorem decodeSound_append_of_continues {t : List UInt8} (ht : ∀ x ∈ t, Continues x)
    (s : List UInt8) : decodeSound (t ++ s) = decodeSound s := by
  induction t with
  | nil => rfl
  | cons b t ih =>
    have hb : Continues b := ht b List.mem_cons_self
    have hrest : ∀ x ∈ t, Continues x := fun x hx => ht x (List.mem_cons_of_mem b hx)
    rw [List.cons_append, decodeSound]
    simp only [readChar_of_continues hb, Nat.sub_self, List.drop_zero]
    exact ih hrest

/-- A written character is read, and reading goes on behind it. -/
theorem decodeSound_encodeChar_append (c : Char) (s : List UInt8) :
    decodeSound (encodeChar c ++ s) = c :: decodeSound s := by
  obtain ⟨b, r, hchar, -, hread⟩ := readChar_encodeChar c
  rw [hchar, List.cons_append, decodeSound]
  simp only [hread, Nat.add_sub_cancel, List.drop_left]

/-- Nothing is read of a character that is cut off. -/
theorem decodeSound_take_encodeChar {c : Char} {k : Nat} (hk : k < (encodeChar c).length) :
    decodeSound ((encodeChar c).take k) = [] := by
  obtain ⟨b, r, hchar, -, hread⟩ := readChar_encodeChar c
  rw [hchar, List.length_cons] at hk
  rw [hchar]
  cases k with
  | zero => rw [List.take_zero, decodeSound]
  | succ k =>
    have hwhole : readChar b r = .ok (c, r.length + 1) := by simpa using hread []
    have hcut := readChar_take hwhole (k := k) (by omega)
    -- the blamed bytes are all there are
    have hnone : (r.take k).drop k = [] := by simp
    rw [List.take_succ_cons, decodeSound]
    simp only [hcut, Nat.add_sub_cancel, hnone]
    rw [decodeSound]

/-- A character has bytes. -/
theorem length_encodeChar_pos (c : Char) : 0 < (encodeChar c).length := by
  obtain ⟨b, r, hchar, -⟩ := readChar_encodeChar c
  simp [hchar]

/-- What is left of a character behind its first byte continues it. -/
theorem continues_drop_encodeChar {c : Char} {k : Nat} (hk : 0 < k) :
    ∀ x ∈ (encodeChar c).drop k, Continues x := by
  obtain ⟨b, r, hchar, -, hread⟩ := readChar_encodeChar c
  have hwhole : readChar b r = .ok (c, r.length + 1) := by simpa using hread []
  have hcontinues := continues_of_readChar hwhole
  rw [Nat.add_sub_cancel, List.take_length] at hcontinues
  intro x hx
  obtain ⟨j, rfl⟩ : ∃ j, k = j + 1 := ⟨k - 1, by omega⟩
  rw [hchar, List.drop_succ_cons] at hx
  exact hcontinues x (List.mem_of_mem_drop hx)

/-! ## A range of bytes, character by character -/

/-- **A range and the first character of the text.** The character is in the text of the range if all
of its bytes are, and the rest of the range is a range of the rest of the text. -/
theorem slice_encode_cons (c : Char) (s : List Char) (start stop : Nat) :
    slice (encode (c :: s)) start stop =
      (if start = 0 ∧ (encodeChar c).length ≤ stop then [c] else []) ++
        slice (encode s) (start - (encodeChar c).length) (stop - (encodeChar c).length) := by
  have hpos := length_encodeChar_pos c
  have hcons : encode (c :: s) = encodeChar c ++ encode s := List.flatMap_cons
  rw [slice, slice, hcons, List.drop_append, List.take_append, List.length_drop]
  rcases Nat.eq_zero_or_pos start with rfl | hstart
  · by_cases hwhole : (encodeChar c).length ≤ stop
    · -- the character is there as a whole
      rw [if_pos ⟨rfl, hwhole⟩, List.drop_zero, Nat.sub_zero, Nat.sub_zero,
        List.take_of_length_le hwhole, decodeSound_encodeChar_append, Nat.zero_sub, Nat.sub_zero]
      rfl
    · -- the range stops inside the character
      have hstop : stop - (encodeChar c).length = 0 := by omega
      simp only [hwhole, and_false, if_false, List.nil_append, List.drop_zero, Nat.sub_zero, hstop,
        List.take_zero, List.append_nil, Nat.zero_sub]
      rw [decodeSound_take_encodeChar (Nat.lt_of_not_le hwhole), decodeSound]
  · -- the range starts behind the first byte of the character
    have hskip : ∀ x ∈ ((encodeChar c).drop start).take (stop - start), Continues x :=
      fun x hx => continues_drop_encodeChar hstart x (List.mem_of_mem_take hx)
    have hlength : stop - start - ((encodeChar c).length - start) =
        stop - (encodeChar c).length - (start - (encodeChar c).length) := by omega
    rw [decodeSound_append_of_continues hskip, if_neg (by omega), List.nil_append, hlength]

/-- The bytes of a text that stand before the character at place `i`. -/
def offset (s : List Char) (i : Nat) : Nat := (encode (s.take i)).length

@[simp] theorem offset_zero (s : List Char) : offset s 0 = 0 := rfl

@[simp] theorem offset_nil (i : Nat) : offset [] i = 0 := by simp [offset, encode]

@[simp] theorem offset_cons_succ (c : Char) (s : List Char) (i : Nat) :
    offset (c :: s) (i + 1) = (encodeChar c).length + offset s i := by
  simp [offset, encode]

/-- Behind a character there are bytes. -/
theorem offset_succ_pos {s : List Char} {i : Nat} (hi : i < s.length) : 0 < offset s (i + 1) := by
  cases s with
  | nil => cases hi
  | cons c s =>
    have hpos := length_encodeChar_pos c
    rw [offset_cons_succ]
    omega

/-- The characters of a text that have all their bytes between two offsets. -/
def wholeChars (s : List Char) (start stop : Nat) : List Char :=
  ((List.finRange s.length).filter fun i : Fin s.length =>
    start ≤ offset s i ∧ offset s (i + 1) ≤ stop).map s.get

/-- The first character of a text, and the others by offsets of their own. -/
theorem wholeChars_cons (c : Char) (s : List Char) (start stop : Nat) :
    wholeChars (c :: s) start stop =
      (if start = 0 ∧ (encodeChar c).length ≤ stop then [c] else []) ++
        wholeChars s (start - (encodeChar c).length) (stop - (encodeChar c).length) := by
  have hfirst : (start ≤ offset (c :: s) 0 ∧ offset (c :: s) (0 + 1) ≤ stop) ↔
      (start = 0 ∧ (encodeChar c).length ≤ stop) := by simp
  have hothers : ∀ i : Fin s.length,
      (start ≤ offset (c :: s) (i + 1) ∧ offset (c :: s) (i + 1 + 1) ≤ stop) ↔
        (start - (encodeChar c).length ≤ offset s i ∧
          offset s (i + 1) ≤ stop - (encodeChar c).length) := by
    intro i
    -- where the range stops inside the first character, truncation leaves no room for any other
    have hpos := offset_succ_pos i.isLt
    rw [offset_cons_succ, offset_cons_succ]
    omega
  simp only [wholeChars, List.length_cons, List.finRange_succ, List.filter_cons, List.filter_map,
    Function.comp_def, Fin.val_zero, Fin.val_succ, hfirst, hothers]
  by_cases hwhole : start = 0 ∧ (encodeChar c).length ≤ stop
  · rw [if_pos (decide_eq_true hwhole), if_pos hwhole, List.map_cons, List.map_map]
    rfl
  · rw [if_neg (fun h => hwhole (of_decide_eq_true h)), if_neg hwhole, List.map_map]
    rfl

/-- **The text of a range of bytes** is made of the characters that lie in it as a whole. -/
theorem slice_encode (s : List Char) (start stop : Nat) :
    slice (encode s) start stop = wholeChars s start stop := by
  induction s generalizing start stop with
  | nil => simp [slice, encode, decodeSound, wholeChars]
  | cons c s ih => rw [slice_encode_cons, wholeChars_cons, ih]

/-- A range from one character to another holds the characters between them. -/
theorem wholeChars_offset (s : List Char) (i j : Nat) :
    wholeChars s (offset s i) (offset s j) = (s.take j).drop i := by
  induction s generalizing i j with
  | nil => simp [wholeChars]
  | cons c s ih =>
    have hpos := length_encodeChar_pos c
    rw [wholeChars_cons]
    cases i with
    | zero =>
      cases j with
      | zero => simpa [Nat.ne_of_gt hpos] using ih 0 0
      | succ j => simpa using ih 0 j
    | succ i =>
      cases j with
      | zero => simpa [Nat.ne_of_gt hpos] using ih i 0
      | succ j => simpa [Nat.ne_of_gt hpos] using ih i j

/-! ## Ranges inside ranges -/

/-- A longer range has more characters. -/
theorem wholeChars_mono {start start' stop stop' : Nat} (s : List Char) (hstart : start' ≤ start)
    (hstop : stop ≤ stop') : (wholeChars s start stop).Sublist (wholeChars s start' stop') := by
  apply List.Sublist.map
  apply List.monotone_filter_right
  intro i hi
  simp only [decide_eq_true_eq] at hi ⊢
  omega

/-- Before the first byte there is no character. -/
theorem wholeChars_zero (s : List Char) (start : Nat) : wholeChars s start 0 = [] := by
  rw [wholeChars, List.map_eq_nil_iff, List.filter_eq_nil_iff]
  intro i _
  have hpos := offset_succ_pos i.isLt
  simp only [decide_eq_true_eq]
  omega

/-- Two ranges that meet hold no character twice, and may share one that neither holds. -/
theorem wholeChars_append_sublist {start mid stop : Nat} (s : List Char) (hstart : start ≤ mid)
    (hstop : mid ≤ stop) :
    (wholeChars s start mid ++ wholeChars s mid stop).Sublist (wholeChars s start stop) := by
  induction s generalizing start mid stop with
  | nil => simp [wholeChars]
  | cons c s ih =>
    have hpos := length_encodeChar_pos c
    have hrest := ih (Nat.sub_le_sub_right hstart (encodeChar c).length)
      (Nat.sub_le_sub_right hstop (encodeChar c).length)
    rw [wholeChars_cons c s start mid, wholeChars_cons c s mid stop, wholeChars_cons c s start stop]
    rcases Nat.eq_zero_or_pos mid with rfl | hmid
    · -- nothing stands before the first byte, so all is in the second range
      obtain rfl := Nat.le_zero.1 hstart
      rw [if_neg (by omega), Nat.zero_sub, wholeChars_zero]
      exact List.Sublist.refl _
    · -- the first character is in the first range or in none
      have hfirst : (if start = 0 ∧ (encodeChar c).length ≤ mid then [c] else []).Sublist
          (if start = 0 ∧ (encodeChar c).length ≤ stop then [c] else []) := by
        split
        · rw [if_pos (by omega)]
        · exact List.nil_sublist _
      have hsecond : ¬ (mid = 0 ∧ (encodeChar c).length ≤ stop) := by omega
      rw [if_neg hsecond, List.nil_append, List.append_assoc]
      exact hfirst.append hrest

/-- Ranges that follow each other inside a range hold characters of it, each at most once and in their
order. -/
theorem flatMap_wholeChars_sublist {start stop : Nat} (s : List Char) {ranges : List (Nat × Nat)}
    (hinside : ∀ r ∈ ranges, start ≤ r.1 ∧ r.1 ≤ r.2 ∧ r.2 ≤ stop)
    (hordered : ranges.Pairwise fun r r' => r.2 ≤ r'.1) :
    (ranges.flatMap fun r => wholeChars s r.1 r.2).Sublist (wholeChars s start stop) := by
  induction ranges generalizing start with
  | nil => exact List.nil_sublist _
  | cons r ranges ih =>
    obtain ⟨hstart, hr, hstop⟩ := hinside r List.mem_cons_self
    obtain ⟨hbehind, hordered⟩ := List.pairwise_cons.1 hordered
    -- the other ranges lie behind the first one
    have hbetween : ∀ r' ∈ ranges, r.2 ≤ r'.1 ∧ r'.1 ≤ r'.2 ∧ r'.2 ≤ stop :=
      fun r' hr' => ⟨hbehind r' hr', (hinside r' (List.mem_cons_of_mem r hr')).2⟩
    have hrest := ih hbetween hordered
    have hmeet := wholeChars_append_sublist s hr hstop
    have hlonger := wholeChars_mono s hstart (Nat.le_refl stop)
    rw [List.flatMap_cons]
    exact ((hrest.append_left _).trans hmeet).trans hlonger

end TypeAtlas.Text.Utf8

namespace TypeAtlas.SyntaxTree

open Text.Utf8

/-- **The text of a node is exact.** Whatever the range of a node, its text is made of the characters
of the source that have all their bytes in that range, in their order. A range from one character to
another gives the text between them. -/
theorem text_eq_wholeChars (source : List Char) (kind : String) (start stop : Nat) (named : Bool)
    (field : Option String) (children : List SyntaxTree) :
    text (encode source) (.node kind start stop named field children) =
        String.ofList (wholeChars source start stop) ∧
      ∀ i j, text (encode source) (.node kind (offset source i) (offset source j) named field children) =
        String.ofList ((source.take j).drop i) := by
  have htext : ∀ a b, text (encode source) (.node kind a b named field children) =
      String.ofList (wholeChars source a b) := by
    intro a b
    rw [← slice_encode]
    rfl
  refine ⟨htext start stop, ?_⟩
  intro i j
  rw [htext, wholeChars_offset]

-- The range starts inside the second of three characters.
example : text (encode "aéb".toList) (.node "identifier" 2 4 true none []) = "b" := by
  decide +kernel

end TypeAtlas.SyntaxTree
