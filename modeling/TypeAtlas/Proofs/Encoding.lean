import Mathlib.Data.List.Basic
import TypeAtlas.Text.Utf8

/-! # Reading back what was written

What `Text.Utf8.encode` writes is read back by `Text.Utf8.decode`, also behind other bytes. So whether
bytes can be read does not depend on text that is added to them.

* `StartsFresh`: bytes that do not start in the middle of a character.
* `readChar_encodeChar`: a written character is read back.
* `decodeFrom_append`, `decodeFrom_append_of_error`: what is put behind some bytes is read behind them,
  and mends nothing.

Main statements: `decodeFrom_encode`, `decode_append_encode_iff`. -/

namespace TypeAtlas.Text.Utf8

/-! ## Bytes behind bytes -/

/-- The first of some bytes, if there is one, does not continue a character. -/
def StartsFresh (s : List UInt8) : Prop := ∀ b ∈ s.head?, ¬ (0x80 ≤ b.toNat ∧ b.toNat ≤ 0xBF)

section

variable {code taken count lo hi n : Nat} {b : UInt8} {r s : List UInt8}

/-- The second byte of a character continues it. -/
theorem bounds_of_followers (h : followers b = some (count, lo, hi)) : 0x80 ≤ lo ∧ hi ≤ 0xBF := by
  simp only [followers] at h
  split at h
  · cases h; decide
  split at h
  · cases h; decide
  split at h
  · cases h; decide
  split at h
  · cases h; decide
  split at h
  · cases h; decide
  split at h
  · cases h; decide
  split at h
  · cases h; decide
  · cases h

/-- The bytes of a complete character are there. -/
theorem length_of_readTail (h : readTail code taken count lo hi r = .ok n) : count ≤ r.length := by
  induction count generalizing code taken lo hi r with
  | zero => exact Nat.zero_le _
  | succ count ih =>
    cases r with
    | nil => cases h
    | cons b r =>
      rw [readTail] at h
      split at h
      · exact Nat.succ_le_succ (ih h)
      · cases h

/-- A complete character does not depend on what is behind it. -/
theorem readTail_append (h : readTail code taken count lo hi r = .ok n) (s : List UInt8) :
    readTail code taken count lo hi (r ++ s) = .ok n := by
  induction count generalizing code taken lo hi r with
  | zero => exact h
  | succ count ih =>
    cases r with
    | nil => cases h
    | cons b r =>
      rw [readTail] at h
      rw [List.cons_append, readTail]
      split at h
      · rename_i hwithin
        rw [if_pos hwithin]
        exact ih h
      · cases h

/-- Fresh bytes do not complete a character. -/
theorem readTail_append_of_error {e : Reason × Nat} (hlo : 0x80 ≤ lo) (hhi : hi ≤ 0xBF)
    (hs : StartsFresh s) (h : readTail code taken count lo hi r = .error e) :
    ∃ e', readTail code taken count lo hi (r ++ s) = .error e' := by
  induction count generalizing code taken lo hi r with
  | zero => cases h
  | succ count ih =>
    cases r with
    | nil =>
      cases s with
      | nil => exact ⟨e, h⟩
      | cons b s =>
        -- the bytes ended inside a character, and the next byte does not go on with it
        have hb := hs b rfl
        have hwithin : within lo hi b = false := by
          simp only [within, Bool.and_eq_false_iff, decide_eq_false_iff_not]
          omega
        exact ⟨(.continuationByte, taken), by simp [readTail, hwithin]⟩
    | cons b r =>
      rw [readTail] at h
      rw [List.cons_append, readTail]
      split at h
      · rename_i hwithin
        rw [if_pos hwithin]
        exact ih (Nat.le_refl _) (Nat.le_refl _) h
      · rename_i hwithin
        rw [if_neg hwithin]
        exact ⟨_, rfl⟩

end

section

variable {b : UInt8} {r s : List UInt8} {c : Char} {n : Nat}

/-- What a first byte tells about the code of its character, by the number of bytes that follow. -/
def leadCode (count : Nat) (b : UInt8) : Nat :=
  b.toNat % (if count = 1 then 32 else if count = 2 then 16 else 8)

/-- A character of one byte. -/
theorem readChar_of_ascii (h : b < 0x80) (r : List UInt8) :
    readChar b r = .ok (Char.ofNat b.toNat, 1) := by
  rw [readChar, if_pos h]

/-- A byte with which no character starts. -/
theorem readChar_of_none (hascii : ¬ b < 0x80) (h : followers b = none) (r : List UInt8) :
    readChar b r = .error (.startByte, 1) := by
  rw [readChar, if_neg hascii, h]

/-- A character of several bytes. -/
theorem readChar_of_some {count lo hi : Nat} (hascii : ¬ b < 0x80)
    (h : followers b = some (count, lo, hi)) (r : List UInt8) :
    readChar b r = (readTail (leadCode count b) 1 count lo hi r).map
      fun code => (Char.ofNat code, count + 1) := by
  rw [readChar, if_neg hascii, h]
  cases htail : readTail (leadCode count b) 1 count lo hi r with
  | error e =>
    rw [leadCode] at htail
    simp only [htail]
    rfl
  | ok code =>
    rw [leadCode] at htail
    simp only [htail]
    rfl

/-- The bytes of a character that was read are there. -/
theorem length_of_readChar (h : readChar b r = .ok (c, n)) : 1 ≤ n ∧ n - 1 ≤ r.length := by
  by_cases hascii : b < 0x80
  · rw [readChar_of_ascii hascii] at h
    cases h
    exact ⟨Nat.le_refl 1, Nat.zero_le _⟩
  · cases hfollowers : followers b with
    | none =>
      rw [readChar_of_none hascii hfollowers] at h
      cases h
    | some f =>
      rw [readChar_of_some hascii hfollowers] at h
      cases htail : readTail (leadCode f.1 b) 1 f.1 f.2.1 f.2.2 r with
      | error e =>
        rw [htail] at h
        cases h
      | ok code =>
        rw [htail] at h
        cases h
        exact ⟨Nat.le_add_left 1 _, length_of_readTail htail⟩

/-- A character that was read does not depend on what is behind it. -/
theorem readChar_append (h : readChar b r = .ok (c, n)) (s : List UInt8) :
    readChar b (r ++ s) = .ok (c, n) := by
  by_cases hascii : b < 0x80
  · rw [readChar_of_ascii hascii] at h ⊢
    exact h
  · cases hfollowers : followers b with
    | none =>
      rw [readChar_of_none hascii hfollowers] at h
      cases h
    | some f =>
      rw [readChar_of_some hascii hfollowers] at h ⊢
      cases htail : readTail (leadCode f.1 b) 1 f.1 f.2.1 f.2.2 r with
      | error e =>
        rw [htail] at h
        cases h
      | ok code =>
        rw [htail] at h
        rw [readTail_append htail]
        exact h

/-- Fresh bytes do not mend a broken character. -/
theorem readChar_append_of_error {e : Reason × Nat} (hs : StartsFresh s)
    (h : readChar b r = .error e) : ∃ e', readChar b (r ++ s) = .error e' := by
  by_cases hascii : b < 0x80
  · rw [readChar_of_ascii hascii] at h
    cases h
  · cases hfollowers : followers b with
    | none => exact ⟨_, readChar_of_none hascii hfollowers _⟩
    | some f =>
      rw [readChar_of_some hascii hfollowers] at h ⊢
      obtain ⟨hlo, hhi⟩ := bounds_of_followers hfollowers
      cases htail : readTail (leadCode f.1 b) 1 f.1 f.2.1 f.2.2 r with
      | error e' =>
        obtain ⟨e'', htail'⟩ := readTail_append_of_error hlo hhi hs htail
        rw [htail']
        exact ⟨e'', rfl⟩
      | ok code =>
        rw [htail] at h
        cases h

end

section

variable {start : Nat} {a s : List UInt8}

/-- What is put behind bytes that can be read is read behind them. -/
theorem decodeFrom_append {cs : List Char} (h : decodeFrom start a = .ok cs) (s : List UInt8) :
    decodeFrom start (a ++ s) = (decodeFrom (start + a.length) s).map (cs ++ ·) := by
  fun_induction decodeFrom start a generalizing cs with
  | case1 start =>
    cases h
    rw [List.nil_append, List.length_nil, Nat.add_zero]
    cases decodeFrom start s <;> rfl
  | case2 => cases h
  | case3 start b r c n hchar cs' hrest ih =>
    cases h
    -- the character takes its bytes from `a` alone, so what is left of `a` still stands before `s`
    obtain ⟨hpos, hlength⟩ := length_of_readChar hchar
    have hnext : start + n + (r.drop (n - 1)).length = start + (b :: r).length := by
      rw [List.length_drop, List.length_cons]
      omega
    have hbehind := ih hrest
    rw [hnext] at hbehind
    rw [List.cons_append, decodeFrom]
    simp only [readChar_append hchar, List.drop_append_of_le_length hlength, hbehind]
    cases decodeFrom (start + (b :: r).length) s <;> rfl
  | case4 => cases h

/-- Fresh bytes behind bytes that cannot be read mend nothing. -/
theorem decodeFrom_append_of_error {e : Fault} (hs : StartsFresh s)
    (h : decodeFrom start a = .error e) : ∃ e', decodeFrom start (a ++ s) = .error e' := by
  fun_induction decodeFrom start a generalizing e with
  | case1 => cases h
  | case2 start b r reason n hchar =>
    obtain ⟨e', hchar'⟩ := readChar_append_of_error hs hchar
    rw [List.cons_append, decodeFrom]
    simp only [hchar']
    exact ⟨_, rfl⟩
  | case3 => cases h
  | case4 start b r c n hchar e' hrest ih =>
    obtain ⟨-, hlength⟩ := length_of_readChar hchar
    obtain ⟨e'', hbehind⟩ := ih hrest
    rw [List.cons_append, decodeFrom]
    simp only [readChar_append hchar, List.drop_append_of_le_length hlength, hbehind]
    exact ⟨e'', rfl⟩

end

/-! ## Written characters -/

/-- A number below 256 as a byte. -/
theorem toNat_toUInt8 {n : Nat} (h : n < 256) : n.toUInt8.toNat = n := by
  simp [Nat.toUInt8, Nat.mod_eq_of_lt h]

/-- What may follow a first byte, by its number. -/
theorem followers_eq (b : UInt8) : followers b =
    if 0xC2 ≤ b.toNat ∧ b.toNat ≤ 0xDF then some (1, 0x80, 0xBF)
    else if b.toNat = 0xE0 then some (2, 0xA0, 0xBF)
    else if b.toNat = 0xED then some (2, 0x80, 0x9F)
    else if 0xE1 ≤ b.toNat ∧ b.toNat ≤ 0xEF then some (2, 0x80, 0xBF)
    else if b.toNat = 0xF0 then some (3, 0x90, 0xBF)
    else if b.toNat = 0xF4 then some (3, 0x80, 0x8F)
    else if 0xF1 ≤ b.toNat ∧ b.toNat ≤ 0xF3 then some (3, 0x80, 0xBF)
    else none := by
  simp [followers, within, ← UInt8.toNat_inj]

/-- One more byte of a character, by its number. -/
theorem readTail_toUInt8 {code taken count lo hi m : Nat} (hm : m < 256) (hlo : lo ≤ m) (hhi : m ≤ hi)
    (r : List UInt8) : readTail code taken (count + 1) lo hi (m.toUInt8 :: r) =
      readTail (code * 64 + m % 64) (taken + 1) count 0x80 0xBF r := by
  have hwithin : within lo hi m.toUInt8 = true := by
    rw [within, toNat_toUInt8 hm, Bool.and_eq_true, decide_eq_true_eq, decide_eq_true_eq]
    exact ⟨hlo, hhi⟩
  rw [readTail, if_pos hwithin, toNat_toUInt8 hm]

/-- A first byte of several, by its number. -/
theorem readChar_toUInt8 {count lo hi m : Nat} (hm : m < 256) (hmulti : 128 ≤ m)
    (h : followers m.toUInt8 = some (count, lo, hi)) (r : List UInt8) :
    readChar m.toUInt8 r =
      (readTail (m % (if count = 1 then 32 else if count = 2 then 16 else 8)) 1 count lo hi r).map
        fun code => (Char.ofNat code, count + 1) := by
  have hascii : ¬ m.toUInt8 < 0x80 := by
    rw [UInt8.lt_iff_toNat_lt, toNat_toUInt8 hm]
    exact Nat.not_lt.2 hmulti
  rw [readChar_of_some hascii h, leadCode, toNat_toUInt8 hm]

section

variable {n : Nat} (s : List UInt8)

/-- A code of one byte is read back. -/
theorem readChar_one (h : n < 0x80) : readChar n.toUInt8 s = .ok (Char.ofNat n, 1) := by
  have hn : n.toUInt8.toNat = n := toNat_toUInt8 (by omega)
  have hascii : n.toUInt8 < 0x80 := by
    rw [UInt8.lt_iff_toNat_lt, hn]
    exact h
  rw [readChar_of_ascii hascii, hn]

/-- A code of two bytes is read back. -/
theorem readChar_two (hlo : 0x80 ≤ n) (hhi : n < 0x800) :
    readChar (0xC0 + n / 64).toUInt8 ((0x80 + n % 64).toUInt8 :: s) = .ok (Char.ofNat n, 2) := by
  have hfollowers : followers (0xC0 + n / 64).toUInt8 = some (1, 0x80, 0xBF) := by
    rw [followers_eq, toNat_toUInt8 (by omega), if_pos (by omega)]
  have hcode : (0xC0 + n / 64) % 32 * 64 + (0x80 + n % 64) % 64 = n := by omega
  rw [readChar_toUInt8 (by omega) (by omega) hfollowers, if_pos rfl,
    readTail_toUInt8 (by omega) (by omega) (by omega), hcode]
  rfl

/-- A code of three bytes is read back. -/
theorem readChar_three (hlo : 0x800 ≤ n) (hhi : n < 0x10000) (hvalid : n < 0xD800 ∨ 0xDFFF < n) :
    readChar (0xE0 + n / 4096).toUInt8
        ((0x80 + n / 64 % 64).toUInt8 :: (0x80 + n % 64).toUInt8 :: s) = .ok (Char.ofNat n, 3) := by
  -- the second byte is in bounds, also behind the two first bytes that leave less room for it, to keep
  -- out what would fit in two bytes and surrogates
  obtain ⟨lo, hi, hfollowers, hlo', hhi'⟩ : ∃ lo hi,
      followers (0xE0 + n / 4096).toUInt8 = some (2, lo, hi) ∧ lo ≤ 0x80 + n / 64 % 64 ∧
        0x80 + n / 64 % 64 ≤ hi := by
    rw [followers_eq, toNat_toUInt8 (by omega), if_neg (by omega)]
    split
    · exact ⟨_, _, rfl, by omega, by omega⟩
    split
    · exact ⟨_, _, rfl, by omega, by omega⟩
    · rw [if_pos (by omega)]
      exact ⟨_, _, rfl, by omega, by omega⟩
  have hcode : ((0xE0 + n / 4096) % 16 * 64 + (0x80 + n / 64 % 64) % 64) * 64 + (0x80 + n % 64) % 64 =
      n := by omega
  rw [readChar_toUInt8 (by omega) (by omega) hfollowers, if_neg (by decide), if_pos rfl,
    readTail_toUInt8 (by omega) hlo' hhi', readTail_toUInt8 (by omega) (by omega) (by omega), hcode]
  rfl

/-- A code of four bytes is read back. -/
theorem readChar_four (hlo : 0x10000 ≤ n) (hhi : n < 0x110000) :
    readChar (0xF0 + n / 262144).toUInt8
        ((0x80 + n / 4096 % 64).toUInt8 :: (0x80 + n / 64 % 64).toUInt8 ::
          (0x80 + n % 64).toUInt8 :: s) = .ok (Char.ofNat n, 4) := by
  -- here the narrow bounds keep out what would fit in three bytes and what is above the last code
  obtain ⟨lo, hi, hfollowers, hlo', hhi'⟩ : ∃ lo hi,
      followers (0xF0 + n / 262144).toUInt8 = some (3, lo, hi) ∧ lo ≤ 0x80 + n / 4096 % 64 ∧
        0x80 + n / 4096 % 64 ≤ hi := by
    rw [followers_eq, toNat_toUInt8 (by omega), if_neg (by omega), if_neg (by omega),
      if_neg (by omega), if_neg (by omega)]
    split
    · exact ⟨_, _, rfl, by omega, by omega⟩
    split
    · exact ⟨_, _, rfl, by omega, by omega⟩
    · rw [if_pos (by omega)]
      exact ⟨_, _, rfl, by omega, by omega⟩
  have hcode : (((0xF0 + n / 262144) % 8 * 64 + (0x80 + n / 4096 % 64) % 64) * 64 +
      (0x80 + n / 64 % 64) % 64) * 64 + (0x80 + n % 64) % 64 = n := by omega
  rw [readChar_toUInt8 (by omega) (by omega) hfollowers, if_neg (by decide), if_neg (by decide),
    readTail_toUInt8 (by omega) hlo' hhi', readTail_toUInt8 (by omega) (by omega) (by omega),
    readTail_toUInt8 (by omega) (by omega) (by omega), hcode]
  rfl

end

/-- The code of a character is below the last one and is no surrogate. -/
theorem toNat_valid (c : Char) : c.toNat < 0xD800 ∨ 0xDFFF < c.toNat ∧ c.toNat < 0x110000 := c.valid

/-- **A written character is read back**, whatever is behind it, and starts afresh. -/
theorem readChar_encodeChar (c : Char) : ∃ b r, encodeChar c = b :: r ∧ StartsFresh (b :: r) ∧
    ∀ s, readChar b (r ++ s) = .ok (c, r.length + 1) := by
  have hvalid := toNat_valid c
  have hfresh {m : Nat} (r : List UInt8) (hm : m < 256) (h : m < 0x80 ∨ 0xBF < m) :
      StartsFresh (m.toUInt8 :: r) := by
    intro b hb
    cases hb
    rw [toNat_toUInt8 hm]
    omega
  have hc : Char.ofNat c.toNat = c := Char.ofNat_toNat c
  simp only [encodeChar]
  split
  · exact ⟨_, _, rfl, hfresh _ (by omega) (by omega), fun s => by
      rw [List.nil_append, readChar_one s (by omega), hc]; rfl⟩
  split
  · exact ⟨_, _, rfl, hfresh _ (by omega) (by omega), fun s => by
      rw [List.cons_append, List.nil_append, readChar_two s (by omega) (by omega), hc]; rfl⟩
  split
  · exact ⟨_, _, rfl, hfresh _ (by omega) (by omega), fun s => by
      rw [List.cons_append, List.cons_append, List.nil_append,
        readChar_three s (by omega) (by omega) (by omega), hc]; rfl⟩
  · exact ⟨_, _, rfl, hfresh _ (by omega) (by omega), fun s => by
      rw [List.cons_append, List.cons_append, List.cons_append, List.nil_append,
        readChar_four s (by omega) (by omega), hc]; rfl⟩

/-! ## Written texts -/

/-- A text in two parts is written part by part. -/
theorem encode_append (s t : List Char) : encode (s ++ t) = encode s ++ encode t :=
  List.flatMap_append

/-- A written text starts afresh. -/
theorem startsFresh_encode (t : List Char) : StartsFresh (encode t) := by
  cases t with
  | nil => exact fun b hb => nomatch hb
  | cons c t =>
    obtain ⟨b, r, hchar, hfresh, -⟩ := readChar_encodeChar c
    rw [encode, List.flatMap_cons, hchar]
    exact hfresh

/-- **A written text is read back.** -/
theorem decodeFrom_encode (start : Nat) (t : List Char) : decodeFrom start (encode t) = .ok t := by
  induction t generalizing start with
  | nil =>
    rw [encode, List.flatMap_nil, decodeFrom]
  | cons c t ih =>
    obtain ⟨b, r, hchar, -, hread⟩ := readChar_encodeChar c
    rw [encode, List.flatMap_cons, hchar, List.cons_append, decodeFrom]
    simp only [hread, Nat.add_sub_cancel, List.drop_left]
    rw [← encode, ih]

/-- **Written text behind some bytes changes nothing** about whether they can be read. -/
theorem decode_append_encode_iff (a : List UInt8) (t : List Char) :
    (∃ cs, decode (a ++ encode t) = .ok cs) ↔ ∃ cs, decode a = .ok cs := by
  constructor
  · rintro ⟨cs, hcs⟩
    cases ha : decode a with
    | ok cs' => exact ⟨cs', rfl⟩
    | error e =>
      obtain ⟨e', he'⟩ := decodeFrom_append_of_error (startsFresh_encode t) ha
      rw [decode, he'] at hcs
      cases hcs
  · rintro ⟨cs, hcs⟩
    exact ⟨cs ++ t, by rw [decode, decodeFrom_append hcs, decodeFrom_encode]; rfl⟩

end TypeAtlas.Text.Utf8
