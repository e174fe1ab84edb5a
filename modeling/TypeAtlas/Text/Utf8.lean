import TypeAtlas.Text.Quoted

/-! # UTF-8

Characters as bytes and back. Reading takes one character at a time; a broken sequence is blamed on
its longest valid beginning, so that reading can go on behind it. Main definitions:

* `encode`: the bytes of a text.
* `readChar`: the first character of some bytes, or what is wrong there, with the number of bytes
  that either takes.
* `decode`: all characters, or the first fault with its place.
* `decodeSound`: the characters that can be read, faults left out.
* `slice`: the text between two byte offsets, with what is cut at an end left out. -/

namespace TypeAtlas.Text.Utf8

/-- The bytes of one character. -/
def encodeChar (c : Char) : List UInt8 :=
  let n := c.toNat
  if n < 0x80 then [n.toUInt8]
  else if n < 0x800 then [(0xC0 + n / 64).toUInt8, (0x80 + n % 64).toUInt8]
  else if n < 0x10000 then
    [(0xE0 + n / 4096).toUInt8, (0x80 + n / 64 % 64).toUInt8, (0x80 + n % 64).toUInt8]
  else
    [(0xF0 + n / 262144).toUInt8, (0x80 + n / 4096 % 64).toUInt8, (0x80 + n / 64 % 64).toUInt8,
      (0x80 + n % 64).toUInt8]

/-- The bytes of a text. -/
def encode (s : List Char) : List UInt8 := s.flatMap encodeChar

/-- What is wrong with a sequence of bytes. -/
inductive Reason where
  /-- No character starts with this byte. -/
  | startByte
  /-- The byte after the blamed ones cannot follow them. -/
  | continuationByte
  /-- The bytes end inside a character. -/
  | endOfData
  deriving DecidableEq, Repr

/-- The wording of a reason. -/
def Reason.message : Reason → String
  | .startByte => "invalid start byte"
  | .continuationByte => "invalid continuation byte"
  | .endOfData => "unexpected end of data"

/-- A fault: the place of the first blamed byte, the blamed bytes, and the reason. -/
structure Fault where
  /-- Offset of the first blamed byte. -/
  start : Nat
  /-- The blamed bytes; there is at least one. -/
  bytes : List UInt8
  /-- Why they are blamed. -/
  reason : Reason
  deriving DecidableEq, Repr

/-- The wording of a fault: one blamed byte is shown, several are only placed. -/
def Fault.message (f : Fault) : String :=
  "'utf-8' codec can't decode " ++
    (match f.bytes with
    | [b] =>
      "byte 0x" ++ String.ofList (hexDigits 2 b.toNat) ++ " in position " ++ toString f.start
    | bs =>
      "bytes in position " ++ toString f.start ++ "-" ++ toString (f.start + bs.length - 1)) ++
    ": " ++ f.reason.message

/-- Whether a byte lies in an inclusive range. -/
def within (lo hi : Nat) (b : UInt8) : Bool := lo ≤ b.toNat && b.toNat ≤ hi

/-- The least and the greatest second byte after a first byte, and how many bytes follow the first
in all. Overlong forms, surrogates and codes above the last one are excluded by the second byte. -/
def followers (b : UInt8) : Option (Nat × Nat × Nat) :=
  if within 0xC2 0xDF b then some (1, 0x80, 0xBF)
  else if b = 0xE0 then some (2, 0xA0, 0xBF)
  else if b = 0xED then some (2, 0x80, 0x9F)
  else if within 0xE1 0xEF b then some (2, 0x80, 0xBF)
  else if b = 0xF0 then some (3, 0x90, 0xBF)
  else if b = 0xF4 then some (3, 0x80, 0x8F)
  else if within 0xF1 0xF3 b then some (3, 0x80, 0xBF)
  else none

/-- The code that `count` more bytes complete, the next of them between `lo` and `hi`; else the
reason, with the number of bytes that were fine. -/
def readTail (code taken : Nat) : (count lo hi : Nat) → List UInt8 → Except (Reason × Nat) Nat
  | 0, _, _, _ => .ok code
  | _ + 1, _, _, [] => .error (.endOfData, taken)
  | count + 1, lo, hi, b :: r =>
    if within lo hi b then readTail (code * 64 + b.toNat % 64) (taken + 1) count 0x80 0xBF r
    else .error (.continuationByte, taken)

/-- What the bytes after a first byte `b` make of it: a character and its length in bytes, or a
reason and the number of blamed bytes. -/
def readChar (b : UInt8) (r : List UInt8) : Except (Reason × Nat) (Char × Nat) :=
  if b < 0x80 then .ok (Char.ofNat b.toNat, 1)
  else
    match followers b with
    | none => .error (.startByte, 1)
    | some (count, lo, hi) =>
      let lead := b.toNat % (if count = 1 then 32 else if count = 2 then 16 else 8)
      match readTail lead 1 count lo hi r with
      | .ok code => .ok (Char.ofNat code, count + 1)
      | .error e => .error e

/-- The characters of some bytes that start at offset `start`, or the first fault. -/
def decodeFrom (start : Nat) (bytes : List UInt8) : Except Fault (List Char) :=
  match bytes with
  | [] => .ok []
  | b :: r =>
    match readChar b r with
    | .error (reason, n) => .error ⟨start, (b :: r).take n, reason⟩
    | .ok (c, n) =>
      match decodeFrom (start + n) (r.drop (n - 1)) with
      | .ok cs => .ok (c :: cs)
      | .error e => .error e
termination_by bytes.length
decreasing_by simp only [List.length_drop, List.length_cons]; omega

/-- The characters of some bytes, or the first fault. -/
def decode (bytes : List UInt8) : Except Fault (List Char) := decodeFrom 0 bytes

/-- The characters that can be read; blamed bytes are left out. -/
def decodeSound (bytes : List UInt8) : List Char :=
  match bytes with
  | [] => []
  | b :: r =>
    match readChar b r with
    | .error (_, n) => decodeSound (r.drop (n - 1))
    | .ok (c, n) => c :: decodeSound (r.drop (n - 1))
termination_by bytes.length
decreasing_by all_goals simp only [List.length_drop, List.length_cons]; omega

/-- The text between byte offsets `start` and `stop`, as far as the bytes reach; a character that is
cut by either end is left out. -/
def slice (bytes : List UInt8) (start stop : Nat) : List Char :=
  decodeSound ((bytes.drop start).take (stop - start))

end TypeAtlas.Text.Utf8
