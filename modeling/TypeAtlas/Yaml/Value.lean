import TypeAtlas.Text.Lines
import TypeAtlas.Yaml.Loader
import TypeAtlas.Yaml.Node
import TypeAtlas.Yaml.Numeral

/-! # Values

What the nodes of a text stand for. A collection is only looked into after everything beside it, so
of two faults the one that is nested less is reported, and then the first. Main definitions:

* `Node.value`: the value of a node, and the faults in it with their depth.
* `Yaml.read`: the value that a text writes.
* `Yaml.load`: the same as a `Yaml.Loader`. -/

namespace TypeAtlas.Yaml

/-- Whether a value can be a key. -/
def Value.isKey : Value → Bool
  | .list _ => false
  | .map _ => false
  | .set _ => false
  | _ => true

/-- The six bits of a character in base 64. -/
def sixBits? (c : Char) : Option Nat :=
  if 'A' ≤ c && c ≤ 'Z' then some (c.toNat - 65)
  else if 'a' ≤ c && c ≤ 'z' then some (c.toNat - 71)
  else if c.isDigit then some (c.toNat + 4)
  else if c = '+' then some 62
  else if c = '/' then some 63
  else none

/-- The bytes of a text in base 64, with `count` characters of a group of four read, `left` the bits
of them that are not yet in a byte, and `pads` padding characters since. Other characters are skipped;
padding that fills a group ends the text. -/
def base64 (count left pads : Nat) : List Char → Option (List UInt8)
  | [] => if count = 0 then some [] else none
  | c :: r =>
    if c = '=' then
      if 2 ≤ count && 4 ≤ count + pads + 1 then some []
      else base64 count left (if 2 ≤ count then pads + 1 else pads) r
    else
      match sixBits? c with
      | none => base64 count left pads r
      | some bits =>
        if count = 0 then base64 1 bits 0 r
        else if count = 1 then
          (base64 2 (bits % 16) 0 r).map ((left * 4 + bits / 16).toUInt8 :: ·)
        else if count = 2 then
          (base64 3 (bits % 4) 0 r).map ((left * 16 + bits / 4).toUInt8 :: ·)
        else (base64 0 0 0 r).map ((left * 64 + bits).toUInt8 :: ·)

/-- How many days a month has. -/
def daysIn (year month : Nat) : Nat :=
  if month = 2 then
    if year % 4 = 0 && (year % 100 ≠ 0 || year % 400 = 0) then 29 else 28
  else if month = 4 || month = 6 || month = 9 || month = 11 then 30 else 31

/-- What is wrong with a point in time. -/
def Moment.fault? (m : Moment) : Option MomentFault :=
  match m.offset with
  | some minutes => if 1440 ≤ minutes.natAbs then some (.offset minutes) else rest
  | none => rest
where
  /-- What is wrong apart from the offset. -/
  rest : Option MomentFault :=
    if m.year = 0 then some .year
    else if m.month = 0 || 12 < m.month then some .month
    else if m.day = 0 || daysIn m.year m.month < m.day then some .day
    else
      match m.time with
      | none => none
      | some (h, min, sec) =>
        if 23 < h then some .hour
        else if 59 < min then some .minute
        else if 59 < sec then some .second
        else none

/-- The value of a text under a tag that scalars have. -/
def scalarValue (tag : Tag) (text : String) : Except Fault Value :=
  match tag with
  | .null => .ok .null
  | .truth =>
    let lowered := String.ofList (Text.lower text.toList)
    match truths.lookup lowered with
    | some b => .ok (.truth b)
    | none => .error (.notTruth lowered)
  | .int => (integer text).map .int
  | .float => (decimal text).map .float
  | .binary =>
    if text.toList.all fun c => c.toNat < 128 then
      match base64 0 0 0 text.toList with
      | some bytes => .ok (.binary bytes)
      | none => .error .malformed
    else .error .malformed
  | .timestamp =>
    match Moment.parse? (Text.withoutBreak text.toList) with
    | none => .error .notMoment
    | some m =>
      match m.fault? with
      | some f => .error (.moment f)
      | none => .ok .moment
  | .str => .ok (.text text)
  | _ => .error .malformed

/-- What stands for a node with this tag while it is not yet looked into, which is the case for
collections until all beside them is known. -/
def Tag.deferred? : Tag → Option Value
  | .omap => some (.list [])
  | .pairs => some (.list [])
  | .seq => some (.list [])
  | .set => some (.set [])
  | .map => some (.map [])
  | _ => none

/-- The tag of a node. -/
def Node.tag : Node → Tag
  | .scalar tag _ => tag
  | .sequence tag _ => tag
  | .mapping tag _ => tag
  | .cycle true => .map
  | .cycle false => .seq

mutual

/-- The text of a node that has to be a scalar, or a mapping with a default value. -/
def Node.scalarText : Node → Except Fault String
  | .scalar _ text => .ok text
  | .mapping _ entries => defaultText entries
  | _ => .error .malformed

/-- The text of the first default value among some entries. -/
def defaultText : List (Node × Node) → Except Fault String
  | [] => .error .malformed
  | (k, v) :: r => if k.tag = .value then v.scalarText else defaultText r

end

mutual

/-- The entries of a mapping with those merged into it in front, so that its own come last. -/
def mergedEntries : List (Node × Node) → Except Fault (List (Node × Node))
  | [] => .ok []
  | (k, v) :: r => do
    if k.tag = .merge then
      let merged ← mergeSource v
      return merged ++ (← mergedEntries r)
    else mergedEntries r

/-- The entries that a merged node gives. -/
def mergeSource : Node → Except Fault (List (Node × Node))
  | .mapping _ entries => do
    return (← mergedEntries entries) ++ entries.filter fun p => p.1.tag ≠ .merge
  | .sequence _ items => mergeSources items
  | .cycle _ => .ok []
  | .scalar .. => .error .malformed

/-- The entries that a list of merged mappings gives, those of the first last. -/
def mergeSources : List Node → Except Fault (List (Node × Node))
  | [] => .ok []
  | .mapping _ entries :: r => do
    let own ← mergedEntries entries
    return (← mergeSources r) ++ own ++ entries.filter fun p => p.1.tag ≠ .merge
  | .cycle true :: r => mergeSources r
  | _ => .error .malformed

end

/-- The value of a node under a tag that scalars have, from the text of its scalar or its default value.
A point in time has no default value. -/
def Node.valueOfText (node : Node) (tag : Tag) (text : String) : Except Fault Value :=
  match tag, node with
  | .timestamp, .mapping .. => .error .momentInCollection
  | _, _ => scalarValue tag text

/-- A value, with the faults in it and how deeply each is nested. -/
abbrev Checked (α : Type) := α × List (Nat × Fault)

/-- A value, or a fault at a depth with nothing in its place. -/
def Checked.ofExcept (depth : Nat) : Except Fault Value → Checked Value
  | .ok v => (v, [])
  | .error e => (.null, [(depth, e)])

/-- Checked values together, with their faults in order. -/
def Checked.all (vs : List (Checked Value)) : Checked (List Value) :=
  (vs.map (·.1), vs.flatMap (·.2))

/-- Checked pairs together, with their faults in order. -/
def Checked.pairs (ps : List (Checked Value × Checked Value)) : Checked (List (Value × Value)) :=
  (ps.map fun p => (p.1.1, p.2.1), ps.flatMap fun p => p.1.2 ++ p.2.2)

mutual

/-- How deeply the nodes in a node are nested. -/
def Node.height : Node → Nat
  | .sequence _ items => itemsHeight items + 1
  | .mapping _ entries => entriesHeight entries + 1
  | _ => 0

/-- The greatest height of some nodes. -/
def itemsHeight : List Node → Nat
  | [] => 0
  | n :: r => max n.height (itemsHeight r)

/-- The greatest height of some keys and values. -/
def entriesHeight : List (Node × Node) → Nat
  | [] => 0
  | (k, v) :: r => max (max k.height v.height) (entriesHeight r)

end

/-- The only entry of a mapping. -/
def Node.onlyPair? : Node → Option (Node × Node)
  | .mapping _ [p] => some p
  | _ => none

/-- The value of a key with a check that it can be one; the mark of a default value is a text. -/
def keyValue (value : Node → Checked Value) (depth : Nat) (k : Node) : Checked Value :=
  let (v, faults) :=
    if k.tag = .value then Checked.ofExcept depth (k.scalarText.map .text) else value k
  (v, faults ++ if v.isKey then [] else [(depth, .malformed)])

/-- The entries of a mapping with values given by `value`, after merging. -/
def entryValues (value : Node → Checked Value) (depth : Nat) (entries : List (Node × Node)) :
    Checked (List (Value × Value)) :=
  match mergedEntries entries with
  | .error e => ([], [(depth, e)])
  | .ok merged =>
    Checked.pairs ((merged ++ entries.filter fun p => p.1.tag ≠ .merge).map fun p =>
      (keyValue value depth p.1, value p.2))

/-- The pairs of a list of mappings with one entry each. -/
def pairValues (value : Node → Checked Value) (depth : Nat) (items : List Node) :
    Checked (List Value) :=
  Checked.all (items.map fun n =>
    match n.onlyPair? with
    | none => (.null, [(depth, .malformed)])
    | some (k, v) =>
      let (p, faults) := Checked.all [value k, value v]
      (.list p, faults))

/-- The value of a node at a depth, if its height is below the first argument. -/
def Node.value : Nat → Nat → Node → Checked Value
  | 0, depth, _ => (.null, [(depth, .malformed)])
  | fuel + 1, depth, node =>
    let inner := Node.value fuel (depth + 1)
    match node.tag, node with
    | _, .cycle isMapping => (if isMapping then .map [] else .list [], [])
    | .seq, .sequence _ items =>
      let (vs, faults) := Checked.all (items.map inner)
      (.list vs, faults)
    | .omap, .sequence _ items =>
      let (vs, faults) := pairValues inner (depth + 1) items
      (.list vs, faults)
    | .pairs, .sequence _ items =>
      let (vs, faults) := pairValues inner (depth + 1) items
      (.list vs, faults)
    | .map, .mapping _ entries =>
      let (ps, faults) := entryValues inner (depth + 1) entries
      (.map ps, faults)
    | .set, .mapping _ entries =>
      let (ps, faults) := entryValues inner (depth + 1) entries
      (.set (ps.map (·.1)), faults)
    | tag, node =>
      match tag.deferred? with
      | some v => (v, [(depth + 1, .malformed)])
      | none => Checked.ofExcept depth (node.scalarText >>= node.valueOfText tag)

/-- The first of the faults that are nested least. -/
def shallowest (faults : List (Nat × Fault)) : Option Fault :=
  (faults.foldl (fun best f =>
    match best with
    | none => some f
    | some b => if f.1 < b.1 then some f else some b) none).map (·.2)

/-- The value that a text writes; a text without a document writes nothing. -/
def read (text : String) : Except Fault Value := do
  let (tokens, fault) := tokenize text.toList
  match ← Node.ofTokens tokens.toList fault with
  | none => return .null
  | some node =>
    let (v, faults) := node.value (node.height + 1) 0
    match shallowest faults with
    | none => return v
    | some e => throw e

/-- The loader of the program. What it says of a malformed text does not name the rule. -/
def load : Loader := fun text =>
  (read text).mapError fun
    | .malformed => .malformed Fault.malformed.message
    | fault => .other fault

end TypeAtlas.Yaml
