import TypeAtlas.Catalogue
import TypeAtlas.Yaml.Tag
import TypeAtlas.Yaml.Token

/-! # Nodes

The tokens of a text as a tree of tagged nodes. A name given to a node stands for that node wherever
it is used again; inside of the node itself it stands for a cycle. Main definitions:

* `Node`: scalars, sequences and mappings.
* `Build`, `Builder`: what is left of the tokens, with the names and the short forms of tags so far.
* `Build.node`: the node that comes.
* `Node.ofTokens`: the node of the only document, if there is one. -/

namespace TypeAtlas.Yaml

/-- A node. -/
inductive Node where
  /-- A scalar. -/
  | scalar (tag : Tag) (text : String)
  /-- A sequence. -/
  | sequence (tag : Tag) (items : List Node)
  /-- A mapping, with its entries as they are written. -/
  | mapping (tag : Tag) (entries : List (Node × Node))
  /-- A sequence or a mapping inside of itself. -/
  | cycle (isMapping : Bool)
  deriving Repr, Inhabited

/-- The state while nodes are built. -/
structure Build where
  /-- The tokens that are left. -/
  tokens : List Token
  /-- Why the tokens end early. -/
  fault : Option Fault
  /-- The named nodes. -/
  names : Catalogue String Node
  /-- What the short forms of tags stand for. -/
  handles : Catalogue String String

/-- A step that builds nodes. -/
abbrev Builder := StateT Build (Except Fault)

namespace Build

/-- A fault of the text. -/
def refuse {α : Type} : Builder α := throw .malformed

/-- The token that comes. -/
def peek : Builder Token := do
  let b ← get
  match b.tokens with
  | t :: _ => return t
  | [] => throw (b.fault.getD .malformed)

/-- The token that comes is taken. -/
def drop : Builder Unit := modify fun b => { b with tokens := b.tokens.tail }

/-- Whether the token that comes is among the given ones. -/
def atAny (ts : List Token) : Builder Bool := return ts.contains (← peek)

/-- The given token is taken if it comes. -/
def accept (t : Token) : Builder Bool := do
  if (← peek) = t then
    drop
    return true
  return false

/-- The given token has to come, and is taken. -/
def expect (t : Token) : Builder Unit := do if !(← accept t) then refuse

/-- A node gets its name, if it has one. -/
def name (n : Option String) (node : Node) : Builder Unit :=
  match n with
  | none => pure ()
  | some n => modify fun b => { b with names := Catalogue.insert n node b.names }

/-- The name of a node must not be in use. -/
def fresh (n : Option String) : Builder Unit := do
  if let some n := n then
    if Catalogue.has n (← get).names then refuse

/-- The name in front of a node. -/
def anchor? : Builder (Option String) := do
  match ← peek with
  | .anchor n =>
    drop
    return some n
  | _ => return none

/-- The tag in front of a node, without its short form. -/
def tag? : Builder (Option (Option String × String)) := do
  match ← peek with
  | .tag handle rest =>
    drop
    return some (handle, rest)
  | _ => return none

/-- A tag in full. -/
def fullTag : Option (Option String × String) → Builder (Option String)
  | none => return none
  | some (none, rest) => return some rest
  | some (some handle, rest) => do
    match Catalogue.find? handle (← get).handles with
    | some start => return some (start ++ rest)
    | none => refuse

/-- The name and the tag in front of a node, in either order. -/
def properties : Builder (Option String × Option String) := do
  match ← anchor? with
  | some n => return (some n, ← fullTag (← tag?))
  | none =>
    match ← tag? with
    | some t =>
      let n ← anchor?
      return (n, ← fullTag (some t))
    | none => return (none, none)

/-- The tag of a collection: its own, or the usual one. -/
def collectionTag (usual : Tag) : Option String → Tag
  | none => usual
  | some t => if t = "!" then usual else Tag.ofName t

/-- The tag of a scalar: its own, or what its text stands for unless it is quoted. -/
def scalarTag (text : String) (plain : Bool) : Option String → Tag
  | none => if plain then Tag.ofText text else .str
  | some t => if t = "!" then Tag.ofText text else Tag.ofName t

/-- The scalar that stands where nothing is written. -/
def empty : Node := .scalar .null ""

/-- Where a node stands. -/
inductive Position where
  /-- In a flow collection. -/
  | flow
  /-- In a block. -/
  | block
  /-- In an entry of a block mapping, where a sequence needs no indentation. -/
  | entry
  deriving DecidableEq

/-- How a collection is written. -/
inductive Layout where
  /-- A sequence in a block of its own. -/
  | blockSequence
  /-- A sequence at the indentation of its key. -/
  | entrySequence
  /-- A sequence in brackets. -/
  | flowSequence
  /-- A mapping in a block. -/
  | blockMapping
  /-- A mapping in braces. -/
  | flowMapping
  deriving DecidableEq

/-- Whether a layout is one of mappings. -/
def Layout.isMapping : Layout → Bool
  | .blockMapping => true
  | .flowMapping => true
  | _ => false

/-- The layout of the collection that a token starts in a position. -/
def layout? : Position → Token → Option Layout
  | .entry, .blockEntry => some .entrySequence
  | _, .flowSequence => some .flowSequence
  | _, .flowMapping => some .flowMapping
  | .flow, _ => none
  | _, .blockSequence => some .blockSequence
  | _, .blockMapping => some .blockMapping
  | _, _ => none

/-- The collection that starts here; the token that starts it is taken, unless it is that of the
first item. -/
def collection? (position : Position) : Builder (Option Layout) := do
  match layout? position (← peek) with
  | some .entrySequence => return some .entrySequence
  | some layout =>
    drop
    return some layout
  | none => return none

/-- The scalar that comes; nothing is one too if it has a name or a tag. -/
def scalar (n tag : Option String) : Builder Node := do
  match ← peek with
  | .scalar text plain =>
    drop
    return .scalar (scalarTag text plain tag) text
  | _ => if n.isNone && tag.isNone then refuse else return .scalar (scalarTag "" true tag) ""

mutual

/-- The node that comes. -/
def node (position : Position) : Nat → Builder Node
  | 0 => refuse
  | fuel + 1 => do
    match ← peek with
    | .aliased n =>
      drop
      match Catalogue.find? n (← get).names with
      | some node => return node
      | none => refuse
    | _ =>
      let (n, tag) ← properties
      match ← collection? position with
      | none =>
        let node ← scalar n tag
        fresh n
        name n node
        return node
      | some layout =>
        fresh n
        name n (.cycle layout.isMapping)
        let node ←
          if layout.isMapping then do
            pure (.mapping (collectionTag .map tag) (← entries layout true fuel))
          else do pure (.sequence (collectionTag .seq tag) (← items layout true fuel))
        name n node
        return node

/-- The node that comes, or nothing if one of the given tokens comes. -/
def nodeUnless (position : Position) (stops : List Token) : Nat → Builder Node
  | 0 => refuse
  | fuel + 1 => do if ← atAny stops then return empty else node position fuel

/-- The value that comes after a key, or nothing. -/
def valueUnless (position : Position) (stops : List Token) : Nat → Builder Node
  | 0 => refuse
  | fuel + 1 => do if ← accept .value then nodeUnless position stops fuel else return empty

/-- The items of a sequence up to its end. -/
def items (layout : Layout) (first : Bool) : Nat → Builder (List Node)
  | 0 => refuse
  | fuel + 1 => do
    if layout = .flowSequence then
      if ← accept .flowSequenceEnd then return []
      if !first then expect .flowEntry
      if ← accept .key then
        let k ← nodeUnless .flow [.value, .flowEntry, .flowSequenceEnd] fuel
        let v ← valueUnless .flow [.flowEntry, .flowSequenceEnd] fuel
        return .mapping .map [(k, v)] :: (← items layout false fuel)
      if ← accept .flowSequenceEnd then return []
      let item ← node .flow fuel
      return item :: (← items layout false fuel)
    else if ← accept .blockEntry then
      let stops :=
        if layout = .blockSequence then [.blockEntry, .blockEnd]
        else [.blockEntry, .key, .value, .blockEnd]
      let item ← nodeUnless .block stops fuel
      return item :: (← items layout false fuel)
    else
      if layout = .blockSequence then expect .blockEnd
      return []

/-- The entries of a mapping up to its end. -/
def entries (layout : Layout) (first : Bool) : Nat → Builder (List (Node × Node))
  | 0 => refuse
  | fuel + 1 => do
    if layout = .flowMapping then
      if ← accept .flowMappingEnd then return []
      if !first then expect .flowEntry
      if ← accept .key then
        let k ← nodeUnless .flow [.value, .flowEntry, .flowMappingEnd] fuel
        let v ← valueUnless .flow [.flowEntry, .flowMappingEnd] fuel
        return (k, v) :: (← entries layout false fuel)
      if ← accept .flowMappingEnd then return []
      let k ← node .flow fuel
      return (k, empty) :: (← entries layout false fuel)
    else if ← accept .key then
      let k ← nodeUnless .entry [.key, .value, .blockEnd] fuel
      let v ← valueUnless .entry [.key, .value, .blockEnd] fuel
      return (k, v) :: (← entries layout false fuel)
    else
      expect .blockEnd
      return []

end

/-- What the short forms of tags stand for in every document. -/
def usualHandles : Catalogue String String := [("!", "!"), ("!!", coreTags)]

/-- The directives in front of a document: one version at most, which has to be a known one, and one
meaning at most for each short form. -/
def directives (versioned : Bool) (handles : Catalogue String String) : Nat → Builder Unit
  | 0 => refuse
  | fuel + 1 => do
    match ← peek with
    | .version major =>
      drop
      if versioned || major ≠ 1 then refuse
      directives true handles fuel
    | .tagHandle handle start =>
      drop
      if Catalogue.has handle handles then refuse
      directives versioned (Catalogue.insert handle start handles) fuel
    | .directive =>
      drop
      directives versioned handles fuel
    | _ =>
      let others := usualHandles.filter fun p => !Catalogue.has p.1 handles
      modify fun b => { b with handles := handles ++ others }

/-- The directives in front of a document and the marker of its start. -/
def documentHead (fuel : Nat) : Builder Unit := do
  directives false [] fuel
  expect .documentStart

/-- Whether a token is a directive. -/
def isDirective : Token → Bool
  | .version _ => true
  | .tagHandle .. => true
  | .directive => true
  | _ => false

/-- Whether a document with no content ends before a token. -/
def endsDocument (t : Token) : Bool :=
  isDirective t || t = .documentStart || t = .documentEnd || t = .streamEnd

/-- Markers of the end of a document. -/
def documentEnds : Nat → Builder Unit
  | 0 => pure ()
  | fuel + 1 => do if ← accept .documentEnd then documentEnds fuel

/-- The node of the only document; nothing if there is no document. A second one is refused once its
start was seen. -/
def document (fuel : Nat) : Builder (Option Node) := do
  let t ← peek
  if t = .streamEnd then return none
  let node ←
    if isDirective t || t = .documentStart then do
      documentHead fuel
      if endsDocument (← peek) then pure empty else node .block fuel
    else node .block fuel
  documentEnds fuel
  if ← accept .streamEnd then return some node
  documentHead fuel
  refuse

end Build

/-- The node of the only document that some tokens hold; nothing if they hold none. -/
def Node.ofTokens (tokens : List Token) (fault : Option Fault) : Except Fault (Option Node) :=
  (Build.document (4 * tokens.length + 4)).run' ⟨tokens, fault, [], Build.usualHandles⟩

end TypeAtlas.Yaml
