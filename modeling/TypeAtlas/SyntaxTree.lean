import TypeAtlas.Text.Blank
import TypeAtlas.Text.Lines
import TypeAtlas.Text.Utf8

/-! # Syntax trees

A syntax tree gives the structure of a source text: nodes of a kind, with a range of bytes, the
field that a node has in its parent, and children. Trees are data; nothing is assumed of their kinds,
fields or ranges. Main definitions:

* `SyntaxTree`: a node and its children.
* `SyntaxTree.text`: the source text of a node.
* `SyntaxTree.summary`: the first line of that text, or else the kind of the node. -/

namespace TypeAtlas

/-- A node of a syntax tree. -/
inductive SyntaxTree where
  /-- A node of a kind, from byte `start` to before byte `stop`; `named` tells it from mere
  punctuation, `field` is its role in its parent. -/
  | node (kind : String) (start stop : Nat) (named : Bool) (field : Option String)
      (children : List SyntaxTree)
  deriving Repr, Inhabited

/-- A source text, as the bytes that ranges refer to. -/
abbrev SourceBytes := List UInt8

namespace SyntaxTree

/-- What a node is. -/
def kind : SyntaxTree → String
  | .node k .. => k

/-- The first byte of a node. -/
def start : SyntaxTree → Nat
  | .node _ a .. => a

/-- The byte after a node. -/
def stop : SyntaxTree → Nat
  | .node _ _ b .. => b

/-- Whether a node is more than punctuation. -/
def named : SyntaxTree → Bool
  | .node _ _ _ n .. => n

/-- The role of a node in its parent. -/
def field : SyntaxTree → Option String
  | .node _ _ _ _ f _ => f

/-- The nodes inside a node. -/
def children : SyntaxTree → List SyntaxTree
  | .node _ _ _ _ _ cs => cs

/-- The first child in a role. -/
def child? (role : String) (t : SyntaxTree) : Option SyntaxTree :=
  t.children.find? fun c => c.field == some role

/-- Whether a node is a comment. -/
def isComment (t : SyntaxTree) : Bool := t.kind == "comment"

/-- Whether a node counts where a type is due. -/
def isTypeNode (t : SyntaxTree) : Bool := t.named && !t.isComment

/-- The source text of a node. -/
def text (bytes : SourceBytes) (t : SyntaxTree) : String :=
  String.ofList (Text.Utf8.slice bytes t.start t.stop)

/-- The text of the first child in a role. -/
def childText? (bytes : SourceBytes) (role : String) (t : SyntaxTree) : Option String :=
  (t.child? role).map (text bytes)

/-- The first line of a node's text, outer blanks aside; the kind of the node if that is empty. -/
def summary (bytes : SourceBytes) (t : SyntaxTree) : String :=
  match Text.trim (t.text bytes).toList with
  | [] => t.kind
  | s => String.ofList (Text.firstLine s)

end SyntaxTree

end TypeAtlas
