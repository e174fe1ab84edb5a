import TypeAtlas.Catalogue
import TypeAtlas.Declaration

/-! # Linked shapes (specification §3)

A linked shape is a type whose leaves are resolved: runs of text, and links to declarations. Main
definitions:

* `Segment`, `LinkedShape`: text and links in order.
* `LinkedShape.join`: segments with neighbouring texts joined and empty ones left out.
* `LinkedShape.plain`, `LinkedShape.markdown`, `LinkedShape.html`: a linked shape as text, by how it
  shows a link.
* `LinkedDocs`: linked declarations under their names. -/

namespace TypeAtlas

/-- A run of text or a link. -/
inductive Segment where
  /-- Text. -/
  | text (s : String)
  /-- A link to a declaration. -/
  | link (target : String)
  deriving DecidableEq, Repr

/-- A type with resolved leaves. -/
abbrev LinkedShape := List Segment

/-- Linked declarations under their names. -/
abbrev LinkedDocs := Catalogue String (Declaration LinkedShape)

namespace LinkedShape

/-- A segment before others: an empty text vanishes, two texts become one. -/
def cons : Segment → LinkedShape → LinkedShape
  | .text s, .text t :: r => .text (s ++ t) :: r
  | .text s, r => if s.isEmpty then r else .text s :: r
  | .link target, r => .link target :: r

/-- Segments with neighbouring texts joined and empty ones left out. -/
def join : List Segment → LinkedShape
  | [] => []
  | s :: ss => cons s (join ss)

/-- The targets of the links, in order. -/
def links (s : LinkedShape) : List String :=
  s.filterMap fun
    | .link target => some target
    | .text _ => none

/-- Whether a shape is text only. -/
def isInline (s : LinkedShape) : Bool := s.links.isEmpty

/-- A linked shape as text, with links shown by `link`. -/
def render (link : String → String) : LinkedShape → String
  | [] => ""
  | .text t :: r => t ++ render link r
  | .link target :: r => link target ++ render link r

/-- A linked shape without link markup. -/
def plain : LinkedShape → String := render id

/-- A linked shape with markdown links. -/
def markdown : LinkedShape → String :=
  render fun target => "[" ++ target ++ "](#" ++ target ++ ")"

/-- A linked shape with anchors. -/
def html : LinkedShape → String :=
  render fun target => "<a href=\"#" ++ target ++ "\">" ++ target ++ "</a>"

end LinkedShape

end TypeAtlas
