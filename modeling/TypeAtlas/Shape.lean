import TypeAtlas.Template
import TypeAtlas.Text.Quoted
import TypeAtlas.TypeExpr

/-! # Shapes (specification §3 and §4.2)

A shape is what documentation keeps of a type: its leaves, and a template with one place for each
leaf. Main definitions:

* `Shape`: leaves and template, fitting each other by type.
* `Shape.make`: a shape of given leaves and template, refused when they do not fit.
* `TypeExpr.shape`: the shape of a type expression. Unions and intersections look alike in it.
* `TypeExpr.decompose`: the same, with malformed expressions refused. -/

namespace TypeAtlas

/-- Leaves and a template with one place for each. -/
structure Shape where
  /-- The leaf types, from left to right. -/
  leaves : List String
  /-- The text around the leaves. -/
  template : String
  /-- Each leaf has its place. -/
  fits : Template.count template.toList = leaves.length
  deriving DecidableEq

/-- Leaves and places differ in number. -/
structure ShapeFault where
  /-- The leaves. -/
  leaves : List String
  /-- The template. -/
  template : String
  deriving DecidableEq, Repr

/-- The wording of a shape fault. -/
def ShapeFault.message (f : ShapeFault) : String :=
  "Type shape " ++ Text.quoted f.template ++ " has " ++
    toString (Template.count f.template.toList) ++ " placeholders for " ++
    toString f.leaves.length ++ " leaves " ++ Text.quotedList f.leaves

namespace Shape

/-- The template of a single leaf. -/
def single : String := String.ofList Template.placeholder

/-- A shape of given leaves and template. -/
def make (leaves : List String) (template : String) : Except ShapeFault Shape :=
  if h : Template.count template.toList = leaves.length then .ok ⟨leaves, template, h⟩
  else .error ⟨leaves, template⟩

/-- The texts around the leaves, one more than there are leaves. -/
def parts (s : Shape) : List String := (Template.parts s.template.toList).map String.ofList

/-- A shape that is one leaf. -/
def leaf (name : String) : Shape where
  leaves := [name]
  template := single
  fits := by simp [single, Template.placeholder]

/-- A shape with brackets behind it. -/
def array (s : Shape) : Shape where
  leaves := s.leaves
  template := s.template ++ "[]"
  fits := by
    rw [String.toList_append, show "[]".toList = '[' :: [']'] from rfl,
      Template.count_append_cons _ (by decide), s.fits]
    simp [Template.count]

/-- The shape of no type. -/
def empty : Shape := ⟨[], "", rfl⟩

/-- Two shapes with a bar between them. -/
def beside (s t : Shape) : Shape where
  leaves := s.leaves ++ t.leaves
  template := s.template ++ (" | " ++ t.template)
  fits := by
    rw [String.toList_append, String.toList_append, show " | ".toList = [' ', '|', ' '] from rfl,
      List.cons_append, List.cons_append, List.cons_append, List.nil_append,
      Template.count_append_cons _ (by decide), s.fits, List.length_append]
    simp [Template.count, t.fits]

/-- Shapes with bars between them. -/
def alternatives : List Shape → Shape
  | [] => empty
  | [s] => s
  | s :: ss => beside s (alternatives ss)

end Shape

/-- A bare text was met where a type expression is due. -/
structure MalformedType where
  /-- The text. -/
  text : String
  deriving DecidableEq, Repr

/-- The wording of a malformed type. -/
def MalformedType.message (m : MalformedType) : String :=
  "Unsupported type expression: " ++ Text.quoted m.text

namespace TypeExpr

/-- The leaf that stands for a type that was not given. -/
def unknown : String := "any"

mutual

/-- The shape of a type expression; a malformed value counts as a leaf. -/
def shape : TypeExpr → Shape
  | .absent => .leaf unknown
  | .named name => .leaf name
  | .array t => (shape t).array
  | .union ts => .alternatives (shapes ts)
  | .inter ts => .alternatives (shapes ts)
  | .verbatim text => .leaf text
  | .malformed text => .leaf text

/-- The shapes of several type expressions. -/
def shapes : List TypeExpr → List Shape
  | [] => []
  | t :: ts => shape t :: shapes ts

end

/-- The shape of a well-formed expression, or the flaw of any other. -/
def decompose (t : TypeExpr) : Except MalformedType Shape :=
  match t.flaw? with
  | some text => .error ⟨text⟩
  | none => .ok t.shape

/-- A well-formed expression has a shape. -/
theorem decompose_of_wellFormed {t : TypeExpr} (h : t.WellFormed) : t.decompose = .ok t.shape := by
  rw [decompose, show t.flaw? = none from h]

end TypeExpr

end TypeAtlas
