/-! # Type expressions (specification §3)

The types of properties and aliases, as far as documentation tells them apart; `TypeExpr.decompose` takes
them apart into a `Shape`. Main definitions:

* `TypeExpr`: references, arrays, unions, intersections, and texts that are kept as they are.
* `TypeExpr.flaw?`: the first value inside an expression that is no expression at all.
* `TypeExpr.WellFormed`: there is none. -/

namespace TypeAtlas

/-- A type expression. -/
inductive TypeExpr where
  /-- No type was given. -/
  | absent
  /-- A type called by its name. -/
  | named (name : String)
  /-- An array of elements of one type. -/
  | array (element : TypeExpr)
  /-- One of several types. -/
  | union (members : List TypeExpr)
  /-- All of several types. -/
  | inter (members : List TypeExpr)
  /-- Any other type, kept as its source text. -/
  | verbatim (text : String)
  /-- A bare text where an expression is due. -/
  | malformed (text : String)
  deriving Repr, Inhabited

namespace TypeExpr

mutual

/-- The first malformed value in an expression, from left to right. -/
def flaw? : TypeExpr → Option String
  | .array t => flaw? t
  | .union ts => flawAmong? ts
  | .inter ts => flawAmong? ts
  | .malformed s => some s
  | _ => none

/-- The first malformed value in a list of expressions. -/
def flawAmong? : List TypeExpr → Option String
  | [] => none
  | t :: ts => (flaw? t).or (flawAmong? ts)

end

/-- An expression without malformed values. -/
def WellFormed (t : TypeExpr) : Prop := t.flaw? = none

instance (t : TypeExpr) : Decidable t.WellFormed := inferInstanceAs (Decidable (_ = _))

end TypeExpr

end TypeAtlas
