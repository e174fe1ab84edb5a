/-! # Comments (specification §3)

A documentation comment is a list of fragments: text, filed under a tag or under none. `Comment.parse?`
reads one from a block, and `Comment.docs` is what documentation shows of it. Main definitions:
`Fragment`, `Comment`. -/

namespace TypeAtlas

/-- A piece of a documentation comment. -/
structure Fragment where
  /-- The tag that the text is filed under, if any. -/
  tag : Option String
  /-- The text, possibly of several lines. -/
  text : String
  deriving DecidableEq, Repr

/-- A documentation comment: its fragments in order. -/
abbrev Comment := List Fragment

end TypeAtlas
