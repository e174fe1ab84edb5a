import TypeAtlas.Comment

/-! # What a comment says (specification §4.3)

Of a comment, documentation shows a description, an example and a default. The description is all
untagged text. Of several fragments under one tag the first counts, and an empty text says nothing.
Main definitions: `Docs`, `Comment.docs`. -/

namespace TypeAtlas

/-- The parts of a comment that documentation shows. -/
structure Docs where
  /-- All untagged text. -/
  description : Option String
  /-- The text under the tag `example`. -/
  exampleText : Option String
  /-- The text under the tag `default`. -/
  defaultText : Option String
  deriving DecidableEq, Repr

/-- What no comment says. -/
def Docs.none : Docs := ⟨.none, .none, .none⟩

/-- A text, unless it is empty. -/
def nonEmpty (s : String) : Option String := if s.isEmpty then none else some s

namespace Comment

/-- The texts that are filed under no tag, empty ones left out. -/
def untagged (c : Comment) : List String :=
  c.filterMap fun f => if f.tag.isNone then nonEmpty f.text else none

/-- The text of the first fragment under a tag, unless that text is empty. -/
def tagged (tag : String) (c : Comment) : Option String :=
  (c.find? fun f => f.tag == some tag).bind fun f => nonEmpty f.text

/-- The parts of a comment that documentation shows: its `untagged` text, and what is `tagged` as an
example and as a default. -/
def docs (c : Comment) : Docs where
  description := nonEmpty (String.intercalate "\n" (untagged c))
  exampleText := tagged "example" c
  defaultText := tagged "default" c

end Comment

/-- What a comment says, if there is one. -/
def Docs.of (c : Option Comment) : Docs := c.elim Docs.none Comment.docs

end TypeAtlas
