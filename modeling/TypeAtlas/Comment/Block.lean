import TypeAtlas.Comment
import TypeAtlas.Text.Lines
import TypeAtlas.Text.Word

/-! # Block comments (specification §6)

Reading a block `/** … */` into a `Comment`. Each line loses its outer blanks and one leading star
(`undecorate`). A line that starts with `@` and a tag name (`tagLine?`) opens a tagged fragment, which
runs to the next such line; what stands before the first one is the untagged fragment. Main definitions:

* `isBlock`: the texts that are documentation blocks.
* `tagLine?`: the tag and the rest of a line that opens a tagged fragment.
* `group`: lines gathered under the tag line before them.
* `parse?`: the comment of a block. -/

namespace TypeAtlas.Comment

open Text

/-- What a documentation block starts with. -/
def opener : List Char := ['/', '*', '*']

/-- What a documentation block ends with. -/
def closer : List Char := ['*', '/']

/-- Whether a text is a documentation block, outer blanks aside; the empty comment is none. -/
def isBlock (s : List Char) : Bool :=
  let t := trim s
  opener.isPrefixOf t && closer.isSuffixOf t && t != ['/', '*', '*', '/']

/-- The text between the opener and the closer of a block. -/
def body (s : List Char) : List Char :=
  let inner := (trim s).drop 3
  inner.take (inner.length - 2)

/-- A line without its outer blanks and without the star, with the blank after it, that decorates
it. -/
def undecorate (raw : List Char) : List Char :=
  match trimStart raw with
  | '*' :: ' ' :: r => trimEnd r
  | '*' :: r => trimEnd r
  | l => trimEnd l

/-- The tag name and the text after it, on a line that opens a tagged fragment. -/
def tagLine? : List Char → Option (List Char × List Char)
  | '@' :: r =>
    let name := r.takeWhile isWord
    if name.isEmpty then none else some (name, trimStart (r.dropWhile isWord))
  | _ => none

/-- The lines before the first tag line, and each tag with its lines: the rest of the tag line, if
there is one, and all lines up to the next tag line. -/
def group : List (List Char) → List (List Char) × List (List Char × List (List Char))
  | [] => ([], [])
  | l :: ls =>
    let (lead, tagged) := group ls
    match tagLine? l with
    | none => (l :: lead, tagged)
    | some (tag, text) => ([], (tag, if text.isEmpty then lead else text :: lead) :: tagged)

/-- Lines without the blank ones at either end. -/
def dropOuterBlank (ls : List (List Char)) : List (List Char) :=
  ((ls.dropWhile allBlank).reverse.dropWhile allBlank).reverse

/-- The text of a fragment that has these lines. -/
def paragraph (ls : List (List Char)) : List Char := unlines (dropOuterBlank ls)

/-- The fragments of grouped lines: the untagged one only if it has text. -/
def fragments (g : List (List Char) × List (List Char × List (List Char))) : List Fragment :=
  let lead := paragraph g.1
  (if lead.isEmpty then [] else [⟨none, String.ofList lead⟩]) ++
    g.2.map fun (tag, ls) => ⟨some (String.ofList tag), String.ofList (paragraph ls)⟩

/-- The fragments of a block's body. -/
def parseBody (s : List Char) : Comment := fragments (group ((lines s).map undecorate))

/-- The comment of a documentation block: its lines without their decoration (`undecorate`), gathered by
`group` and made `fragments`. There is none for any other text. -/
def parse? (s : String) : Option Comment :=
  if isBlock s.toList then some (parseBody (body s.toList)) else none

end TypeAtlas.Comment
