import TypeAtlas.Linked
import TypeAtlas.Report
import TypeAtlas.Shape

/-! # Resolving references (specification §4.4)

A `Resolver` knows a catalogue of declarations and a list of inline types. A leaf that is inline
(`Resolver.isInline`), by the list or as a quoted literal, stays text. A leaf that names an alias which
comes down to an inline leaf (`Resolver.inlineText?`) becomes that leaf. Any other leaf that names a
declaration becomes a link, and what is left stays text and is reported (`Resolver.linkLeaf`). Main
definitions:

* `Candidate`: what may be handed over for resolving.
* `Resolver.chase`, `Resolver.inlineText?`: the inline leaf that an alias comes down to.
* `Resolver.linkShape`: a shape with resolved leaves.
* `Resolver.collect`: candidates filed under their names, the last one of each name.
* `Resolver.resolve`: new declarations taken over and linked among each other. -/

namespace TypeAtlas

/-- A value handed over for resolving: a declaration, or a statement that is none. -/
inductive Candidate where
  /-- A declaration. -/
  | declaration (d : Declaration Shape)
  /-- A statement of an undocumented kind, which has a place for a name. -/
  | unsupported (u : Unsupported)
  /-- An import, which has no place for a name. -/
  | importing (text : String)
  deriving DecidableEq

/-- The key that a candidate is filed under, if it has a place for a name at all. -/
def Candidate.key? : Candidate → Option (Option String)
  | .declaration d => some (some d.name)
  | .unsupported u => some u.name
  | .importing _ => none

/-- How a message writes a key. -/
def Candidate.keyText (key : Option String) : String := key.getD "None"

/-- The one leaf of an alias that is nothing but this leaf. -/
def Candidate.aliasTarget? : Candidate → Option String
  | .declaration (.typeAlias _ shape _ _) =>
    match shape.leaves with
    | [leaf] => if shape.template = Shape.single then some leaf else none
    | _ => none
  | _ => none

/-- Why candidates cannot be linked. -/
inductive LinkFault where
  /-- A candidate has no place for a name. -/
  | unnamed
  /-- A candidate is no declaration. -/
  | unsupported (u : Unsupported)
  deriving DecidableEq, Repr

/-- The wording of a link fault. -/
def LinkFault.message : LinkFault → String
  | .unnamed => "'ImportStatement' object has no attribute 'name'"
  | .unsupported u =>
    "Unsupported declaration: OtherStatement(kind=" ++ Text.quoted u.kind ++ ", text=" ++
      Text.quoted u.text ++ ", name=" ++ (u.name.map Text.quoted).getD "None" ++ ")"

/-- The types that are inline unless told otherwise. -/
def defaultInlineTypes : List String := ["string", "number", "boolean", "any"]

/-- Whether a leaf is a literal in one of the three kinds of quotes. -/
def isQuotedLiteral (leaf : String) : Bool :=
  match leaf.toList with
  | q :: c :: r => (q = '\'' || q = '"' || q = '\x60') && (c :: r).getLast? == some q
  | _ => false

/-- Inline types, and the declarations that references are resolved against. -/
structure Resolver where
  /-- The types that stay text. -/
  inline : List String
  /-- The known declarations. -/
  known : Catalogue (Option String) Candidate

namespace Resolver

/-- Whether a leaf stays text whatever is declared. -/
def isInline (r : Resolver) (leaf : String) : Bool :=
  r.inline.contains leaf || isQuotedLiteral leaf

/-- The leaf that the declared alias `name` is nothing but. -/
def aliasTarget? (r : Resolver) (name : String) : Option String :=
  (Catalogue.find? (some name) r.known).bind Candidate.aliasTarget?

/-- Following an alias to a name that is not among `seen` comes closer to the end: one declaration
more is seen, or else the next name is a new one. -/
theorem countOutside_chase_lt {r : Resolver} {seen : List String} {name target : String}
    (ht : r.aliasTarget? name = some target) (hseen : target ∉ seen) :
    2 * Catalogue.countOutside ((name :: seen).map some) r.known +
        (if target ∈ name :: seen then 1 else 0) <
      2 * Catalogue.countOutside (seen.map some) r.known + (if name ∈ seen then 1 else 0) := by
  obtain ⟨c, hc, -⟩ := Option.bind_eq_some_iff.1 ht
  rw [List.map_cons]
  by_cases hn : name ∈ seen
  · -- `name` was seen before, so `target` is another name and the next step is a new one
    have hne : target ≠ name := fun e => hseen (e ▸ hn)
    have hle := Catalogue.countOutside_le (some name) (seen.map some) r.known
    simp only [List.mem_cons, hne, hseen, hn, or_self, if_true, if_false]
    omega
  · have hout : some name ∉ seen.map some := by simpa using hn
    have hlt := Catalogue.countOutside_lt hc hout
    rw [if_neg hn]
    split <;> omega

/-- The inline leaf that the alias `name` comes down to. The aliases on the way are kept in `seen`,
and a leaf that is among them ends the search; `name` itself is not kept before its leaf is looked
at. -/
def chase (r : Resolver) (seen : List String) (name : String) : Option String :=
  match _h : r.aliasTarget? name with
  | none => none
  | some target =>
    if r.isInline target then some target
    else if _hs : target ∈ seen then none
    else chase r (name :: seen) target
termination_by
  2 * Catalogue.countOutside (seen.map some) r.known + (if name ∈ seen then 1 else 0)
decreasing_by exact countOutside_chase_lt _h _hs

/-- The inline leaf that the alias `name` comes down to. -/
def inlineText? (r : Resolver) (name : String) : Option String := r.chase [] name

variable {ε : Type}

/-- What a leaf of the type of `owner` becomes: text if it `isInline`, its `inlineText?` if it has one, a
link if it is known, and else text with a warning. -/
def linkLeaf (r : Resolver) (owner leaf : String) : Report ε Segment :=
  if r.isInline leaf then pure (.text leaf)
  else
    match r.inlineText? leaf with
    | some text => pure (.text text)
    | none =>
      if Catalogue.has (some leaf) r.known then pure (.link leaf)
      else do
        Report.warn (.unresolved owner leaf)
        pure (.text leaf)

/-- What leaves, each with the text after it, become. -/
def linkLeaves (r : Resolver) (owner : String) : List (String × String) → Report ε (List Segment)
  | [] => pure []
  | (leaf, after) :: rest => do
    let s ← r.linkLeaf owner leaf
    let ss ← r.linkLeaves owner rest
    pure (s :: .text after :: ss)

/-- A shape with resolved leaves (`linkLeaves`) between the texts of `Template.cut`, put together by
`LinkedShape.join`; `owner` is named in messages. -/
def linkShape (r : Resolver) (owner : String) (shape : Shape) : Report ε LinkedShape := do
  let cut := Template.cut shape.template.toList
  let ss ← r.linkLeaves owner (shape.leaves.zip (cut.2.map String.ofList))
  pure (LinkedShape.join (.text (String.ofList cut.1) :: ss))

/-- A property of `owner` with resolved leaves. -/
def linkProperty (r : Resolver) (owner : String) (p : Property Shape) :
    Report ε (Property LinkedShape) := do
  let shape ← r.linkShape (owner ++ "." ++ p.name) p.shape
  pure ⟨p.name, shape, p.optional, p.description, p.defaultText, p.exampleText⟩

/-- Properties of `owner` with resolved leaves. -/
def linkProperties (r : Resolver) (owner : String) :
    List (Property Shape) → Report ε (List (Property LinkedShape))
  | [] => pure []
  | p :: ps => do
    let q ← r.linkProperty owner p
    let qs ← r.linkProperties owner ps
    pure (q :: qs)

/-- A declaration with resolved leaves. -/
def linkDeclaration (r : Resolver) : Declaration Shape → Report ε (Declaration LinkedShape)
  | .interface name properties description exampleText => do
    let ps ← r.linkProperties name properties
    pure (.interface name ps description exampleText)
  | .typeAlias name shape description exampleText => do
    let s ← r.linkShape name shape
    pure (.typeAlias name s description exampleText)

/-- The entries of a catalogue with resolved leaves, up to the first that is no declaration. -/
def linkEntries (r : Resolver) :
    Catalogue (Option String) Candidate → Report LinkFault LinkedDocs
  | [] => pure []
  | (key, .declaration d) :: rest => do
    let l ← r.linkDeclaration d
    let ls ← r.linkEntries rest
    pure ((key.getD d.name, l) :: ls)
  | (_, .unsupported u) :: _ => .fail (.unsupported u)
  | (_, .importing _) :: _ => .fail .unnamed

/-- Candidates filed under their names after those in `known`; repeated names are reported. -/
def collect (known : Catalogue (Option String) Candidate) :
    List Candidate → Report LinkFault (Catalogue (Option String) Candidate)
  | [] => pure known
  | c :: cs =>
    match c.key? with
    | none => .fail .unnamed
    | some key => do
      if Catalogue.has key known then Report.warn (.duplicate (Candidate.keyText key))
      collect (Catalogue.insert key c known) cs

/-- Candidates taken over as the known declarations (`collect`) and linked (`linkEntries`). The resolver
keeps what it knew when a candidate has no place for a name. -/
def resolve (r : Resolver) (cs : List Candidate) : Resolver × Report LinkFault LinkedDocs :=
  let collected := collect [] cs
  match collected.outcome with
  | .error e => (r, ⟨collected.events, .error e⟩)
  | .ok known =>
    let r' : Resolver := { r with known := known }
    (r', collected.andThen fun _ => do
      Report.note .linking
        ("Resolving links across " ++ toString known.length ++ " declarations")
      r'.linkEntries known)

/-- Candidates linked among each other, by a new resolver (`resolve`). -/
def link (inline : List String) (cs : List Candidate) : Report LinkFault LinkedDocs :=
  (resolve ⟨inline, []⟩ cs).2

end Resolver

end TypeAtlas
