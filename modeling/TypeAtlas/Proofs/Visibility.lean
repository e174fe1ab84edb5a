import TypeAtlas.Proofs.Accounting
import TypeAtlas.Proofs.Agreement
import TypeAtlas.Proofs.CrossReference
import TypeAtlas.Proofs.Failure

/-! # What a page can depend on

Only the visible part of a module reaches the page that `document` makes: exported interfaces and
aliases, their properties, and of each comment the untagged text, the first example and the first
default.

* `Comment.visible`, `Statement.visible?`: what is left when all else is deleted.
* `linkingMessages`: the messages of the link stage among all messages.

The declaration of a statement is that of its visible part (`Statement.declared?_visible`), and
declarations are all that linking and rendering look at. Main statement:
`hidden_source_has_no_effect`. -/

namespace TypeAtlas

/-! ## Comments -/

namespace Comment

/-- The fragments that are shown, behind others with the tags `seen`: those without a tag, and the first
one under the tags for examples and defaults. -/
def visibleAfter (seen : List String) : Comment → Comment
  | [] => []
  | f :: c =>
    match f.tag with
    | none => f :: visibleAfter seen c
    | some tag =>
      if (tag = "example" ∨ tag = "default") ∧ tag ∉ seen then f :: visibleAfter (tag :: seen) c
      else visibleAfter (tag :: seen) c

/-- The fragments of a comment that are shown. -/
def visible (c : Comment) : Comment := visibleAfter [] c

/-- Nothing is deleted from the untagged text. -/
theorem untagged_visibleAfter (seen : List String) (c : Comment) :
    untagged (visibleAfter seen c) = untagged c := by
  induction c generalizing seen with
  | nil => rfl
  | cons f c ih =>
    rw [visibleAfter]
    split
    · rw [untagged, untagged, List.filterMap_cons, List.filterMap_cons, ← untagged, ← untagged, ih]
    · -- a tagged fragment is no part of the untagged text, deleted or not
      rename_i tag htag
      have hf : untagged (f :: c) = untagged c := by
        rw [untagged, List.filterMap_cons_none (by simp [htag]), ← untagged]
      have hf' : untagged (f :: visibleAfter (tag :: seen) c) =
          untagged (visibleAfter (tag :: seen) c) := by
        rw [untagged, List.filterMap_cons_none (by simp [htag]), ← untagged]
      split
      · rw [hf', hf, ih]
      · rw [hf, ih]

/-- The first fragment under a shown tag is not deleted, unless the tag occurred before. -/
theorem tagged_visibleAfter {tag : String} (hshown : tag = "example" ∨ tag = "default")
    {seen : List String} (hnew : tag ∉ seen) (c : Comment) :
    tagged tag (visibleAfter seen c) = tagged tag c := by
  -- an empty text under the tag counts as its first occurrence, so look for fragments, not texts
  suffices hfind : (visibleAfter seen c).find? (fun f => f.tag == some tag) =
      c.find? fun f => f.tag == some tag by
    rw [tagged, hfind, tagged]
  induction c generalizing seen with
  | nil => rfl
  | cons f c ih =>
    rw [visibleAfter]
    split
    · rename_i hnone
      rw [List.find?_cons_of_neg (by simp [hnone]), List.find?_cons_of_neg (by simp [hnone]),
        ih hnew]
    · rename_i other hother
      by_cases htag : other = tag
      · -- the first fragment under the tag is the one that is looked for, and it stays
        subst htag
        rw [if_pos ⟨hshown, hnew⟩, List.find?_cons_of_pos (by simp [hother]),
          List.find?_cons_of_pos (by simp [hother])]
      · have hnew' : tag ∉ other :: seen := by simp [hnew, Ne.symm htag]
        rw [List.find?_cons_of_neg (l := c) (by simp [hother, htag])]
        split
        · rw [List.find?_cons_of_neg (by simp [hother, htag]), ih hnew']
        · exact ih hnew'

/-- **A comment says what its visible part says.** -/
theorem docs_visible (c : Comment) : docs (visible c) = docs c := by
  rw [docs, docs, visible, untagged_visibleAfter, tagged_visibleAfter (.inl rfl) (by simp),
    tagged_visibleAfter (.inr rfl) (by simp)]

end Comment

/-- What is said does not change when the comment is cut down to what is shown. -/
theorem Docs.of_map_visible (c : Option Comment) : Docs.of (c.map Comment.visible) = Docs.of c := by
  cases c with
  | none => rfl
  | some c => exact c.docs_visible

/-! ## Statements -/

/-- The visible part of a property. -/
def PropertyMember.visible (p : PropertyMember) : PropertyMember :=
  { p with comment := p.comment.map Comment.visible }

/-- The visible part of a member, if it has one. -/
def Member.visible? : Member → Option Member
  | .property p => some (.property p.visible)
  | .other _ => none

/-- The visible part of a statement, if it has one. -/
def Statement.visible? : Statement → Option Statement
  | .interface name true members comment =>
    some (.interface name true (members.filterMap Member.visible?) (comment.map Comment.visible))
  | .typeAlias name true target comment =>
    some (.typeAlias name true target (comment.map Comment.visible))
  | .interface _ false _ _ => none
  | .typeAlias _ false _ _ => none
  | .importing _ => none
  | .other _ => none

/-- A property is documented as its visible part. -/
theorem Member.declared?_visible (m : Member) :
    m.visible?.bind Member.declared? = m.declared? := by
  cases m with
  | property p =>
    simp only [visible?, Option.bind_some, declared?, PropertyMember.declared,
      PropertyMember.visible, Docs.of_map_visible]
  | other u => rfl

/-- A statement is documented as its visible part. -/
theorem Statement.declared?_visible (s : Statement) :
    s.visible?.bind Statement.declared? = s.declared? := by
  cases s with
  | interface name exported members comment =>
    cases exported with
    | false => rfl
    | true =>
      have hmembers : (members.filterMap Member.visible?).filterMap Member.declared? =
          members.filterMap Member.declared? := by
        rw [List.filterMap_filterMap, funext Member.declared?_visible]
      simp only [visible?, Option.bind_some, declared?, Docs.of_map_visible, hmembers]
  | typeAlias name exported target comment =>
    cases exported with
    | false => rfl
    | true => simp only [visible?, Option.bind_some, declared?, Docs.of_map_visible]
  | importing text => rfl
  | other u => rfl

/-- Statements with the same visible part make the same declarations. -/
theorem declarations_eq_of_visible {xs ys : List Statement}
    (h : xs.filterMap Statement.visible? = ys.filterMap Statement.visible?) :
    xs.filterMap Statement.declared? = ys.filterMap Statement.declared? := by
  have hdeclared : ∀ ss : List Statement, ss.filterMap Statement.declared? =
      (ss.filterMap Statement.visible?).filterMap Statement.declared? := by
    intro ss
    rw [List.filterMap_filterMap, funext Statement.declared?_visible]
  rw [hdeclared, h, ← hdeclared]

/-! ## The messages of the link stage -/

/-- The messages of the link stage: repeated names and unresolved leaves. -/
def linkingMessages (messages : List String) : List String :=
  messages.filter fun m => linkingOpenings.any fun o => opens o m

/-- The messages of the link stage are told by their causes. -/
theorem linkingMessages_map (ds : List Diagnostic) :
    linkingMessages (ds.map Diagnostic.message) =
      (ds.filter fun d => d.opening ∈ linkingOpenings).map Diagnostic.message := by
  rw [linkingMessages, List.filter_map]
  congr 1
  apply List.filter_congr
  intro d _
  have hiff : (linkingOpenings.any fun o => opens o d.message) = true ↔
      d.opening ∈ linkingOpenings := by
    rw [List.any_eq_true]
    constructor
    · rintro ⟨o, ho, hopens⟩
      rw [(opens_message_iff (List.mem_append_right _ ho) d).1 hopens]
      exact ho
    · intro h
      exact ⟨_, h, (opens_message_iff d.opening_mem d).2 rfl⟩
  rw [Function.comp_apply, Bool.eq_iff_iff, hiff, decide_eq_true_eq]

/-- Every message of linking is one of the link stage. -/
theorem opening_mem_of_linkDeclarations (inline : List String) (ds : List (Declaration Shape)) :
    ∀ d ∈ (linkDeclarations inline ds).diagnostics, d.opening ∈ linkingOpenings := by
  intro d hd
  rw [diagnostics_linkDeclarations, List.mem_append] at hd
  rcases hd with hd | hd
  · obtain ⟨name, -, rfl⟩ := List.mem_map.1 hd
    exact List.mem_cons_self
  · obtain ⟨p, -, rfl⟩ := List.mem_map.1 hd
    exact List.mem_cons_of_mem _ List.mem_cons_self

/-- No message of extraction is one of the link stage. -/
theorem opening_notMem_of_extract {ss : List Statement} (h : ∀ s ∈ ss, s.WellFormed) :
    ∀ d ∈ (Declaration.extract ss).diagnostics, d.opening ∉ linkingOpenings := by
  intro d hd hlinking
  rw [Declaration.diagnostics_extract h] at hd
  obtain ⟨o, ho, hopens⟩ := (accounted_statements ss).openings _ (List.mem_map_of_mem hd)
  rw [opens_message_iff (List.mem_append_left _ ho)] at hopens
  have hdisjoint : ∀ o ∈ extractionOpenings, o ∉ linkingOpenings := by decide
  exact hdisjoint o ho (hopens ▸ hlinking)

/-- The messages of the link stage of a document are those of linking its declarations. -/
theorem linkingMessages_document {ss : List Statement} (h : ∀ s ∈ ss, s.WellFormed)
    (formatName : String) (inline : List String) :
    linkingMessages (document formatName inline ss).messages =
      (linkDeclarations inline (ss.filterMap Statement.declared?)).messages := by
  have hnone : ((Declaration.extract ss).diagnostics.filter fun d => d.opening ∈ linkingOpenings) =
      [] := by
    rw [List.filter_eq_nil_iff]
    intro d hd
    simpa using opening_notMem_of_extract h d hd
  have hall : ((linkDeclarations inline (ss.filterMap Statement.declared?)).diagnostics.filter
      fun d => d.opening ∈ linkingOpenings) =
        (linkDeclarations inline (ss.filterMap Statement.declared?)).diagnostics := by
    rw [List.filter_eq_self]
    intro d hd
    simpa using opening_mem_of_linkDeclarations inline _ d hd
  rw [Report.messages, diagnostics_document h, linkingMessages_map, List.filter_append, hnone, hall,
    List.nil_append, Report.messages]

/-! ## Names that are not exported -/

section Unexported

variable {ss : List Statement} {name : String} (hhidden : ∀ s ∈ ss, s.exportedName? ≠ some name)

include hhidden

/-- What no statement exports is not declared. -/
theorem notMem_names_of_unexported :
    name ∉ (ss.filterMap Statement.declared?).map Declaration.name := by
  intro hmem
  obtain ⟨d, hd, hname⟩ := List.mem_map.1 hmem
  obtain ⟨s, hs, hsd⟩ := List.mem_filterMap.1 hd
  apply hhidden s hs
  rw [← s.name_declared?, hsd, Option.map_some, hname]

/-- No link leads to what no statement exports. -/
theorem notMem_targets_of_unexported (inline : List String) :
    name ∉ (linkedDocs inline (ss.filterMap Statement.declared?)).targets := by
  intro htarget
  have hkey := mem_keys_of_mem_targets htarget
  rw [keys_linkedDocs, Declaration.keys_index, List.mem_eraseDups] at hkey
  exact notMem_names_of_unexported hhidden hkey

/-- A leaf that no statement exports is left unresolved, in a declaration that is not overwritten. -/
theorem mem_unresolvedLeaves_of_unexported {inline : List String} {d : Declaration Shape}
    (hd : Declaration.lastNamed? (ss.filterMap Statement.declared?) d.name = some d)
    {o : String × Shape} (ho : o ∈ d.ownedShapes) (hleaf : name ∈ o.2.leaves)
    (hinline : name ∉ inline) (hquoted : isQuotedLiteral name = false) :
    (o.1, name) ∈ unresolvedLeaves inline (ss.filterMap Statement.declared?) := by
  have hdeclared : d.name ∈ (ss.filterMap Statement.declared?).map Declaration.name :=
    List.mem_map_of_mem (Declaration.mem_of_lastNamed? hd)
  refine List.mem_flatMap.2 ⟨d.name, List.mem_eraseDups.2 hdeclared, ?_⟩
  rw [hd, Option.toList_some, List.flatMap_singleton]
  refine List.mem_flatMap.2 ⟨o, ho, List.mem_map_of_mem (List.mem_filter.2 ⟨hleaf, ?_⟩)⟩
  simpa using ⟨hinline, hquoted, by simpa using notMem_names_of_unexported hhidden⟩

end Unexported

/-! ## Pages -/

/-- **Hidden source has no effect.** Take well-formed statements that have the same visible part: they
differ in what is not exported, in imports and other statements, in members that are no properties,
and in fragments of comments that are not shown. Then their pages are the same in every format and for
all inline types, and so are the messages of the link stage. In particular a name that no statement
exports is never the target of a link, whatever hidden declarations there are, and a leaf of that name
is reported. -/
theorem hidden_source_has_no_effect {xs ys : List Statement} (hxs : ∀ s ∈ xs, s.WellFormed)
    (hys : ∀ s ∈ ys, s.WellFormed)
    (h : xs.filterMap Statement.visible? = ys.filterMap Statement.visible?)
    (formatName : String) (inline : List String) :
    (document formatName inline xs).outcome = (document formatName inline ys).outcome ∧
    (∀ format, Format.parse formatName = .ok format →
      ∃ page, (document formatName inline xs).outcome = .ok page) ∧
    linkingMessages (document formatName inline xs).messages =
      linkingMessages (document formatName inline ys).messages ∧
    ∀ name, (∀ s ∈ xs, s.exportedName? ≠ some name) →
      ∃ ds docs, (Declaration.extract xs).outcome = .ok ds ∧
        (linkDeclarations inline ds).outcome = .ok docs ∧ name ∉ LinkedDocs.targets docs ∧
        ∀ d, Declaration.lastNamed? ds d.name = some d → ∀ o ∈ d.ownedShapes, name ∈ o.2.leaves →
          name ∉ inline → isQuotedLiteral name = false →
          "Could not resolve type link for " ++ o.1 ++ ": " ++ name ∈
            linkingMessages (document formatName inline xs).messages := by
  have hdeclared := declarations_eq_of_visible h
  refine ⟨?_, ?_, ?_, ?_⟩
  · rw [outcome_document hxs, outcome_document hys, hdeclared]
  · intro format hformat
    exact ⟨_, (outcome_document hxs formatName inline).trans
      (congrArg Report.outcome (renderPage_of_ok hformat _))⟩
  · rw [linkingMessages_document hxs, linkingMessages_document hys, hdeclared]
  · intro name hhidden
    refine ⟨_, _, Declaration.outcome_extract hxs, outcome_linkDeclarations _ _,
      notMem_targets_of_unexported hhidden inline, ?_⟩
    intro d hd o ho hleaf hinline hquoted
    have hmessage : (Diagnostic.unresolved o.1 name).message =
        "Could not resolve type link for " ++ o.1 ++ ": " ++ name := rfl
    have hmem := mem_unresolvedLeaves_of_unexported hhidden hd ho hleaf hinline hquoted
    -- linking reports repeated names first, then every unresolved leaf
    rw [← hmessage, linkingMessages_document hxs, Report.messages, diagnostics_linkDeclarations]
    apply List.mem_map_of_mem
    exact List.mem_append_right _ (List.mem_map.2 ⟨_, hmem, rfl⟩)

/-- An interface and an alias among hidden declarations: an alias that would stand for an inline type, and
an interface with the name of the shown alias. The interface has a method, and a comment with an empty
default, another default behind it, and a fragment under another tag. -/
def amongHidden : List Statement :=
  [.typeAlias "Id" false (.named "string") none,
    .interface "A" true
      [.other ⟨"method_signature", "m(): B", some "m"⟩,
        .property ⟨"p", .union [.named "Id", .named "B"], false,
          some [⟨none, "One."⟩, ⟨some "since", "1"⟩, ⟨some "default", ""⟩, ⟨some "default", "2"⟩,
            ⟨none, "Two."⟩]⟩] none,
    .importing "import { Id } from 'x'",
    .typeAlias "B" true (.array (.named "A")) none,
    .interface "B" false [] none]

/-- The visible part of these statements. -/
def withoutHidden : List Statement :=
  [.interface "A" true
      [.property ⟨"p", .union [.named "Id", .named "B"], false,
        some [⟨none, "One."⟩, ⟨some "default", ""⟩, ⟨none, "Two."⟩]⟩] none,
    .typeAlias "B" true (.array (.named "A")) none]

/-- The page of these statements. -/
def pageWithoutHidden : String :=
  "\n## A\n<pre>\n\x7b\n  // One.\n  // Two.\n" ++
    "  <strong>p</strong>: Id | <a href=\"#B\">B</a>,\n\x7d\n</pre>\n\n## B\nType: [A](#A)[]\n"

/-- The page with the hidden statements is the page without them, and the hidden alias does not settle
the reference to it. -/
theorem hidden_source_has_no_effect_amongHidden :
    amongHidden.filterMap Statement.visible? = withoutHidden.filterMap Statement.visible? ∧
      (document "JSON" defaultInlineTypes amongHidden).outcome =
        (document "JSON" defaultInlineTypes withoutHidden).outcome ∧
      (document "JSON" defaultInlineTypes withoutHidden).outcome = .ok pageWithoutHidden ∧
      linkingMessages (document "JSON" defaultInlineTypes amongHidden).messages =
        linkingMessages (document "JSON" defaultInlineTypes withoutHidden).messages ∧
      (∀ s ∈ amongHidden, s.exportedName? ≠ some "Id") ∧
      "Could not resolve type link for A.p: Id" ∈
        linkingMessages (document "JSON" defaultInlineTypes amongHidden).messages := by
  have hxs : ∀ s ∈ amongHidden, s.WellFormed := by decide
  have hys : ∀ s ∈ withoutHidden, s.WellFormed := by decide
  have hvisible : amongHidden.filterMap Statement.visible? =
      withoutHidden.filterMap Statement.visible? := rfl
  have hunexported : ∀ s ∈ amongHidden, s.exportedName? ≠ some "Id" := by decide
  obtain ⟨hpage, -, hmessages, hhidden⟩ :=
    hidden_source_has_no_effect hxs hys hvisible "JSON" defaultInlineTypes
  obtain ⟨ds, docs, hds, -, -, hreported⟩ := hhidden "Id" hunexported
  obtain rfl : amongHidden.filterMap Statement.declared? = ds :=
    Except.ok.inj ((Declaration.outcome_extract hxs).symm.trans hds)
  let shape := TypeExpr.shape (.union [.named "Id", .named "B"])
  have hreport := hreported (.interface "A" [⟨"p", shape, false, some "One.\nTwo.", none, none⟩] none none)
    (by decide +kernel) ("A.p", shape) (by decide +kernel) (by decide +kernel) (by decide)
    (by decide +kernel)
  have htext : "Could not resolve type link for " ++ "A.p" ++ ": " ++ "Id" =
      "Could not resolve type link for A.p: Id" := by decide +kernel
  exact ⟨hvisible, hpage, by decide +kernel, hmessages, hunexported, htext ▸ hreport⟩

end TypeAtlas
