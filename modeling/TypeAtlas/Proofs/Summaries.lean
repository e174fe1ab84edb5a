import TypeAtlas.Proofs.Attachment
import TypeAtlas.Proofs.Flattening
import TypeAtlas.Proofs.LineSpacing

/-! # Summaries are single lines

`SyntaxTree.summary` is the first line of a text without its outer blanks. Blanks and line breaks are
two sets of characters, and the first line could be empty if some line break were not a blank: it would
be left at the front. Every line break is a blank (`Text.isBlank_of_isLineBreak`), so this does not
happen.

* `Text.IsLine`: a text that is one line.
* `Text.StripsTo`: what is left of a text without its outer blanks.
* `SyntaxTree.SummarizedBy`: a text is the summary of a node.
* `Statement.summaries`: the summaries that a statement holds.

Main statement: `SyntaxTree.summaries_are_single_lines`. -/

namespace TypeAtlas

/-! ## Lines -/

namespace Text

/-- Every line break is a blank. -/
theorem isBlank_of_isLineBreak {c : Char} (h : isLineBreak c = true) : isBlank c = true := by
  simp only [isLineBreak, isBlank, Bool.or_eq_true, Bool.and_eq_true, decide_eq_true_eq,
    beq_iff_eq] at h ⊢
  omega

/-- A text is one line: it is not empty, and no line break is in it. -/
structure IsLine (l : List Char) : Prop where
  /-- There is something on the line. -/
  ne_nil : l ≠ []
  /-- The line is not broken. -/
  unbroken : ∀ c ∈ l, isLineBreak c = false

/-- Whether a text is one line can be computed. -/
instance (l : List Char) : Decidable (IsLine l) :=
  decidable_of_iff (l ≠ [] ∧ (l.all fun c => !isLineBreak c) = true)
    ⟨fun h => ⟨h.1, by simpa using h.2⟩, fun h => ⟨h.ne_nil, by simpa using h.unbroken⟩⟩

/-- A line is not broken any further. -/
theorem IsLine.breakLines_eq {l : List Char} (h : IsLine l) : breakLines l = [l] := by
  obtain ⟨hne, hunbroken⟩ := h
  fun_induction breakLines l with
  | case1 => exact absurd rfl hne
  | case2 r ih => exact absurd (hunbroken '\r' List.mem_cons_self) (by decide)
  | case3 c r hcr hbreak ih =>
    rw [hunbroken c List.mem_cons_self] at hbreak
    cases hbreak
  | case4 c r hcr hbreak hnone ih =>
    cases r with
    | nil => rfl
    | cons d r =>
      rw [ih (List.cons_ne_nil d r) (List.forall_mem_cons.1 hunbroken).2] at hnone
      cases hnone
  | case5 c r hcr hbreak l ls hsome ih =>
    have hr : r ≠ [] := by
      rintro rfl
      cases hsome
    rw [ih hr (List.forall_mem_cons.1 hunbroken).2] at hsome
    cases hsome
    rfl

/-! ## Stripping -/

/-- What is left of a text without its outer blanks. -/
structure StripsTo (s kept : List Char) : Prop where
  /-- Nothing but blanks stands around what is kept. -/
  outer : ∃ u v, s = u ++ (kept ++ v) ∧ allBlank u = true ∧ allBlank v = true
  /-- The first character that is kept is not blank. -/
  first : ∀ c, kept.head? = some c → isBlank c = false
  /-- The last character that is kept is not blank. -/
  last : ∀ c, kept.getLast? = some c → isBlank c = false

/-- What is trimmed at the end is blank. -/
theorem exists_eq_trimEnd_append (s : List Char) :
    ∃ v, s = trimEnd s ++ v ∧ allBlank v = true := by
  fun_induction trimEnd s with
  | case1 => exact ⟨[], rfl, rfl⟩
  | case2 c r hr hc ih =>
    -- the blank goes with all that stands behind it
    obtain ⟨v, hv, hblank⟩ := ih
    rw [hr, List.nil_append] at hv
    subst hv
    exact ⟨c :: r, rfl, by rw [allBlank, List.all_cons, hc]; exact hblank⟩
  | case3 c r hr hc ih =>
    obtain ⟨v, hv, hblank⟩ := ih
    rw [hr, List.nil_append] at hv
    exact ⟨v, congrArg (c :: ·) hv, hblank⟩
  | case4 c r hr ih =>
    obtain ⟨v, hv, hblank⟩ := ih
    exact ⟨v, congrArg (c :: ·) hv, hblank⟩

/-- **The trimmed text is what is left** of a text without its outer blanks. -/
theorem stripsTo_iff {s kept : List Char} : StripsTo s kept ↔ trim s = kept := by
  constructor
  · rintro ⟨⟨u, v, rfl, hu, hv⟩, hfirst, hlast⟩
    rw [trim_append_blank hu hv, trim, trimStart, Comment.dropWhile_of_head? hfirst,
      trimEnd_eq_self hlast]
  · rintro rfl
    obtain ⟨v, hv, hblank⟩ := exists_eq_trimEnd_append (trimStart s)
    refine ⟨⟨s.takeWhile isBlank, v, ?_, ?_, hblank⟩, ?_, fun c hc => isBlank_of_getLast?_trimEnd hc⟩
    · rw [trim, ← hv, trimStart, List.takeWhile_append_dropWhile]
    · exact List.all_eq_true.2 fun c hc => List.mem_takeWhile_imp hc
    · intro c hc
      -- what is left begins like the text without its leading blanks
      obtain ⟨r, hr⟩ := List.head?_eq_some_iff.1 hc
      rw [← trim, hr] at hv
      exact Comment.eq_false_of_head?_dropWhile (congrArg List.head? hv)

namespace StripsTo

variable {s kept : List Char} (h : StripsTo s kept)

include h

/-- Nothing is left exactly when all was blank. -/
theorem eq_nil_iff : kept = [] ↔ allBlank s = true := by
  obtain ⟨u, v, rfl, hu, hv⟩ := h.outer
  have hall : allBlank (u ++ (kept ++ v)) = allBlank kept := by
    simp only [allBlank, List.all_append] at hu hv ⊢
    rw [hu, hv, Bool.true_and, Bool.and_true]
  rw [hall]
  constructor
  · rintro rfl
    rfl
  · intro hkept
    cases kept with
    | nil => rfl
    | cons c r =>
      -- the first character that is kept is not blank
      rw [allBlank, List.all_cons, h.first c rfl] at hkept
      cases hkept

/-- The first line of what is left is not empty. -/
theorem isLine_firstLine (hne : kept ≠ []) : IsLine (firstLine kept) := by
  refine ⟨?_, fun c hc => by simpa using List.mem_takeWhile_imp hc⟩
  obtain ⟨c, r, rfl⟩ := List.exists_cons_of_ne_nil hne
  -- a line break at the front would be a blank
  have hbreak : isLineBreak c = false := by
    rw [← Bool.not_eq_true]
    intro hbreak
    have hblank := isBlank_of_isLineBreak hbreak
    rw [h.first c rfl] at hblank
    cases hblank
  simp [firstLine, hbreak]

end StripsTo

/-- Behind the first line of a text there is nothing, or a line break. -/
theorem exists_eq_firstLine_append (s : List Char) :
    ∃ rest, s = firstLine s ++ rest ∧ ∀ c, rest.head? = some c → isLineBreak c = true := by
  refine ⟨s.dropWhile fun c => !isLineBreak c, List.takeWhile_append_dropWhile.symm, ?_⟩
  intro c hc
  simpa using Comment.eq_false_of_head?_dropWhile hc

end Text

/-! ## Summaries of nodes -/

namespace SyntaxTree

open Text

/-- A text is the summary of a node: a single line, which the text of the node begins with when outer
blanks are left aside, or else the kind of the node. -/
structure SummarizedBy (bytes : SourceBytes) (t : SyntaxTree) (line : String) : Prop where
  /-- The summary is this text. -/
  summary_eq : t.summary bytes = line
  /-- Looking it up among the lines does not fail. -/
  found : t.guardedSummary bytes = .ok line
  /-- It is not empty, and no line break is in it. -/
  isLine : IsLine line.toList
  /-- So it is a line by itself. -/
  breakLines_eq : breakLines line.toList = [line.toList]
  /-- Of a text that is not blank it is what stands before the first line break, outer blanks aside. -/
  of_text : allBlank (t.text bytes).toList = false →
    ∃ rest, StripsTo (t.text bytes).toList (line.toList ++ rest) ∧
      ∀ c, rest.head? = some c → isLineBreak c = true
  /-- Of a blank text it is the kind of the node. -/
  of_blank : allBlank (t.text bytes).toList = true → line = t.kind

/-- The summary of a node, by whether its text is blank. -/
theorem summary_eq (bytes : SourceBytes) (t : SyntaxTree) :
    t.summary bytes = if allBlank (t.text bytes).toList = true then t.kind
      else String.ofList (firstLine (trim (t.text bytes).toList)) := by
  have hstrips : StripsTo (t.text bytes).toList (trim (t.text bytes).toList) := stripsTo_iff.2 rfl
  rw [summary]
  cases htrim : trim (t.text bytes).toList with
  | nil => rw [if_pos (hstrips.eq_nil_iff.1 htrim)]
  | cons c r =>
    have hblank : ¬ allBlank (t.text bytes).toList = true := by
      rw [← hstrips.eq_nil_iff, htrim]
      exact List.cons_ne_nil c r
    rw [if_neg hblank]

/-- **A node of any kind that is a line is summarized by a line.** -/
theorem summarizedBy_summary (bytes : SourceBytes) {t : SyntaxTree} (hkind : IsLine t.kind.toList) :
    t.SummarizedBy bytes (t.summary bytes) := by
  have hstrips : StripsTo (t.text bytes).toList (trim (t.text bytes).toList) := stripsTo_iff.2 rfl
  have hsummary := summary_eq bytes t
  have hisLine : IsLine (t.summary bytes).toList := by
    rw [hsummary]
    split
    · exact hkind
    · rename_i hblank
      rw [String.toList_ofList]
      exact hstrips.isLine_firstLine fun hnil => hblank (hstrips.eq_nil_iff.1 hnil)
  refine ⟨rfl, guardedSummary_eq bytes t, hisLine, hisLine.breakLines_eq, ?_, ?_⟩
  · intro hblank
    obtain ⟨rest, hrest, hbreak⟩ := exists_eq_firstLine_append (trim (t.text bytes).toList)
    rw [hsummary, if_neg (by simp [hblank]), String.toList_ofList]
    exact ⟨rest, hrest ▸ hstrips, hbreak⟩
  · intro hblank
    rw [hsummary, if_pos hblank]

/-! ## Summaries of statements -/

/-- Only nodes that are given are attached to. -/
theorem mem_of_mem_attach {bytes : SourceBytes} {pending c : Option Comment} {t : SyntaxTree}
    {ts : List SyntaxTree} (h : (t, c) ∈ attach bytes pending ts) : t ∈ ts := by
  induction ts generalizing pending with
  | nil => cases h
  | cons u ts ih =>
    rw [attach_cons, List.mem_append] at h
    rcases h with h | h
    · split at h
      · obtain ⟨rfl, -⟩ := Prod.mk.inj (List.mem_singleton.1 h)
        exact List.mem_cons_self
      · cases h
    · exact List.mem_cons_of_mem u (ih h)

/-- What a path leads to is a node of the tree. -/
theorem mem_nodes_of_at? {t u : SyntaxTree} {path : List Nat} (h : t.at? path = some u) :
    u ∈ t.nodes := by
  induction path generalizing t with
  | nil =>
    cases h
    exact self_mem_nodes u
  | cons i path ih =>
    obtain ⟨c, hc, hpath⟩ := Option.bind_eq_some_iff.1 h
    exact mem_nodes_of_child (List.mem_of_getElem? hc) (ih hpath)

end SyntaxTree

/-- The summary that a member holds. -/
def Member.summary? : Member → Option String
  | .property _ => none
  | .other u => some u.text

/-- The summaries that a statement holds, its own or those of its members. -/
def Statement.summaries : Statement → List String
  | .interface _ _ members _ => members.filterMap Member.summary?
  | .typeAlias .. => []
  | .importing text => [text]
  | .other u => [u.text]

namespace SyntaxTree

open Text

/-- The summary that a member holds is that of its node. -/
theorem summary?_member {bytes : SourceBytes} {t : SyntaxTree} {comment : Option Comment} {x : String}
    (h : (member bytes t comment).summary? = some x) : x = t.summary bytes := by
  rw [member] at h
  split at h
  · cases h
  · exact (Option.some.inj h).symm

/-- The children of the body of an interface are nodes of its statement. -/
theorem mem_nodes_of_bodyChildren {t u : SyntaxTree} (h : u ∈ bodyChildren t) : u ∈ t.nodes := by
  obtain ⟨m, hm⟩ := List.getElem?_of_mem h
  obtain ⟨body, path, hbody, hpath, hchildren⟩ := exists_body hm
  have hat : t.at? path = some body := by
    rw [← hbody, ← at?_bodyPath?, hpath, Option.bind_some]
  apply mem_nodes_of_at?
  rw [at?_append, hat, Option.bind_some, at?_singleton, ← hchildren, hm]

/-- The summaries that a statement holds are those of nodes inside of it. -/
theorem exists_node_of_mem_summaries {bytes : SourceBytes} {t : SyntaxTree} {comment : Option Comment}
    {x : String} (h : x ∈ (statement bytes t comment).summaries) :
    ∃ u ∈ t.nodes, x = u.summary bytes := by
  rw [statement] at h
  dsimp only at h
  split at h
  · -- an interface holds those of its members
    obtain ⟨m, hm, hx⟩ := List.mem_filterMap.1 h
    obtain ⟨⟨u, c⟩, hu, rfl⟩ := List.mem_map.1 hm
    exact ⟨u, mem_nodes_of_bodyChildren (mem_of_mem_attach hu), summary?_member hx⟩
  split at h
  · cases h
  split at h
  · exact ⟨t, t.self_mem_nodes, List.mem_singleton.1 h⟩
  · exact ⟨t, t.self_mem_nodes, List.mem_singleton.1 h⟩

/-- **Summaries are single lines.** A node whose kind is a line is summarized by a line: by the first line of
its text without outer blanks, or by its kind if the text is blank. Where all kinds of a tree are lines,
each summary that a statement of the tree holds is such a summary of a node. -/
theorem summaries_are_single_lines (bytes : SourceBytes) :
    (∀ t : SyntaxTree, IsLine t.kind.toList → ∃ line, t.SummarizedBy bytes line) ∧
      ∀ root : SyntaxTree, (∀ u ∈ root.nodes, IsLine u.kind.toList) →
        ∀ s ∈ statements bytes root, ∀ x ∈ s.summaries,
          ∃ u ∈ root.nodes, u.SummarizedBy bytes x := by
  constructor
  · intro t hkind
    exact ⟨t.summary bytes, summarizedBy_summary bytes hkind⟩
  · intro root hkinds s hs x hx
    obtain ⟨⟨t, comment⟩, ht, rfl⟩ := List.mem_map.1 hs
    obtain ⟨u, hu, rfl⟩ := exists_node_of_mem_summaries hx
    have hroot : u ∈ root.nodes := mem_nodes_of_child (mem_of_mem_attach ht) hu
    exact ⟨u, hroot, summarizedBy_summary bytes (hkinds u hroot)⟩

/-- An import over two lines, with line breaks and other blanks before and behind it. -/
def brokenSource : SourceBytes :=
  Text.Utf8.encode "\u2028\x1cimport a\u0085from b\x1f  \x0c;".toList

/-- A node for the import, and one with nothing but the blanks behind it. -/
def brokenTree : SyntaxTree :=
  .node "program" 0 25 true none
    [.node "import_statement" 0 24 true none [], .node "empty_statement" 20 24 true none []]

/-- The line breaks before the import are no line of it, and the blanks are told by their kind. -/
theorem summaries_are_single_lines_brokenTree :
    (∀ u ∈ brokenTree.nodes, IsLine u.kind.toList) ∧
      (statements brokenSource brokenTree).flatMap Statement.summaries =
        ["import a", "empty_statement"] ∧
      (∀ x ∈ ["import a", "empty_statement"],
        ∃ u ∈ brokenTree.nodes, u.SummarizedBy brokenSource x) ∧
      ∀ t ∈ brokenTree.children, ∃ line, t.SummarizedBy brokenSource line := by
  have hkinds : ∀ u ∈ brokenTree.nodes, IsLine u.kind.toList := by decide
  have hsummaries : (statements brokenSource brokenTree).flatMap Statement.summaries =
      ["import a", "empty_statement"] := by decide +kernel
  obtain ⟨hnodes, hstatements⟩ := summaries_are_single_lines brokenSource
  refine ⟨hkinds, hsummaries, ?_, ?_⟩
  · intro x hx
    rw [← hsummaries] at hx
    obtain ⟨s, hs, hx⟩ := List.mem_flatMap.1 hx
    exact hstatements brokenTree hkinds s hs x hx
  · intro t ht
    exact hnodes t (hkinds t (mem_nodes_of_child ht t.self_mem_nodes))

end SyntaxTree

end TypeAtlas
