import TypeAtlas.SyntaxTree.Statements

/-! # Which comment belongs to what

The walk over the children of a node (`SyntaxTree.attach`) carries one comment along. Here the outcome
of that walk is said by places among the children, without anything that is carried.

* `SyntaxTree.IsLastBlock`: a child is the last documentation block before a place, with no item
  between.
* `SyntaxTree.Pending`: the comment that is due at a place.
* `SyntaxTree.AttachesExactly`: what is read from the children of a node, one result for each item.
* `SyntaxTree.AttachedTo`: a block, by its path from the root, and the statement or member that has it.

What one child does to the comment is `SyntaxTree.nextPending`; `pending_succ` says that it keeps the
comment that is carried the one that is due, and `attach_of_pending` follows by induction over the
children. Main statement: `SyntaxTree.comment_attachment_exact`. -/

namespace TypeAtlas

/-- The comment of a statement of a kind that has one. -/
def Statement.comment? : Statement → Option (Option Comment)
  | .interface _ _ _ comment => some comment
  | .typeAlias _ _ _ comment => some comment
  | .importing _ => none
  | .other _ => none

/-- The comment of a member of a kind that has one. -/
def Member.comment? : Member → Option (Option Comment)
  | .property p => some p.comment
  | .other _ => none

namespace SyntaxTree

variable {bytes : SourceBytes} {cs : List SyntaxTree}

/-- Whether a node is read as a statement or a member. -/
def isItem (t : SyntaxTree) : Bool := t.named && !t.isComment

/-- Whether a node is a documentation block. -/
def isBlock (bytes : SourceBytes) (t : SyntaxTree) : Bool :=
  t.isComment && Comment.isBlock (t.text bytes).toList

/-! ## Places -/

/-- The child at `j` is the last documentation block before the place `p`, and no item stands between. -/
structure IsLastBlock (bytes : SourceBytes) (cs : List SyntaxTree) (j p : Nat) : Prop where
  /-- It comes before the place. -/
  before : j < p
  /-- It is a block. -/
  block : ∃ b, cs[j]? = some b ∧ b.isBlock bytes = true
  /-- Only other comments and punctuation stand between. -/
  between : ∀ k t, j < k → k < p → cs[k]? = some t → t.isItem = false ∧ t.isBlock bytes = false

/-- The comment that is due at the place `p`: that of the last block, if there is one. -/
inductive Pending (bytes : SourceBytes) (cs : List SyntaxTree) (p : Nat) : Option Comment → Prop
  /-- The comment of the last block before the place. -/
  | block {j : Nat} {b : SyntaxTree} {c : Comment} (hj : IsLastBlock bytes cs j p)
      (hb : cs[j]? = some b) (hc : Comment.parse? (b.text bytes) = some c) : Pending bytes cs p (some c)
  /-- There is no such block. -/
  | nothing (h : ∀ j, ¬ IsLastBlock bytes cs j p) : Pending bytes cs p none

/-- The last block before a place, by the child right before the place. -/
theorem isLastBlock_succ {j p : Nat} {t : SyntaxTree} (ht : cs[p]? = some t) :
    IsLastBlock bytes cs j (p + 1) ↔
      (j = p ∧ t.isBlock bytes = true) ∨
        (t.isItem = false ∧ t.isBlock bytes = false ∧ IsLastBlock bytes cs j p) := by
  constructor
  · rintro ⟨hbefore, hblock, hbetween⟩
    rcases Nat.lt_succ_iff_lt_or_eq.1 hbefore with hlt | rfl
    · have hlast := hbetween p t hlt (Nat.lt_succ_self p) ht
      refine Or.inr ⟨hlast.1, hlast.2, hlt, hblock, ?_⟩
      intro k u hjk hkp hu
      exact hbetween k u hjk (Nat.lt_succ_of_lt hkp) hu
    · obtain ⟨b, hb, hisBlock⟩ := hblock
      obtain rfl := Option.some.inj (ht.symm.trans hb)
      exact Or.inl ⟨rfl, hisBlock⟩
  · rintro (⟨rfl, hisBlock⟩ | ⟨hitem, hisBlock, hbefore, hblock, hbetween⟩)
    · refine ⟨Nat.lt_succ_self j, ⟨t, ht, hisBlock⟩, ?_⟩
      intro k u hjk hkj
      omega
    · refine ⟨Nat.lt_succ_of_lt hbefore, hblock, ?_⟩
      intro k u hjk hkp hu
      rcases Nat.lt_succ_iff_lt_or_eq.1 hkp with hlt | rfl
      · exact hbetween k u hjk hlt hu
      · obtain rfl := Option.some.inj (ht.symm.trans hu)
        exact ⟨hitem, hisBlock⟩

/-- Before the first child nothing is due. -/
theorem pending_zero : Pending bytes cs 0 none :=
  .nothing fun _ h => Nat.not_lt_zero _ h.before

/-- A block is the last one before one item at most. -/
theorem IsLastBlock.item_unique {j p p' : Nat} {t t' : SyntaxTree}
    (h : IsLastBlock bytes cs j p) (ht : cs[p]? = some t) (hitem : t.isItem = true)
    (h' : IsLastBlock bytes cs j p') (ht' : cs[p']? = some t') (hitem' : t'.isItem = true) :
    p = p' := by
  -- the nearer of two items would stand between the block and the other one
  rcases Nat.lt_trichotomy p p' with hlt | heq | hlt
  · have hno := (h'.between p t h.before hlt ht).1
    rw [hitem] at hno
    cases hno
  · exact heq
  · have hno := (h.between p' t' h'.before hlt ht').1
    rw [hitem'] at hno
    cases hno

/-! ## The walk -/

/-- The comment that is carried on behind a child. -/
def nextPending (bytes : SourceBytes) (pending : Option Comment) (t : SyntaxTree) :
    Option Comment :=
  if t.isBlock bytes then Comment.parse? (t.text bytes)
  else if t.isItem then none
  else pending

/-- One step of the walk: an item takes the comment that is carried. -/
theorem attach_cons (pending : Option Comment) (t : SyntaxTree) (ts : List SyntaxTree) :
    attach bytes pending (t :: ts) =
      (if t.isItem then [(t, pending)] else []) ++ attach bytes (nextPending bytes pending t) ts := by
  rw [attach, nextPending, isBlock, isItem]
  cases hcomment : t.isComment with
  | true =>
    -- a comment that is no block leaves the one that is carried
    cases hblock : Comment.isBlock (t.text bytes).toList with
    | true => simp [Comment.parse?, hblock]
    | false => simp [Comment.parse?, hblock]
  | false => cases hnamed : t.named <;> simp

/-- Each step keeps the comment that is carried the one that is due. -/
theorem pending_succ {p : Nat} {t : SyntaxTree} {pending : Option Comment}
    (h : Pending bytes cs p pending) (ht : cs[p]? = some t) :
    Pending bytes cs (p + 1) (nextPending bytes pending t) := by
  rw [nextPending]
  by_cases hblock : t.isBlock bytes = true
  · have hparse : Comment.parse? (t.text bytes) =
        some (Comment.parseBody (Comment.body (t.text bytes).toList)) := by
      rw [isBlock, Bool.and_eq_true] at hblock
      rw [Comment.parse?, if_pos hblock.2]
    rw [if_pos hblock, hparse]
    exact .block ((isLastBlock_succ ht).2 (Or.inl ⟨rfl, hblock⟩)) ht hparse
  rw [if_neg hblock]
  by_cases hitem : t.isItem = true
  · rw [if_pos hitem]
    refine .nothing fun j hj => ?_
    rcases (isLastBlock_succ ht).1 hj with ⟨-, hb⟩ | ⟨hno, -, -⟩
    · exact hblock hb
    · rw [hitem] at hno
      cases hno
  · rw [if_neg hitem]
    -- neither a block nor an item: the last block before stays the last one
    rw [Bool.not_eq_true] at hblock hitem
    cases h with
    | block hj hb hc => exact .block ((isLastBlock_succ ht).2 (Or.inr ⟨hitem, hblock, hj⟩)) hb hc
    | nothing hnone =>
      refine .nothing fun j hj => ?_
      rcases (isLastBlock_succ ht).1 hj with ⟨-, hb⟩ | ⟨-, -, hj'⟩
      · rw [hblock] at hb
        cases hb
      · exact hnone j hj'

/-- The number of items before a place. -/
def rank (cs : List SyntaxTree) (p : Nat) : Nat := (cs.take p).countP isItem

/-- An item at the front stands before every later place. -/
theorem rank_cons (t : SyntaxTree) (ts : List SyntaxTree) (p : Nat) :
    rank (t :: ts) (p + 1) = rank ts p + if t.isItem then 1 else 0 := by
  rw [rank, List.take_succ_cons, List.countP_cons, rank]

/-- Every number below that of the items is the rank of an item. -/
theorem exists_item_of_lt {i : Nat} (h : i < cs.countP isItem) :
    ∃ p t, cs[p]? = some t ∧ t.isItem = true ∧ rank cs p = i := by
  induction cs generalizing i with
  | nil => exact absurd h (Nat.not_lt_zero i)
  | cons t ts ih =>
    rw [List.countP_cons] at h
    cases hitem : t.isItem with
    | false =>
      rw [hitem, if_neg Bool.false_ne_true, Nat.add_zero] at h
      obtain ⟨p, u, hu, huitem, hrank⟩ := ih h
      refine ⟨p + 1, u, hu, huitem, ?_⟩
      rw [rank_cons, hitem, hrank]
      rfl
    | true =>
      rw [hitem, if_pos rfl] at h
      cases i with
      | zero => exact ⟨0, t, rfl, hitem, rfl⟩
      | succ i =>
        obtain ⟨p, u, hu, huitem, hrank⟩ := ih (Nat.lt_of_succ_lt_succ h)
        refine ⟨p + 1, u, hu, huitem, ?_⟩
        rw [rank_cons, hitem, hrank]
        rfl

/-- The walk gives one result for each item. -/
theorem length_attach (pending : Option Comment) (ts : List SyntaxTree) :
    (attach bytes pending ts).length = ts.countP isItem := by
  induction ts generalizing pending with
  | nil => rfl
  | cons t ts ih =>
    rw [attach_cons, List.length_append, ih, List.countP_cons]
    split <;> simp [Nat.add_comm]

/-- **The walk over the children behind `before`**, when it starts with the comment that is due there:
every item is given with the comment that is due at its place. -/
theorem attach_of_pending (before ts : List SyntaxTree) {pending : Option Comment}
    (h : Pending bytes (before ++ ts) before.length pending) {q : Nat} {t : SyntaxTree}
    (ht : ts[q]? = some t) (hitem : t.isItem = true) :
    ∃ c, Pending bytes (before ++ ts) (before.length + q) c ∧
      (attach bytes pending ts)[rank ts q]? = some (t, c) := by
  -- the child that was walked over moves to `before`
  induction ts generalizing before pending q with
  | nil => cases ht
  | cons u ts ih =>
    rw [attach_cons]
    cases q with
    | zero =>
      obtain rfl : u = t := Option.some.inj ht
      refine ⟨pending, h, ?_⟩
      rw [hitem]
      rfl
    | succ q =>
      have hu : (before ++ u :: ts)[before.length]? = some u := by simp
      have hnext := pending_succ h hu
      rw [List.append_cons] at hnext ⊢
      obtain ⟨c, hc, hget⟩ := ih (before ++ [u]) (by simpa using hnext) ht
      rw [List.length_append, List.length_singleton, Nat.add_assoc, Nat.add_comm 1] at hc
      refine ⟨c, hc, ?_⟩
      rw [rank_cons]
      cases hu : u.isItem with
      | true => exact hget
      | false => exact hget

/-! ## Statements and members -/

/-- What is read from the children of a node: one result for each item, in order, read from the item with
the comment that is due at its place; a result that has a comment has that one. -/
structure AttachesExactly {α : Type} (bytes : SourceBytes) (cs : List SyntaxTree)
    (read : SyntaxTree → Option Comment → α) (comment? : α → Option (Option Comment))
    (xs : List α) : Prop where
  /-- There are as many results as items. -/
  length_eq : xs.length = cs.countP isItem
  /-- The result for an item stands at the rank of the item. -/
  read_eq : ∀ p t, cs[p]? = some t → t.isItem = true →
    ∃ x c, xs[rank cs p]? = some x ∧ x = read t c ∧ Pending bytes cs p c ∧
      ∀ c', comment? x = some c' → c' = c

/-- A comment among the results is that of the last block before an item, whose rank is the number of the
result. -/
theorem AttachesExactly.exists_block {α : Type} {read : SyntaxTree → Option Comment → α}
    {comment? : α → Option (Option Comment)} {xs : List α}
    (h : AttachesExactly bytes cs read comment? xs) {i : Nat} {x : α} {c : Comment}
    (hx : xs[i]? = some x) (hc : comment? x = some (some c)) :
    ∃ p t j b, cs[p]? = some t ∧ t.isItem = true ∧ rank cs p = i ∧ IsLastBlock bytes cs j p ∧
      cs[j]? = some b ∧ Comment.parse? (b.text bytes) = some c := by
  have hi : i < cs.countP isItem := by
    rw [← h.length_eq]
    exact (List.getElem?_eq_some_iff.1 hx).1
  obtain ⟨p, t, ht, hitem, rfl⟩ := exists_item_of_lt hi
  obtain ⟨x', c', hx', -, hpending, hcomment⟩ := h.read_eq p t ht hitem
  obtain rfl := Option.some.inj (hx.symm.trans hx')
  obtain rfl := hcomment _ hc
  cases hpending with
  | block hj hb hparse => exact ⟨p, t, _, _, ht, hitem, rfl, hj, hb, hparse⟩

/-- Reading what the walk gives, when reading keeps comments. -/
theorem attachesExactly_attach {α : Type} {read : SyntaxTree → Option Comment → α}
    {comment? : α → Option (Option Comment)}
    (hread : ∀ t c c', comment? (read t c) = some c' → c' = c) (cs : List SyntaxTree) :
    AttachesExactly bytes cs read comment?
      ((attach bytes none cs).map fun p => read p.1 p.2) where
  length_eq := by rw [List.length_map, length_attach]
  read_eq p t ht hitem := by
    obtain ⟨c, hc, hget⟩ := attach_of_pending [] cs pending_zero ht hitem
    rw [List.nil_append, List.length_nil, Nat.zero_add] at hc
    refine ⟨read t c, c, ?_, rfl, hc, hread t c⟩
    rw [List.getElem?_map, hget, Option.map_some]

/-- A statement that has a comment has the one it is read with. -/
theorem comment?_statement (t : SyntaxTree) (c c' : Option Comment)
    (h : (statement bytes t c).comment? = some c') : c' = c := by
  rw [statement] at h
  dsimp only at h
  split at h
  · exact (Option.some.inj h).symm
  split at h
  · exact (Option.some.inj h).symm
  split at h
  · cases h
  · cases h

/-- The statements of a tree are read from the children of the root. -/
theorem attachesExactly_statements (bytes : SourceBytes) (root : SyntaxTree) :
    AttachesExactly bytes root.children (statement bytes) Statement.comment?
      (statements bytes root) :=
  attachesExactly_attach comment?_statement root.children

/-- A member that has a comment has the one it is read with. -/
theorem comment?_member (t : SyntaxTree) (c c' : Option Comment)
    (h : (member bytes t c).comment? = some c') : c' = c := by
  rw [member] at h
  split at h
  · exact (Option.some.inj h).symm
  · cases h

/-- The nodes among which the members of the interface of a statement are. -/
def bodyChildren (t : SyntaxTree) : List SyntaxTree :=
  ((declaring t).1.body?.map children).getD []

/-- A statement that is read as an interface declares one, and has the members of its body. -/
theorem statement_eq_interface {t : SyntaxTree} {c c' : Option Comment} {name : String}
    {exported : Bool} {ms : List Member}
    (h : statement bytes t c = .interface name exported ms c') :
    (declaring t).1.kind = "interface_declaration" ∧ members bytes (declaring t).1 = ms := by
  rw [statement] at h
  dsimp only at h
  split at h
  · rename_i hkind
    injection h with _ _ hms _
    exact ⟨by simpa using hkind, hms⟩
  split at h
  · cases h
  split at h
  · cases h
  · cases h

/-- The members of an interface are read from its body. -/
theorem attachesExactly_members {t : SyntaxTree} {c c' : Option Comment} {name : String}
    {exported : Bool} {ms : List Member}
    (h : statement bytes t c = .interface name exported ms c') :
    AttachesExactly bytes (bodyChildren t) (member bytes) Member.comment? ms := by
  rw [← (statement_eq_interface h).2]
  exact attachesExactly_attach comment?_member (bodyChildren t)

/-! ## Paths -/

/-- The node that a path of places leads to. -/
def at? (t : SyntaxTree) : List Nat → Option SyntaxTree
  | [] => some t
  | i :: path => t.children[i]?.bind fun c => c.at? path

/-- A path leads on from where a path leads to. -/
theorem at?_append (t : SyntaxTree) (path path' : List Nat) :
    t.at? (path ++ path') = (t.at? path).bind fun c => c.at? path' := by
  induction path generalizing t with
  | nil => rfl
  | cons i path ih =>
    rw [List.cons_append, at?, at?, Option.bind_assoc]
    congr 1
    funext c
    exact ih c

/-- A path of one place leads to that child. -/
theorem at?_singleton (t : SyntaxTree) (i : Nat) : t.at? [i] = t.children[i]? := by
  rw [at?]
  cases t.children[i]? <;> rfl

/-- The first child with a property is found at the first place with it. -/
theorem getElem?_of_findIdx? {P : SyntaxTree → Bool} {i : Nat} (h : cs.findIdx? P = some i) :
    ∃ c, cs[i]? = some c ∧ cs.find? P = some c := by
  obtain ⟨hi, -, -⟩ := List.findIdx?_eq_some_iff_getElem.1 h
  have hget : cs[i]? = some cs[i] := List.getElem?_eq_getElem hi
  refine ⟨cs[i], hget, ?_⟩
  rw [List.find?_eq_bind_findIdx?_getElem?, h, Option.bind_some, hget]

/-- Without a place with a property there is no child with it. -/
theorem find?_of_findIdx?_none {P : SyntaxTree → Bool} (h : cs.findIdx? P = none) :
    cs.find? P = none := by
  rw [List.find?_eq_bind_findIdx?_getElem?, h, Option.bind_none]

/-- From an ambient declaration to the declaration inside. -/
def unwrapPath (t : SyntaxTree) : List Nat :=
  if t.kind == "ambient_declaration" then
    (t.children.findIdx? fun c => c.named && declaringKinds.contains c.kind).toList
  else []

/-- From a statement to its declaring node. -/
def declaringPath (t : SyntaxTree) : List Nat :=
  if t.kind == "export_statement" then
    match t.children.findIdx? fun c => c.field == some "declaration", t.child? "declaration" with
    | some i, some c =>
      if declaringKinds.contains (unwrapAmbient c).kind then i :: unwrapPath c else []
    | _, _ => []
  else unwrapPath t

/-- From a statement to the node with the members of its interface. -/
def bodyPath? (t : SyntaxTree) : Option (List Nat) :=
  let d := (declaring t).1
  ((d.children.findIdx? fun c => c.field == some "body").or
    (d.children.findIdx? fun c => bodyKinds.contains c.kind)).map fun i => declaringPath t ++ [i]

/-- The path into an ambient declaration leads to what it wraps. -/
theorem at?_unwrapPath (t : SyntaxTree) : t.at? (unwrapPath t) = some (unwrapAmbient t) := by
  rw [unwrapPath, unwrapAmbient]
  split
  · cases h : t.children.findIdx? fun c => c.named && declaringKinds.contains c.kind with
    | none => rw [find?_of_findIdx?_none h]; rfl
    | some i =>
      obtain ⟨c, hget, hfind⟩ := getElem?_of_findIdx? h
      rw [Option.toList_some, at?_singleton, hget, hfind, Option.getD_some]
  · rfl

/-- The path to the declaring node leads there. -/
theorem at?_declaringPath (t : SyntaxTree) : t.at? (declaringPath t) = some (declaring t).1 := by
  rw [declaringPath, declaring]
  split
  · cases h : t.children.findIdx? fun c => c.field == some "declaration" with
    | none =>
      rw [child?, find?_of_findIdx?_none h]
      rfl
    | some i =>
      obtain ⟨c, hget, hfind⟩ := getElem?_of_findIdx? h
      rw [child?, hfind, Option.map_some]
      dsimp only
      split
      · rw [at?, hget, Option.bind_some, at?_unwrapPath]
      · rfl
  · exact at?_unwrapPath t

/-- The path to the members leads to the body, where there is one. -/
theorem at?_bodyPath? (t : SyntaxTree) : (bodyPath? t).bind t.at? = (declaring t).1.body? := by
  have hbody : ∀ i, t.at? (declaringPath t ++ [i]) = (declaring t).1.children[i]? := by
    intro i
    rw [at?_append, at?_declaringPath, Option.bind_some, at?_singleton]
  rw [bodyPath?, body?, child?]
  cases hfield : (declaring t).1.children.findIdx? fun c => c.field == some "body" with
  | some i =>
    obtain ⟨c, hget, hfind⟩ := getElem?_of_findIdx? hfield
    rw [Option.some_or, Option.map_some, Option.bind_some, hbody, hget, hfind, Option.some_or]
  | none =>
    rw [Option.none_or, find?_of_findIdx?_none hfield, Option.none_or]
    cases hkind : (declaring t).1.children.findIdx? fun c => bodyKinds.contains c.kind with
    | some i =>
      obtain ⟨c, hget, hfind⟩ := getElem?_of_findIdx? hkind
      rw [Option.map_some, Option.bind_some, hbody, hget, hfind]
    | none => rw [find?_of_findIdx?_none hkind, Option.map_none, Option.bind_none]

/-- Where there are nodes for members there is a body, and a path to it. -/
theorem exists_body {t u : SyntaxTree} {m : Nat} (h : (bodyChildren t)[m]? = some u) :
    ∃ body path, (declaring t).1.body? = some body ∧ bodyPath? t = some path ∧
      bodyChildren t = body.children := by
  rw [bodyChildren] at h ⊢
  have hat := at?_bodyPath? t
  cases hbody : (declaring t).1.body? with
  | none =>
    rw [hbody] at h
    cases h
  | some body =>
    rw [hbody] at hat
    obtain ⟨path, hpath, -⟩ := Option.bind_eq_some_iff.1 hat
    exact ⟨body, path, rfl, hpath, rfl⟩

/-- A path to the children of the body of an interface. -/
theorem at?_bodyChild {root t body : SyntaxTree} {p : Nat} {path : List Nat}
    (ht : root.children[p]? = some t) (hpath : bodyPath? t = some path)
    (hbody : (declaring t).1.body? = some body) (j : Nat) :
    root.at? (p :: path ++ [j]) = body.children[j]? := by
  have hat : t.at? path = some body := by
    rw [← hbody, ← at?_bodyPath?, hpath, Option.bind_some]
  rw [List.cons_append, at?, ht, Option.bind_some, at?_append, hat, Option.bind_some, at?_singleton]

/-! ## At most one -/

/-- What a block can be attached to: a statement, or a member of a statement, each by its number. -/
inductive Recipient where
  /-- A statement. -/
  | statement (i : Nat)
  /-- A member of a statement. -/
  | member (i k : Nat)
  deriving DecidableEq, Repr

/-- The block at a path is the comment of a statement, or of a member of an interface. -/
inductive AttachedTo (bytes : SourceBytes) (root : SyntaxTree) : List Nat → Recipient → Prop
  /-- The last block before a statement. -/
  | statement {j p : Nat} {t : SyntaxTree} (ht : root.children[p]? = some t)
      (hitem : t.isItem = true) (hj : IsLastBlock bytes root.children j p) :
      AttachedTo bytes root [j] (.statement (rank root.children p))
  /-- The last block before a member, in the body of the interface. -/
  | member {p j m : Nat} {t body u : SyntaxTree} {path : List Nat}
      (ht : root.children[p]? = some t) (hitem : t.isItem = true)
      (hkind : (declaring t).1.kind = "interface_declaration")
      (hpath : bodyPath? t = some path) (hbody : (declaring t).1.body? = some body)
      (hu : body.children[m]? = some u) (huitem : u.isItem = true)
      (hj : IsLastBlock bytes body.children j m) :
      AttachedTo bytes root (p :: path ++ [j])
        (.member (rank root.children p) (rank body.children m))

/-- A block is attached to one statement or member at most. -/
theorem AttachedTo.unique {root : SyntaxTree} {path : List Nat} {x y : Recipient}
    (hx : AttachedTo bytes root path x) (hy : AttachedTo bytes root path y) : x = y := by
  -- the path of a block tells the node that it is a child of, and there `item_unique` decides
  cases hx with
  | @statement j p t ht hitem hj =>
    generalize hsame : [j] = path at hy
    cases hy with
    | statement ht' hitem' hj' =>
      obtain rfl := List.singleton_inj.1 hsame
      rw [hj.item_unique ht hitem hj' ht' hitem']
    | member => simp at hsame
  | @member p j m t body u path ht hitem hkind hpath hbody hu huitem hj =>
    generalize hsame : p :: path ++ [j] = path at hy
    cases hy with
    | statement => simp at hsame
    | member ht' hitem' hkind' hpath' hbody' hu' huitem' hj' =>
      obtain ⟨hfirst, rfl⟩ := List.append_singleton_inj.1 hsame
      obtain ⟨rfl, rfl⟩ := List.cons.inj hfirst
      obtain rfl := Option.some.inj (ht.symm.trans ht')
      obtain rfl := Option.some.inj (hbody.symm.trans hbody')
      rw [hj.item_unique hu huitem hj' hu' huitem']

/-- The comment that a statement or member among `ss` has. -/
def Recipient.comment? (ss : List Statement) : Recipient → Option Comment
  | .statement i => (ss[i]?.bind Statement.comment?).join
  | .member i k =>
    match ss[i]? with
    | some (.interface _ _ ms _) => (ms[k]?.bind Member.comment?).join
    | _ => none

/-- Every comment of a statement is that of a block attached to the statement, and likewise for
members. -/
theorem exists_attached {root : SyntaxTree} {x : Recipient} {c : Comment}
    (h : x.comment? (statements bytes root) = some c) :
    ∃ path b, AttachedTo bytes root path x ∧ root.at? path = some b ∧
      Comment.parse? (b.text bytes) = some c := by
  have hexact := attachesExactly_statements bytes root
  cases x with
  | statement i =>
    rw [Recipient.comment?, Option.join_eq_some_iff, Option.bind_eq_some_iff] at h
    obtain ⟨s, hs, hc⟩ := h
    obtain ⟨p, t, j, b, ht, hitem, rfl, hj, hb, hparse⟩ := hexact.exists_block hs hc
    exact ⟨[j], b, .statement ht hitem hj, by rw [at?_singleton, hb], hparse⟩
  | member i k =>
    rw [Recipient.comment?] at h
    split at h
    · rename_i name exported ms comment hs
      rw [Option.join_eq_some_iff, Option.bind_eq_some_iff] at h
      obtain ⟨m, hm, hc⟩ := h
      -- the interface is the statement of an item, and its members are read from the body of that item
      have hi : i < root.children.countP isItem := by
        rw [← hexact.length_eq]
        exact (List.getElem?_eq_some_iff.1 hs).1
      obtain ⟨p, t, ht, hitem, rfl⟩ := exists_item_of_lt hi
      obtain ⟨x, c', hx, hread, -, -⟩ := hexact.read_eq p t ht hitem
      obtain rfl := Option.some.inj (hx.symm.trans hs)
      obtain ⟨q, u, j, b, hu, huitem, rfl, hj, hb, hparse⟩ :=
        (attachesExactly_members hread.symm).exists_block hm hc
      obtain ⟨body, path, hbody, hpath, hchildren⟩ := exists_body hu
      rw [hchildren] at hu hj hb ⊢
      exact ⟨p :: path ++ [j], b,
        .member ht hitem (statement_eq_interface hread.symm).1 hpath hbody hu huitem hj,
        by rw [at?_bodyChild ht hpath hbody, hb], hparse⟩
    · cases h

/-- **Every comment belongs to what it stands before.** Reading a tree gives one statement for each child
of the root that is named and no comment, in order, and each of them that has a comment has the one
that is due at its place: that of the last documentation block behind the item before, or none. The
same holds of the members of each interface among the children of its body. So every comment comes
from a block attached to its statement or member, and a block is attached to one of them at most. -/
theorem comment_attachment_exact (ε : Type) (bytes : SourceBytes) (root : SyntaxTree) :
    ∃ ss, (readStatements bytes root : Report ε (List Statement)).outcome = .ok ss ∧
      AttachesExactly bytes root.children (statement bytes) Statement.comment? ss ∧
      (∀ p t name exported ms comment, root.children[p]? = some t → t.isItem = true →
        ss[rank root.children p]? = some (.interface name exported ms comment) →
          AttachesExactly bytes (bodyChildren t) (member bytes) Member.comment? ms) ∧
      (∀ x c, Recipient.comment? ss x = some c →
        ∃ path b, AttachedTo bytes root path x ∧ root.at? path = some b ∧
          Comment.parse? (b.text bytes) = some c) ∧
      ∀ path x y, AttachedTo bytes root path x → AttachedTo bytes root path y → x = y := by
  have hexact := attachesExactly_statements bytes root
  refine ⟨statements bytes root, rfl, hexact, ?_, fun x c => exists_attached, ?_⟩
  · intro p t name exported ms comment ht hitem hs
    obtain ⟨x, c, hx, hread, -, -⟩ := hexact.read_eq p t ht hitem
    obtain rfl := Option.some.inj (hx.symm.trans hs)
    exact attachesExactly_members hread.symm
  · intro path x y hx hy
    exact hx.unique hy

/-- A module with a comment, a plain one and a semicolon before an import, and an interface that has a
comment before a method and two before a property. -/
def annotatedSource : SourceBytes :=
  Text.Utf8.encode
    "/** one *//* no */;import x;/** two */interface I\x7b/** a */f();/** b *//** c */p\x7d".toList

/-- The interface of the annotated module. -/
def annotatedInterface : SyntaxTree :=
  .node "interface_declaration" 38 80 true none
    [.node "type_identifier" 48 49 true (some "name") [],
      .node "interface_body" 49 80 true (some "body")
        [.node "\x7b" 49 50 false none [], .node "comment" 50 58 true none [],
          .node "method_signature" 58 61 true none [], .node ";" 61 62 false none [],
          .node "comment" 62 70 true none [], .node "comment" 70 78 true none [],
          .node "property_signature" 78 79 true none
            [.node "property_identifier" 78 79 true (some "name") []],
          .node "\x7d" 79 80 false none []]]

/-- The tree of the annotated module. -/
def annotatedTree : SyntaxTree :=
  .node "program" 0 80 true none
    [.node "comment" 0 10 true none [], .node "comment" 10 18 true none [],
      .node ";" 18 19 false none [], .node "import_statement" 19 28 true none [],
      .node "comment" 28 38 true none [], annotatedInterface]

/-- The import and the method of the annotated module use up the comments before them; the interface and
the property have the last comment before them, which no other statement or member has. -/
theorem comment_attachment_exact_annotated :
    ∃ ss, (readStatements annotatedSource annotatedTree : Report Empty (List Statement)).outcome =
        .ok ss ∧
      ss.length = 2 ∧
      (∃ name exported ms comment, ss[1]? = some (.interface name exported ms comment) ∧
        ms.length = 2) ∧
      Recipient.comment? ss (.statement 1) = some [⟨none, "two"⟩] ∧
      Recipient.comment? ss (.member 1 1) = some [⟨none, "c"⟩] ∧
      ∃ path, AttachedTo annotatedSource annotatedTree path (.member 1 1) ∧
        ∀ y, AttachedTo annotatedSource annotatedTree path y → .member 1 1 = y := by
  obtain ⟨ss, hss, hexact, hmembers, hcomment, hunique⟩ :=
    comment_attachment_exact Empty annotatedSource annotatedTree
  obtain rfl : statements annotatedSource annotatedTree = ss := Except.ok.inj hss
  have hproperty : Recipient.comment? (statements annotatedSource annotatedTree) (.member 1 1) =
      some [⟨none, "c"⟩] := by
    decide +kernel
  obtain ⟨x, c, hx, rfl, -, -⟩ := hexact.read_eq 5 annotatedInterface rfl (by decide +kernel)
  have hinterface : statement annotatedSource annotatedInterface c =
      .interface ((annotatedInterface.childText? annotatedSource "name").getD "") false
        (members annotatedSource annotatedInterface) c := rfl
  rw [hinterface] at hx
  have hbody := hmembers 5 annotatedInterface _ _ _ _ rfl (by decide +kernel) hx
  obtain ⟨path, b, hpath, -, -⟩ := hcomment _ _ hproperty
  refine ⟨_, hss, hexact.length_eq.trans (by decide +kernel),
    ⟨_, _, _, _, hx, hbody.length_eq.trans (by decide +kernel)⟩, by decide +kernel, hproperty,
    path, hpath, fun y hy => hunique path _ y hpath hy⟩

end SyntaxTree

end TypeAtlas
