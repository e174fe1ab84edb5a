import TypeAtlas.Path

/-! # Names and suffixes of paths

What the last part of a path looks like when its suffix is known, was replaced, or ends a written path.

* `Path.name_of_suffix`: a path with a suffix has a name that ends in it.
* `Path.isSuffix_name_ofString`: a written path that ends in some text has a name that ends in it.
* `Path.withSuffix_inj`: paths of one suffix are told apart by what is left when it is replaced.
* `Path.NulFree`: paths of names that a file can have, and how such paths are made of others.
* `Path.HasHome`: paths that `Path.expandHome` can write out (`Path.exists_expandHome_iff`). -/

namespace TypeAtlas

/-- The last part of a text behind which another text without separators is put ends in that text. -/
theorem Text.exists_splitAt_append {sep : Char} {t : List Char} (ht : sep ∉ t) (s : List Char) :
    ∃ front last, splitAt sep (s ++ t) = front ++ [last ++ t] := by
  induction s with
  | nil => exact ⟨[], [], splitAt_of_notMem ht⟩
  | cons c s ih =>
    obtain ⟨front, last, hparts⟩ := ih
    by_cases hc : c = sep
    · refine ⟨[] :: front, last, ?_⟩
      rw [hc, List.cons_append, List.cons_append, ← hparts]
      exact splitAt_append_cons sep [] (s ++ t)
    · -- `c` joins the first part, which is the last one only if there is no other
      cases front with
      | nil =>
        refine ⟨[], c :: last, ?_⟩
        simp only [splitAt, List.nil_append, List.cons.injEq] at hparts
        simp [splitAt, cut, hc, hparts.1, hparts.2]
      | cons first front =>
        refine ⟨(c :: first) :: front, last, ?_⟩
        simp only [splitAt, List.cons_append, List.cons.injEq] at hparts
        simp [splitAt, cut, hc, hparts.1, hparts.2]

/-- The parts of a text hold no other characters than the text. -/
theorem Text.mem_of_mem_splitAt {sep c : Char} {s part : List Char} (hpart : part ∈ splitAt sep s)
    (hc : c ∈ part) : c ∈ s := by
  induction s generalizing part with
  | nil =>
    rw [splitAt_of_notMem List.not_mem_nil, List.mem_singleton] at hpart
    rwa [hpart] at hc
  | cons d s ih =>
    by_cases hd : d = sep
    · have hsplit : splitAt sep (d :: s) = [] :: splitAt sep s := by simp [splitAt, cut, hd]
      rw [hsplit] at hpart
      rcases List.mem_cons.1 hpart with rfl | hpart
      · cases hc
      · exact List.mem_cons_of_mem _ (ih hpart hc)
    · have hsplit : splitAt sep (d :: s) = (d :: (cut sep s).1) :: (cut sep s).2 := by
        simp [splitAt, cut, hd]
      rw [hsplit] at hpart
      rcases List.mem_cons.1 hpart with rfl | hpart
      · rcases List.mem_cons.1 hc with rfl | hc
        · exact List.mem_cons_self
        · exact List.mem_cons_of_mem _ (ih List.mem_cons_self hc)
      · exact List.mem_cons_of_mem _ (ih (List.mem_cons_of_mem _ hpart) hc)

namespace Path

/-! ## The two pieces of a name -/

/-- A text with a dot in it has a last one, behind which no dot stands. -/
theorem exists_lastDot {l : List Char} (h : (l.reverse.takeWhile (· ≠ '.')).length < l.length) :
    ∃ front, l = front ++ '.' :: (l.reverse.takeWhile (· ≠ '.')).reverse := by
  have hwhole : l.reverse.takeWhile (· ≠ '.') ++ l.reverse.dropWhile (· ≠ '.') = l.reverse :=
    List.takeWhile_append_dropWhile
  have hdot := List.head?_dropWhile_not (· ≠ '.') l.reverse
  cases hrest : l.reverse.dropWhile (· ≠ '.') with
  | nil =>
    have hlength := congrArg List.length hwhole
    rw [hrest, List.append_nil, List.length_reverse] at hlength
    omega
  | cons c rest =>
    rw [hrest] at hdot hwhole
    have hc : c = '.' := by simpa using hdot
    have hreverse := congrArg List.reverse hwhole
    rw [List.reverse_reverse, List.reverse_append, List.reverse_cons, hc, List.append_assoc,
      List.singleton_append] at hreverse
    exact ⟨rest.reverse, hreverse.symm⟩

/-- The two pieces of a name make up the name. -/
theorem splitName_append (name : String) : (splitName name).1 ++ (splitName name).2 = name := by
  obtain ⟨tail, htail⟩ : ∃ tail, name.toList.reverse.takeWhile (· ≠ '.') = tail := ⟨_, rfl⟩
  have hsplit : splitName name =
      if tail.isEmpty || name.length - tail.length ≤ 1 then (name, "")
      else (String.ofList (name.toList.take (name.length - tail.length - 1)),
        String.ofList ('.' :: tail.reverse)) := by
    simp only [splitName, htail]
  rw [hsplit]
  split
  · exact String.append_empty
  · rename_i hcut
    simp only [Bool.or_eq_true, decide_eq_true_eq, not_or] at hcut
    have hlength : name.toList.length = name.length := String.length_toList
    have hdot := exists_lastDot (l := name.toList)
    rw [htail] at hdot
    obtain ⟨front, hfront⟩ := hdot (by omega)
    -- the name is cut right before its last dot
    have hsize : name.length - tail.length - 1 = front.length := by
      have hwhole := congrArg List.length hfront
      rw [List.length_append, List.length_cons, List.length_reverse] at hwhole
      omega
    rw [hsize, hfront, List.take_left, ← String.ofList_append, ← hfront, String.ofList_toList]

variable {p q : Path} {ending : String}

/-- A path with a suffix has a name that ends in it. -/
theorem name_of_suffix (h : p.suffix = ending) : p.name = (splitName p.name).1 ++ ending := by
  rw [← h, suffix, splitName_append]

/-- A path with a suffix has a last part. -/
theorem parts_ne_nil_of_suffix (h : p.suffix = ending) (hending : ending ≠ "") : p.parts ≠ [] := by
  intro hnil
  apply hending
  rw [← h, suffix, name, hnil]
  rfl

/-- The last part of a path is its name. -/
theorem dropLast_append_name (h : p.parts ≠ []) : p.parts.dropLast ++ [p.name] = p.parts := by
  rw [name, List.getLast?_eq_some_getLast h, Option.getD_some, List.dropLast_concat_getLast h]

/-- A written path that ends in some text without slashes has a name that ends in that text. The text is
longer than a dot, so that it is a part of its own. -/
theorem isSuffix_name_ofString {o : String} {text : List Char} (hslash : '/' ∉ text)
    (hlength : 2 ≤ text.length) (h : text <:+ o.toList) : text <:+ (ofString o).name.toList := by
  obtain ⟨s, hs⟩ := h
  obtain ⟨front, last, hparts⟩ := Text.exists_splitAt_append hslash s
  -- the last part is too long to be one of those that are left out
  have hne : ∀ short : String, short.toList.length < 2 → String.ofList (last ++ text) ≠ short := by
    rintro short hshort rfl
    rw [String.toList_ofList, List.length_append] at hshort
    omega
  have hkept : ([String.ofList (last ++ text)].filter fun p => p ≠ "" && p ≠ ".") =
      [String.ofList (last ++ text)] := by
    rw [List.filter_eq_self]
    intro p hp
    rw [List.mem_singleton.1 hp, Bool.and_eq_true, decide_eq_true_eq, decide_eq_true_eq]
    exact ⟨hne "" (by decide), hne "." (by decide)⟩
  have hname : (ofString o).name = String.ofList (last ++ text) := by
    rw [name, ofString, ← hs, hparts, List.map_append, List.filter_append, List.map_singleton,
      hkept, List.getLast?_concat, Option.getD_some]
  rw [hname, String.toList_ofList]
  exact List.suffix_append last text

/-! ## Replacing a suffix -/

/-- The path whose last part has another suffix. -/
theorem withSuffix_of_parts (h : p.parts ≠ []) (s : String) :
    p.withSuffix s =
      .ok { p with parts := p.parts.dropLast ++ [(splitName p.name).1 ++ s] } := by
  rw [withSuffix, if_neg]
  rwa [List.isEmpty_iff]

/-- A replaced suffix ends the name. -/
theorem name_of_withSuffix {s : String} (h : p.withSuffix s = .ok q) :
    q.name = (splitName p.name).1 ++ s := by
  rw [withSuffix] at h
  split at h
  · cases h
  · cases h
    rw [name, List.getLast?_concat, Option.getD_some]

/-- Paths of one suffix whose suffixes are replaced by the same are the same if the results are. -/
theorem withSuffix_inj (hp : p.suffix = ending) (hq : q.suffix = ending) (hending : ending ≠ "")
    {s : String} (h : p.withSuffix s = q.withSuffix s) : p = q := by
  have hpparts := parts_ne_nil_of_suffix hp hending
  have hqparts := parts_ne_nil_of_suffix hq hending
  rw [withSuffix_of_parts hpparts, withSuffix_of_parts hqparts, Except.ok.injEq, mk.injEq] at h
  obtain ⟨hanchor, hparts⟩ := h
  obtain ⟨hfront, hlast⟩ := List.append_inj' hparts rfl
  have hstem := (String.append_left_inj s).1 (List.cons.inj hlast).1
  have hname : p.name = q.name := by
    rw [name_of_suffix hp, name_of_suffix hq, hstem]
  have hsame : p.parts = q.parts := by
    rw [← dropLast_append_name hpparts, ← dropLast_append_name hqparts, hfront, hname]
  rw [mk.injEq]
  exact ⟨hanchor, hsame⟩

/-! ## Names that a file can have -/

/-- No name on the way holds the character that no file name can hold. -/
def NulFree (p : Path) : Prop := ∀ part ∈ p.parts, '\x00' ∉ part.toList

theorem hasNul_eq_false_iff : p.hasNul = false ↔ p.NulFree := by
  simp [hasNul, NulFree]

/-- A path that is written without the character has no part with it. -/
theorem nulFree_ofString {s : String} (h : '\x00' ∉ s.toList) : (ofString s).NulFree := by
  intro part hpart hnul
  obtain ⟨piece, hpiece, rfl⟩ := List.mem_map.1 (List.mem_filter.1 hpart).1
  rw [String.toList_ofList] at hnul
  exact h (Text.mem_of_mem_splitAt hpiece hnul)

theorem NulFree.parent (h : p.NulFree) : p.parent.NulFree := fun part hpart =>
  h part (List.dropLast_subset _ hpart)

theorem NulFree.join (hp : p.NulFree) (hq : q.NulFree) : (p.join q).NulFree := by
  rw [Path.join]
  split
  · intro part hpart
    exact (List.mem_append.1 hpart).elim (hp part) (hq part)
  · exact hq

/-- Taking back double dots adds no part. -/
theorem mem_of_mem_collapse {done parts : List String} {part : String}
    (h : part ∈ collapse done parts) : part ∈ done ∨ part ∈ parts := by
  induction parts generalizing done with
  | nil => exact .inl (List.mem_reverse.1 h)
  | cons x parts ih =>
    rw [collapse.eq_def] at h
    split at h
    · contradiction
    · rename_i hx
      cases hx
      exact (ih h).imp List.mem_of_mem_tail (List.mem_cons_of_mem _)
    · rename_i hx
      cases hx
      rcases ih h with hdone | hparts
      · rcases List.mem_cons.1 hdone with rfl | hdone
        · exact .inr List.mem_cons_self
        · exact .inl hdone
      · exact .inr (List.mem_cons_of_mem _ hparts)

/-- The absolute form of a path holds names of the path and of the working directory. -/
theorem NulFree.absolute_normal {cwd : List String} (hcwd : ∀ part ∈ cwd, '\x00' ∉ part.toList)
    (h : p.NulFree) (anchor : Anchor) : NulFree ⟨anchor, p.normal cwd⟩ := by
  intro part (hpart : part ∈ p.normal cwd)
  rw [normal] at hpart
  split at hpart
  · rcases mem_of_mem_collapse hpart with hnil | hmem
    · cases hnil
    · exact (List.mem_append.1 hmem).elim (hcwd part) (h part)
  · rcases mem_of_mem_collapse hpart with hnil | hmem
    · cases hnil
    · exact h part hmem

/-- A replaced suffix leaves the other names and the rest of the last one. -/
theorem NulFree.of_withSuffix {s : String} (h : p.NulFree) (hs : '\x00' ∉ s.toList)
    (hsuffix : p.withSuffix s = .ok q) : q.NulFree := by
  have hparts : p.parts ≠ [] := by
    intro hnil
    rw [withSuffix, hnil] at hsuffix
    cases hsuffix
  rw [withSuffix_of_parts hparts] at hsuffix
  cases hsuffix
  intro part hpart
  rcases List.mem_append.1 hpart with hfront | hlast
  · exact h part (List.dropLast_subset _ hfront)
  · rw [List.mem_singleton.1 hlast, String.toList_append, List.mem_append, not_or]
    refine ⟨fun hnul => ?_, hs⟩
    have hname : p.name ∈ p.parts := by
      rw [← dropLast_append_name hparts]
      simp
    refine h p.name hname ?_
    rw [← splitName_append p.name, String.toList_append]
    exact List.mem_append_left _ hnul

end Path

/-! ## Home directories -/

/-- Home directories with names that a directory can have. -/
def Homes.NulFree (homes : Homes) : Prop := ∀ user home, homes user = some home → home.NulFree

namespace Path

variable {p q : Path} {homes : Homes}

/-- If a path starts in the home directory of a user, that user has one. -/
def HasHome (homes : Homes) (p : Path) : Prop :=
  ∀ user, p.homeOf? = some user → ∃ home, homes user = some home

/-- The home directory that a path starts in can be written out exactly when there is one. -/
theorem exists_expandHome_iff : (∃ q, p.expandHome homes = .ok q) ↔ p.HasHome homes := by
  rw [expandHome, HasHome]
  cases p.homeOf? with
  | none => simp
  | some user => cases hhome : homes user <;> simp [hhome]

/-- A path with its home directory written out holds names of the path and of the directory. -/
theorem NulFree.of_expandHome (hhomes : homes.NulFree) (h : p.NulFree)
    (hq : p.expandHome homes = .ok q) : q.NulFree := by
  rw [expandHome] at hq
  split at hq
  · cases hq
    exact h
  · split at hq
    · cases hq
    · rename_i home hhome
      cases hq
      intro part hpart
      rcases List.mem_append.1 hpart with hmem | hmem
      · exact hhomes _ home hhome part hmem
      · exact h part (List.mem_of_mem_tail hmem)

end Path

end TypeAtlas
