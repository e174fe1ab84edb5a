/-! # Catalogues

Values filed under keys, in the order in which the keys were first filed. Filing a key again replaces
its value and keeps its place. Main definitions: `Catalogue.insert`, `Catalogue.find?`,
`Catalogue.countOutside`, `Catalogue.ofList`. -/

namespace TypeAtlas

/-- Values under keys, oldest key first. -/
abbrev Catalogue (κ α : Type) := List (κ × α)

namespace Catalogue

variable {κ α : Type} [DecidableEq κ]

/-- Files a value; a key that is there keeps its place. -/
def insert (k : κ) (a : α) : Catalogue κ α → Catalogue κ α
  | [] => [(k, a)]
  | (k', a') :: r => if k' = k then (k, a) :: r else (k', a') :: insert k a r

/-- The value under a key. -/
def find? (k : κ) : Catalogue κ α → Option α
  | [] => none
  | (k', a) :: r => if k' = k then some a else find? k r

/-- Whether something is filed under a key. -/
def has (k : κ) (c : Catalogue κ α) : Bool := (find? k c).isSome

/-- The number of entries whose key is none of `ks`. -/
def countOutside (ks : List κ) (c : Catalogue κ α) : Nat := c.countP fun p => p.1 ∉ ks

/-- Pairs filed one after the other. -/
def ofList (ps : List (κ × α)) : Catalogue κ α := ps.foldl (fun c p => insert p.1 p.2 c) []

@[simp] theorem find?_nil (k : κ) : find? k ([] : Catalogue κ α) = none := rfl

@[simp] theorem find?_cons (k k' : κ) (a : α) (c : Catalogue κ α) :
    find? k ((k', a) :: c) = if k' = k then some a else find? k c := rfl

/-- A filed value is found under its key. -/
@[simp] theorem find?_insert_self (k : κ) (a : α) (c : Catalogue κ α) :
    find? k (insert k a c) = some a := by
  induction c with
  | nil => simp [insert]
  | cons p r ih =>
    obtain ⟨k₀, a₀⟩ := p
    by_cases h : k₀ = k
    · simp [insert, h]
    · simp [insert, h, ih]

/-- Filing a value changes nothing under other keys. -/
theorem find?_insert_of_ne {k k' : κ} (h : k' ≠ k) (a : α) (c : Catalogue κ α) :
    find? k' (insert k a c) = find? k' c := by
  induction c with
  | nil => simp [insert, Ne.symm h]
  | cons p r ih =>
    obtain ⟨k₀, a₀⟩ := p
    by_cases hp : k₀ = k
    · subst hp
      simp [insert, Ne.symm h]
    · by_cases hk : k₀ = k'
      · subst hk
        simp [insert, hp]
      · simp [insert, hp, hk, ih]

/-- The keys after filing: a new key comes last. -/
theorem keys_insert (k : κ) (a : α) (c : Catalogue κ α) :
    (insert k a c).map Prod.fst =
      if k ∈ c.map Prod.fst then c.map Prod.fst else c.map Prod.fst ++ [k] := by
  induction c with
  | nil => simp [insert]
  | cons p r ih =>
    by_cases hp : p.1 = k
    · simp [insert, hp]
    · have hk : ¬ k = p.1 := fun e => hp e.symm
      simp only [insert, hp, if_false, List.map_cons, ih, List.mem_cons, hk, false_or]
      split <;> simp

/-- A value under a new key comes last. -/
theorem insert_of_notMem {k : κ} {c : Catalogue κ α} (h : k ∉ c.map Prod.fst) (a : α) :
    insert k a c = c ++ [(k, a)] := by
  induction c with
  | nil => rfl
  | cons p r ih =>
    rw [List.map_cons, List.mem_cons, not_or] at h
    rw [insert, if_neg (Ne.symm h.1), ih h.2, List.cons_append]

/-- An entry after filing is the filed one or was there before. -/
theorem mem_insert {k : κ} {a : α} {c : Catalogue κ α} {p : κ × α} (h : p ∈ insert k a c) :
    p = (k, a) ∨ p ∈ c := by
  induction c with
  | nil => simpa [insert] using h
  | cons q r ih =>
    rw [insert] at h
    split at h
    · rcases List.mem_cons.1 h with rfl | hr
      · exact Or.inl rfl
      · exact Or.inr (List.mem_cons_of_mem q hr)
    · rcases List.mem_cons.1 h with rfl | hr
      · exact Or.inr List.mem_cons_self
      · exact (ih hr).imp id (List.mem_cons_of_mem q)

/-- Something is filed under a key exactly when it is one of the keys. -/
theorem has_iff_mem_keys {k : κ} {c : Catalogue κ α} : has k c = true ↔ k ∈ c.map Prod.fst := by
  induction c with
  | nil => simp [has]
  | cons p r ih =>
    obtain ⟨k₀, a₀⟩ := p
    rw [has, find?_cons, List.map_cons, List.mem_cons, ← ih]
    by_cases hk : k₀ = k
    · simp [hk]
    · rw [if_neg hk]
      simp [has, Ne.symm hk]

section Relabel

variable {κ' α' : Type} [DecidableEq κ'] {f : κ → κ'}

/-- Relabelling keys and values one by one commutes with filing. -/
theorem insert_map (hf : ∀ k k', f k = f k' → k = k') (g : α → α') (k : κ) (a : α)
    (c : Catalogue κ α) :
    insert (f k) (g a) (c.map fun p => (f p.1, g p.2)) =
      (insert k a c).map fun p => (f p.1, g p.2) := by
  induction c with
  | nil => rfl
  | cons p r ih =>
    rw [List.map_cons, insert, insert]
    by_cases hk : p.1 = k
    · rw [if_pos (congrArg f hk), if_pos hk, List.map_cons]
    · rw [if_neg fun e => hk (hf _ _ e), if_neg hk, List.map_cons, ih]

/-- Relabelling keys and values one by one commutes with finding. -/
theorem find?_map (hf : ∀ k k', f k = f k' → k = k') (g : α → α') (k : κ) (c : Catalogue κ α) :
    find? (f k) (c.map fun p => (f p.1, g p.2)) = (find? k c).map g := by
  induction c with
  | nil => rfl
  | cons p r ih =>
    rw [List.map_cons, find?_cons, find?]
    by_cases hk : p.1 = k
    · rw [if_pos (congrArg f hk), if_pos hk, Option.map_some]
    · rw [if_neg fun e => hk (hf _ _ e), if_neg hk, ih]

end Relabel

/-- An entry counts when its key is none of `ks`. -/
theorem countOutside_cons (ks : List κ) (k : κ) (a : α) (c : Catalogue κ α) :
    countOutside ks ((k, a) :: c) = countOutside ks c + if k ∈ ks then 0 else 1 := by
  rw [countOutside, List.countP_cons, ← countOutside]
  by_cases h : k ∈ ks <;> simp [h]

/-- One key more leaves no more entries outside. -/
theorem countOutside_le (k : κ) (ks : List κ) (c : Catalogue κ α) :
    countOutside (k :: ks) c ≤ countOutside ks c := by
  apply List.countP_mono_left
  intro p _ hp
  simp only [decide_eq_true_eq, List.mem_cons, not_or] at hp ⊢
  exact hp.2

/-- A new key that something is filed under leaves fewer entries outside. -/
theorem countOutside_lt {k : κ} {ks : List κ} {c : Catalogue κ α} {a : α}
    (h : find? k c = some a) (hk : k ∉ ks) : countOutside (k :: ks) c < countOutside ks c := by
  induction c with
  | nil => simp at h
  | cons p r ih =>
    obtain ⟨k₀, a₀⟩ := p
    rw [countOutside_cons, countOutside_cons]
    by_cases hp : k₀ = k
    · have hle := countOutside_le k ks r
      rw [hp, if_pos List.mem_cons_self, if_neg hk]
      omega
    · rw [find?_cons, if_neg hp] at h
      have hlt := ih h
      simp only [List.mem_cons, hp, false_or]
      omega

end Catalogue

end TypeAtlas
