import WebhookBridge.Text.Basic

/-!
# Tables

A table maps texts to values and remembers the order in which its keys first arrived. Writing to a key that is
present keeps its place; erasing a key and writing it again moves it to the end.

## Contents

* `Table`, `Table.get?`, `Table.put`, `Table.erase`, `Table.keys`;
* `Table.ofPairs`: the table of a list of pairs, where a later pair wins;
* the laws of reading after writing and after erasing;
* the entries after writing;
* the keys: those under which a value is read, each once;
* what erasing leaves.
-/

namespace WebhookBridge

/-- Values under text keys, in order of arrival. -/
abbrev Table (α : Type) := List (Text × α)

namespace Table

variable {α : Type}

/-- The value under a key. -/
def get? (k : Text) : Table α → Option α
  | [] => none
  | (k', v) :: rest => if k' = k then some v else get? k rest

/-- The table with a value under a key, in its old place if it has one, else at the end. -/
def put (k : Text) (v : α) : Table α → Table α
  | [] => [(k, v)]
  | (k', v') :: rest => if k' = k then (k', v) :: rest else (k', v') :: put k v rest

/-- The table without a key. -/
def erase (k : Text) (t : Table α) : Table α := t.filter fun entry => entry.1 != k

/-- The keys, in order. -/
def keys (t : Table α) : List Text := t.map (·.1)

/-- The table of a list of pairs; a key that occurs again keeps its place and takes the later value. -/
def ofPairs (pairs : List (Text × α)) : Table α := pairs.foldl (fun t (k, v) => put k v t) []

theorem get?_put_self (k : Text) (v : α) (t : Table α) : get? k (put k v t) = some v := by
  induction t with
  | nil => simp [put, get?]
  | cons e t ih =>
    obtain ⟨k', v'⟩ := e
    by_cases h : k' = k <;> simp [put, get?, h, ih]

theorem get?_put_ne {k k' : Text} (h : k' ≠ k) (v : α) (t : Table α) : get? k' (put k v t) = get? k' t := by
  induction t with
  | nil => simp [put, get?, Ne.symm h]
  | cons e t ih =>
    obtain ⟨j, w⟩ := e
    by_cases hj : j = k
    · subst hj
      simp [put, get?, Ne.symm h]
    · by_cases hj' : j = k'
      · subst hj'
        simp [put, get?, h]
      · simp [put, get?, hj, hj', ih]

theorem get?_erase_self (k : Text) (t : Table α) : get? k (erase k t) = none := by
  induction t with
  | nil => rfl
  | cons e t ih =>
    obtain ⟨j, w⟩ := e
    by_cases hj : j = k
    · simpa [erase, hj] using ih
    · have : (j != k) = true := by simpa using hj
      simp only [erase, List.filter_cons, this, if_true, get?, hj, if_false]
      exact ih

theorem get?_erase_ne {k k' : Text} (h : k' ≠ k) (t : Table α) : get? k' (erase k t) = get? k' t := by
  induction t with
  | nil => rfl
  | cons e t ih =>
    obtain ⟨j, w⟩ := e
    by_cases hj : j = k
    · subst hj
      simp only [erase, List.filter_cons, bne_self_eq_false, Bool.false_eq_true, if_false, get?, Ne.symm h]
      exact ih
    · have hb : (j != k) = true := by simpa using hj
      simp only [erase, List.filter_cons, hb, if_true, get?]
      split
      · rfl
      · exact ih

/-- What is read under a key is an entry under that key. -/
theorem mem_of_get? {k : Text} {v : α} {t : Table α} (h : get? k t = some v) : (k, v) ∈ t := by
  induction t with
  | nil => cases h
  | cons entry t ih =>
    obtain ⟨j, w⟩ := entry
    by_cases hj : j = k
    · subst hj
      rw [get?, if_pos rfl] at h
      cases h
      exact List.mem_cons_self ..
    · rw [get?, if_neg hj] at h
      exact List.mem_cons_of_mem _ (ih h)

/-- What is in a table after writing was written or was there. -/
theorem mem_put {k : Text} {v : α} {t : Table α} {entry : Text × α} (h : entry ∈ put k v t) :
    entry = (k, v) ∨ entry ∈ t := by
  induction t with
  | nil => exact Or.inl (List.mem_singleton.1 h)
  | cons first t ih =>
    obtain ⟨j, w⟩ := first
    by_cases hj : j = k
    · subst hj
      rw [put, if_pos rfl] at h
      rcases List.mem_cons.1 h with rfl | h
      · exact Or.inl rfl
      · exact Or.inr (List.mem_cons_of_mem _ h)
    · rw [put, if_neg hj] at h
      rcases List.mem_cons.1 h with rfl | h
      · exact Or.inr (List.mem_cons_self ..)
      · rcases ih h with he | h
        · exact Or.inl he
        · exact Or.inr (List.mem_cons_of_mem _ h)

/-- The entries of the table of a list of pairs are among the pairs. -/
theorem mem_ofPairs {pairs : List (Text × α)} {entry : Text × α} (h : entry ∈ ofPairs pairs) : entry ∈ pairs := by
  have hfold : ∀ (pairs : List (Text × α)) (t : Table α),
      entry ∈ pairs.foldl (fun t (k, v) => put k v t) t → entry ∈ t ∨ entry ∈ pairs := by
    intro pairs
    induction pairs with
    | nil => exact fun t h => Or.inl h
    | cons pair pairs ih =>
      intro t h
      rcases ih _ h with h | h
      · rcases mem_put h with rfl | h
        · exact Or.inr (List.mem_cons_self ..)
        · exact Or.inl h
      · exact Or.inr (List.mem_cons_of_mem _ h)
  exact (hfold pairs [] h).resolve_left (List.not_mem_nil)

/-! ## Keys -/

theorem mem_keys_iff {k : Text} {t : Table α} : k ∈ keys t ↔ get? k t ≠ none := by
  induction t with
  | nil => simp [keys, get?]
  | cons e t ih =>
    obtain ⟨j, w⟩ := e
    by_cases hj : j = k
    · simp [keys, get?, hj]
    · simp only [keys, get?, hj, if_false, List.map_cons, List.mem_cons, Ne.symm hj, false_or]
      exact ih

/-- An entry of a table in which no key occurs twice is read under its key. -/
theorem get?_of_mem {t : Table α} (h : (keys t).Nodup) {entry : Text × α} (hentry : entry ∈ t) :
    get? entry.1 t = some entry.2 := by
  induction t with
  | nil => cases hentry
  | cons first t ih =>
    obtain ⟨j, w⟩ := first
    have hkeys := List.nodup_cons.1 h
    rcases List.mem_cons.1 hentry with rfl | hentry
    · exact if_pos rfl
    · have hmem : entry.1 ∈ keys t := List.mem_map.2 ⟨entry, hentry, rfl⟩
      have hne : j ≠ entry.1 := fun he => hkeys.1 (he ▸ hmem)
      rw [get?, if_neg hne]
      exact ih hkeys.2 hentry

theorem nodup_keys_put {k : Text} {v : α} {t : Table α} (h : (keys t).Nodup) : (keys (put k v t)).Nodup := by
  induction t with
  | nil => simp [put, keys]
  | cons e t ih =>
    obtain ⟨j, w⟩ := e
    have ht := List.nodup_cons.1 h
    by_cases hj : j = k
    · simpa [put, hj, keys] using h
    · have hmem : j ∉ keys (put k v t) := by
        rw [mem_keys_iff, get?_put_ne hj]
        exact fun hne => ht.1 (mem_keys_iff.2 hne)
      simp only [put, hj, if_false]
      exact List.nodup_cons.2 ⟨hmem, ih ht.2⟩

theorem nodup_keys_ofPairs (pairs : List (Text × α)) : (keys (ofPairs pairs)).Nodup := by
  have hfold : ∀ (pairs : List (Text × α)) (t : Table α), (keys t).Nodup →
      (keys (pairs.foldl (fun t (k, v) => put k v t) t)).Nodup := by
    intro pairs
    induction pairs with
    | nil => exact fun t h => h
    | cons pair pairs ih => exact fun t h => ih _ (nodup_keys_put h)
  exact hfold pairs [] List.nodup_nil

/-- A key that is not there is written at the end. -/
theorem put_of_not_mem {k : Text} (v : α) {t : Table α} (h : k ∉ keys t) : put k v t = t ++ [(k, v)] := by
  induction t with
  | nil => rfl
  | cons entry t ih =>
    obtain ⟨j, w⟩ := entry
    obtain ⟨hj, ht⟩ := not_or.1 (fun hk => h (List.mem_cons.2 hk))
    rw [put, if_neg (Ne.symm hj), ih ht, List.cons_append]

/-- Pairs with different keys are their own table. -/
theorem ofPairs_of_nodup {pairs : List (Text × α)} (h : (keys pairs).Nodup) : ofPairs pairs = pairs := by
  have hfold : ∀ (pairs : List (Text × α)) (t : Table α), (keys (t ++ pairs)).Nodup →
      pairs.foldl (fun t (k, v) => put k v t) t = t ++ pairs := by
    intro pairs
    induction pairs with
    | nil => exact fun t _ => (List.append_nil t).symm
    | cons pair pairs ih =>
      intro t h
      obtain ⟨k, v⟩ := pair
      have hk : k ∉ keys t := by
        intro hk
        rw [keys, List.map_append, List.map_cons, List.nodup_append] at h
        exact h.2.2 k hk k (List.mem_cons_self ..) rfl
      rw [List.append_cons] at h ⊢
      rw [List.foldl_cons]
      dsimp only
      rw [put_of_not_mem v hk, ih _ h]
  exact hfold pairs [] h

/-- Pairs under other keys leave the value under a key as it is. -/
theorem get?_foldl_put_ne {k : Text} {pairs : List (Text × α)} (h : k ∉ keys pairs) (t : Table α) :
    get? k (pairs.foldl (fun t (k, v) => put k v t) t) = get? k t := by
  induction pairs generalizing t with
  | nil => rfl
  | cons pair pairs ih =>
    obtain ⟨j, w⟩ := pair
    obtain ⟨hj, hpairs⟩ := not_or.1 (fun hk => h (List.mem_cons.2 hk))
    rw [List.foldl_cons, ih hpairs]
    exact get?_put_ne hj w t

theorem get?_ofPairs_of_not_mem {k : Text} {pairs : List (Text × α)} (h : k ∉ keys pairs) : get? k (ofPairs pairs) = none :=
  get?_foldl_put_ne h []

/-- Of the pairs under one key the last one counts. -/
theorem get?_ofPairs_last {k : Text} (v : α) (before : List (Text × α)) {after : List (Text × α)} (h : k ∉ keys after) :
    get? k (ofPairs (before ++ (k, v) :: after)) = some v := by
  rw [ofPairs, List.foldl_append, List.foldl_cons, get?_foldl_put_ne h]
  exact get?_put_self k v _

theorem nodup_keys_erase {k : Text} {t : Table α} (h : (keys t).Nodup) : (keys (erase k t)).Nodup :=
  h.sublist (List.filter_sublist.map _)

/-! ## Erasing -/

theorem not_mem_keys_erase (k : Text) (t : Table α) : k ∉ keys (erase k t) :=
  fun h => mem_keys_iff.1 h (get?_erase_self k t)

theorem erase_of_not_mem {k : Text} {t : Table α} (h : k ∉ keys t) : erase k t = t := by
  apply List.filter_eq_self.2
  intro entry hentry
  have hne : entry.1 ≠ k := fun he => h (he ▸ List.mem_map.2 ⟨entry, hentry, rfl⟩)
  exact bne_iff_ne.2 hne

theorem erase_erase_self (k : Text) (t : Table α) : erase k (erase k t) = erase k t :=
  erase_of_not_mem (not_mem_keys_erase k t)

/-- Writing under a key leaves the entries under all other keys as they are, and in their order. -/
theorem erase_put_self (k : Text) (v : α) (t : Table α) : erase k (put k v t) = erase k t := by
  induction t with
  | nil => simp [erase, put]
  | cons first t ih =>
    obtain ⟨j, w⟩ := first
    by_cases hj : j = k
    · simp [put, erase, hj]
    · rw [put, if_neg hj]
      simp only [erase, List.filter_cons] at ih ⊢
      rw [ih]

end Table

end WebhookBridge
