import Mathlib.Data.Finmap
import Mathlib.Data.List.MinMax
import Mathlib.Data.List.Sort

/-!
# Rust's maps

A `HashMap` is read in two ways. Where only its content is observed it is a `HashMap`, Mathlib's
`Finmap`: two maps with the same entries are equal. Where a program walks over it, the order of
the walk is observed too, and it is a `HashTable`, Mathlib's `AList`, whose `entries` list is that
order. Rust leaves the order to the hasher's random seed: `RandomState` is such a seed, an
arbitrary rearrangement, and a law that holds for every `RandomState` holds for every order.

A `BTreeMap` is a `HashTable` walked by key; `BTreeMap.nextBack` is `iter().next_back()` and
`BTreeMap.valuesRev` is `values().rev()`.
-/

namespace RustStd

universe u v w

/-- `HashMap<K, V>` as a value: only lookups are observed. -/
abbrev HashMap (K : Type u) (V : Type v) := Finmap fun _ : K => V

/-- `HashMap<K, V>` as a table that is walked over: `entries` is the order of the walk. -/
abbrev HashTable (K : Type u) (V : Type v) := AList fun _ : K => V

/-- The order a hasher's random seed gives to the entries of a table. -/
structure RandomState (α : Type u) where
  arrange : List α → List α
  arrange_perm : ∀ l, (arrange l).Perm l

/-- The seed that leaves the entries where they are. -/
def RandomState.identity (α : Type u) : RandomState α := ⟨id, fun _ => .refl _⟩

/-- A seed that reverses every walk. -/
def RandomState.reversed (α : Type u) : RandomState α := ⟨List.reverse, List.reverse_perm⟩

/-- A rearranged list has the same members. -/
@[simp] theorem RandomState.mem_arrange {α : Type u} (rs : RandomState α) {a : α} {l : List α} :
    a ∈ rs.arrange l ↔ a ∈ l :=
  (rs.arrange_perm l).mem_iff

/-- Every rearrangement of one list is the work of some seed. -/
theorem RandomState.exists_arrange {α : Type u} {l l' : List α} (h : l'.Perm l) :
    ∃ rs : RandomState α, rs.arrange l = l' := by
  classical
  refine ⟨⟨fun m => if m = l then l' else m, fun m => ?_⟩, by simp⟩
  by_cases hm : m = l
  · simpa [hm] using h
  · simp [hm]

section Lookup
variable {K : Type u} {V : Type v} [DecidableEq K]

/-! ## Lookups after an insertion or a removal, as one equation each -/

/-- What is inserted is found under its key. -/
theorem HashMap.lookup_insert (m : HashMap K V) (k k' : K) (v : V) :
    (m.insert k v).lookup k' = if k' = k then some v else m.lookup k' := by
  split
  · next h => rw [h, Finmap.lookup_insert]
  · next h => rw [Finmap.lookup_insert_of_ne _ h]

/-- What is erased is not found. -/
theorem HashMap.lookup_erase (m : HashMap K V) (k k' : K) :
    (m.erase k).lookup k' = if k' = k then none else m.lookup k' := by
  split
  · next h => rw [h, Finmap.lookup_erase]
  · next h => rw [Finmap.lookup_erase_ne h]

/-- What is inserted is found under its key. -/
theorem HashTable.lookup_insert (m : HashTable K V) (k k' : K) (v : V) :
    (m.insert k v).lookup k' = if k' = k then some v else m.lookup k' := by
  split
  · next h => rw [h, AList.lookup_insert]
  · next h => rw [AList.lookup_insert_ne h]

/-- What is erased is not found. -/
theorem HashTable.lookup_erase (m : HashTable K V) (k k' : K) :
    (m.erase k).lookup k' = if k' = k then none else m.lookup k' := by
  split
  · next h => rw [h, AList.lookup_erase]
  · next h => rw [AList.lookup_erase_ne h]

@[simp] theorem HashTable.lookup_singleton (k k' : K) (v : V) :
    AList.lookup k' (AList.singleton k v : HashTable K V) = if k' = k then some v else none := by
  rw [← AList.insert_empty, HashTable.lookup_insert, AList.lookup_empty]

/-- An empty table has no keys. -/
theorem HashTable.lookup_of_entries_eq_nil {m : HashTable K V} (h : m.entries = []) (k : K) :
    m.lookup k = none := by
  have : m = ∅ := AList.ext h
  rw [this, AList.lookup_empty]

/-- As many entries of a list are entries of the table as the table has, exactly if the list has
every entry of the table. -/
theorem HashTable.length_filter_eq_iff [DecidableEq V] (m : HashTable K V)
    {entries : List (Sigma fun _ : K => V)} (h : entries.NodupKeys) :
    (entries.filter fun e => m.lookup e.1 = some e.2).length = m.entries.length ↔
      ∀ k v, m.lookup k = some v → ⟨k, v⟩ ∈ entries := by
  have hshared : ∀ e, e ∈ (entries.filter fun e => m.lookup e.1 = some e.2) ↔
      e ∈ entries ∧ e ∈ m.entries := by
    intro e
    rw [List.mem_filter, decide_eq_true_eq, ← Option.mem_def, AList.mem_lookup_iff]
  have hsub : (entries.filter fun e => m.lookup e.1 = some e.2) ⊆ m.entries :=
    fun e he => ((hshared e).1 he).2
  constructor
  · intro hlen k v hkv
    have hperm := (List.subperm_of_subset (h.nodup.filter _) hsub).perm_of_length_le hlen.ge
    exact ((hshared _).1 (hperm.symm.subset (AList.mem_lookup_iff.1 hkv))).1
  · intro hall
    refine ((List.perm_ext_iff_of_nodup (h.nodup.filter _) m.nodupKeys.nodup).2 ?_).length_eq
    intro e
    rw [hshared]
    exact ⟨And.right, fun he => ⟨hall e.1 e.2 (AList.mem_lookup_iff.2 he), he⟩⟩

/-! ## Tables of tables -/

/-- `outer.get(k).and_then(|inner| inner.get(l))`. -/
def HashTable.lookup₂ {L : Type w} [DecidableEq L] (m : HashTable K (HashTable L V)) (k : K)
    (l : L) : Option V :=
  (m.lookup k).bind fun inner => inner.lookup l

section Nested
variable {L : Type w} [DecidableEq L] (m : HashTable K (HashTable L V))

/-- An inner table that is inserted replaces the one under its key. -/
theorem HashTable.lookup₂_insert (k k' : K) (inner : HashTable L V) (l : L) :
    HashTable.lookup₂ (m.insert k inner) k' l =
      if k' = k then inner.lookup l else HashTable.lookup₂ m k' l := by
  rw [HashTable.lookup₂, HashTable.lookup_insert]
  split <;> rfl

/-- Dropping an inner table that became empty looks the same as storing it. -/
theorem HashTable.lookup₂_erase_of_empty (k k' : K) {inner : HashTable L V}
    (h : inner.entries = []) (l : L) :
    HashTable.lookup₂ (m.erase k) k' l =
      if k' = k then inner.lookup l else HashTable.lookup₂ m k' l := by
  rw [HashTable.lookup₂, HashTable.lookup_erase]
  split
  · rw [HashTable.lookup_of_entries_eq_nil h]
    rfl
  · rfl

/-- Storing an inner table, or dropping it where it became empty. -/
theorem HashTable.lookup₂_store (k k' : K) {inner : HashTable L V} {drop : Prop} [Decidable drop]
    (h : drop → inner.entries = []) (l : L) :
    HashTable.lookup₂ (if drop then m.erase k else m.insert k inner) k' l =
      if k' = k then inner.lookup l else HashTable.lookup₂ m k' l := by
  by_cases hd : drop
  · rw [if_pos hd, HashTable.lookup₂_erase_of_empty m k k' (h hd)]
  · rw [if_neg hd, HashTable.lookup₂_insert]

/-- Storing into the inner table of a key, which `or_default` creates where it is missing. -/
theorem HashTable.lookup_getD_empty (k : K) (l : L) :
    ((m.lookup k).getD ∅).lookup l = HashTable.lookup₂ m k l := by
  unfold HashTable.lookup₂
  cases m.lookup k <;> simp

end Nested

/-- A table with a seed's own order. -/
def HashTable.reseed (rs : RandomState (Sigma fun _ : K => V)) (m : HashTable K V) :
    HashTable K V :=
  ⟨rs.arrange m.entries, (List.perm_nodupKeys (rs.arrange_perm m.entries)).2 m.nodupKeys⟩

@[simp] theorem HashTable.lookup_reseed (rs : RandomState (Sigma fun _ : K => V))
    (m : HashTable K V) (k : K) : (m.reseed rs).lookup k = m.lookup k :=
  AList.perm_lookup (rs.arrange_perm m.entries)

/-! ## Walks that build a new table -/

/-- `HashMap::retain`. -/
def HashTable.retain (p : K → V → Bool) (m : HashTable K V) : HashTable K V :=
  ⟨m.entries.filter fun e => p e.1 e.2, m.nodupKeys.sublist List.filter_sublist⟩

/-- An entry is kept if it is to be retained. -/
theorem HashTable.lookup_retain (p : K → V → Bool) (m : HashTable K V) (k : K) :
    (m.retain p).lookup k = (m.lookup k).filter (p k) := by
  ext v
  rw [Option.filter_eq_some_iff, ← Option.mem_def, ← Option.mem_def, AList.mem_lookup_iff,
    AList.mem_lookup_iff, HashTable.retain, List.mem_filter]

/-- `iter().filter_map(..).collect()`, where the key of an entry stays. -/
def HashTable.filterMapValues {W : Type w} (f : K → V → Option W) (m : HashTable K V) :
    HashTable K W where
  entries := m.entries.filterMap fun e => (f e.1 e.2).map (Sigma.mk e.1)
  nodupKeys := by
    refine List.nodupKeys_iff_pairwise.2 (List.Pairwise.filterMap _ ?_
      (List.nodupKeys_iff_pairwise.1 m.nodupKeys))
    intro e e' hne b hb b' hb'
    obtain ⟨_, -, rfl⟩ := Option.map_eq_some_iff.1 hb
    obtain ⟨_, -, rfl⟩ := Option.map_eq_some_iff.1 hb'
    exact hne

/-- A value is mapped, or dropped. -/
theorem HashTable.lookup_filterMapValues {W : Type w} (f : K → V → Option W) (m : HashTable K V)
    (k : K) : (m.filterMapValues f).lookup k = (m.lookup k).bind (f k) := by
  ext x
  rw [Option.bind_eq_some_iff, ← Option.mem_def, AList.mem_lookup_iff]
  simp only [HashTable.filterMapValues, List.mem_filterMap, Option.map_eq_some_iff]
  constructor
  · rintro ⟨⟨k', v⟩, hmem, y, hy, heq⟩
    cases heq
    exact ⟨v, AList.mem_lookup_iff.2 hmem, hy⟩
  · rintro ⟨v, hmem, hx⟩
    exact ⟨⟨k, v⟩, AList.mem_lookup_iff.1 hmem, x, hx, rfl⟩

/-- A loop over `iter_mut` that assigns to every value. -/
def HashTable.mapValues (f : K → V → V) (m : HashTable K V) : HashTable K V :=
  ⟨m.entries.map fun e => ⟨e.1, f e.1 e.2⟩, List.NodupKeys.map₂ (fun k => f k) _ m.nodupKeys⟩

/-- A value is mapped. -/
theorem HashTable.lookup_mapValues (f : K → V → V) (m : HashTable K V) (k : K) :
    (m.mapValues f).lookup k = (m.lookup k).map (f k) :=
  List.dlookup_map₂ k

/-- `get_mut` followed by an assignment through the reference. -/
def HashTable.modify (k : K) (f : V → V) (m : HashTable K V) : HashTable K V :=
  m.mapValues fun k' v => if k' = k then f v else v

/-- The value under a key is modified, if there is one. -/
theorem HashTable.lookup_modify (k : K) (f : V → V) (m : HashTable K V) (k' : K) :
    (m.modify k f).lookup k' = if k' = k then (m.lookup k').map f else m.lookup k' := by
  rw [HashTable.modify, HashTable.lookup_mapValues]
  split <;> simp

/-- `iter().collect()` of a list of pairs: a later pair replaces an earlier one of its key. -/
def HashTable.collect (l : List (K × V)) : HashTable K V :=
  l.foldl (fun m e => m.insert e.1 e.2) ∅

/-- A key collected from a list is a key of the list, and its value stands beside it. -/
theorem HashTable.mem_of_lookup_collect {l : List (K × V)} {k : K} {v : V}
    (h : (HashTable.collect l).lookup k = some v) : (k, v) ∈ l := by
  have key : ∀ (l : List (K × V)) (m : HashTable K V),
      (l.foldl (fun m e => m.insert e.1 e.2) m).lookup k = some v →
        (k, v) ∈ l ∨ m.lookup k = some v := by
    intro l
    induction l with
    | nil => exact fun m h => .inr h
    | cons e l ih =>
      intro m h
      rcases ih _ h with h | h
      · exact .inl (List.mem_cons_of_mem _ h)
      · rw [HashTable.lookup_insert] at h
        split at h
        · next heq => cases h; exact .inl (heq ▸ List.mem_cons_self)
        · exact .inr h
  rcases key l ∅ h with h | h
  · exact h
  · simp at h

/-- The value of a key is the last one of the list. -/
theorem HashTable.lookup_collect (l : List (K × V)) (k : K) :
    (HashTable.collect l).lookup k = (l.reverse.find? fun e => e.1 = k).map Prod.snd := by
  induction l using List.reverseRecOn with
  | nil => rfl
  | append_singleton l e ih =>
    rw [HashTable.collect, List.foldl_append, List.foldl_cons, List.foldl_nil,
      HashTable.lookup_insert, List.reverse_append, List.reverse_singleton, List.singleton_append,
      List.find?_cons]
    by_cases hk : k = e.1
    · rw [if_pos hk, decide_eq_true hk.symm]
      rfl
    · rw [if_neg hk, decide_eq_false (Ne.symm hk)]
      exact ih

/-- Every key of the list is a key of the collected table. -/
theorem HashTable.exists_lookup_collect {l : List (K × V)} {k : K} {v : V} (h : (k, v) ∈ l) :
    ∃ v', (HashTable.collect l).lookup k = some v' := by
  have key : ∀ (l : List (K × V)) (m : HashTable K V), (k, v) ∈ l ∨ k ∈ m →
      k ∈ l.foldl (fun m e => m.insert e.1 e.2) m := by
    intro l
    induction l with
    | nil => exact fun m hm => hm.resolve_left List.not_mem_nil
    | cons e l ih =>
      intro m hm
      refine ih _ ?_
      rcases hm with hm | hm
      · rcases List.mem_cons.1 hm with rfl | hm
        · exact .inr ((AList.mem_insert _).2 (.inl rfl))
        · exact .inl hm
      · exact .inr ((AList.mem_insert _).2 (.inr hm))
  exact Option.isSome_iff_exists.1 (AList.lookup_isSome.2 (key l ∅ (.inl h)))

end Lookup

/-! ## Ordered maps -/

/-- `BTreeMap<K, V>`: walked in the order of its keys. -/
abbrev BTreeMap (K : Type u) (V : Type v) := HashTable K V

section Ordered
variable {K : Type u} {V : Type v} [LinearOrder K]

/-- `iter().next_back()`: the entry of the greatest key. -/
def BTreeMap.nextBack (m : BTreeMap K V) : Option (Sigma fun _ : K => V) :=
  m.entries.argmax Sigma.fst

/-- The last entry is an entry, so its key looks it up. -/
theorem BTreeMap.lookup_of_nextBack {m : BTreeMap K V} {e : Sigma fun _ : K => V}
    (h : m.nextBack = some e) : m.lookup e.1 = some e.2 :=
  AList.mem_lookup_iff.2 (List.argmax_mem h)

/-- An entry inserted above every key is the last one. -/
theorem BTreeMap.nextBack_insert {m : BTreeMap K V} {k : K} (v : V)
    (h : ∀ k' ∈ m, k' < k) : BTreeMap.nextBack (m.insert k v) = some ⟨k, v⟩ := by
  have hk : k ∉ m := fun hm => lt_irrefl k (h k hm)
  rw [BTreeMap.nextBack, AList.entries_insert_of_notMem hk, List.argmax_cons]
  cases hmax : m.entries.argmax Sigma.fst with
  | none => rfl
  | some e =>
    have hlt : e.1 < k := h e.1 (List.mem_keys_of_mem (List.argmax_mem hmax))
    simp [not_lt.2 hlt.le]

/-- `values().rev()`: the values, by descending keys. -/
def BTreeMap.valuesRev (m : BTreeMap K V) : List V :=
  (m.entries.insertionSort fun e e' => e'.1 ≤ e.1).map Sigma.snd

/-- What is looked for from the back is at the greatest key that has it. -/
theorem BTreeMap.find?_valuesRev_eq_some {m : BTreeMap K V} {p : V → Bool} {v : V}
    (h : (BTreeMap.valuesRev m).find? p = some v) :
    ∃ k, m.lookup k = some v ∧ p v = true ∧
      ∀ k' v', m.lookup k' = some v' → p v' = true → k' ≤ k := by
  rw [BTreeMap.valuesRev, List.find?_map, Option.map_eq_some_iff] at h
  obtain ⟨e, hfind, rfl⟩ := h
  obtain ⟨hp, before, after, hsorted, hbefore⟩ := List.find?_eq_some_iff_append.1 hfind
  have hmem : ∀ e', e' ∈ m.entries ↔ e' ∈ before ∨ e' = e ∨ e' ∈ after := by
    intro e'
    rw [← List.mem_insertionSort (fun e e' : Sigma fun _ : K => V => e'.1 ≤ e.1), hsorted,
      List.mem_append, List.mem_cons]
  have : Std.Total fun e e' : Sigma fun _ : K => V => e'.1 ≤ e.1 :=
    ⟨fun e e' => le_total e'.1 e.1⟩
  have : IsTrans (Sigma fun _ : K => V) fun e e' => e'.1 ≤ e.1 :=
    ⟨fun _ _ _ h h' => h'.trans h⟩
  have hpairwise := List.pairwise_insertionSort (fun e e' : Sigma fun _ : K => V => e'.1 ≤ e.1)
    m.entries
  rw [hsorted, List.pairwise_append, List.pairwise_cons] at hpairwise
  refine ⟨e.1, AList.mem_lookup_iff.2 ((hmem e).2 (.inr (.inl rfl))), hp, fun k' v' hk hv => ?_⟩
  rcases (hmem ⟨k', v'⟩).1 (AList.mem_lookup_iff.1 hk) with hin | rfl | hin
  · have := hbefore _ hin
    simp [hv] at this
  · exact le_rfl
  · exact hpairwise.2.1.1 _ hin

/-- Nothing is found where no value has it. -/
theorem BTreeMap.find?_valuesRev_eq_none {m : BTreeMap K V} {p : V → Bool}
    (h : (BTreeMap.valuesRev m).find? p = none) {k : K} {v : V} (hk : m.lookup k = some v) :
    p v = false := by
  refine Bool.eq_false_iff.2 (List.find?_eq_none.1 h v (List.mem_map.2 ⟨⟨k, v⟩, ?_, rfl⟩))
  rw [List.mem_insertionSort]
  exact AList.mem_lookup_iff.1 hk

end Ordered

end RustStd
