import Mathlib.Data.List.AList

/-!
# Go maps

The device keeps its resource ledgers in Go maps nested four deep, and its flow table and a flow's
`PbitToGemport` are maps as well. A Go map is modelled by an association list with distinct keys
(`AList`), whose order stands for the iteration order that Go leaves unspecified.

Reading an absent key gives the zero value of the value type, which for a map type is the nil map:
it reads as an empty map, and an assignment into it panics. `get` is the read, `update?` an
assignment into the map stored under a key, which fails on a nil map, and `modify` a `delete`
through such a map, which is a no-op on a nil map. `rangeUpdate` is a `range` loop whose body
changes each value in place, which with values replaces each value by its updated copy.
-/

namespace Bbsim

/-- A Go `map[K]V`. -/
structure GoMap (K V : Type) where
  /-- The entries, in iteration order. -/
  toAList : AList (fun _ : K => V)

namespace GoMap

variable {K V : Type} [DecidableEq K]

instance [DecidableEq V] : DecidableEq (GoMap K V) := fun a b =>
  decidable_of_iff (a.toAList = b.toAList) (by cases a; cases b; simp)

/-- `make(map[K]V)`, and the nil map for reads. -/
instance : EmptyCollection (GoMap K V) := ⟨⟨∅⟩⟩

instance : Inhabited (GoMap K V) := ⟨∅⟩

/-- The entries that `for k, v := range m` visits. -/
def entries (m : GoMap K V) : List (Σ _ : K, V) := m.toAList.entries

/-- `v, ok := m[k]`: the value at `k` when `ok`. -/
def lookup (m : GoMap K V) (k : K) : Option V := m.toAList.lookup k

instance : Membership K (GoMap K V) := ⟨fun m k => k ∈ m.toAList⟩

instance (k : K) (m : GoMap K V) : Decidable (k ∈ m) := inferInstanceAs (Decidable (k ∈ m.toAList))

/-- `m[k]` as an expression: the zero value `default` when `k` is absent. -/
def get [Inhabited V] (m : GoMap K V) (k : K) : V := (m.lookup k).getD default

/-- `m[k] = v`. -/
def set (m : GoMap K V) (k : K) (v : V) : GoMap K V := ⟨m.toAList.insert k v⟩

/-- `delete(m, k)`. -/
def delete (m : GoMap K V) (k : K) : GoMap K V := ⟨m.toAList.erase k⟩

/-- `len(m) == 0`. -/
def isEmpty (m : GoMap K V) : Bool := m.entries.isEmpty

/-- An assignment `m[k][...] = ...` into the map stored at `k`: `g` is the assignment on that
map, and the whole panics (`none`) when `k` is absent, since `m[k]` is then a nil map. -/
def update? (m : GoMap K V) (k : K) (g : V → Option V) : Option (GoMap K V) :=
  (m.lookup k).bind fun v => (g v).map (m.set k)

/-- `delete(m[k], ...)` and the like: `g` changes the map stored at `k`, and nothing happens when
`k` is absent, since a `delete` on a nil map is a no-op. -/
def modify (m : GoMap K V) (k : K) (g : V → V) : GoMap K V :=
  match m.lookup k with
  | none => m
  | some v => m.set k (g v)

/-- `for k, v := range m { ... }` whose body changes the value `v` in place, as the outer loops of
the ledgers' `free` do: each value is replaced by its updated copy `g k v`. -/
def rangeUpdate (m : GoMap K V) (g : K → V → V) : GoMap K V :=
  m.entries.foldl (fun acc e => acc.set e.1 (g e.1 e.2)) m

/-! ## Reads after writes -/

@[simp] theorem lookup_empty (k : K) : (∅ : GoMap K V).lookup k = none := rfl

omit [DecidableEq K] in
@[simp] theorem default_eq_empty : (default : GoMap K V) = ∅ := rfl

theorem lookup_eq_dlookup (m : GoMap K V) (k : K) : m.lookup k = m.entries.dlookup k := rfl

@[simp] theorem lookup_set_self (m : GoMap K V) (k : K) (v : V) : (m.set k v).lookup k = some v :=
  AList.lookup_insert _

@[simp] theorem lookup_set_ne (m : GoMap K V) {k k' : K} (v : V) (h : k' ≠ k) :
    (m.set k v).lookup k' = m.lookup k' :=
  AList.lookup_insert_ne h

theorem lookup_set (m : GoMap K V) (k k' : K) (v : V) :
    (m.set k v).lookup k' = if k' = k then some v else m.lookup k' := by
  split_ifs with h
  · subst h; simp
  · simp [h]

@[simp] theorem lookup_delete_self (m : GoMap K V) (k : K) : (m.delete k).lookup k = none :=
  AList.lookup_erase _ _

@[simp] theorem lookup_delete_ne (m : GoMap K V) {k k' : K} (h : k' ≠ k) :
    (m.delete k).lookup k' = m.lookup k' :=
  AList.lookup_erase_ne h

theorem lookup_delete (m : GoMap K V) (k k' : K) :
    (m.delete k).lookup k' = if k' = k then none else m.lookup k' := by
  split_ifs with h
  · subst h; simp
  · simp [h]

theorem mem_iff_lookup (m : GoMap K V) (k : K) : k ∈ m ↔ (m.lookup k).isSome :=
  AList.lookup_isSome.symm

omit [DecidableEq K] in
@[simp] theorem not_mem_empty (k : K) : k ∉ (∅ : GoMap K V) := AList.not_mem_empty k

@[simp] theorem mem_set (m : GoMap K V) (k k' : K) (v : V) : k' ∈ m.set k v ↔ k' = k ∨ k' ∈ m :=
  AList.mem_insert _

@[simp] theorem mem_delete (m : GoMap K V) (k k' : K) : k' ∈ m.delete k ↔ k' ≠ k ∧ k' ∈ m :=
  AList.mem_erase

theorem mk_mem_entries (m : GoMap K V) {k : K} {v : V} : ⟨k, v⟩ ∈ m.entries ↔ m.lookup k = some v :=
  AList.mem_lookup_iff.symm

omit [DecidableEq K] in
@[simp] theorem entries_empty : (∅ : GoMap K V).entries = [] := rfl

theorem mem_iff_entries (m : GoMap K V) (k : K) : k ∈ m ↔ ∃ e ∈ m.entries, e.1 = k := by
  rw [mem_iff_lookup, Option.isSome_iff_exists]
  constructor
  · rintro ⟨v, hv⟩
    exact ⟨⟨k, v⟩, (mk_mem_entries m).mpr hv, rfl⟩
  · rintro ⟨⟨k', v⟩, he, rfl⟩
    exact ⟨v, (mk_mem_entries m).mp he⟩

@[simp] theorem get_empty [Inhabited V] (k : K) : (∅ : GoMap K V).get k = default := rfl

@[simp] theorem get_set_self [Inhabited V] (m : GoMap K V) (k : K) (v : V) : (m.set k v).get k = v := by
  simp [get]

@[simp] theorem get_set_ne [Inhabited V] (m : GoMap K V) {k k' : K} (v : V) (h : k' ≠ k) :
    (m.set k v).get k' = m.get k' := by
  simp [get, h]

theorem get_of_lookup [Inhabited V] {m : GoMap K V} {k : K} {v : V} (h : m.lookup k = some v) :
    m.get k = v := by
  simp [get, h]

theorem get_of_lookup_none [Inhabited V] {m : GoMap K V} {k : K} (h : m.lookup k = none) :
    m.get k = default := by
  simp [get, h]

theorem update?_of_lookup {m : GoMap K V} {k : K} {v : V} (g : V → Option V)
    (h : m.lookup k = some v) : m.update? k g = (g v).map (m.set k) := by
  simp [update?, h]

theorem update?_of_lookup_none {m : GoMap K V} {k : K} (g : V → Option V)
    (h : m.lookup k = none) : m.update? k g = none := by
  simp [update?, h]

/-- The entries of a map read out of an outer map are those of the value under its key. -/
theorem mem_entries_get {K' V' : Type} (m : GoMap K (GoMap K' V')) (k : K) (x : Σ _ : K', V') :
    x ∈ (m.get k).entries ↔ ∃ e ∈ m.entries, e.1 = k ∧ x ∈ e.2.entries := by
  constructor
  · intro hx
    cases h : m.lookup k with
    | none => simp [get_of_lookup_none h] at hx
    | some v => rw [get_of_lookup h] at hx; exact ⟨⟨k, v⟩, (mk_mem_entries m).mpr h, rfl, hx⟩
  · rintro ⟨⟨k', v⟩, he, rfl, hx⟩
    rwa [get_of_lookup ((mk_mem_entries m).mp he)]

theorem lookup_update? {m m' : GoMap K V} {k : K} {g : V → Option V}
    (h : m.update? k g = some m') :
    ∃ v v', m.lookup k = some v ∧ g v = some v' ∧ m' = m.set k v' := by
  simp only [update?, Option.bind_eq_some, Option.map_eq_some'] at h
  obtain ⟨v, hv, v', hg, rfl⟩ := h
  exact ⟨v, v', hv, hg, rfl⟩

theorem update?_eq_none {m : GoMap K V} {k : K} {g : V → Option V} :
    m.update? k g = none ↔ ∀ v, m.lookup k = some v → g v = none := by
  unfold update?
  cases m.lookup k <;> simp

theorem lookup_modify (m : GoMap K V) (k k' : K) (g : V → V) :
    (m.modify k g).lookup k' = if k' = k then (m.lookup k).map g else m.lookup k' := by
  unfold modify
  split <;> rename_i h <;> split_ifs with hk <;> simp_all [lookup_set]

theorem delete_of_not_mem {m : GoMap K V} {k : K} (h : k ∉ m) : m.delete k = m := by
  unfold delete
  congr 1
  exact AList.ext (List.kerase_of_not_mem_keys h)

/-- Deleting a key just assigned deletes what was there before the assignment. -/
@[simp] theorem delete_set_self (m : GoMap K V) (k : K) (v : V) :
    (m.set k v).delete k = m.delete k := by
  unfold delete set
  congr 1
  exact AList.ext (List.kerase_cons_eq rfl)

theorem isEmpty_iff (m : GoMap K V) : m.isEmpty = true ↔ ∀ k, m.lookup k = none := by
  simp only [isEmpty, List.isEmpty_iff, entries, lookup]
  constructor
  · intro h k
    rw [AList.lookup, h]; rfl
  · intro h
    cases hs : m.toAList.entries with
    | nil => rfl
    | cons s l =>
      have := h s.1
      rw [AList.lookup, hs, List.dlookup_cons_eq] at this
      cases this

theorem isEmpty_iff_not_mem (m : GoMap K V) : m.isEmpty = true ↔ ∀ k, k ∉ m := by
  simp [isEmpty_iff, mem_iff_lookup, Option.isSome_iff_ne_none]

/-! ## The `range` loop that updates in place -/

/-- After a prefix of the loop, the keys it visited hold their updated values. -/
private theorem lookup_foldl_set (g : K → V → V) :
    ∀ (l : List (Σ _ : K, V)) (acc : GoMap K V) (k : K), l.NodupKeys →
      (l.foldl (fun acc e => acc.set e.1 (g e.1 e.2)) acc).lookup k =
        match l.dlookup k with
        | some v => some (g k v)
        | none => acc.lookup k
  | [], acc, k, _ => rfl
  | e :: l, acc, k, nd => by
    rw [List.nodupKeys_cons] at nd
    simp only [List.foldl_cons]
    rw [lookup_foldl_set g l _ k nd.2]
    by_cases hk : k = e.1
    · subst hk
      rw [List.dlookup_eq_none.mpr nd.1, List.dlookup_cons_eq]
      simp
    · rw [List.dlookup_cons_ne _ _ hk]
      cases l.dlookup k <;> simp [lookup_set_ne _ _ hk]

theorem lookup_rangeUpdate (m : GoMap K V) (g : K → V → V) (k : K) :
    (m.rangeUpdate g).lookup k = (m.lookup k).map (g k) := by
  unfold rangeUpdate
  rw [lookup_foldl_set g m.entries m k m.toAList.nodupKeys]
  show _ = (m.entries.dlookup k).map (g k)
  cases h : m.entries.dlookup k
  · simpa [lookup] using h
  · rfl

/-- The loop that updates in place keeps the map's keys. -/
theorem mem_rangeUpdate (m : GoMap K V) (g : K → V → V) (k : K) : k ∈ m.rangeUpdate g ↔ k ∈ m := by
  simp only [mem_iff_lookup, lookup_rangeUpdate, Option.isSome_map']

/-- A loop body that keeps the zero value keeps reads of absent keys as they are. -/
theorem get_rangeUpdate [Inhabited V] (m : GoMap K V) (g : K → V → V) (k : K)
    (hg : g k default = default) : (m.rangeUpdate g).get k = g k (m.get k) := by
  simp only [get, lookup_rangeUpdate]
  cases m.lookup k <;> simp [hg]

@[simp] theorem rangeUpdate_empty (g : K → V → V) : (∅ : GoMap K V).rangeUpdate g = ∅ := rfl

end GoMap

end Bbsim
