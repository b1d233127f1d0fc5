/-
  Foundation/FinMap.lean --- finite maps with a canonical representation.

  A finite map is its list of entries in strictly increasing key order.  The
  order is a field of the structure, so two maps with the same lookups are
  equal (`FinMap.ext_find?`) and a map can be compared and evaluated.

  The canonical order is a property of the representation only.  A program that
  walks a hash map sees its entries in some unspecified order; `FinMap.iteration`
  takes that order as an argument, so a statement over all of its arguments is a
  statement over all iteration orders.
-/
import Mathlib.Data.List.Pairwise
import Mathlib.Data.List.Sort
import Mathlib.Data.List.Perm.Basic

set_option autoImplicit false

namespace CollectiveScheduler.Foundation

/-- A finite map from `K` to `V`, as its entries in increasing key order. -/
structure FinMap (K V : Type) [LinearOrder K] where
  /-- the entries -/
  entries : List (K × V)
  /-- keys strictly increase along the list -/
  ordered : entries.Pairwise (fun a b => a.1 < b.1)
  deriving DecidableEq

namespace FinMap

variable {K V W : Type} [LinearOrder K]

/-! ## Operations on entry lists -/

/-- The value stored under a key. -/
def lookupEntry (k : K) : List (K × V) → Option V
  | [] => none
  | (k', v) :: rest => if k = k' then some v else lookupEntry k rest

/-- Ordered insertion, replacing the entry of an equal key. -/
def insertEntry (k : K) (v : V) : List (K × V) → List (K × V)
  | [] => [(k, v)]
  | (k', v') :: rest =>
      if k < k' then (k, v) :: (k', v') :: rest
      else if k = k' then (k, v) :: rest
      else (k', v') :: insertEntry k v rest

theorem mem_insertEntry {k : K} {v : V} {e : K × V} {l : List (K × V)}
    (h : e ∈ insertEntry k v l) : e = (k, v) ∨ e ∈ l := by
  induction l with
  | nil => simpa [insertEntry] using h
  | cons head rest ih =>
      obtain ⟨k', v'⟩ := head
      rw [insertEntry] at h
      split_ifs at h with hlt heq
      · simpa using h
      · rcases List.mem_cons.mp h with h | h
        · exact .inl h
        · exact .inr (List.mem_cons_of_mem _ h)
      · rcases List.mem_cons.mp h with h | h
        · exact .inr (h ▸ List.mem_cons_self)
        · exact (ih h).imp id (List.mem_cons_of_mem _)

theorem ordered_insertEntry (k : K) (v : V) {l : List (K × V)}
    (h : l.Pairwise (fun a b => a.1 < b.1)) :
    (insertEntry k v l).Pairwise (fun a b => a.1 < b.1) := by
  induction l with
  | nil => simp [insertEntry]
  | cons head rest ih =>
      obtain ⟨k', v'⟩ := head
      have hrest := List.pairwise_cons.mp h
      rw [insertEntry]
      split_ifs with hlt heq
      · refine List.pairwise_cons.mpr ⟨?_, h⟩
        intro e he
        rcases List.mem_cons.mp he with rfl | he
        · exact hlt
        · exact hlt.trans (hrest.1 e he)
      · subst heq
        exact List.pairwise_cons.mpr ⟨hrest.1, hrest.2⟩
      · refine List.pairwise_cons.mpr ⟨?_, ih hrest.2⟩
        intro e he
        rcases mem_insertEntry he with rfl | he
        · exact lt_of_le_of_ne (not_lt.mp hlt) (Ne.symm heq)
        · exact hrest.1 e he

theorem lookupEntry_insertEntry (k k' : K) (v : V) (l : List (K × V)) :
    lookupEntry k' (insertEntry k v l) = if k' = k then some v else lookupEntry k' l := by
  induction l with
  | nil => simp [insertEntry, lookupEntry]
  | cons head rest ih =>
      obtain ⟨k₀, v₀⟩ := head
      rw [insertEntry]
      split_ifs with hlt heq hk hk hk <;>
        simp_all [lookupEntry]

theorem lookupEntry_filter_ne (k k' : K) (l : List (K × V)) :
    lookupEntry k' (l.filter (fun e => e.1 ≠ k)) =
      if k' = k then none else lookupEntry k' l := by
  induction l with
  | nil => simp [lookupEntry]
  | cons head rest ih =>
      obtain ⟨k₀, v₀⟩ := head
      by_cases h₀ : k₀ = k
      · subst h₀
        rw [List.filter_cons_of_neg (by simp), ih]
        split_ifs with hk <;> simp [lookupEntry, hk]
      · rw [List.filter_cons_of_pos (by simpa using h₀), lookupEntry, ih, lookupEntry]
        split_ifs with h₁ h₂ <;> simp_all

theorem lookupEntry_map (f : K → V → W) (k : K) (l : List (K × V)) :
    lookupEntry k (l.map (fun e => (e.1, f e.1 e.2))) = (lookupEntry k l).map (f k) := by
  induction l with
  | nil => rfl
  | cons head rest ih =>
      obtain ⟨k₀, v₀⟩ := head
      by_cases hk : k = k₀ <;> simp [lookupEntry, hk, ih]

/-- In an ordered list every entry is found under its own key. -/
theorem lookupEntry_eq_some_iff {k : K} {v : V} {l : List (K × V)}
    (h : l.Pairwise (fun a b => a.1 < b.1)) :
    lookupEntry k l = some v ↔ (k, v) ∈ l := by
  induction l with
  | nil => simp [lookupEntry]
  | cons head rest ih =>
      obtain ⟨k₀, v₀⟩ := head
      have hrest := List.pairwise_cons.mp h
      by_cases hk : k = k₀
      · subst hk
        have hnot : (k, v) ∉ rest := fun hmem => lt_irrefl k (hrest.1 _ hmem)
        simp [lookupEntry, hnot, eq_comm]
      · simp [lookupEntry, hk, ih hrest.2]

/-! ## The map operations -/

/-- The empty map. -/
def empty : FinMap K V := ⟨[], List.Pairwise.nil⟩

/-- The value stored under a key. -/
def find? (m : FinMap K V) (k : K) : Option V := lookupEntry k m.entries

/-- Whether a key is present. -/
def contains (m : FinMap K V) (k : K) : Bool := (m.find? k).isSome

/-- Store a value, replacing what the key held. -/
def insert (m : FinMap K V) (k : K) (v : V) : FinMap K V :=
  ⟨insertEntry k v m.entries, ordered_insertEntry k v m.ordered⟩

/-- Store a value only under an absent key. -/
def emplace (m : FinMap K V) (k : K) (v : V) : FinMap K V :=
  if m.contains k then m else m.insert k v

/-- Remove a key. -/
def erase (m : FinMap K V) (k : K) : FinMap K V :=
  ⟨m.entries.filter (fun e => e.1 ≠ k), m.ordered.filter _⟩

/-- Rewrite every value, in place. -/
def mapVals (m : FinMap K V) (f : K → V → W) : FinMap K W :=
  ⟨m.entries.map (fun e => (e.1, f e.1 e.2)),
    m.ordered.map _ (fun _ _ h => h)⟩

/-- Rewrite the value of one key, in place. -/
def modify (m : FinMap K V) (k : K) (f : V → V) : FinMap K V :=
  m.mapVals (fun k' v => if k' = k then f v else v)

/-- Rewrite the values of the listed keys, one after the other. -/
def modifyAll (m : FinMap K V) (ks : List K) (f : K → V → V) : FinMap K V :=
  ks.foldl (fun m k => m.modify k (f k)) m

/-- The keys, in increasing order. -/
def keys (m : FinMap K V) : List K := m.entries.map Prod.fst

/-- The number of entries. -/
def size (m : FinMap K V) : Nat := m.entries.length

/-- The number of entries whose value satisfies a test. -/
def count (m : FinMap K V) (p : V → Bool) : Nat := m.entries.countP (fun e => p e.2)

/-- The keys in the order a walk visits them: the proposed order where it
enumerates the map, the key order otherwise. -/
def iteration (m : FinMap K V) (order : List K) : List K :=
  if order.isPerm m.keys then order else m.keys

instance : Inhabited (FinMap K V) := ⟨empty⟩

/-! ## Lookup after each operation -/

@[simp] theorem find?_empty (k : K) : (empty : FinMap K V).find? k = none := rfl

theorem find?_insert (m : FinMap K V) (k k' : K) (v : V) :
    (m.insert k v).find? k' = if k' = k then some v else m.find? k' :=
  lookupEntry_insertEntry k k' v m.entries

@[simp] theorem find?_insert_self (m : FinMap K V) (k : K) (v : V) :
    (m.insert k v).find? k = some v := by
  rw [find?_insert, if_pos rfl]

theorem find?_insert_of_ne (m : FinMap K V) {k k' : K} (v : V) (h : k' ≠ k) :
    (m.insert k v).find? k' = m.find? k' := by
  rw [find?_insert, if_neg h]

theorem find?_erase (m : FinMap K V) (k k' : K) :
    (m.erase k).find? k' = if k' = k then none else m.find? k' :=
  lookupEntry_filter_ne k k' m.entries

@[simp] theorem find?_mapVals (m : FinMap K V) (f : K → V → W) (k : K) :
    (m.mapVals f).find? k = (m.find? k).map (f k) :=
  lookupEntry_map f k m.entries

theorem find?_modify (m : FinMap K V) (k k' : K) (f : V → V) :
    (m.modify k f).find? k' = if k' = k then (m.find? k').map f else m.find? k' := by
  rw [modify, find?_mapVals]
  by_cases h : k' = k
  · simp [h]
  · simp [h]

theorem find?_modify_self {m : FinMap K V} {k : K} {v : V} (f : V → V)
    (h : m.find? k = some v) : (m.modify k f).find? k = some (f v) := by
  rw [find?_modify, if_pos rfl, h, Option.map_some]

theorem find?_modifyAll (m : FinMap K V) {ks : List K} (f : K → V → V) (hnodup : ks.Nodup)
    (k : K) :
    (m.modifyAll ks f).find? k = if k ∈ ks then (m.find? k).map (f k) else m.find? k := by
  induction ks generalizing m with
  | nil => rfl
  | cons k₀ rest ih =>
      obtain ⟨hnot, hrest⟩ := List.nodup_cons.mp hnodup
      rw [modifyAll, List.foldl_cons]
      refine (ih (m.modify k₀ (f k₀)) hrest).trans ?_
      by_cases hk : k = k₀
      · subst hk
        simp [hnot, find?_modify]
      · simp [hk, find?_modify]

theorem find?_emplace (m : FinMap K V) (k k' : K) (v : V) :
    (m.emplace k v).find? k' =
      if k' = k then some ((m.find? k).getD v) else m.find? k' := by
  unfold emplace contains
  cases h : m.find? k with
  | none => simp [find?_insert]
  | some v₀ =>
      by_cases hk : k' = k
      · simp [hk, h]
      · simp [hk]

theorem find?_emplace_of_ne (m : FinMap K V) {k k' : K} (v : V) (h : k' ≠ k) :
    (m.emplace k v).find? k' = m.find? k' := by
  rw [find?_emplace, if_neg h]

theorem find?_emplace_of_none {m : FinMap K V} {k : K} (h : m.find? k = none) (v : V) :
    (m.emplace k v).find? k = some v := by
  rw [find?_emplace, if_pos rfl, h, Option.getD_none]

theorem find?_emplace_of_some {m : FinMap K V} {k' : K} {v' : V} (h : m.find? k' = some v')
    (k : K) (v : V) : (m.emplace k v).find? k' = some v' := by
  rw [find?_emplace]
  split_ifs with hk
  · rw [← hk, h, Option.getD_some]
  · exact h

/-- An entry after an emplacement is an old one, or the new one under a free key. -/
theorem find?_emplace_cases {m : FinMap K V} {k k' : K} {v v' : V}
    (h : (m.emplace k v).find? k' = some v') :
    m.find? k' = some v' ∨ m.find? k' = none ∧ k' = k ∧ v' = v := by
  cases hold : m.find? k' with
  | some old =>
      rw [find?_emplace_of_some hold] at h
      exact .inl h
  | none =>
      rw [find?_emplace] at h
      split_ifs at h with hk
      · rw [← hk, hold, Option.getD_none] at h
        exact .inr ⟨rfl, hk, (Option.some.inj h).symm⟩
      · rw [hold] at h
        cases h

theorem contains_iff {m : FinMap K V} {k : K} :
    m.contains k = true ↔ ∃ v, m.find? k = some v := by
  rw [contains, Option.isSome_iff_exists]

/-! ## Entries, keys and extensionality -/

theorem mem_entries_iff {m : FinMap K V} {k : K} {v : V} :
    (k, v) ∈ m.entries ↔ m.find? k = some v :=
  (lookupEntry_eq_some_iff m.ordered).symm

theorem mem_keys_iff {m : FinMap K V} {k : K} :
    k ∈ m.keys ↔ ∃ v, m.find? k = some v := by
  simp [keys, ← mem_entries_iff]

/-- A property of all stored values can be checked entry by entry. -/
instance decidableForallFind? (m : FinMap K V) (p : K → V → Prop)
    [∀ k v, Decidable (p k v)] : Decidable (∀ k v, m.find? k = some v → p k v) :=
  decidable_of_iff (∀ e ∈ m.entries, p e.1 e.2)
    ⟨fun h _ _ hfind => h _ (mem_entries_iff.mpr hfind),
      fun h e he => h e.1 e.2 (mem_entries_iff.mp he)⟩

theorem nodup_keys (m : FinMap K V) : m.keys.Nodup := by
  have h : m.keys.Pairwise (· < ·) := m.ordered.map _ (fun _ _ h => h)
  exact h.imp ne_of_lt

/-- Maps with the same lookups are equal. -/
theorem ext_find? {m m' : FinMap K V} (h : ∀ k, m.find? k = m'.find? k) : m = m' := by
  have hmem : ∀ e, e ∈ m.entries ↔ e ∈ m'.entries := by
    rintro ⟨k, v⟩
    rw [mem_entries_iff, mem_entries_iff, h]
  have hperm : m.entries.Perm m'.entries :=
    (List.perm_ext_iff_of_nodup
      (m.ordered.imp fun hlt => fun heq => by simp [heq] at hlt)
      (m'.ordered.imp fun hlt => fun heq => by simp [heq] at hlt)).mpr hmem
  have hlist : m.entries = m'.entries :=
    hperm.eq_of_pairwise (fun a b _ _ hab hba => absurd hab (not_lt.mpr hba.le))
      m.ordered m'.ordered
  cases m
  cases m'
  cases hlist
  rfl

@[simp] theorem insert_insert (m : FinMap K V) (k : K) (v v' : V) :
    (m.insert k v).insert k v' = m.insert k v' := by
  refine ext_find? fun k' => ?_
  rw [find?_insert, find?_insert, find?_insert]
  split_ifs <;> rfl

theorem modify_eq_insert {m : FinMap K V} {k : K} {v : V} (f : V → V)
    (h : m.find? k = some v) : m.modify k f = m.insert k (f v) := by
  refine ext_find? fun k' => ?_
  rw [find?_modify, find?_insert]
  by_cases hk : k' = k
  · simp [hk, h]
  · simp [hk]

theorem modify_of_none {m : FinMap K V} {k : K} (f : V → V) (h : m.find? k = none) :
    m.modify k f = m := by
  refine ext_find? fun k' => ?_
  rw [find?_modify]
  by_cases hk : k' = k
  · simp [hk, h]
  · simp [hk]

theorem mapVals_mapVals {X : Type} (m : FinMap K V) (f : K → V → W) (g : K → W → X) :
    (m.mapVals f).mapVals g = m.mapVals (fun k v => g k (f k v)) := by
  refine ext_find? fun k => ?_
  rw [find?_mapVals, find?_mapVals, find?_mapVals, Option.map_map]
  rfl

/-- A walk over every key rewrites every value. -/
theorem modifyAll_eq_mapVals {m : FinMap K V} {ks : List K} (f : K → V → V)
    (h : ks.Perm m.keys) : m.modifyAll ks f = m.mapVals f := by
  refine ext_find? fun k => ?_
  rw [find?_modifyAll m f (h.nodup_iff.mpr m.nodup_keys), find?_mapVals]
  split_ifs with hk
  · rfl
  · cases hfind : m.find? k with
    | none => rfl
    | some v => exact absurd (h.mem_iff.mpr (mem_keys_iff.mpr ⟨v, hfind⟩)) hk

theorem iteration_perm (m : FinMap K V) (order : List K) :
    (m.iteration order).Perm m.keys := by
  unfold iteration
  split_ifs with h
  · exact List.isPerm_iff.mp h
  · exact List.Perm.refl _

theorem mem_iteration_iff {m : FinMap K V} {order : List K} {k : K} :
    k ∈ m.iteration order ↔ ∃ v, m.find? k = some v := by
  rw [(m.iteration_perm order).mem_iff, mem_keys_iff]

theorem nodup_iteration (m : FinMap K V) (order : List K) :
    (m.iteration order).Nodup :=
  (m.iteration_perm order).nodup_iff.mpr m.nodup_keys

/-- A walk without repeated results takes each result from one key. -/
theorem eq_of_nodup_filterMap {X : Type} {f : K → Option X} {ks : List K}
    (h : (ks.filterMap f).Nodup) {k k' : K} {x : X} (hk : k ∈ ks) (hk' : k' ∈ ks)
    (hx : f k = some x) (hx' : f k' = some x) : k = k' := by
  by_contra hne
  have hsymm : Std.Symm (fun a b => ∀ x, f a = some x → ∀ y, f b = some y → x ≠ y) :=
    ⟨fun _ _ hab x hx y hy heq => hab y hy x hx heq.symm⟩
  exact (List.pairwise_filterMap.mp h).forall hk hk' hne x hx x hx' rfl

/-! ## Counting -/

/-- The values in the order a walk visits them. -/
def valuesIn (m : FinMap K V) (order : List K) : List V := (m.iteration order).filterMap m.find?

theorem length_filterMap_find? (m : FinMap K V) {ks : List K}
    (h : ∀ k ∈ ks, ∃ v, m.find? k = some v) : (ks.filterMap m.find?).length = ks.length := by
  induction ks with
  | nil => rfl
  | cons k rest ih =>
      obtain ⟨v, hv⟩ := h k List.mem_cons_self
      rw [List.filterMap_cons_some hv, List.length_cons, List.length_cons,
        ih fun k' hk' => h k' (List.mem_cons_of_mem _ hk')]

theorem length_valuesIn (m : FinMap K V) (order : List K) :
    (m.valuesIn order).length = m.size := by
  rw [valuesIn, length_filterMap_find? m fun k hk => mem_iteration_iff.mp hk,
    (m.iteration_perm order).length_eq, keys, List.length_map, size]

theorem exists_of_mem_valuesIn {m : FinMap K V} {order : List K} {v : V}
    (h : v ∈ m.valuesIn order) : ∃ k, m.find? k = some v := by
  obtain ⟨k, -, hk⟩ := List.mem_filterMap.mp h
  exact ⟨k, hk⟩

/-! ### Filing a list of values under their own keys -/

section Filed

variable (key : W → K)

/-- The first value filed under a key stays. -/
theorem find?_foldl_emplace (l : List W) (m : FinMap K W) (k : K) :
    (l.foldl (fun m v => m.emplace (key v) v) m).find? k =
      (m.find? k).or (l.find? fun v => key v = k) := by
  induction l generalizing m with
  | nil => rw [List.foldl_nil, List.find?_nil, Option.or_none]
  | cons v rest ih =>
      rw [List.foldl_cons, ih, find?_emplace]
      by_cases hk : key v = k
      · subst hk
        simp only [if_true, List.find?_cons, decide_true]
        cases m.find? (key v) <;> rfl
      · have hne : ¬k = key v := fun h => hk h.symm
        simp only [hne, if_false, List.find?_cons, hk, decide_false]

variable {key}

theorem find?_filterMap_find? {m : FinMap K V} {f : V → W}
    (h : ∀ k v, m.find? k = some v → key (f v) = k) (ks : List K) (k : K) :
    ((ks.filterMap m.find?).map f).find? (fun v => key v = k) =
      if k ∈ ks then (m.find? k).map f else none := by
  induction ks with
  | nil => rfl
  | cons k₀ rest ih =>
      cases hfind : m.find? k₀ with
      | none =>
          rw [List.filterMap_cons_none hfind, ih]
          by_cases hk : k = k₀
          · subst hk
            simp [hfind]
          · simp [hk]
      | some v =>
          rw [List.filterMap_cons_some hfind, List.map_cons, List.find?_cons, h k₀ v hfind, ih]
          by_cases hk : k = k₀
          · subst hk
            simp [hfind]
          · have hne : ¬k₀ = k := fun heq => hk heq.symm
            simp [hk, hne]

/-- Filing the rewritten values of a walk under their own keys rewrites the map. -/
theorem foldl_emplace_valuesIn {m : FinMap K V} {f : V → W}
    (h : ∀ k v, m.find? k = some v → key (f v) = k) (order : List K) :
    ((m.valuesIn order).map f).foldl (fun m v => m.emplace (key v) v) empty =
      m.mapVals (fun _ => f) := by
  refine ext_find? fun k => ?_
  rw [find?_foldl_emplace, valuesIn, find?_filterMap_find? h, find?_mapVals, find?_empty,
    Option.none_or]
  split_ifs with hk
  · rfl
  · cases hfind : m.find? k with
    | none => rfl
    | some v => exact absurd (mem_iteration_iff.mpr ⟨v, hfind⟩) hk

end Filed

/-- The keys whose value satisfies a test. -/
def keysWhere (m : FinMap K V) (p : V → Bool) : List K :=
  (m.entries.filter (fun e => p e.2)).map Prod.fst

theorem length_keysWhere (m : FinMap K V) (p : V → Bool) :
    (m.keysWhere p).length = m.count p := by
  simp [keysWhere, count, List.countP_eq_length_filter]

theorem mem_keysWhere {m : FinMap K V} {p : V → Bool} {k : K} :
    k ∈ m.keysWhere p ↔ (m.find? k).any p = true := by
  simp only [keysWhere, List.mem_map, List.mem_filter, Prod.exists, exists_and_right,
    exists_eq_right, mem_entries_iff]
  cases m.find? k <;> simp

theorem nodup_keysWhere (m : FinMap K V) (p : V → Bool) : (m.keysWhere p).Nodup :=
  (List.filter_sublist.map _).nodup m.nodup_keys

/-- The count only depends on where the test holds. -/
theorem count_congr {m : FinMap K V} {m' : FinMap K V} {p : V → Bool}
    (h : ∀ k, (m.find? k).any p = (m'.find? k).any p) : m.count p = m'.count p := by
  rw [← length_keysWhere, ← length_keysWhere]
  refine List.Perm.length_eq ((List.perm_ext_iff_of_nodup
    (nodup_keysWhere m p) (nodup_keysWhere m' p)).mpr fun k => ?_)
  rw [mem_keysWhere, mem_keysWhere, h]

/-- A count grows by no more than the keys that newly satisfy the test. -/
theorem count_le_add {m m' : FinMap K V} {p : V → Bool} (extra : List K)
    (h : ∀ k, (m'.find? k).any p = true → (m.find? k).any p = true ∨ k ∈ extra) :
    m'.count p ≤ m.count p + extra.length := by
  rw [← length_keysWhere, ← length_keysWhere, ← List.length_append]
  refine (List.subperm_of_subset (nodup_keysWhere m' p) fun k hk => ?_).length_le
  rw [List.mem_append, mem_keysWhere]
  exact h k (mem_keysWhere.mp hk)

/-- One more key satisfying the test adds one to the count. -/
theorem count_succ {m m' : FinMap K V} {p : V → Bool} {k : K}
    (hold : (m.find? k).any p = false) (hnew : (m'.find? k).any p = true)
    (h : ∀ k', k' ≠ k → (m.find? k').any p = (m'.find? k').any p) :
    m'.count p = m.count p + 1 := by
  have hnot : k ∉ m.keysWhere p := by simp [mem_keysWhere, hold]
  rw [← length_keysWhere, ← length_keysWhere, ← List.length_cons (a := k)]
  refine List.Perm.length_eq ((List.perm_ext_iff_of_nodup (nodup_keysWhere m' p)
    (List.nodup_cons.mpr ⟨hnot, nodup_keysWhere m p⟩)).mpr fun k' => ?_)
  rw [List.mem_cons, mem_keysWhere, mem_keysWhere]
  by_cases hk : k' = k
  · simp [hk, hnew]
  · simp [hk, h k' hk]

/-- A count that only loses keys does not grow. -/
theorem count_le_count {m m' : FinMap K V} {p p' : V → Bool}
    (h : ∀ k, (m'.find? k).any p' = true → (m.find? k).any p = true) :
    m'.count p' ≤ m.count p := by
  rw [← length_keysWhere, ← length_keysWhere]
  refine (List.subperm_of_subset (nodup_keysWhere m' p') fun k hk => ?_).length_le
  exact mem_keysWhere.mpr (h k (mem_keysWhere.mp hk))

/-- A count that only loses keys, and one at least, falls. -/
theorem count_lt_count {m m' : FinMap K V} {p p' : V → Bool} {k : K}
    (hold : (m.find? k).any p = true) (hnew : (m'.find? k).any p' = false)
    (h : ∀ k, (m'.find? k).any p' = true → (m.find? k).any p = true) :
    m'.count p' < m.count p := by
  have hnot : k ∉ m'.keysWhere p' := by simp [mem_keysWhere, hnew]
  rw [← length_keysWhere, ← length_keysWhere, ← Nat.succ_le_iff, Nat.succ_eq_add_one,
    ← List.length_cons (a := k)]
  refine (List.subperm_of_subset (List.nodup_cons.mpr ⟨hnot, nodup_keysWhere m' p'⟩)
    fun k' hk' => mem_keysWhere.mpr ?_).length_le
  rcases List.mem_cons.mp hk' with rfl | hk'
  · exact hold
  · exact h k' (mem_keysWhere.mp hk')

@[simp] theorem size_empty : (empty : FinMap K V).size = 0 := rfl

theorem size_eq_count (m : FinMap K V) : m.size = m.count (fun _ => true) :=
  congrFun List.countP_true.symm m.entries

/-- Maps with the same keys have the same size. -/
theorem size_congr {m m' : FinMap K V} (h : ∀ k, (m.find? k).isSome = (m'.find? k).isSome) :
    m.size = m'.size := by
  rw [size_eq_count, size_eq_count]
  refine count_congr fun k => ?_
  have hk := h k
  generalize m.find? k = found at hk
  generalize m'.find? k = found' at hk
  cases found <;> cases found' <;> first | rfl | cases hk

@[simp] theorem size_mapVals (m : FinMap K V) (f : K → V → W) : (m.mapVals f).size = m.size :=
  List.length_map _

theorem size_emplace {m : FinMap K V} {k : K} (v : V) (h : m.find? k = none) :
    (m.emplace k v).size = m.size + 1 := by
  rw [size_eq_count, size_eq_count]
  refine count_succ (k := k) (by rw [h]; rfl) ?_ fun k' hk' => ?_
  · rw [find?_emplace_of_none h]
    rfl
  · rw [find?_emplace_of_ne m v hk']

/-! ## Ranked values -/

section Climbs

variable {R : Type} [Preorder R] {rank : V → R}

/-- Every key keeps a value, whose rank does not fall. -/
def Climbs (rank : V → R) (m m' : FinMap K V) : Prop :=
  ∀ k v, m.find? k = some v → ∃ v', m'.find? k = some v' ∧ rank v ≤ rank v'

theorem Climbs.refl (m : FinMap K V) : Climbs rank m m := fun _ v hv => ⟨v, hv, le_refl _⟩

theorem Climbs.trans {m m' m'' : FinMap K V} (h : Climbs rank m m') (h' : Climbs rank m' m'') :
    Climbs rank m m'' := by
  intro k v hv
  obtain ⟨v', hv', hle⟩ := h k v hv
  obtain ⟨v'', hv'', hle'⟩ := h' k v' hv'
  exact ⟨v'', hv'', hle.trans hle'⟩

theorem climbs_insert {m : FinMap K V} {k : K} {v : V}
    (h : ∀ old, m.find? k = some old → rank old ≤ rank v) : Climbs rank m (m.insert k v) := by
  intro k' old hold
  rw [find?_insert]
  split_ifs with hk
  · rw [hk] at hold
    exact ⟨v, rfl, h old hold⟩
  · exact ⟨old, hold, le_refl _⟩

theorem climbs_mapVals {m : FinMap K V} {f : K → V → V} (h : ∀ k v, rank v ≤ rank (f k v)) :
    Climbs rank m (m.mapVals f) := by
  intro k v hv
  exact ⟨f k v, by rw [find?_mapVals, hv]; rfl, h k v⟩

end Climbs

/-! ## Maps related value by value -/

section Related

variable {U : Type} {R : V → W → Prop} {m : FinMap K V} {m' : FinMap K W} {k : K}

/-- The maps have the same keys, and related values under each of them. -/
def Related (R : V → W → Prop) (m : FinMap K V) (m' : FinMap K W) : Prop :=
  ∀ k, Option.Rel R (m.find? k) (m'.find? k)

namespace Related

theorem find?_some (h : Related R m m') {v : V} (hfind : m.find? k = some v) :
    ∃ w, m'.find? k = some w ∧ R v w := by
  have hrel := h k
  rw [hfind] at hrel
  generalize m'.find? k = found at hrel
  cases hrel with
  | some hvw => exact ⟨_, rfl, hvw⟩

theorem find?_new (h : Related R m m') {w : W} (hfind : m'.find? k = some w) :
    ∃ v, m.find? k = some v ∧ R v w := by
  have hrel := h k
  rw [hfind] at hrel
  generalize m.find? k = found at hrel
  cases hrel with
  | some hvw => exact ⟨_, rfl, hvw⟩

theorem find?_none (h : Related R m m') (hfind : m.find? k = none) : m'.find? k = none := by
  have hrel := h k
  rw [hfind] at hrel
  generalize m'.find? k = found at hrel
  cases hrel with
  | none => rfl

/-- The relation from its two sides: values under a common key, and keys of one map only. -/
theorem of_find? (hsome : ∀ k v, m.find? k = some v → ∃ w, m'.find? k = some w ∧ R v w)
    (hnone : ∀ k, m.find? k = none → m'.find? k = none) : Related R m m' := by
  intro k
  cases hfind : m.find? k with
  | none =>
      rw [hnone k hfind]
      exact .none
  | some v =>
      obtain ⟨w, hw, hvw⟩ := hsome k v hfind
      rw [hw]
      exact .some hvw

theorem refl {R : V → V → Prop} (hrefl : ∀ v, R v v) (m : FinMap K V) : Related R m m :=
  of_find? (fun _ v hfind => ⟨v, hfind, hrefl v⟩) fun _ hfind => hfind

theorem mono {R' : V → W → Prop} (himp : ∀ v w, R v w → R' v w) (h : Related R m m') :
    Related R' m m' := by
  refine of_find? (fun k v hfind => ?_) fun k hfind => h.find?_none hfind
  obtain ⟨w, hw, hvw⟩ := h.find?_some hfind
  exact ⟨w, hw, himp v w hvw⟩

theorem trans {S : W → U → Prop} {T : V → U → Prop} (htrans : ∀ v w u, R v w → S w u → T v u)
    {m'' : FinMap K U} (h : Related R m m') (h' : Related S m' m'') : Related T m m'' := by
  refine of_find? (fun k v hfind => ?_) fun k hfind => h'.find?_none (h.find?_none hfind)
  obtain ⟨w, hw, hvw⟩ := h.find?_some hfind
  obtain ⟨u, hu, hwu⟩ := h'.find?_some hw
  exact ⟨u, hu, htrans v w u hvw hwu⟩

theorem insert (h : Related R m m') (k : K) {v : V} {w : W} (hvw : R v w) :
    Related R (m.insert k v) (m'.insert k w) := by
  intro k'
  rw [find?_insert, find?_insert]
  split_ifs
  · exact .some hvw
  · exact h k'

theorem emplace (h : Related R m m') (k : K) {v : V} {w : W} (hvw : R v w) :
    Related R (m.emplace k v) (m'.emplace k w) := by
  intro k'
  have hrel := h k
  rw [find?_emplace, find?_emplace]
  split_ifs
  · generalize m.find? k = found at hrel
    generalize m'.find? k = found' at hrel
    cases hrel with
    | none => exact .some hvw
    | some hold => exact .some hold
  · exact h k'

theorem modify (h : Related R m m') (k : K) {f : V → V} {g : W → W}
    (hfg : ∀ v w, R v w → R (f v) (g w)) : Related R (m.modify k f) (m'.modify k g) := by
  intro k'
  have hrel := h k'
  rw [find?_modify, find?_modify]
  split_ifs
  · generalize m.find? k' = found at hrel
    generalize m'.find? k' = found' at hrel
    cases hrel with
    | none => exact .none
    | some hvw => exact .some (hfg _ _ hvw)
  · exact hrel

/-- One value replaced by a related one. -/
theorem replace {R : V → V → Prop} (hrefl : ∀ v, R v v) {v v' : V}
    (hfind : m.find? k = some v) (hvv' : R v v') : Related R m (m.insert k v') := by
  intro k'
  rw [find?_insert]
  split_ifs with hk
  · rw [hk, hfind]
    exact .some hvv'
  · exact refl hrefl m k'

/-- Every value replaced by a related one. -/
theorem mapVals {f : K → V → W} (hf : ∀ k v, R v (f k v)) (m : FinMap K V) :
    Related R m (m.mapVals f) := by
  intro k
  rw [find?_mapVals]
  cases m.find? k with
  | none => exact .none
  | some v => exact .some (hf k v)

/-- Any number of values replaced by a walk. -/
theorem modifyAll {R : V → V → Prop} (hrefl : ∀ v, R v v)
    (htrans : ∀ u v w, R u v → R v w → R u w) (m : FinMap K V) (ks : List K)
    {f : K → V → V} (hf : ∀ k v, R v (f k v)) : Related R m (m.modifyAll ks f) := by
  induction ks generalizing m with
  | nil => exact refl hrefl m
  | cons k rest ih =>
      refine trans htrans ?_ (ih (m.modify k (f k)))
      cases hfind : m.find? k with
      | none =>
          rw [modify_of_none _ hfind]
          exact refl hrefl m
      | some v =>
          rw [modify_eq_insert _ hfind]
          exact replace hrefl hfind (hf k v)

end Related

end Related

/-! ## Indexes

An index maps a key to a set of entries, and an entry is filed under several keys
at once. -/

section Indexes

variable {P : Type} [LinearOrder P]

/-- The index has the entry under the key. -/
def Indexes (idx : FinMap P (FinMap K Unit)) (p : P) (k : K) : Prop :=
  ∃ ids, idx.find? p = some ids ∧ ids.contains k = true

theorem indexes_insert {idx : FinMap P (FinMap K Unit)} {p p' : P} {k k' : K} :
    (idx.insert p (((idx.find? p).getD .empty).insert k ())).Indexes p' k' ↔
      idx.Indexes p' k' ∨ (p' = p ∧ k' = k) := by
  unfold Indexes
  simp only [find?_insert]
  by_cases hp : p' = p
  · subst hp
    simp only [if_true, Option.some.injEq, exists_eq_left', true_and]
    rw [contains, find?_insert]
    by_cases hk : k' = k
    · simp [hk]
    · simp only [hk, if_false, or_false]
      cases idx.find? p' with
      | none => simp
      | some ids => simp [contains]
  · simp [hp]

/-- Filing an entry under each key of a list. -/
theorem indexes_foldl_insert {idx : FinMap P (FinMap K Unit)} {ps : List P} {p' : P} {k k' : K} :
    (ps.foldl (fun idx p => idx.insert p (((idx.find? p).getD .empty).insert k ())) idx).Indexes
        p' k' ↔ idx.Indexes p' k' ∨ (p' ∈ ps ∧ k' = k) := by
  induction ps generalizing idx with
  | nil => simp
  | cons p ps ih =>
      rw [List.foldl_cons, ih, indexes_insert, List.mem_cons]
      tauto

/-- An empty set under a key is no entry. -/
theorem indexes_emplace_empty {idx : FinMap P (FinMap K Unit)} {p p' : P} {k : K} :
    (idx.emplace p .empty).Indexes p' k ↔ idx.Indexes p' k := by
  unfold Indexes
  simp only [find?_emplace]
  by_cases hp : p' = p
  · subst hp
    cases hfind : idx.find? p' with
    | none => simp [contains]
    | some ids => simp
  · simp [hp]

/-- No key is left with nothing under it. -/
def Tidy (idx : FinMap P (FinMap K Unit)) : Prop := ∀ p, idx.find? p ≠ some .empty

theorem ext_contains {a b : FinMap K Unit}
    (h : ∀ k, a.contains k = true ↔ b.contains k = true) : a = b := by
  refine ext_find? fun k => ?_
  have hiff := h k
  unfold contains at hiff
  cases ha : a.find? k <;> cases hb : b.find? k <;> simp_all

theorem exists_contains {m : FinMap K V} (h : m ≠ .empty) : ∃ k, m.contains k = true := by
  by_contra hnone
  refine h (ext_find? fun k => ?_)
  cases hfind : m.find? k with
  | none => rfl
  | some v => exact absurd ⟨k, contains_iff.mpr ⟨v, hfind⟩⟩ hnone

/-- Tidy indexes with the same entries are equal. -/
theorem Tidy.ext {a b : FinMap P (FinMap K Unit)} (ha : a.Tidy) (hb : b.Tidy)
    (h : ∀ p k, a.Indexes p k ↔ b.Indexes p k) : a = b := by
  -- a set that is there has an entry, so it is there on the other side as well
  have hpresent : ∀ {a b : FinMap P (FinMap K Unit)} {p : P} {ids : FinMap K Unit}, a.Tidy →
      (∀ p k, a.Indexes p k ↔ b.Indexes p k) → a.find? p = some ids →
      ∃ ids', b.find? p = some ids' := by
    intro a b p ids htidy hiff hfind
    have hne : ids ≠ .empty := fun hempty => htidy p (hempty ▸ hfind)
    obtain ⟨k, hk⟩ := exists_contains hne
    obtain ⟨ids', hids', -⟩ := (hiff p k).mp ⟨ids, hfind, hk⟩
    exact ⟨ids', hids'⟩
  refine ext_find? fun p => ?_
  cases hfinda : a.find? p with
  | none =>
      cases hfindb : b.find? p with
      | none => rfl
      | some ids =>
          obtain ⟨ids', hids'⟩ := hpresent hb (fun p k => (h p k).symm) hfindb
          rw [hfinda] at hids'
          cases hids'
  | some ids =>
      obtain ⟨ids', hids'⟩ := hpresent ha h hfinda
      rw [hids']
      refine congrArg some (ext_contains fun k => ?_)
      have hiff := h p k
      unfold Indexes at hiff
      simpa only [hfinda, hids', Option.some.injEq, exists_eq_left'] using hiff

theorem tidy_empty : (empty : FinMap P (FinMap K Unit)).Tidy := fun _ h => by cases h

theorem Tidy.insert {idx : FinMap P (FinMap K Unit)} (h : idx.Tidy) {p : P}
    {ids : FinMap K Unit} (hids : ids ≠ .empty) : (idx.insert p ids).Tidy := by
  intro p'
  rw [find?_insert]
  split_ifs
  · exact fun hempty => hids (Option.some.inj hempty)
  · exact h p'

theorem Tidy.erase {idx : FinMap P (FinMap K Unit)} (h : idx.Tidy) (p : P) :
    (idx.erase p).Tidy := by
  intro p'
  rw [find?_erase]
  split_ifs
  · exact fun hempty => by cases hempty
  · exact h p'

theorem Tidy.foldl_insert {idx : FinMap P (FinMap K Unit)} (h : idx.Tidy) (ps : List P) (k : K) :
    (ps.foldl (fun idx p => idx.insert p (((idx.find? p).getD .empty).insert k ())) idx).Tidy := by
  induction ps generalizing idx with
  | nil => exact h
  | cons p ps ih =>
      refine ih (h.insert fun hempty => ?_)
      have hfind := find?_insert_self ((idx.find? p).getD .empty) k ()
      rw [hempty] at hfind
      cases hfind

end Indexes

end FinMap

end CollectiveScheduler.Foundation
