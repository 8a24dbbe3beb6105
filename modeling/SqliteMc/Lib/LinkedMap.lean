import Mathlib.Data.List.Dedup
import Mathlib.Data.List.Perm.Subperm

/-!
# Insertion-ordered maps

A map that iterates over its entries in the order in which their keys were
first written, as the default mutable maps of the JVM languages do. Writing
an existing key keeps its place; writing a new one appends it. The invariant
that a key has one entry is a field, so that no operation has to restore it
twice and `get?` can be read off the entries (`mem_entries_iff`).

Lookups are what most clients depend on; `get?_put`, `get?_remove`, `get?_removeAll` and
`get?_putAll_of_not_mem` describe the operations through them. `entries_putAll`,
`keys_isPrefix_putAll` and `reverse_keys_putAll` describe the order of the keys.
-/

namespace LinkedMap.Entries

variable {κ ν : Type*} [DecidableEq κ]

/-- Overwrite the value of `k` in place, or append the new entry. -/
def put (k : κ) (v : ν) : List (κ × ν) → List (κ × ν)
  | [] => [(k, v)]
  | e :: rest => if e.1 = k then (k, v) :: rest else e :: put k v rest

/-- A key that is put stands where it stood, or at the end when it is new. -/
theorem keys_put (k : κ) (v : ν) (es : List (κ × ν)) :
    (put k v es).map Prod.fst =
      if k ∈ es.map Prod.fst then es.map Prod.fst else es.map Prod.fst ++ [k] := by
  induction es with
  | nil => simp [put]
  | cons e rest ih =>
    by_cases h : e.1 = k
    · simp [put, h]
    · have h' : ¬ k = e.1 := fun hk => h hk.symm
      simp only [put, h, if_false, List.map_cons, ih, List.mem_cons, h', false_or]
      split <;> simp

/-- A new key is put at the end. -/
theorem put_of_not_mem {k : κ} {es : List (κ × ν)} (h : k ∉ es.map Prod.fst) (v : ν) :
    put k v es = es ++ [(k, v)] := by
  induction es with
  | nil => rfl
  | cons e rest ih =>
    rw [List.map_cons, List.mem_cons, not_or] at h
    rw [put, if_neg (Ne.symm h.1), ih h.2]
    rfl

/-- Putting a key keeps the keys distinct. -/
theorem nodup_put (k : κ) (v : ν) {es : List (κ × ν)}
    (h : (es.map Prod.fst).Nodup) : ((put k v es).map Prod.fst).Nodup := by
  rw [keys_put]
  split
  · exact h
  · rename_i hk
    exact List.nodup_append.mpr ⟨h, List.nodup_singleton k, by
      intro a ha b hb
      rw [List.mem_singleton] at hb
      rintro rfl
      exact hk (hb ▸ ha)⟩

end LinkedMap.Entries

/-- A map with one entry a key, kept in insertion order. -/
structure LinkedMap (κ ν : Type*) where
  entries : List (κ × ν)
  nodup : (entries.map Prod.fst).Nodup

namespace LinkedMap

variable {κ ν : Type*}

/-- A map is its entries. -/
theorem ext {m m' : LinkedMap κ ν} (h : m.entries = m'.entries) : m = m' := by
  cases m
  cases m'
  cases h
  rfl

instance [DecidableEq κ] [DecidableEq ν] : DecidableEq (LinkedMap κ ν) := fun a b =>
  decidable_of_iff (a.entries = b.entries) ⟨ext, fun h => h ▸ rfl⟩

/-! ## Operations -/

def empty : LinkedMap κ ν := ⟨[], List.nodup_nil⟩

instance : Inhabited (LinkedMap κ ν) := ⟨empty⟩

def isEmpty (m : LinkedMap κ ν) : Bool := m.entries.isEmpty

def keys (m : LinkedMap κ ν) : List κ := m.entries.map Prod.fst

variable [DecidableEq κ]

def get? (m : LinkedMap κ ν) (k : κ) : Option ν := m.entries.lookup k

def contains (m : LinkedMap κ ν) (k : κ) : Bool := (m.get? k).isSome

def put (m : LinkedMap κ ν) (k : κ) (v : ν) : LinkedMap κ ν :=
  ⟨Entries.put k v m.entries, Entries.nodup_put k v m.nodup⟩

def remove (m : LinkedMap κ ν) (k : κ) : LinkedMap κ ν :=
  ⟨m.entries.filter (fun e => decide (e.1 ≠ k)),
    (List.filter_sublist.map Prod.fst).nodup m.nodup⟩

/-- The same entries in another order. -/
def reorder (m : LinkedMap κ ν) (es : List (κ × ν)) (h : es.Perm m.entries) : LinkedMap κ ν :=
  ⟨es, (h.map Prod.fst).nodup_iff.mpr m.nodup⟩

/-- Write entries one after the other. -/
def putAll (m : LinkedMap κ ν) (es : List (κ × ν)) : LinkedMap κ ν :=
  es.foldl (fun m e => m.put e.1 e.2) m

/-! ## Lookups -/

@[simp] theorem get?_empty (k : κ) : (empty : LinkedMap κ ν).get? k = none := rfl

@[simp] theorem putAll_nil (m : LinkedMap κ ν) : m.putAll [] = m := rfl

@[simp] theorem putAll_cons (m : LinkedMap κ ν) (e : κ × ν) (es : List (κ × ν)) :
    m.putAll (e :: es) = (m.put e.1 e.2).putAll es := rfl

/-- A lookup tells the first entry from the rest. -/
private theorem lookup_cons_ite (k : κ) (e : κ × ν) (es : List (κ × ν)) :
    (e :: es).lookup k = if k = e.1 then some e.2 else es.lookup k := by
  rw [List.lookup_cons]
  by_cases h : k = e.1
  · simp [h]
  · rw [beq_false_of_ne h, if_neg h]

/-- A lookup after a put: the new value under its key, the old one under any other. -/
private theorem lookup_put (k j : κ) (v : ν) (es : List (κ × ν)) :
    (Entries.put k v es).lookup j = if j = k then some v else es.lookup j := by
  induction es with
  | nil => simp [Entries.put, lookup_cons_ite]
  | cons e rest ih =>
    -- the first entry is the one that is replaced, or stays as it is
    by_cases he : e.1 = k
    · rw [Entries.put, if_pos he, lookup_cons_ite, lookup_cons_ite, he]
      split <;> rfl
    · rw [Entries.put, if_neg he, lookup_cons_ite, lookup_cons_ite, ih]
      by_cases hje : j = e.1
      · have hjk : ¬ j = k := fun h => he (hje ▸ h)
        rw [if_pos hje, if_neg hjk, if_pos hje]
      · rw [if_neg hje, if_neg hje]

/-- The key that was put has the new value, every other key the one it had. -/
@[simp] theorem get?_put (m : LinkedMap κ ν) (k j : κ) (v : ν) :
    (m.put k v).get? j = if j = k then some v else m.get? j :=
  lookup_put k j v m.entries

/-- With distinct keys every entry is the one its key finds. -/
private theorem lookup_eq_some_of_mem {es : List (κ × ν)} (h : (es.map Prod.fst).Nodup)
    {k : κ} {v : ν} (hmem : (k, v) ∈ es) : es.lookup k = some v := by
  induction es with
  | nil => simp at hmem
  | cons e rest ih =>
    rw [List.map_cons, List.nodup_cons] at h
    rw [lookup_cons_ite]
    rcases List.mem_cons.mp hmem with rfl | hrest
    · rw [if_pos rfl]
    · have hne : ¬ k = e.1 := by
        rintro rfl
        exact h.1 (List.mem_map.mpr ⟨_, hrest, rfl⟩)
      rw [if_neg hne, ih h.2 hrest]

/-- What a key finds is an entry. -/
private theorem mem_of_lookup_eq_some {es : List (κ × ν)} {k : κ} {v : ν}
    (h : es.lookup k = some v) : (k, v) ∈ es := by
  induction es with
  | nil => simp at h
  | cons e rest ih =>
    rw [lookup_cons_ite] at h
    split at h
    · rename_i hk
      cases h
      exact hk ▸ List.mem_cons_self
    · exact List.mem_cons_of_mem _ (ih h)

/-- The entries and the lookups say the same. -/
theorem mem_entries_iff (m : LinkedMap κ ν) (k : κ) (v : ν) :
    (k, v) ∈ m.entries ↔ m.get? k = some v :=
  ⟨lookup_eq_some_of_mem m.nodup, mem_of_lookup_eq_some⟩

/-- The order of the entries does not matter for a lookup. -/
theorem get?_eq_of_perm {m m' : LinkedMap κ ν} (h : m.entries.Perm m'.entries) (k : κ) :
    m.get? k = m'.get? k := by
  apply Option.ext
  intro v
  rw [← mem_entries_iff, ← mem_entries_iff, h.mem_iff]

/-- Equality of the sets of entries: as many, and all of the one are in the other. The order
does not count. -/
def equals [DecidableEq ν] (m m' : LinkedMap κ ν) : Bool :=
  m'.entries.length == m.entries.length && m'.entries.all fun e => decide (e ∈ m.entries)

/-- Equality of maps does not look at the order of their entries. -/
theorem equals_iff_perm [DecidableEq ν] (m m' : LinkedMap κ ν) :
    m.equals m' = true ↔ m'.entries.Perm m.entries := by
  unfold equals
  rw [Bool.and_eq_true, beq_iff_eq, List.all_eq_true]
  constructor
  · rintro ⟨hlength, hmem⟩
    have hnodup : m'.entries.Nodup := .of_map Prod.fst m'.nodup
    have hsubset : m'.entries ⊆ m.entries := fun e he => of_decide_eq_true (hmem e he)
    exact (List.subperm_of_subset hnodup hsubset).perm_of_length_le (Nat.le_of_eq hlength.symm)
  · exact fun hperm => ⟨hperm.length_eq, fun e he => decide_eq_true (hperm.subset he)⟩

/-- The keys are the keys that have a value. -/
theorem mem_keys_iff (m : LinkedMap κ ν) (k : κ) : k ∈ m.keys ↔ m.contains k = true := by
  rw [keys, List.mem_map, contains, Option.isSome_iff_exists]
  constructor
  · rintro ⟨⟨k', v⟩, hmem, rfl⟩
    exact ⟨v, (m.mem_entries_iff _ _).mp hmem⟩
  · rintro ⟨v, hv⟩
    exact ⟨(k, v), (m.mem_entries_iff _ _).mpr hv, rfl⟩

/-- A removed key has no value; every other key has the one it had. -/
@[simp] theorem get?_remove (m : LinkedMap κ ν) (k j : κ) :
    (m.remove k).get? j = if j = k then none else m.get? j := by
  -- a value of the map without `k` is one of the map, of another key
  have hiff : ∀ v, (m.remove k).get? j = some v ↔ j ≠ k ∧ m.get? j = some v := by
    intro v
    rw [← mem_entries_iff, ← mem_entries_iff]
    simp [remove, and_comm]
  by_cases h : j = k
  · rw [if_pos h, Option.eq_none_iff_forall_ne_some]
    intro v hv
    exact ((hiff v).mp hv).1 h
  · rw [if_neg h]
    apply Option.ext
    intro v
    rw [hiff v]
    exact ⟨And.right, fun hv => ⟨h, hv⟩⟩

/-- Removing a key takes its entry out and no other. -/
theorem mem_entries_remove (m : LinkedMap κ ν) (k : κ) (e : κ × ν) :
    e ∈ (m.remove k).entries ↔ e.1 ≠ k ∧ e ∈ m.entries := by
  simp [remove, and_comm]

/-- Keys that are removed one after another have no value; every other key has the one it had. -/
theorem get?_removeAll (ks : List κ) (m : LinkedMap κ ν) (j : κ) :
    (ks.foldl remove m).get? j = if j ∈ ks then none else m.get? j := by
  induction ks generalizing m with
  | nil => rfl
  | cons k rest ih =>
    rw [List.foldl_cons, ih, get?_remove]
    by_cases hj : j ∈ rest <;> by_cases hk : j = k <;> simp [hj, hk]

/-- Removing keys takes their entries out and no other. -/
theorem mem_entries_removeAll (ks : List κ) (m : LinkedMap κ ν) (e : κ × ν) :
    e ∈ (ks.foldl remove m).entries ↔ e.1 ∉ ks ∧ e ∈ m.entries := by
  induction ks generalizing m with
  | nil => simp
  | cons k rest ih =>
    rw [List.foldl_cons, ih, mem_entries_remove, List.mem_cons, not_or, and_left_comm, and_assoc]

/-- Removing keys takes these keys away and no other. -/
theorem mem_keys_removeAll (ks : List κ) (m : LinkedMap κ ν) (j : κ) :
    j ∈ (ks.foldl remove m).keys ↔ j ∉ ks ∧ j ∈ m.keys := by
  simp only [keys, List.mem_map, mem_entries_removeAll]
  constructor
  · rintro ⟨e, ⟨hout, hmem⟩, rfl⟩
    exact ⟨hout, e, hmem, rfl⟩
  · rintro ⟨hout, e, hmem, rfl⟩
    exact ⟨e, ⟨hout, hmem⟩, rfl⟩

/-- A key keeps its place. -/
theorem keys_isPrefix_put (m : LinkedMap κ ν) (k : κ) (v : ν) : m.keys <+: (m.put k v).keys := by
  rw [show (m.put k v).keys = if k ∈ m.keys then m.keys else m.keys ++ [k] from
    Entries.keys_put k v m.entries]
  split
  · exact List.prefix_rfl
  · exact List.prefix_append _ _

/-- Putting entries only adds keys at the end. -/
theorem keys_isPrefix_putAll (m : LinkedMap κ ν) (es : List (κ × ν)) :
    m.keys <+: (m.putAll es).keys :=
  List.foldlRecOn (motive := fun m' => m.keys <+: m'.keys) es _ List.prefix_rfl
    fun m' h e _ => h.trans (keys_isPrefix_put m' e.1 e.2)

/-- New entries are written behind the others. -/
theorem entries_putAll {es : List (κ × ν)} {m : LinkedMap κ ν}
    (h : (m.keys ++ es.map Prod.fst).Nodup) : (m.putAll es).entries = m.entries ++ es := by
  induction es generalizing m with
  | nil => exact (List.append_nil _).symm
  | cons e rest ih =>
    -- the first entry's key is new, and the rest is new to the larger map
    have hnew : e.1 ∉ m.keys := fun hmem =>
      (List.nodup_append.mp h).2.2 e.1 hmem e.1 List.mem_cons_self rfl
    have hput : (m.put e.1 e.2).entries = m.entries ++ [e] := Entries.put_of_not_mem hnew e.2
    have hkeys : (m.put e.1 e.2).keys ++ rest.map Prod.fst = m.keys ++ (e :: rest).map Prod.fst := by
      rw [keys, hput, List.map_append, List.append_assoc]
      rfl
    rw [putAll_cons, ih (hkeys ▸ h), hput, List.append_assoc]
    rfl

/-- Copying a map. -/
theorem putAll_entries (m : LinkedMap κ ν) : empty.putAll m.entries = m :=
  ext (entries_putAll m.nodup)

/-- Removing a key that is not there changes nothing. -/
theorem remove_eq_self {m : LinkedMap κ ν} {k : κ} (h : k ∉ m.keys) : m.remove k = m := by
  have hfilter : m.entries.filter (fun e => decide (e.1 ≠ k)) = m.entries := by
    refine List.filter_eq_self.mpr fun e he => decide_eq_true ?_
    rintro rfl
    exact h (List.mem_map_of_mem he)
  exact ext hfilter

/-- Removing keys that are not there changes nothing. -/
theorem removeAll_eq_self {ks : List κ} {m : LinkedMap κ ν} (h : ∀ k ∈ ks, k ∉ m.keys) :
    ks.foldl remove m = m := by
  induction ks with
  | nil => rfl
  | cons k rest ih =>
    rw [List.foldl_cons, remove_eq_self (h k List.mem_cons_self)]
    exact ih fun k' hk' => h k' (List.mem_cons_of_mem k hk')

/-- Read from the end, the keys are those written, without all but their last occurrence
there. -/
theorem reverse_keys_put (m : LinkedMap κ ν) (k : κ) (v : ν) :
    (m.put k v).keys.reverse = (k :: m.keys.reverse).dedup := by
  have hnodup : m.keys.reverse.Nodup := List.nodup_reverse.mpr m.nodup
  rw [show (m.put k v).keys = if k ∈ m.keys then m.keys else m.keys ++ [k] from
    Entries.keys_put k v m.entries]
  by_cases hk : k ∈ m.keys
  · rw [if_pos hk, List.dedup_cons_of_mem (List.mem_reverse.mpr hk), hnodup.dedup]
  · rw [if_neg hk, List.reverse_append,
      List.dedup_cons_of_notMem fun h => hk (List.mem_reverse.mp h), hnodup.dedup]
    rfl

/-- The keys, the newest first, after entries were put. -/
theorem reverse_keys_putAll (m : LinkedMap κ ν) (es : List (κ × ν)) :
    (m.putAll es).keys.reverse = ((es.map Prod.fst).reverse ++ m.keys.reverse).dedup := by
  induction es generalizing m with
  | nil => exact (List.nodup_reverse.mpr m.nodup).dedup.symm
  | cons e rest ih =>
    rw [putAll_cons, ih, reverse_keys_put, List.dedup_append, List.dedup_idem, ← List.dedup_append,
      List.map_cons, List.reverse_cons, List.append_assoc]
    rfl

/-- A key that none of the written entries has keeps its value. -/
theorem get?_putAll_of_not_mem {es : List (κ × ν)} {k : κ} (h : k ∉ es.map Prod.fst)
    (m : LinkedMap κ ν) : (m.putAll es).get? k = m.get? k := by
  induction es generalizing m with
  | nil => rfl
  | cons e rest ih =>
    rw [List.map_cons, List.mem_cons, not_or] at h
    rw [putAll_cons, ih h.2, get?_put, if_neg h.1]

end LinkedMap
