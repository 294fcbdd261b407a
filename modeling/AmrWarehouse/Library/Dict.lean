import Mathlib.Data.List.Sort
import Mathlib.Data.List.Nodup
import Mathlib.Tactic

/-! Insertion-ordered dictionaries. Writing an existing key keeps its place, a new key goes last. -/

namespace Library

variable {κ ν μ : Type} [DecidableEq κ]

def putEntry (k : κ) (v : ν) : List (κ × ν) → List (κ × ν)
  | [] => [(k, v)]
  | e :: es => if e.1 = k then (k, v) :: es else e :: putEntry k v es

lemma mem_keys_putEntry (k j : κ) (v : ν) (es : List (κ × ν)) :
    j ∈ (putEntry k v es).map Prod.fst ↔ j = k ∨ j ∈ es.map Prod.fst := by
  induction es with
  | nil => simp [putEntry]
  | cons e es ih =>
    by_cases he : e.1 = k
    · simp [putEntry, he]
    · rw [putEntry, if_neg he, List.map_cons, List.mem_cons, ih, List.map_cons, List.mem_cons]
      tauto

lemma nodup_putEntry (k : κ) (v : ν) (es : List (κ × ν)) (h : (es.map Prod.fst).Nodup) :
    ((putEntry k v es).map Prod.fst).Nodup := by
  induction es with
  | nil => simp [putEntry]
  | cons e es ih =>
    rw [List.map_cons, List.nodup_cons] at h
    by_cases he : e.1 = k
    · rw [putEntry, if_pos he, List.map_cons, List.nodup_cons]
      exact ⟨he ▸ h.1, h.2⟩
    · rw [putEntry, if_neg he, List.map_cons, List.nodup_cons]
      refine ⟨?_, ih h.2⟩
      rw [mem_keys_putEntry]
      rintro (hk | hk)
      · exact he hk
      · exact h.1 hk

lemma lookup_cons_ite (j : κ) (e : κ × ν) (es : List (κ × ν)) :
    (e :: es).lookup j = if j = e.1 then some e.2 else es.lookup j := by
  rw [List.lookup_cons]
  by_cases hj : j = e.1
  · simp [hj]
  · rw [if_neg hj, beq_false_of_ne hj]

lemma lookup_putEntry (k j : κ) (v : ν) (es : List (κ × ν)) :
    (putEntry k v es).lookup j = if j = k then some v else es.lookup j := by
  induction es with
  | nil => simp [putEntry, lookup_cons_ite]
  | cons e es ih =>
    by_cases he : e.1 = k
    · rw [putEntry, if_pos he, lookup_cons_ite, lookup_cons_ite, he]
      by_cases hj : j = k <;> simp [hj]
    · rw [putEntry, if_neg he, lookup_cons_ite, lookup_cons_ite, ih]
      by_cases hj : j = e.1
      · simp [hj, he]
      · simp [hj]

lemma putEntry_of_not_mem (k : κ) (v : ν) (es : List (κ × ν)) (h : k ∉ es.map Prod.fst) :
    putEntry k v es = es ++ [(k, v)] := by
  induction es with
  | nil => rfl
  | cons e es ih =>
    rw [List.map_cons, List.mem_cons, not_or] at h
    rw [putEntry, if_neg (Ne.symm h.1), ih h.2, List.cons_append]

lemma lookup_of_mem {e : κ × ν} {es : List (κ × ν)} (hn : (es.map Prod.fst).Nodup) (h : e ∈ es) :
    es.lookup e.1 = some e.2 := by
  induction es with
  | nil => simp at h
  | cons q qs ih =>
    rw [List.map_cons, List.nodup_cons] at hn
    rw [lookup_cons_ite]
    rcases List.mem_cons.mp h with rfl | h
    · simp
    · have hne : e.1 ≠ q.1 := by
        intro he
        exact hn.1 (he ▸ List.mem_map_of_mem h)
      rw [if_neg hne]
      exact ih hn.2 h

lemma putEntry_putEntry (k : κ) (u v : ν) (es : List (κ × ν)) :
    putEntry k v (putEntry k u es) = putEntry k v es := by
  induction es with
  | nil => simp [putEntry]
  | cons e es ih =>
    by_cases he : e.1 = k
    · simp [putEntry, he]
    · simp [putEntry, he, ih]

/-- A dictionary: entries in the order their keys were first written, each key once. -/
structure Dict (κ ν : Type) where
  entries : List (κ × ν)
  distinct : (entries.map Prod.fst).Nodup

namespace Dict

def empty : Dict κ ν := ⟨[], by simp⟩

def get? (d : Dict κ ν) (k : κ) : Option ν := d.entries.lookup k

def set (d : Dict κ ν) (k : κ) (v : ν) : Dict κ ν :=
  ⟨putEntry k v d.entries, nodup_putEntry k v d.entries d.distinct⟩

def keys (d : Dict κ ν) : List κ := d.entries.map Prod.fst

def ofList (es : List (κ × ν)) : Dict κ ν :=
  es.foldl (fun d e => d.set e.1 e.2) empty

@[simp] lemma get?_empty (k : κ) : (empty : Dict κ ν).get? k = none := rfl

lemma get?_set (d : Dict κ ν) (k j : κ) (v : ν) :
    (d.set k v).get? j = if j = k then some v else d.get? j :=
  lookup_putEntry k j v d.entries

@[simp] lemma get?_set_self (d : Dict κ ν) (k : κ) (v : ν) : (d.set k v).get? k = some v := by
  rw [get?_set, if_pos rfl]

@[simp] lemma set_set (d : Dict κ ν) (k : κ) (u v : ν) : (d.set k u).set k v = d.set k v := by
  simp only [set, putEntry_putEntry]

lemma get?_set_of_ne (d : Dict κ ν) {k j : κ} (v : ν) (h : j ≠ k) :
    (d.set k v).get? j = d.get? j := by
  rw [get?_set, if_neg h]

lemma keys_set (d : Dict κ ν) {k : κ} (v : ν) (h : (d.get? k).isSome) :
    (d.set k v).keys = d.keys := by
  have hput : ∀ es : List (κ × ν), (es.lookup k).isSome →
      (putEntry k v es).map Prod.fst = es.map Prod.fst := by
    intro es hes
    induction es with
    | nil => simp at hes
    | cons e es ih =>
      rw [putEntry]
      split_ifs with he
      · rw [List.map_cons, List.map_cons, he]
      · rw [lookup_cons_ite, if_neg (Ne.symm he)] at hes
        rw [List.map_cons, List.map_cons, ih hes]
  exact hput d.entries h

lemma isSome_get?_set (d : Dict κ ν) (k j : κ) (v : ν) (h : (d.get? j).isSome) :
    ((d.set k v).get? j).isSome := by
  rw [get?_set]
  split
  · rfl
  · exact h

lemma mem_keys (d : Dict κ ν) (k : κ) : k ∈ d.keys ↔ (d.get? k).isSome := by
  simp only [keys, get?]
  induction d.entries with
  | nil => simp
  | cons e es ih =>
    obtain ⟨i, u⟩ := e
    rw [List.map_cons, List.mem_cons, ih, lookup_cons_ite]
    by_cases hk : k = i <;> simp [hk]

section Sorted

variable [LE κ] [DecidableLE κ]

def sortedKeys (d : Dict κ ν) : List κ := d.keys.insertionSort (· ≤ ·)

lemma mem_sortedKeys (d : Dict κ ν) (k : κ) : k ∈ d.sortedKeys ↔ (d.get? k).isSome := by
  rw [sortedKeys, List.mem_insertionSort, mem_keys]

def sortedValues (d : Dict κ ν) : List ν := d.sortedKeys.filterMap d.get?

lemma mem_sortedValues (d : Dict κ ν) (v : ν) : v ∈ d.sortedValues ↔ ∃ k, d.get? k = some v := by
  simp only [sortedValues, List.mem_filterMap, mem_sortedKeys]
  constructor
  · rintro ⟨k, _, h⟩
    exact ⟨k, h⟩
  · rintro ⟨k, h⟩
    exact ⟨k, by simp [h], h⟩

lemma map_sortedValues {d : Dict κ ν} {f : ν → κ} (h : ∀ k v, d.get? k = some v → f v = k) :
    d.sortedValues.map f = d.sortedKeys := by
  have hall : ∀ ks : List κ, (∀ k ∈ ks, (d.get? k).isSome) → (ks.filterMap d.get?).map f = ks := by
    intro ks hks
    induction ks with
    | nil => rfl
    | cons k ks ih =>
      obtain ⟨v, hv⟩ := Option.isSome_iff_exists.mp (hks k List.mem_cons_self)
      rw [List.filterMap_cons_some hv, List.map_cons, h k v hv,
        ih fun j hj => hks j (List.mem_cons_of_mem k hj)]
  exact hall d.sortedKeys fun k hk => (d.mem_sortedKeys k).mp hk

omit [DecidableEq κ] in
lemma nodup_sortedKeys (d : Dict κ ν) : d.sortedKeys.Nodup :=
  (List.perm_insertionSort (· ≤ ·) d.keys).nodup_iff.mpr d.distinct

lemma filter_sortedValues_set [DecidableEq ν] {d : Dict κ ν} {f : ν → κ}
    (hf : ∀ k v, d.get? k = some v → f v = k) {p : ν → Bool} {k : κ} {u v : ν}
    (hget : d.get? k = some u) (hv : p v = false) :
    (d.set k v).sortedValues.filter p = (d.sortedValues.filter p).erase u := by
  have hsome : (d.get? k).isSome := by rw [hget, Option.isSome_some]
  have hnodup : d.sortedValues.Nodup := by
    have hkeys := map_sortedValues hf
    exact List.Nodup.of_map f (hkeys ▸ d.nodup_sortedKeys)
  rw [(hnodup.filter p).erase_eq_filter u, sortedValues, sortedValues, sortedKeys,
    d.keys_set v hsome, List.filter_filterMap, List.filter_filterMap, List.filter_filterMap]
  apply List.filterMap_congr
  intro j _
  rw [get?_set]
  by_cases hj : j = k
  · subst hj
    rw [if_pos rfl, hget]
    cases hu : p u <;> simp [Option.filter, hu, hv]
  · rw [if_neg hj]
    cases hother : d.get? j with
    | none => rfl
    | some w =>
      have hne : w ≠ u := by
        rintro rfl
        exact hj ((hf j w hother).symm.trans (hf k w hget))
      cases hw : p w <;> simp [Option.filter, hw, hne]

end Sorted

end Dict

end Library
