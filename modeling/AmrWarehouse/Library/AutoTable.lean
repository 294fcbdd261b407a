import AmrWarehouse.Library.Dict

/-! Tables whose rows get increasing identifiers. The last row of a key stands for the key. -/

namespace Library

variable {κ α : Type} [DecidableEq κ]

structure AutoTable (α : Type) where
  rows : List (ℕ × α)
  lastId : ℕ
  increasing : (rows.map Prod.fst).Pairwise (· < ·)
  bounded : ∀ r ∈ rows, 0 < r.1 ∧ r.1 ≤ lastId

namespace AutoTable

def empty : AutoTable α := ⟨[], 0, by simp, by simp⟩

def insert (t : AutoTable α) (a : α) : AutoTable α where
  rows := t.rows ++ [(t.lastId + 1, a)]
  lastId := t.lastId + 1
  increasing := by
    rw [List.map_append, List.pairwise_append]
    refine ⟨t.increasing, by simp, ?_⟩
    intro i hi j hj
    obtain ⟨r, hr, rfl⟩ := List.mem_map.mp hi
    have hb := t.bounded r hr
    simp only [List.map_cons, List.map_nil, List.mem_singleton] at hj
    omega
  bounded := by
    intro r hr
    rcases List.mem_append.mp hr with h | h
    · have hb := t.bounded r h
      omega
    · rw [List.mem_singleton.mp h]
      omega

def updateRow (id : ℕ) (f : α → α) (r : ℕ × α) : ℕ × α := if r.1 = id then (r.1, f r.2) else r

@[simp] lemma updateRow_fst (id : ℕ) (f : α → α) (r : ℕ × α) : (updateRow id f r).1 = r.1 := by
  rw [updateRow]
  split <;> rfl

def update (t : AutoTable α) (id : ℕ) (f : α → α) : AutoTable α where
  rows := t.rows.map (updateRow id f)
  lastId := t.lastId
  increasing := by
    have h : (t.rows.map (updateRow id f)).map Prod.fst = t.rows.map Prod.fst := by
      simp [List.map_map, Function.comp_def]
    rw [h]
    exact t.increasing
  bounded := by
    intro r hr
    obtain ⟨q, hq, rfl⟩ := List.mem_map.mp hr
    rw [updateRow_fst]
    exact t.bounded q hq

def find? (t : AutoTable α) (id : ℕ) : Option α := t.rows.lookup id

def latest (t : AutoTable α) (key : α → κ) (k : κ) : Option (ℕ × α) :=
  t.rows.reverse.find? (fun r => key r.2 = k)

lemma mem_of_latest {t : AutoTable α} {key : α → κ} {k : κ} {r : ℕ × α}
    (h : t.latest key k = some r) : r ∈ t.rows ∧ key r.2 = k := by
  have hm := List.mem_of_find?_eq_some h
  have hk := List.find?_some h
  exact ⟨List.mem_reverse.mp hm, by simpa using hk⟩

lemma find?_of_mem {t : AutoTable α} {r : ℕ × α} (h : r ∈ t.rows) : t.find? r.1 = some r.2 := by
  have hn : (t.rows.map Prod.fst).Nodup := t.increasing.imp (fun hlt => Nat.ne_of_lt hlt)
  exact lookup_of_mem hn h

lemma eq_of_mem_of_id {t : AutoTable α} {r q : ℕ × α} (hr : r ∈ t.rows) (hq : q ∈ t.rows)
    (h : r.1 = q.1) : r = q := by
  have h1 := find?_of_mem hr
  have h2 := find?_of_mem hq
  rw [h, h2] at h1
  exact Prod.ext h (Option.some.inj h1).symm

lemma latest_insert (t : AutoTable α) (key : α → κ) (k : κ) (a : α) :
    (t.insert a).latest key k = if key a = k then some (t.lastId + 1, a) else t.latest key k := by
  simp only [latest, insert, List.reverse_append, List.reverse_singleton, List.singleton_append,
    List.find?_cons]
  by_cases hk : key a = k <;> simp [hk]

omit [DecidableEq κ] in
lemma updateRow_key (key : α → κ) (id : ℕ) (f : α → α) (hf : ∀ a, key (f a) = key a) (r : ℕ × α) :
    key (updateRow id f r).2 = key r.2 := by
  rw [updateRow]
  split
  · exact hf r.2
  · rfl

lemma latest_update (t : AutoTable α) (key : α → κ) (k : κ) (id : ℕ) (f : α → α)
    (hf : ∀ a, key (f a) = key a) :
    (t.update id f).latest key k = (t.latest key k).map (updateRow id f) := by
  simp only [latest, update, ← List.map_reverse, List.find?_map, Function.comp_def,
    updateRow_key key id f hf]

lemma find?_update_of_mem {t : AutoTable α} {r : ℕ × α} (f : α → α) (h : r ∈ t.rows) :
    (t.update r.1 f).find? r.1 = some (f r.2) := by
  have hm : (r.1, f r.2) ∈ (t.update r.1 f).rows := by
    refine List.mem_map.mpr ⟨r, h, ?_⟩
    simp [updateRow]
  exact find?_of_mem hm

lemma find?_update (t : AutoTable α) (id j : ℕ) (f : α → α) :
    (t.update id f).find? j = if j = id then (t.find? id).map f else t.find? j := by
  rw [find?, find?, find?, update]
  dsimp only
  induction t.rows with
  | nil => simp
  | cons r rows ih =>
    rw [List.map_cons, lookup_cons_ite, lookup_cons_ite, lookup_cons_ite, updateRow_fst, ih]
    by_cases hj : j = id
    · subst hj
      by_cases hr : j = r.1 <;> simp [updateRow, hr]
    · by_cases hr : j = r.1
      · subst hr
        simp [updateRow, hj]
      · simp [hr, hj]

lemma mem_of_find? {t : AutoTable α} {id : ℕ} {a : α} (h : t.find? id = some a) :
    (id, a) ∈ t.rows := by
  rw [find?] at h
  obtain ⟨before, after, hrows, -⟩ := List.lookup_eq_some_iff.mp h
  simp [hrows]

@[simp] lemma update_ids (t : AutoTable α) (id : ℕ) (f : α → α) :
    (t.update id f).rows.map Prod.fst = t.rows.map Prod.fst := by
  simp [update, List.map_map, Function.comp_def]

lemma find?_insert_self (t : AutoTable α) (a : α) : (t.insert a).find? (t.lastId + 1) = some a := by
  have hm : (t.lastId + 1, a) ∈ (t.insert a).rows := by simp [insert]
  exact find?_of_mem hm

end AutoTable

namespace Dict

lemma get?_ofList (es : List (κ × α)) (k : κ) :
    (ofList es).get? k = (es.reverse.find? (fun e => e.1 = k)).map Prod.snd := by
  have hgen : ∀ d : Dict κ α, (es.foldl (fun d e => d.set e.1 e.2) d).get? k =
      ((es.reverse.find? (fun e => e.1 = k)).map Prod.snd).or (d.get? k) := by
    induction es with
    | nil => simp
    | cons e es ih =>
      intro d
      rw [List.foldl_cons, ih, get?_set, List.reverse_cons, List.find?_append]
      by_cases he : e.1 = k
      · cases es.reverse.find? (fun e => e.1 = k) <;> simp [he]
      · cases es.reverse.find? (fun e => e.1 = k) <;> simp [he, Ne.symm he]
  rw [ofList, hgen empty, get?_empty, Option.or_none]

lemma get?_ofList_map (f : κ → α) (ks : List κ) (k : κ) :
    (ofList (ks.map fun j => (j, f j))).get? k = if k ∈ ks then some (f k) else none := by
  have hfind : ∀ js : List κ, ((js.map fun j => (j, f j)).find? (fun e => e.1 = k)).map Prod.snd =
      if k ∈ js then some (f k) else none := by
    intro js
    induction js with
    | nil => simp
    | cons j js ih =>
      rw [List.map_cons, List.find?_cons]
      by_cases hj : j = k
      · simp [hj]
      · simp only [hj, decide_false, ih, List.mem_cons, Ne.symm hj, false_or]
  rw [get?_ofList, ← List.map_reverse, hfind]
  simp only [List.mem_reverse]

lemma get?_ofList_eq {es : List (κ × α)} {d : Dict κ α} (hmem : ∀ e ∈ es, d.get? e.1 = some e.2)
    (hall : ∀ k v, d.get? k = some v → (k, v) ∈ es) (k : κ) : (ofList es).get? k = d.get? k := by
  rw [get?_ofList]
  cases hfind : es.reverse.find? (fun e => e.1 = k) with
  | some e =>
    have he := hmem e (List.mem_reverse.mp (List.mem_of_find?_eq_some hfind))
    have hkey := List.find?_some hfind
    simp only [decide_eq_true_eq] at hkey
    rw [← hkey, he]
    rfl
  | none =>
    cases hget : d.get? k with
    | none => rfl
    | some v =>
      have hnone := List.find?_eq_none.mp hfind (k, v) (List.mem_reverse.mpr (hall k v hget))
      simp at hnone

end Dict

end Library
