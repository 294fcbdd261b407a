import Mathlib.Tactic

/-! A lock with a queue: whoever finds it taken waits, and a release passes it to the first waiter.
-/

namespace Library

variable {ρ : Type} [DecidableEq ρ]

structure FifoLock (ρ : Type) where
  owner : Option ρ
  queue : List ρ
  distinct : queue.Nodup
  apart : ∀ a, owner = some a → a ∉ queue
  held : queue ≠ [] → owner.isSome

namespace FifoLock

def free : FifoLock ρ := ⟨none, [], by simp, by simp, by simp⟩

omit [DecidableEq ρ] in
lemma queue_of_free {l : FifoLock ρ} (h : l.owner = none) : l.queue = [] := by
  by_contra hq
  simpa [h] using l.held hq

def join (l : FifoLock ρ) (a : ρ) (ho : l.owner.isSome) (hne : l.owner ≠ some a)
    (hq : a ∉ l.queue) : FifoLock ρ where
  owner := l.owner
  queue := l.queue ++ [a]
  distinct := by
    rw [List.nodup_append]
    refine ⟨l.distinct, by simp, ?_⟩
    intro b hb c hc hbc
    rw [List.mem_singleton] at hc
    exact hq (hc ▸ hbc ▸ hb)
  apart := by
    intro b hb hmem
    rcases List.mem_append.mp hmem with h | h
    · exact l.apart b hb h
    · rw [List.mem_singleton] at h
      exact hne (h ▸ hb)
  held := fun _ => ho

def acquire (l : FifoLock ρ) (a : ρ) : FifoLock ρ :=
  if hfree : l.owner = none then ⟨some a, [], by simp, by simp, by simp⟩
  else if hne : l.owner = some a then l
  else if hq : a ∈ l.queue then l
  else l.join a (Option.isSome_iff_ne_none.mpr hfree) hne hq

def release (l : FifoLock ρ) : FifoLock ρ where
  owner := l.queue.head?
  queue := l.queue.tail
  distinct := l.distinct.tail
  apart := by
    intro a ha
    cases hq : l.queue with
    | nil => simp
    | cons b rest =>
      have hdistinct := hq ▸ l.distinct
      rw [hq, List.head?_cons, Option.some.injEq] at ha
      exact ha ▸ (List.nodup_cons.mp hdistinct).1
  held := by
    cases l.queue with
    | nil => simp
    | cons b rest => simp

inductive Step : FifoLock ρ → FifoLock ρ → Prop
  | stay (l) : Step l l
  | acquire (l a) : Step l (l.acquire a)
  | release (l) : Step l l.release

section Acquire

variable {l : FifoLock ρ} {a : ρ}

lemma acquire_of_free (h : l.owner = none) :
    (l.acquire a).owner = some a ∧ (l.acquire a).queue = [] := by
  simp [acquire, h]

lemma acquire_of_owner (h : l.owner = some a) : l.acquire a = l := by
  simp [acquire, h]

lemma acquire_of_waiting (h : a ∈ l.queue) : l.acquire a = l := by
  have hheld := l.held (List.ne_nil_of_mem h)
  rw [Option.isSome_iff_ne_none] at hheld
  simp [acquire, hheld, h]

lemma acquire_of_taken (ho : l.owner ≠ none) (hne : l.owner ≠ some a) :
    (l.acquire a).owner = l.owner ∧
      (l.acquire a).queue = if a ∈ l.queue then l.queue else l.queue ++ [a] := by
  by_cases hq : a ∈ l.queue
  · simp [acquire_of_waiting hq, hq]
  · simp [acquire, ho, hne, hq, join]

lemma acquire_holds_or_waits (l : FifoLock ρ) (a : ρ) :
    (l.acquire a).owner = some a ∨ a ∈ (l.acquire a).queue := by
  by_cases hfree : l.owner = none
  · exact Or.inl (acquire_of_free hfree).1
  · by_cases hne : l.owner = some a
    · exact Or.inl (by rw [acquire_of_owner hne, hne])
    · right
      rw [(acquire_of_taken hfree hne).2]
      split_ifs with hq
      · exact hq
      · simp

lemma acquire_acquire (l : FifoLock ρ) (a : ρ) : (l.acquire a).acquire a = l.acquire a :=
  (l.acquire_holds_or_waits a).elim acquire_of_owner acquire_of_waiting

lemma acquire_owner_self : (l.acquire a).owner = some a ↔ l.owner = none ∨ l.owner = some a := by
  by_cases hfree : l.owner = none
  · simp [(acquire_of_free hfree).1, hfree]
  · by_cases hne : l.owner = some a
    · simp [acquire_of_owner hne, hne]
    · rw [(acquire_of_taken hfree hne).1]
      simp [hfree, hne]

lemma mem_acquire_self : a ∈ (l.acquire a).queue ↔ l.owner ≠ none ∧ l.owner ≠ some a := by
  by_cases hfree : l.owner = none
  · simp [(acquire_of_free hfree).2, hfree]
  · by_cases hne : l.owner = some a
    · simp [acquire_of_owner hne, hne, l.apart a hne]
    · rw [(acquire_of_taken hfree hne).2]
      by_cases hq : a ∈ l.queue <;> simp [hfree, hne, hq]

variable {b : ρ}

lemma acquire_owner_other (hb : b ≠ a) : (l.acquire a).owner = some b ↔ l.owner = some b := by
  by_cases hfree : l.owner = none
  · simp [(acquire_of_free hfree).1, hfree, hb.symm]
  · by_cases hne : l.owner = some a
    · rw [acquire_of_owner hne]
    · rw [(acquire_of_taken hfree hne).1]

lemma mem_acquire_other (hb : b ≠ a) : b ∈ (l.acquire a).queue ↔ b ∈ l.queue := by
  by_cases hfree : l.owner = none
  · simp [(acquire_of_free hfree).2, queue_of_free hfree]
  · by_cases hne : l.owner = some a
    · rw [acquire_of_owner hne]
    · rw [(acquire_of_taken hfree hne).2]
      split_ifs <;> simp [hb]

end Acquire

def acquireAll {κ : Type} [DecidableEq κ] (a : ρ) (ks : List κ) (locks : κ → FifoLock ρ) (k : κ) :
    FifoLock ρ :=
  if k ∈ ks then (locks k).acquire a else locks k

lemma update_acquireAll {κ : Type} [DecidableEq κ] (a : ρ) (ks : List κ) (k : κ)
    (locks : κ → FifoLock ρ) :
    Function.update (acquireAll a ks locks) k ((acquireAll a ks locks k).acquire a) =
      acquireAll a (ks ++ [k]) locks := by
  funext j
  rw [Function.update_apply]
  by_cases hj : j = k
  · subst hj
    by_cases hmem : j ∈ ks
    · simp [acquireAll, hmem, acquire_acquire]
    · simp [acquireAll, hmem]
  · simp [acquireAll, hj]

def joins (before after : List ρ) : List ρ := after.filter (· ∉ before)

def grants (before : List ρ) (owner : Option ρ) : List ρ := owner.toList.filter (· ∈ before)

lemma joins_self (q : List ρ) : joins q q = [] := by simp [joins]

lemma grants_self (l : FifoLock ρ) : grants l.queue l.owner = [] := by
  rw [grants, List.filter_eq_nil_iff]
  intro a ha
  rw [Option.mem_toList] at ha
  simpa using l.apart a ha

lemma joins_of_append {q : List ρ} {a : ρ} (h : a ∉ q) : joins q (q ++ [a]) = [a] := by
  rw [joins, List.filter_append]
  simp [h]

lemma joins_of_tail (b : ρ) (q : List ρ) : joins (b :: q) q = [] := by
  rw [joins, List.filter_eq_nil_iff]
  intro a ha
  simp [ha]

lemma Step.flow {l l' : FifoLock ρ} (h : Step l l') :
    l.queue ++ joins l.queue l'.queue = grants l.queue l'.owner ++ l'.queue := by
  cases h with
  | stay => rw [joins_self, grants_self, List.append_nil, List.nil_append]
  | acquire a =>
    by_cases hfree : l.owner = none
    · obtain ⟨ho, hq⟩ := acquire_of_free (a := a) hfree
      rw [ho, hq, queue_of_free hfree]
      simp [joins, grants]
    · by_cases hsame : l.owner = some a ∨ a ∈ l.queue
      · have hstay : l.acquire a = l := hsame.elim acquire_of_owner acquire_of_waiting
        rw [hstay, joins_self, grants_self, List.append_nil, List.nil_append]
      · push Not at hsame
        obtain ⟨ho, hq⟩ := acquire_of_taken hfree hsame.1
        rw [ho, hq, if_neg hsame.2, joins_of_append hsame.2, grants_self, List.nil_append]
  | release =>
    change l.queue ++ joins l.queue l.queue.tail = grants l.queue l.queue.head? ++ l.queue.tail
    cases l.queue with
    | nil => simp [joins, grants]
    | cons b rest => simp [joins_of_tail, grants]

lemma Step.waits_or_holds {l l' : FifoLock ρ} (h : Step l l') {a : ρ} (ha : a ∈ l.queue) :
    a ∈ l'.queue ∨ l'.owner = some a := by
  have hmem : a ∈ grants l.queue l'.owner ++ l'.queue := by
    rw [← h.flow]
    exact List.mem_append_left _ ha
  rcases List.mem_append.mp hmem with hgrant | hwait
  · rw [grants, List.mem_filter, Option.mem_toList] at hgrant
    exact Or.inr hgrant.1
  · exact Or.inl hwait

end FifoLock

end Library
