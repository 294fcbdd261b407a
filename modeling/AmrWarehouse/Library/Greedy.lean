import Mathlib.Data.List.MinMax
import Mathlib.Tactic

/-! Greedy assignment: each job in its turn takes the least worker that is left. -/

namespace Library

variable {ι ω κ : Type} [DecidableEq ω] [LinearOrder κ]

def greedy (key : ι → ω → κ) : List ι → List ω → List (ι × ω)
  | [], _ => []
  | job :: jobs, workers =>
    match workers.argmin (key job) with
    | none => []
    | some worker => (job, worker) :: greedy key jobs (workers.erase worker)

variable {key : ι → ω → κ} {job : ι} {jobs : List ι} {workers : List ω} {worker : ω}

lemma greedy_cons (h : worker ∈ workers.argmin (key job)) :
    greedy key (job :: jobs) workers = (job, worker) :: greedy key jobs (workers.erase worker) := by
  rw [Option.mem_def] at h
  rw [greedy, h]

lemma greedy_nil (jobs : List ι) : greedy key jobs [] = [] := by
  cases jobs with
  | nil => rfl
  | cons job jobs => rfl

omit [DecidableEq ω] in
lemma mem_argmin {f : ω → κ} (hmem : worker ∈ workers)
    (hleast : ∀ other ∈ workers, f worker ≤ f other)
    (hdistinct : ∀ other ∈ workers, f other = f worker → other = worker) :
    worker ∈ workers.argmin f := by
  cases hmin : workers.argmin f with
  | none => simp [List.argmin_eq_none.mp hmin] at hmem
  | some least =>
    have hle : f least ≤ f worker := List.le_of_mem_argmin hmem hmin
    have hin : least ∈ workers := List.argmin_mem hmin
    rw [hdistinct least hin (le_antisymm hle (hleast least hin))]
    rfl

lemma jobs_of_greedy (key : ι → ω → κ) (jobs : List ι) (workers : List ω) :
    (greedy key jobs workers).map Prod.fst = jobs.take workers.length := by
  induction jobs generalizing workers with
  | nil => simp [greedy]
  | cons job jobs ih =>
    rw [greedy]
    cases hmin : workers.argmin (key job) with
    | none => simp [List.argmin_eq_none.mp hmin]
    | some worker =>
      have hmem : worker ∈ workers := List.argmin_mem hmin
      have hlength : workers.length = (workers.erase worker).length + 1 := by
        rw [List.length_erase_of_mem hmem]
        have hpos := List.length_pos_of_mem hmem
        omega
      dsimp only
      rw [List.map_cons, ih, hlength, List.take_succ_cons]

lemma mem_jobs_of_greedy {pair : ι × ω} (h : pair ∈ greedy key jobs workers) : pair.1 ∈ jobs := by
  have hjob : pair.1 ∈ (greedy key jobs workers).map Prod.fst := List.mem_map_of_mem h
  rw [jobs_of_greedy] at hjob
  exact List.mem_of_mem_take hjob

lemma mem_workers_of_greedy {pair : ι × ω} (h : pair ∈ greedy key jobs workers) :
    pair.2 ∈ workers := by
  induction jobs generalizing workers with
  | nil => simp [greedy] at h
  | cons job jobs ih =>
    rw [greedy] at h
    cases hmin : workers.argmin (key job) with
    | none => simp [hmin] at h
    | some worker =>
      rw [hmin] at h
      rcases List.mem_cons.mp h with rfl | hlater
      · exact List.argmin_mem hmin
      · exact List.mem_of_mem_erase (ih hlater)

lemma nodup_workers_of_greedy (key : ι → ω → κ) (jobs : List ι) (h : workers.Nodup) :
    ((greedy key jobs workers).map Prod.snd).Nodup := by
  induction jobs generalizing workers with
  | nil => simp [greedy]
  | cons job jobs ih =>
    rw [greedy]
    cases hmin : workers.argmin (key job) with
    | none => simp
    | some worker =>
      dsimp only
      rw [List.map_cons, List.nodup_cons]
      refine ⟨?_, ih (h.erase worker)⟩
      intro hmem
      obtain ⟨pair, hpair, heq⟩ := List.mem_map.mp hmem
      have hleft := mem_workers_of_greedy hpair
      rw [heq] at hleft
      exact h.not_mem_erase hleft

end Library
