import Dataflow.Proofs.Frame
import Dataflow.Cluster
/-!
Failures of a job. A fault raised anywhere in a flow travels back to the flow's caller unchanged;
where it passes a worker taking pushed tuples, the job there is failed with it on the way. A job
fails once: its first failure is recorded as one report carrying the fault's code and message,
its queued spout tasks are dropped, and nothing after that changes its record. The pool never
runs a task of a failed job again, so its spouts never move, and waiting on it gives the first
failure.

`FailStep o c c'` is what a flow ending with fault `o` may do to one job's failure, and
`FailsWith` the same for every job of the network; every flow keeps it (`FlowRel`). A push's
faults are refusals or leave its job failed (`spec_push_failed`), and a pool task whose spout step
fails ends normally with its job failed by that fault (`runTask_of_step_fault`).
-/
namespace Dataflow

/-! ### One job's failure -/

/-- What a flow ending with fault `o` may do to a job's failure: a failed job keeps its flag, its
reports and its queue; a job that was not failed keeps its reports, unless the flow fails it,
which it can only do when it ends with a fault: the job then holds one more report, carrying
that fault's code and message, and no queued task. -/
def FailStep (o : Option Fault) (c c' : JobContext) : Prop :=
  if c.failed then c'.failure = c.failure
  else if c'.failed then
    ∃ e, o = some e ∧ c'.tasks = [] ∧ ∃ r : FaultReport, r.code = e.code ∧ r.message = e.message ∧
      c'.errors = c.errors ++ [r]
  else c'.errors = c.errors

namespace FailStep

variable {o : Option Fault} {c c₁ c₂ : JobContext}

lemma failure_eq_iff : c₁.failure = c.failure ↔ c₁.failed = c.failed ∧ c₁.errors = c.errors ∧ c₁.tasks = c.tasks := by
  simp [JobContext.failure]

lemma of_failure (h : c₁.failure = c.failure) : FailStep o c c₁ := by
  obtain ⟨hf, he, -⟩ := failure_eq_iff.mp h
  unfold FailStep
  split
  · exact h
  · rw [if_neg (by simp_all)]
    exact he

lemma refl (c : JobContext) : FailStep o c c := of_failure rfl

lemma of_failed (h : FailStep o c c₁) (hf : c.failed = true) : c₁.failure = c.failure := by
  unfold FailStep at h
  rwa [if_pos hf] at h

lemma trans (h₁ : FailStep none c c₁) (h₂ : FailStep o c₁ c₂) : FailStep o c c₂ := by
  -- a failed job is frozen by both flows; one that was not cannot be failed by the first, which
  -- ends with no fault, so the second decides
  by_cases hf : c.failed = true
  · have e₁ := h₁.of_failed hf
    exact of_failure ((h₂.of_failed ((failure_eq_iff.mp e₁).1.trans hf)).trans e₁)
  · unfold FailStep at *
    rw [if_neg hf] at h₁ ⊢
    by_cases hf₁ : c₁.failed = true
    · rw [if_pos hf₁] at h₁
      obtain ⟨e, he, -⟩ := h₁
      cases he
    · rw [if_neg hf₁] at h₁ h₂
      by_cases hf₂ : c₂.failed = true
      · rw [if_pos hf₂] at h₂ ⊢
        obtain ⟨e, he, ht, r, hc, hm, hr⟩ := h₂
        exact ⟨e, he, ht, r, hc, hm, by rw [hr, h₁]⟩
      · rw [if_neg hf₂] at h₂ ⊢
        exact h₂.trans h₁

lemma raise (e : Fault) (h : FailStep none c c₁) : FailStep (some e) c c₁ := by
  unfold FailStep at *
  split
  · rename_i hf
    rw [if_pos hf] at h
    exact h
  · rename_i hf
    rw [if_neg hf] at h
    split
    · rename_i hf₁
      rw [if_pos hf₁] at h
      obtain ⟨e', he', -⟩ := h
      cases he'
    · rename_i hf₁
      rw [if_neg hf₁] at h
      exact h

lemma fail (ex : Option String) (e : Fault) (h : FailStep (some e) c c₁) : FailStep (some e) c (c₁.fail ex e) := by
  by_cases hf₁ : c₁.failed = true
  · rwa [JobContext.fail_of_failed hf₁]
  · have hf₁' : c₁.failed = false := by simpa using hf₁
    have hf : ¬c.failed = true := fun hf => hf₁ ((failure_eq_iff.mp (h.of_failed hf)).1.trans hf)
    unfold FailStep at *
    rw [if_neg hf] at h ⊢
    rw [if_neg hf₁] at h
    rw [JobContext.fail_of_not_failed hf₁', if_pos rfl]
    exact ⟨e, rfl, rfl, _, rfl, rfl, by rw [h]⟩

end FailStep

/-- What a flow ending with fault `o` may do to the failures of the network: the same jobs before
and after, each job's failure changed only as `FailStep` allows. -/
def FailsWith (s : World) (o : Option Fault) (s' : World) : Prop :=
  JobWise (fun _ j j' => FailStep o j.context j'.context) s s'

theorem flowRel_failsWith : FlowRel FailsWith :=
  FlowRel.jobWise (r := fun o _ j j' => FailStep o j.context j'.context)
    (fun _ j => FailStep.refl j.context) FailStep.trans (fun e h => h.raise e) (fun ex e h => h.fail ex e)
    (fun _ _ _ hg => FailStep.of_failure (congrArg Prod.fst (hg _))) (fun _ j _ _ => FailStep.refl j.context)
    (fun _ j _ _ => FailStep.refl j.context)

/-- Every job keeps its spout executors, but possibly the job at `p`, which keeps their number. -/
def SpoutsKept (p : Option Place) (s s' : World) : Prop :=
  JobWise (fun q j j' => j'.spouts.length = j.spouts.length ∧ (p ≠ some q → j'.spouts = j.spouts)) s s'

theorem flowRel_spoutsKept (p : Option Place) : FlowRel fun s _ s' => SpoutsKept p s s' :=
  FlowRel.jobWise (r := fun _ q j j' => j'.spouts.length = j.spouts.length ∧ (p ≠ some q → j'.spouts = j.spouts))
    (fun _ _ => ⟨rfl, fun _ => rfl⟩)
    (fun h₁ h₂ => ⟨h₂.1.trans h₁.1, fun hq => (h₂.2 hq).trans (h₁.2 hq)⟩)
    (fun _ h => h) (fun _ _ h => h) (fun _ _ _ _ => ⟨rfl, fun _ => rfl⟩) (fun _ _ _ _ => ⟨rfl, fun _ => rfl⟩)
    (fun _ _ _ _ => ⟨rfl, fun _ => rfl⟩)

lemma SpoutsKept.spoutAt_eq {s s' : World} (h : SpoutsKept none s s') (job : String) (w i : Nat) :
    s'.spoutAt job w i = s.spoutAt job w i := by
  unfold World.spoutAt
  cases hj : s.job? ⟨w, job⟩ with
  | none =>
    have hn : s'.job? ⟨w, job⟩ = none := by simpa [hj] using h.isSome ⟨w, job⟩
    rw [hn]
  | some j =>
    obtain ⟨j', hj'⟩ := Option.isSome_iff_exists.mp ((h.isSome _).trans (by rw [hj]; rfl))
    have hsp : j'.spouts = j.spouts := (h.rel _ j j' hj hj').2 (Option.some_ne_none _).symm
    rw [hj', Option.bind_some, Option.bind_some, hsp]

/-! ### Faults reach the job -/

def World.Failed (s : World) (p : Place) : Prop := ∃ j, s.job? p = some j ∧ j.context.failed = true

lemma World.failed_failJob {s : World} {p : Place} (hp : (s.job? p).isSome) (ex : Option String) (e : Fault) :
    (s.updJob p fun j => { j with context := j.context.fail ex e }).Failed p := by
  obtain ⟨j, hj⟩ := Option.isSome_iff_exists.mp hp
  exact ⟨_, by rw [World.job?_updJob, if_pos rfl, hj]; rfl, JobContext.fail_failed _ _ _⟩

section Flows

open Run

lemma spec_catch_failed {α : Type} {x : Run α} (hx : Stays FailsWith x) (p : Place) (ex : Option String)
    {s : World} (hp : (s.job? p).isSome) :
    Spec (tryCatch x fun e => do failJob p ex e; throw e) s fun r s' => ∀ e, r = .error e → s'.Failed p := by
  rw [spec_tryCatch]
  refine (hx s).mono fun r s₁ h₁ => ?_
  rcases r with e | a
  · simp only [spec_bind, spec_failJob, spec_throw]
    exact fun _ _ => World.failed_failJob ((h₁.isSome p).trans hp) ex e
  · rintro _ ⟨⟩

variable {deliver : Deliver} (hd : ∀ p i t, Stays FailsWith (deliver p i t))
include hd

lemma spec_takeTuple_failed (p : Place) (c : String) (t : Tuple) {s : World} (hp : (s.job? p).isSome) :
    Spec (takeTuple deliver p c t) s fun r s' => ∀ e, r = .error e → s'.Failed p := by
  have hlocal := flowRel_failsWith.stays_routeLocally hd p c
  unfold Dataflow.takeTuple
  split
  · simp only [spec_bind, spec_worker]
    intro wk _
    split
    · rintro _ ⟨⟩
    · rw [spec_bind]
      refine (spec_catch_failed (hlocal _) p none hp).mono ?_
      rintro (e | _) s₁ h₁
      · exact h₁
      · rintro _ ⟨⟩
  · simp only [spec_bind, spec_modifyContext]
    refine spec_catch_failed (hlocal t) p none ?_
    rw [World.job?_updJob, if_pos rfl, Option.isSome_map]
    exact hp

lemma spec_push_failed (w : Nat) (job? : Option String) (c : String) (ts : List Tuple) (s : World) :
    Spec (push deliver w job? c ts) s fun r s' => ∀ e, r = .error e →
      e = .jobNotFound "<latest>" ∨ (∃ id, e = .routerNotReady id c) ∨
        ∃ id, (∀ i, job? = some i → i = id) ∧ s'.Failed ⟨w, id⟩ := by
  rw [Dataflow.push, spec_bind, spec_worker]
  intro wk hwk
  dsimp -zeta only
  extract_lets check
  -- once the job is known, the checks refuse the tuples, or the job has failed, or the tuples
  -- are taken in order while the job stays
  have hcheck : ∀ id, (∀ i, job? = some i → i = id) → Spec (check id) s fun r s' => ∀ e, r = .error e →
      e = .jobNotFound "<latest>" ∨ (∃ id, e = .routerNotReady id c) ∨
        ∃ id, (∀ i, job? = some i → i = id) ∧ s'.Failed ⟨w, id⟩ := by
    intro id hid
    simp only [check]
    split
    · exact fun e he => Or.inr (Or.inl ⟨id, (Except.error.inj he).symm⟩)
    · rename_i hr
      obtain ⟨j, hj, -⟩ := Option.bind_eq_some_iff.mp hr
      have hjob : s.job? ⟨w, id⟩ = some j := (World.job?_of_worker hwk id).trans hj
      simp only [Worker.job, hj, spec_bind, spec_ofExcept]
      split
      · exact fun _ _ => Or.inr (Or.inr ⟨id, hid, j, hjob, by assumption⟩)
      · rw [spec_bind]
        refine ( spec_forIn_prefix ts _ (fun _ s' => (s'.job? ⟨w, id⟩).isSome) (fun _ s' => s'.Failed ⟨w, id⟩)
          (by show (s.job? _).isSome; rw [hjob]; rfl) ?_).mono ?_
        · intro pre t post _ s₁ h₁
          rw [spec_bind]
          refine ((spec_takeTuple_failed hd _ c t h₁).and (flowRel_failsWith.stays_takeTuple hd _ c t s₁)).mono ?_
          rintro (e | _) s₂ ⟨h₂, h₂'⟩
          · exact h₂ e rfl
          · exact (h₂'.isSome _).trans h₁
        · rintro (e | _) s₂ h₂
          · exact fun _ _ => Or.inr (Or.inr ⟨id, hid, h₂⟩)
          · rintro _ ⟨⟩
  cases job? with
  | some id => exact (spec_bind _).mpr (hcheck id fun _ h => (Option.some.inj h).symm)
  | none =>
    dsimp -zeta only
    split
    · exact (spec_bind _).mpr (hcheck _ fun _ h => nomatch h)
    · exact fun e he => Or.inl (Except.error.inj he).symm

end Flows

/-! ### The pool -/

@[simp] lemma Worker.jobs_turn (wk : Worker) : wk.turn.jobs = wk.jobs := by
  unfold Worker.turn
  split <;> rfl

@[simp] lemma Worker.healthy_turn (wk : Worker) : wk.turn.healthy = wk.healthy := by
  unfold Worker.turn
  split <;> rfl

lemma World.job?_turn (s : World) (w : Nat) (p : Place) :
    ({ s with workers := s.workers.modify w Worker.turn } : World).job? p = s.job? p := by
  simp only [World.job?, List.getElem?_modify]
  split <;> cases s.workers[p.worker]? <;> simp [Worker.job?]

def World.jobIdsAt (s : World) (w : Nat) : Option (List String) := (s.workers[w]?).map Worker.jobIds

@[simp] lemma World.jobIdsAt_updJob (s : World) (p : Place) (f : Job → Job) : (s.updJob p f).jobIdsAt = s.jobIdsAt := by
  funext w
  rw [World.jobIdsAt, World.getElem?_workers_updJob, Option.map_map]
  congr 1
  funext wk
  simp only [Function.comp_apply]
  split <;> simp [Worker.jobIds, Worker.modifyJob]

theorem flowRel_jobIdsAt : FlowRel fun s _ s' => s'.jobIdsAt = s.jobIdsAt where
  refl _ := rfl
  trans h₁ h₂ := h₂.trans h₁
  raise _ h := h
  fail p _ _ h := (World.jobIdsAt_updJob _ p _).trans h
  context s p _ _ := World.jobIdsAt_updJob s p _
  bolt s p _ _ := World.jobIdsAt_updJob s p _
  router s p _ _ := World.jobIdsAt_updJob s p _
  markEos s w' _ _ _ := by
    funext w
    simp only [World.jobIdsAt, List.getElem?_modify]
    split <;> cases s.workers[w]? <;> rfl
  begin _ _ := rfl
  disk _ _ := rfl

/-- What a flow that may step spouts of the job at `p` does: it fails jobs only with the fault it
ends with, moves no spout executor of another job, and keeps every worker's job ids. -/
def Steady (p : Option Place) (s : World) (o : Option Fault) (s' : World) : Prop :=
  FailsWith s o s' ∧ SpoutsKept p s s' ∧ s'.jobIdsAt = s.jobIdsAt

theorem flowRel_steady (p : Option Place) : FlowRel (Steady p) :=
  flowRel_failsWith.and ((flowRel_spoutsKept p).and flowRel_jobIdsAt)

lemma World.jobIdsAt_turn (s : World) (w : Nat) :
    ({ s with workers := s.workers.modify w Worker.turn } : World).jobIdsAt = s.jobIdsAt := by
  funext w'
  simp only [World.jobIdsAt, List.getElem?_modify]
  split <;> cases s.workers[w']? <;> simp [Worker.jobIds]

lemma Steady.turn {q : Option Place} {s s₁ : World} {o : Option Fault} (h : Steady q s o s₁) (w : Nat) :
    Steady q s o { s₁ with workers := s₁.workers.modify w Worker.turn } :=
  ⟨h.1.of_job?_right (World.job?_turn s₁ w), h.2.1.of_job?_right (World.job?_turn s₁ w),
    (World.jobIdsAt_turn s₁ w).trans h.2.2⟩

lemma steady_tasks {s : World} {p : Place} (hp : ∀ j, s.job? p = some j → j.context.failed = false)
    (q : Option Place) (f : List Nat → List Nat) :
    Steady q s none (s.updJob p fun j => { j with context := { j.context with tasks := f j.context.tasks } }) := by
  refine ⟨(JobWise.of_job? (fun _ j => FailStep.refl j.context) fun _ => rfl).updJob ?_,
    JobWise.updJob_self (fun _ _ => ⟨rfl, fun _ => rfl⟩) fun _ => ⟨rfl, fun _ => rfl⟩, World.jobIdsAt_updJob _ _ _⟩
  intro j j₁ hj hj₁ _
  obtain rfl := Option.some.inj (hj.symm.trans hj₁)
  have hf := hp j hj
  simp [FailStep, hf]

lemma steady_modifySpout (s : World) (p : Place) (k : Nat) (g : SpoutExecutor → SpoutExecutor) :
    Steady (some p) s none (s.updJob p fun j => { j with spouts := j.spouts.modify k g }) :=
  ⟨JobWise.updJob_self (fun _ j => FailStep.refl j.context) fun j => FailStep.refl j.context,
    JobWise.updJob_self (fun _ _ => ⟨rfl, fun _ => rfl⟩) fun _ => ⟨List.length_modify .., fun h => absurd rfl h⟩,
    World.jobIdsAt_updJob _ _ _⟩

lemma Worker.nextTask?_spec {wk : Worker} (hkeys : wk.jobIds.Nodup) {id : String} {k : Nat}
    (h : wk.nextTask? = some (id, k)) :
    ∃ j, wk.job? id = some j ∧ j.context.failed = false ∧ j.context.tasks.head? = some k := by
  obtain ⟨⟨id', j⟩, hscan, hf⟩ := List.exists_of_findSome?_eq_some h
  -- the look from the cursor goes over the worker's own jobs
  have hmem : (id', j) ∈ wk.jobs := (List.mem_append.mp hscan).elim List.mem_of_mem_drop List.mem_of_mem_take
  dsimp only at hf
  split at hf
  · cases hf
  · rename_i hnf
    split at hf
    · rename_i k' rest htasks
      obtain ⟨rfl, rfl⟩ := Prod.mk.inj (Option.some.inj hf)
      -- the ids are distinct, so looking `id` up finds the entry the search stopped at
      exact ⟨j, lookup_eq_some_of_mem hkeys hmem, by simpa using hnf, by simp [htasks]⟩
    · cases hf

lemma Worker.nextTask?_eq_none_iff (wk : Worker) :
    wk.nextTask? = none ↔ ∀ e ∈ wk.jobs, e.2.context.failed = false → e.2.context.tasks = [] := by
  -- the look's order is a rotation of the jobs
  have hperm : (wk.jobs.drop (wk.cursor % wk.jobs.length) ++ wk.jobs.take (wk.cursor % wk.jobs.length)).Perm
      wk.jobs :=
    List.perm_append_comm.trans (by rw [List.take_append_drop])
  unfold Worker.nextTask?
  rw [List.findSome?_eq_none_iff]
  constructor
  · intro h e he hf
    have hs := h e (hperm.mem_iff.mpr he)
    obtain ⟨id, j⟩ := e
    dsimp only at hf ⊢
    cases ht : j.context.tasks with
    | nil => rfl
    | cons k rest => simp [hf, ht] at hs
  · intro h e he
    obtain ⟨id, j⟩ := e
    have hj := h (id, j) (hperm.mem_iff.mp he)
    dsimp only at hj ⊢
    cases hf : j.context.failed
    · simp [hj hf]
    · simp

lemma World.unfailed_of_nextTask? {s : World} {w : Nat} {wk : Worker} (hwk : s.workers[w]? = some wk)
    (hkeys : wk.jobIds.Nodup) {id : String} {k : Nat} (h : wk.nextTask? = some (id, k)) :
    ∀ j, s.job? ⟨w, id⟩ = some j → j.context.failed = false := by
  obtain ⟨j₀, hj₀, hf₀, -⟩ := Worker.nextTask?_spec hkeys h
  intro j hj
  rw [World.job?_of_worker hwk, hj₀] at hj
  exact Option.some.inj hj ▸ hf₀

open Run in
/-- A task of the pool steps a spout only of a job that has not failed, and changes failures and
spout executors as such a flow may. -/
theorem spec_runTask (w : Nat) (s : World) (hkeys : ∀ wk, s.workers[w]? = some wk → wk.jobIds.Nodup) :
    Spec (runTask w) s fun _ s' => ∃ q o, (∀ p j, q = some p → s.job? p = some j → j.context.failed = false) ∧
      Steady q s o s' := by
  have hR := flowRel_steady
  rw [runTask]
  simp only [spec_bind, spec_worker]
  intro wk hwk
  split
  · exact ⟨none, none, by simp, (hR none).refl s⟩
  -- whatever the look finds, the cursor moves on after it, which changes no job
  split
  · simp only [spec_pure, spec_bind, spec_modifyWorker]
    exact ⟨none, none, by simp, ((hR none).refl s).turn w⟩
  rename_i id k hnext
  have hp := World.unfailed_of_nextTask? hwk (hkeys wk hwk) hnext
  have hq : ∀ p j, some ⟨w, id⟩ = some p → s.job? p = some j → j.context.failed = false := by
    rintro _ j ⟨⟩ hj
    exact hp j hj
  have h₁ := steady_tasks hp (some ⟨w, id⟩) (List.drop 1)
  have hstep := (hR _).stays_spoutStep (hR _).stays_deliver ⟨w, id⟩ k (fun s g => steady_modifySpout s _ k g)
  rw [spec_bind, spec_modifyContext, spec_bind, spec_tryCatch, spec_bind]
  refine (hstep _).mono fun r s₂ h₂ => ?_
  have h₁₂ := (hR _).trans h₁ h₂
  rcases r with e | (_ | _)
  · -- a failing step fails its job with the step's fault
    simp only [spec_pure, spec_bind, spec_spout, spec_failJob, spec_modifyWorker]
    exact fun _ _ _ _ => ⟨_, _, hq, ((hR _).fail _ _ e h₁₂).turn w⟩
  · simp only [spec_pure, spec_bind, spec_modifyWorker]
    exact ⟨_, _, hq, h₁₂.turn w⟩
  · simp only [spec_pure, spec_bind, spec_job, spec_worker]
    intro j hj _ _
    split
    · rename_i hcond
      have hnf : j.context.failed = false := by simp_all
      have h₃ := steady_tasks (p := ⟨w, id⟩) (fun j' hj' => (Option.some.inj (hj.symm.trans hj')) ▸ hnf)
        (some ⟨w, id⟩) (· ++ [k])
      simp only [spec_modifyContext, spec_bind, spec_modifyWorker, spec_pure]
      exact ⟨_, _, hq, ((hR _).trans h₁₂ h₃).turn w⟩
    · simp only [spec_pure, spec_bind, spec_modifyWorker]
      exact ⟨_, _, hq, h₁₂.turn w⟩

/-- A task whose spout step fails ends normally, with the step's fault recorded at its job: the
task's job has failed, and every job the task failed carries that fault. -/
theorem runTask_of_step_fault {s s₂ : World} {w : Nat} {wk : Worker} {id : String} {k : Nat} {e : Fault}
    (hwk : s.workers[w]? = some wk) (hkeys : wk.jobIds.Nodup) (hrun : wk.healthy = true)
    (hthreads : wk.threads ≠ 0) (hnext : wk.nextTask? = some (id, k))
    (hstep : (spoutStep deliver ⟨w, id⟩ k).run.run
      (s.updJob ⟨w, id⟩ fun j => { j with context := { j.context with tasks := j.context.tasks.drop 1 } }) =
        .ok (.error e, s₂)) :
    ∃ s₃, (runTask w).run.run s = .ok (.ok true, s₃) ∧ FailsWith s (some e) s₃ ∧ s₃.Failed ⟨w, id⟩ := by
  have hR := flowRel_steady (some ⟨w, id⟩)
  have hp := World.unfailed_of_nextTask? hwk hkeys hnext
  have h₁ := steady_tasks hp (some ⟨w, id⟩) (List.drop 1)
  have h₂ := ((hR.stays_spoutStep hR.stays_deliver ⟨w, id⟩ k fun s g => steady_modifySpout s _ k g) _).of_run hstep
  -- the step read its spout executor, which is still there when the task reads it to fail the job
  have hread : ∀ s₁, Run.Spec (spoutStep deliver ⟨w, id⟩ k) s₁
      fun _ _ => ∃ j sp, s₁.job? ⟨w, id⟩ = some j ∧ j.spouts[k]? = some sp := by
    intro s₁
    rw [Dataflow.spoutStep, Run.spec_bind, Run.spec_spout]
    exact fun j hj sp hsp => Run.Spec.const ⟨j, sp, hj, hsp⟩
  obtain ⟨j₁, sp, hj₁, hsp⟩ := (hread _).of_run hstep
  obtain ⟨j₂, hj₂⟩ := Option.isSome_iff_exists.mp ((h₂.1.isSome ⟨w, id⟩).trans (Option.isSome_iff_exists.mpr ⟨j₁, hj₁⟩))
  obtain ⟨sp₂, hsp₂⟩ : ∃ sp₂, j₂.spouts[k]? = some sp₂ := by
    have hlen := (h₂.2.1.rel _ j₁ j₂ hj₁ hj₂).1
    have hk : k < j₁.spouts.length := (List.getElem?_eq_some_iff.mp hsp).1
    exact ⟨_, List.getElem?_eq_getElem (hlen ▸ hk)⟩
  rw [runTask]
  simp only [Run.run_bind, Run.run_worker hwk, hrun, hthreads, hnext, Run.run_modifyContext, Run.run_tryCatch,
    hstep, Run.run_pure, Run.run_spout hj₂ hsp₂, Run.run_failJob, Run.run_modifyWorker, Bool.not_true,
    Bool.false_or, decide_false, Bool.false_eq_true, if_false]
  -- the job failed by the task, then the cursor moved on, which changes no job
  have hfail := flowRel_failsWith.fail ⟨w, id⟩ (some sp₂.id) e (flowRel_failsWith.trans h₁.1 h₂.1)
  refine ⟨_, rfl, hfail.of_job?_right (World.job?_turn _ w), ?_⟩
  obtain ⟨j₃, hj₃, hf₃⟩ := World.failed_failJob (s := s₂) (p := ⟨w, id⟩) (by simp [hj₂]) (some sp₂.id) e
  exact ⟨j₃, (World.job?_turn _ w _).trans hj₃, hf₃⟩

end Dataflow
