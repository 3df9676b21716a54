import Dataflow.Proofs.Requests
import Dataflow.Proofs.Bookkeeping
/-!
The pool's queues of spout tasks. Each job on a worker keeps its queued spout tasks in one list.
Along any run of requests every queue stays in order (`Job.Queued`): it holds each spout of its
job at most once, and nothing before the job is first started. A flow only drops tasks from
queues, keeping the order of the rest, and leaves started flags and pools alone (`Drains`), so it
keeps queues in order. Starting a job queues one task per spout the first time and nothing after
(`Job.afterStart`). A pool task takes the head of the queue of a job that has not failed, steps
that spout with no other task of it queued, and queues it again exactly when the step returned
true and the job has not failed.
-/
namespace Dataflow

open Run

/-! ### A job's queue -/

namespace Job

/-- A job's queue is in order: each of its spouts at most once, and nothing before it is started. -/
structure Queued (j : Job) : Prop where
  nodup : j.context.tasks.Nodup
  lt : ∀ k ∈ j.context.tasks, k < j.spouts.length
  started : j.context.started = false → j.context.tasks = []

/-- What a flow may do to a job's queue: drop tasks, keeping the order of the others, and keep the
started flag and the number of spouts. -/
structure Drains (j j' : Job) : Prop where
  spouts : j'.spouts.length = j.spouts.length
  started : j'.context.started = j.context.started
  tasks : j'.context.tasks.Sublist j.context.tasks

lemma Drains.refl (j : Job) : j.Drains j := ⟨rfl, rfl, .refl _⟩

lemma Drains.trans {j j₁ j₂ : Job} (h₁ : j.Drains j₁) (h₂ : j₁.Drains j₂) : j.Drains j₂ :=
  ⟨h₂.spouts.trans h₁.spouts, h₂.started.trans h₁.started, h₂.tasks.trans h₁.tasks⟩

lemma Queued.drain {j j' : Job} (hq : j.Queued) (h : j.Drains j') : j'.Queued where
  nodup := hq.nodup.sublist h.tasks
  lt k hk := h.spouts ▸ hq.lt k (h.tasks.subset hk)
  started hs := List.sublist_nil.mp (hq.started (h.started ▸ hs) ▸ h.tasks)

lemma Queued.started_of_mem {j : Job} (hq : j.Queued) {k : Nat} (hk : k ∈ j.context.tasks) :
    j.context.started = true := by
  cases hs : j.context.started
  · simp [hq.started hs] at hk
  · rfl

/-- A job once started: one not started before is marked started and queues one task per spout,
and a started one stays as it is. -/
def afterStart (j : Job) : Job :=
  if j.context.started then j
  else { j with context := { j.context with started := true, tasks := j.context.tasks ++ List.range j.spouts.length } }

lemma afterStart_of_started {j : Job} (h : j.context.started = true) : j.afterStart = j := by
  simp [afterStart, h]

lemma started_afterStart (j : Job) : j.afterStart.context.started = true := by
  unfold afterStart
  split <;> simp_all

lemma afterStart_afterStart (j : Job) : j.afterStart.afterStart = j.afterStart :=
  afterStart_of_started (started_afterStart j)

lemma Queued.afterStart {j : Job} (hq : j.Queued) : j.afterStart.Queued := by
  unfold Job.afterStart
  split
  · exact hq
  · rename_i hs
    -- the first start finds the queue empty and fills it with every spout once
    have hnil := hq.started (by simpa using hs)
    refine ⟨?_, fun k hk => ?_, fun h => by simp at h⟩
    · simpa [hnil] using List.nodup_range
    · simpa [hnil] using hk

lemma Queued.requeue {j : Job} (hq : j.Queued) {k : Nat} (hk : k ∉ j.context.tasks) (hlt : k < j.spouts.length)
    (hs : j.context.started = true) :
    ({ j with context := { j.context with tasks := j.context.tasks ++ [k] } } : Job).Queued := by
  refine ⟨?_, fun x hx => ?_, fun h => by simp [hs] at h⟩
  · have hne : ∀ a ∈ j.context.tasks, a ≠ k := fun a ha hak => hk (hak ▸ ha)
    simpa [List.nodup_append, hq.nodup] using hne
  · rcases List.mem_append.mp hx with hx | hx
    · exact hq.lt x hx
    · simpa [List.mem_singleton.mp hx] using hlt

lemma queued_of_instantiate {disk : Storage} {name : Nat → String} {id : String} {config : JobConfig}
    {T : Topology} {j : Job} (h : instantiate disk name id config T = .done j) : j.Queued := by
  obtain ⟨n, hn⟩ := context_eq_of_instantiate h
  have htasks : j.context.tasks = [] := by simp [hn, JobContext.expect]
  exact ⟨by simp [htasks], by simp [htasks], fun _ => htasks⟩

end Job

lemma JobContext.tasks_fail_sublist (c : JobContext) (ex : Option String) (f : Fault) :
    (c.fail ex f).tasks.Sublist c.tasks := by
  unfold JobContext.fail
  split
  · exact .refl _
  · exact List.nil_sublist _

lemma JobContext.eq_of_control {c c' : JobContext} (h : c'.control = c.control) :
    c'.tasks = c.tasks ∧ c'.started = c.started := by
  simp only [JobContext.control, JobContext.failure, Prod.mk.injEq] at h
  exact ⟨h.1.2.2, h.2⟩

/-! ### Flows drain queues -/

def World.healthyAt (s : World) (w : Nat) : Option Bool := (s.workers[w]?).map Worker.healthy

@[simp] lemma World.healthyAt_updJob (s : World) (p : Place) (f : Job → Job) :
    (s.updJob p f).healthyAt = s.healthyAt := by
  funext w
  rw [World.healthyAt, World.getElem?_workers_updJob, Option.map_map]
  congr 1
  funext wk
  simp only [Function.comp_apply]
  split <;> rfl

theorem flowRel_healthyAt : FlowRel fun s _ s' => s'.healthyAt = s.healthyAt where
  refl _ := rfl
  trans h₁ h₂ := h₂.trans h₁
  raise _ h := h
  fail p _ _ h := (World.healthyAt_updJob _ p _).trans h
  context s p _ _ := World.healthyAt_updJob s p _
  bolt s p _ _ := World.healthyAt_updJob s p _
  router s p _ _ := World.healthyAt_updJob s p _
  markEos s w' _ _ _ := by
    funext w
    simp only [World.healthyAt, List.getElem?_modify]
    split <;> cases s.workers[w]? <;> rfl
  begin _ _ := rfl
  disk _ _ := rfl

/-- What a flow does to the pool: it drains each job's queue as `Job.Drains` allows and leaves every
worker's pool running or stopped. -/
def Drains (s : World) (_ : Option Fault) (s' : World) : Prop :=
  JobWise (fun _ j j' => j.Drains j') s s' ∧ s'.healthyAt = s.healthyAt

theorem flowRel_drains : FlowRel Drains :=
  (FlowRel.jobWise (r := fun _ _ j j' => j.Drains j') (fun _ => Job.Drains.refl) Job.Drains.trans
    (fun _ h => h)
    (fun ex e h => ⟨h.spouts, by simp [h.started], (JobContext.tasks_fail_sublist _ ex e).trans h.tasks⟩)
    (fun _ j g hg => have h := JobContext.eq_of_control (hg j.context); ⟨rfl, h.2, h.1 ▸ .refl _⟩)
    (fun _ _ _ _ => ⟨rfl, rfl, .refl _⟩) (fun _ _ _ _ => ⟨rfl, rfl, .refl _⟩)).and flowRel_healthyAt

lemma drains_pop (s : World) (p : Place) :
    Drains s none (s.updJob p fun j => { j with context := { j.context with tasks := j.context.tasks.drop 1 } }) :=
  ⟨JobWise.updJob_self (fun _ => Job.Drains.refl) fun _ => ⟨rfl, rfl, List.drop_sublist 1 _⟩,
    World.healthyAt_updJob _ _ _⟩

lemma drains_modifySpout (s : World) (p : Place) (k : Nat) (g : SpoutExecutor → SpoutExecutor) :
    Drains s none (s.updJob p fun j => { j with spouts := j.spouts.modify k g }) :=
  ⟨JobWise.updJob_self (fun _ => Job.Drains.refl) fun _ => ⟨List.length_modify .., rfl, .refl _⟩,
    World.healthyAt_updJob _ _ _⟩

/-! ### Queues in order -/

def World.Queued (s : World) : Prop := ∀ p j, s.job? p = some j → j.Queued

def Worker.Queued (wk : Worker) : Prop := ∀ id j, wk.job? id = some j → j.Queued

namespace World.Queued

variable {s s' : World}

lemma drain (hq : s.Queued) (h : JobWise (fun _ j j' => j.Drains j') s s') : s'.Queued := by
  intro p j' hj'
  obtain ⟨j, hj⟩ := Option.isSome_iff_exists.mp ((h.isSome p).symm.trans (by simp [hj']))
  exact (hq p j hj).drain (h.rel p j j' hj hj')

lemma updJob (hq : s.Queued) {p : Place} {f : Job → Job} (hf : ∀ j, s.job? p = some j → (f j).Queued) :
    (s.updJob p f).Queued := by
  intro q j' hj'
  rw [World.job?_updJob] at hj'
  split at hj'
  · rename_i hqp
    subst hqp
    obtain ⟨j, hj, rfl⟩ := Option.map_eq_some_iff.mp hj'
    exact hf j hj
  · exact hq q j' hj'

lemma of_workers (hq : s.Queued) (h : s'.workers = s.workers) : s'.Queued :=
  fun p j hj => hq p j ((World.job?_of_workers h p).symm.trans hj)

lemma turn (hq : s.Queued) (w : Nat) : World.Queued { s with workers := s.workers.modify w Worker.turn } :=
  fun p j hj => hq p j ((World.job?_turn s w p).symm.trans hj)

lemma worker (hq : s.Queued) {w : Nat} {wk : Worker} (hwk : s.workers[w]? = some wk) : wk.Queued :=
  fun id j hj => hq ⟨w, id⟩ j ((World.job?_of_worker hwk id).trans hj)

lemma modifyWorker (hq : s.Queued) {w : Nat} {wk : Worker} (hwk : s.workers[w]? = some wk)
    {f : Worker → Worker} (hf : (f wk).Queued) : World.Queued { s with workers := s.workers.modify w f } := by
  intro p j hj
  rw [World.job?_modifyWorker] at hj
  split at hj
  · rw [hwk] at hj
    exact hf p.job j hj
  · exact hq p j hj

lemma nextTask? (hq : s.Queued) {w : Nat} {wk : Worker} (hwk : s.workers[w]? = some wk)
    (hkeys : wk.jobIds.Nodup) {id : String} {k : Nat} (hnext : wk.nextTask? = some (id, k)) :
    ∃ j rest, s.job? ⟨w, id⟩ = some j ∧ j.context.failed = false ∧ j.context.tasks = k :: rest ∧ k ∉ rest := by
  obtain ⟨j, hj, hf, hhead⟩ := Worker.nextTask?_spec hkeys hnext
  obtain ⟨rest, hrest⟩ := List.head?_eq_some_iff.mp hhead
  have hjs : s.job? ⟨w, id⟩ = some j := (World.job?_of_worker hwk id).trans hj
  have hnd := (hq _ j hjs).nodup
  rw [hrest] at hnd
  exact ⟨j, rest, hjs, hf, hrest, (List.nodup_cons.mp hnd).1⟩

end World.Queued

/-! ### Starting jobs -/

lemma Keyed.modify_of_lookup {α : Type} {k : String} {v : α} :
    ∀ {xs : List (String × α)}, xs.lookup k = some v → Keyed.modify k (fun _ => v) xs = xs
  | [], h => by simp at h
  | (k', v') :: rest, h => by
    by_cases hk : k = k'
    · subst hk
      simp only [List.lookup_cons_self, Option.some.injEq] at h
      simp [Keyed.modify, h]
    · have hb : (k == k') = false := by simpa using hk
      simp only [List.lookup_cons, hb] at h
      simp [Keyed.modify, hk, modify_of_lookup h]

namespace Worker

variable {wk : Worker} {id : String} {j : Job}

lemma startJob_eq (h : wk.job? id = some j) : wk.startJob id = .ok (wk.modifyJob id fun _ => j.afterStart) := by
  have hj : wk.job id = .ok j := by simp [Worker.job, h]
  simp only [startJob, hj, bind, Except.bind, JobContext.start, pure, Except.pure, Except.ok.injEq, modifyJob]
  congr 1
  refine Keyed.modify_congr fun v hv => ?_
  obtain rfl : v = j := Option.some.inj (hv.symm.trans h)
  by_cases hs : v.context.started = true
  · rw [Job.afterStart_of_started hs]
    rcases v with ⟨_, ⟨⟩, _, _, _⟩
    simp_all
  · simp [Job.afterStart, hs]

lemma startJob_of_started (h : wk.job? id = some j) (hs : j.context.started = true) : wk.startJob id = .ok wk := by
  rw [startJob_eq h, Job.afterStart_of_started hs]
  simp only [modifyJob, Keyed.modify_of_lookup h]

lemma Queued.startJob {wk' : Worker} (hq : wk.Queued) (h : wk.startJob id = .ok wk') : wk'.Queued := by
  cases hj : wk.job? id with
  | none => simp [Worker.startJob, Worker.job, hj] at h
  | some j =>
    rw [startJob_eq hj, Except.ok.injEq] at h
    subst h
    intro id' j' hj'
    rw [job?_modifyJob] at hj'
    split at hj'
    · rw [hj, Option.map_some, Option.some.injEq] at hj'
      exact hj' ▸ (hq id j hj).afterStart
    · exact hq id' j' hj'

lemma job?_foldl_startJob (ids : List String) (v : Worker) (id' : String) :
    (ids.foldl (fun w id => (w.startJob id).toOption.getD w) v).job? id' =
      if id' ∈ ids then (v.job? id').map Job.afterStart else v.job? id' := by
  induction ids generalizing v with
  | nil => simp
  | cons id ids ih =>
    rw [List.foldl_cons, ih]
    have hstep : ∀ i, ((v.startJob id).toOption.getD v).job? i =
        if i = id then (v.job? id).map Job.afterStart else v.job? i := by
      intro i
      cases hj : v.job? id with
      | none =>
        have hv : (v.startJob id).toOption = none := by simp [Worker.startJob, Worker.job, hj, Except.toOption]
        rw [hv, Option.getD_none]
        split <;> simp_all
      | some j => simp [startJob_eq hj, Except.toOption, job?_modifyJob, hj]
    rw [hstep]
    by_cases hi : id' = id
    · subst hi
      simp [Function.comp_def, Job.afterStart_afterStart]
    · simp [hi]

lemma Queued.foldl_startJob (ids : List String) (hq : wk.Queued) :
    (ids.foldl (fun w id => (w.startJob id).toOption.getD w) wk).Queued := by
  intro id' j' hj'
  rw [job?_foldl_startJob] at hj'
  split at hj'
  · obtain ⟨j, hj, rfl⟩ := Option.map_eq_some_iff.mp hj'
    exact (hq id' j hj).afterStart
  · exact hq id' j' hj'

lemma job?_startPending (id : String) : wk.startPending.2.job? id = (wk.job? id).map Job.afterStart := by
  simp only [startPending]
  rw [job?_foldl_startJob]
  split
  · rfl
  · rename_i hn
    -- a job left out of the pending ones was started already
    cases hj : wk.job? id with
    | none => rfl
    | some j =>
      have hs : j.context.started = true := by
        by_contra hs
        exact hn (List.mem_map.mpr ⟨(id, j), List.mem_filter.mpr ⟨mem_of_lookup_eq_some hj, by simpa using hs⟩, rfl⟩)
      simp [Job.afterStart_of_started hs]

lemma startPending_count (hkeys : wk.jobIds.Nodup) :
    wk.startPending.1 = (wk.jobIds.filter fun id => (wk.job? id).any fun j => !j.context.started).length := by
  simp only [startPending, jobIds, List.filter_map, List.length_map]
  congr 1
  refine List.filter_congr fun e he => ?_
  simp [Worker.job?, lookup_eq_some_of_mem hkeys he]

lemma Queued.install (hq : wk.Queued) (hj : j.Queued) : (wk.install id j).Queued := by
  intro id' j' hj'
  by_cases hi : id' = id
  · subst hi
    simp only [Worker.job?, Worker.install, Keyed.lookup_insert_self, Option.some.injEq] at hj'
    exact hj' ▸ hj
  · simp only [Worker.job?, Worker.install, Keyed.lookup_insert_of_ne hi] at hj'
    exact hq id' j' hj'

end Worker

/-! ### The pool -/

lemma Spec.run_eq {α : Type} (x : Run α) (s : World) : Spec x s fun r s' => x.run.run s = .ok (r, s') := by
  unfold Spec
  split
  · assumption
  · trivial

lemma runTask_of_stopped {s : World} {w : Nat} {wk : Worker} (hwk : s.workers[w]? = some wk)
    (h : wk.healthy = false ∨ wk.threads = 0) : (runTask w).run.run s = .ok (.ok false, s) := by
  rw [runTask, Run.run_bind, Run.run_worker hwk]
  rcases h with h | h
  · simp [h]
    rfl
  · simp [h]
    rfl

lemma runTask_of_none {s : World} {w : Nat} {wk : Worker} (hwk : s.workers[w]? = some wk)
    (hrun : wk.healthy = true) (hthreads : wk.threads ≠ 0) (h : wk.nextTask? = none) :
    (runTask w).run.run s = .ok (.ok false, { s with workers := s.workers.modify w Worker.turn }) := by
  rw [runTask, Run.run_bind, Run.run_worker hwk]
  simp [hrun, hthreads, h]
  rfl

/-- A task of the pool: it takes the head `k` of the queue of a job that has not failed, steps that
spout, and queues `k` again exactly when the step returned true and the job has not failed; the
queues stay in order. -/
theorem spec_runTask_next {s : World} {w : Nat} {wk : Worker} {id : String} {k : Nat}
    (hwk : s.workers[w]? = some wk) (hkeys : wk.jobIds.Nodup) (hq : s.Queued) (hrun : wk.healthy = true)
    (hthreads : wk.threads ≠ 0) (hnext : wk.nextTask? = some (id, k)) :
    Spec (runTask w) s fun res s₃ => s₃.Queued ∧ res = .ok true ∧ ∃ r s₂ j₃,
      (spoutStep deliver ⟨w, id⟩ k).run.run
        (s.updJob ⟨w, id⟩ fun j => { j with context := { j.context with tasks := j.context.tasks.drop 1 } }) =
          .ok (r, s₂) ∧
      s₃.job? ⟨w, id⟩ = some j₃ ∧ (k ∈ j₃.context.tasks ↔ r = .ok true ∧ j₃.context.failed = false) := by
  obtain ⟨j, rest, hj, -, htasks, hk⟩ := hq.nextTask? hwk hkeys hnext
  have h₁ := drains_pop s ⟨w, id⟩
  have hj₁ : (s.updJob ⟨w, id⟩ fun j => { j with context := { j.context with tasks := j.context.tasks.drop 1 } }).job?
      ⟨w, id⟩ = some { j with context := { j.context with tasks := rest } } := by
    simp [World.job?_updJob, hj, htasks]
  have hkj : k < j.spouts.length := (hq _ j hj).lt k (by simp [htasks])
  have hsj : j.context.started = true := (hq _ j hj).started_of_mem (show k ∈ j.context.tasks by simp [htasks])
  have hstep := flowRel_drains.stays_spoutStep flowRel_drains.stays_deliver ⟨w, id⟩ k
    fun s g => drains_modifySpout s _ k g
  rw [runTask]
  simp only [spec_bind, spec_worker]
  intro wk' hwk'
  obtain rfl := Option.some.inj (hwk'.symm.trans hwk)
  simp only [hrun, hthreads, hnext, Bool.not_true, Bool.false_or, decide_false, Bool.false_eq_true, if_false]
  rw [spec_bind, spec_modifyContext, spec_bind, spec_tryCatch, spec_bind]
  refine ((Spec.run_eq _ _).and (hstep _)).mono fun r s₂ h => ?_
  obtain ⟨hrun₂, h₂⟩ := h
  -- the job after the step: its queue drained from `rest`, so `k` is not in it
  obtain ⟨j₂, hj₂⟩ := Option.isSome_iff_exists.mp ((h₂.1.isSome ⟨w, id⟩).trans (by rw [hj₁]; rfl))
  have hd₂ := h₂.1.rel _ _ j₂ hj₁ hj₂
  have hk₂ : k ∉ j₂.context.tasks := fun hk' => hk (hd₂.tasks.subset hk')
  have hq₂ : s₂.Queued := (hq.drain h₁.1).drain h₂.1
  rcases r with e | (_ | _)
  -- after the task the cursor moves on, which changes no job
  · -- a failing step fails the job, which drops its queue
    simp only [spec_pure, spec_bind, spec_spout, spec_failJob, spec_modifyWorker]
    intro _ _ sp _
    have hj₃ : (s₂.updJob ⟨w, id⟩ fun j => { j with context := j.context.fail (some sp.id) e }).job? ⟨w, id⟩ =
        some { j₂ with context := j₂.context.fail (some sp.id) e } := by
      simp [World.job?_updJob, hj₂]
    have hq₃ : World.Queued (s₂.updJob ⟨w, id⟩ fun j => { j with context := j.context.fail (some sp.id) e }) :=
      hq₂.updJob fun j' hj' => (hq₂ _ j' hj').drain ⟨rfl, by simp, JobContext.tasks_fail_sublist _ _ _⟩
    refine ⟨hq₃.turn w, trivial, .error e, s₂, _, hrun₂, (World.job?_turn _ w _).trans hj₃, ?_⟩
    simp only [reduceCtorEq, false_and, iff_false]
    exact fun hk' => hk₂ ((JobContext.tasks_fail_sublist _ _ _).subset hk')
  · simp only [spec_pure, spec_bind, spec_modifyWorker]
    exact ⟨hq₂.turn w, trivial, .ok false, s₂, j₂, hrun₂, (World.job?_turn _ w _).trans hj₂, by simp [hk₂]⟩
  · simp only [spec_pure, spec_bind, spec_job, spec_worker]
    intro j' hj' wk₂ hwk₂
    obtain rfl := Option.some.inj (hj'.symm.trans hj₂)
    -- flows leave the pool running
    have hh₂ : wk₂.healthy = true := by
      have hh : s₂.healthyAt w = some true := by
        rw [h₂.2, h₁.2]
        simp [World.healthyAt, hwk, hrun]
      simpa [World.healthyAt, hwk₂] using hh
    split
    · rename_i hcond
      have hf₂ : j'.context.failed = false := by simpa [hh₂] using hcond
      have hj₃ : (s₂.updJob ⟨w, id⟩ fun j => { j with context := { j.context with tasks := j.context.tasks ++ [k] } }).job?
          ⟨w, id⟩ = some { j' with context := { j'.context with tasks := j'.context.tasks ++ [k] } } := by
        simp [World.job?_updJob, hj₂]
      have hq₃ : World.Queued (s₂.updJob ⟨w, id⟩ fun j =>
          { j with context := { j.context with tasks := j.context.tasks ++ [k] } }) :=
        hq₂.updJob (p := ⟨w, id⟩) fun j'' hj'' => by
          obtain rfl := Option.some.inj (hj''.symm.trans hj₂)
          exact (hq₂ _ _ hj₂).requeue hk₂ (by rw [hd₂.spouts]; exact hkj) (hd₂.started.trans hsj)
      simp only [spec_modifyContext, spec_bind, spec_modifyWorker, spec_pure]
      exact ⟨hq₃.turn w, trivial, .ok true, s₂, _, hrun₂, (World.job?_turn _ w _).trans hj₃, by simp [hf₂]⟩
    · rename_i hcond
      have hf₂ : j'.context.failed = true := by simpa [hh₂] using hcond
      simp only [spec_pure, spec_bind, spec_modifyWorker]
      exact ⟨hq₂.turn w, trivial, .ok true, s₂, j', hrun₂, (World.job?_turn _ w _).trans hj₂, by simp [hk₂, hf₂]⟩

theorem spec_runTask_queued (w : Nat) (s : World) (hkeys : ∀ wk, s.workers[w]? = some wk → wk.jobIds.Nodup)
    (hq : s.Queued) : Spec (runTask w) s fun _ s' => s'.Queued := by
  cases hwk : s.workers[w]? with
  | none =>
    rw [runTask, spec_bind, spec_worker]
    simp [hwk]
  | some wk =>
    by_cases hbusy : wk.healthy = true ∧ wk.threads ≠ 0 ∧ wk.nextTask?.isSome
    · obtain ⟨hrun, hthreads, hsome⟩ := hbusy
      obtain ⟨⟨id, k⟩, hnext⟩ := Option.isSome_iff_exists.mp hsome
      exact (spec_runTask_next hwk (hkeys wk hwk) hq hrun hthreads hnext).mono fun _ _ h => h.1
    · unfold Spec
      by_cases hstop : wk.healthy = false ∨ wk.threads = 0
      · rw [runTask_of_stopped hwk hstop]
        exact hq
      · -- a running pool with nothing to run only moves the cursor on
        have hrun : wk.healthy = true := by simpa using (not_or.mp hstop).1
        have hthreads : wk.threads ≠ 0 := (not_or.mp hstop).2
        have hnone : wk.nextTask? = none := by simpa [hrun, hthreads] using hbusy
        rw [runTask_of_none hwk hrun hthreads hnone]
        exact hq.turn w

/-! ### Runs of requests -/

section Serving

variable {s : World}

lemma spec_runPool_queued (rounds : Nat) (hs : Sound s) (hq : s.Queued) :
    Spec (runPool rounds) s fun _ s' => Sound s' ∧ s'.Queued :=
  spec_runPool_of (fun s' => Sound s' ∧ s'.Queued)
    (fun w s₁ h₁ => ((spec_runTask_sound h₁.1 w).and (spec_runTask_queued w s₁ (h₁.1.keys w) h₁.2)).mono
      fun _ _ h₂ => ⟨h₂.1.1, h₂.2⟩) rounds ⟨hs, hq⟩

lemma spec_runJob_queued (hq : s.Queued) (w : Nat) (job? : Option String) :
    Spec (Run.runJob w job?) s fun _ s' => s'.Queued := by
  rw [Run.runJob, spec_bind, spec_worker]
  intro wk hwk
  cases job? with
  | some id =>
    dsimp only
    split
    · rename_i wk' hstart
      simp only [spec_bind, spec_modifyWorker, spec_pure]
      exact hq.modifyWorker hwk ((hq.worker hwk).startJob hstart)
    · exact hq
  | none =>
    simp only [Worker.startPending, spec_bind, spec_modifyWorker, spec_pure]
    exact hq.modifyWorker hwk ((hq.worker hwk).foldl_startJob _)

lemma spec_defineJob_queued (hq : s.Queued) (w : Nat) (d : JobDefinition) :
    Spec (Run.defineJob w d) s fun _ s' => s'.Queued := by
  simp only [Run.defineJob, spec_bind, spec_get, spec_worker]
  intro wk hwk
  split
  · exact hq
  · split
    · rename_i j hinst
      simp only [spec_bind, spec_modifyWorker, spec_modify]
      split_ifs <;>
        exact (hq.modifyWorker hwk ((hq.worker hwk).install (Job.queued_of_instantiate hinst))).of_workers rfl
    · rename_i made _
      simp only [spec_bind, spec_modifyWorker, spec_modify, spec_throw]
      exact (hq.modifyWorker hwk (f := (·.discard made)) fun id j hj => hq.worker hwk id j hj).of_workers rfl
    · exact spec_crash _

lemma Request.spec_serve_queued (hs : Sound s) (hq : s.Queued) :
    ∀ q : Request, Spec q.serve s fun _ s' => s'.Queued
  | .define w d => by
    rw [Request.serve, spec_bind]
    exact (spec_defineJob_queued hq w d).mono fun r _ h => by rcases r with _ | _ <;> exact h
  | .start w job? => by
    rw [Request.serve, spec_bind]
    exact (spec_runJob_queued hq w job?).mono fun r _ h => by rcases r with _ | _ <;> exact h
  | .push w job? _ _ =>
    (flowRel_drains.stays_push flowRel_drains.stays_deliver w job? _ _ s).mono fun _ _ h => hq.drain h.1
  | .pool rounds => (spec_runPool_queued rounds hs hq).mono fun _ _ h => h.2

lemma queued_of_reaches {s' : World} (hs : Sound s) (hq : s.Queued) (h : Relation.ReflTransGen Serves s s') :
    s'.Queued := by
  -- one request at a time, the world staying sound along the way
  induction h with
  | refl => exact hq
  | tail hreach hstep ih =>
    obtain ⟨q, r, hrun⟩ := hstep
    exact (Request.spec_serve_queued (sound_latched_of_reaches hs hreach).1 ih q).of_run hrun

end Serving

/-- The pool keeps at most one task per spout and never runs a failed job. Along any run of
requests from a sound world whose queues are in order, every queue stays in order: it holds each
spout of its job at most once, and nothing before the job is first started. The pool's next task
on a worker is the head of the queue of a job that has not failed, with no other task of its
spout queued; running it steps the spout, and queues the task again exactly when the step
returned true and the job has not failed. A worker whose pool has stopped runs nothing. Starting
a job puts it in its started form, which queues one task per spout only if it was not started
before, so starting a started job changes nothing. Starting the pending jobs starts exactly the
jobs not started yet and counts them. -/
theorem spout_tasks_scheduled :
    (∀ s s', Sound s → s.Queued → Relation.ReflTransGen Serves s s' → s'.Queued) ∧
    (∀ {s : World} {w : Nat} {wk : Worker} {id : String} {k : Nat}, Sound s → s.Queued →
      s.workers[w]? = some wk → wk.nextTask? = some (id, k) →
      ∃ j rest, s.job? ⟨w, id⟩ = some j ∧ j.context.failed = false ∧ j.context.tasks = k :: rest ∧ k ∉ rest) ∧
    (∀ {s : World} {w : Nat} {wk : Worker} {id : String} {k : Nat}, Sound s → s.Queued →
      s.workers[w]? = some wk → wk.healthy = true → wk.threads ≠ 0 → wk.nextTask? = some (id, k) →
      Spec (runTask w) s fun res s₃ => res = .ok true ∧ ∃ r s₂ j₃,
        (spoutStep deliver ⟨w, id⟩ k).run.run
          (s.updJob ⟨w, id⟩ fun j => { j with context := { j.context with tasks := j.context.tasks.drop 1 } }) =
            .ok (r, s₂) ∧
        s₃.job? ⟨w, id⟩ = some j₃ ∧ (k ∈ j₃.context.tasks ↔ r = .ok true ∧ j₃.context.failed = false)) ∧
    (∀ {s : World} {w : Nat} {wk : Worker}, s.workers[w]? = some wk → wk.healthy = false →
      (runTask w).run.run s = .ok (.ok false, s)) ∧
    (∀ {wk : Worker} {id : String} {j : Job}, wk.job? id = some j →
      wk.startJob id = .ok (wk.modifyJob id fun _ => j.afterStart) ∧
      (j.context.started = true → wk.startJob id = .ok wk)) ∧
    (∀ {wk : Worker}, wk.jobIds.Nodup →
      wk.startPending.1 = (wk.jobIds.filter fun id => (wk.job? id).any fun j => !j.context.started).length ∧
      ∀ id, wk.startPending.2.job? id = (wk.job? id).map Job.afterStart) := by
  refine ⟨fun s s' hs hq h => queued_of_reaches hs hq h, fun hs hq hwk hnext => ?_,
    fun hs hq hwk hrun hthreads hnext => ?_, fun hwk hrun => runTask_of_stopped hwk (.inl hrun),
    fun hj => ⟨Worker.startJob_eq hj, Worker.startJob_of_started hj⟩,
    fun hkeys => ⟨Worker.startPending_count hkeys, fun id => Worker.job?_startPending id⟩⟩
  · exact hq.nextTask? hwk (hs.keys _ _ hwk) hnext
  · exact (spec_runTask_next hwk (hs.keys _ _ hwk) hq hrun hthreads hnext).mono fun _ _ h => h.2

end Dataflow
