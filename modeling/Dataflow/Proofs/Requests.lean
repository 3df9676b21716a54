import Dataflow.Proofs.Failure
import Mathlib.Logic.Relation
/-!
Failures across the requests the workers serve. A run of a job goes through requests: definitions,
starts, pushes of tuples, and rounds of the pool. Two facts hold of every world such requests
reach from one where they hold (`Sound`): each worker keeps one entry per job id, and a job holds
exactly one failure report once it has failed and none before. Along the way every failed job
stays, still failed, with its one report and with its spout executors as they were (`Latched`):
starting it again may queue tasks, but none of them runs. Waiting on it gives its report's message.
-/
namespace Dataflow

open Run

/-! ### One report per failed job -/

def JobContext.OneReport (c : JobContext) : Prop := c.errors.length = if c.failed then 1 else 0

instance (c : JobContext) : Decidable c.OneReport := inferInstanceAs (Decidable (_ = _))

lemma FailStep.oneReport {o : Option Fault} {c c' : JobContext} (h : FailStep o c c') (hc : c.OneReport) :
    c'.OneReport := by
  by_cases hf : c.failed = true
  · obtain ⟨hf', he', -⟩ := FailStep.failure_eq_iff.mp (h.of_failed hf)
    unfold JobContext.OneReport at *
    rwa [hf', he']
  · unfold FailStep at h
    unfold JobContext.OneReport at *
    rw [if_neg hf] at h hc
    by_cases hf' : c'.failed = true
    · rw [if_pos hf'] at h ⊢
      obtain ⟨-, -, -, r, -, -, hr⟩ := h
      simp [hr, List.length_eq_zero_iff.mp hc]
    · rw [if_neg hf'] at h ⊢
      rwa [h]

lemma JobContext.OneReport.outcome {c : JobContext} (h : c.OneReport) (hf : c.failed = true) :
    ∃ r, c.errors = [r] ∧ c.outcome = .error (.fail s!"job {c.job}: {r.message}") := by
  unfold JobContext.OneReport at h
  rw [if_pos hf] at h
  obtain ⟨r, hr⟩ := List.length_eq_one_iff.mp h
  exact ⟨r, hr, by simp [JobContext.outcome, hf, hr]⟩

/-! ### Worlds the requests reach -/

/-- Each worker has one entry per job id, and each job one report once it has failed, none before. -/
structure Sound (s : World) : Prop where
  keys : ∀ (w : Nat) (wk : Worker), s.workers[w]? = some wk → wk.jobIds.Nodup
  reports : ∀ p j, s.job? p = some j → j.context.OneReport

/-- Every job failed in `s` is in `s'`, still failed, with the same reports and the same spout
executors. -/
def Latched (s s' : World) : Prop :=
  ∀ p j, s.job? p = some j → j.context.failed = true →
    ∃ j', s'.job? p = some j' ∧ j'.context.failed = true ∧ j'.context.errors = j.context.errors ∧
      j'.spouts = j.spouts

namespace Latched

lemma refl (s : World) : Latched s s := fun _ j hj hf => ⟨j, hj, hf, rfl, rfl⟩

lemma trans {s₁ s₂ s₃ : World} (h₁ : Latched s₁ s₂) (h₂ : Latched s₂ s₃) : Latched s₁ s₃ := by
  intro p j hj hf
  obtain ⟨j₂, hj₂, hf₂, he₂, hs₂⟩ := h₁ p j hj hf
  obtain ⟨j₃, hj₃, hf₃, he₃, hs₃⟩ := h₂ p j₂ hj₂ hf₂
  exact ⟨j₃, hj₃, hf₃, he₃.trans he₂, hs₃.trans hs₂⟩

end Latched

lemma World.job?_of_workers {s s' : World} (h : s'.workers = s.workers) (p : Place) : s'.job? p = s.job? p := by
  simp [World.job?, h]

lemma Sound.of_workers {s s' : World} (hs : Sound s) (h : s'.workers = s.workers) : Sound s' where
  keys w wk hwk := hs.keys w wk (h ▸ hwk)
  reports p j hj := hs.reports p j ((World.job?_of_workers h p).symm.trans hj)

lemma Latched.of_workers {s s₁ s' : World} (hl : Latched s s₁) (h : s'.workers = s₁.workers) : Latched s s' := by
  intro p j hj hf
  obtain ⟨j', hj', hrest⟩ := hl p j hj hf
  exact ⟨j', (World.job?_of_workers h p).trans hj', hrest⟩

lemma Steady.sound_latched {q : Option Place} {s s' : World} {o : Option Fault} (h : Steady q s o s')
    (hs : Sound s) (hq : ∀ p j, q = some p → s.job? p = some j → j.context.failed = false) :
    Sound s' ∧ Latched s s' := by
  obtain ⟨hf, hsp, hids⟩ := h
  -- the keys from the job ids, the reports from `FailStep`, and the latch because a failed job is
  -- not the one whose spouts may move
  refine ⟨⟨fun w wk' hwk' => ?_, fun p j' hj' => ?_⟩, fun p j hj hfl => ?_⟩
  · have hw := congrFun hids w
    simp only [World.jobIdsAt, hwk', Option.map_some] at hw
    obtain ⟨wk, hwk, heq⟩ := Option.map_eq_some_iff.mp hw.symm
    exact heq ▸ hs.keys w wk hwk
  · obtain ⟨j, hj⟩ := Option.isSome_iff_exists.mp ((hf.isSome p).symm.trans (by simp [hj']))
    exact (hf.rel p j j' hj hj').oneReport (hs.reports p j hj)
  · obtain ⟨j', hj'⟩ := Option.isSome_iff_exists.mp ((hf.isSome p).trans (by simp [hj]))
    obtain ⟨hf', he', -⟩ := FailStep.failure_eq_iff.mp ((hf.rel p j j' hj hj').of_failed hfl)
    refine ⟨j', hj', hf'.trans hfl, he', (hsp.rel p j j' hj hj').2 fun hqp => ?_⟩
    simp [hq p j hqp hj] at hfl

/-! ### Changing one worker -/

/-- What serving a request may do to one worker outside the flows: keep one entry per job id,
keep every job's failure flag, reports and spout executors, and add jobs that have neither failed
nor been reported. -/
structure Worker.Grows (wk wk' : Worker) : Prop where
  keys : wk.jobIds.Nodup → wk'.jobIds.Nodup
  old : ∀ id j, wk.job? id = some j → ∃ j', wk'.job? id = some j' ∧ j'.context.failed = j.context.failed ∧
    j'.context.errors = j.context.errors ∧ j'.spouts = j.spouts
  new : ∀ id j', wk'.job? id = some j' → wk.job? id = none → j'.context.failed = false ∧ j'.context.errors = []

namespace Worker.Grows

lemma of_jobs {wk wk' : Worker} (h : wk'.jobs = wk.jobs) : Grows wk wk' where
  keys hk := by simpa [Worker.jobIds, h] using hk
  old _ j hj := ⟨j, by simpa [Worker.job?, h] using hj, rfl, rfl, rfl⟩
  new _ _ hj' hnone := by
    simp only [Worker.job?, h] at hj' hnone
    simp [hnone] at hj'

lemma trans {wk₁ wk₂ wk₃ : Worker} (h₁ : Grows wk₁ wk₂) (h₂ : Grows wk₂ wk₃) : Grows wk₁ wk₃ where
  keys h := h₂.keys (h₁.keys h)
  old id j hj := by
    obtain ⟨j₂, hj₂, hf₂, he₂, hs₂⟩ := h₁.old id j hj
    obtain ⟨j₃, hj₃, hf₃, he₃, hs₃⟩ := h₂.old id j₂ hj₂
    exact ⟨j₃, hj₃, hf₃.trans hf₂, he₃.trans he₂, hs₃.trans hs₂⟩
  new id j₃ hj₃ hnone := by
    cases hj₂ : wk₂.job? id with
    | none => exact h₂.new id j₃ hj₃ hj₂
    | some j₂ =>
      obtain ⟨j₃', hj₃', hf, he, -⟩ := h₂.old id j₂ hj₂
      obtain rfl := Option.some.inj (hj₃'.symm.trans hj₃)
      obtain ⟨hf₂, he₂⟩ := h₁.new id j₂ hj₂ hnone
      exact ⟨hf.trans hf₂, he.trans he₂⟩

lemma modifyJob {wk : Worker} {id : String} {f : Job → Job}
    (hf : ∀ j, wk.job? id = some j →
      (f j).context.failed = j.context.failed ∧ (f j).context.errors = j.context.errors ∧ (f j).spouts = j.spouts) :
    Grows wk (wk.modifyJob id f) where
  keys hk := by simpa [Worker.jobIds, Worker.modifyJob] using hk
  old i j hj := by
    rw [Worker.job?_modifyJob]
    split
    · rename_i hi
      subst hi
      exact ⟨f j, by simp [hj], hf j hj⟩
    · exact ⟨j, hj, rfl, rfl, rfl⟩
  new i j' hj' hnone := by
    rw [Worker.job?_modifyJob] at hj'
    split at hj'
    · rename_i hi
      subst hi
      simp [hnone] at hj'
    · simp [hnone] at hj'

lemma startJob {wk wk' : Worker} {id : String} (h : wk.startJob id = .ok wk') : Grows wk wk' := by
  unfold Worker.startJob at h
  cases hj : wk.job id with
  | error f => simp [hj, bind, Except.bind] at h
  | ok j =>
    simp only [hj, bind, Except.bind, pure, Except.pure, Except.ok.injEq] at h
    subst h
    have hjob : wk.job? id = some j := by
      unfold Worker.job at hj
      split at hj <;> simp_all
    refine modifyJob fun j' hj' => ?_
    obtain rfl := Option.some.inj (hjob.symm.trans hj')
    dsimp only
    split <;> simp [JobContext.start]

lemma foldl_startJob (ids : List String) (wk : Worker) :
    Grows wk (ids.foldl (fun w id => (w.startJob id).toOption.getD w) wk) := by
  induction ids generalizing wk with
  | nil => exact of_jobs rfl
  | cons id ids ih =>
    dsimp only [List.foldl_cons]
    refine trans ?_ (ih _)
    cases h : wk.startJob id with
    | ok wk' => simpa [Except.toOption] using startJob h
    | error _ => simpa [Except.toOption] using of_jobs rfl

lemma install {wk : Worker} {id : String} {j : Job} (hid : wk.job? id = none)
    (hj : j.context.failed = false ∧ j.context.errors = []) : Grows wk (wk.install id j) where
  keys hk := by
    refine (Keyed.keys_insert_perm hid).nodup_iff.mpr (List.nodup_cons.mpr ⟨fun hm => ?_, hk⟩)
    obtain ⟨v, hv⟩ := lookup_isSome_of_mem_keys hm
    simp [Worker.job?, hv] at hid
  old i j' hj' := by
    have hne : i ≠ id := by
      rintro rfl
      simp [hj'] at hid
    exact ⟨j', by simpa [Worker.job?, Worker.install, Keyed.lookup_insert_of_ne hne] using hj', rfl, rfl, rfl⟩
  new i j' hj' hnone := by
    by_cases hi : i = id
    · subst hi
      simp only [Worker.job?, Worker.install, Keyed.lookup_insert_self, Option.some.injEq] at hj'
      exact hj' ▸ hj
    · simp [Worker.job?, Worker.install, Keyed.lookup_insert_of_ne hi] at hj'
      simp [Worker.job?, hj'] at hnone

lemma oneReport {wk wk' : Worker} (h : Grows wk wk') (hr : ∀ id j, wk.job? id = some j → j.context.OneReport)
    {id : String} {j' : Job} (hj' : wk'.job? id = some j') : j'.context.OneReport := by
  cases hj : wk.job? id with
  | none =>
    obtain ⟨hf, he⟩ := h.new id j' hj' hj
    simp [JobContext.OneReport, hf, he]
  | some j =>
    obtain ⟨j'', hj'', hf, he, -⟩ := h.old id j hj
    obtain rfl := Option.some.inj (hj''.symm.trans hj')
    have hrj := hr id j hj
    unfold JobContext.OneReport at hrj ⊢
    rwa [hf, he]

end Worker.Grows

lemma World.job?_modifyWorker (s : World) (w : Nat) (f : Worker → Worker) (p : Place) :
    ({ s with workers := s.workers.modify w f } : World).job? p =
      if p.worker = w then (s.workers[w]?).bind fun wk => (f wk).job? p.job else s.job? p := by
  simp only [World.job?, List.getElem?_modify]
  by_cases hw : p.worker = w
  · subst hw
    cases s.workers[p.worker]? <;> simp
  · simp [hw, Ne.symm hw]

lemma sound_modifyWorker {s : World} (hs : Sound s) {w : Nat} {wk₀ : Worker} (hwk₀ : s.workers[w]? = some wk₀)
    {f : Worker → Worker} (hg₀ : Worker.Grows wk₀ (f wk₀)) :
    Sound { s with workers := s.workers.modify w f } ∧ Latched s { s with workers := s.workers.modify w f } := by
  -- each part splits on whether the place is on the changed worker
  have hg : ∀ wk, s.workers[w]? = some wk → Worker.Grows wk (f wk) := fun wk hwk =>
    Option.some.inj (hwk₀.symm.trans hwk) ▸ hg₀
  refine ⟨⟨fun v wk' hwk' => ?_, fun p j' hj' => ?_⟩, fun p j hj hf => ?_⟩
  · simp only [List.getElem?_modify] at hwk'
    by_cases hw : w = v
    · subst hw
      obtain ⟨wk, hwk, rfl⟩ := Option.map_eq_some_iff.mp (by simpa using hwk')
      exact (hg wk hwk).keys (hs.keys w wk hwk)
    · simp only [hw, if_false] at hwk'
      exact hs.keys v wk' (by simpa using hwk')
  · rw [World.job?_modifyWorker] at hj'
    split at hj'
    · rename_i hw
      obtain ⟨wk, hwk, hjw⟩ := Option.bind_eq_some_iff.mp hj'
      subst hw
      exact (hg wk hwk).oneReport (fun id j hj => hs.reports _ j ((World.job?_of_worker hwk id).trans hj)) hjw
    · exact hs.reports p j' hj'
  · rw [World.job?_modifyWorker]
    by_cases hw : p.worker = w
    · subst hw
      obtain ⟨wk, hwk, hjw⟩ := Option.bind_eq_some_iff.mp hj
      obtain ⟨j', hj', hf', he', hs'⟩ := (hg wk hwk).old _ j hjw
      exact ⟨j', by rw [if_pos rfl, hwk]; exact hj', hf'.trans hf, he', hs'⟩
    · exact ⟨j, by rw [if_neg hw]; exact hj, hf, rfl, rfl⟩

lemma Worker.job?_eq_none_of_allowsJob {wk : Worker} {id : String} (h : ∀ f, wk.allowsJob id ≠ .error f) :
    wk.job? id = none := by
  cases hj : wk.job? id with
  | none => rfl
  | some j =>
    exfalso
    cases ha : wk.accepting
    · exact h _ (by simp [Worker.allowsJob, ha]; rfl)
    · exact h _ (by simp [Worker.allowsJob, ha, hj]; rfl)

/-! ### Serving requests -/

section Serving

variable {s : World}

lemma spec_push_sound (hs : Sound s) (w : Nat) (job? : Option String) (c : String) (ts : List Tuple) :
    Spec (push deliver w job? c ts) s fun _ s' => Sound s' ∧ Latched s s' :=
  ((flowRel_steady none).stays_push (flowRel_steady none).stays_deliver w job? c ts s).mono fun _ _ h =>
    h.sound_latched hs fun _ _ hq => nomatch hq

lemma spec_runTask_sound (hs : Sound s) (w : Nat) : Spec (runTask w) s fun _ s' => Sound s' ∧ Latched s s' :=
  (spec_runTask w s (hs.keys w)).mono fun _ _ ⟨_, _, hq, h⟩ => h.sound_latched hs hq

lemma spec_runPool_of (P : World → Prop) (hP : ∀ w s, P s → Spec (runTask w) s fun _ s' => P s') :
    ∀ (rounds : Nat) {s : World}, P s → Spec (runPool rounds) s fun _ s' => P s'
  | 0, _, hs => hs
  | n + 1, s, hs => by
    rw [runPool]
    simp only [spec_bind, spec_get]
    -- a round folds one task per worker
    refine (spec_foldlM P (fun _ w s₁ h₁ => ?_) _ false s hs).mono ?_
    · rw [spec_bind]
      exact (hP w s₁ h₁).mono fun r _ h₂ => by rcases r with _ | _ <;> exact h₂
    · rintro (_ | ran) s₁ h₁
      · exact h₁
      · dsimp only
        split
        · exact spec_runPool_of P hP n h₁
        · exact h₁

lemma spec_runPool_sound (rounds : Nat) {s : World} (hs : Sound s) :
    Spec (runPool rounds) s fun _ s' => Sound s' ∧ Latched s s' :=
  spec_runPool_of (fun s' => Sound s' ∧ Latched s s')
    (fun w _ h₁ => (spec_runTask_sound h₁.1 w).mono fun _ _ h₂ => ⟨h₂.1, h₁.2.trans h₂.2⟩) rounds ⟨hs, Latched.refl s⟩

lemma spec_runJob_sound (hs : Sound s) (w : Nat) (job? : Option String) :
    Spec (Run.runJob w job?) s fun _ s' => Sound s' ∧ Latched s s' := by
  rw [Run.runJob, spec_bind, spec_worker]
  intro wk hwk
  cases job? with
  | some id =>
    dsimp only
    split
    · rename_i wk' hstart
      simp only [spec_bind, spec_modifyWorker, spec_pure]
      exact sound_modifyWorker hs hwk (Worker.Grows.startJob hstart)
    · exact ⟨hs, Latched.refl s⟩
  | none =>
    simp only [Worker.startPending, spec_bind, spec_modifyWorker, spec_pure]
    exact sound_modifyWorker hs hwk (Worker.Grows.foldl_startJob _ _)

lemma spec_defineJob_sound (hs : Sound s) (w : Nat) (d : JobDefinition) :
    Spec (Run.defineJob w d) s fun _ s' => Sound s' ∧ Latched s s' := by
  simp only [Run.defineJob, spec_bind, spec_get, spec_worker]
  intro wk hwk
  split
  · exact ⟨hs, Latched.refl s⟩
  · rename_i hallow
    split
    · rename_i j hinst
      have h := sound_modifyWorker hs hwk (f := (·.install _ j)) (Worker.Grows.install (Worker.job?_eq_none_of_allowsJob hallow)
        (Job.context_of_instantiate hinst))
      simp only [spec_bind, spec_modifyWorker, spec_modify]
      split_ifs <;> exact ⟨h.1.of_workers rfl, h.2.of_workers rfl⟩
    · rename_i made _
      have h := sound_modifyWorker hs hwk (f := (·.discard made)) (Worker.Grows.of_jobs rfl)
      simp only [spec_bind, spec_modifyWorker, spec_modify, spec_throw]
      exact ⟨h.1.of_workers rfl, h.2.of_workers rfl⟩
    · exact spec_crash _

end Serving

/-! ### Runs of requests -/

/-- A request a job's run goes through: defining a job on a worker, starting jobs there, pushing
tuples to it, or running the pool for some rounds. -/
inductive Request where
  | define (w : Nat) (d : JobDefinition)
  | start (w : Nat) (job? : Option String)
  | push (w : Nat) (job? : Option String) (stream : String) (tuples : List Tuple)
  | pool (rounds : Nat)

def Request.serve : Request → Run Unit
  | .define w d => Run.defineJob w d >>= fun _ => pure ()
  | .start w job? => Run.runJob w job? >>= fun _ => pure ()
  | .push w job? stream tuples => Dataflow.push deliver w job? stream tuples
  | .pool rounds => runPool rounds

def Serves (s s' : World) : Prop := ∃ (q : Request) (r : Except Fault Unit), q.serve.run.run s = .ok (r, s')

lemma Request.spec_serve {s : World} (hs : Sound s) :
    ∀ q : Request, Spec q.serve s fun _ s' => Sound s' ∧ Latched s s'
  | .define w d => by
    rw [serve, spec_bind]
    exact (spec_defineJob_sound hs w d).mono fun r _ h => by rcases r with _ | _ <;> exact h
  | .start w job? => by
    rw [serve, spec_bind]
    exact (spec_runJob_sound hs w job?).mono fun r _ h => by rcases r with _ | _ <;> exact h
  | .push w job? _ _ => spec_push_sound hs w job? _ _
  | .pool rounds => spec_runPool_sound rounds hs

lemma sound_latched_of_reaches {s s' : World} (hs : Sound s) (h : Relation.ReflTransGen Serves s s') :
    Sound s' ∧ Latched s s' := by
  -- one request at a time, along the run
  induction h with
  | refl => exact ⟨hs, Latched.refl s⟩
  | tail _ hstep ih =>
    obtain ⟨q, r, hrun⟩ := hstep
    obtain ⟨hs₂, hl₂⟩ := (Request.spec_serve ih.1 q).of_run hrun
    exact ⟨hs₂, ih.2.trans hl₂⟩

/-- A failure anywhere fails the job once and stops it. A push that fails fails only with the fault
it returns, each job it fails holding one more report with that fault's code and message and no
queued task; and the fault is a refusal made before any tuple is taken, or its job has failed. A
task whose spout step fails ends normally with the step's fault recorded the same way, its job
failed. Along any run of requests from a sound world, every failed job stays failed with its
reports and its spout executors as they were, holds exactly one report, and waiting on it gives
that report's message. -/
theorem failed_job_stays_failed :
    (∀ (w : Nat) (job? : Option String) (c : String) (ts : List Tuple) (s : World),
      Spec (push deliver w job? c ts) s fun r s' => FailsWith s (faultOf r) s' ∧ ∀ e, r = .error e →
        e = .jobNotFound "<latest>" ∨ (∃ id, e = .routerNotReady id c) ∨
          ∃ id, (∀ i, job? = some i → i = id) ∧ s'.Failed ⟨w, id⟩) ∧
    (∀ {s s₂ : World} {w : Nat} {wk : Worker} {id : String} {k : Nat} {e : Fault},
      s.workers[w]? = some wk → wk.jobIds.Nodup → wk.healthy = true → wk.threads ≠ 0 →
      wk.nextTask? = some (id, k) →
      (spoutStep deliver ⟨w, id⟩ k).run.run
        (s.updJob ⟨w, id⟩ fun j => { j with context := { j.context with tasks := j.context.tasks.drop 1 } }) =
          .ok (.error e, s₂) →
      ∃ s₃, (runTask w).run.run s = .ok (.ok true, s₃) ∧ FailsWith s (some e) s₃ ∧ s₃.Failed ⟨w, id⟩) ∧
    (∀ s s', Sound s → Relation.ReflTransGen Serves s s' → Sound s' ∧ Latched s s' ∧
      ∀ p j, s'.job? p = some j → j.context.failed = true →
        ∃ r, j.context.errors = [r] ∧ j.context.outcome = .error (.fail s!"job {j.context.job}: {r.message}")) := by
  have hd := flowRel_failsWith.stays_deliver
  refine ⟨fun w job? c ts s => (flowRel_failsWith.stays_push hd w job? c ts s).and (spec_push_failed hd w job? c ts s),
    fun hwk hkeys hrun hthreads hnext hstep => runTask_of_step_fault hwk hkeys hrun hthreads hnext hstep,
    fun s s' hs h => ?_⟩
  obtain ⟨hs', hl⟩ := sound_latched_of_reaches hs h
  exact ⟨hs', hl, fun p j hj hf => (hs'.reports p j hj).outcome hf⟩

/-- A job whose only spout reads a directory as if it were a file, with its one task queued. -/
def directoryJob : Job where
  topology := {}
  context := { job := "shard", config := {}, tasks := [0] }
  spouts := [{ id := "s0", node := "src", logic := .file ⟨.directory⟩ 0 0 1 }]

def directoryShard : World where
  workers := [{ port := 0, address := "w0", jobs := [("shard", directoryJob)] }]
  link := .loopback false

lemma directoryShard_sound : Sound directoryShard where
  keys w wk h := by
    rcases w with _ | w
    · obtain rfl := Option.some.inj h
      decide
    · simp [directoryShard] at h
  reports p j h := by
    obtain ⟨_ | w, id⟩ := p
    · by_cases hid : id = "shard"
      · subst hid
        obtain rfl := Option.some.inj h
        decide
      · have hb : (id == "shard") = false := by simpa using hid
        simp [directoryShard, World.job?, Worker.job?, List.lookup_cons, List.lookup_nil, hb] at h
    · simp [directoryShard, World.job?] at h

/-- The pool's task on `directoryShard` fails its job with the directory read's fault; a round of
the pool reaches a world where the job has failed once, and waiting on it gives that fault. -/
theorem directoryShard_fails_once :
    (∃ s₃, (runTask 0).run.run directoryShard = .ok (.ok true, s₃) ∧
      FailsWith directoryShard (some IoError.isDirectory.toFault) s₃ ∧ s₃.Failed ⟨0, "shard"⟩) ∧
    ∃ s' j, (Request.pool 1).serve.run.run directoryShard = .ok (.ok (), s') ∧ s'.job? ⟨0, "shard"⟩ = some j ∧
      j.context.failed = true ∧
      ∃ r, j.context.errors = [r] ∧ j.context.outcome = .error (.fail s!"job shard: {r.message}") := by
  refine ⟨failed_job_stays_failed.2.1 rfl (by decide) rfl (by decide) rfl rfl, _, _, rfl, rfl, rfl, ?_⟩
  exact (failed_job_stays_failed.2.2 _ _ directoryShard_sound (.single ⟨.pool 1, _, rfl⟩)).2.2 ⟨0, "shard"⟩ _ rfl rfl

end Dataflow
