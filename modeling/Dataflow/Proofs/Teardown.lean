import Dataflow.Proofs.Definition
/-!
Taking components down. A worker's runtime is asked, in any order, to define jobs, to start them,
to remove them and to shut down, directly, after letting started jobs drain, or when it is
dropped. Its lifecycle records every spout opened and closed and every bolt prepared and cleaned
up, by executor id.

Over every such run from a worker that holds nothing yet, the lives add up (`Worker.Accounted`):
every bolt prepared under an id is either still part of a job the worker holds or was cleaned up,
and no id is cleaned up more often than it was prepared; spouts likewise are opened, and closed at
most once. Components are taken down only by a definition that failed (what it made), by a
removal (the job removed) and by the first shutdown (every job, all bolts before any spout); once
shut down, a worker holds no job and refuses every new one. The main statement is
`components_taken_down_once`.
-/
namespace Dataflow

/-! ### Entries by key -/

namespace Keyed

variable {α : Type}

theorem perm_erase {k : String} {v : α} :
    ∀ {xs : List (String × α)}, xs.lookup k = some v → xs.Perm ((k, v) :: erase k xs)
  | [], h => by simp [List.lookup_nil] at h
  | (k', v') :: rest, h => by
    unfold erase
    by_cases hk : k = k'
    · subst hk
      obtain rfl : v' = v := by simpa [List.lookup_cons] using h
      simp
    · have hb : (k == k') = false := by simpa using hk
      simp only [List.lookup_cons, hb] at h
      simp only [hk, if_false]
      exact ((perm_erase h).cons (k', v')).trans (List.Perm.swap (k, v) (k', v') _)

theorem flatMap_modify {β : Type} (g : String × α → List β) {k : String} {f : α → α}
    (hf : ∀ k' v, g (k', f v) = g (k', v)) : ∀ xs : List (String × α),
    (modify k f xs).flatMap g = xs.flatMap g
  | [] => rfl
  | (k', v') :: rest => by
    unfold modify
    split
    · simp [hf]
    · simp [flatMap_modify g hf rest]

variable (g : α → List String) (x : String)

theorem count_flatMap_insert {k : String} {v : α} {xs : List (String × α)} (h : xs.lookup k = none) :
    ((insert k v xs).flatMap fun e => g e.2).count x = (g v).count x + (xs.flatMap fun e => g e.2).count x := by
  rw [((insert_perm h).flatMap_right _).count_eq, List.flatMap_cons, List.count_append]

theorem count_flatMap_erase {k : String} {v : α} {xs : List (String × α)} (h : xs.lookup k = some v) :
    (xs.flatMap fun e => g e.2).count x = (g v).count x + ((erase k xs).flatMap fun e => g e.2).count x := by
  rw [((perm_erase h).flatMap_right _).count_eq, List.flatMap_cons, List.count_append]

end Keyed

/-! ### What a worker holds -/

namespace Worker

def liveBolts (wk : Worker) : List String := wk.jobs.flatMap fun e => e.2.bolts.map (·.id)

def liveSpouts (wk : Worker) : List String := wk.jobs.flatMap fun e => e.2.spouts.map (·.id)

/-- A worker as it starts: no job, no component made yet, and its pool running. -/
structure Fresh (wk : Worker) : Prop where
  jobs : wk.jobs = []
  lifecycle : wk.lifecycle = []
  threads : 0 < wk.threads

/-- A change of a worker that leaves its components alone: the same jobs by id with the same
executors, the same lifecycle, pool and intake. -/
structure KeepsComponents (wk wk' : Worker) : Prop where
  ids : wk'.jobs.map (·.1) = wk.jobs.map (·.1)
  bolts : wk'.liveBolts = wk.liveBolts
  spouts : wk'.liveSpouts = wk.liveSpouts
  lifecycle : wk'.lifecycle = wk.lifecycle
  threads : wk'.threads = wk.threads
  accepting : wk'.accepting = wk.accepting

lemma KeepsComponents.refl (wk : Worker) : KeepsComponents wk wk := ⟨rfl, rfl, rfl, rfl, rfl, rfl⟩

lemma KeepsComponents.trans {wk₁ wk₂ wk₃ : Worker} (h₁ : KeepsComponents wk₁ wk₂)
    (h₂ : KeepsComponents wk₂ wk₃) : KeepsComponents wk₁ wk₃ :=
  ⟨h₂.ids.trans h₁.ids, h₂.bolts.trans h₁.bolts, h₂.spouts.trans h₁.spouts,
    h₂.lifecycle.trans h₁.lifecycle, h₂.threads.trans h₁.threads, h₂.accepting.trans h₁.accepting⟩

lemma keepsComponents_modifyJob (wk : Worker) (id : String) {f : Job → Job}
    (hb : ∀ j, (f j).bolts = j.bolts) (hs : ∀ j, (f j).spouts = j.spouts) :
    KeepsComponents wk (wk.modifyJob id f) where
  ids := Keyed.keys_modify id f wk.jobs
  bolts := Keyed.flatMap_modify _ (fun _ j => by simp only [hb]) wk.jobs
  spouts := Keyed.flatMap_modify _ (fun _ j => by simp only [hs]) wk.jobs
  lifecycle := rfl
  threads := rfl
  accepting := rfl

lemma keepsComponents_startJob {wk wk' : Worker} {id : String} (h : wk.startJob id = .ok wk') :
    KeepsComponents wk wk' := by
  unfold startJob at h
  cases hj : wk.job id with
  | error f => simp [hj, bind, Except.bind] at h
  | ok j =>
    simp only [hj, bind, Except.bind, pure, Except.pure, Except.ok.injEq] at h
    subst h
    exact keepsComponents_modifyJob wk id (fun _ => rfl) (fun _ => rfl)

lemma keepsComponents_foldl_startJob (pending : List String) (wk : Worker) :
    KeepsComponents wk (pending.foldl (fun w id => (w.startJob id).toOption.getD w) wk) := by
  -- each job in turn is started, or left as it is
  induction pending generalizing wk with
  | nil => exact KeepsComponents.refl wk
  | cons id rest ih =>
    rw [List.foldl_cons]
    refine KeepsComponents.trans ?_ (ih _)
    cases h : wk.startJob id with
    | error f => exact KeepsComponents.refl wk
    | ok wk' => exact keepsComponents_startJob h

lemma keepsComponents_startPending (wk : Worker) : KeepsComponents wk wk.startPending.2 :=
  keepsComponents_foldl_startJob _ wk

lemma removeJob_cases (wk : Worker) (id : String) :
    (∃ j, wk.job? id = some j ∧ wk.removeJob id = .ok
      { wk with jobs := Keyed.erase id wk.jobs, eosSeen := Keyed.erase id wk.eosSeen,
                lifecycle := wk.lifecycle ++ j.closing }) ∨
    (wk.job? id = none ∧ wk.removeJob id = .error (.jobNotFound id)) := by
  unfold removeJob job
  cases h : wk.job? id with
  | none => exact .inr ⟨rfl, rfl⟩
  | some j => exact .inl ⟨j, rfl, rfl⟩

end Worker

/-! ### Counting the lives of components -/

namespace Lifecycle

def tearsDown : Lifecycle → Bool
  | .cleanedUp _ | .closed _ => true
  | .opened _ | .prepared _ => false

end Lifecycle

section Counting

variable (ids : List String) (x : String)

-- Each kind of event counts the ids of its own kind only.
@[simp] lemma count_cleanedUp_map_cleanedUp : (ids.map .cleanedUp).count (Lifecycle.cleanedUp x) = ids.count x :=
  List.count_map_of_injective _ _ (fun _ _ h => Lifecycle.cleanedUp.inj h) _

@[simp] lemma count_closed_map_closed : (ids.map .closed).count (Lifecycle.closed x) = ids.count x :=
  List.count_map_of_injective _ _ (fun _ _ h => Lifecycle.closed.inj h) _

@[simp] lemma count_prepared_map_prepared : (ids.map .prepared).count (Lifecycle.prepared x) = ids.count x :=
  List.count_map_of_injective _ _ (fun _ _ h => Lifecycle.prepared.inj h) _

@[simp] lemma count_opened_map_opened : (ids.map .opened).count (Lifecycle.opened x) = ids.count x :=
  List.count_map_of_injective _ _ (fun _ _ h => Lifecycle.opened.inj h) _

@[simp] lemma count_map_of_ne {f : String → Lifecycle} {e : Lifecycle} (h : ∀ y, f y ≠ e) :
    (ids.map f).count e = 0 :=
  List.count_eq_zero.mpr fun hm => by
    obtain ⟨y, -, hy⟩ := List.mem_map.mp hm
    exact h y hy

end Counting

namespace Job

lemma opening_eq (j : Job) :
    j.opening = (j.spouts.map (·.id)).map .opened ++ (j.bolts.map (·.id)).map .prepared := by
  simp [opening, Function.comp_def]

lemma closing_eq (j : Job) :
    j.closing = (j.bolts.map (·.id)).map .cleanedUp ++ (j.spouts.map (·.id)).map .closed := by
  simp [closing, Function.comp_def]

end Job

namespace Worker

lemma shutdown_of_running {wk : Worker} (h : wk.threads ≠ 0) :
    wk.shutdown =
      { wk with accepting := false, healthy := false, threads := 0, jobs := [],
                lifecycle := wk.lifecycle ++ (wk.liveBolts.map .cleanedUp ++ wk.liveSpouts.map .closed) } := by
  simp [shutdown, h, liveBolts, liveSpouts, List.map_flatMap, List.flatMap_map, Function.comp_def]

lemma shutdown_of_stopped {wk : Worker} (h : wk.threads = 0) :
    wk.shutdown = { wk with accepting := false, healthy := false } := by
  simp [shutdown, h]

/-- The lives of a worker's components add up: every bolt prepared under an id is either part of
a job the worker holds or was cleaned up, and every spout opened either part of a job or closed;
a worker whose pool has stopped holds no job and takes none. -/
structure Accounted (wk : Worker) : Prop where
  bolts : ∀ x, wk.lifecycle.count (.cleanedUp x) + wk.liveBolts.count x = wk.lifecycle.count (.prepared x)
  spouts : ∀ x, wk.lifecycle.count (.closed x) + wk.liveSpouts.count x = wk.lifecycle.count (.opened x)
  stopped : wk.threads = 0 → wk.jobs = [] ∧ wk.accepting = false

lemma Fresh.accounted {wk : Worker} (h : wk.Fresh) : wk.Accounted where
  bolts x := by simp [h.lifecycle, liveBolts, h.jobs]
  spouts x := by simp [h.lifecycle, liveSpouts, h.jobs]
  stopped h0 := absurd h.threads (by omega)

variable {wk : Worker}

lemma Accounted.of_keeps (ha : wk.Accounted) {wk' : Worker} (hk : KeepsComponents wk wk') :
    wk'.Accounted where
  bolts x := by rw [hk.lifecycle, hk.bolts]; exact ha.bolts x
  spouts x := by rw [hk.lifecycle, hk.spouts]; exact ha.spouts x
  stopped h0 := by
    obtain ⟨hj, hacc⟩ := ha.stopped (hk.threads ▸ h0)
    have hids : wk'.jobs.map (·.1) = [] := by rw [hk.ids, hj, List.map_nil]
    exact ⟨List.map_eq_nil_iff.mp hids, hk.accepting.trans hacc⟩

lemma Accounted.discard (ha : wk.Accounted) (made : Job) : (wk.discard made).Accounted where
  bolts x := by
    have := ha.bolts x
    simp only [Worker.discard, Job.opening_eq, Job.closing_eq, liveBolts, List.count_append,
      count_cleanedUp_map_cleanedUp, count_prepared_map_prepared, ne_eq, reduceCtorEq,
      not_false_eq_true, implies_true, count_map_of_ne] at this ⊢
    omega
  spouts x := by
    have := ha.spouts x
    simp only [Worker.discard, Job.opening_eq, Job.closing_eq, liveSpouts, List.count_append,
      count_closed_map_closed, count_opened_map_opened, ne_eq, reduceCtorEq,
      not_false_eq_true, implies_true, count_map_of_ne] at this ⊢
    omega
  stopped := ha.stopped

lemma Accounted.install (ha : wk.Accounted) {id : String} (hid : wk.job? id = none)
    (hacc : wk.accepting = true) (j : Job) : (wk.install id j).Accounted where
  bolts x := by
    have := ha.bolts x
    have hlive := Keyed.count_flatMap_insert (fun j : Job => j.bolts.map (·.id)) x (v := j) hid
    simp only [Worker.install, Job.opening_eq, liveBolts, List.count_append, count_prepared_map_prepared,
      ne_eq, reduceCtorEq, not_false_eq_true, implies_true, count_map_of_ne, hlive] at this ⊢
    omega
  spouts x := by
    have := ha.spouts x
    have hlive := Keyed.count_flatMap_insert (fun j : Job => j.spouts.map (·.id)) x (v := j) hid
    simp only [Worker.install, Job.opening_eq, liveSpouts, List.count_append, count_opened_map_opened,
      ne_eq, reduceCtorEq, not_false_eq_true, implies_true, count_map_of_ne, hlive] at this ⊢
    omega
  -- a worker taking jobs has its pool running
  stopped h0 := absurd hacc (by simp [(ha.stopped h0).2])

lemma Accounted.remove (ha : wk.Accounted) {id : String} {j : Job} (hid : wk.job? id = some j) :
    ({ wk with jobs := Keyed.erase id wk.jobs, eosSeen := Keyed.erase id wk.eosSeen,
               lifecycle := wk.lifecycle ++ j.closing } : Worker).Accounted where
  bolts x := by
    have := ha.bolts x
    have hlive := Keyed.count_flatMap_erase (fun j : Job => j.bolts.map (·.id)) x hid
    simp only [liveBolts, hlive] at this
    simp only [Job.closing_eq, liveBolts, List.count_append, count_cleanedUp_map_cleanedUp,
      ne_eq, reduceCtorEq, not_false_eq_true, implies_true, count_map_of_ne]
    omega
  spouts x := by
    have := ha.spouts x
    have hlive := Keyed.count_flatMap_erase (fun j : Job => j.spouts.map (·.id)) x hid
    simp only [liveSpouts, hlive] at this
    simp only [Job.closing_eq, liveSpouts, List.count_append, count_closed_map_closed,
      ne_eq, reduceCtorEq, not_false_eq_true, implies_true, count_map_of_ne]
    omega
  stopped h0 := by
    obtain ⟨hj, hacc⟩ := ha.stopped h0
    exact ⟨by simp only [hj]; rfl, hacc⟩

lemma Accounted.shutdown (ha : wk.Accounted) : wk.shutdown.Accounted := by
  by_cases h0 : wk.threads = 0
  · rw [shutdown_of_stopped h0]
    exact ⟨ha.bolts, ha.spouts, fun _ => ⟨(ha.stopped h0).1, rfl⟩⟩
  · rw [shutdown_of_running h0]
    refine ⟨fun x => ?_, fun x => ?_, fun _ => ⟨rfl, rfl⟩⟩
    · have := ha.bolts x
      simp only [liveBolts, List.flatMap_nil, List.count_nil, List.count_append, count_cleanedUp_map_cleanedUp,
        ne_eq, reduceCtorEq, not_false_eq_true, implies_true, count_map_of_ne] at this ⊢
      omega
    · have := ha.spouts x
      simp only [liveSpouts, List.flatMap_nil, List.count_nil, List.count_append, count_closed_map_closed,
        ne_eq, reduceCtorEq, not_false_eq_true, implies_true, count_map_of_ne] at this ⊢
      omega

end Worker

/-! ### Operations on a worker's jobs -/

/-- What a worker's runtime is asked to do with its jobs: define one, start one or every job not
started yet, remove one, or shut down. Shutting down after letting started jobs drain, and
dropping the runtime, end in the same shutdown. -/
inductive Control where
  | define (d : JobDefinition)
  | start (job? : Option String)
  | remove (id : String)
  | shutdown
  deriving Inhabited

namespace Control

open Run

/-- An operation on worker `w` of the network; its result is dropped, its fault kept. -/
def run (w : Nat) : Control → Run Unit
  | define d => do
    let _ ← defineJob w d
    pure ()
  | start job? => do
    let _ ← runJob w job?
    pure ()
  | remove id => do
    match (← worker w).removeJob id with
    | .ok wk => modifyWorker w fun _ => wk
    | .error f => throw f
  | shutdown => do
    let _ ← worker w
    modifyWorker w (·.shutdown)

/-- The operations `ops`, taken in turn on worker `w` from `s₀`, lead to `s`: each one ends,
normally or with a fault, and none crashes. -/
inductive Runs (w : Nat) (s₀ : World) : List Control → World → Prop
  | nil : Runs w s₀ [] s₀
  | snoc {ops : List Control} {s s' : World} {op : Control} {r : Except Fault Unit} :
      Runs w s₀ ops s → (op.run w).run.run s = .ok (r, s') → Runs w s₀ (ops ++ [op]) s'

inductive Effect (wk : Worker) : Control → Except Fault Unit → Worker → Prop
  /-- A definition refused: the worker is shutting down or holds the id already. -/
  | refused {d : JobDefinition} {id : String} {f : Fault} :
      wk.allowsJob id = .error f → Effect wk (.define d) (.error f) wk
  /-- A definition whose making failed: what it made is taken down again. -/
  | discarded {d : JobDefinition} {id : String} {f : Fault} (made : Job) :
      wk.allowsJob id = .ok () → Effect wk (.define d) (.error f) (wk.discard made)
  | installed {d : JobDefinition} {id : String} (j : Job) :
      wk.allowsJob id = .ok () → Effect wk (.define d) (.ok ()) (wk.install id j)
  | started {job? : Option String} {r : Except Fault Unit} {wk' : Worker} :
      wk.KeepsComponents wk' → Effect wk (.start job?) r wk'
  /-- A job removed: it is forgotten with what was recorded for it, and its components taken down. -/
  | removed {id : String} {j : Job} : wk.job? id = some j →
      Effect wk (.remove id) (.ok ())
        { wk with jobs := Keyed.erase id wk.jobs, eosSeen := Keyed.erase id wk.eosSeen,
                  lifecycle := wk.lifecycle ++ j.closing }
  | notRemoved {id : String} : wk.job? id = none → Effect wk (.remove id) (.error (.jobNotFound id)) wk
  | shutdown : Effect wk .shutdown (.ok ()) wk.shutdown

variable {s : World} {w : Nat}

lemma spec_define (d : JobDefinition) :
    Spec ((define d).run w) s fun r s' => ∃ wk wk', s.workers[w]? = some wk ∧ s'.workers[w]? = some wk' ∧
      Effect wk (.define d) r wk' := by
  simp only [run, spec_bind]
  refine (spec_defineJob_cases w d).mono fun r s' h => ?_
  obtain ⟨wk, hwk, id, hcase⟩ := h
  rcases hcase with ⟨f, hf, rfl, rfl⟩ | ⟨hok, f, made, -, rfl, hws⟩ | ⟨hok, j, -, rfl, hws⟩
  · exact ⟨wk, wk, hwk, hwk, .refused hf⟩
  · exact ⟨wk, wk.discard made, hwk, by rw [hws]; exact (modify_frame hwk _).2.2, .discarded made hok⟩
  · exact ⟨wk, wk.install id j, hwk, by rw [hws]; exact (modify_frame hwk _).2.2, .installed j hok⟩

lemma spec_start (job? : Option String) :
    Spec ((start job?).run w) s fun r s' => ∃ wk wk', s.workers[w]? = some wk ∧ s'.workers[w]? = some wk' ∧
      Effect wk (.start job?) r wk' := by
  simp only [run, runJob, spec_bind, spec_worker]
  intro wk hwk
  cases job? with
  | some id =>
    dsimp only
    cases h : wk.startJob id with
    | ok wk' =>
      simp only [spec_bind, spec_modifyWorker, spec_pure]
      exact ⟨wk, wk', hwk, (modify_frame hwk _).2.2, .started (Worker.keepsComponents_startJob h)⟩
    | error f =>
      simp only [spec_throw]
      exact ⟨wk, wk, hwk, hwk, .started (Worker.KeepsComponents.refl wk)⟩
  | none =>
    simp only [spec_bind, spec_modifyWorker, spec_pure]
    exact ⟨wk, wk.startPending.2, hwk, (modify_frame hwk _).2.2,
      .started (Worker.keepsComponents_startPending wk)⟩

lemma spec_remove (id : String) :
    Spec ((remove id).run w) s fun r s' => ∃ wk wk', s.workers[w]? = some wk ∧ s'.workers[w]? = some wk' ∧
      Effect wk (.remove id) r wk' := by
  simp only [run, spec_bind, spec_worker]
  intro wk hwk
  rcases Worker.removeJob_cases wk id with ⟨j, hj, hr⟩ | ⟨hj, hr⟩
  · simp only [hr, spec_modifyWorker]
    exact ⟨wk, _, hwk, (modify_frame hwk _).2.2, .removed hj⟩
  · simp only [hr, spec_throw]
    exact ⟨wk, wk, hwk, hwk, .notRemoved hj⟩

lemma spec_shutdown :
    Spec (shutdown.run w) s fun r s' => ∃ wk wk', s.workers[w]? = some wk ∧ s'.workers[w]? = some wk' ∧
      Effect wk .shutdown r wk' := by
  simp only [run, spec_bind, spec_worker, spec_modifyWorker]
  intro wk hwk
  exact ⟨wk, wk.shutdown, hwk, (modify_frame hwk _).2.2, .shutdown⟩

theorem effect_of_run {op : Control} {r : Except Fault Unit} {s' : World}
    (h : (op.run w).run.run s = .ok (r, s')) :
    ∃ wk wk', s.workers[w]? = some wk ∧ s'.workers[w]? = some wk' ∧ Effect wk op r wk' := by
  cases op with
  | define d => exact (spec_define d).of_run h
  | start job? => exact (spec_start job?).of_run h
  | remove id => exact (spec_remove id).of_run h
  | shutdown => exact spec_shutdown.of_run h

namespace Effect

variable {wk wk' : Worker} {op : Control} {r : Except Fault Unit}

theorem accounted (h : Effect wk op r wk') (ha : wk.Accounted) : wk'.Accounted := by
  cases h with
  | refused => exact ha
  | discarded made => exact ha.discard made
  | installed j hok =>
    obtain ⟨hacc, hid⟩ := Worker.allowsJob_eq_ok hok
    exact ha.install hid hacc j
  | started hk => exact ha.of_keeps hk
  | removed hj => exact ha.remove hj
  | notRemoved => exact ha
  | shutdown => exact ha.shutdown

theorem threads (h : Effect wk op r wk') :
    (op = .shutdown ∧ wk'.threads = 0) ∨ (op ≠ .shutdown ∧ wk'.threads = wk.threads) := by
  cases h with
  | shutdown =>
    refine .inl ⟨rfl, ?_⟩
    by_cases h0 : wk.threads = 0
    · rw [Worker.shutdown_of_stopped h0]; exact h0
    · rw [Worker.shutdown_of_running h0]
  | started hk => exact .inr ⟨Control.noConfusion, hk.threads⟩
  | refused | discarded | installed | removed | notRemoved => exact .inr ⟨Control.noConfusion, rfl⟩

/-- What an effect adds to the lifecycle. Only a failed definition, a removal and a shutdown of a
running pool take components down, and that shutdown cleans up every bolt of every job the
worker holds before it closes any spout, and leaves no job. -/
theorem segment (h : Effect wk op r wk') :
    ∃ seg, wk'.lifecycle = wk.lifecycle ++ seg ∧
      (seg.any Lifecycle.tearsDown = true → (∃ d f, op = .define d ∧ r = .error f) ∨
        (∃ id, op = .remove id ∧ r = .ok ()) ∨ (op = .shutdown ∧ wk.threads ≠ 0)) ∧
      (op = .shutdown → wk.threads ≠ 0 →
        seg = wk.liveBolts.map .cleanedUp ++ wk.liveSpouts.map .closed ∧ wk'.jobs = []) := by
  cases h with
  | refused => exact ⟨[], by simp, by simp, fun h => Control.noConfusion h⟩
  | @discarded d _ f made _ =>
    exact ⟨made.opening ++ made.closing, by simp [Worker.discard], fun _ => .inl ⟨d, f, rfl, rfl⟩,
      fun h => Control.noConfusion h⟩
  | installed j _ =>
    -- a job made whole only opens and prepares
    refine ⟨j.opening, rfl, fun ht => ?_, fun h => Control.noConfusion h⟩
    simp [Job.opening, Lifecycle.tearsDown] at ht
  | started hk => exact ⟨[], by simp [hk.lifecycle], by simp, fun h => Control.noConfusion h⟩
  | @removed id j _ =>
    exact ⟨j.closing, rfl, fun _ => .inr (.inl ⟨id, rfl, rfl⟩), fun h => Control.noConfusion h⟩
  | notRemoved => exact ⟨[], by simp, by simp, fun h => Control.noConfusion h⟩
  | shutdown =>
    by_cases h0 : wk.threads = 0
    · exact ⟨[], by rw [Worker.shutdown_of_stopped h0]; simp, by simp, fun _ h => absurd h0 h⟩
    · refine ⟨wk.liveBolts.map .cleanedUp ++ wk.liveSpouts.map .closed,
        by rw [Worker.shutdown_of_running h0], fun _ => .inr (.inr ⟨rfl, h0⟩),
        fun _ _ => ⟨rfl, by rw [Worker.shutdown_of_running h0]⟩⟩

end Effect

lemma run_define_of_not_accepting {wk : Worker} (hwk : s.workers[w]? = some wk)
    (hacc : wk.accepting = false) (d : JobDefinition) :
    ((define d).run w).run.run s = .ok (.error .shuttingDown, s) := by
  have hallow : ∀ id, wk.allowsJob id = .error .shuttingDown := fun id => by
    simp [Worker.allowsJob, hacc, throw, throwThe, MonadExceptOf.throw, bind, Except.bind]
  simp only [run, defineJob, run_bind, run_get, run_worker hwk, hallow]
  rfl

lemma run_remove_of_missing {wk : Worker} (hwk : s.workers[w]? = some wk) {id : String}
    (h : wk.job? id = none) :
    ((remove id).run w).run.run s = .ok (.error (.jobNotFound id), s) := by
  have hr : wk.removeJob id = .error (.jobNotFound id) := by
    simp [Worker.removeJob, Worker.job, h, bind, Except.bind]
  simp only [run, run_bind, run_worker hwk, hr]
  rfl

/-- Along every run from a fresh worker, the lives of its components add up, and its pool has
stopped exactly when a shutdown was among the operations. -/
theorem Runs.accounted {s₀ s : World} {wk₀ : Worker} {ops : List Control}
    (h₀ : s₀.workers[w]? = some wk₀) (hfresh : wk₀.Fresh) (hrun : Runs w s₀ ops s) :
    ∃ wk, s.workers[w]? = some wk ∧ wk.Accounted ∧ (Control.shutdown ∈ ops ↔ wk.threads = 0) := by
  -- the operations grow at their end, one effect at a time
  induction hrun with
  | nil =>
    have := hfresh.threads
    exact ⟨wk₀, h₀, hfresh.accounted, by simp; omega⟩
  | snoc _ hstep ih =>
    obtain ⟨wk, hwk, ha, hstop⟩ := ih
    obtain ⟨wk₁, wk', hwk₁, hwk', heff⟩ := effect_of_run hstep
    obtain rfl : wk₁ = wk := Option.some.inj (hwk₁.symm.trans hwk)
    refine ⟨wk', hwk', heff.accounted ha, ?_⟩
    rw [List.mem_append, List.mem_singleton]
    rcases heff.threads with ⟨rfl, h0⟩ | ⟨hop, hth⟩
    · simp [h0]
    · rw [hth, ← hstop]
      exact or_iff_left (Ne.symm hop)

end Control

/-- Over every run of operations on a worker that holds nothing yet: every bolt prepared under an
id is either part of a job the worker holds or was cleaned up, so no id is cleaned up more often
than it was prepared, and likewise every spout opened is either held or closed. Once a shutdown
has come, the worker holds no job and refuses every definition as shutting down, changing
nothing; removing a job it does not hold fails as not found, changing nothing. And of the next
operation: only a failed definition, a removal, or the first shutdown takes components down, and
the first shutdown cleans up every bolt of every job held before it closes any spout. -/
theorem components_taken_down_once {w : Nat} {s₀ s : World} {wk₀ : Worker} {ops : List Control}
    (h₀ : s₀.workers[w]? = some wk₀) (hfresh : wk₀.Fresh) (hrun : Control.Runs w s₀ ops s) :
    ∃ wk, s.workers[w]? = some wk ∧
      (∀ x, wk.lifecycle.count (.cleanedUp x) + wk.liveBolts.count x = wk.lifecycle.count (.prepared x)) ∧
      (∀ x, wk.lifecycle.count (.closed x) + wk.liveSpouts.count x = wk.lifecycle.count (.opened x)) ∧
      (Control.shutdown ∈ ops → wk.jobs = [] ∧
        ∀ d, ((Control.define d).run w).run.run s = .ok (.error .shuttingDown, s)) ∧
      (∀ id, wk.job? id = none → ((Control.remove id).run w).run.run s = .ok (.error (.jobNotFound id), s)) ∧
      ∀ (op : Control) r s', (op.run w).run.run s = .ok (r, s') → ∃ wk', s'.workers[w]? = some wk' ∧
        ∃ seg, wk'.lifecycle = wk.lifecycle ++ seg ∧
          (seg.any Lifecycle.tearsDown = true → (∃ d f, op = .define d ∧ r = .error f) ∨
            (∃ id, op = .remove id ∧ r = .ok ()) ∨ (op = .shutdown ∧ Control.shutdown ∉ ops)) ∧
          (op = .shutdown → Control.shutdown ∉ ops →
            seg = wk.liveBolts.map .cleanedUp ++ wk.liveSpouts.map .closed ∧ wk'.jobs = []) := by
  obtain ⟨wk, hwk, ha, hstop⟩ := Control.Runs.accounted h₀ hfresh hrun
  -- a shutdown among the operations is the pool stopped, which `Accounted` ties to no job taken
  have hrunning : Control.shutdown ∉ ops ↔ wk.threads ≠ 0 := not_congr hstop
  refine ⟨wk, hwk, ha.bolts, ha.spouts, fun hs => ?_, fun id hid => Control.run_remove_of_missing hwk hid,
    fun op r s' hstep => ?_⟩
  · obtain ⟨hjobs, hacc⟩ := ha.stopped (hstop.mp hs)
    exact ⟨hjobs, Control.run_define_of_not_accepting hwk hacc⟩
  · obtain ⟨wk₁, wk', hwk₁, hwk', heff⟩ := Control.effect_of_run hstep
    obtain rfl : wk₁ = wk := Option.some.inj (hwk₁.symm.trans hwk)
    obtain ⟨seg, hseg, hdown, hfirst⟩ := heff.segment
    refine ⟨wk', hwk', seg, hseg, fun ht => ?_, fun hop hnot => hfirst hop (hrunning.mp hnot)⟩
    rcases hdown ht with hdef | hrem | ⟨hop, h0⟩
    · exact .inl hdef
    · exact .inr (.inl hrem)
    · exact .inr (.inr ⟨hop, hrunning.mpr h0⟩)

/-- A lone worker defines the sink job and shuts down. -/
theorem sink_defined_then_shut_down :
    ∃ s, ({ workers := [{ port := 0, address := "http://a" }], link := .loopback false } : World).workers[0]? =
        some { port := 0, address := "http://a" } ∧
      ({ port := 0, address := "http://a" } : Worker).Fresh ∧
      Control.Runs 0 { workers := [{ port := 0, address := "http://a" }], link := .loopback false }
        [.define ⟨Deployment.sinkTopology, Deployment.sinkConfig⟩, .shutdown] s ∧
      ∃ wk, s.workers[0]? = some wk ∧
      (∀ x, wk.lifecycle.count (.cleanedUp x) + wk.liveBolts.count x = wk.lifecycle.count (.prepared x)) ∧
      (∀ x, wk.lifecycle.count (.closed x) + wk.liveSpouts.count x = wk.lifecycle.count (.opened x)) ∧
      (Control.shutdown ∈ [Control.define ⟨Deployment.sinkTopology, Deployment.sinkConfig⟩, .shutdown] →
        wk.jobs = [] ∧ ∀ d, ((Control.define d).run 0).run.run s = .ok (.error .shuttingDown, s)) ∧
      (∀ id, wk.job? id = none → ((Control.remove id).run 0).run.run s = .ok (.error (.jobNotFound id), s)) ∧
      ∀ (op : Control) r s', (op.run 0).run.run s = .ok (r, s') → ∃ wk', s'.workers[0]? = some wk' ∧
        ∃ seg, wk'.lifecycle = wk.lifecycle ++ seg ∧
          (seg.any Lifecycle.tearsDown = true → (∃ d f, op = .define d ∧ r = .error f) ∨
            (∃ id, op = .remove id ∧ r = .ok ()) ∨
            (op = .shutdown ∧ Control.shutdown ∉ [Control.define ⟨Deployment.sinkTopology, Deployment.sinkConfig⟩, .shutdown])) ∧
          (op = .shutdown →
            Control.shutdown ∉ [Control.define ⟨Deployment.sinkTopology, Deployment.sinkConfig⟩, .shutdown] →
            seg = wk.liveBolts.map .cleanedUp ++ wk.liveSpouts.map .closed ∧ wk'.jobs = []) := by
  have hfresh : ({ port := 0, address := "http://a" } : Worker).Fresh := ⟨rfl, rfl, by decide⟩
  obtain ⟨r₁, s₁, h₁⟩ : ∃ r s', ((Control.define ⟨Deployment.sinkTopology, Deployment.sinkConfig⟩).run 0).run.run
      { workers := [{ port := 0, address := "http://a" }], link := .loopback false } = .ok (r, s') := ⟨_, _, rfl⟩
  obtain ⟨r₂, s₂, h₂⟩ : ∃ r s', (Control.shutdown.run 0).run.run s₁ = .ok (r, s') := by
    obtain ⟨wk, hwk, -⟩ := (Control.Runs.accounted rfl hfresh (.snoc .nil h₁))
    exact ⟨_, _, by rw [Control.run, Run.run_bind, Run.run_worker hwk]; rfl⟩
  have hrun : Control.Runs 0 { workers := [{ port := 0, address := "http://a" }], link := .loopback false }
      [.define ⟨Deployment.sinkTopology, Deployment.sinkConfig⟩, .shutdown] s₂ := .snoc (.snoc .nil h₁) h₂
  exact ⟨s₂, rfl, hfresh, hrun, components_taken_down_once rfl hfresh hrun⟩

end Dataflow
