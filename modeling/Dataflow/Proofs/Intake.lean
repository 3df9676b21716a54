import Dataflow.Proofs.Failure
import Dataflow.Proofs.Definition
/-!
Taking the tuples a peer pushes for a stream of a job. A push names the job and the stream; it is
refused while the job has no router for the stream, answered with a fault a sender retries, and
refused once the job has failed, answered with an execution fault that a sender does not retry.
Otherwise its batch is taken in order: a data tuple is counted for the stream and routed to the
local executors; an end of stream is routed and then recorded for its source, unless one from
that source was recorded before, in which case it is dropped; the first routing that fails fails
the job with its fault, which the push returns, and the rest of the batch is not taken.

`Takes` says this of a batch, and a push does exactly what it says (`push_run_iff`). Over a
sequence of pushes (`Pushes`), the ends of stream routed are routed once per source, and never
for a source recorded before the sequence; a job once failed refuses every later push and is
left as it is.
-/
namespace Dataflow

open Run

/-- What taking one tuple of a batch did: a data tuple counted and routed, an end of stream routed
and recorded, or an end of stream dropped as one recorded before. -/
inductive Taken where
  | data (t : Tuple)
  | eos (source : String)
  | repeated (source : String)
  deriving DecidableEq

def Taken.routedEos : Taken → Option String
  | .eos x => some x
  | _ => none

section Takes

variable (deliver : Deliver) (p : Place) (c : String)

/-- How a batch pushed for stream `c` of the job at `p` is taken, tuple by tuple, with what each
tuple did, the outcome, and the world after. -/
inductive Takes : World → List Tuple → List Taken → Except Fault Unit → World → Prop
  | nil {s : World} : Takes s [] [] (.ok ()) s
  /-- A data tuple is counted for the stream, then routed to the local executors. -/
  | data {s s₁ s₂ : World} {t : Tuple} {ts : List Tuple} {evs : List Taken} {r : Except Fault Unit} :
      t.endOfStream = false →
      (routeLocally deliver p c t).run.run (s.updJob p fun j => { j with context := j.context.countReceived c }) =
        .ok (.ok (), s₁) →
      Takes s₁ ts evs r s₂ → Takes s (t :: ts) (.data t :: evs) r s₂
  | repeated {s s₂ : World} {t : Tuple} {ts : List Tuple} {evs : List Taken} {r : Except Fault Unit} :
      t.endOfStream = true → (c, t.source) ∈ s.seenAt p.job p.worker →
      Takes s ts evs r s₂ → Takes s (t :: ts) (.repeated t.source :: evs) r s₂
  /-- An end of stream from a source not recorded is routed, and once routed, recorded. -/
  | eos {s s₁ s₂ : World} {t : Tuple} {ts : List Tuple} {evs : List Taken} {r : Except Fault Unit} :
      t.endOfStream = true → (c, t.source) ∉ s.seenAt p.job p.worker →
      (routeLocally deliver p c (Tuple.eos t.source)).run.run s = .ok (.ok (), s₁) →
      Takes (s₁.markEos p.worker p.job c t.source) ts evs r s₂ → Takes s (t :: ts) (.eos t.source :: evs) r s₂
  /-- A data tuple whose routing fails fails the job with the fault and ends the batch. -/
  | dataFails {s s₁ : World} {t : Tuple} {ts : List Tuple} {e : Fault} : t.endOfStream = false →
      (routeLocally deliver p c t).run.run (s.updJob p fun j => { j with context := j.context.countReceived c }) =
        .ok (.error e, s₁) →
      Takes s (t :: ts) [] (.error e) (s₁.updJob p fun j => { j with context := j.context.fail none e })
  /-- An end of stream whose routing fails fails the job with the fault, is not recorded, and
  ends the batch. -/
  | eosFails {s s₁ : World} {t : Tuple} {ts : List Tuple} {e : Fault} : t.endOfStream = true →
      (c, t.source) ∉ s.seenAt p.job p.worker →
      (routeLocally deliver p c (Tuple.eos t.source)).run.run s = .ok (.error e, s₁) →
      Takes s (t :: ts) [] (.error e) (s₁.updJob p fun j => { j with context := j.context.fail none e })

end Takes

/-! ### What every flow keeps of the records and the routers -/

/-- The ends of stream recorded on every worker only grow, by records added at the end, and no
worker comes or goes. -/
def SeenGrows (s : World) (_ : Option Fault) (s' : World) : Prop :=
  s'.workers.length = s.workers.length ∧ ∀ job w, s.seenAt job w <+: s'.seenAt job w

lemma seenAt_markEos_prefix (s : World) (q : Nat) (job stream source job' : String) (w : Nat) :
    s.seenAt job' w <+: (s.markEos q job stream source).seenAt job' w := by
  simp only [World.seenAt, List.getElem?_modify]
  cases s.workers[w]? with
  | none => exact List.prefix_refl _
  | some wk =>
    by_cases hq : q = w
    · by_cases hj : job' = job
      · subst hj
        simp [hq, Worker.markEos, Keyed.lookup_insert_self]
      · simp [hq, Worker.markEos, Keyed.lookup_insert_of_ne hj]
    · simp [hq]

theorem flowRel_seenGrows : FlowRel SeenGrows where
  refl _ := ⟨rfl, fun _ _ => List.prefix_refl _⟩
  trans h₁ h₂ := ⟨h₂.1.trans h₁.1, fun job w => (h₁.2 job w).trans (h₂.2 job w)⟩
  raise _ h := h
  fail _ _ _ h := ⟨by simpa using h.1, fun job w => by simpa using h.2 job w⟩
  context _ _ _ _ := ⟨by simp, fun _ _ => by simp⟩
  bolt _ _ _ _ := ⟨by simp, fun _ _ => by simp⟩
  router _ _ _ _ := ⟨by simp, fun _ _ => by simp⟩
  markEos s q job stream source := ⟨List.length_modify .., fun job' w => seenAt_markEos_prefix s q job stream source job' w⟩
  begin _ _ := ⟨rfl, fun _ _ => List.prefix_refl _⟩
  disk _ _ := ⟨rfl, fun _ _ => List.prefix_refl _⟩

def RoutersKept (s : World) (_ : Option Fault) (s' : World) : Prop :=
  JobWise (fun _ j j' => j'.routers.map (·.1) = j.routers.map (·.1)) s s'

theorem flowRel_routersKept : FlowRel RoutersKept :=
  @FlowRel.jobWise (fun _ _ j j' => j'.routers.map (·.1) = j.routers.map (·.1))
    (fun _ _ => rfl) (fun h₁ h₂ => h₂.trans h₁) (fun _ h => h) (fun _ _ h => h) (fun _ _ _ _ => rfl)
    (fun _ _ _ _ => rfl) (fun _ j c r => by simp [Job.setRouter, List.map_map, Function.comp_def, apply_ite])

lemma isSome_lookup_congr {α : Type} {k : String} {l l' : List (String × α)}
    (h : l'.map (·.1) = l.map (·.1)) : (l'.lookup k).isSome ↔ (l.lookup k).isSome := by
  rw [Topology.isSome_lookup_iff, Topology.isSome_lookup_iff, h]

/-! ### Taking one tuple -/

section Take

variable {deliver : Deliver} {p : Place} {c : String} {s : World}

lemma run_takeTuple_data {t : Tuple} (ht : t.endOfStream = false) :
    (takeTuple deliver p c t).run.run s =
      match (routeLocally deliver p c t).run.run (s.updJob p fun j => { j with context := j.context.countReceived c }) with
      | .ok (.ok _, s₁) => .ok (.ok (), s₁)
      | .ok (.error e, s₁) => .ok (.error e, s₁.updJob p fun j => { j with context := j.context.fail none e })
      | .error x => .error x := by
  rw [takeTuple, if_neg (by simp [ht]), run_bind, run_modifyContext]
  dsimp only
  rw [run_tryCatch]
  rcases (routeLocally deliver p c t).run.run _ with x | ⟨e | u, s₁⟩ <;> rfl

lemma run_takeTuple_eos {t : Tuple} (ht : t.endOfStream = true) {wk : Worker}
    (hwk : s.workers[p.worker]? = some wk) :
    (takeTuple deliver p c t).run.run s =
      if (c, t.source) ∈ s.seenAt p.job p.worker then .ok (.ok (), s) else
      match (routeLocally deliver p c (Tuple.eos t.source)).run.run s with
      | .ok (.ok _, s₁) => .ok (.ok (), s₁.markEos p.worker p.job c t.source)
      | .ok (.error e, s₁) => .ok (.error e, s₁.updJob p fun j => { j with context := j.context.fail none e })
      | .error x => .error x := by
  rw [takeTuple, if_pos ht, run_bind, run_worker hwk]
  dsimp only
  by_cases hd : (c, t.source) ∈ s.seenAt p.job p.worker
  · rw [if_pos ((World.eosDelivered_iff hwk _ _).mpr hd), if_pos hd]
    rfl
  · rw [if_neg (mt (World.eosDelivered_iff hwk _ _).mp hd), if_neg hd, run_bind, run_tryCatch]
    rcases (routeLocally deliver p c (Tuple.eos t.source)).run.run s with x | ⟨e | u, s₁⟩ <;> rfl

lemma run_routeLocally_of_none {t : Tuple} (hwk : s.workers[p.worker]? = none) :
    ∃ x, (routeLocally deliver p c t).run.run s = .error x := by
  rw [routeLocally, run_bind, Run.router, run_bind, Run.job, run_bind, Run.worker, run_bind, run_get]
  simp only [hwk]
  exact ⟨_, rfl⟩

lemma worker_of_routeLocally {t : Tuple} {o : Except Fault Unit × World}
    (h : (routeLocally deliver p c t).run.run s = .ok o) : ∃ wk, s.workers[p.worker]? = some wk := by
  cases hwk : s.workers[p.worker]? with
  | none =>
    obtain ⟨x, hx⟩ := @run_routeLocally_of_none deliver p c s t hwk
    rw [hx] at h
    cases h
  | some wk => exact ⟨wk, rfl⟩

lemma worker_of_mem_seenAt {job : String} {w : Nat} {e : String × String} (h : e ∈ s.seenAt job w) :
    ∃ wk, s.workers[w]? = some wk := by
  unfold World.seenAt at h
  cases hwk : s.workers[w]? with
  | none => simp [hwk] at h
  | some wk => exact ⟨wk, rfl⟩

lemma run_takeTuple_of_none {t : Tuple} (ht : t.endOfStream = true) (hwk : s.workers[p.worker]? = none) :
    ∃ x, (takeTuple deliver p c t).run.run s = .error x := by
  rw [takeTuple, if_pos ht, run_bind, Run.worker, run_bind, run_get]
  simp only [hwk]
  exact ⟨_, rfl⟩

variable (deliver p c) in
abbrev takeBatch (ts : List Tuple) : Run PUnit :=
  forIn ts PUnit.unit fun t _ => do takeTuple deliver p c t; pure (ForInStep.yield PUnit.unit)

lemma run_takeBatch_cons (t : Tuple) (ts : List Tuple) :
    (takeBatch deliver p c (t :: ts)).run.run s = match (takeTuple deliver p c t).run.run s with
      | .ok (.ok _, s₁) => (takeBatch deliver p c ts).run.run s₁
      | .ok (.error e, s₁) => .ok (.error e, s₁)
      | .error x => .error x := by
  rw [takeBatch, List.forIn_cons, run_bind, run_bind]
  rcases (takeTuple deliver p c t).run.run s with x | ⟨e | u, s₁⟩ <;> rfl

theorem Takes.run {ts : List Tuple} {evs : List Taken} {r : Except Fault Unit} {s' : World}
    (h : Takes deliver p c s ts evs r s') : (takeBatch deliver p c ts).run.run s = .ok (r, s') := by
  induction h with
  | nil => rfl
  | data ht hroute _ ih => rw [run_takeBatch_cons, run_takeTuple_data ht, hroute]; exact ih
  | repeated ht hseen _ ih =>
    obtain ⟨wk, hwk⟩ := worker_of_mem_seenAt hseen
    rw [run_takeBatch_cons, run_takeTuple_eos ht hwk, if_pos hseen]
    exact ih
  | eos ht hseen hroute _ ih =>
    obtain ⟨wk, hwk⟩ := worker_of_routeLocally hroute
    rw [run_takeBatch_cons, run_takeTuple_eos ht hwk, if_neg hseen, hroute]
    exact ih
  | dataFails ht hroute => rw [run_takeBatch_cons, run_takeTuple_data ht, hroute]
  | eosFails ht hseen hroute =>
    obtain ⟨wk, hwk⟩ := worker_of_routeLocally hroute
    rw [run_takeBatch_cons, run_takeTuple_eos ht hwk, if_neg hseen, hroute]

theorem takes_of_run : ∀ {ts : List Tuple} {s : World} {r : Except Fault Unit} {s' : World},
    (takeBatch deliver p c ts).run.run s = .ok (r, s') → ∃ evs, Takes deliver p c s ts evs r s'
  | [], s, r, s', h => by
    simp only [takeBatch, List.forIn_nil, run_pure, Except.ok.injEq, Prod.mk.injEq] at h
    obtain ⟨rfl, rfl⟩ := h
    exact ⟨[], .nil⟩
  | t :: ts, s, r, s', h => by
    rw [run_takeBatch_cons] at h
    cases ht : t.endOfStream with
    | false =>
      rw [run_takeTuple_data ht] at h
      rcases hroute : (routeLocally deliver p c t).run.run
        (s.updJob p fun j => { j with context := j.context.countReceived c }) with x | ⟨e | u, s₁⟩ <;>
        rw [hroute] at h
      · cases h
      · simp only [Except.ok.injEq, Prod.mk.injEq] at h
        obtain ⟨rfl, rfl⟩ := h
        exact ⟨[], .dataFails ht hroute⟩
      · obtain ⟨evs, hevs⟩ := takes_of_run h
        exact ⟨.data t :: evs, .data ht hroute hevs⟩
    | true =>
      cases hwk : s.workers[p.worker]? with
      | none =>
        obtain ⟨x, hx⟩ := @run_takeTuple_of_none deliver p c s t ht hwk
        rw [hx] at h
        cases h
      | some wk =>
        rw [run_takeTuple_eos ht hwk] at h
        by_cases hseen : (c, t.source) ∈ s.seenAt p.job p.worker
        · -- dropped
          rw [if_pos hseen] at h
          obtain ⟨evs, hevs⟩ := takes_of_run h
          exact ⟨.repeated t.source :: evs, .repeated ht hseen hevs⟩
        · rw [if_neg hseen] at h
          rcases hroute : (routeLocally deliver p c (Tuple.eos t.source)).run.run s with x | ⟨e | u, s₁⟩ <;>
            rw [hroute] at h
          · cases h
          · simp only [Except.ok.injEq, Prod.mk.injEq] at h
            obtain ⟨rfl, rfl⟩ := h
            exact ⟨[], .eosFails ht hseen hroute⟩
          · obtain ⟨evs, hevs⟩ := takes_of_run h
            exact ⟨.eos t.source :: evs, .eos ht hseen hroute hevs⟩

end Take

/-! ### A push -/

section Push

variable (deliver : Deliver) (w : Nat) (id c : String)

/-- How a push for stream `c` of job `id` on worker `w` ends, with what each tuple taken did. -/
inductive PushOutcome : World → List Tuple → List Taken → Except Fault Unit → World → Prop
  /-- The job has no router for the stream: refused, and nothing changes. -/
  | notReady {s : World} {ts : List Tuple} {wk : Worker} : s.workers[w]? = some wk →
      (wk.job? id).bind (·.router? c) = none → PushOutcome s ts [] (.error (.routerNotReady id c)) s
  | failed {s : World} {ts : List Tuple} {wk : Worker} {j : Job} : s.workers[w]? = some wk →
      wk.job? id = some j → (j.router? c).isSome → j.context.failed = true →
      PushOutcome s ts [] (.error (.fail s!"job {id} has failed on port {wk.port}")) s
  | taken {s s' : World} {ts : List Tuple} {evs : List Taken} {r : Except Fault Unit} {wk : Worker} {j : Job} :
      s.workers[w]? = some wk → wk.job? id = some j → (j.router? c).isSome → j.context.failed = false →
      Takes deliver ⟨w, id⟩ c s ts evs r s' → PushOutcome s ts evs r s'

variable {deliver w id c}

lemma run_push_of_none {ts : List Tuple} {s : World} (hwk : s.workers[w]? = none) :
    ∃ x, (push deliver w (some id) c ts).run.run s = .error x := by
  rw [push, run_bind, Run.worker, run_bind, run_get]
  simp only [hwk]
  exact ⟨_, rfl⟩

lemma run_push {ts : List Tuple} {s : World} {wk : Worker} (hwk : s.workers[w]? = some wk) :
    (push deliver w (some id) c ts).run.run s =
      match (wk.job? id).bind (·.router? c), wk.job? id with
      | some _, some j =>
        if j.context.failed then .ok (.error (.fail s!"job {id} has failed on port {wk.port}"), s)
        else (takeBatch deliver ⟨w, id⟩ c ts).run.run s
      | _, _ => .ok (.error (.routerNotReady id c), s) := by
  rw [push, run_bind, run_worker hwk]
  dsimp only
  rw [run_bind, run_pure]
  dsimp only
  cases hr : (wk.job? id).bind fun x => x.router? c with
  | none =>
    rw [run_bind]
    rfl
  | some rt =>
    obtain ⟨j, hj, -⟩ := Option.bind_eq_some_iff.mp hr
    have hjob : wk.job id = .ok j := by simp [Worker.job, hj]
    simp only [hjob, hj]
    rw [run_bind, show (MonadExcept.ofExcept (.ok j) : Run Job).run.run s = .ok (.ok j, s) from rfl]
    dsimp only
    split_ifs
    · rw [run_bind]
      rfl
    · rw [run_bind]
      rcases (takeBatch deliver ⟨w, id⟩ c ts).run.run s with x | ⟨e | u, s₁⟩ <;> rfl

theorem PushOutcome.run {ts : List Tuple} {s s' : World} {evs : List Taken} {r : Except Fault Unit}
    (h : PushOutcome deliver w id c s ts evs r s') : (push deliver w (some id) c ts).run.run s = .ok (r, s') := by
  cases h with
  | notReady hwk hr => rw [run_push hwk, hr]
  | failed hwk hj hsome hf =>
    obtain ⟨rt, hrt⟩ := Option.isSome_iff_exists.mp hsome
    rw [run_push hwk, Option.bind_eq_some_iff.mpr ⟨_, hj, hrt⟩, hj]
    simp [hf]
  | taken hwk hj hsome hf hevs =>
    obtain ⟨rt, hrt⟩ := Option.isSome_iff_exists.mp hsome
    rw [run_push hwk, Option.bind_eq_some_iff.mpr ⟨_, hj, hrt⟩, hj]
    simp only [hf, Bool.false_eq_true, if_false]
    exact hevs.run

theorem PushOutcome.of_run {ts : List Tuple} {s s' : World} {r : Except Fault Unit}
    (h : (push deliver w (some id) c ts).run.run s = .ok (r, s')) : ∃ evs, PushOutcome deliver w id c s ts evs r s' := by
  cases hwk : s.workers[w]? with
  | none =>
    obtain ⟨x, hx⟩ := @run_push_of_none deliver w id c ts s hwk
    rw [hx] at h
    cases h
  | some wk =>
    rw [run_push hwk] at h
    cases hr : (wk.job? id).bind (·.router? c) with
    | none =>
      rw [hr] at h
      simp only [Except.ok.injEq, Prod.mk.injEq] at h
      obtain ⟨rfl, rfl⟩ := h
      exact ⟨[], .notReady hwk hr⟩
    | some rt =>
      obtain ⟨j, hj, hrt⟩ := Option.bind_eq_some_iff.mp hr
      have hsome : (j.router? c).isSome := by simp [hrt]
      rw [hr, hj] at h
      dsimp only at h
      split_ifs at h with hf
      · simp only [Except.ok.injEq, Prod.mk.injEq] at h
        obtain ⟨rfl, rfl⟩ := h
        exact ⟨[], .failed hwk hj hsome hf⟩
      · obtain ⟨evs, hevs⟩ := takes_of_run h
        exact ⟨evs, .taken hwk hj hsome (by simpa using hf) hevs⟩

theorem push_run_iff {ts : List Tuple} {s s' : World} {r : Except Fault Unit} :
    (push deliver w (some id) c ts).run.run s = .ok (r, s') ↔ ∃ evs, PushOutcome deliver w id c s ts evs r s' :=
  ⟨PushOutcome.of_run, fun ⟨_, h⟩ => h.run⟩

end Push

/-! ### Sequences of pushes -/

section Sequences

variable (deliver : Deliver) (w : Nat) (id c : String)

/-- Pushes one after another for stream `c` of job `id` on worker `w`, each ending normally, with
what each answered and the world after the last. -/
inductive Pushes : World → List (List Tuple) → List (Except Fault Unit) → World → Prop
  | nil {s : World} : Pushes s [] [] s
  | cons {s s₁ s₂ : World} {ts : List Tuple} {bs : List (List Tuple)} {r : Except Fault Unit}
      {rs : List (Except Fault Unit)} :
      (push deliver w (some id) c ts).run.run s = .ok (r, s₁) → Pushes s₁ bs rs s₂ → Pushes s (ts :: bs) (r :: rs) s₂

/-- The outcomes of pushes one after another, with what each tuple taken did, in the order taken. -/
inductive Session : World → List (List Tuple) → List Taken → List (Except Fault Unit) → World → Prop
  | nil {s : World} : Session s [] [] [] s
  | cons {s s₁ s₂ : World} {ts : List Tuple} {bs : List (List Tuple)} {evs evs' : List Taken}
      {r : Except Fault Unit} {rs : List (Except Fault Unit)} :
      PushOutcome deliver w id c s ts evs r s₁ → Session s₁ bs evs' rs s₂ → Session s (ts :: bs) (evs ++ evs') (r :: rs) s₂

variable {deliver w id c}

theorem Pushes.session {s s' : World} {bs : List (List Tuple)} {rs : List (Except Fault Unit)}
    (h : Pushes deliver w id c s bs rs s') : ∃ evs, Session deliver w id c s bs evs rs s' := by
  induction h with
  | nil => exact ⟨[], .nil⟩
  | cons hrun _ ih =>
    obtain ⟨evs, hout⟩ := push_run_iff.mp hrun
    obtain ⟨evs', hrest⟩ := ih
    exact ⟨evs ++ evs', .cons hout hrest⟩

end Sequences

/-! ### Ends of stream are routed once per source -/

/-- Between `s` and `s'` the records of ends of stream only grow, and the sources `xs` had their end
of stream on stream `c` routed to job `job` on worker `w`: each once, none of them recorded at `s`,
all of them recorded at `s'`. -/
def RoutedOnce (c job : String) (w : Nat) (s : World) (xs : List String) (s' : World) : Prop :=
  SeenGrows s none s' ∧ xs.Nodup ∧ ∀ x ∈ xs, (c, x) ∉ s.seenAt job w ∧ (c, x) ∈ s'.seenAt job w

namespace RoutedOnce

variable {c job : String} {w : Nat} {s s₁ s₂ : World} {xs ys : List String}

lemma of_seenGrows (h : SeenGrows s none s₁) : RoutedOnce c job w s [] s₁ := ⟨h, List.nodup_nil, by simp⟩

lemma single {x : String} (h : SeenGrows s none s₁) (hnot : (c, x) ∉ s.seenAt job w)
    (hin : (c, x) ∈ s₁.seenAt job w) : RoutedOnce c job w s [x] s₁ :=
  ⟨h, List.nodup_singleton x, by simpa using ⟨hnot, hin⟩⟩

lemma trans (h₁ : RoutedOnce c job w s xs s₁) (h₂ : RoutedOnce c job w s₁ ys s₂) :
    RoutedOnce c job w s (xs ++ ys) s₂ := by
  obtain ⟨g₁, n₁, f₁⟩ := h₁
  obtain ⟨g₂, n₂, f₂⟩ := h₂
  refine ⟨flowRel_seenGrows.trans g₁ g₂, List.nodup_append.mpr ⟨n₁, n₂, ?_⟩, fun x hx => ?_⟩
  · rintro x hx y hy rfl
    exact (f₂ x hy).1 (f₁ x hx).2
  · rcases List.mem_append.mp hx with hx | hx
    · exact ⟨(f₁ x hx).1, (g₂.2 _ _).subset (f₁ x hx).2⟩
    · exact ⟨fun hs => (f₂ x hx).1 ((g₁.2 _ _).subset hs), (f₂ x hx).2⟩

end RoutedOnce

section Seen

variable {deliver : Deliver} (hd : ∀ p i t, Stays SeenGrows (deliver p i t))
include hd

lemma seenGrows_routeLocally {p : Place} {c : String} {t : Tuple} {s s₁ : World} {r : Except Fault Unit}
    (h : (routeLocally deliver p c t).run.run s = .ok (r, s₁)) : SeenGrows s none s₁ :=
  (flowRel_seenGrows.stays_routeLocally hd p c t s).of_run h

/-- Taking a batch routes the end of stream of a source at most once, only when none is recorded
for it, and then records it. -/
theorem Takes.seen {p : Place} {c : String} {s s' : World} {ts : List Tuple} {evs : List Taken}
    {r : Except Fault Unit} (h : Takes deliver p c s ts evs r s') :
    RoutedOnce c p.job p.worker s (evs.filterMap Taken.routedEos) s' := by
  have hcount : ∀ s, SeenGrows s none (s.updJob p fun j => { j with context := j.context.countReceived c }) :=
    fun s => flowRel_seenGrows.context s p _ fun c' => JobContext.control_countReceived c' c
  induction h with
  | nil => exact .of_seenGrows (flowRel_seenGrows.refl _)
  | data _ hroute _ ih =>
    exact (RoutedOnce.of_seenGrows (flowRel_seenGrows.trans (hcount _) (seenGrows_routeLocally hd hroute))).trans ih
  | repeated _ _ _ ih => exact ih
  | @eos s s₁ s₂ t ts evs r _ hseen hroute _ ih =>
    -- the record made right after routing is what keeps the source from being routed again
    obtain ⟨wk, hwk⟩ := worker_of_routeLocally hroute
    have h₁ := seenGrows_routeLocally hd hroute
    obtain ⟨hlt, -⟩ := List.getElem?_eq_some_iff.mp hwk
    have hmark : (c, t.source) ∈ (s₁.markEos p.worker p.job c t.source).seenAt p.job p.worker := by
      rw [World.seenAt_markEos (h₁.1 ▸ hlt), if_pos rfl]
      simp
    exact (RoutedOnce.single (flowRel_seenGrows.trans h₁ (flowRel_seenGrows.markEos ..)) hseen hmark).trans ih
  | @dataFails s s₁ t ts e _ hroute =>
    have h₁ : SeenGrows s (some e) s₁ := flowRel_seenGrows.trans (hcount _) (seenGrows_routeLocally hd hroute)
    exact .of_seenGrows (flowRel_seenGrows.fail p none e h₁)
  | @eosFails s s₁ t ts e _ _ hroute =>
    exact .of_seenGrows (flowRel_seenGrows.fail p none e (seenGrows_routeLocally hd hroute))

theorem PushOutcome.seen {w : Nat} {id c : String} {s s' : World} {ts : List Tuple} {evs : List Taken}
    {r : Except Fault Unit} (h : PushOutcome deliver w id c s ts evs r s') :
    RoutedOnce c id w s (evs.filterMap Taken.routedEos) s' := by
  cases h with
  | notReady => exact .of_seenGrows (flowRel_seenGrows.refl _)
  | failed => exact .of_seenGrows (flowRel_seenGrows.refl _)
  | taken _ _ _ _ htakes => exact htakes.seen hd

/-- Over pushes one after another, the end of stream of a source is routed at most once, and
never for a source recorded before the first push. -/
theorem Session.seen {w : Nat} {id c : String} {s s' : World} {bs : List (List Tuple)} {evs : List Taken}
    {rs : List (Except Fault Unit)} (h : Session deliver w id c s bs evs rs s') :
    RoutedOnce c id w s (evs.filterMap Taken.routedEos) s' := by
  induction h with
  | nil => exact .of_seenGrows (flowRel_seenGrows.refl _)
  | cons hout _ ih =>
    rw [List.filterMap_append]
    exact (hout.seen hd).trans ih

end Seen

/-! ### A failed job refuses every later push -/

def World.Routes (s : World) (p : Place) (c : String) : Prop := ∃ j, s.job? p = some j ∧ (j.router? c).isSome

/-- The job at `p` has failed while having a router for stream `c`: every push for the stream is
refused from now on. -/
def World.RefusesPushes (s : World) (p : Place) (c : String) : Prop :=
  ∃ j, s.job? p = some j ∧ j.context.failed = true ∧ (j.router? c).isSome

lemma World.Routes.of_routersKept {s s' : World} {o : Option Fault} {p : Place} {c : String}
    (h : RoutersKept s o s') (hs : s.Routes p c) : s'.Routes p c := by
  obtain ⟨j, hj, hr⟩ := hs
  obtain ⟨j', hj'⟩ := Option.isSome_iff_exists.mp ((h.isSome p).trans (by simp [hj]))
  exact ⟨j', hj', (isSome_lookup_congr (h.rel p j j' hj hj')).mpr hr⟩

lemma World.refusesPushes_failJob {s : World} {p : Place} {c : String} (hs : s.Routes p c) (ex : Option String)
    (e : Fault) : (s.updJob p fun j => { j with context := j.context.fail ex e }).RefusesPushes p c := by
  obtain ⟨j, hj, hr⟩ := hs
  exact ⟨{ j with context := j.context.fail ex e }, by rw [World.job?_updJob, if_pos rfl, hj]; rfl,
    JobContext.fail_failed _ _ _, hr⟩

section Refusal

variable {deliver : Deliver} {w : Nat} {id c : String}

lemma PushOutcome.of_refusesPushes {s s' : World} {ts : List Tuple} {evs : List Taken} {r : Except Fault Unit}
    (hs : s.RefusesPushes ⟨w, id⟩ c) (h : PushOutcome deliver w id c s ts evs r s') :
    s' = s ∧ evs = [] ∧ ∃ port : Nat, r = .error (.fail s!"job {id} has failed on port {port}") := by
  obtain ⟨j, hj, hf, hr⟩ := hs
  cases h with
  | notReady hwk hnone =>
    rw [World.job?_of_worker hwk] at hj
    rw [hj, Option.bind_some] at hnone
    simp [hnone] at hr
  | failed => exact ⟨rfl, rfl, _, rfl⟩
  | taken hwk hj' _ hf' _ =>
    rw [World.job?_of_worker hwk, hj'] at hj
    cases hj
    rw [hf] at hf'
    cases hf'

/-- Once the job refuses pushes, every later push is refused with the execution fault for a failed job, and
the world stays as it is. -/
theorem Pushes.of_refusesPushes {s s' : World} {bs : List (List Tuple)} {rs : List (Except Fault Unit)}
    (hs : s.RefusesPushes ⟨w, id⟩ c) (h : Pushes deliver w id c s bs rs s') :
    s' = s ∧ ∀ r ∈ rs, ∃ port : Nat, r = .error (.fail s!"job {id} has failed on port {port}") := by
  induction h with
  | nil => exact ⟨rfl, by simp⟩
  | cons hrun _ ih =>
    obtain ⟨evs, hout⟩ := push_run_iff.mp hrun
    obtain ⟨rfl, -, hr⟩ := hout.of_refusesPushes hs
    obtain ⟨rfl, hrs⟩ := ih hs
    exact ⟨rfl, List.forall_mem_cons.mpr ⟨hr, hrs⟩⟩

variable (hd : ∀ p i t, Stays RoutersKept (deliver p i t))
include hd

lemma Takes.refusesPushes {p : Place} {s s' : World} {ts : List Tuple} {evs : List Taken} {r : Except Fault Unit}
    (hs : s.Routes p c) (h : Takes deliver p c s ts evs r s') : ∀ e, r = .error e → s'.RefusesPushes p c := by
  have hroute : ∀ {s s₁ : World} {t : Tuple} {o : Except Fault Unit},
      (routeLocally deliver p c t).run.run s = .ok (o, s₁) → s.Routes p c → s₁.Routes p c :=
    fun hrun => World.Routes.of_routersKept ((flowRel_routersKept.stays_routeLocally hd p c _ _).of_run hrun)
  have hcount : ∀ {s : World}, s.Routes p c →
      (s.updJob p fun j => { j with context := j.context.countReceived c }).Routes p c :=
    World.Routes.of_routersKept (flowRel_routersKept.context _ p _ fun c' => JobContext.control_countReceived c' c)
  induction h with
  | nil => rintro _ ⟨⟩
  | data _ hrun _ ih => exact ih (hroute hrun (hcount hs))
  | repeated _ _ _ ih => exact ih hs
  | eos _ _ hrun _ ih =>
    exact ih (World.Routes.of_routersKept (flowRel_routersKept.markEos ..) (hroute hrun hs))
  | dataFails _ hrun =>
    rintro e ⟨⟩
    exact World.refusesPushes_failJob (hroute hrun (hcount hs)) none _
  | eosFails _ _ hrun =>
    rintro e ⟨⟩
    exact World.refusesPushes_failJob (hroute hrun hs) none _

theorem PushOutcome.refusesPushes {s s' : World} {ts : List Tuple} {evs : List Taken} {r : Except Fault Unit}
    (h : PushOutcome deliver w id c s ts evs r s') : ∀ e, r = .error e → e ≠ .routerNotReady id c →
      s'.RefusesPushes ⟨w, id⟩ c := by
  cases h with
  | notReady => rintro e ⟨⟩ hne; exact absurd rfl hne
  | failed hwk hj hsome hf => exact fun _ _ _ => ⟨_, (World.job?_of_worker hwk id).trans hj, hf, hsome⟩
  | taken hwk hj hsome _ htakes =>
    exact fun e he _ => htakes.refusesPushes hd ⟨_, (World.job?_of_worker hwk id).trans hj, hsome⟩ e he

end Refusal

lemma World.seenAt_defineJob {w : Nat} {d : JobDefinition} {s s' : World} {wk : Worker} {id : String}
    (hwk : s.workers[w]? = some wk) (ho : Keyed.Ordered wk.eosSeen)
    (hrun : (defineJob w d).run.run s = .ok (.ok id, s')) : s'.seenAt id w = [] := by
  obtain ⟨wk', hwk', id', hcase⟩ := (spec_defineJob_cases w d).of_run hrun
  obtain rfl : wk' = wk := Option.some.inj (hwk'.symm.trans hwk)
  rcases hcase with ⟨f, -, hr, -⟩ | ⟨-, f, made, -, hr, -⟩ | ⟨-, j, -, hr, hws⟩
  · cases hr
  · cases hr
  · cases hr
    obtain ⟨-, -, hw⟩ := modify_frame hwk (·.install id j)
    rw [World.seenAt_of_worker (hws ▸ hw)]
    simp [Worker.install, Keyed.lookup_erase_self _ _ ho.nodup]

/-- Pushes for one stream of one job, one after another. Each push does what `PushOutcome` says:
it is refused while the job has no router for the stream, refused once the job has failed, and
otherwise takes its batch in order as `Takes` says. A job just defined has no end of stream
recorded; over the pushes, the end of stream of a source reaches the local executors at most once,
and never for a source recorded before them. After a push that fails for any reason but a missing
router, every later push is refused and changes nothing. The first refusal is a 503 a sender
retries, the second a 422 it does not. -/
theorem pushes_route_eos_once_and_latch_failure :
    (∀ w id c ts s r s', (push Dataflow.deliver w (some id) c ts).run.run s = .ok (r, s') ↔
        ∃ evs, PushOutcome Dataflow.deliver w id c s ts evs r s') ∧
    (∀ w d s s' wk id, s.workers[w]? = some wk → Keyed.Ordered wk.eosSeen →
        (defineJob w d).run.run s = .ok (.ok id, s') → s'.seenAt id w = []) ∧
    (∀ w id c s bs rs s', Pushes Dataflow.deliver w id c s bs rs s' →
        ∃ evs, Session Dataflow.deliver w id c s bs evs rs s' ∧ (evs.filterMap Taken.routedEos).Nodup ∧
          ∀ x ∈ evs.filterMap Taken.routedEos, (c, x) ∉ s.seenAt id w ∧ (c, x) ∈ s'.seenAt id w) ∧
    (∀ w id c ts s e s₁ bs rs s', (push Dataflow.deliver w (some id) c ts).run.run s = .ok (.error e, s₁) →
        e ≠ .routerNotReady id c → Pushes Dataflow.deliver w id c s₁ bs rs s' →
        s' = s₁ ∧ ∀ r ∈ rs, ∃ port : Nat, r = .error (.fail s!"job {id} has failed on port {port}")) ∧
    (∀ m, (Fault.fail m).httpStatus = 422 ∧ (Fault.fail m).retryable = false) ∧
    ∀ id c, (Fault.routerNotReady id c).httpStatus = 503 ∧ (Fault.routerNotReady id c).retryable = true := by
  refine ⟨fun _ _ _ _ _ _ _ => push_run_iff, fun _ _ _ _ _ _ => World.seenAt_defineJob, ?_, ?_,
    fun _ => ⟨rfl, rfl⟩, fun _ _ => ⟨rfl, rfl⟩⟩
  · intro w id c s bs rs s' h
    obtain ⟨evs, hsession⟩ := h.session
    obtain ⟨-, hnodup, hseen⟩ := hsession.seen fun p i t => flowRel_seenGrows.stays_deliver p i t
    exact ⟨evs, hsession, hnodup, hseen⟩
  · intro w id c ts s e s₁ bs rs s' hrun hne hrest
    obtain ⟨evs, hout⟩ := push_run_iff.mp hrun
    exact hrest.of_refusesPushes (hout.refusesPushes (fun p i t => flowRel_routersKept.stays_deliver p i t) e rfl hne)

end Dataflow
