import Dataflow.Proofs.View
/-!
What every flow of the network keeps. A flow changes the world through a few primitive changes: a
job's context in ways that leave its failure record and its started flag alone, a bolt executor,
a router, the ends of stream a worker has taken, a hand-over begun, the disk; and when it fails on
the way, it may fail jobs with the very fault it returns. A relation between the state before a
flow, the fault it ends with and the state after it, which every primitive change keeps and which
composes as flows do (`FlowRel`), holds of every flow: one lemma per flow, and an induction on the
nesting of deliveries for delivery itself.
-/
namespace Dataflow

def faultOf {α : Type} : Except Fault α → Option Fault
  | .ok _ => none
  | .error e => some e

@[simp] lemma faultOf_ok {α : Type} (a : α) : faultOf (.ok a : Except Fault α) = none := rfl

@[simp] lemma faultOf_error {α : Type} (e : Fault) : faultOf (.error e : Except Fault α) = some e := rfl

namespace JobContext

/-- What a job's failure consists of: the flag, the reports and the queued spout tasks. -/
def failure (c : JobContext) : Bool × List FaultReport × List Nat := (c.failed, c.errors, c.tasks)

/-- What a flow leaves alone in a job's context unless it fails the job: the failure, and whether
the job was started. -/
def control (c : JobContext) : (Bool × List FaultReport × List Nat) × Bool := (c.failure, c.started)

@[simp] lemma control_setPhase (c : JobContext) (p : Phase) : (c.setPhase p).control = c.control := by
  unfold setPhase; split <;> rfl

@[simp] lemma control_finishOne (c : JobContext) : c.finishOne.control = c.control := by
  simp only [finishOne]
  split
  · rw [control_setPhase]; rfl
  · rfl

@[simp] lemma control_countOutput (c : JobContext) : c.countOutput.control = c.control := by
  unfold countOutput; split <;> rfl

@[simp] lemma control_countReceived (c : JobContext) (stream : String) :
    (c.countReceived stream).control = c.control := rfl

@[simp] lemma control_record (c : JobContext) (key value : String) : (c.record key value).control = c.control :=
  rfl

end JobContext

/-- A relation between the state before a flow, the fault it ends with and the state after it,
which holds of doing nothing, composes along a flow that goes on, allows failing at any point,
allows failing a job with the fault in flight, and holds of every primitive change of a delivery. -/
structure FlowRel (R : World → Option Fault → World → Prop) : Prop where
  refl : ∀ s, R s none s
  trans : ∀ {s s₁ s₂ o}, R s none s₁ → R s₁ o s₂ → R s o s₂
  raise : ∀ {s s₁} (e : Fault), R s none s₁ → R s (some e) s₁
  fail : ∀ {s s₁} (p : Place) (ex : Option String) (e : Fault), R s (some e) s₁ →
    R s (some e) (s₁.updJob p fun j => { j with context := j.context.fail ex e })
  context : ∀ s p (g : JobContext → JobContext), (∀ c, (g c).control = c.control) →
    R s none (s.updJob p fun j => { j with context := g j.context })
  bolt : ∀ s p i (g : BoltExecutor → BoltExecutor), R s none (s.updJob p fun j => { j with bolts := j.bolts.modify i g })
  router : ∀ s p c r, R s none (s.updJob p (·.setRouter c r))
  markEos : ∀ s w job c source, R s none { s with workers := s.workers.modify w (·.markEos job c source) }
  begin : ∀ s d, R s none { s with handovers := s.handovers ++ [d] }
  disk : ∀ s d, R s none { s with disk := d }

/-! ### Relations job by job -/

/-- A relation between worlds that holds job by job: the same jobs on both sides, each pair of
jobs related by `r` at its place. -/
structure JobWise (r : Place → Job → Job → Prop) (s s' : World) : Prop where
  isSome : ∀ q, (s'.job? q).isSome = (s.job? q).isSome
  rel : ∀ q j j', s.job? q = some j → s'.job? q = some j' → r q j j'

namespace JobWise

variable {r : Place → Job → Job → Prop} {s s₁ s₂ : World}

lemma of_job? (hr : ∀ q j, r q j j) (h : ∀ q, s'.job? q = s.job? q) : JobWise r s s' where
  isSome q := by rw [h q]
  rel q j j' hj hj' := by
    rw [h q, hj, Option.some.injEq] at hj'
    exact hj' ▸ hr q j

lemma of_job?_right (h : JobWise r s s₁) (hj : ∀ q, s'.job? q = s₁.job? q) : JobWise r s s' where
  isSome q := by rw [hj q]; exact h.isSome q
  rel q j j' hj₀ hj' := h.rel q j j' hj₀ ((hj q).symm.trans hj')

lemma trans {r₁ r₂ r₃ : Place → Job → Job → Prop} (h₁ : JobWise r₁ s s₁) (h₂ : JobWise r₂ s₁ s₂)
    (ht : ∀ q j j₁ j₂, r₁ q j j₁ → r₂ q j₁ j₂ → r₃ q j j₂) : JobWise r₃ s s₂ where
  isSome q := (h₂.isSome q).trans (h₁.isSome q)
  rel q j j₂ hj hj₂ := by
    obtain ⟨j₁, hj₁⟩ := Option.isSome_iff_exists.mp ((h₁.isSome q).trans (by simp [hj]))
    exact ht q j j₁ j₂ (h₁.rel q j j₁ hj hj₁) (h₂.rel q j₁ j₂ hj₁ hj₂)

lemma updJob (h : JobWise r s s₁) {p : Place} {f : Job → Job}
    (hf : ∀ j j₁, s.job? p = some j → s₁.job? p = some j₁ → r p j j₁ → r p j (f j₁)) :
    JobWise r s (s₁.updJob p f) where
  isSome q := by
    rw [World.job?_updJob]
    split
    · rename_i hq
      subst hq
      simpa using h.isSome q
    · exact h.isSome q
  rel q j j' hj hj' := by
    rw [World.job?_updJob] at hj'
    split at hj'
    · rename_i hq
      subst hq
      obtain ⟨j₁, hj₁, rfl⟩ := Option.map_eq_some_iff.mp hj'
      exact hf j j₁ hj hj₁ (h.rel q j j₁ hj hj₁)
    · exact h.rel q j j' hj hj'

lemma updJob_self (hr : ∀ q j, r q j j) {p : Place} {f : Job → Job} (hf : ∀ j, r p j (f j)) :
    JobWise r s (s.updJob p f) :=
  (of_job? hr fun _ => rfl).updJob fun j j₁ hj hj₁ _ => by
    obtain rfl := Option.some.inj (hj.symm.trans hj₁)
    exact hf j

end JobWise

theorem FlowRel.jobWise {r : Option Fault → Place → Job → Job → Prop}
    (refl : ∀ q j, r none q j j)
    (trans : ∀ {q j j₁ j₂ o}, r none q j j₁ → r o q j₁ j₂ → r o q j j₂)
    (raise : ∀ {q j j₁} (e : Fault), r none q j j₁ → r (some e) q j j₁)
    (fail : ∀ {q j j₁} (ex : Option String) (e : Fault), r (some e) q j j₁ →
      r (some e) q j { j₁ with context := j₁.context.fail ex e })
    (context : ∀ q j (g : JobContext → JobContext), (∀ c, (g c).control = c.control) →
      r none q j { j with context := g j.context })
    (bolt : ∀ q j i (g : BoltExecutor → BoltExecutor), r none q j { j with bolts := j.bolts.modify i g })
    (router : ∀ q j c rt, r none q j (j.setRouter c rt)) :
    FlowRel fun s o s' => JobWise (r o) s s' where
  refl _ := JobWise.of_job? refl fun _ => rfl
  trans h₁ h₂ := h₁.trans h₂ fun _ _ _ _ => trans
  raise e h := ⟨h.isSome, fun q j j' hj hj' => raise e (h.rel q j j' hj hj')⟩
  fail _ ex e h := h.updJob fun _ _ _ _ => fail ex e
  context _ p g hg := JobWise.updJob_self refl fun j => context p j g hg
  bolt _ p i g := JobWise.updJob_self refl fun j => bolt p j i g
  router _ p c rt := JobWise.updJob_self refl fun j => router p j c rt
  markEos _ _ _ _ _ := JobWise.of_job? refl fun q => World.job?_markEos q
  begin _ _ := JobWise.of_job? refl fun _ => rfl
  disk _ _ := JobWise.of_job? refl fun _ => rfl

theorem FlowRel.and {R R' : World → Option Fault → World → Prop} (h : FlowRel R) (h' : FlowRel R') :
    FlowRel fun s o s' => R s o s' ∧ R' s o s' where
  refl s := ⟨h.refl s, h'.refl s⟩
  trans h₁ h₂ := ⟨h.trans h₁.1 h₂.1, h'.trans h₁.2 h₂.2⟩
  raise e h₁ := ⟨h.raise e h₁.1, h'.raise e h₁.2⟩
  fail p ex e h₁ := ⟨h.fail p ex e h₁.1, h'.fail p ex e h₁.2⟩
  context s p g hg := ⟨h.context s p g hg, h'.context s p g hg⟩
  bolt s p i g := ⟨h.bolt s p i g, h'.bolt s p i g⟩
  router s p c r := ⟨h.router s p c r, h'.router s p c r⟩
  markEos s w job c source := ⟨h.markEos s w job c source, h'.markEos s w job c source⟩
  begin s d := ⟨h.begin s d, h'.begin s d⟩
  disk s d := ⟨h.disk s d, h'.disk s d⟩

namespace Run

def Stays {α : Type} (R : World → Option Fault → World → Prop) (x : Run α) : Prop :=
  ∀ s, Spec x s fun r s' => R s (faultOf r) s'

end Run

namespace FlowRel

open Run

variable {R : World → Option Fault → World → Prop} (hR : FlowRel R) {α β : Type}
include hR

/-! ### Combinators -/

lemma stays_pure (a : α) : Stays R (pure a : Run α) := fun s => hR.refl s

lemma stays_throw (e : Fault) : Stays R (throw e : Run α) := fun s => hR.raise e (hR.refl s)

omit hR in
lemma stays_crash (m : String) : Stays R (crash m : Run α) := fun _ => spec_crash m

lemma stays_bind {x : Run α} {f : α → Run β} (hx : Stays R x) (hf : ∀ a, Stays R (f a)) : Stays R (x >>= f) := by
  intro s
  rw [spec_bind]
  refine (hx s).mono fun r s₁ h₁ => ?_
  rcases r with e | a
  · exact h₁
  · exact (hf a s₁).mono fun r s₂ h₂ => hR.trans h₁ h₂

lemma stays_get : Stays R (get : Run World) := fun s => hR.refl s

omit hR in
lemma stays_modify {f : World → World} (hf : ∀ s, R s none (f s)) : Stays R (modify f : Run PUnit) := hf

lemma stays_ofExcept (e : Except Fault α) : Stays R (MonadExcept.ofExcept e : Run α) := by
  intro s
  rw [spec_ofExcept]
  cases e with
  | error e => exact hR.raise e (hR.refl s)
  | ok a => exact hR.refl s

lemma stays_forIn {σ : Type} (l : List β) (init : σ) {f : β → σ → Run (ForInStep σ)}
    (hf : ∀ a b, Stays R (f a b)) : Stays R (forIn l init f) := by
  induction l generalizing init with
  | nil => exact fun s => (spec_forIn_nil init f).mpr (hR.refl s)
  | cons a l ih =>
    intro s
    rw [spec_forIn_cons]
    refine (hf a init s).mono fun r s₁ h₁ => ?_
    rcases r with e | (b | b)
    · exact h₁
    · exact h₁
    · exact (ih b s₁).mono fun r s₂ h₂ => hR.trans h₁ h₂

lemma stays_fail_throw (p : Place) (ex : Option String) (e : Fault) (g : α → Run β) :
    Stays R (failJob p ex e >>= fun _ => throw e >>= g) := by
  intro s
  simp only [spec_bind, spec_failJob, spec_throw, faultOf_error]
  exact hR.fail p ex e (hR.raise e (hR.refl s))

lemma stays_catch_fail {x : Run α} (hx : Stays R x) (p : Place) (ex : Option String) :
    Stays R (tryCatch x fun e => do failJob p ex e; throw e) := by
  intro s
  rw [spec_tryCatch]
  refine (hx s).mono fun r s₁ h₁ => ?_
  rcases r with e | a
  · simp only [spec_bind, spec_failJob, spec_throw, faultOf_error]
    exact hR.fail p ex e h₁
  · exact h₁

/-! ### Reading and changing the network -/

lemma stays_worker (w : Nat) : Stays R (worker w) := fun s => spec_worker.mpr fun _ _ => hR.refl s

lemma stays_job (p : Place) : Stays R (job p) := fun s => spec_job.mpr fun _ _ => hR.refl s

lemma stays_bolt (p : Place) (i : Nat) : Stays R (Run.bolt p i) := fun s => spec_bolt.mpr fun _ _ _ _ => hR.refl s

lemma stays_spout (p : Place) (i : Nat) : Stays R (spout p i) := fun s => spec_spout.mpr fun _ _ _ _ => hR.refl s

lemma stays_router (p : Place) (c : String) : Stays R (Run.router p c) :=
  fun s => spec_router.mpr fun _ _ _ _ => hR.refl s

lemma stays_modifyContext (p : Place) {g : JobContext → JobContext} (hg : ∀ c, (g c).control = c.control) :
    Stays R (modifyContext p g) := fun s => hR.context s p g hg

lemma stays_modifyBolt (p : Place) (i : Nat) (g : BoltExecutor → BoltExecutor) : Stays R (modifyBolt p i g) :=
  fun s => hR.bolt s p i g

lemma stays_setRouter (p : Place) (c : String) (r : Router) : Stays R (setRouter p c r) :=
  fun s => hR.router s p c r

lemma stays_begin (d : Delivery) : Stays R (Run.begin d) := fun s => hR.begin s d

lemma stays_updateDisk (f : Storage → Except IoError Storage) : Stays R (updateDisk f) := by
  intro s
  rw [spec_updateDisk]
  split
  · exact hR.disk s _
  · exact hR.raise _ (hR.refl s)

/-! ### Flows -/

section Flows

variable {deliver : Deliver} (hd : ∀ p i t, Stays R (deliver p i t))
include hd

lemma stays_routeLocally (p : Place) (c : String) (t : Tuple) : Stays R (routeLocally deliver p c t) := by
  unfold Dataflow.routeLocally
  refine hR.stays_bind (hR.stays_router p c) fun r => ?_
  refine hR.stays_bind (hR.stays_setRouter p c _) fun _ => hR.stays_bind ?_ fun _ => hR.stays_pure _
  refine hR.stays_forIn _ _ fun sl _ => ?_
  cases sl with
  | mine i => exact hR.stays_bind (hd _ _ _) fun _ => hR.stays_pure _
  | peer _ => exact hR.stays_pure _

lemma stays_takeTuple (p : Place) (c : String) (t : Tuple) : Stays R (takeTuple deliver p c t) := by
  unfold Dataflow.takeTuple
  split
  · refine hR.stays_bind (hR.stays_worker _) fun wk => ?_
    split
    · exact hR.stays_pure _
    · refine hR.stays_bind (hR.stays_catch_fail (hR.stays_routeLocally hd p c _) p none) fun _ => ?_
      exact fun s => hR.markEos s _ _ _ _
  · refine hR.stays_bind (hR.stays_modifyContext p fun c' => JobContext.control_countReceived c' c) fun _ => ?_
    exact hR.stays_catch_fail (hR.stays_routeLocally hd p c t) p none

lemma stays_push (w : Nat) (job? : Option String) (c : String) (ts : List Tuple) :
    Stays R (push deliver w job? c ts) := by
  rw [Dataflow.push]
  refine hR.stays_bind (hR.stays_worker w) fun wk => ?_
  extract_lets check
  -- once the job is known, the checks refuse the tuples or let them be taken in order
  have hcheck : ∀ id, Stays R (check id) := by
    intro id
    dsimp -zeta only [check]
    extract_lets take guard
    have htake : ∀ u, Stays R (take u) := fun _ => hR.stays_bind (hR.stays_forIn _ _ fun t _ =>
      hR.stays_bind (hR.stays_takeTuple hd _ c t) fun _ => hR.stays_pure _) fun _ => hR.stays_pure _
    have hguard : ∀ u, Stays R (guard u) := by
      intro u
      refine hR.stays_bind (hR.stays_ofExcept _) fun j => ?_
      split
      · exact hR.stays_bind (hR.stays_throw _) htake
      · exact htake ()
    split
    · exact hR.stays_bind (hR.stays_throw _) hguard
    · exact hguard ()
  split
  · exact hR.stays_bind (hR.stays_pure _) hcheck
  · split
    · exact hR.stays_bind (hR.stays_pure _) hcheck
    · exact hR.stays_bind (hR.stays_throw _) hcheck

lemma stays_transmit (d : Delivery) : Stays R (transmit deliver d) := by
  rw [Dataflow.transmit]
  refine hR.stays_bind hR.stays_get fun s => ?_
  split
  · refine hR.stays_bind (hR.stays_begin d) fun n => ?_
    dsimp only
    split
    · exact hR.stays_throw _
    · exact hR.stays_pure _
  · refine hR.stays_bind (hR.stays_begin d) fun _ => hR.stays_bind hR.stays_get fun s => ?_
    split
    · exact hR.stays_throw _
    · refine hR.stays_bind (hR.stays_push hd _ _ _ _) fun _ => ?_
      dsimp only
      split
      · exact hR.stays_push hd _ _ _ _
      · exact hR.stays_pure _
  · exact hR.stays_throw _

lemma stays_sendTo (p : Place) (c : String) (k : Nat) (t : Tuple) : Stays R (sendTo deliver p c k t) := by
  rw [Dataflow.sendTo]
  refine hR.stays_bind (hR.stays_router p c) fun r => hR.stays_bind (hR.stays_setRouter p c _) fun _ => ?_
  split
  · exact hR.stays_transmit hd _
  · exact hR.stays_pure _

lemma stays_routeOut (p : Place) (c : String) (t : Tuple) : Stays R (routeOut deliver p c t) := by
  rw [Dataflow.routeOut]
  refine hR.stays_bind (hR.stays_router p c) fun r => ?_
  refine hR.stays_bind (hR.stays_setRouter p c _) fun _ => hR.stays_bind ?_ fun _ => hR.stays_pure _
  refine hR.stays_forIn _ _ fun sl _ => ?_
  cases sl with
  | mine i => exact hR.stays_bind (hd _ _ _) fun _ => hR.stays_pure _
  | peer k => exact hR.stays_bind (hR.stays_sendTo hd p c k _) fun _ => hR.stays_pure _

lemma stays_emit (e : Emitter) (values : List Datum) : Stays R (emit deliver e values) := by
  rw [Dataflow.emit]
  refine hR.stays_bind (hR.stays_ofExcept _) fun t => hR.stays_bind ?_ fun _ => hR.stays_pure _
  exact hR.stays_forIn _ _ fun c _ => hR.stays_bind (hR.stays_routeOut hd _ c t) fun _ => hR.stays_pure _

lemma stays_emitEos (e : Emitter) : Stays R (emitEos deliver e) := by
  rw [Dataflow.emitEos]
  refine hR.stays_bind ?_ fun _ => hR.stays_pure _
  exact hR.stays_forIn _ _ fun c _ => hR.stays_bind (hR.stays_routeOut hd _ c _) fun _ => hR.stays_pure _

lemma stays_perform (e : Emitter) (effects : List Effect) : Stays R (perform deliver e effects) := by
  rw [Dataflow.perform]
  refine hR.stays_bind ?_ fun _ => hR.stays_pure _
  refine hR.stays_forIn _ _ fun eff _ => ?_
  cases eff with
  | setPhase ph => exact hR.stays_bind (hR.stays_modifyContext _ fun c => c.control_setPhase ph) fun _ => hR.stays_pure _
  | countMapInput => exact hR.stays_bind (hR.stays_modifyContext _ fun _ => rfl) fun _ => hR.stays_pure _
  | countReduceInput => exact hR.stays_bind (hR.stays_modifyContext _ fun _ => rfl) fun _ => hR.stays_pure _
  | write k v =>
    refine hR.stays_bind (hR.stays_modifyContext _ JobContext.control_countOutput) fun _ => ?_
    exact hR.stays_bind (hR.stays_emit hd _ _) fun _ => hR.stays_pure _
  | emit values => exact hR.stays_bind (hR.stays_emit hd _ _) fun _ => hR.stays_pure _
  | record k v => exact hR.stays_bind (hR.stays_modifyContext _ fun c => c.control_record k v) fun _ => hR.stays_pure _
  | save dir lines =>
    refine hR.stays_bind (hR.stays_updateDisk _) fun _ => ?_
    exact hR.stays_bind (hR.stays_updateDisk _) fun _ => hR.stays_pure _
  | raise f => exact hR.stays_bind (hR.stays_throw f) fun _ => hR.stays_pure _
  | overflow m => exact hR.stays_bind (stays_crash m) fun _ => hR.stays_pure _

lemma stays_boltExecute (p : Place) (i : Nat) (t : Tuple) : Stays R (boltExecute deliver p i t) := by
  rw [Dataflow.boltExecute]
  refine hR.stays_bind (hR.stays_bolt p i) fun b => ?_
  dsimp only
  split
  · -- an end of stream: a vote, and the vote that completes the tally finishes the executor
    split
    · exact hR.stays_pure _
    · refine hR.stays_bind (hR.stays_modifyBolt p i _) fun _ => ?_
      split
      · exact hR.stays_pure _
      · refine hR.stays_bind (hR.stays_modifyBolt p i _) fun _ => ?_
        refine hR.stays_bind (hR.stays_perform hd _ _) fun _ => ?_
        refine hR.stays_bind (hR.stays_emitEos hd _) fun _ => ?_
        refine hR.stays_bind (hR.stays_modifyBolt p i _) fun _ => ?_
        exact hR.stays_bind (hR.stays_modifyContext p JobContext.control_finishOne) fun _ => hR.stays_pure _
  · -- data: a protocol violation after finishing, the component's effects before
    split
    · exact hR.stays_fail_throw p _ _ _
    · refine hR.stays_bind (hR.stays_modifyBolt p i _) fun _ => ?_
      exact hR.stays_bind (hR.stays_perform hd _ _) fun _ => hR.stays_pure _

end Flows

/-- Delivery within any nesting bound stays within `R`: by induction on the bound, each level a
bolt executor's call whose deliveries go one level deeper. -/
theorem stays_deliverWithin : ∀ n p i t, Stays R (deliverWithin n p i t)
  | 0, _, _, _ => stays_crash _
  | n + 1, p, i, t => hR.stays_boltExecute (stays_deliverWithin n) p i t

lemma stays_deliver (p : Place) (i : Nat) (t : Tuple) : Stays R (deliver p i t) :=
  fun s => Run.spec_deliver.mpr (hR.stays_deliverWithin s.boltCount p i t s)

lemma stays_spoutStep {deliver : Deliver} (hd : ∀ p i t, Stays R (deliver p i t)) (p : Place) (k : Nat)
    (hsp : ∀ s (g : SpoutExecutor → SpoutExecutor), R s none (s.updJob p fun j => { j with spouts := j.spouts.modify k g })) :
    Stays R (spoutStep deliver p k) := by
  rw [Dataflow.spoutStep]
  refine hR.stays_bind (hR.stays_spout p k) fun sp => ?_
  dsimp only
  split
  · exact hR.stays_pure _
  · refine hR.stays_bind (fun s => hsp s _) fun _ => hR.stays_bind (hR.stays_perform hd _ _) fun _ => ?_
    split
    · exact hR.stays_pure _
    · refine hR.stays_bind (fun s => hsp s _) fun _ => hR.stays_bind (hR.stays_emitEos hd _) fun _ => ?_
      refine hR.stays_bind (fun s => hsp s _) fun _ => ?_
      exact hR.stays_bind (hR.stays_modifyContext p JobContext.control_finishOne) fun _ => hR.stays_pure _

end FlowRel

end Dataflow
