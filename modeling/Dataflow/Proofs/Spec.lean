import Dataflow.Network
import Mathlib.Tactic.Lemma
/-!
Specifications of computations on the network, in weakest-precondition style: `Spec x s post`
says that `x`, started in `s`, ends with an outcome (a value or a fault) and a state satisfying
`post`, unless it crashes. A crash ends everything and leaves no state to speak about.

Each combinator of `Run` and each primitive operation on the network gets one rule, so that the
flows of the network are specified without unfolding the monad again.
-/
namespace Dataflow

def World.job? (s : World) (p : Place) : Option Job := (s.workers[p.worker]?).bind (·.job? p.job)

def World.updJob (s : World) (p : Place) (f : Job → Job) : World :=
  { s with workers := s.workers.modify p.worker (·.modifyJob p.job f) }

namespace Run

variable {α β : Type}

/-- Unless it crashes, a computation started in `s` ends with an outcome and a state that satisfy
`post`. -/
def Spec (x : Run α) (s : World) (post : Except Fault α → World → Prop) : Prop :=
  match x.run.run s with
  | .ok (r, s') => post r s'
  | .error _ => True

variable {x : Run α} {s : World} {post : Except Fault α → World → Prop}

lemma Spec.mono {q : Except Fault α → World → Prop} (h : Spec x s post)
    (hq : ∀ r s', post r s' → q r s') : Spec x s q := by
  unfold Spec at *
  split at h <;> simp_all

lemma Spec.of_run (h : Spec x s post) {r : Except Fault α} {s' : World}
    (hrun : x.run.run s = .ok (r, s')) : post r s' := by
  unfold Spec at h
  rw [hrun] at h
  exact h

@[simp] lemma spec_pure (a : α) : Spec (pure a : Run α) s post ↔ post (.ok a) s := Iff.rfl

@[simp] lemma spec_throw (e : Fault) : Spec (throw e : Run α) s post ↔ post (.error e) s := Iff.rfl

lemma spec_bind (f : α → Run β) {post : Except Fault β → World → Prop} :
    Spec (x >>= f) s post ↔ Spec x s fun r s' => match r with
      | .ok a => Spec (f a) s' post
      | .error e => post (.error e) s' := by
  unfold Spec
  simp only [bind, ExceptT.bind, ExceptT.run, ExceptT.mk, StateT.run, StateT.bind]
  rcases x s with c | ⟨r, s'⟩
  · rfl
  · rcases r with e | a
    · rfl
    · rfl

@[simp] lemma spec_get {post : Except Fault World → World → Prop} :
    Spec (get : Run World) s post ↔ post (.ok s) s := Iff.rfl

@[simp] lemma spec_modify (f : World → World) {post : Except Fault PUnit → World → Prop} :
    Spec (modify f : Run PUnit) s post ↔ post (.ok ⟨⟩) (f s) := Iff.rfl

@[simp] lemma spec_modifyGet (f : World → α × World) :
    Spec (modifyGet f : Run α) s post ↔ post (.ok (f s).1) (f s).2 := Iff.rfl

@[simp] lemma spec_crash (m : String) : Spec (crash m : Run α) s post := trivial

lemma spec_bind_of {f : α → Run β} {post : Except Fault β → World → Prop}
    (hf : ∀ a s', Spec (f a) s' post) (he : ∀ e s', post (.error e) s') : Spec (x >>= f) s post := by
  rw [spec_bind]
  unfold Spec
  split
  · rename_i r s' _
    cases r with
    | ok a => exact hf a s'
    | error e => exact he e s'
  · trivial

lemma spec_tryCatch (h : Fault → Run α) :
    Spec (tryCatch x h) s post ↔ Spec x s fun r s' => match r with
      | .ok a => post (.ok a) s'
      | .error e => Spec (h e) s' post := by
  unfold Spec
  simp only [tryCatch, tryCatchThe, MonadExcept.tryCatch, MonadExceptOf.tryCatch, ExceptT.tryCatch,
    ExceptT.run, ExceptT.mk, StateT.run, bind, StateT.bind]
  rcases x s with c | ⟨r, s'⟩
  · rfl
  · rcases r with e | a
    · rfl
    · rfl

lemma spec_forIn_nil {σ : Type} (init : σ) (f : β → σ → Run (ForInStep σ))
    {post : Except Fault σ → World → Prop} :
    Spec (forIn ([] : List β) init f) s post ↔ post (.ok init) s := Iff.rfl

lemma spec_forIn_cons {σ : Type} (b : β) (l : List β) (init : σ) (f : β → σ → Run (ForInStep σ))
    {post : Except Fault σ → World → Prop} :
    Spec (forIn (b :: l) init f) s post ↔ Spec (f b init) s fun r s' => match r with
      | .ok (.done a) => post (.ok a) s'
      | .ok (.yield a) => Spec (forIn l a f) s' post
      | .error e => post (.error e) s' := by
  rw [List.forIn_cons, spec_bind]
  refine Iff.of_eq (congrArg _ (funext fun r => funext fun s' => ?_))
  rcases r with e | (a | a) <;> rfl

@[simp] lemma spec_ofExcept (e : Except Fault α) :
    Spec (MonadExcept.ofExcept e : Run α) s post ↔ post e s := by
  cases e <;> rfl

lemma spec_forIn_prefix {γ : Type} (l : List γ) (f : γ → PUnit → Run (ForInStep PUnit))
    (inv : List γ → World → Prop) (fault : Fault → World → Prop) (hs : inv [] s)
    (hstep : ∀ pre c post, l = pre ++ c :: post → ∀ s, inv pre s → Spec (f c ⟨⟩) s fun r s' => match r with
      | .ok (.yield _) => inv (pre ++ [c]) s'
      | .ok (.done _) => False
      | .error e => fault e s') :
    Spec (forIn l ⟨⟩ f) s fun r s' => match r with
      | .ok _ => inv l s'
      | .error e => fault e s' := by
  -- the loop over what is left, after a prefix done
  have key : ∀ rest pre s, l = pre ++ rest → inv pre s → Spec (forIn rest ⟨⟩ f) s fun r s' => match r with
      | .ok _ => inv l s'
      | .error e => fault e s' := by
    intro rest
    induction rest with
    | nil =>
      intro pre s hl hs
      rw [List.append_nil] at hl
      exact hl ▸ hs
    | cons c rest ih =>
      intro pre s hl hs
      rw [spec_forIn_cons]
      refine (hstep pre c rest hl s hs).mono fun r s' h => ?_
      rcases r with e | (⟨⟩ | ⟨⟩)
      · exact h
      · exact h.elim
      · exact ih (pre ++ [c]) s' (by simp [hl]) h
  exact key l [] s rfl hs

lemma spec_foldlM {γ : Type} (P : World → Prop) {f : β → γ → Run β}
    (hf : ∀ b c s, P s → Spec (f b c) s fun _ s' => P s') :
    ∀ (l : List γ) (b : β) (s : World), P s → Spec (l.foldlM f b) s fun _ s' => P s'
  | [], b, s, hs => (spec_pure b).mpr hs
  | c :: l, b, s, hs => by
    rw [List.foldlM_cons, spec_bind]
    refine (hf b c s hs).mono fun r s₁ h₁ => ?_
    rcases r with e | b₁
    · exact h₁
    · exact spec_foldlM P hf l b₁ s₁ h₁

variable {α : Type} {s : World} {post : Except Fault α → World → Prop}

lemma spec_worker {w : Nat} {post : Except Fault Worker → World → Prop} :
    Spec (worker w) s post ↔ ∀ wk, s.workers[w]? = some wk → post (.ok wk) s := by
  simp only [worker, spec_bind, spec_get]
  split <;> simp_all

lemma spec_job {p : Place} {post : Except Fault Job → World → Prop} :
    Spec (job p) s post ↔ ∀ j, s.job? p = some j → post (.ok j) s := by
  simp only [job, spec_bind, spec_worker, World.job?]
  refine ⟨fun h j hj => ?_, fun h wk hw => ?_⟩
  · obtain ⟨wk, hw, hj⟩ := Option.bind_eq_some_iff.mp hj
    have := h wk hw
    rw [hj] at this
    exact this
  · split
    · rename_i j hj
      exact h j (by rw [hw]; exact hj)
    · exact spec_crash _

lemma spec_bolt {p : Place} {i : Nat} {post : Except Fault BoltExecutor → World → Prop} :
    Spec (bolt p i) s post ↔ ∀ j, s.job? p = some j → ∀ b, j.bolts[i]? = some b → post (.ok b) s := by
  simp only [bolt, spec_bind, spec_job]
  refine forall_congr' fun j => imp_congr_right fun _ => ?_
  split <;> simp_all

lemma spec_spout {p : Place} {i : Nat} {post : Except Fault SpoutExecutor → World → Prop} :
    Spec (spout p i) s post ↔
      ∀ j, s.job? p = some j → ∀ sp, j.spouts[i]? = some sp → post (.ok sp) s := by
  simp only [spout, spec_bind, spec_job]
  refine forall_congr' fun j => imp_congr_right fun _ => ?_
  split <;> simp_all

lemma spec_router {p : Place} {stream : String} {post : Except Fault Router → World → Prop} :
    Spec (router p stream) s post ↔
      ∀ j, s.job? p = some j → ∀ r, j.router? stream = some r → post (.ok r) s := by
  simp only [router, spec_bind, spec_job]
  refine forall_congr' fun j => imp_congr_right fun _ => ?_
  split <;> simp_all

variable {post : Except Fault Unit → World → Prop}

@[simp] lemma spec_modifyWorker {w : Nat} {f : Worker → Worker} :
    Spec (modifyWorker w f) s post ↔ post (.ok ()) { s with workers := s.workers.modify w f } :=
  Iff.rfl

@[simp] lemma spec_modifyJob {p : Place} {f : Job → Job} :
    Spec (modifyJob p f) s post ↔ post (.ok ()) (s.updJob p f) := Iff.rfl

@[simp] lemma spec_modifyContext {p : Place} {f : JobContext → JobContext} :
    Spec (modifyContext p f) s post ↔
      post (.ok ()) (s.updJob p fun j => { j with context := f j.context }) := Iff.rfl

@[simp] lemma spec_failJob {p : Place} {ex : Option String} {f : Fault} :
    Spec (failJob p ex f) s post ↔
      post (.ok ()) (s.updJob p fun j => { j with context := j.context.fail ex f }) := Iff.rfl

@[simp] lemma spec_modifyBolt {p : Place} {i : Nat} {f : BoltExecutor → BoltExecutor} :
    Spec (modifyBolt p i f) s post ↔
      post (.ok ()) (s.updJob p fun j => { j with bolts := j.bolts.modify i f }) := Iff.rfl

@[simp] lemma spec_modifySpout {p : Place} {i : Nat} {f : SpoutExecutor → SpoutExecutor} :
    Spec (modifySpout p i f) s post ↔
      post (.ok ()) (s.updJob p fun j => { j with spouts := j.spouts.modify i f }) := Iff.rfl

@[simp] lemma spec_setRouter {p : Place} {stream : String} {r : Router} :
    Spec (setRouter p stream r) s post ↔ post (.ok ()) (s.updJob p (·.setRouter stream r)) := Iff.rfl

@[simp] lemma spec_begin {d : Delivery} {post : Except Fault Nat → World → Prop} :
    Spec (begin d) s post ↔ post (.ok s.handovers.length) { s with handovers := s.handovers ++ [d] } :=
  Iff.rfl

lemma spec_updateDisk {f : Storage → Except IoError Storage} :
    Spec (updateDisk f) s post ↔ match f s.disk with
      | .ok d => post (.ok ()) { s with disk := d }
      | .error e => post (.error e.toFault) s := by
  simp only [updateDisk, spec_bind, spec_get]
  split <;> simp_all

lemma spec_deliver {p : Place} {i : Nat} {t : Tuple} {post : Except Fault Bool → World → Prop} :
    Spec (deliver p i t) s post ↔ Spec (deliverWithin s.boltCount p i t) s post := by
  simp only [deliver, spec_bind, spec_get]

lemma Spec.const {α : Type} {x : Run α} {s : World} {P : Prop} (h : P) : Spec x s fun _ _ => P := by
  unfold Spec
  split
  · exact h
  · trivial

lemma Spec.and {α : Type} {x : Run α} {s : World} {P Q : Except Fault α → World → Prop} (hP : Spec x s P)
    (hQ : Spec x s Q) : Spec x s fun r s' => P r s' ∧ Q r s' := by
  unfold Spec at *
  split at hP <;> simp_all

/-! ### Runs that end

Where a computation is shown to end, not only to meet a specification if it does, its run is
computed step by step with these equations. -/

section Runs

variable {α β : Type}

lemma run_bind (x : Run α) (f : α → Run β) (s : World) : (x >>= f).run.run s = match x.run.run s with
    | .ok (.ok a, s') => (f a).run.run s'
    | .ok (.error e, s') => .ok (.error e, s')
    | .error c => .error c := by
  simp only [bind, ExceptT.bind, ExceptT.run, ExceptT.mk, StateT.run, StateT.bind]
  rcases x s with c | ⟨r, s'⟩
  · rfl
  · rcases r with e | a <;> rfl

lemma run_tryCatch (x : Run α) (h : Fault → Run α) (s : World) : (tryCatch x h).run.run s = match x.run.run s with
    | .ok (.ok a, s') => .ok (.ok a, s')
    | .ok (.error e, s') => (h e).run.run s'
    | .error c => .error c := by
  simp only [tryCatch, tryCatchThe, MonadExcept.tryCatch, MonadExceptOf.tryCatch, ExceptT.tryCatch,
    ExceptT.run, ExceptT.mk, StateT.run, bind, StateT.bind]
  rcases x s with c | ⟨r, s'⟩
  · rfl
  · rcases r with e | a <;> rfl

@[simp] lemma run_pure (a : α) (s : World) : (pure a : Run α).run.run s = .ok (.ok a, s) := rfl

@[simp] lemma run_get (s : World) : (get : Run World).run.run s = .ok (.ok s, s) := rfl

lemma run_worker {s : World} {w : Nat} {wk : Worker} (h : s.workers[w]? = some wk) :
    (worker w).run.run s = .ok (.ok wk, s) := by
  rw [worker, run_bind, run_get]
  simp only [h]
  rfl

lemma run_spout {s : World} {p : Place} {k : Nat} {j : Job} {sp : SpoutExecutor} (hj : s.job? p = some j)
    (hk : j.spouts[k]? = some sp) : (spout p k).run.run s = .ok (.ok sp, s) := by
  obtain ⟨wk, hwk, hjob⟩ := Option.bind_eq_some_iff.mp hj
  rw [spout, run_bind, job, run_bind, run_worker hwk]
  simp only [hjob, run_pure, hk]

lemma run_router {s : World} {p : Place} {c : String} {j : Job} {r : Router} (hj : s.job? p = some j)
    (hr : j.router? c = some r) : (router p c).run.run s = .ok (.ok r, s) := by
  obtain ⟨wk, hwk, hjob⟩ := Option.bind_eq_some_iff.mp hj
  rw [router, run_bind, job, run_bind, run_worker hwk]
  simp only [hjob, run_pure, hr]

@[simp] lemma run_modifyContext {p : Place} {f : JobContext → JobContext} {s : World} :
    (modifyContext p f).run.run s = .ok (.ok (), s.updJob p fun j => { j with context := f j.context }) := rfl

@[simp] lemma run_failJob {p : Place} {ex : Option String} {f : Fault} {s : World} :
    (failJob p ex f).run.run s = .ok (.ok (), s.updJob p fun j => { j with context := j.context.fail ex f }) := rfl

@[simp] lemma run_modifyWorker {w : Nat} {f : Worker → Worker} {s : World} :
    (modifyWorker w f).run.run s = .ok (.ok (), { s with workers := s.workers.modify w f }) := rfl

end Runs

end Run

end Dataflow
