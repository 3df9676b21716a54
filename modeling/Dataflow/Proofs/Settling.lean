import Dataflow.Proofs.Accounting
import Dataflow.Proofs.Executor
/-!
The ledger of a map/reduce job through what its executors do. Emitting adds what the tuple amounts
to on every stream it goes to; carrying out effects adds what each amounts to in the executor's
phase (`effectValue`); a map executor taking a tuple adds the tuple's map value, a reduce executor
holds its pair and a print executor prints it; a reduce executor that finishes settles what is held
for it; and a spout step adds what it emits. Delivery within any nesting bound keeps the ledger
(`ledgerOk_within`), by induction on the bound.
-/
namespace Dataflow

lemma perform_cons (deliver : Deliver) (e : Emitter) (eff : Effect) (effs : List Effect) :
    perform deliver e (eff :: effs) = (perform deliver e [eff] >>= fun _ => perform deliver e effs) := by
  simp only [perform, List.forIn_cons, List.forIn_nil]
  cases eff <;> simp [bind_assoc]

lemma perform_setPhase (deliver : Deliver) (e : Emitter) (p : Phase) :
    perform deliver e [.setPhase p] = Run.modifyContext e.place (·.setPhase p) := by
  simp [perform]

def Effect.stops : Effect → Bool
  | .raise _ | .overflow _ => true
  | _ => false

def Emitter.emitted (e : Emitter) (effects : List Effect) : List Tuple :=
  effects.flatMap fun eff =>
    match eff with
    | .emit values =>
      match Tuple.make e.fields values e.id with
      | .ok t => [t]
      | .error _ => []
    | _ => []

lemma Emitter.emitted_cons (e : Emitter) (eff : Effect) (rest : List Effect) :
    e.emitted (eff :: rest) = e.emitted [eff] ++ e.emitted rest := by
  simp [Emitter.emitted]

lemma SpoutLogic.nextLine_emit_or_raise (task parallelism fuel : Nat) (r : LineReader) (n : Nat) :
    ∀ eff ∈ (SpoutLogic.nextLine task parallelism fuel r n).1, (∃ vs, eff = .emit vs) ∨ ∃ f, eff = .raise f := by
  induction fuel generalizing r n with
  | zero => simp [SpoutLogic.nextLine]
  | succ fuel ih =>
    intro eff heff
    unfold SpoutLogic.nextLine at heff
    split at heff
    · simp at heff
    · exact .inr ⟨_, by simpa using heff⟩
    · split at heff
      · exact .inl ⟨_, by simpa using heff⟩
      · exact ih _ _ eff heff

lemma SpoutLogic.next_emit_or_raise (sp : SpoutLogic) :
    ∀ eff ∈ sp.next.1, (∃ vs, eff = .emit vs) ∨ ∃ f, eff = .raise f := by
  cases sp with
  | file r n task p => exact SpoutLogic.nextLine_emit_or_raise task p _ r n
  | records items i fields task p =>
    intro eff heff
    simp only [SpoutLogic.next] at heff
    split at heff
    · exact .inl ⟨_, by simpa using heff⟩
    · simp at heff
  | empty => simp [SpoutLogic.next]

lemma pairFields_key : pairFields.indexOf? "key" = some 0 := by decide

lemma pairFields_value : pairFields.indexOf? "value" = some 1 := by decide

namespace Tuple

lemma text_of_pair? {t : Tuple} {k v : String} (h : t.pair? = some (k, v)) :
    t.text "key" = .ok k ∧ t.text "value" = .ok v := by
  unfold pair? at h
  split at h
  · rename_i k' v' hk hv
    cases h
    exact ⟨hk, hv⟩
  · cases h

lemma pair?_make {k v src : String} {t : Tuple} (h : Tuple.make pairFields [.text k, .text v] src = .ok t) :
    t.pair? = some (k, v) := by
  simp only [Tuple.make] at h
  split at h
  · cases h
    simp [pair?, text, get?, pairFields_key, pairFields_value, Datum.keyText]
  · cases h

lemma make_pair (k v src : String) : ∃ t, Tuple.make pairFields [.text k, .text v] src = .ok t :=
  ⟨_, if_pos (by rw [show pairFields.size = 2 by decide]; rfl)⟩

end Tuple

namespace BoltLogic

variable {t : Tuple} {k v : String}

lemma onTuple_map_of_pair (J : Reducer) (h : t.pair? = some (k, v)) :
    (map J).onTuple t = ([.setPhase .mapping, .countMapInput] ++ J.map k v, map J) := by
  obtain ⟨hk, hv⟩ := Tuple.text_of_pair? h
  simp [onTuple, hk, hv, bind, Except.bind, pure, Except.pure]

lemma onTuple_map_of_none (J : Reducer) (h : t.pair? = none) :
    ∃ f, (map J).onTuple t = ([.setPhase .mapping, .countMapInput, .raise f], map J) := by
  unfold Tuple.pair? at h
  simp only [onTuple]
  cases hk : t.text "key" with
  | error f => exact ⟨f, by simp [bind, Except.bind]⟩
  | ok k =>
    cases hv : t.text "value" with
    | error f => exact ⟨f, by simp [bind, Except.bind]⟩
    | ok v => simp [hk, hv] at h

lemma onTuple_reduce_of_pair (job : Reducer) (held : List (String × List String)) (h : t.pair? = some (k, v)) :
    (reduce job held).onTuple t = ([], reduce job (hold held k v)) := by
  obtain ⟨hk, hv⟩ := Tuple.text_of_pair? h
  simp [onTuple, hk, hv]

lemma onTuple_reduce_of_none (job : Reducer) (held : List (String × List String)) (h : t.pair? = none) :
    ∃ f, (reduce job held).onTuple t = ([.raise f], reduce job held) := by
  unfold Tuple.pair? at h
  simp only [onTuple]
  split
  · rename_i hk hv
    simp [hk, hv] at h
  · exact ⟨_, rfl⟩
  · exact ⟨_, rfl⟩

lemma onTuple_print_of_pair (results : List (String × String)) (dir : Option String)
    (h : t.pair? = some (k, v)) :
    (print results dir).onTuple t = ([.record k v], print (results ++ [(k, v)]) dir) := by
  obtain ⟨hk, hv⟩ := Tuple.text_of_pair? h
  simp [onTuple, hk, hv]

lemma onTuple_print_of_none (results : List (String × String)) (dir : Option String) (h : t.pair? = none) :
    ∃ f, (print results dir).onTuple t = ([.raise f], print results dir) := by
  unfold Tuple.pair? at h
  simp only [onTuple]
  split
  · rename_i hk hv
    simp [hk, hv] at h
  · exact ⟨_, rfl⟩
  · exact ⟨_, rfl⟩

lemma ne_nil_of_mem_hold {held : List (String × List String)} (ho : Keyed.Ordered held)
    (hne : ∀ e ∈ held, e.2 ≠ []) {e : String × List String} (he : e ∈ hold held k v) : e.2 ≠ [] := by
  have hp := (Keyed.insert_ordered (k := k) (v := (held.lookup k).getD [] ++ [v]) ho).2
  rcases List.mem_cons.mp (hp.mem_iff.mp he) with rfl | he
  · simp
  · exact hne e (List.mem_of_mem_filter he)

end BoltLogic

lemma mem_modify_cases {α : Type} {l : List α} {i : Nat} {g : α → α} {x : α} (hx : x ∈ l.modify i g) :
    x ∈ l ∨ ∃ a, l[i]? = some a ∧ x = g a := by
  obtain ⟨n, hn⟩ := List.mem_iff_getElem?.mp hx
  rw [List.getElem?_modify] at hn
  cases ha : l[n]? with
  | none => simp [ha] at hn
  | some a =>
    rw [ha] at hn
    by_cases hin : i = n
    · subst hin
      simp only [if_true, Option.map_eq_map, Option.map_some, Option.some.injEq] at hn
      exact .inr ⟨a, ha, hn.symm⟩
    · simp only [hin, if_false, Option.map_eq_map, Option.map_some, Option.some.injEq] at hn
      exact .inl (hn ▸ List.mem_of_getElem? ha)

lemma map_modify_set {α : Type} {l : List α} {i : Nat} {g : α → α} {a : α} (ha : l[i]? = some a)
    (p : α → Bool) (hp : p (g a) = true) : (l.modify i g).map p = (l.map p).set i true := by
  refine List.ext_getElem? fun n => ?_
  simp only [List.getElem?_map, List.getElem?_modify, List.getElem?_set, List.length_map]
  obtain ⟨hi, hia⟩ := List.getElem?_eq_some_iff.mp ha
  by_cases hin : i = n
  · subst hin
    simp [hi, hia, hp]
  · simp only [hin, if_false]
    cases l[n]? <;> simp

lemma Reducer.reduce_of_stops (job : Reducer) {k : String} {vs : List String}
    (h : ∀ eff ∈ job.reduce k vs, eff.stops = false) :
    job.reduce k vs = [.write k (toString (vs.map valueOf).sum)] := by
  unfold Reducer.reduce at h ⊢
  split
  · rename_i n hn
    rw [sumValues_eq hn, zero_add]
  · rename_i heq
    simp [heq, Effect.stops] at h
  · rename_i heq
    simp [heq, Effect.stops] at h

lemma BoltLogic.onFinish_reduce (job : Reducer) (held : List (String × List String)) :
    (reduce job held).onFinish =
      (.setPhase .reducing :: held.flatMap (fun e => .countReduceInput :: job.reduce e.1 e.2), .reduce job []) :=
  rfl

lemma Job.unsent_pos {j : Job} {i : Nat} {b : BoltExecutor} (hb : j.bolts[i]? = some b) (h : b.sentEos = false) :
    0 < j.unsent := by
  have : 0 < (j.bolts.map (·.sentEos)).count false :=
    List.count_pos_iff.mpr (List.mem_map.mpr ⟨b, List.mem_of_getElem? hb, h⟩)
  unfold Job.unsent
  omega

namespace JobContext

lemma finishOne_phase_cases (c : JobContext) :
    (c.pending ≤ 1 ∧ c.finishOne.phase = .idle) ∨ (1 < c.pending ∧ c.finishOne.phase = c.phase) := by
  by_cases h : c.pending ≤ 1
  · exact .inl ⟨h, finishOne_phase_of_last h⟩
  · have hz : c.pending - 1 ≠ 0 := by omega
    exact .inr ⟨by omega, by simp [finishOne, hz]⟩

end JobContext

namespace Deployment

variable {D : Deployment} {s s₁ s₂ : World}

variable (D) in
/-- The tuples the next step of the spout executor at position `i` of worker `q` emits. -/
def stepEmits (s : World) (q i : Nat) : List Tuple :=
  match s.spoutAt D.job q i with
  | some sp =>
    if sp.done then [] else Emitter.emitted ⟨⟨q, D.job⟩, sp.id, sp.logic.fields, sp.routes⟩ sp.logic.next.1
  | none => []

namespace MapReduce

variable (M : D.MapReduce) (J : Reducer)

/-- What emitting values amounts to: the tuple they make, on every stream the emitter feeds. -/
def emitValue (e : Emitter) (values : List Datum) : Multiset Posting :=
  match Tuple.make e.fields values e.id with
  | .ok t => (e.routes.map fun c => M.outValue J c t).sum
  | .error _ => 0

/-- What an effect of the emitter `e` amounts to in phase `p`: a counter, an output counted in the
phase with what it emits, what an emit amounts to, a result printed on the emitter's worker. -/
def effectValue (e : Emitter) (p : Phase) : Effect → Multiset Posting
  | .countMapInput => {.mapInput}
  | .countReduceInput => {.reduceInput}
  | .write k v => p.output + M.emitValue J e [.text k, .text v]
  | .emit values => M.emitValue J e values
  | .record k v => {.result e.place.worker k v}
  | _ => 0

variable {M J}

/-! ### Staging through one executor -/

section Staging

variable {q i : Nat}

lemma Staged.modifyBolt (hs : M.Staged J s) {b : BoltExecutor} (hb : s.boltAt D.job q i = some b)
    {g : BoltExecutor → BoltExecutor} (hnode : ∀ b', (g b').node = b'.node)
    (hsent : ∀ b', (g b').sentEos = b'.sentEos) (hfin : b.finalized = true → (g b).finalized = true)
    (hfit : M.LogicFits J (g b)) :
    M.Staged J (s.updJob ⟨q, D.job⟩ fun j => { j with bolts := j.bolts.modify i g }) := by
  have hb' := hb
  simp only [World.boltAt, Option.bind_eq_some_iff] at hb'
  obtain ⟨j, hj, hbj⟩ := hb'
  refine hs.updJob (fun j' hj' h => ?_) (fun hm w i' b' hb'' hn => ?_) fun _ _ hr => .inl hr
  · obtain rfl : j' = j := Option.some.inj (hj'.symm.trans hj)
    refine ⟨by rw [map_modify_of_comp g _ hnode]; exact h.nodes, fun b' hb' => ?_,
      by simp only [Job.unsent, map_modify_of_comp g _ hsent]; exact h.pending, h.course, h.idle⟩
    rcases mem_modify_cases hb' with hb' | ⟨a, ha, rfl⟩
    · exact h.fits b' hb'
    · rw [hbj, Option.some.injEq] at ha
      exact ha ▸ hfit
  · rw [boltAt_modifyBolt_of hb] at hb''
    split at hb''
    · rw [Option.some.injEq] at hb''
      subst hb''
      exact hfin (hm q i b hb (hnode b ▸ hn))
    · exact hm w i' b' hb'' hn

lemma Staged.modifySpout (hs : M.Staged J s) {g : SpoutExecutor → SpoutExecutor}
    (hsent : ∀ sp, (g sp).sentEos = sp.sentEos) :
    M.Staged J (s.updJob ⟨q, D.job⟩ fun j => { j with spouts := j.spouts.modify i g }) :=
  hs.updJob (fun _ _ h => ⟨h.nodes, h.fits, by simp only [Job.unsent, map_modify_of_comp g _ hsent]; exact h.pending,
      h.course, h.idle⟩)
    (fun hm => hm.of_boltAt fun _ _ => World.boltAt_modifySpouts _ _) fun _ _ hr => .inl hr

lemma Staged.finish (hs : M.Staged J s) {j : Job} (hj : s.job? ⟨q, D.job⟩ = some j) {f : Job → Job}
    (hunsent : (f j).unsent + 1 = j.unsent) (hbolts : (f j).bolts.map (·.node) = j.bolts.map (·.node))
    (hfits : ∀ b ∈ (f j).bolts, M.LogicFits J b) (hmaps : M.MapsClosed s → M.MapsClosed (s.updJob ⟨q, D.job⟩ f))
    (hctx : ∀ j, (f j).context = j.context.finishOne) :
    M.Staged J (s.updJob ⟨q, D.job⟩ f) := by
  refine hs.updJob (fun j' hj' h => ?_) hmaps fun j' hj' hr => .inl ?_
  · rw [hj, Option.some.injEq] at hj'
    subst hj'
    have hp : (f j).context.pending = (f j).unsent := by
      rw [hctx, JobContext.finishOne_pending, h.pending]
      omega
    refine ⟨hbolts.trans h.nodes, hfits, hp, ?_, fun hi => ?_⟩
    · rcases (j.context).finishOne_phase_cases with ⟨-, he⟩ | ⟨-, he⟩ <;> rw [hctx, he]
      · simp [Phase.course]
      · exact h.course
    · rw [hctx] at hi ⊢
      rcases (j.context).finishOne_phase_cases with ⟨hle, -⟩ | ⟨-, he⟩
      · rw [JobContext.finishOne_pending]
        omega
      · rw [he] at hi
        rw [JobContext.finishOne_pending, h.idle hi]
  · rw [hj, Option.some.injEq] at hj'
    subst hj'
    rw [hctx] at hr
    rcases (j.context).finishOne_phase_cases with ⟨-, he⟩ | ⟨-, he⟩ <;> rw [he] at hr
    · cases hr
    · exact hr

lemma phaseFwd_finish (hs : M.Staged J s) {f : Job → Job} (hctx : ∀ j, (f j).context = j.context.finishOne) :
    D.PhaseFwd s (s.updJob ⟨q, D.job⟩ f) := by
  intro w j₀ j' h₀ h'
  rw [World.job?_updJob] at h'
  split at h'
  · rename_i hw'
    rw [← hw', h₀, Option.map_some, Option.some.injEq] at h'
    subst h'
    rw [hctx]
    rcases j₀.context.finishOne_phase_cases with ⟨-, he⟩ | ⟨-, he⟩ <;> rw [he]
    · exact Phase.rank_le_idle (hs.jobs w j₀ h₀).course
  · rw [h₀, Option.some.injEq] at h'
    rw [h']

lemma Flowed.finish {s₀ : World} {δ : Multiset Posting} (h : M.Flowed J s₀ δ s) {j : Job}
    (hj : s.job? ⟨q, D.job⟩ = some j) {f : Job → Job}
    (hunsent : (f j).unsent + 1 = j.unsent) (hbolts : (f j).bolts.map (·.node) = j.bolts.map (·.node))
    (hfits : ∀ b ∈ (f j).bolts, M.LogicFits J b) (hctx : ∀ j, (f j).context = j.context.finishOne)
    (hb : ∀ w i', ((s.updJob ⟨q, D.job⟩ f).boltAt D.job w i').map (fun b => (b.node, b.finalized)) =
      (s.boltAt D.job w i').map fun b => (b.node, b.finalized))
    (hL : M.ledger J (s.updJob ⟨q, D.job⟩ f) = M.ledger J s) :
    M.Flowed J s₀ δ (s.updJob ⟨q, D.job⟩ f) := by
  obtain ⟨⟨F, ⟨hnd, hF⟩, hst⟩, hs, hp⟩ := h
  -- an executor of the new world is one of the old with its node and whether it finished
  have hold : ∀ w i' y, (s.updJob ⟨q, D.job⟩ f).boltAt D.job w i' = some y →
      ∃ x, s.boltAt D.job w i' = some x ∧ y.node = x.node ∧ y.finalized = x.finalized := fun w i' y hy => by
    have h := hb w i'
    rw [hy, Option.map_some] at h
    obtain ⟨x, hx, he⟩ := Option.map_eq_some_iff.mp h.symm
    exact ⟨x, hx, (Prod.mk.inj he).1.symm, (Prod.mk.inj he).2.symm⟩
  have hnew : ∀ w i' x, s.boltAt D.job w i' = some x →
      ∃ y, (s.updJob ⟨q, D.job⟩ f).boltAt D.job w i' = some y ∧ y.finalized = x.finalized := fun w i' x hx => by
    have h := hb w i'
    rw [hx, Option.map_some] at h
    obtain ⟨y, hy, he⟩ := Option.map_eq_some_iff.mp h
    exact ⟨y, hy, (Prod.mk.inj he).2⟩
  have hfin : ∀ r : Nat × Nat,
      (∃ y, (s.updJob ⟨q, D.job⟩ f).boltAt D.job r.1 r.2 = some y ∧ y.finalized = true) ↔
        ∃ x, s.boltAt D.job r.1 r.2 = some x ∧ x.finalized = true := by
    intro r
    constructor
    · rintro ⟨y, hy, hfy⟩
      obtain ⟨x, hx, -, hfx⟩ := hold _ _ y hy
      exact ⟨x, hx, hfx ▸ hfy⟩
    · rintro ⟨x, hx, hfx⟩
      obtain ⟨y, hy, hfy⟩ := hnew _ _ x hx
      exact ⟨y, hy, hfy ▸ hfx⟩
  refine ⟨⟨F, ⟨hnd, fun r => by rw [hF r, hfin r]⟩, by rwa [hL]⟩, ?_,
    hp.trans (phaseFwd_finish hs hctx) fun w j' h' => ?_⟩
  · refine hs.finish hj hunsent hbolts hfits (fun hm w i' y hy hn => ?_) hctx
    obtain ⟨x, hx, hnx, hfx⟩ := hold w i' y hy
    rw [hfx]
    exact hm w i' x hx (hnx ▸ hn)
  · rw [World.job?_updJob] at h'
    split at h'
    · rename_i hw'
      obtain ⟨j₀, hj₀, -⟩ := Option.map_eq_some_iff.mp h'
      exact ⟨j₀, hw' ▸ hj₀⟩
    · exact ⟨j', h'⟩

lemma LogicFits.of_logic {b b' : BoltExecutor} (h : M.LogicFits J b) (hn : b'.node = b.node)
    (hl : b'.logic = b.logic) : M.LogicFits J b' := by
  unfold LogicFits at h ⊢
  rw [hn, hl]
  exact h

lemma logicFits_reduce {b : BoltExecutor} (hn : b.node = M.reduce) (job : Reducer)
    {held : List (String × List String)} (ho : Keyed.Ordered held) (hne : ∀ e ∈ held, e.2 ≠ []) :
    M.LogicFits J { b with logic := .reduce job held } :=
  ⟨fun h => absurd (hn.symm.trans h) M.map_ne_reduce.symm, fun _ => ⟨job, held, rfl, ho, hne⟩,
    fun h => absurd (hn.symm.trans h) M.reduce_ne_print⟩

lemma logicFits_print {b : BoltExecutor} (hn : b.node = M.print) (results : List (String × String))
    (dir : Option String) : M.LogicFits J { b with logic := .print results dir } :=
  ⟨fun h => absurd (hn.symm.trans h) M.map_ne_print.symm, fun h => absurd (hn.symm.trans h) M.reduce_ne_print.symm,
    fun _ => ⟨results, dir, rfl⟩⟩

lemma LogicFits.onFinish_of_not_reduce {b : BoltExecutor} (h : M.LogicFits J b) {d : BoltDecl}
    (hd : D.topology.bolts.lookup b.node = some d) (hn : b.node ≠ M.reduce) :
    (∀ job held, b.logic ≠ .reduce job held) ∧ b.logic.onFinish.2 = b.logic := by
  rcases M.bolts b.node d hd with hn' | hn' | hn'
  · rw [h.1 hn']
    exact ⟨fun _ _ he => (by cases he), rfl⟩
  · exact absurd hn' hn
  · obtain ⟨results, dir, hlog⟩ := h.2.2 hn'
    rw [hlog]
    refine ⟨fun _ _ he => (by cases he), ?_⟩
    cases dir <;> rfl

lemma Phase.init_or_mapping {p : Phase} (h : p ∈ Phase.course) (hr : p ≠ .reducing) (hi : p ≠ .idle) :
    p = .init ∨ p = .mapping := by
  simp only [Phase.course, List.mem_cons, List.not_mem_nil, or_false] at h
  rcases h with h | h | h | h
  · exact .inl h
  · exact .inr h
  · exact absurd h hr
  · exact absurd h hi

lemma Staged.phase_of_unfinished (hs : M.Staged J s) (hc : D.Consistent s) {j : Job} {b : BoltExecutor}
    (hj : s.job? ⟨q, D.job⟩ = some j) (hb : s.boltAt D.job q i = some b) (hf : b.finalized = false) :
    j.context.phase ≠ .idle ∧ (b.node = M.map → j.context.phase ≠ .reducing) := by
  have hbj : j.bolts[i]? = some b := by rw [World.boltAt_of_job? hj] at hb; exact hb
  have hse : b.sentEos = false := by
    cases h : b.sentEos
    · rfl
    · rw [(hc.boltSent q i b hb h).1] at hf
      cases hf
  refine ⟨fun hi => ?_, fun hn hr => ?_⟩
  · have h := (hs.jobs q j hj).idle hi
    rw [(hs.jobs q j hj).pending] at h
    exact absurd h (Job.unsent_pos hbj hse).ne'
  · rw [hs.reducing q j hj hr q i b hb hn] at hf
    cases hf

lemma Phase.rank_le_reducing {p : Phase} (h : p ∈ Phase.course) (hi : p ≠ .idle) :
    p.rank ≤ Phase.reducing.rank := by
  simp only [Phase.course, List.mem_cons, List.not_mem_nil, or_false] at h
  rcases h with rfl | rfl | rfl | rfl
  · decide
  · decide
  · decide
  · exact absurd rfl hi

lemma finalized_modifyBolt {b : BoltExecutor} (hb : s.boltAt D.job q i = some b) {g : BoltExecutor → BoltExecutor}
    (hfin : ∀ b', (g b').finalized = b'.finalized) {w i' : Nat} {x y : BoltExecutor}
    (hx : s.boltAt D.job w i' = some x)
    (hy : (s.updJob ⟨q, D.job⟩ fun j => { j with bolts := j.bolts.modify i g }).boltAt D.job w i' = some y) :
    y.finalized = x.finalized := by
  rw [boltAt_modifyBolt_of hb] at hy
  split at hy
  · rename_i h
    obtain ⟨rfl, rfl⟩ := h
    rw [hb, Option.some.injEq] at hx
    rw [Option.some.injEq] at hy
    rw [← hy, ← hx, hfin]
  · rw [hx, Option.some.injEq] at hy
    rw [hy]

lemma mapsClosed_of_reduce (hw : D.Wired s) (hc : D.Consistent s) {b : BoltExecutor}
    (hb : s.boltAt D.job q i = some b) (hn : b.node = M.reduce) (hf : b.finalized = true) : M.MapsClosed s :=
  fun _ _ _ he hen =>
    hc.input_finalized hw hb hf (by rw [hn]; exact M.reduce_lookup) he (hen.trans M.reduce_input.symm)

lemma MapsClosed.drained (hw : D.Wired s) (hc : D.Consistent s) (hm : M.MapsClosed s) (q' : Nat) :
    D.Drained s M.map q' := by
  by_cases hq : q' < D.addresses.length
  · obtain ⟨i', e, he, hen⟩ := hw.exists_boltAt hq M.map_lookup
    have h := hc.drained hw he (hm q' i' e he hen)
    rwa [hen] at h
  · exact hw.drained_of_le M.map (by omega)

lemma finishes_of_only {b b₂ : BoltExecutor} (hb : s.boltAt D.job q i = some b) (hf : b.finalized = false)
    (hagree : ∀ w i', ¬(w = q ∧ i' = i) → s₁.boltAt D.job w i' = s.boltAt D.job w i') (hq : D.Quiet s₁ s₂)
    (hb₂ : s₂.boltAt D.job q i = some b₂) (hf₂ : b₂.finalized = true) :
    M.Finishes s s₂ (if b.node = M.reduce then [(q, i)] else []) := by
  refine ⟨by split <;> simp, fun r => ⟨fun hr => ?_, fun hr => ?_⟩⟩
  · split at hr
    · rename_i hn
      rw [List.mem_singleton.mp hr]
      exact ⟨⟨b, hb, hn, hf⟩, b₂, hb₂, hf₂⟩
    · cases hr
  · obtain ⟨⟨x, hx, hn, hfx⟩, y, hy, hfy⟩ := hr
    by_cases hr : r.1 = q ∧ r.2 = i
    · obtain ⟨r₁, r₂⟩ := r
      obtain ⟨rfl, rfl⟩ := hr
      rw [hb, Option.some.injEq] at hx
      subst hx
      rw [if_pos hn]
      exact List.mem_singleton_self _
    · -- any other executor is as it was before the flow, which finishes none
      rw [← hagree r.1 r.2 hr] at hx
      rw [hq.finalized hx hy, hfx] at hfy
      cases hfy

lemma settles_finish_reduce (hw : D.Wired s) {b : BoltExecutor} (hb : s.boltAt D.job q i = some b)
    {job : Reducer} {held : List (String × List String)} (hlog : b.logic = .reduce job held)
    (hmap : ∀ q', D.Drained s M.map q') (hred : D.Drained s M.reduce q)
    (hL : M.ledger J s₂ + b.ledger q i = M.ledger J s + M.reduced (pairsIn held)) :
    M.Settles (M.ledger J s) 0 [(q, i)] (M.ledger J s₂) := by
  have hheld : Posting.heldFor (q, i) (M.ledger J s) = b.ledger q i := by
    rw [heldFor_ledger hw hmap hred, hb, Option.map_some, Option.getD_some]
  have hpairs : Posting.pairsFor (q, i) (M.ledger J s) = pairsIn held := by
    rw [← Posting.pairsFor_heldFor, hheld, pairsFor_boltLedger hlog]
  simp only [Settles, add_zero, List.map_cons, List.map_nil, List.sum_cons, List.sum_nil, hheld, hpairs]
  exact hL

end Staging

/-! ### What one change adds -/

section Changes

variable (hw : D.Wired s) (hs : M.Staged J s)
include hw hs

lemma dataFlowed_context {q : Nat} {j : Job} (hj : s.job? ⟨q, D.job⟩ = some j) (g : JobContext → JobContext)
    (hp : ∀ c, (g c).pending = c.pending) (hph : ∀ c, (g c).phase = c.phase) {δ : Multiset Posting}
    (hδ : (g j.context).ledger q = j.context.ledger q + δ) :
    M.DataFlowed J s δ (s.updJob ⟨q, D.job⟩ fun j => { j with context := g j.context }) :=
  ⟨add_right_cancel (b := j.context.ledger q) (by rw [ledger_context hw hj g, hδ]; abel),
    hs.context g hp hph, PhaseData.updJob fun j => hph j.context⟩

lemma dataFlowed_modifyBolt {q i : Nat} {b : BoltExecutor} (hb : s.boltAt D.job q i = some b)
    {g : BoltExecutor → BoltExecutor} (hnode : ∀ b', (g b').node = b'.node)
    (hsent : ∀ b', (g b').sentEos = b'.sentEos) (hfin : ∀ b', (g b').finalized = b'.finalized)
    (hfit : M.LogicFits J (g b)) {δ : Multiset Posting} (hδ : (g b).ledger q i = b.ledger q i + δ) :
    M.DataFlowed J s δ (s.updJob ⟨q, D.job⟩ fun j => { j with bolts := j.bolts.modify i g }) :=
  ⟨add_right_cancel (b := b.ledger q i) (by rw [ledger_modifyBolt hw hb g, hδ]; abel),
    hs.modifyBolt hb hnode hsent (fun h => (hfin b).trans h) hfit, PhaseData.updJob fun _ => rfl⟩

omit hw in
lemma dataFlowed_setPhase_mapping {q : Nat} {j : Job} (hj : s.job? ⟨q, D.job⟩ = some j)
    (hph : j.context.phase = .init ∨ j.context.phase = .mapping) :
    M.DataFlowed J s 0 (s.updJob ⟨q, D.job⟩ fun j => { j with context := j.context.setPhase .mapping }) := by
  have hnot : j.context.phase ≠ .idle := by rcases hph with h | h <;> rw [h] <;> decide
  have hnew : (j.context.setPhase .mapping).phase = .mapping := JobContext.setPhase_phase hnot _
  refine ⟨by rw [ledger_context_of _ fun c => JobContext.ledger_setPhase q c _, add_zero], ?_, ?_⟩
  · refine hs.updJob (fun j' hj' h => ?_)
      (fun h => h.of_boltAt fun _ _ => World.boltAt_context (f := fun c => c.setPhase .mapping) _ _)
      fun j' hj' hr => ?_
    · rw [hj, Option.some.injEq] at hj'
      subst hj'
      exact ⟨h.nodes, h.fits, (JobContext.setPhase_pending _ _).trans h.pending, by simp [hnew, Phase.course],
        fun hi => absurd (hnew.symm.trans hi) (by decide)⟩
    · rw [hj, Option.some.injEq] at hj'
      subst hj'
      rw [hnew] at hr
      cases hr
  · intro w j₀ j₁ h₀ h₁
    rw [World.job?_updJob] at h₁
    split at h₁
    · rename_i hw'
      obtain rfl : w = q := congrArg Place.worker hw'
      rw [hj, Option.some.injEq] at h₀
      subst h₀
      rw [hj, Option.map_some, Option.some.injEq] at h₁
      subst h₁
      rcases hph with h | h
      · exact .inr ⟨h, hnew⟩
      · exact .inl (hnew.trans h.symm)
    · rw [h₀, Option.some.injEq] at h₁
      exact .inl (by rw [h₁])

omit hs in
lemma Flowed.finishBolt {s₀ : World} {δ : Multiset Posting} (h : M.Flowed J s₀ δ s) {q i : Nat} {b : BoltExecutor}
    (hb : s.boltAt D.job q i = some b) (hse : b.sentEos = false) :
    M.Flowed J s₀ δ ((s.updJob ⟨q, D.job⟩ fun j => { j with bolts := j.bolts.modify i fun b' => { b' with sentEos := true } }).updJob
      ⟨q, D.job⟩ fun j => { j with context := j.context.finishOne }) := by
  have hb' := hb
  simp only [World.boltAt, Option.bind_eq_some_iff] at hb'
  obtain ⟨j, hj, hbj⟩ := hb'
  have hL : M.ledger J (s.updJob ⟨q, D.job⟩ fun j => { j with bolts := j.bolts.modify i fun b' => { b' with sentEos := true } }) =
      M.ledger J s :=
    add_right_cancel (b := b.ledger q i) (ledger_modifyBolt hw hb _)
  have hbolt := boltAt_modifyBolt_of hb (g := fun b' => { b' with sentEos := true })
  rw [World.updJob_updJob]
  refine h.finish hj ?_ (map_modify_of_comp (fun b' : BoltExecutor => { b' with sentEos := true }) _
    (fun _ => rfl) _ _) (fun b' hb'' => ?_) (fun _ => rfl) (fun w i' => ?_) ?_
  · have hget : (j.bolts.map (·.sentEos))[i]? = some false := by rw [List.getElem?_map, hbj, Option.map_some, hse]
    simp only [Function.comp_apply, Job.unsent,
      map_modify_set (g := fun b' : BoltExecutor => { b' with sentEos := true }) hbj (·.sentEos) rfl]
    rw [Nat.add_assoc, count_false_set hget]
  · rcases mem_modify_cases hb'' with hb'' | ⟨a, ha, rfl⟩
    · exact (h.2.1.jobs q j hj).fits b' hb''
    · exact ((h.2.1.jobs q j hj).fits a (List.mem_of_getElem? ha)).of_logic rfl rfl
  · rw [← World.updJob_updJob, World.boltAt_context, hbolt]
    split
    · rename_i he
      obtain ⟨rfl, rfl⟩ := he
      rw [hb]
      rfl
    · rfl
  · rw [← World.updJob_updJob, ledger_context_of _ fun c => JobContext.ledger_finishOne q c, hL]

omit hw hs in
lemma Flowed.finishSpout {s₀ : World} {δ : Multiset Posting} (h : M.Flowed J s₀ δ s) {q i : Nat}
    {sp : SpoutExecutor} (hsp : s.spoutAt D.job q i = some sp) (hse : sp.sentEos = false) :
    M.Flowed J s₀ δ ((s.updJob ⟨q, D.job⟩ fun j => { j with spouts := j.spouts.modify i fun sp' => { sp' with sentEos := true } }).updJob
      ⟨q, D.job⟩ fun j => { j with context := j.context.finishOne }) := by
  have hsp' := hsp
  simp only [World.spoutAt, Option.bind_eq_some_iff] at hsp'
  obtain ⟨j, hj, hspj⟩ := hsp'
  rw [World.updJob_updJob]
  refine h.finish hj ?_ rfl (h.2.1.jobs q j hj).fits (fun _ => rfl) (fun w i' => ?_) ?_
  · have hget : (j.spouts.map (·.sentEos))[i]? = some false := by
      rw [List.getElem?_map, hspj, Option.map_some, hse]
    simp only [Function.comp_apply, Job.unsent,
      map_modify_set (g := fun sp' : SpoutExecutor => { sp' with sentEos := true }) hspj (·.sentEos) rfl]
    rw [Nat.add_right_comm, count_false_set hget]
  · rw [← World.updJob_updJob, World.boltAt_context, World.boltAt_modifySpouts]
  · rw [← World.updJob_updJob, ledger_context_of _ fun c => JobContext.ledger_finishOne q c, ledger_modifySpout]

omit hw in
lemma setPhase_reducing {q : Nat} {j : Job} (hj : s.job? ⟨q, D.job⟩ = some j) (hph : j.context.phase ≠ .idle)
    (hm : M.MapsClosed s) :
    M.ledger J (s.updJob ⟨q, D.job⟩ fun j => { j with context := j.context.setPhase .reducing }) = M.ledger J s ∧
      M.Staged J (s.updJob ⟨q, D.job⟩ fun j => { j with context := j.context.setPhase .reducing }) ∧
      D.PhaseFwd s (s.updJob ⟨q, D.job⟩ fun j => { j with context := j.context.setPhase .reducing }) := by
  have hnew : (j.context.setPhase .reducing).phase = .reducing := JobContext.setPhase_phase hph _
  have hbolts : ∀ w i, (s.updJob ⟨q, D.job⟩ fun j => { j with context := j.context.setPhase .reducing }).boltAt
      D.job w i = s.boltAt D.job w i := fun _ _ => World.boltAt_context (f := fun c => c.setPhase .reducing) _ _
  refine ⟨ledger_context_of (fun c => c.setPhase .reducing) fun c => JobContext.ledger_setPhase q c _, ?_,
    fun w j₀ j₁ h₀ h₁ => ?_⟩
  · refine hs.updJob (fun j' hj' h => ?_) (fun h => h.of_boltAt hbolts) fun _ _ _ => .inr (hm.of_boltAt hbolts)
    rw [hj, Option.some.injEq] at hj'
    subst hj'
    exact ⟨h.nodes, h.fits, (JobContext.setPhase_pending _ _).trans h.pending, by simp [hnew, Phase.course],
      fun hi => absurd (hnew.symm.trans hi) (by decide)⟩
  · rw [World.job?_updJob] at h₁
    split at h₁
    · rename_i hw'
      obtain rfl : w = q := congrArg Place.worker hw'
      rw [hj, Option.some.injEq] at h₀
      subst h₀
      rw [hj, Option.map_some, Option.some.injEq] at h₁
      subst h₁
      rw [hnew]
      exact Phase.rank_le_reducing (hs.jobs w j hj).course hph
    · rw [h₀, Option.some.injEq] at h₁
      rw [h₁]

omit hw in
lemma dataFlowed_of_job? (hj : ∀ w, s₁.job? ⟨w, D.job⟩ = s.job? ⟨w, D.job⟩) : M.DataFlowed J s 0 s₁ :=
  ⟨by rw [ledger_of_job? M J hj, add_zero], hs.of_job? hj, fun w j j' h h' => by
    rw [hj, h, Option.some.injEq] at h'
    exact .inl (by rw [h'])⟩

end Changes

/-! ### What the components' effects amount to -/

section Values

variable {e : Emitter} (hf : e.fields = pairFields)
include hf

lemma emitValue_pair {c : String} (hr : e.routes = [c]) (k v : String) :
    M.emitValue J e [.text k, .text v] =
      M.outValue J c { fields := pairFields, values := [.text k, .text v], source := e.id } := by
  obtain ⟨t, ht⟩ := Tuple.make_pair k v e.id
  have ht' := ht
  simp only [Tuple.make] at ht'
  split at ht'
  · cases ht'
    simp [emitValue, hf, hr, ht]
  · cases ht'

omit hf in
lemma pair?_pairTuple (k v src : String) :
    Tuple.pair? { fields := pairFields, values := [.text k, .text v], source := src } = some (k, v) := by
  obtain ⟨t, ht⟩ := Tuple.make_pair k v src
  have h := Tuple.pair?_make ht
  simp only [Tuple.make] at ht
  split at ht
  · cases ht
    exact h
  · cases ht

lemma sum_effectValue_map (hr : e.routes = [M.reduce]) {t : Tuple} {k v : String} (h : t.pair? = some (k, v)) :
    ((Effect.countMapInput :: J.map k v).map (M.effectValue J e .mapping)).sum = M.mapValue J t := by
  have hw : ∀ p : String × String, M.effectValue J e .mapping (.write p.1 p.2) = {.mapOutput} + {M.holding p} :=
    fun p => by
      rw [effectValue, emitValue_pair hf hr, outValue, if_neg M.map_ne_reduce.symm, pair?_pairTuple]
      simp [Phase.output]
  simp only [List.map_cons, List.sum_cons, Reducer.map_eq_pairs, List.map_map, mapValue, Reducer.pairsOf, h]
  congr 1
  exact congrArg List.sum (List.map_congr_left fun p _ => hw p)

omit hf in
lemma effectValue_record (p : Phase) (k v : String) :
    M.effectValue J e p (.record k v) = {.result e.place.worker k v} := rfl

lemma sum_effectValue_reduce (hr : e.routes = [M.print]) (job : Reducer) {held : List (String × List String)}
    (ho : Keyed.Ordered held) (hne : ∀ x ∈ held, x.2 ≠ [])
    (hst : ∀ eff ∈ held.flatMap (fun x => .countReduceInput :: job.reduce x.1 x.2), eff.stops = false) :
    ((held.flatMap (fun x => .countReduceInput :: job.reduce x.1 x.2)).map (M.effectValue J e .reducing)).sum =
      M.reduced (pairsIn held) := by
  have hw : ∀ k n : String, M.effectValue J e .reducing (.write k n) = {.reduceOutput} + M.printed k n :=
    fun k n => by
      rw [effectValue, emitValue_pair hf hr, outValue, if_neg M.map_ne_print.symm, pair?_pairTuple]
      simp [Phase.output, M.reduce_ne_print.symm]
  rw [reduced, totals_pairsIn ho hne, Multiset.map_coe, Multiset.sum_coe, List.map_map]
  clear ho hne
  -- key by key, along the buffer
  induction held with
  | nil => rfl
  | cons x rest ih =>
    have hx : ∀ eff ∈ job.reduce x.1 x.2, eff.stops = false := fun eff h =>
      hst eff (List.mem_flatMap.mpr ⟨x, List.mem_cons_self, List.mem_cons_of_mem _ h⟩)
    rw [List.flatMap_cons, List.map_append, List.sum_append, List.map_cons, List.sum_cons,
      ih fun eff h => hst eff (List.mem_flatMap.mpr (by
        obtain ⟨y, hy, h⟩ := List.mem_flatMap.mp h
        exact ⟨y, List.mem_cons_of_mem _ hy, h⟩)),
      Reducer.reduce_of_stops job hx]
    have hri : M.effectValue J e .reducing .countReduceInput = {.reduceInput} := rfl
    simp only [List.map_cons, List.map_nil, List.sum_cons, List.sum_nil, add_zero, hw, hri, Function.comp_apply]
    abel

omit hf in
lemma sum_effectValue_emits (hr : e.routes = [M.map]) (p : Phase) {effects : List Effect}
    (h : ∀ eff ∈ effects, (∃ vs, eff = .emit vs) ∨ ∃ f, eff = .raise f) :
    (effects.map (M.effectValue J e p)).sum = ((e.emitted effects).map (M.mapValue J)).sum := by
  induction effects with
  | nil => rfl
  | cons eff rest ih =>
    rw [List.map_cons, List.sum_cons, ih fun x hx => h x (List.mem_cons_of_mem _ hx), Emitter.emitted_cons,
      List.map_append, List.sum_append]
    congr 1
    rcases h eff List.mem_cons_self with ⟨vs, rfl⟩ | ⟨f, rfl⟩
    · simp only [effectValue, emitValue, Emitter.emitted, List.flatMap_cons, List.flatMap_nil, hr]
      split <;> simp [outValue]
    · rfl

end Values

/-! ### Emitting and carrying out effects -/

section Effects

variable {deliver : Deliver} (hl : M.LedgerOk J deliver)
include hl

theorem ledger_emit (hw : D.Wired s) (hc : D.Consistent s) (hs : M.Staged J s) {e : Emitter} {w : Nat}
    {U : String} (he : D.EmitterAt s e w U) (hnv : D.NotVoter s e.id) (values : List Datum) :
    Run.Spec (emit deliver e values) s (M.DataLedger J (D.topology.depth U) s (M.emitValue J e values)) := by
  rw [emit, Run.spec_bind, Run.spec_ofExcept]
  cases hmk : Tuple.make e.fields values e.id with
  | error f =>
    exact ⟨⟨hc, Keeps.refl _ _, Quiet.refl s, by simp [Clean, Tuple.code_of_make hmk]⟩, fun a ha => by cases ha⟩
  | ok t =>
    obtain ⟨hsrc, ht⟩ := Tuple.make_ok hmk
    simp only [he.place, Run.spec_bind]
    -- the invariant of the loop: a flow of data adding what the streams so far amount to
    refine Run.spec_forIn_prefix _ _ (fun pre s₁ => D.DataPost (D.topology.depth U) s (.ok ()) s₁ ∧
        M.DataFlowed J s ((pre.map fun c => M.outValue J c t).sum) s₁)
      (fun f s₁ => D.DataPost (D.topology.depth U) s (.error f : Except Fault Unit) s₁)
      ⟨⟨hc, Keeps.refl _ _, Quiet.refl s, trivial⟩, by simpa using DataFlowed.refl hs⟩ ?_ |>.mono ?_
    · rintro pre c post hl' s₁ ⟨h₁, hL₁⟩
      obtain ⟨dc, hdc, hin⟩ := Topology.lookup_of_mem_subscribers hw.boltKeys
        (he.routes c (hl' ▸ List.mem_append_right _ List.mem_cons_self))
      have hsrc₁ : t.source ∈ D.idsAt s₁ w dc.input := by
        rw [hsrc, hin]
        exact (he.of_keeps h₁.2.1).id
      simp only [Run.spec_bind]
      refine (ledger_routeOut_data hl (hw.of_fixedOf h₁.2.1.fixed) h₁.1 hL₁.2.1 hdc ht hsrc₁
        (hsrc ▸ h₁.2.2.1.notVoter hnv)).mono fun r s₂ h₂ => ?_
      rw [hin] at h₂
      obtain ⟨h₂, hok⟩ := h₂
      rcases r with f | _
      · exact h₁.trans h₂
      · refine ⟨h₁.trans h₂, ?_⟩
        rw [List.map_append, List.sum_append, List.map_singleton, List.sum_singleton]
        exact hL₁.trans (hok _ rfl) h₂.2.1.fixed
    · rintro (f | _) s' h
      · exact ⟨h, fun a ha => by cases ha⟩
      · exact ⟨h.1, fun _ _ => by simpa [emitValue, hmk] using h.2⟩

theorem ledger_emitEos (hw : D.Wired s) (hc : D.Consistent s) (hs : M.Staged J s) {e : Emitter} {w : Nat}
    {U : String} (he : D.EmitterAt s e w U) (hcl : D.ClosedFeeder s U e.id) :
    Run.Spec (emitEos deliver e) s
      (M.EosLedger J (D.topology.depth U) s fun s' => ∀ c ∈ e.routes, D.VotedAt s' c e.id) := by
  rw [emitEos]
  simp only [he.place, Run.spec_bind]
  -- the invariant of the loop: the streams done so far have the vote everywhere, and a flow adding
  -- nothing
  refine Run.spec_forIn_prefix _ _ (fun pre s₁ => D.Consistent s₁ ∧ D.Keeps (D.topology.depth U) s s₁ ∧
      D.NoNewStuck s s₁ ∧ (∀ c ∈ pre, D.VotedAt s₁ c e.id) ∧ M.Flowed J s 0 s₁)
    (fun f s₁ => M.EosLedger J (D.topology.depth U) s (fun s' => ∀ c ∈ e.routes, D.VotedAt s' c e.id)
      (.error f : Except Fault Unit) s₁)
    ⟨hc, Keeps.refl _ _, NoNewStuck.refl s, fun _ h => absurd h List.not_mem_nil, Flowed.refl hs⟩ ?_ |>.mono ?_
  · rintro pre c post hl' s₁ ⟨hc₁, hk₁, hs₁, hv₁, hL₁⟩
    obtain ⟨dc, hdc, hin⟩ := Topology.lookup_of_mem_subscribers hw.boltKeys
      (he.routes c (hl' ▸ List.mem_append_right _ List.mem_cons_self))
    have hsrc₁ : (Tuple.eos e.id).source ∈ D.idsAt s₁ w dc.input := by
      rw [hin]
      exact (he.of_keeps hk₁).id
    simp only [Run.spec_bind]
    refine (ledger_routeOut_eos hl (hw.of_fixedOf hk₁.fixed) hc₁ hL₁.2.1 hdc rfl hsrc₁
      (hin ▸ hk₁.closedFeeder hcl)).mono fun r s₂ h₂ => ?_
    rw [hin] at h₂
    obtain ⟨⟨hc₂, hk₂, hcl₂, hok⟩, hF⟩ := h₂
    rcases r with f | _
    · exact ⟨⟨hc₂, hk₁.trans hk₂, hcl₂, fun a ha => by cases ha⟩, fun a ha => by cases ha⟩
    · obtain ⟨hv, hs₂⟩ := hok _ rfl
      refine ⟨hc₂, hk₁.trans hk₂, hs₁.trans hs₂, fun c' hc' => ?_, ?_⟩
      · rcases List.mem_append.mp hc' with hc' | hc'
        · exact hk₂.votedAt (hv₁ c' hc')
        · rw [List.mem_singleton.mp hc']
          exact hv
      · simpa using hL₁.trans (hF _ rfl) (hk₁.mono (Nat.zero_le _)) (hk₂.mono (Nat.zero_le _)) fun _ => map_zero _
  · rintro (f | _) s' h
    · exact h
    · obtain ⟨hc', hk', hs', hv', hL⟩ := h
      exact ⟨⟨hc', hk', trivial, fun _ _ => ⟨hv', hs'⟩⟩, fun _ _ => hL⟩

/-- Carrying out effects that change no phase, from an executor that has voted nowhere, is a flow of
data adding what they amount to in the executor's phase, which no flow moves once it writes; when
it ends normally, none of them stopped it. -/
theorem ledger_perform (hw : D.Wired s) (hc : D.Consistent s) (hs : M.Staged J s) {e : Emitter} {w : Nat}
    {U : String} (he : D.EmitterAt s e w U) (hnv : D.NotVoter s e.id) {effects : List Effect}
    (hr : CleanRaises effects) (hph : ∀ p, Effect.setPhase p ∉ effects) {j : Job}
    (hj : s.job? ⟨w, D.job⟩ = some j) (hinit : ∀ k v, Effect.write k v ∈ effects → j.context.phase ≠ .init) :
    Run.Spec (perform deliver e effects) s fun r s' =>
      M.DataLedger J (D.topology.depth U) s ((effects.map (M.effectValue J e j.context.phase)).sum) r s' ∧
        ∀ a, r = .ok a → ∀ eff ∈ effects, eff.stops = false := by
  rw [perform]
  simp only [he.place, Run.spec_bind]
  -- the invariant of the loop: a flow of data adding what the effects so far amount to, none of
  -- which stopped
  refine Run.spec_forIn_prefix _ _ (fun pre s₁ => D.DataPost (D.topology.depth U) s (.ok ()) s₁ ∧
      M.DataFlowed J s ((pre.map (M.effectValue J e j.context.phase)).sum) s₁ ∧ ∀ eff ∈ pre, eff.stops = false)
    (fun f s₁ => D.DataPost (D.topology.depth U) s (.error f : Except Fault Unit) s₁)
    ⟨⟨hc, Keeps.refl _ _, Quiet.refl s, trivial⟩, by simpa using DataFlowed.refl hs, by simp⟩ ?_ |>.mono ?_
  · rintro pre eff post hl' s₁ ⟨h₁, hL₁, hst₁⟩
    have hmem : eff ∈ effects := hl' ▸ List.mem_append_right _ List.mem_cons_self
    have he₁ := he.of_keeps h₁.2.1
    have hnv₁ := h₁.2.2.1.notVoter hnv
    have hw₁ := hw.of_fixedOf h₁.2.1.fixed
    obtain ⟨j₁, hj₁⟩ := exists_job_of_fixedOf h₁.2.1.fixed.symm hj
    -- one more effect that did not stop, and the flow of data it is
    have hnext : ∀ {s₂ : World} {δ : Multiset Posting}, D.DataPost (D.topology.depth U) s (.ok ()) s₂ →
        M.DataFlowed J s₁ δ s₂ → s₂.fixedOf D.job = s₁.fixedOf D.job →
        M.effectValue J e j.context.phase eff = δ → eff.stops = false →
        D.DataPost (D.topology.depth U) s (.ok ()) s₂ ∧
          M.DataFlowed J s (((pre ++ [eff]).map (M.effectValue J e j.context.phase)).sum) s₂ ∧
          ∀ eff' ∈ pre ++ [eff], eff'.stops = false := by
      intro s₂ δ hp₂ hL₂ hf₂ hδ hst
      refine ⟨hp₂, ?_, fun eff' h' => ?_⟩
      · rw [List.map_append, List.sum_append, List.map_singleton, List.sum_singleton, hδ]
        exact hL₁.trans hL₂ hf₂
      · rcases List.mem_append.mp h' with h' | h'
        · exact hst₁ eff' h'
        · rw [List.mem_singleton.mp h']
          exact hst
    -- a change of the context alone
    have hctx : ∀ g : JobContext → JobContext, (∀ c, (g c).errors = c.errors) →
        (∀ c, (g c).pending = c.pending) → (∀ c, (g c).phase = c.phase) →
        (g j₁.context).ledger w = j₁.context.ledger w + M.effectValue J e j.context.phase eff →
        eff.stops = false →
        D.DataPost (D.topology.depth U) s (.ok ()) (s₁.updJob ⟨w, D.job⟩ fun j => { j with context := g j.context }) ∧
          M.DataFlowed J s (((pre ++ [eff]).map (M.effectValue J e j.context.phase)).sum)
            (s₁.updJob ⟨w, D.job⟩ fun j => { j with context := g j.context }) ∧
          ∀ eff' ∈ pre ++ [eff], eff'.stops = false := fun g herr hp hph hδ hst =>
      hnext (h₁.trans (DataPost.of_neutral h₁.1 (neutral_of_errors g herr) ()))
        (dataFlowed_context hw₁ hL₁.2.1 hj₁ g hp hph hδ) (neutral_of_errors g herr).fixed rfl hst
    cases eff with
    | setPhase ph => exact absurd hmem (hph ph)
    | countMapInput =>
      exact hctx (fun c => { c with mapInputs := c.mapInputs + 1 }) (fun _ => rfl) (fun _ => rfl) (fun _ => rfl)
        (JobContext.ledger_countMapInput w j₁.context) rfl
    | countReduceInput =>
      exact hctx (fun c => { c with reduceInputs := c.reduceInputs + 1 }) (fun _ => rfl) (fun _ => rfl)
        (fun _ => rfl) (JobContext.ledger_countReduceInput w j₁.context) rfl
    | record k v =>
      refine hctx (·.record k v) (fun c => c.record_errors k v) (fun _ => rfl) (fun _ => rfl) ?_ rfl
      simp [effectValue, he.place]
    | write k v =>
      simp only [Run.spec_bind, Run.spec_modifyContext]
      have hn : D.Neutral s₁ (s₁.updJob ⟨w, D.job⟩ fun j => { j with context := j.context.countOutput }) :=
        neutral_of_errors JobContext.countOutput fun c => c.countOutput_errors
      -- the output is counted in the executor's phase, which no flow has moved
      have hp₁ : j₁.context.phase = j.context.phase := PhaseData.phase_eq hL₁.2.2 hj hj₁ (hinit k v hmem)
      have hD₁ : M.DataFlowed J s₁ j.context.phase.output
          (s₁.updJob ⟨w, D.job⟩ fun j => { j with context := j.context.countOutput }) :=
        dataFlowed_context hw₁ hL₁.2.1 hj₁ JobContext.countOutput
          (fun c => by unfold JobContext.countOutput; split <;> rfl)
          (fun c => by unfold JobContext.countOutput; split <;> rfl)
          (by rw [JobContext.ledger_countOutput, hp₁])
      refine (ledger_emit hl (hw₁.of_fixedOf hn.fixed) (hn.consistent h₁.1) hD₁.2.1 (he₁.of_keeps (hn.keeps 0))
        (hn.quiet.notVoter hnv₁) [.text k, .text v]).mono fun r s₂ h₂ => ?_
      obtain ⟨hp₂, hok⟩ := h₂
      have h₁' := h₁.trans (DataPost.of_neutral h₁.1 hn ())
      rcases r with f | _
      · exact h₁'.trans hp₂
      · exact hnext (h₁'.trans hp₂) (hD₁.trans (hok _ rfl) hp₂.2.1.fixed) (hp₂.2.1.fixed.trans hn.fixed) rfl rfl
    | emit values =>
      simp only [Run.spec_bind]
      refine (ledger_emit hl hw₁ h₁.1 hL₁.2.1 he₁ hnv₁ values).mono fun r s₂ h₂ => ?_
      obtain ⟨hp₂, hok⟩ := h₂
      rcases r with f | _
      · exact h₁.trans hp₂
      · exact hnext (h₁.trans hp₂) (hok _ rfl) hp₂.2.1.fixed rfl rfl
    | save dir lines =>
      -- the disk alone changes
      simp only [Run.spec_bind, Run.spec_updateDisk]
      have hdisk : ∀ d, D.DataPost (D.topology.depth U) s (.ok ()) { s₁ with disk := d } ∧
          M.DataFlowed J s (((pre ++ [Effect.save dir lines]).map (M.effectValue J e j.context.phase)).sum)
            { s₁ with disk := d } ∧ ∀ eff' ∈ pre ++ [Effect.save dir lines], eff'.stops = false := fun d => by
        have hn : D.Neutral s₁ { s₁ with disk := d } := neutral_of_workers rfl rfl
        exact hnext (h₁.trans (DataPost.of_neutral h₁.1 hn ())) (dataFlowed_of_job? hL₁.2.1 fun _ => rfl)
          hn.fixed rfl rfl
      split
      · split
        · exact hdisk _
        · obtain ⟨hc₂, hk₂, hq₂, -⟩ := (hdisk ‹_›).1
          exact ⟨hc₂, hk₂, hq₂, by simp [Clean, IoError.toFault, Fault.code]⟩
      · exact ⟨h₁.1, h₁.2.1, h₁.2.2.1, by simp [Clean, IoError.toFault, Fault.code]⟩
    | raise f =>
      simp only [Run.spec_bind, Run.spec_throw]
      exact ⟨h₁.1, h₁.2.1, h₁.2.2.1, hr f hmem⟩
    | overflow m => simp only [Run.spec_bind, Run.spec_crash]
  · rintro (f | _) s' h
    · exact ⟨⟨h, fun a ha => by cases ha⟩, fun a ha => by cases ha⟩
    · exact ⟨⟨h.1, fun _ _ => h.2.1⟩, fun _ _ => h.2.2⟩

/-- A map executor's effects on a tuple, on a worker that initialises or maps: the worker moves to
mapping, and the effects add the tuple's map value. -/
theorem ledger_perform_map (hw : D.Wired s) (hc : D.Consistent s) (hs : M.Staged J s) {q : Nat} {j : Job}
    (hj : s.job? ⟨q, D.job⟩ = some j) (hph : j.context.phase = .init ∨ j.context.phase = .mapping)
    {e : Emitter} (he : D.EmitterAt s e q M.map) (hnv : D.NotVoter s e.id) (hfe : e.fields = pairFields)
    (hre : e.routes = [M.reduce]) (t : Tuple) :
    Run.Spec (perform deliver e ((BoltLogic.map J).onTuple t).1) s
      (M.DataLedger J (D.topology.depth M.map) s (M.mapValue J t)) := by
  -- the phase first, then the rest; the value is the map value when nothing stopped
  have key : ∀ rest : List Effect, CleanRaises rest → (∀ p, Effect.setPhase p ∉ rest) →
      ((∀ eff ∈ rest, eff.stops = false) → (rest.map (M.effectValue J e .mapping)).sum = M.mapValue J t) →
      Run.Spec (perform deliver e (.setPhase .mapping :: rest)) s
        (M.DataLedger J (D.topology.depth M.map) s (M.mapValue J t)) := by
    intro rest hr hph' hval
    rw [perform_cons, Run.spec_bind, perform_setPhase, Run.spec_modifyContext, he.place]
    have hn : D.Neutral s (s.updJob ⟨q, D.job⟩ fun j => { j with context := j.context.setPhase .mapping }) :=
      neutral_of_errors _ fun c => c.setPhase_errors _
    have hD₁ := dataFlowed_setPhase_mapping hs hj hph
    have hj₁ : (s.updJob ⟨q, D.job⟩ fun j => { j with context := j.context.setPhase .mapping }).job? ⟨q, D.job⟩ =
        some { j with context := j.context.setPhase .mapping } := by
      rw [World.job?_updJob, if_pos rfl, hj, Option.map_some]
    have hnot : j.context.phase ≠ .idle := by rcases hph with h | h <;> rw [h] <;> decide
    have hmap : (j.context.setPhase .mapping).phase = .mapping := JobContext.setPhase_phase hnot _
    refine (ledger_perform hl (hw.of_fixedOf hn.fixed) (hn.consistent hc) hD₁.2.1 (he.of_keeps (hn.keeps 0))
      (hn.quiet.notVoter hnv) hr hph' hj₁ fun _ _ _ => by rw [hmap]; decide).mono fun r s' h => ?_
    rw [hmap] at h
    obtain ⟨⟨hp, hok⟩, hst⟩ := h
    refine ⟨(DataPost.of_neutral hc hn ()).trans hp, fun a ha => ?_⟩
    rw [← hval (hst a ha), ← zero_add (List.sum _)]
    exact hD₁.trans (hok a ha) hp.2.1.fixed
  cases hp : t.pair? with
  | none =>
    obtain ⟨f, hot⟩ := BoltLogic.onTuple_map_of_none J hp
    rw [hot]
    exact key _ (fun f' hf' => BoltLogic.cleanRaises_onTuple (.map J) t f' (by rw [hot]; exact List.mem_cons_of_mem _ hf'))
      (by simp) fun hst => absurd (hst (.raise f) (by simp)) (by simp [Effect.stops])
  | some kv =>
    obtain ⟨k, v⟩ := kv
    rw [BoltLogic.onTuple_map_of_pair J hp, List.cons_append, List.cons_append, List.nil_append]
    exact key _ (fun f hf => by simp [Reducer.map_eq_pairs] at hf) (by simp [Reducer.map_eq_pairs])
      fun _ => sum_effectValue_map hfe hre hp

theorem ledger_perform_finish (hw : D.Wired s) (hc : D.Consistent s) (hs : M.Staged J s) {q : Nat} {j : Job}
    (hj : s.job? ⟨q, D.job⟩ = some j) {U : String} {e : Emitter} (he : D.EmitterAt s e q U)
    (hnv : D.NotVoter s e.id) {logic : BoltLogic} (hlog : ∀ job held, logic ≠ .reduce job held) :
    Run.Spec (perform deliver e logic.onFinish.1) s (M.DataLedger J (D.topology.depth U) s 0) := by
  have hnone : ∀ eff ∈ logic.onFinish.1, M.effectValue J e j.context.phase eff = 0 ∧ (∀ p, eff ≠ .setPhase p) ∧
      ∀ k v, eff ≠ .write k v := by
    cases logic with
    | reduce job held => exact absurd rfl (hlog job held)
    | print results dir => cases dir <;> simp [BoltLogic.onFinish, effectValue]
    | _ => simp [BoltLogic.onFinish]
  have h0 : (logic.onFinish.1.map (M.effectValue J e j.context.phase)).sum = 0 :=
    List.sum_eq_zero fun x hx => by
      obtain ⟨eff, heff, rfl⟩ := List.mem_map.mp hx
      exact (hnone eff heff).1
  refine (ledger_perform hl hw hc hs he hnv logic.cleanRaises_onFinish (fun p hp => (hnone _ hp).2.1 p rfl) hj
    fun k v hk => absurd rfl ((hnone _ hk).2.2 k v)).mono fun r s' h => ?_
  rw [h0] at h
  exact h.1

/-- A reduce executor's finishing effects, once every map executor has finished: its worker moves to
reducing, and the effects add what reducing its buffer amounts to. -/
theorem ledger_perform_reduce (hw : D.Wired s) (hc : D.Consistent s) (hs : M.Staged J s) (hm : M.MapsClosed s)
    {q : Nat} {j : Job} (hj : s.job? ⟨q, D.job⟩ = some j) (hph : j.context.phase ≠ .idle) {e : Emitter}
    (he : D.EmitterAt s e q M.reduce) (hnv : D.NotVoter s e.id) (hfe : e.fields = pairFields)
    (hre : e.routes = [M.print]) (job : Reducer) {held : List (String × List String)} (ho : Keyed.Ordered held)
    (hne : ∀ x ∈ held, x.2 ≠ []) :
    Run.Spec (perform deliver e (BoltLogic.reduce job held).onFinish.1) s fun r s' =>
      D.DataPost (D.topology.depth M.reduce) s r s' ∧ ∀ a, r = .ok a →
        M.ledger J s' = M.ledger J s + M.reduced (pairsIn held) ∧ M.Staged J s' ∧ D.PhaseFwd s s' := by
  rw [BoltLogic.onFinish_reduce, perform_cons, Run.spec_bind, perform_setPhase, Run.spec_modifyContext, he.place]
  have hn : D.Neutral s (s.updJob ⟨q, D.job⟩ fun j => { j with context := j.context.setPhase .reducing }) :=
    neutral_of_errors _ fun c => c.setPhase_errors _
  obtain ⟨hL₁, hs₁, hp₁⟩ := setPhase_reducing hs hj hph hm
  have hj₁ : (s.updJob ⟨q, D.job⟩ fun j => { j with context := j.context.setPhase .reducing }).job? ⟨q, D.job⟩ =
      some { j with context := j.context.setPhase .reducing } := by
    rw [World.job?_updJob, if_pos rfl, hj, Option.map_some]
  have hred : (j.context.setPhase .reducing).phase = .reducing := JobContext.setPhase_phase hph _
  -- the reductions change no phase, and count their outputs while reducing
  have hnp : ∀ p, Effect.setPhase p ∉ held.flatMap fun x => .countReduceInput :: job.reduce x.1 x.2 := by
    intro p hp
    obtain ⟨x, -, hx⟩ := List.mem_flatMap.mp hp
    rcases List.mem_cons.mp hx with h | h
    · cases h
    · unfold Reducer.reduce at h
      split at h <;> simp at h
  have hr : CleanRaises (held.flatMap fun x => .countReduceInput :: job.reduce x.1 x.2) := fun f hf => by
    have h := (BoltLogic.reduce job held).cleanRaises_onFinish
    rw [BoltLogic.onFinish_reduce] at h
    exact h f (List.mem_cons_of_mem _ hf)
  refine (ledger_perform hl (hw.of_fixedOf hn.fixed) (hn.consistent hc) hs₁ (he.of_keeps (hn.keeps 0))
    (hn.quiet.notVoter hnv) hr hnp hj₁ fun _ _ _ => by rw [hred]; decide).mono fun r s' h => ?_
  rw [hred] at h
  obtain ⟨⟨hp, hok⟩, hst⟩ := h
  refine ⟨(DataPost.of_neutral hc hn ()).trans hp, fun a ha => ?_⟩
  obtain ⟨hL, hs', hpd⟩ := hok a ha
  exact ⟨by rw [hL, hL₁, sum_effectValue_reduce hfe hre job ho hne (hst a ha)], hs',
    PhaseFwd.trans_fixed hp₁ hpd.fwd hp.2.1.fixed⟩

/-- The ledger through an end of stream a bolt executor may take: a vote that does not complete the
tally adds nothing, and the one that does finishes the executor, which settles its buffer if it
reduces. -/
theorem flowed_boltExecute_eos (hw : D.Wired s) (hc : D.Consistent s) (hs : M.Staged J s) {q i : Nat}
    {b : BoltExecutor} (hb : s.boltAt D.job q i = some b) {t : Tuple} (ht : t.endOfStream = true)
    (hadm : D.EosAdm s q b.node t.source) :
    Run.Spec (boltExecute deliver ⟨q, D.job⟩ i t) s fun r s' => ∀ a, r = .ok a → M.Flowed J s 0 s' := by
  rw [boltExecute, Run.spec_bind, Run.spec_bolt]
  intro j hj b' hb'
  obtain rfl : b = b' := by
    rw [World.boltAt_of_job? hj, hb', Option.some.injEq] at hb
    exact hb.symm
  obtain ⟨⟨d, hl', hcl⟩, -⟩ := id hadm
  simp only [ht, if_true]
  cases hf : b.finalized
  case true => exact fun _ _ => Flowed.refl hs
  case false =>
  have hreached : b.tally.reached = false := (hc.tally q i b hb).2.1 ▸ hf
  have hfit : M.LogicFits J b := (hs.jobs q j hj).fits b (List.mem_of_getElem? hb')
  simp only [Bool.false_eq_true, if_false]
  rcases hv : b.tally.vote t.source with ⟨won, tally⟩
  simp only [Run.spec_bind, Run.spec_modifyBolt]
  cases won
  case false =>
    -- a vote that does not complete the tally changes no postings and finishes nothing
    simp only [Bool.not_false, if_true]
    exact fun _ _ => (dataFlowed_modifyBolt (g := fun b' => { b' with tally }) hw hs hb (fun _ => rfl)
      (fun _ => rfl) (fun _ => rfl) (hfit.of_logic rfl rfl) (by rw [add_zero]; rfl)).flowed_of
      fun _ _ _ hx _ hfx _ hy =>
        (finalized_modifyBolt (g := fun b' => { b' with tally }) hb (fun _ => rfl) hx hy).trans hfx
  case true =>
  simp only [Bool.not_true, Bool.false_eq_true, if_false]
  rcases hof : b.logic.onFinish with ⟨effects, logic⟩
  simp only [Run.spec_bind, Run.spec_modifyBolt]
  rw [World.updJob_modifyBolt_modifyBolt]
  -- the vote completes the tally and the executor finishes, in one change of it
  set g : BoltExecutor → BoltExecutor :=
    (fun b' => { b' with logic, finalized := true }) ∘ fun b' => { b' with tally } with hg
  set s₁ := s.updJob ⟨q, D.job⟩ fun j => { j with bolts := j.bolts.modify i g } with hs₁
  have hse : b.sentEos = false := by
    cases h : b.sentEos
    · rfl
    · rw [(hc.boltSent q i b hb h).1] at hf
      cases hf
  have hc₁ : D.Consistent s₁ :=
    hc.vote hw hb hf hadm (BoltExecutor.eos_eq_iff.mpr ⟨rfl, rfl, by rw [hv]; rfl, by rw [hv]; rfl, rfl, rfl⟩)
  have hk₁ : D.Keeps (D.topology.depth b.node) s s₁ := by
    refine Keeps.modifyBolt (Keeps.refl _ _) hb rfl
      (BoltExecutor.fixed_eq_iff.mpr ⟨rfl, rfl, rfl, by rw [← Tally.vote_expected b.tally t.source, hv]; rfl⟩)
      (by have h := Tally.prefix_vote b.tally t.source; rwa [hv] at h) fun b₀ hb₀ hf₀ => ?_
    rw [hb, Option.some.injEq] at hb₀
    rw [← hb₀, hf] at hf₀
    cases hf₀
  have hb₁ : s₁.boltAt D.job q i = some (g b) := by rw [hs₁, boltAt_modifyBolt_of hb, if_pos ⟨rfl, rfl⟩]
  have hagree : ∀ w i', ¬(w = q ∧ i' = i) → s₁.boltAt D.job w i' = s.boltAt D.job w i' := fun w i' h => by
    rw [hs₁, boltAt_modifyBolt_of hb, if_neg h]
  have hw₁ := hw.of_fixedOf hk₁.fixed
  have hnv₁ : D.NotVoter s₁ b.id := NotVoter.after_vote hw hc hb hf hl' hcl fun x hx => by
    have hmem := @Tally.mem_vote _ hreached t.source x
    rw [hv] at hmem
    exact hmem.mp hx
  have he : D.EmitterAt s₁ ⟨⟨q, D.job⟩, b.id, b.logic.fields, b.routes⟩ q b.node :=
    ⟨rfl, mem_idsAt.mpr (.inl ⟨i, _, hb₁, rfl, rfl⟩), fun c hc' => by rwa [(hw.bolt hb).choose_spec.2.1] at hc'⟩
  have hj₁ : s₁.job? ⟨q, D.job⟩ = some { j with bolts := j.bolts.modify i g } := by
    rw [hs₁, World.job?_updJob, if_pos rfl, hj, Option.map_some]
  have hL₁ : M.ledger J s₁ + b.ledger q i = M.ledger J s + (g b).ledger q i := ledger_modifyBolt hw hb g
  have hidle := (hs.phase_of_unfinished hc hj hb hf).1
  -- its finishing effects settle its buffer if it reduces, and add nothing otherwise
  have hperf : Run.Spec (perform deliver ⟨⟨q, D.job⟩, b.id, b.logic.fields, b.routes⟩ effects) s₁ fun r s₂ =>
      D.DataPost (D.topology.depth b.node) s₁ r s₂ ∧ ∀ a, r = .ok a →
        M.Settles (M.ledger J s) 0 (if b.node = M.reduce then [(q, i)] else []) (M.ledger J s₂) ∧
          M.Staged J s₂ ∧ D.PhaseFwd s₁ s₂ := by
    by_cases hn : b.node = M.reduce
    · obtain ⟨job, held, hlog, ho, hne⟩ := hfit.2.1 hn
      rw [hlog] at hof
      have hlogic : (g b).logic = .reduce job [] := (congrArg Prod.snd hof).symm
      have h0 : (g b).ledger q i = 0 := by
        rw [BoltExecutor.ledger_of_logic q i (b := { b with logic := .reduce job [] }) hlogic]
        rfl
      have hs₁' : M.Staged J s₁ := hs.modifyBolt hb (fun _ => rfl) (fun _ => rfl) (fun _ => rfl)
        ((logicFits_reduce hn job List.Pairwise.nil (by simp)).of_logic rfl hlogic)
      -- every map executor has voted at it, so has finished, and nothing is held back for it
      have hm : M.MapsClosed s₁ := mapsClosed_of_reduce hw₁ hc₁ hb₁ hn rfl
      have hmap : ∀ q', D.Drained s M.map q' := fun q' =>
        (hm.drained hw₁ hc₁ q').of_routerAt fun w => (World.routerAt_modifyBolts w _).symm
      have hred : D.Drained s M.reduce q := by
        have h := hc₁.drained hw₁ hb₁ rfl
        rw [show (g b).node = M.reduce from hn] at h
        exact h.of_routerAt fun w => (World.routerAt_modifyBolts w _).symm
      have hre : b.routes = [M.print] := by
        rw [(hw.bolt hb).choose_spec.2.1, hn]
        exact subscribers_reduce hw.boltKeys hw.valid
      have heff : (BoltLogic.reduce job held).onFinish.1 = effects := by rw [hof]
      rw [← heff]
      refine (ledger_perform_reduce hl hw₁ hc₁ hs₁' hm hj₁ hidle (hn ▸ he) hnv₁ rfl hre job ho hne).mono
        fun r s₂ h => ⟨hn ▸ h.1, fun a ha => ?_⟩
      obtain ⟨hL₂, hs₂, hp₂⟩ := h.2 a ha
      refine ⟨?_, hs₂, hp₂⟩
      rw [if_pos hn]
      refine settles_finish_reduce hw hb hlog hmap hred ?_
      rw [hL₂, add_right_comm, hL₁, h0, add_zero]
    · obtain ⟨hnot, hkeep⟩ := hfit.onFinish_of_not_reduce hl' hn
      have hlogic : (g b).logic = b.logic := (congrArg Prod.snd hof).symm.trans hkeep
      have hs₁' : M.Staged J s₁ := hs.modifyBolt hb (fun _ => rfl) (fun _ => rfl) (fun _ => rfl)
        (hfit.of_logic rfl hlogic)
      have heff : b.logic.onFinish.1 = effects := by rw [hof]
      rw [← heff]
      refine (ledger_perform_finish hl hw₁ hc₁ hs₁' hj₁ he hnv₁ hnot).mono fun r s₂ h => ⟨h.1, fun a ha => ?_⟩
      obtain ⟨hL₂, hs₂, hp₂⟩ := h.2 a ha
      refine ⟨?_, hs₂, hp₂.fwd⟩
      rw [if_neg hn, settles_nil, hL₂, add_zero, add_zero]
      rw [BoltExecutor.ledger_of_logic q i hlogic] at hL₁
      exact add_right_cancel hL₁
  refine hperf.mono fun r s₂ h₂ => ?_
  obtain ⟨⟨hc₂, hk₂, hq₂, -⟩, hok₂⟩ := h₂
  rcases r with f | _
  · exact fun a ha => by cases ha
  obtain ⟨hset, hs₂, hp₂⟩ := hok₂ _ rfl
  have hb₂ := hk₂.boltAt_finalized hb₁ rfl
  -- so far the executor finished, with its buffer settled if it reduces
  have hF₂ : M.Flowed J s 0 s₂ :=
    ⟨⟨_, finishes_of_only hb hf hagree hq₂ hb₂ rfl, hset⟩, hs₂,
      PhaseFwd.trans_fixed (PhaseData.updJob (q := q) (f := fun j => { j with bolts := j.bolts.modify i g })
        fun _ => rfl).fwd hp₂ hk₂.fixed⟩
  have hw₂ := hw₁.of_fixedOf hk₂.fixed
  -- then it forwards its end of stream
  refine (ledger_emitEos hl hw₂ hc₂ hs₂ (he.of_keeps hk₂) (.inl ⟨q, i, _, hb₂, rfl, rfl, rfl⟩)).mono
    fun r s₃ h₃ => ?_
  obtain ⟨⟨-, hk₃, -, -⟩, hF₃⟩ := h₃
  rcases r with f | _
  · exact fun a ha => by cases ha
  simp only [Run.spec_modifyContext, Run.spec_pure]
  intro _ _
  have h₀₃ : M.Flowed J s 0 s₃ := by
    simpa using hF₂.trans (hF₃ _ rfl) ((hk₁.trans hk₂).mono (Nat.zero_le _)) (hk₃.mono (Nat.zero_le _))
      fun _ => map_zero _
  exact h₀₃.finishBolt (hw₂.of_fixedOf hk₃.fixed) (hk₃.boltAt_finalized hb₂ rfl) hse

/-- An end of stream a bolt executor may take, for a delivery that also keeps the protocol: what it
leaves of the protocol, and the ledger with what it finishes settled. -/
theorem ledger_boltExecute_eos (hd : D.DeliverOk deliver) (hw : D.Wired s) (hc : D.Consistent s)
    (hs : M.Staged J s) {q i : Nat} {b : BoltExecutor} (hb : s.boltAt D.job q i = some b) {t : Tuple}
    (ht : t.endOfStream = true) (hadm : D.EosAdm s q b.node t.source) :
    Run.Spec (boltExecute deliver ⟨q, D.job⟩ i t) s (M.EosLedger J (D.topology.depth b.node) s
      fun s' => ∃ b', s'.boltAt D.job q i = some b' ∧ t.source ∈ b'.tally.voters) :=
  (spec_boltExecute_eos hd hw hc hb ht hadm).and (flowed_boltExecute_eos hl hw hc hs hb ht hadm)

/-- A spout executor's step adds the map value of every tuple it emits; when it has nothing more, it
closes and forwards its end of stream, which settles what that finishes. -/
theorem flowed_spoutStep (hw : D.Wired s) (hc : D.Consistent s) (hs : M.Staged J s) (q i : Nat) :
    Run.Spec (spoutStep deliver ⟨q, D.job⟩ i) s fun r s' => ∀ a, r = .ok a →
      M.Flowed J s (((D.stepEmits s q i).map (M.mapValue J)).sum) s' := by
  rw [spoutStep, Run.spec_bind, Run.spec_spout]
  intro j hj sp hsp'
  have hsp : s.spoutAt D.job q i = some sp := by rw [World.spoutAt_of_job? hj]; exact hsp'
  cases hdone : sp.done
  case true =>
    simp only [hdone, if_true]
    have h0 : D.stepEmits s q i = [] := by simp [stepEmits, hsp, hdone]
    exact fun _ _ => by rw [h0]; exact Flowed.refl hs
  case false =>
  have hfr : ∀ sp₀, s.spoutAt D.job q i = some sp₀ → sp₀.done = true → False := fun sp₀ hsp₀ hd₀ => by
    rw [hsp, Option.some.injEq] at hsp₀
    rw [← hsp₀, hdone] at hd₀
    cases hd₀
  have hse : sp.sentEos = false := by
    cases h : sp.sentEos
    · rfl
    · exact (hfr sp hsp (hc.spoutSent q i sp hsp h).1).elim
  simp only [hdone, Bool.false_eq_true, if_false]
  rcases hnext : sp.logic.next with ⟨effects, more, logic⟩
  have hemits : D.stepEmits s q i = Emitter.emitted ⟨⟨q, D.job⟩, sp.id, sp.logic.fields, sp.routes⟩ effects := by
    simp [stepEmits, hsp, hdone, hnext]
  have hshape : ∀ eff ∈ effects, (∃ vs, eff = .emit vs) ∨ ∃ f, eff = .raise f := by
    have h := sp.logic.next_emit_or_raise
    rwa [hnext] at h
  have hr : CleanRaises effects := by
    have h := sp.logic.cleanRaises_next
    rwa [hnext] at h
  have hroutes : sp.routes = [M.map] := by
    obtain ⟨hsd, hro⟩ := hw.spout hsp
    obtain ⟨sd, hsd⟩ := Option.isSome_iff_exists.mp hsd
    rw [hro, M.spouts _ sd hsd]
    exact subscribers_spout hw.boltKeys hw.valid
  simp only [Run.spec_bind, Run.spec_modifySpout]
  -- the component moves on; no posting reads its state
  set s₁ := s.updJob ⟨q, D.job⟩ fun j => { j with spouts := j.spouts.modify i fun sp' => { sp' with logic } }
    with hs₁
  have hn : D.Neutral s s₁ := neutral_modifySpout hsp hdone rfl
  have hD₁ : M.DataFlowed J s 0 s₁ :=
    ⟨by rw [ledger_modifySpout, add_zero], hs.modifySpout fun _ => rfl, PhaseData.updJob fun _ => rfl⟩
  have he : D.EmitterAt s ⟨⟨q, D.job⟩, sp.id, sp.logic.fields, sp.routes⟩ q sp.node :=
    ⟨rfl, mem_idsAt.mpr (.inr ⟨i, sp, hsp, rfl, rfl⟩), fun c hc' => by rwa [(hw.spout hsp).2] at hc'⟩
  have hj₁ : s₁.job? ⟨q, D.job⟩ = some { j with spouts := j.spouts.modify i fun sp' => { sp' with logic } } := by
    rw [hs₁, World.job?_updJob, if_pos rfl, hj, Option.map_some]
  -- its effects only emit and raise
  refine (ledger_perform hl (hw.of_fixedOf hn.fixed) (hn.consistent hc) hD₁.2.1 (he.of_keeps (hn.keeps 0))
    (hn.quiet.notVoter (hc.notVoter_of_spout hw hsp hdone)) hr (fun p hp => ?_) hj₁ (fun k v hk => ?_)).mono
    fun r s₂ h₂ => ?_
  · rcases hshape _ hp with ⟨_, h⟩ | ⟨_, h⟩ <;> cases h
  · rcases hshape _ hk with ⟨_, h⟩ | ⟨_, h⟩ <;> cases h
  obtain ⟨⟨hp₂, hok₂⟩, -⟩ := h₂
  obtain ⟨hc₂, hk₂, hq₂, -⟩ := (DataPost.of_neutral hc hn ()).trans hp₂
  rcases r with f | _
  · exact fun a ha => by cases ha
  -- what it emitted: a flow of data
  have hD₂ : M.DataFlowed J s (((D.stepEmits s q i).map (M.mapValue J)).sum) s₂ := by
    have h := hD₁.trans (hok₂ _ rfl) hp₂.2.1.fixed
    rwa [zero_add, sum_effectValue_emits (e := ⟨⟨q, D.job⟩, sp.id, sp.logic.fields, sp.routes⟩) hroutes _ hshape,
      ← hemits] at h
  cases more
  case true => exact fun _ _ => hD₂.flowed hq₂
  case false =>
  simp only [Bool.false_eq_true, if_false, Run.spec_bind, Run.spec_modifySpout]
  -- nothing more: the executor closes, which adds nothing
  obtain ⟨sp₂, hsp₂, he₂⟩ := hq₂.spoutAt hsp
  obtain ⟨hid, hnode, -, hse₂, -⟩ := SpoutExecutor.eos_eq_iff.mp he₂
  set s₃ := s₂.updJob ⟨q, D.job⟩ fun j => { j with spouts := j.spouts.modify i fun sp' => { sp' with done := true } }
    with hs₃
  have hsp₃ : s₃.spoutAt D.job q i = some { sp₂ with done := true } := by
    rw [hs₃, spoutAt_modifySpout_of hsp₂, if_pos ⟨rfl, rfl⟩]
  have hk₃ : D.Keeps 0 s s₃ :=
    Keeps.modifySpout (hk₂.mono (Nat.zero_le _)) hsp₂ rfl rfl fun sp₀ hsp₀ hd₀ => (hfr sp₀ hsp₀ hd₀).elim
  have hF₃ : M.Flowed J s (((D.stepEmits s q i).map (M.mapValue J)).sum) s₃ := by
    have hD₃ : M.DataFlowed J s₂ 0 s₃ :=
      ⟨by rw [ledger_modifySpout, add_zero], hD₂.2.1.modifySpout fun _ => rfl, PhaseData.updJob fun _ => rfl⟩
    refine (add_zero (((D.stepEmits s q i).map (M.mapValue J)).sum) ▸ hD₂.trans hD₃ (hk₃.fixed.trans hk₂.fixed.symm)).flowed_of
      fun w i' x hx _ hfx y hy => ?_
    rw [World.boltAt_modifySpouts] at hy
    obtain ⟨y', hy', hey⟩ := hq₂.boltAt hx
    rw [hy, Option.some.injEq] at hy'
    rw [hy', (BoltExecutor.eos_eq_iff.mp hey).2.2.2.1, hfx]
  -- then it forwards its end of stream and leaves the pending count
  refine (ledger_emitEos hl (hw.of_fixedOf hk₃.fixed) (hc₂.spoutClose hsp₂) hF₃.2.1 (he.of_keeps hk₃)
    (.inr ⟨q, i, _, hsp₃, hid, hnode, rfl⟩)).mono fun r s₄ h₄ => ?_
  obtain ⟨⟨-, hk₄, -, -⟩, hF₄⟩ := h₄
  rcases r with f | _
  · exact fun a ha => by cases ha
  simp only [Run.spec_modifyContext, Run.spec_pure]
  intro _ _
  obtain ⟨sp₄, hsp₄, hfr₄⟩ := hk₄.spout q i _ hsp₃
  rw [hfr₄ rfl] at hsp₄
  have h₀₄ := hF₃.trans (hF₄ _ rfl) hk₃ (hk₄.mono (Nat.zero_le _)) fun _ => map_zero _
  rw [add_zero] at h₀₄
  exact h₀₄.finishSpout hsp₄ (hse₂.trans hse)

/-- Data a bolt executor may take adds what it amounts to there: a map executor adds the tuple's map
value, a reduce executor holds its pair, and a print executor prints it. -/
theorem ledger_boltExecute_data (hw : D.Wired s) (hc : D.Consistent s) (hs : M.Staged J s) {q i : Nat}
    {b : BoltExecutor} (hb : s.boltAt D.job q i = some b) {t : Tuple} (ht : D.DataAdm s q b.node t) :
    Run.Spec (boltExecute deliver ⟨q, D.job⟩ i t) s
      (M.DataLedger J (D.topology.depth b.node) s (M.execValue J b.node q i t)) := by
  rw [boltExecute, Run.spec_bind, Run.spec_bolt]
  intro j hj b' hb'
  obtain rfl : b = b' := by
    rw [World.boltAt_of_job? hj, hb', Option.some.injEq] at hb
    exact hb.symm
  -- data never reaches a finished executor: its source would have voted there
  have hf : b.finalized = false := by
    obtain ⟨-, ⟨d, hl, hmem⟩, hnv⟩ := ht
    cases h : b.finalized
    · rfl
    · exact absurd ((hw.finalized_iff hc hb hl).mp h _ hmem) (hnv i b hb rfl)
  simp only [ht.1, hf, Bool.false_eq_true, if_false, Run.spec_bind, Run.spec_modifyBolt, Run.spec_pure]
  obtain ⟨-, ⟨d, hd, -⟩, -⟩ := ht
  have hfit : M.LogicFits J b := (hs.jobs q j hj).fits b (List.mem_of_getElem? hb')
  have hroutes : b.routes = D.topology.subscribers b.node := (hw.bolt hb).choose_spec.2.1
  -- the component takes the tuple: its new state is no part of the protocol
  set g : BoltExecutor → BoltExecutor := fun b' => { b' with logic := (b.logic.onTuple t).2 } with hg
  set s₁ := s.updJob ⟨q, D.job⟩ fun j => { j with bolts := j.bolts.modify i g } with hs₁
  have hn : D.Neutral s s₁ := neutral_modifyBolt hb hf rfl
  have he : D.EmitterAt s₁ ⟨⟨q, D.job⟩, b.id, b.logic.fields, b.routes⟩ q b.node :=
    EmitterAt.of_keeps ⟨rfl, mem_idsAt.mpr (.inl ⟨i, b, hb, rfl, rfl⟩), fun c hc' => by rwa [hroutes] at hc'⟩
      (hn.keeps 0)
  have hnv₁ : D.NotVoter s₁ b.id := hn.quiet.notVoter (hc.notVoter_of_bolt hw hb hf)
  have hw₁ := hw.of_fixedOf hn.fixed
  have hc₁ := hn.consistent hc
  have hj₁ : s₁.job? ⟨q, D.job⟩ = some { j with bolts := j.bolts.modify i g } := by
    rw [hs₁, World.job?_updJob, if_pos rfl, hj, Option.map_some]
  -- the new state adds `δ₁` and the effects `δ₂`: what the tuple amounts to, unless they stopped
  have hpost : ∀ {δ₁ δ₂ : Multiset Posting} {P : Prop}, M.DataFlowed J s δ₁ s₁ → ∀ (r : Except Fault Unit) s',
      M.DataLedger J (D.topology.depth b.node) s₁ δ₂ r s' ∧ (∀ a, r = .ok a → P) →
      (P → δ₁ + δ₂ = M.execValue J b.node q i t) →
      M.DataLedger J (D.topology.depth b.node) s (M.execValue J b.node q i t) (r.map fun _ => true) s' := by
    rintro δ₁ δ₂ P hD r s' ⟨⟨hp, hok⟩, hP⟩ hval
    have hp' := (DataPost.of_neutral hc hn ()).trans hp
    rcases r with f | _
    · exact ⟨hp', fun a ha => by cases ha⟩
    · exact ⟨hp', fun _ _ => by rw [← hval (hP _ rfl)]; exact hD.trans (hok _ rfl) hp.2.1.fixed⟩
  -- a component whose state the tuple leaves as it was adds nothing by it
  have hsame : (b.logic.onTuple t).2 = b.logic → M.DataFlowed J s 0 s₁ := fun h =>
    dataFlowed_modifyBolt (g := g) hw hs hb (fun _ => rfl) (fun _ => rfl) (fun _ => rfl) (hfit.of_logic rfl h)
      (by rw [add_zero]; exact BoltExecutor.ledger_of_logic q i h)
  -- a tuple without both fields stops the component
  have hstop : ∀ f, (b.logic.onTuple t).1 = [.raise f] → (b.logic.onTuple t).2 = b.logic →
      Run.Spec (perform deliver ⟨⟨q, D.job⟩, b.id, b.logic.fields, b.routes⟩ (b.logic.onTuple t).1) s₁
        fun r s' => M.DataLedger J (D.topology.depth b.node) s (M.execValue J b.node q i t) (r.map fun _ => true) s' := by
    intro f h₁ h₂
    have hr : CleanRaises [Effect.raise f] := h₁ ▸ b.logic.cleanRaises_onTuple t
    rw [h₁]
    exact (ledger_perform hl hw₁ hc₁ (hsame h₂).2.1 he hnv₁ hr (by simp) hj₁ (by simp)).mono fun r s' h =>
      hpost (hsame h₂) (P := False) r s'
        ⟨h.1, fun a ha => absurd (h.2 a ha _ List.mem_cons_self) (by simp [Effect.stops])⟩ False.elim
  rcases M.bolts b.node d hd with hnode | hnode | hnode
  · -- a map executor: its worker initialises or maps, since no map executor has finished
    have hlog : b.logic = .map J := hfit.1 hnode
    have hD := hsame (by rw [hlog]; cases hp : t.pair? with
      | none => obtain ⟨f, hot⟩ := BoltLogic.onTuple_map_of_none J hp; rw [hot]
      | some kv => rw [BoltLogic.onTuple_map_of_pair J hp])
    obtain ⟨hidle, hred⟩ := hs.phase_of_unfinished hc hj hb hf
    have hph := Phase.init_or_mapping (hs.jobs q j hj).course (hred hnode) hidle
    have hre : b.routes = [M.reduce] := by rw [hroutes, hnode]; exact subscribers_map hw.boltKeys hw.valid
    have he' := he
    rw [hlog] at he' ⊢
    refine (ledger_perform_map hl hw₁ hc₁ hD.2.1 hj₁ hph (hnode ▸ he') hnv₁ rfl hre t).mono fun r s' h => ?_
    rcases r with f | _ <;> exact hpost hD (P := True) _ s' ⟨by rw [hnode]; exact h, fun _ _ => trivial⟩
      fun _ => by rw [zero_add, execValue, if_pos hnode]
  · -- a reduce executor holds the pair
    obtain ⟨job, held, hlog, ho, hne⟩ := hfit.2.1 hnode
    cases hp : t.pair? with
    | none =>
      obtain ⟨f, hot⟩ := BoltLogic.onTuple_reduce_of_none job held hp
      rw [← hlog] at hot
      exact (hstop f (by rw [hot]) (by rw [hot])).mono fun r s' h => by rcases r with f' | _ <;> exact h
    | some kv =>
      obtain ⟨k, v⟩ := kv
      have hot := BoltLogic.onTuple_reduce_of_pair job held hp
      rw [← hlog] at hot
      have hfit' : M.LogicFits J (g b) := by
        rw [hg]
        simp only [hot]
        exact logicFits_reduce hnode job (pairsIn_hold ho k v).1 fun e he => BoltLogic.ne_nil_of_mem_hold ho hne he
      have hδ : (g b).ledger q i = b.ledger q i + {.held q i k v} := by
        rw [hg]
        simp only [hot]
        exact BoltExecutor.ledger_hold q i hlog ho k v
      have hD : M.DataFlowed J s {.held q i k v} s₁ :=
        dataFlowed_modifyBolt (g := g) hw hs hb (fun _ => rfl) (fun _ => rfl) (fun _ => rfl) hfit' hδ
      rw [hot]
      simp only [perform, List.forIn_nil]
      exact hpost hD (P := True) (.ok ()) s₁
        ⟨⟨⟨hc₁, Keeps.refl _ _, Quiet.refl _, trivial⟩, fun _ _ => DataFlowed.refl hD.2.1⟩, fun _ _ => trivial⟩
        fun _ => by simp [execValue, hnode, M.map_ne_reduce.symm, hp]
  · -- a print executor prints the pair on its worker
    obtain ⟨results, dir, hlog⟩ := hfit.2.2 hnode
    cases hp : t.pair? with
    | none =>
      obtain ⟨f, hot⟩ := BoltLogic.onTuple_print_of_none results dir hp
      rw [← hlog] at hot
      exact (hstop f (by rw [hot]) (by rw [hot])).mono fun r s' h => by rcases r with f' | _ <;> exact h
    | some kv =>
      obtain ⟨k, v⟩ := kv
      have hot := BoltLogic.onTuple_print_of_pair results dir hp
      rw [← hlog] at hot
      have hfit' : M.LogicFits J (g b) := by
        rw [hg]
        simp only [hot]
        exact logicFits_print hnode _ dir
      have hδ : (g b).ledger q i = b.ledger q i + 0 := by
        rw [hg, add_zero]
        simp only [hot]
        exact (BoltExecutor.ledger_of_not_reduce q i (by simp)).trans
          (BoltExecutor.ledger_of_not_reduce q i (by simp [hlog])).symm
      have hD : M.DataFlowed J s 0 s₁ :=
        dataFlowed_modifyBolt (g := g) hw hs hb (fun _ => rfl) (fun _ => rfl) (fun _ => rfl) hfit' hδ
      rw [hot]
      refine (ledger_perform hl hw₁ hc₁ hD.2.1 he hnv₁ (hot ▸ b.logic.cleanRaises_onTuple t) (by simp) hj₁
        (by simp)).mono fun r s' h => ?_
      rcases r with f | _ <;> exact hpost hD (P := True) _ s' ⟨h.1, fun _ _ => trivial⟩
        fun _ => by simp [execValue, effectValue, hnode, M.map_ne_print.symm, M.reduce_ne_print.symm, hp]

end Effects

/-- Delivery within any nesting bound keeps the ledger: by induction on the bound, each level
delivering through the one below it. -/
theorem ledgerOk_within : ∀ n, M.LedgerOk J (deliverWithin n)
  | 0 => fun _ _ _ _ _ _ _ _ _ => ⟨fun _ => Run.spec_crash _, fun _ _ => Run.spec_crash _⟩
  | n + 1 => fun _ _ _ _ _ hw hc hs hb =>
    ⟨fun ht => ledger_boltExecute_data (ledgerOk_within n) hw hc hs hb ht,
      fun he ha => ledger_boltExecute_eos (ledgerOk_within n) (deliverOk_within n) hw hc hs hb he ha⟩

theorem ledgerOk : M.LedgerOk J deliver := fun s q i b t hw hc hs hb => by
  simp only [Run.spec_deliver]
  exact ledgerOk_within s.boltCount s q i b t hw hc hs hb

end MapReduce

end Deployment

end Dataflow
