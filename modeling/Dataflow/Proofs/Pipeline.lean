import Dataflow.Proofs.Settling
import Dataflow.Proofs.Definition
import Mathlib.Algebra.Order.BigOperators.Group.List
import Mathlib.Algebra.BigOperators.GroupWithZero.Action
import Mathlib.Data.Multiset.OrderedMonoid
/-!
Runs of a map/reduce job, end to end. A fault-free run of a deployed job is a sequence of steps of
its spout executors, on any worker and in any order, each ending normally (`Ran`); what it emits is
what the steps' spouts emit. Along a run the ledger grows by what the emitted tuples amount to, and
every reduce executor that finishes settles the pairs held for it (`Ran.flowed`).

Read at a worker whose executors have all finished, the ledger gives the printed results: as many
copies of the totals of every key as the print node has executors. Read at a cluster where every
worker has finished, it gives the counters: one map input per emitted tuple, one map output per
pair the map writes, and one reduce input and one reduce output per key.
-/
namespace Dataflow

/-! ### Totals by key -/

section Totals

variable {m : Multiset (String × String)}

lemma mem_totals {x : String × String} :
    x ∈ totals m ↔ x.1 ∈ m.map Prod.fst ∧ x.2 = toString ((m.filter (·.1 = x.1)).map (valueOf ·.2)).sum := by
  rcases x with ⟨k, v⟩
  simp only [totals, Multiset.mem_map, Multiset.mem_dedup, Prod.mk.injEq]
  constructor
  · rintro ⟨k', hk', rfl, rfl⟩
    exact ⟨hk', rfl⟩
  · rintro ⟨hk, rfl⟩
    exact ⟨k, hk, rfl, rfl⟩

lemma nodup_totals (m : Multiset (String × String)) : (totals m).Nodup :=
  (Multiset.nodup_dedup _).map fun _ _ h => congrArg Prod.fst h

lemma card_totals (m : Multiset (String × String)) :
    Multiset.card (totals m) = Multiset.card (m.map Prod.fst).dedup := by
  simp [totals]

lemma totals_filter_key (g : String → Prop) [DecidablePred g] (m : Multiset (String × String)) :
    totals (m.filter fun p => g p.1) = (totals m).filter fun p => g p.1 := by
  refine (Multiset.Nodup.ext (nodup_totals _) (Multiset.Nodup.filter _ (nodup_totals m))).mpr fun x => ?_
  rw [Multiset.mem_filter, mem_totals, mem_totals]
  -- the pairs of a key that passes the test are all its pairs
  have hkey : g x.1 → ((m.filter fun p => g p.1).filter (·.1 = x.1)) = m.filter (·.1 = x.1) := fun hg => by
    rw [Multiset.filter_filter]
    exact Multiset.filter_congr fun p _ => ⟨fun h => h.1, fun h => ⟨h, h ▸ hg⟩⟩
  constructor
  · rintro ⟨hx, hv⟩
    obtain ⟨p, hp, hpx⟩ := Multiset.mem_map.mp hx
    have hg : g x.1 := hpx ▸ (Multiset.mem_filter.mp hp).2
    exact ⟨⟨Multiset.mem_map.mpr ⟨p, (Multiset.mem_filter.mp hp).1, hpx⟩, by rw [hv, hkey hg]⟩, hg⟩
  · rintro ⟨⟨hx, hv⟩, hg⟩
    obtain ⟨p, hp, hpx⟩ := Multiset.mem_map.mp hx
    exact ⟨Multiset.mem_map.mpr ⟨p, Multiset.mem_filter.mpr ⟨hp, hpx ▸ hg⟩, hpx⟩, by rw [hv, hkey hg]⟩

lemma sum_filter_fibres {α β : Type} [DecidableEq β] {F : List β} (hF : F.Nodup) (f : α → β)
    {s : Multiset α} (h : ∀ x ∈ s, f x ∈ F) : (F.map fun r => s.filter (f · = r)).sum = s := by
  induction s using Multiset.induction with
  | empty => simp
  | cons a s ih =>
    have hone : (F.map fun r => if f a = r then ({a} : Multiset α) else 0).sum = {a} := by
      rw [List.sum_map_eq_nsmul_single (f a) _ fun r hr _ => if_neg (Ne.symm hr), if_pos rfl,
        List.count_eq_one_of_mem hF (h a (Multiset.mem_cons_self a s)), one_nsmul]
    simp only [Multiset.filter_cons, List.sum_map_add, hone,
      ih fun x hx => h x (Multiset.mem_cons_of_mem hx), Multiset.singleton_add]

lemma sum_totals_fibres {β : Type} [DecidableEq β] {F : List β} (hF : F.Nodup) (f : String → β)
    (h : ∀ k ∈ m.map Prod.fst, f k ∈ F) : (F.map fun r => totals (m.filter fun p => f p.1 = r)).sum = totals m := by
  have hfibre : ∀ r, totals (m.filter fun p => f p.1 = r) = (totals m).filter fun p => f p.1 = r :=
    fun r => totals_filter_key (fun k => f k = r) m
  simp only [hfibre]
  exact sum_filter_fibres hF (fun p : String × String => f p.1) fun x hx => h x.1 (mem_totals.mp hx).1

end Totals

/-! ### Components as deployment makes them -/

namespace Registry

variable {c : JobConfig} {l : BoltLogic}

lemma makeBolt_map {J : Reducer} (hJ : jobNamed c "mapClass" = .ok J) (h : makeBolt "map" c = .ok l) :
    l = .map J := by
  simp only [makeBolt, hJ, bind, Except.bind, pure, Except.pure, Except.ok.injEq] at h
  exact h.symm

lemma makeBolt_reduce (h : makeBolt "reduce" c = .ok l) : ∃ job, l = .reduce job [] := by
  simp only [makeBolt, bind, Except.bind, pure, Except.pure] at h
  split at h
  · cases h
  · exact ⟨_, (Except.ok.inj h).symm⟩

lemma makeBolt_held {id : String} {job : Reducer} {held : List (String × List String)}
    (h : makeBolt id c = .ok (.reduce job held)) : held = [] := by
  unfold makeBolt at h
  split at h
  · cases hj : jobNamed c "mapClass" <;> simp [hj, bind, Except.bind, pure, Except.pure] at h
  · cases hj : jobNamed c "reduceClass" <;> simp [hj, bind, Except.bind, pure, Except.pure] at h
    exact h.2
  · simp at h
  · simp at h
  · cases h

lemma makeBolt_print (h : makeBolt "print" c = .ok l) : ∃ dir, l = .print [] dir := by
  simp only [makeBolt] at h
  exact ⟨_, (Except.ok.inj h).symm⟩

end Registry

lemma JobContext.count_ledger (w : Nat) (c : JobContext) :
    (c.ledger w).count .mapInput = c.mapInputs ∧ (c.ledger w).count .mapOutput = c.mapOutputs ∧
      (c.ledger w).count .reduceInput = c.reduceInputs ∧ (c.ledger w).count .reduceOutput = c.reduceOutputs := by
  simp [JobContext.ledger]

namespace Deployment

variable {D : Deployment} {s s₀ s₁ : World}

lemma Consistent.input_done (hw : D.Wired s) (hc : D.Consistent s) {q i : Nat} {b : BoltExecutor}
    (hb : s.boltAt D.job q i = some b) (hf : b.finalized = true) {d : BoltDecl}
    (hd : D.topology.bolts.lookup b.node = some d) {w' i' : Nat} {sp : SpoutExecutor}
    (hsp : s.spoutAt D.job w' i' = some sp) (hn : sp.node = d.input) : sp.done = true := by
  have hx := (hw.finalized_iff hc hb hd).mp hf sp.id (hw.mem_feederIds.mpr (.inr ⟨w', i', sp, hsp, hn, rfl⟩))
  rcases hc.voters q i b hb d hd sp.id hx with ⟨w'', i'', e, he, hex, -⟩ | ⟨w'', i'', sp', hsp', hspx, -, hdone⟩
  · exact (hw.distinct.mixed w'' i'' e w' i' sp he hsp hex).elim
  · obtain ⟨rfl, rfl⟩ := hw.distinct.spouts w' i' sp w'' i'' sp' hsp hsp' hspx.symm
    rw [hsp, Option.some.injEq] at hsp'
    rw [hsp']
    exact hdone

lemma Installed.instantiated_of_job? (hi : D.Installed s) {w : Nat} {j : Job} (hj : s.job? ⟨w, D.job⟩ = some j) :
    ∃ disk name config, Job.instantiate disk name D.job config D.topology = .done j := by
  obtain ⟨disk, name, config, j', hj', -, -, hjob, -⟩ := hi.instantiated w (hi.wired.lt_of_job? hj)
  rw [hj, Option.some.injEq] at hjob
  subst hjob
  exact ⟨disk, name, config, hj'⟩

variable (D) in
/-- The fault-free runs of a deployed job from `s`: steps of its spout executors, on any worker and
in any order, each ending normally, with the tuples their spouts emit. -/
inductive Ran (s : World) : List Tuple → World → Prop
  | refl : Ran s [] s
  | step {R : List Tuple} {s₁ s₂ : World} {w k : Nat} {a : Bool} : Ran s R s₁ →
      (Run.stepSpout w D.job k).run.run s₁ = .ok (.ok a, s₂) → Ran s (R ++ D.stepEmits s₁ w k) s₂

variable (D) in
def clusterCount (s : World) (f : JobContext → Nat) : Nat :=
  ((List.range D.addresses.length).map fun w => ((s.job? ⟨w, D.job⟩).map fun j => f j.context).getD 0).sum

namespace MapReduce

variable {M : D.MapReduce} {J : Reducer}

/-! ### What the ledger's pieces amount to -/

lemma mem_heldFor {r : Nat × Nat} {X : Multiset Posting} {e : Posting} (he : e ∈ Posting.heldFor r X) :
    ∃ k v, e = .held r.1 r.2 k v := by
  have hsome := (Multiset.mem_filter.mp he).2
  cases e with
  | held w i k v =>
    simp only [Posting.pairFor] at hsome
    split at hsome
    · rename_i hr
      rw [← hr]
      exact ⟨k, v, rfl⟩
    · cases hsome
  | _ => cases hsome

lemma resultsAt_heldFor (q : Nat) (r : Nat × Nat) (X : Multiset Posting) :
    Posting.resultsAt q (Posting.heldFor r X) = 0 :=
  resultsAt_eq_zero fun e he => by
    obtain ⟨k, v, rfl⟩ := mem_heldFor he
    rfl

lemma count_heldFor {a : Posting} (ha : ∀ w i k v, a ≠ .held w i k v) (r : Nat × Nat) (X : Multiset Posting) :
    (Posting.heldFor r X).count a = 0 :=
  Multiset.count_eq_zero.mpr fun he => by
    obtain ⟨k, v, rfl⟩ := mem_heldFor he
    exact ha _ _ k v rfl

lemma pairsFor_mapValue (r : Nat × Nat) (t : Tuple) :
    Posting.pairsFor r (M.mapValue J t) =
      (J.pairsOf t : Multiset (String × String)).filter fun p => M.reducerOf p.1 = r := by
  have hin : Posting.pairsFor r {Posting.mapInput} = 0 := by simp [Posting.pairFor]
  rw [mapValue, map_add, hin, zero_add, map_list_sum, List.map_map]
  induction J.pairsOf t with
  | nil => rfl
  | cons p l ih =>
    rw [List.map_cons, List.sum_cons, ih, ← Multiset.cons_coe, Multiset.filter_cons]
    by_cases h : M.reducerOf p.1 = r <;> simp [Posting.pairFor, holding, h]

lemma pairsFor_mapValues (r : Nat × Nat) (R : List Tuple) :
    Posting.pairsFor r ((R.map (M.mapValue J)).sum) =
      (R.flatMap J.pairsOf : Multiset (String × String)).filter fun p => M.reducerOf p.1 = r := by
  induction R with
  | nil => simp
  | cons t R ih => rw [List.map_cons, List.sum_cons, map_add, ih, pairsFor_mapValue, List.flatMap_cons,
      ← Multiset.coe_add, Multiset.filter_add]

lemma count_mapValue {a : Posting} (ha : ∀ w i k v, a ≠ .held w i k v) (t : Tuple) :
    (M.mapValue J t).count a =
      Multiset.count a {.mapInput} + (J.pairsOf t).length * Multiset.count a {.mapOutput} := by
  rw [mapValue, Multiset.count_add, ← Multiset.coe_countAddMonoidHom, map_list_sum, List.map_map]
  have hone : ∀ p, (Multiset.countAddMonoidHom a ∘ fun p => {.mapOutput} + {M.holding p}) p =
      Multiset.count a {.mapOutput} := fun p => by
    have hheld : Multiset.count a {M.holding p} = 0 :=
      Multiset.count_eq_zero.mpr fun h => ha _ _ _ _ (Multiset.mem_singleton.mp h)
    rw [Function.comp_apply, Multiset.coe_countAddMonoidHom, Multiset.count_add, hheld, add_zero]
  rw [List.map_congr_left fun p _ => hone p, List.map_const', List.sum_replicate, Nat.nsmul_eq_mul,
    Multiset.coe_countAddMonoidHom]

lemma count_mapValues {a : Posting} (ha : ∀ w i k v, a ≠ .held w i k v) (R : List Tuple) :
    ((R.map (M.mapValue J)).sum).count a =
      R.length * Multiset.count a {.mapInput} + (R.flatMap J.pairsOf).length * Multiset.count a {.mapOutput} := by
  induction R with
  | nil => simp
  | cons t R ih =>
    rw [List.map_cons, List.sum_cons, Multiset.count_add, ih, count_mapValue ha, List.flatMap_cons,
      List.length_append, List.length_cons, Nat.add_one_mul, Nat.add_mul]
    abel

lemma count_printed {a : Posting} (ha : ∀ w k v, a ≠ .result w k v) (k v : String) :
    (M.printed k v).count a = 0 := by
  rw [printed, ← Multiset.coe_countAddMonoidHom, map_list_sum, List.map_map]
  refine List.sum_eq_zero fun x hx => ?_
  obtain ⟨q, -, rfl⟩ := List.mem_map.mp hx
  simp [ha q k v]

lemma count_reduced {a : Posting} (ha : ∀ w k v, a ≠ .result w k v) (m : Multiset (String × String)) :
    (M.reduced m).count a = Multiset.card (totals m) * Multiset.count a {.reduceInput, .reduceOutput} := by
  rw [reduced, ← Multiset.coe_countAddMonoidHom, map_multiset_sum, Multiset.map_map]
  have hone : ∀ o : String × String, (Multiset.countAddMonoidHom a ∘
      fun o => {.reduceInput} + {.reduceOutput} + M.printed o.1 o.2) o = Multiset.count a {.reduceInput, .reduceOutput} :=
    fun o => by
      rw [Function.comp_apply, Multiset.coe_countAddMonoidHom, Multiset.count_add, count_printed ha, add_zero,
        Multiset.singleton_add, Multiset.insert_eq_cons]
  rw [Multiset.map_congr rfl fun o _ => hone o, Multiset.map_const', Multiset.sum_replicate, Nat.nsmul_eq_mul,
    Multiset.coe_countAddMonoidHom]

lemma resultsAt_printed (q : Nat) (k v : String) :
    Posting.resultsAt q (M.printed k v) =
      if q < D.addresses.length then M.printDecl.parallelism • {(k, v)} else 0 := by
  rw [printed, map_list_sum, List.map_map,
    ← sum_range_ite D.addresses.length q fun _ => M.printDecl.parallelism • {(k, v)}]
  refine congrArg List.sum (List.map_congr_left fun w _ => ?_)
  by_cases hw : w = q <;> simp [map_nsmul, Posting.resultAt, hw]

lemma resultsAt_reduced (q : Nat) (m : Multiset (String × String)) :
    Posting.resultsAt q (M.reduced m) =
      if q < D.addresses.length then M.printDecl.parallelism • totals m else 0 := by
  rw [reduced, map_multiset_sum, Multiset.map_map]
  have hone : ∀ o : String × String, (Posting.resultsAt q ∘
      fun o => {.reduceInput} + {.reduceOutput} + M.printed o.1 o.2) o =
        if q < D.addresses.length then M.printDecl.parallelism • {o} else 0 :=
    fun o => by simp [resultsAt_printed, Posting.resultAt]
  rw [Multiset.map_congr rfl fun o _ => hone o]
  split
  · conv_rhs => rw [← Multiset.sum_map_singleton (totals m), Multiset.smul_sum, Multiset.map_map]
    rfl
  · simp

section Settled

variable {X Y δ : Multiset Posting} {F : List (Nat × Nat)}

lemma Settles.map_eq {β : Type} [AddCommMonoid β] (h : M.Settles X δ F Y) (φ : Multiset Posting →+ β)
    (hφ : ∀ r Z, φ (Posting.heldFor r Z) = 0) :
    φ Y = φ (X + δ) + (F.map fun r => φ (M.reduced (Posting.pairsFor r (X + δ)))).sum := by
  have hmap := congrArg φ h
  have hheld : (F.map fun r => φ (Posting.heldFor r (X + δ))).sum = 0 :=
    List.sum_eq_zero fun x hx => by
      obtain ⟨r, -, rfl⟩ := List.mem_map.mp hx
      exact hφ r _
  rwa [map_add, map_list_sum, List.map_map, Function.comp_def, hheld, add_zero, map_add,
    map_list_sum (M := Multiset Posting), List.map_map, Function.comp_def] at hmap

lemma Settles.pairsFor_le (h : M.Settles X δ F Y) (r : Nat × Nat) :
    Posting.pairsFor r Y ≤ Posting.pairsFor r (X + δ) := by
  have hp := congrArg (Posting.pairsFor r) h
  rw [map_add, map_add (Posting.pairsFor r) (X + δ), pairsFor_sum_reduced, add_zero] at hp
  exact hp ▸ le_self_add

end Settled

lemma pairsIn_le_pairsFor (hw : D.Wired s) {w i : Nat} {b : BoltExecutor} (hb : s.boltAt D.job w i = some b)
    {job : Reducer} {held : List (String × List String)} (hlog : b.logic = .reduce job held) :
    (pairsIn held : Multiset (String × String)) ≤ Posting.pairsFor (w, i) (M.ledger J s) := by
  obtain ⟨j, hj, hbj, -⟩ := hw.of_boltAt hb
  obtain ⟨hil, hbi⟩ := List.getElem?_eq_some_iff.mp hbj
  rw [map_ledger]
  refine le_trans ?_ (List.le_sum_of_mem (List.mem_map.mpr ⟨w, List.mem_range.mpr (hw.lt_of_job? hj), rfl⟩))
  rw [hj, Option.map_some, Option.getD_some]
  refine le_add_right (le_add_left (le_trans ?_ (List.le_sum_of_mem (List.mem_mapIdx.mpr ⟨i, hil, rfl⟩))))
  rw [hbi, pairsFor_boltLedger hlog]

/-! ### A freshly deployed job -/

section Installed

variable (hi : D.Installed s)
include hi

/-- Right after deployment the job is staged: its bolt executors run the components their nodes
name, the map with the reducer the configuration names, and nothing has started. -/
theorem staged_of_installed
    (hJ : ∀ w j, s.job? ⟨w, D.job⟩ = some j → Registry.jobNamed j.context.config "mapClass" = .ok J) :
    M.Staged J s := by
  have hinit : ∀ w j, s.job? ⟨w, D.job⟩ = some j → j.context.phase = .init := fun w j hj => by
    obtain ⟨disk, name, config, hinst⟩ := hi.instantiated_of_job? hj
    obtain ⟨n, hn⟩ := Job.context_eq_of_instantiate hinst
    rw [hn]
    rfl
  refine ⟨fun w j hj => ?_, fun w j hj hr => absurd (hinit w j hj ▸ hr) (by decide)⟩
  obtain ⟨disk, name, config, hinst⟩ := hi.instantiated_of_job? hj
  obtain ⟨n, hn⟩ := Job.context_eq_of_instantiate hinst
  obtain ⟨addresses, position, batch, -, -, -, -, hI⟩ := Job.Instance.of_instantiate hinst
  have hconfig : j.context.config = config := by rw [hn]; rfl
  refine ⟨hI.boltNodes, fun b hb => ?_, ?_, by rw [hinit w j hj]; decide,
    fun h => absurd (hinit w j hj ▸ h) (by decide)⟩
  · -- each executor runs the component its node's declaration names
    obtain ⟨d, hd, hl⟩ := Job.logic_of_instantiate hinst b hb
    have hd' := lookup_eq_some_of_mem hi.boltKeys hd
    refine ⟨fun hn => ?_, fun hn => ?_, fun hn => ?_⟩
    · rw [hn, M.map_lookup, Option.some.injEq] at hd'
      rw [← hd', M.map_component] at hl
      exact Registry.makeBolt_map (hconfig ▸ hJ w j hj) hl
    · rw [hn, M.reduce_lookup, Option.some.injEq] at hd'
      rw [← hd', M.reduce_component] at hl
      obtain ⟨job, hjob⟩ := Registry.makeBolt_reduce hl
      exact ⟨job, [], hjob, List.Pairwise.nil, fun e he => absurd he (List.not_mem_nil)⟩
    · rw [hn, M.print_lookup, Option.some.injEq] at hd'
      rw [← hd', M.print_component] at hl
      obtain ⟨dir, hdir⟩ := Registry.makeBolt_print hl
      exact ⟨[], dir, hdir⟩
  · -- every executor is pending and none has forwarded its end of stream
    have hsp : (j.spouts.map (·.sentEos)).count false = j.spouts.length := by
      rw [List.count_eq_length.mpr fun x hx => ?_, List.length_map]
      obtain ⟨sp, hsp, rfl⟩ := List.mem_map.mp hx
      exact (hI.spout sp hsp).2.1.symm
    have hbo : (j.bolts.map (·.sentEos)).count false = j.bolts.length := by
      rw [List.count_eq_length.mpr fun x hx => ?_, List.length_map]
      obtain ⟨b, hb, rfl⟩ := List.mem_map.mp hx
      obtain ⟨-, -, -, -, hse, -⟩ := hI.bolt b hb
      exact hse.symm
    rw [(Job.pending_of_instantiate hinst).1, Job.unsent, hsp, hbo]

theorem ledger_of_installed : M.ledger J s = 0 := by
  refine List.sum_eq_zero fun x hx => ?_
  obtain ⟨w, -, rfl⟩ := List.mem_map.mp hx
  cases hj : s.job? ⟨w, D.job⟩ with
  | none => rfl
  | some j =>
    obtain ⟨disk, name, config, hinst⟩ := hi.instantiated_of_job? hj
    obtain ⟨n, hn⟩ := Job.context_eq_of_instantiate hinst
    have hctx : j.context.ledger w = 0 := by simp [JobContext.ledger, hn, JobContext.expect]
    have hbolts : (j.bolts.mapIdx (BoltExecutor.ledger w)).sum = 0 :=
      List.sum_eq_zero fun y hy => by
        obtain ⟨i, hil, rfl⟩ := List.mem_mapIdx.mp hy
        obtain ⟨d, -, hl⟩ := Job.logic_of_instantiate hinst _ (List.getElem_mem hil)
        unfold BoltExecutor.ledger
        split
        · rename_i job held hlog
          rw [hlog] at hl
          rw [Registry.makeBolt_held hl]
          rfl
        · rfl
    have hrouters := map_routers_eq_zero (M := M) (J := J) (AddMonoidHom.id _)
      ((hi.wired.shaped_of_job? hj).routerKeys ▸ hi.wired.boltKeys) (w := w)
      fun c r hr k S hS x hx => by
        rw [hi.held_nil (by rw [World.routerAt_of_job? hj]; exact hr) hS] at hx
        cases hx
    simp only [Option.map_some, Option.getD_some, jobLedger, hctx, hbolts, zero_add]
    exact hrouters

end Installed

/-! ### Steps and runs -/

lemma stepEmits_eq_nil (hw : D.Wired s) (hc : D.Consistent s) (hm : M.MapsClosed s) (q i : Nat) :
    D.stepEmits s q i = [] := by
  unfold stepEmits
  cases hsp : s.spoutAt D.job q i with
  | none => rfl
  | some sp =>
    obtain ⟨i', e, he, hen⟩ := hw.exists_boltAt (hw.lt_of_spoutAt hsp) M.map_lookup
    obtain ⟨sd, hsd⟩ := Option.isSome_iff_exists.mp (hw.spout hsp).1
    have hdone := hc.input_done hw he (hm q i' e he hen) (by rw [hen]; exact M.map_lookup) hsp
      ((M.spouts _ _ hsd).trans M.map_input.symm)
    simp [hdone]

theorem flowed_stepSpout (hw : D.Wired s) (hc : D.Consistent s) (hs : M.Staged J s) (w k : Nat) :
    Run.Spec (Run.stepSpout w D.job k) s fun r s' => ∀ a, r = .ok a →
      M.Flowed J s (((D.stepEmits s w k).map (M.mapValue J)).sum) s' := by
  rw [Run.stepSpout, Run.jobOf]
  simp only [Run.spec_bind, Run.spec_worker]
  intro wk _
  cases hj : wk.job D.job with
  | error f => exact fun a ha => by cases ha
  | ok j =>
    simp only [Run.spec_pure]
    split
    · exact flowed_spoutStep ledgerOk hw hc hs w k
    · exact Run.spec_crash _

/-- Along a fault-free run the invariants hold, and the ledger grows by what the emitted tuples
amount to, with the reduce executors finished on the way settled. -/
theorem Ran.flowed (hw : D.Wired s) (hc : D.Consistent s) (hs : M.Staged J s) {R : List Tuple} {s' : World}
    (h : D.Ran s R s') :
    D.Wired s' ∧ D.Consistent s' ∧ D.Keeps 0 s s' ∧ M.Flowed J s ((R.map (M.mapValue J)).sum) s' := by
  induction h with
  | refl => exact ⟨hw, hc, Keeps.refl _ _, Flowed.refl hs⟩
  | step _ hrun ih =>
    obtain ⟨hw₁, hc₁, hk₁, hf₁⟩ := ih
    obtain ⟨hc₂, hk₂, -⟩ := stepPost_of_run hw₁ hc₁ hrun
    have hf₂ := (flowed_stepSpout hw₁ hc₁ hf₁.2.1 _ _).of_run hrun _ rfl
    refine ⟨hw₁.of_fixedOf hk₂.fixed, hc₂, hk₁.trans hk₂, ?_⟩
    rw [List.map_append, List.sum_append]
    -- once a reduce executor has finished, the spouts emit nothing that could be held for it
    refine hf₁.trans_of_finished hf₂ hk₁ hk₂ fun r b hb hn hfin => ?_
    rw [stepEmits_eq_nil hw₁ hc₁ (mapsClosed_of_reduce hw₁ hc₁ hb hn hfin)]
    simp

/-! ### A worker that has finished -/

section Complete

variable (hw : D.Wired s) (hc : D.Consistent s) (hs : M.Staged J s) {q : Nat} {j : Job}
  (hj : s.job? ⟨q, D.job⟩ = some j) (hp : j.context.pending = 0)
include hw hc hs hj hp

omit hw in
lemma finalized_of_pending {i : Nat} {b : BoltExecutor} (hb : s.boltAt D.job q i = some b) :
    b.finalized = true := by
  have hbj : j.bolts[i]? = some b := by rw [← World.boltAt_of_job? hj]; exact hb
  have hsent : b.sentEos = true := by
    cases hse : b.sentEos
    · have hpos := Job.unsent_pos hbj hse
      rw [← (hs.jobs q j hj).pending, hp] at hpos
      cases hpos
    · rfl
  exact (hc.boltSent q i b hb hsent).1

lemma print_finalized_of_pending :
    ∃ i e, s.boltAt D.job q i = some e ∧ e.node = M.print ∧ e.finalized = true := by
  obtain ⟨i, e, he, hen⟩ := hw.exists_boltAt (hw.lt_of_job? hj) M.print_lookup
  exact ⟨i, e, he, hen, finalized_of_pending hc hs hj hp he⟩

lemma reducers_finalized_of_pending :
    ∀ w i b, s.boltAt D.job w i = some b → b.node = M.reduce → b.finalized = true := by
  obtain ⟨i, e, he, hen, hf⟩ := print_finalized_of_pending hw hc hs hj hp
  exact fun w i' b hb hn => hc.input_finalized hw he hf (by rw [hen]; exact M.print_lookup) hb
    (hn.trans M.print_input.symm)

lemma drained_print_of_pending : D.Drained s M.print q := by
  obtain ⟨i, e, he, hen, hf⟩ := print_finalized_of_pending hw hc hs hj hp
  have h := hc.drained hw he hf
  rwa [hen] at h

lemma mapsClosed_of_pending : M.MapsClosed s := by
  obtain ⟨i, e, he, hen⟩ := hw.exists_boltAt (hw.lt_of_job? hj) M.reduce_lookup
  exact mapsClosed_of_reduce hw hc he hen (reducers_finalized_of_pending hw hc hs hj hp _ _ _ he hen)

end Complete

lemma reducerOf_boltAt (hw : D.Wired s) (hs : M.Staged J s) (hW : 0 < D.addresses.length) (k : String) :
    ∃ b, s.boltAt D.job (M.reducerOf k).1 (M.reducerOf k).2 = some b ∧ b.node = M.reduce := by
  have hP := hw.valid.boltParallelism _ _ M.reduce_lookup
  have hwl : (M.reducerOf k).1 < D.addresses.length :=
    Nat.div_lt_of_lt_mul (Nat.mod_lt _ (Nat.mul_pos hP hW))
  obtain ⟨j, hj, -⟩ := hw.shaped _ hwl
  have hslot : M.slotOf k < (D.positionsOf M.reduce).length := by
    rw [length_positionsOf hw.boltKeys M.reduce_lookup]
    exact Nat.mod_lt _ hP
  -- the position is one of the reduce node's, and the job's executors sit at the deployment's
  -- positions
  have hpos : (M.reducerOf k).2 = (D.positionsOf M.reduce)[M.slotOf k] := by
    rw [reducerOf, List.getD_eq_getElem?_getD, List.getElem?_eq_getElem hslot, Option.getD_some]
  obtain ⟨hil, hin⟩ : (M.reducerOf k).2 < D.boltNodes.length ∧ D.boltNodes.getD (M.reducerOf k).2 "" = M.reduce := by
    have hmem := List.getElem_mem hslot
    rw [← hpos, positionsOf, List.mem_filter, List.mem_range, decide_eq_true_iff] at hmem
    exact hmem
  have hnodes := (hs.jobs _ j hj).nodes
  have hlen : (M.reducerOf k).2 < j.bolts.length := by
    rw [← List.length_map (f := BoltExecutor.node), hnodes]
    exact hil
  refine ⟨j.bolts[(M.reducerOf k).2], by rw [World.boltAt_of_job? hj, List.getElem?_eq_getElem hlen], ?_⟩
  rw [← hin, ← hnodes, List.getD_eq_getElem?_getD, List.getElem?_map, List.getElem?_eq_getElem hlen,
    Option.map_some, Option.getD_some]

/-! ### What a run from deployment leaves -/

section Run

variable (hi : D.Installed s₀)
  (hJ : ∀ w j, s₀.job? ⟨w, D.job⟩ = some j → Registry.jobNamed j.context.config "mapClass" = .ok J)
  {R : List Tuple}
include hi hJ

/-- A fault-free run from deployment: the invariants hold at its end, and the ledger there is what
the emitted tuples amount to, with the reduce executors finished by then settled, each once. -/
theorem Ran.settled (h : D.Ran s₀ R s) :
    D.Wired s ∧ D.Consistent s ∧ M.Staged J s ∧ ∃ F : List (Nat × Nat), F.Nodup ∧
      (∀ r, r ∈ F ↔ ∃ b, s.boltAt D.job r.1 r.2 = some b ∧ b.node = M.reduce ∧ b.finalized = true) ∧
      M.Settles 0 ((R.map (M.mapValue J)).sum) F (M.ledger J s) := by
  obtain ⟨hw, hc, hk, ⟨F, ⟨hnd, hF⟩, hset⟩, hs, -⟩ := Ran.flowed hi.wired hi.consistent (staged_of_installed (M := M) hi hJ) h
  rw [ledger_of_installed hi] at hset
  refine ⟨hw, hc, hs, F, hnd, fun r => ⟨fun hr => ?_, fun hr => ?_⟩, hset⟩
  · obtain ⟨⟨b, hb, hn, -⟩, b', hb', hf'⟩ := (hF r).mp hr
    obtain ⟨b₀, hb₀, hfix, -⟩ := hk.boltAt_back hb'
    rw [hb, Option.some.injEq] at hb₀
    subst hb₀
    exact ⟨b', hb', (BoltExecutor.fixed_eq_iff.mp hfix).2.1.trans hn, hf'⟩
  · -- every executor was unfinished at deployment
    obtain ⟨b', hb', hn', hf'⟩ := hr
    obtain ⟨b, hb, hfix, -⟩ := hk.boltAt_back hb'
    obtain ⟨-, -, -, hf₀, -⟩ := hi.of_boltAt hb
    exact (hF r).mpr ⟨⟨b, hb, (BoltExecutor.fixed_eq_iff.mp hfix).2.1.symm.trans hn', hf₀⟩, b', hb', hf'⟩

theorem Ran.buffer_le (h : D.Ran s₀ R s) {w i : Nat} {b : BoltExecutor} (hb : s.boltAt D.job w i = some b)
    {job : Reducer} {held : List (String × List String)} (hlog : b.logic = .reduce job held) :
    (pairsIn held : Multiset (String × String)) ≤
      (R.flatMap J.pairsOf : Multiset (String × String)).filter fun p => M.reducerOf p.1 = (w, i) := by
  obtain ⟨hw, -, -, F, -, -, hset⟩ := Ran.settled (M := M) hi hJ h
  calc (pairsIn held : Multiset (String × String))
      ≤ Posting.pairsFor (w, i) (M.ledger J s) := pairsIn_le_pairsFor hw hb hlog
    _ ≤ Posting.pairsFor (w, i) (0 + (R.map (M.mapValue J)).sum) := hset.pairsFor_le (w, i)
    _ = _ := by rw [zero_add, pairsFor_mapValues]

omit hJ in
lemma reducerOf_mem_of_pending (hw : D.Wired s) (hc : D.Consistent s) (hs : M.Staged J s) {q : Nat} {j : Job}
    (hj : s.job? ⟨q, D.job⟩ = some j) (hp : j.context.pending = 0) {F : List (Nat × Nat)}
    (hF : ∀ r, r ∈ F ↔ ∃ b, s.boltAt D.job r.1 r.2 = some b ∧ b.node = M.reduce ∧ b.finalized = true)
    (k : String) : M.reducerOf k ∈ F := by
  obtain ⟨b, hb, hn⟩ := reducerOf_boltAt hw hs (List.length_pos_iff.mpr hi.nonempty) k
  exact (hF _).mpr ⟨b, hb, hn, reducers_finalized_of_pending hw hc hs hj hp _ _ _ hb hn⟩

theorem Ran.results (h : D.Ran s₀ R s) {q : Nat} {j : Job} (hj : s.job? ⟨q, D.job⟩ = some j)
    (hp : j.context.pending = 0) :
    (j.context.results : Multiset (String × String)) = M.printDecl.parallelism • totals (R.flatMap J.pairsOf) := by
  obtain ⟨hw, hc, hs, F, hnd, hF, hset⟩ := Ran.settled (M := M) hi hJ h
  have hres := hset.map_eq (Posting.resultsAt q) fun r Z => resultsAt_heldFor q r Z
  -- the emitted tuples print nothing by themselves; each finished reduce executor prints its totals
  have hδ : Posting.resultsAt q ((R.map (M.mapValue J)).sum) = 0 := by
    rw [map_list_sum, List.map_map]
    exact List.sum_eq_zero fun x hx => by
      obtain ⟨t, -, rfl⟩ := List.mem_map.mp hx
      exact resultsAt_mapValue q t
  rw [resultsAt_ledger hw (drained_print_of_pending hw hc hs hj hp) hj, zero_add, hδ, zero_add] at hres
  simp only [resultsAt_reduced, if_pos (hw.lt_of_job? hj), pairsFor_mapValues] at hres
  rw [hres, ← sum_totals_fibres hnd M.reducerOf fun k _ => reducerOf_mem_of_pending hi hw hc hs hj hp hF k,
    List.smul_sum, List.map_map]
  rfl

omit hi hJ in
lemma count_ledger_eq (hw : D.Wired s) (hmap : ∀ q', D.Drained s M.map q') {a : Posting}
    (hheld : ∀ w i k v, a ≠ .held w i k v) (hres : ∀ w k v, a ≠ .result w k v) {f : JobContext → Nat}
    (hf : ∀ w c, (c.ledger w).count a = f c) : (M.ledger J s).count a = D.clusterCount s f := by
  rw [count_ledger hw hmap hheld hres, clusterCount]
  simp only [hf]

/-- The counters summed over the cluster once every worker has nothing pending: one map input per
emitted tuple, one map output per pair the map wrote, one reduce input and one reduce output per
key. -/
theorem Ran.counters (M : D.MapReduce) (h : D.Ran s₀ R s)
    (hall : ∀ w j, s.job? ⟨w, D.job⟩ = some j → j.context.pending = 0) :
    D.clusterCount s (·.mapInputs) = R.length ∧
      D.clusterCount s (·.mapOutputs) = (R.flatMap J.pairsOf).length ∧
      D.clusterCount s (·.reduceInputs) = ((R.flatMap J.pairsOf).map Prod.fst).dedup.length ∧
      D.clusterCount s (·.reduceOutputs) = ((R.flatMap J.pairsOf).map Prod.fst).dedup.length := by
  obtain ⟨hw, hc, hs, F, hnd, hF, hset⟩ := Ran.settled (M := M) hi hJ h
  obtain ⟨j, hj, -⟩ := hw.shaped 0 (List.length_pos_iff.mpr hi.nonempty)
  have hp := hall 0 j hj
  have hmap := MapsClosed.drained hw hc (mapsClosed_of_pending hw hc hs hj hp)
  -- every key is reduced by one of the executors the run finished
  have hkeys : (F.map fun r => Multiset.card (totals (Posting.pairsFor r ((R.map (M.mapValue J)).sum)))).sum =
      ((R.flatMap J.pairsOf).map Prod.fst).dedup.length := by
    simp only [pairsFor_mapValues]
    have hcard := map_list_sum (Multiset.cardHom (α := String × String))
      (F.map fun r => totals ((R.flatMap J.pairsOf : Multiset (String × String)).filter fun p => M.reducerOf p.1 = r))
    rw [sum_totals_fibres hnd M.reducerOf fun k _ => reducerOf_mem_of_pending hi hw hc hs hj hp hF k,
      List.map_map] at hcard
    calc _ = Multiset.cardHom (totals (R.flatMap J.pairsOf : Multiset (String × String))) := hcard.symm
      _ = _ := by rw [Multiset.cardHom_apply, card_totals, Multiset.map_coe, Multiset.coe_dedup, Multiset.coe_card]
  -- a counter summed over the cluster: what the emitted tuples count, and what reducing each key
  -- counts
  have hcounter : ∀ a (f : JobContext → Nat), (∀ w i k v, a ≠ .held w i k v) → (∀ w k v, a ≠ .result w k v) →
      (∀ w c, (c.ledger w).count a = f c) → D.clusterCount s f =
        R.length * Multiset.count a {.mapInput} + (R.flatMap J.pairsOf).length * Multiset.count a {.mapOutput} +
          ((R.flatMap J.pairsOf).map Prod.fst).dedup.length * Multiset.count a {.reduceInput, .reduceOutput} :=
    fun a f hh hr hf => by
      have hm := hset.map_eq (Multiset.countAddMonoidHom a) fun r Z => count_heldFor hh r Z
      simp only [Multiset.coe_countAddMonoidHom, zero_add, count_mapValues hh, count_reduced hr] at hm
      rw [← count_ledger_eq hw hmap hh hr hf, hm, List.sum_map_mul_right, hkeys]
  refine ⟨?_, ?_, ?_, ?_⟩
  · simpa using hcounter .mapInput _ (by simp) (by simp) fun w c => (JobContext.count_ledger w c).1
  · simpa using hcounter .mapOutput _ (by simp) (by simp) fun w c => (JobContext.count_ledger w c).2.1
  · simpa using hcounter .reduceInput _ (by simp) (by simp) fun w c => (JobContext.count_ledger w c).2.2.1
  · simpa using hcounter .reduceOutput _ (by simp) (by simp) fun w c => (JobContext.count_ledger w c).2.2.2

end Run

/-! ### A small map/reduce job -/

section Pairs

/-- A map/reduce topology with one executor per node, its spout reading key/value records. -/
def pairsTopology : Topology :=
  { spouts := [("pairs", ⟨"records", 1⟩)],
    bolts := [("sum", ⟨"map", 1, "pairs", .shuffle⟩), ("total", ⟨"reduce", 1, "sum", .fields ⟨["key"]⟩⟩),
      ("show", ⟨"print", 1, "total", .broadcast⟩)] }

def pairs : Deployment := ⟨"job", pairsTopology, ["http://a"]⟩

def pairsConfig : JobConfig :=
  ⟨[("workerIndex", "0"), ("workerList", "a"), ("mapClass", "sum_by_key"), ("reduceClass", "sum_by_key"),
    ("records", "[[\"a\",\"5\"],[\"b\",\"2\"],[\"a\",\"3\"]]")]⟩

def pairsJob : Job :=
  match Job.instantiate {} toString "job" pairsConfig pairsTopology with
  | .done j => j
  | _ => default

def pairsWorld : World :=
  { workers := [{ port := 0, address := "http://a", jobs := [("job", pairsJob)] }], link := .loopback false }

def pairsShape : pairs.MapReduce where
  spout := "pairs"
  map := "sum"
  reduce := "total"
  print := "show"
  mapDecl := ⟨"map", 1, "pairs", .shuffle⟩
  reduceDecl := ⟨"reduce", 1, "sum", .fields ⟨["key"]⟩⟩
  printDecl := ⟨"print", 1, "total", .broadcast⟩
  spouts n sd h := by
    have hm := mem_of_lookup_eq_some h
    simp only [pairs, pairsTopology, List.mem_singleton, Prod.mk.injEq] at hm
    exact hm.1
  bolts n d h := by
    have hm := mem_of_lookup_eq_some h
    simp only [pairs, pairsTopology, List.mem_cons, Prod.mk.injEq, List.not_mem_nil, or_false] at hm
    rcases hm with ⟨rfl, -⟩ | ⟨rfl, -⟩ | ⟨rfl, -⟩ <;> simp
  map_lookup := rfl
  reduce_lookup := rfl
  print_lookup := rfl
  map_component := rfl
  map_input := rfl
  map_grouping := by decide
  reduce_component := rfl
  reduce_input := rfl
  reduce_grouping := rfl
  print_component := rfl
  print_input := rfl
  print_grouping := rfl

theorem pairsJob_instantiate : Job.instantiate {} toString "job" pairsConfig pairsTopology = .done pairsJob := by
  have hm : (Job.instantiate {} toString "job" pairsConfig pairsTopology matches .done _) = true := by
    decide +kernel
  revert hm
  unfold pairsJob
  cases Job.instantiate {} toString "job" pairsConfig pairsTopology with
  | done j => exact fun _ => rfl
  | failed f j => exact fun hm => by cases hm
  | overflowed m => exact fun hm => by cases hm

theorem pairs_installed : pairs.Installed pairsWorld where
  nonempty := List.cons_ne_nil _ _
  workers := rfl
  link := ⟨false, rfl⟩
  address := by decide
  instantiated := by
    intro w hw
    obtain rfl : w = 0 := by simpa [pairs] using hw
    exact ⟨{}, toString, pairsConfig, pairsJob, pairsJob_instantiate, rfl, rfl, rfl, rfl⟩
  distinct := DistinctIds.of_single rfl rfl (by decide +kernel)
  spoutKeys := by decide
  boltKeys := by decide

theorem pairs_mapClass : ∀ w j, pairsWorld.job? ⟨w, pairs.job⟩ = some j →
    Registry.jobNamed j.context.config "mapClass" = .ok .sumByKey := by
  intro w j hj
  obtain ⟨-, rfl⟩ := job?_of_single (D := pairs) rfl rfl hj
  obtain ⟨n, hn⟩ := Job.context_eq_of_instantiate pairsJob_instantiate
  rw [hn]
  rfl

def pairsStep (s : World) : World :=
  match (Run.stepSpout 0 pairs.job 0).run.run s with
  | .ok (_, s') => s'
  | .error _ => s

def EndedOk : Except Crash (Except Fault Bool × World) → Bool
  | .ok (.ok _, _) => true
  | _ => false

lemma Ran.step_pairs {s₀ s : World} {R : List Tuple} (hr : pairs.Ran s₀ R s)
    (h : EndedOk ((Run.stepSpout 0 pairs.job 0).run.run s) = true) :
    pairs.Ran s₀ (R ++ pairs.stepEmits s 0 0) (pairsStep s) := by
  unfold pairsStep
  unfold EndedOk at h
  split at h
  · rename_i a s' hx
    rw [hx]
    exact hr.step hx
  · cases h

/-- The records the pairs job's spout emits, one a step, before the step that ends it. -/
def pairsEmitted : List Tuple :=
  [] ++ pairs.stepEmits pairsWorld 0 0 ++ pairs.stepEmits (pairsStep pairsWorld) 0 0 ++
    pairs.stepEmits (pairsStep (pairsStep pairsWorld)) 0 0 ++
      pairs.stepEmits (pairsStep (pairsStep (pairsStep pairsWorld))) 0 0

def pairsDone : World := pairsStep (pairsStep (pairsStep (pairsStep pairsWorld)))

set_option maxRecDepth 10000 in
theorem pairs_ran : pairs.Ran pairsWorld pairsEmitted pairsDone :=
  Ran.step_pairs (Ran.step_pairs (Ran.step_pairs (Ran.step_pairs Ran.refl (by decide +kernel))
    (by decide +kernel)) (by decide +kernel)) (by decide +kernel)

set_option maxRecDepth 10000 in
theorem pairsDone_pending : ∃ j, pairsDone.job? ⟨0, pairs.job⟩ = some j ∧ j.context.pending = 0 := by
  obtain ⟨j, hj⟩ := Option.isSome_iff_exists.mp (show (pairsDone.job? ⟨0, pairs.job⟩).isSome = true by decide +kernel)
  refine ⟨j, hj, ?_⟩
  have hp : (pairsDone.job? ⟨0, pairs.job⟩).map (·.context.pending) = some 0 := by decide +kernel
  rw [hj, Option.map_some, Option.some.injEq] at hp
  exact hp

end Pairs

/-- End-to-end map/reduce. Along every fault-free run of a deployed job of the map/reduce shape,
whose configuration names the reducer `J` for its map, each reduce executor holds only pairs the
map wrote of emitted tuples, and only of keys that pick it, so each key is reduced by one executor
of the cluster; and a worker with nothing pending has printed the totals of every key the map
wrote, one entry per key, as many times as the print node has executors. -/
theorem run_prints_totals (hi : D.Installed s₀)
    (hJ : ∀ w j, s₀.job? ⟨w, D.job⟩ = some j → Registry.jobNamed j.context.config "mapClass" = .ok J)
    {R : List Tuple} (h : D.Ran s₀ R s) :
    (∀ w i b job held, s.boltAt D.job w i = some b → b.logic = .reduce job held →
      (pairsIn held : Multiset (String × String)) ≤
        (R.flatMap J.pairsOf : Multiset (String × String)).filter fun p => M.reducerOf p.1 = (w, i)) ∧
    ∀ q j, s.job? ⟨q, D.job⟩ = some j → j.context.pending = 0 →
      (j.context.results : Multiset (String × String)) = M.printDecl.parallelism • totals (R.flatMap J.pairsOf) :=
  ⟨fun _ _ _ _ _ hb hlog => Ran.buffer_le hi hJ h hb hlog, fun _ _ hj hp => Ran.results hi hJ h hj hp⟩

/-- The pairs job's one worker, once its spout's records are emitted and its end of stream is
through, prints the totals of the keys its records name. -/
theorem pairs_prints_totals :
    pairs.Installed pairsWorld ∧ pairs.Ran pairsWorld pairsEmitted pairsDone ∧
      ∃ j, pairsDone.job? ⟨0, pairs.job⟩ = some j ∧ j.context.pending = 0 ∧
        (j.context.results : Multiset (String × String)) =
          pairsShape.printDecl.parallelism • totals (pairsEmitted.flatMap Reducer.sumByKey.pairsOf) := by
  obtain ⟨j, hj, hp⟩ := pairsDone_pending
  exact ⟨pairs_installed, pairs_ran, j, hj, hp,
    (run_prints_totals (M := pairsShape) pairs_installed pairs_mapClass pairs_ran).2 0 j hj hp⟩

/-- Phases and counters of a map/reduce run. Along every fault-free run of a deployed job of the
map/reduce shape, each worker's phase is one of init, mapping, reducing and idle, and only moves
forward from then on; a worker reduces or is idle only once every map executor of the cluster has
finished; and once every worker has nothing pending, the counters summed over the cluster are one
map input per emitted tuple, one map output per pair the map wrote, and one reduce input and one
reduce output per key. -/
theorem run_phases_counters (hi : D.Installed s₀)
    (hJ : ∀ w j, s₀.job? ⟨w, D.job⟩ = some j → Registry.jobNamed j.context.config "mapClass" = .ok J)
    {R : List Tuple} (h : D.Ran s₀ R s) :
    (∀ w j, s.job? ⟨w, D.job⟩ = some j → j.context.phase ∈ Phase.course ∧
      (j.context.phase = .reducing ∨ j.context.phase = .idle → M.MapsClosed s)) ∧
    (∀ R' s', D.Ran s R' s' → D.PhaseFwd s s') ∧
    ((∀ w j, s.job? ⟨w, D.job⟩ = some j → j.context.pending = 0) →
      D.clusterCount s (·.mapInputs) = R.length ∧
      D.clusterCount s (·.mapOutputs) = (R.flatMap J.pairsOf).length ∧
      D.clusterCount s (·.reduceInputs) = ((R.flatMap J.pairsOf).map Prod.fst).dedup.length ∧
      D.clusterCount s (·.reduceOutputs) = ((R.flatMap J.pairsOf).map Prod.fst).dedup.length) := by
  obtain ⟨hw, hc, hs, -⟩ := Ran.settled (M := M) hi hJ h
  refine ⟨fun w j hj => ⟨(hs.jobs w j hj).course, ?_⟩, fun R' s' h' => (Ran.flowed hw hc hs h').2.2.2.2.2,
    Ran.counters hi hJ M h⟩
  rintro (hr | hidle)
  · exact hs.reducing w j hj hr
  · exact mapsClosed_of_pending hw hc hs hj ((hs.jobs w j hj).idle hidle)

/-- The pairs job counts, once its one worker has nothing pending, one map input per record and
one reduce input per key. -/
theorem pairs_counters :
    pairs.Installed pairsWorld ∧ pairs.Ran pairsWorld pairsEmitted pairsDone ∧
      (∀ w j, pairsDone.job? ⟨w, pairs.job⟩ = some j → j.context.pending = 0) ∧
      pairs.clusterCount pairsDone (·.mapInputs) = pairsEmitted.length ∧
      pairs.clusterCount pairsDone (·.reduceInputs) =
        ((pairsEmitted.flatMap Reducer.sumByKey.pairsOf).map Prod.fst).dedup.length := by
  have hall : ∀ w j, pairsDone.job? ⟨w, pairs.job⟩ = some j → j.context.pending = 0 := by
    intro w j hj
    obtain ⟨j₀, hj₀, hp⟩ := pairsDone_pending
    rcases w with _ | w
    · rw [hj₀, Option.some.injEq] at hj
      exact hj ▸ hp
    · have hlen : pairsDone.workers.length = 1 := by decide +kernel
      simp [World.job?, List.getElem?_eq_none (show pairsDone.workers.length ≤ w + 1 by omega)] at hj
  obtain ⟨hin, -, hred, -⟩ := (run_phases_counters (M := pairsShape) pairs_installed pairs_mapClass pairs_ran).2.2 hall
  exact ⟨pairs_installed, pairs_ran, hall, hin, hred⟩

end MapReduce

end Deployment

end Dataflow
