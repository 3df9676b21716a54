import Dataflow.Proofs.Staging
/-!
Where the ledger of a map/reduce job sits. A router of the job spreads a tuple over destinations
whose values add up to what the tuple amounts to from its worker, and a tuple pushed from a peer
over this worker's executors, whose values add up to what it amounts to here.

Read through the postings held for one reduce executor, the ledger is that executor's buffer once
nothing is held back on the way to it: every map executor has voted there. Read through the
results of one worker, it is the results printed there once nothing is held back on the print
stream towards it.
-/
namespace Dataflow

namespace Deployment

variable {D : Deployment} {s : World}

/-! ### Where executors sit -/

lemma boltsOf_eq_positionsOf {j : Job} (h : j.bolts.map (·.node) = D.boltNodes) (n : String) :
    j.boltsOf n = D.positionsOf n := by
  have hl : j.bolts.length = D.boltNodes.length := by rw [← h, List.length_map]
  unfold Job.boltsOf positionsOf
  rw [hl]
  refine List.filter_congr fun i _ => ?_
  rw [← h, getD_map_apply BoltExecutor.node]
  rfl

lemma length_positionsOf (hk : (D.topology.bolts.map (·.1)).Nodup) {n : String} {d : BoltDecl}
    (hd : D.topology.bolts.lookup n = some d) : (D.positionsOf n).length = d.parallelism := by
  have hr : (List.range D.boltNodes.length).map (D.boltNodes.getD · "") = D.boltNodes :=
    List.ext_getElem (by simp) fun i _ h => by simp [List.getElem?_eq_getElem h]
  have hc := count_flatMap_replicate (fun d : BoltDecl => d.parallelism) n hk
  rw [hd, Option.map_some, Option.getD_some] at hc
  rw [positionsOf, ← count_map_eq_length_filter, hr, boltNodes, hc]

variable (D) in
/-- A router of the job as wiring made it on worker `w` for the bolt node `c` declared as `d`: its
local executors at the node's positions, a slot for every executor of the node on every worker,
and a sender towards every other worker. -/
structure RouterExact (w : Nat) (c : String) (d : BoltDecl) (r : Router) : Prop where
  worker : w < D.addresses.length
  lookup : D.topology.bolts.lookup c = some d
  pos : 0 < d.parallelism
  grouping : r.grouping = d.grouping
  locals : r.locals = D.positionsOf c
  slots : r.slots = Router.layout d.parallelism (D.addresses.length - 1) w
  peers : r.senders.length + 1 = D.addresses.length

lemma Wired.routerExact (hw : D.Wired s) {w : Nat} {j : Job} (hj : s.job? ⟨w, D.job⟩ = some j)
    (hn : j.bolts.map (·.node) = D.boltNodes) {c : String} {r : Router} (hr : j.router? c = some r) :
    ∃ d, D.RouterExact w c d r := by
  have hs := hw.shaped_of_job? hj
  have hwl := hw.lt_of_job? hj
  obtain ⟨d, hd⟩ := lookup_isSome_of_mem_keys (hs.routerKeys ▸ Keyed.mem_keys_of_lookup hr)
  obtain ⟨batch, hb⟩ := hs.router c d hd
  rw [hr, Option.map_some, Option.some.injEq] at hb
  have hg := congrArg Router.grouping hb
  have hl := congrArg Router.locals hb
  have hsend := congrArg Router.senders hb
  have hslots := congrArg Router.slots hb
  simp only [Router.fixed, Job.streamRouter, Router.make] at hg hl hsend hslots
  have hlen : r.senders.length = D.addresses.length - 1 := by
    rw [← List.length_map Sender.fixed, hsend, Job.length_peerSenders _ _ _ _ hwl]
  have hpos : D.positionsOf c = j.boltsOf c := (boltsOf_eq_positionsOf hn c).symm
  refine ⟨d, hwl, hd, hw.valid.boltParallelism c d hd, hg, hl.trans hpos.symm, ?_, by omega⟩
  rw [hslots, Job.length_peerSenders _ _ _ _ hwl, ← hpos, length_positionsOf hw.boltKeys hd]

lemma perm_range_peers {w n : Nat} (hw : w < n) :
    (List.range n).Perm (w :: (List.range (n - 1)).map (Job.peerWorker w)) := by
  have he : (List.range n).filter (· ≠ w) = (List.range n).erase w := by
    rw [List.nodup_range.erase_eq_filter]
    exact List.filter_congr fun x _ => by by_cases h : x = w <;> simp [h]
  rw [← Job.filter_range_ne w n hw, he]
  exact List.perm_cons_erase (List.mem_range.mpr hw)

lemma partitionKey_key {t : Tuple} {k v : String} (h : t.pair? = some (k, v)) :
    partitionKey ⟨["key"]⟩ t = k := by
  cases hk : t.get? "key" <;> cases hv : t.get? "value" <;>
    simp_all [Tuple.pair?, Tuple.text, partitionKey]

variable (D) in
def Drained (s : World) (c : String) (q : Nat) : Prop :=
  ∀ w r, s.routerAt D.job w c = some r → ∀ k S, r.senders[k]? = some S → Job.peerWorker w k = q → S.held = []

lemma Drained.of_routerAt {s' : World} {c : String} {q : Nat} (h : D.Drained s c q)
    (hr : ∀ w, s'.routerAt D.job w c = s.routerAt D.job w c) : D.Drained s' c q :=
  fun w r hr' => h w r (by rw [← hr]; exact hr')

lemma Wired.drained_of_le (hw : D.Wired s) (c : String) {q : Nat} (hq : D.addresses.length ≤ q) : D.Drained s c q := by
  intro w r hr k S hS hk
  have hwl : w < D.addresses.length := by
    simp only [World.routerAt, Option.bind_eq_some_iff] at hr
    obtain ⟨j, hj, -⟩ := hr
    exact hw.lt_of_job? hj
  have hkl : k + 1 < D.addresses.length := by
    have hp := (hw.routerWired hr).peers
    have hk' := (List.getElem?_eq_some_iff.mp hS).1
    omega
  have := Job.peerWorker_lt hwl hkl
  omega

lemma Wired.exists_boltAt (hw : D.Wired s) {w : Nat} (hwl : w < D.addresses.length) {n : String} {d : BoltDecl}
    (hd : D.topology.bolts.lookup n = some d) : ∃ i b, s.boltAt D.job w i = some b ∧ b.node = n := by
  have hpar : D.topology.parallelism n = some d.parallelism := by
    unfold Topology.parallelism
    cases hs : D.topology.spouts.lookup n with
    | some sd => rw [hw.valid.disjoint n sd hs] at hd; cases hd
    | none => simp [hd]
  have hlen := hw.length_idsAt hwl n
  rw [hpar, Option.getD_some] at hlen
  obtain ⟨x, hx⟩ := List.exists_mem_of_length_pos (hlen ▸ hw.valid.boltParallelism n d hd)
  rcases mem_idsAt.mp hx with ⟨i, b, hb, hn, -⟩ | ⟨i, sp, hsp, hn, -⟩
  · exact ⟨i, b, hb, hn⟩
  · obtain ⟨sd, hsd⟩ := Option.isSome_iff_exists.mp (hn ▸ (hw.spout hsp).1)
    rw [hw.valid.disjoint n sd hsd] at hd
    cases hd

section Closed

variable (hw : D.Wired s) (hc : D.Consistent s) {q i : Nat} {b : BoltExecutor}
  (hb : s.boltAt D.job q i = some b) (hf : b.finalized = true)
include hw hc hb hf

lemma Consistent.drained : D.Drained s b.node q := by
  intro w r hr k S hS hq
  obtain ⟨d, hd, -⟩ := hw.bolt hb
  refine List.eq_nil_iff_forall_not_mem.mpr fun x hx => ?_
  obtain ⟨-, ⟨d', hd', hids⟩, hnv⟩ := (hc.held w b.node r hr k S hS).2 x hx
  obtain rfl : d' = d := Option.some.inj (hd'.symm.trans hd)
  exact hnv i b (hq ▸ hb) rfl ((hw.finalized_iff hc hb hd).mp hf x.source (hw.mem_feederIds_of_idsAt hids))

lemma Consistent.input_finalized {d : BoltDecl} (hd : D.topology.bolts.lookup b.node = some d) {w' i' : Nat}
    {e : BoltExecutor} (he : s.boltAt D.job w' i' = some e) (hn : e.node = d.input) : e.finalized = true := by
  have hx := (hw.finalized_iff hc hb hd).mp hf e.id (hw.mem_feederIds.mpr (.inl ⟨w', i', e, he, hn, rfl⟩))
  rcases hc.voters q i b hb d hd e.id hx with ⟨w'', i'', f, hf', hfx, -, hfin⟩ | ⟨w'', i'', sp, hsp, hspx, -⟩
  · obtain ⟨rfl, rfl⟩ := hw.distinct.bolts w' i' e w'' i'' f he hf' hfx.symm
    rw [he, Option.some.injEq] at hf'
    exact hf' ▸ hfin
  · exact (hw.distinct.mixed w' i' e w'' i'' sp he hsp hspx.symm).elim

end Closed

namespace MapReduce

variable (M : D.MapReduce) (J : Reducer)

/-- What a tuple routed on worker `w` by the router `r` of stream `c` amounts to at one slot: at a
local executor, what it amounts to there; at a peer's sender, what it amounts to on that peer. -/
def slotValue (c : String) (w : Nat) (r : Router) (t : Tuple) : Slot → Multiset Posting
  | .mine i => M.execValue J c w (r.locals.getD i 0) t
  | .peer k => M.streamValue J c (Job.peerWorker w k) t

@[simp] lemma slotValue_mine (c : String) (w : Nat) (r : Router) (t : Tuple) (i : Nat) :
    M.slotValue J c w r t (.mine i) = M.execValue J c w (r.locals.getD i 0) t := rfl

@[simp] lemma slotValue_peer (c : String) (w : Nat) (r : Router) (t : Tuple) (k : Nat) :
    M.slotValue J c w r t (.peer k) = M.streamValue J c (Job.peerWorker w k) t := rfl

variable {M J}

lemma slotValue_map (w : Nat) (r : Router) (t : Tuple) (sl : Slot) :
    M.slotValue J M.map w r t sl = M.mapValue J t := by
  cases sl <;> simp [slotValue, execValue, streamValue]

lemma slotValue_of_pair_none {c : String} (hc : c ≠ M.map) (w : Nat) (r : Router) {t : Tuple}
    (h : t.pair? = none) (sl : Slot) : M.slotValue J c w r t sl = 0 := by
  cases sl <;> simp [slotValue, execValue, streamValue, hc, h]

lemma outValue_of_pair_none {c : String} (hc : c ≠ M.map) {t : Tuple} (h : t.pair? = none) :
    M.outValue J c t = 0 := by
  simp [outValue, hc, h]

section Route

variable {w : Nat} {r : Router} {t : Tuple} (ht : t.endOfStream = false)
include ht

lemma route_single (hs : r.slots ≠ []) (hg : r.grouping ≠ .broadcast) : ∃ sl, (r.route t).1 = [sl] := by
  cases hr : r.grouping with
  | fields names => exact ⟨_, r.route_fields ht hs hr⟩
  | shuffle => exact ⟨_, r.route_shuffle ht hs hr⟩
  | broadcast => exact absurd hr hg

lemma sum_route_map (hr : D.RouterExact w M.map M.mapDecl r) :
    ((r.route t).1.map (M.slotValue J M.map w r t)).sum = M.outValue J M.map t := by
  have hW := hr.worker
  have hs : r.slots ≠ [] := by
    rw [hr.slots, ← List.length_pos_iff, Router.length_layout _ _ _ (by omega)]
    exact Nat.mul_pos hr.pos (by omega)
  obtain ⟨sl, hsl⟩ := route_single ht hs (hr.grouping ▸ M.map_grouping)
  rw [hsl, List.map_singleton, List.sum_singleton, slotValue_map, outValue, if_pos rfl]

lemma sum_route_reduce (hr : D.RouterExact w M.reduce M.reduceDecl r) :
    ((r.route t).1.map (M.slotValue J M.reduce w r t)).sum = M.outValue J M.reduce t := by
  have hW := hr.worker
  have hPW : 0 < M.reduceDecl.parallelism * D.addresses.length := Nat.mul_pos hr.pos (by omega)
  have hs : r.slots ≠ [] := by
    rw [hr.slots, ← List.length_pos_iff, Router.length_layout _ _ _ (by omega), Nat.sub_add_cancel (by omega)]
    exact hPW
  have hne : M.reduce ≠ M.map := M.map_ne_reduce.symm
  rw [r.route_fields ht hs (hr.grouping.trans M.reduce_grouping), List.map_singleton, List.sum_singleton]
  cases hp : t.pair? with
  | none => rw [slotValue_of_pair_none hne w r hp, outValue_of_pair_none hne hp]
  | some kv =>
    obtain ⟨k, v⟩ := kv
    have hx : (KeyHash.ofString k).toNat % (M.reduceDecl.parallelism * D.addresses.length) <
        M.reduceDecl.parallelism * (D.addresses.length - 1 + 1) := by
      rw [Nat.sub_add_cancel (by omega)]
      exact Nat.mod_lt _ hPW
    rw [partitionKey_key hp, hr.slots, Router.length_layout _ _ _ (by omega), Nat.sub_add_cancel (by omega),
      partitionFor, if_neg (by omega), Router.getD_layout (by omega) (by rwa [Nat.sub_add_cancel (by omega)] at hx ⊢)]
    unfold Router.slotAt
    split
    · rename_i hq
      simp [slotValue, execValue, outValue, hne, hp, holding, reducerOf, slotOf, hr.locals, hq]
    · rename_i hq
      have hpw : ∀ x, x ≠ w → Job.peerWorker w (if x < w then x else x - 1) = x := fun x hxw => by
        unfold Job.peerWorker
        split_ifs <;> omega
      simp [slotValue, streamValue, outValue, hne, hp, holding, reducerOf, slotOf, hpw _ hq]

lemma sum_route_print (hk : (D.topology.bolts.map (·.1)).Nodup) (hr : D.RouterExact w M.print M.printDecl r) :
    ((r.route t).1.map (M.slotValue J M.print w r t)).sum = M.outValue J M.print t := by
  have hW := hr.worker
  have hs : r.slots ≠ [] := by
    rw [hr.slots, ← List.length_pos_iff, Router.length_layout _ _ _ (by omega)]
    exact Nat.mul_pos hr.pos (by omega)
  have hne : M.print ≠ M.map := M.map_ne_print.symm
  have hne' : M.print ≠ M.reduce := M.reduce_ne_print.symm
  rw [r.route_broadcast ht hs (hr.grouping.trans M.print_grouping), Router.everywhere, List.map_append,
    List.sum_append, List.map_map, List.map_map]
  cases hp : t.pair? with
  | none => simp [Function.comp_def, slotValue_of_pair_none hne w r hp, outValue_of_pair_none hne hp]
  | some kv =>
    obtain ⟨k, v⟩ := kv
    have hmine : ∀ i, M.slotValue J M.print w r t (.mine i) = {.result w k v} := fun i => by
      simp [slotValue, execValue, hne, hne', hp]
    have hpeer : ∀ k', M.slotValue J M.print w r t (.peer k') =
        M.printDecl.parallelism • {.result (Job.peerWorker w k') k v} := fun k' => by
      simp [slotValue, streamValue, hne, hne', hp]
    simp only [Function.comp_def, hmine, hpeer, List.map_const', List.sum_replicate, List.length_range,
      hr.locals, length_positionsOf hk M.print_lookup, outValue, hne, hne', hp, if_false, if_true]
    rw [printed, ((perm_range_peers hW).map _).sum_eq, List.map_cons, List.sum_cons, List.map_map,
      hr.peers.symm, Nat.add_sub_cancel]
    rfl

end Route

variable (hk : (D.topology.bolts.map (·.1)).Nodup)
include hk

theorem sum_route_slotValue {w : Nat} {c : String} {d : BoltDecl} {r : Router} (hr : D.RouterExact w c d r)
    {t : Tuple} (ht : t.endOfStream = false) :
    ((r.route t).1.map (M.slotValue J c w r t)).sum = M.outValue J c t := by
  rcases M.bolts c d hr.lookup with rfl | rfl | rfl
  · obtain rfl : d = M.mapDecl := Option.some.inj (hr.lookup.symm.trans M.map_lookup)
    exact sum_route_map ht hr
  · obtain rfl : d = M.reduceDecl := Option.some.inj (hr.lookup.symm.trans M.reduce_lookup)
    exact sum_route_reduce ht hr
  · obtain rfl : d = M.printDecl := Option.some.inj (hr.lookup.symm.trans M.print_lookup)
    exact sum_route_print ht hk hr

theorem sum_routeLocally_slotValue {w : Nat} {c : String} {d : BoltDecl} {r : Router}
    (hr : D.RouterExact w c d r) {t : Tuple} (ht : t.endOfStream = false) :
    ((r.routeLocally t).1.map (M.slotValue J c w r t)).sum = M.streamValue J c w t := by
  have hL : (D.positionsOf c).length = d.parallelism := length_positionsOf hk hr.lookup
  have hls : r.locals ≠ [] := by
    rw [hr.locals, ← List.length_pos_iff, hL]
    exact hr.pos
  rcases M.bolts c d hr.lookup with rfl | rfl | rfl
  · obtain rfl : d = M.mapDecl := Option.some.inj (hr.lookup.symm.trans M.map_lookup)
    obtain ⟨sl, hsl⟩ : ∃ sl, (r.routeLocally t).1 = [sl] := by
      cases hg : r.grouping with
      | fields names => exact ⟨_, r.routeLocally_fields ht hls hg⟩
      | shuffle => exact ⟨_, r.routeLocally_shuffle ht hls hg⟩
      | broadcast => exact absurd (hr.grouping ▸ hg) M.map_grouping
    rw [hsl, List.map_singleton, List.sum_singleton, slotValue_map, streamValue, if_pos rfl]
  · obtain rfl : d = M.reduceDecl := Option.some.inj (hr.lookup.symm.trans M.reduce_lookup)
    have hne : M.reduce ≠ M.map := M.map_ne_reduce.symm
    rw [r.routeLocally_fields ht hls (hr.grouping.trans M.reduce_grouping), List.map_singleton,
      List.sum_singleton]
    cases hp : t.pair? with
    | none => simp [slotValue_of_pair_none hne w r hp, streamValue, hne, hp]
    | some kv =>
      obtain ⟨k, v⟩ := kv
      have hP : M.reduceDecl.parallelism ≠ 0 := Nat.pos_iff_ne_zero.mp hr.pos
      simp [partitionKey_key hp, partitionFor, hr.locals, hL, hP, slotValue, execValue, streamValue, hne,
        hp, slotOf]
  · obtain rfl : d = M.printDecl := Option.some.inj (hr.lookup.symm.trans M.print_lookup)
    have hne : M.print ≠ M.map := M.map_ne_print.symm
    have hne' : M.print ≠ M.reduce := M.reduce_ne_print.symm
    rw [r.routeLocally_broadcast ht hls (hr.grouping.trans M.print_grouping), Router.everyLocal, List.map_map]
    cases hp : t.pair? with
    | none => simp [Function.comp_def, slotValue_of_pair_none hne w r hp, streamValue, hne, hp]
    | some kv =>
      obtain ⟨k, v⟩ := kv
      simp [Function.comp_def, slotValue, execValue, streamValue, hne, hne', hp, hr.locals, hL]

omit hk

/-! ### Reading the ledger -/

lemma map_mapIdx {α β γ : Type} (l : List α) (f : Nat → α → β) (g : β → γ) :
    (l.mapIdx f).map g = l.mapIdx fun i a => g (f i a) :=
  List.ext_getElem? fun i => by simp [List.getElem?_mapIdx, Function.comp_def]

lemma sum_range_ite {β : Type} [AddCommMonoid β] (n q : Nat) (f : Nat → β) :
    ((List.range n).map fun w => if w = q then f w else 0).sum = if q < n then f q else 0 := by
  induction n with
  | zero => simp
  | succ n ih =>
    rw [List.range_succ, List.map_append, List.sum_append, ih, List.map_singleton, List.sum_singleton]
    by_cases hq : q = n
    · subst hq
      simp
    · by_cases hlt : q < n
      · simp [Ne.symm hq, hlt, Nat.lt_succ_of_lt hlt]
      · simp [Ne.symm hq, hlt, show ¬q < n + 1 by omega]

lemma sum_mapIdx_ite {α β : Type} [AddCommMonoid β] :
    ∀ (f : Nat → α → β) (l : List α) (i : Nat),
      (l.mapIdx fun i' a => if i' = i then f i' a else 0).sum = (l[i]?.map (f i)).getD 0
  | _, [], _ => rfl
  | f, a :: l, 0 => by
    rw [List.mapIdx_cons, List.sum_cons, if_pos rfl]
    simp only [Nat.add_one_ne_zero, if_false, List.getElem?_cons_zero, Option.map_some, Option.getD_some]
    rw [List.sum_eq_zero fun x hx => ?_, add_zero]
    obtain ⟨k, hk, rfl⟩ := List.mem_mapIdx.mp hx
    rfl
  | f, a :: l, i + 1 => by
    rw [List.mapIdx_cons, List.sum_cons, if_neg (Nat.succ_ne_zero i).symm, zero_add,
      List.getElem?_cons_succ, ← sum_mapIdx_ite (fun i' => f (i' + 1)) l i]
    simp only [Nat.add_right_cancel_iff]

@[simp] lemma sum_mapIdx_zero {α β : Type} [AddCommMonoid β] (l : List α) :
    (l.mapIdx fun _ _ => (0 : β)).sum = 0 :=
  List.sum_eq_zero fun x hx => by
    obtain ⟨_, _, rfl⟩ := List.mem_mapIdx.mp hx
    rfl

lemma heldFor_eq_zero {r : Nat × Nat} {X : Multiset Posting} (h : ∀ e ∈ X, e.pairFor r = none) :
    Posting.heldFor r X = 0 :=
  Multiset.filter_eq_nil.mpr fun e he => by simp [h e he]

lemma resultsAt_eq_zero {q : Nat} {X : Multiset Posting} (h : ∀ e ∈ X, e.resultAt q = none) :
    Posting.resultsAt q X = 0 := by
  rcases X with ⟨l⟩
  show Multiset.filterMap _ (l : Multiset Posting) = 0
  rw [Multiset.filterMap_coe, List.filterMap_eq_nil_iff.mpr fun e he => h e he]
  rfl

lemma mem_contextLedger {w : Nat} {c : JobContext} {e : Posting} (he : e ∈ c.ledger w) :
    e = .mapInput ∨ e = .mapOutput ∨ e = .reduceInput ∨ e = .reduceOutput ∨
      ∃ p ∈ c.results, e = .result w p.1 p.2 := by
  simp only [JobContext.ledger, Multiset.mem_add, Multiset.mem_nsmul, Multiset.mem_singleton,
    Multiset.mem_coe, List.mem_map] at he
  rcases he with ((((⟨-, rfl⟩ | ⟨-, rfl⟩) | ⟨-, rfl⟩) | ⟨-, rfl⟩) | ⟨p, hp, rfl⟩)
  · exact .inl rfl
  · exact .inr (.inl rfl)
  · exact .inr (.inr (.inl rfl))
  · exact .inr (.inr (.inr (.inl rfl)))
  · exact .inr (.inr (.inr (.inr ⟨p, hp, rfl⟩)))

lemma mem_boltLedger {w i : Nat} {b : BoltExecutor} {e : Posting} (he : e ∈ b.ledger w i) :
    ∃ k v, e = .held w i k v := by
  unfold BoltExecutor.ledger at he
  split at he
  · obtain ⟨p, -, rfl⟩ := List.mem_map.mp (Multiset.mem_coe.mp he)
    exact ⟨p.1, p.2, rfl⟩
  · cases he

lemma heldFor_context (r : Nat × Nat) (w : Nat) (c : JobContext) : Posting.heldFor r (c.ledger w) = 0 :=
  heldFor_eq_zero fun e he => by
    rcases mem_contextLedger he with rfl | rfl | rfl | rfl | ⟨p, -, rfl⟩ <;> rfl

lemma resultsAt_context (q w : Nat) (c : JobContext) :
    Posting.resultsAt q (c.ledger w) = if w = q then (c.results : Multiset (String × String)) else 0 := by
  have hcount : Posting.resultsAt q (c.mapInputs • {.mapInput} + c.mapOutputs • {.mapOutput} +
      c.reduceInputs • {.reduceInput} + c.reduceOutputs • {.reduceOutput}) = 0 := by
    simp [map_nsmul, Posting.resultAt]
  rw [JobContext.ledger, map_add, hcount, zero_add]
  rw [Posting.resultsAt_apply, Multiset.filterMap_coe, List.filterMap_map]
  split
  · rename_i hwq
    have hsome : (Posting.resultAt q ∘ fun p : String × String => Posting.result w p.1 p.2) = some :=
      funext fun p => by simp [Posting.resultAt, hwq]
    rw [hsome, List.filterMap_some]
  · rename_i hwq
    rw [List.filterMap_eq_nil_iff.mpr fun p _ => by simp [Posting.resultAt, hwq]]
    rfl

lemma heldFor_boltLedger (r : Nat × Nat) (w i : Nat) (b : BoltExecutor) :
    Posting.heldFor r (b.ledger w i) = if (w, i) = r then b.ledger w i else 0 := by
  split
  · rename_i h
    refine Multiset.filter_eq_self.mpr fun e he => ?_
    obtain ⟨k, v, rfl⟩ := mem_boltLedger he
    simp [Posting.pairFor, h]
  · rename_i h
    exact heldFor_eq_zero fun e he => by
      obtain ⟨k, v, rfl⟩ := mem_boltLedger he
      simp [Posting.pairFor, h]

lemma resultsAt_boltLedger (q w i : Nat) (b : BoltExecutor) : Posting.resultsAt q (b.ledger w i) = 0 :=
  resultsAt_eq_zero fun e he => by
    obtain ⟨k, v, rfl⟩ := mem_boltLedger he
    rfl

lemma pairsFor_boltLedger {b : BoltExecutor} {job : Reducer} {held : List (String × List String)}
    (hlog : b.logic = .reduce job held) (w i : Nat) :
    Posting.pairsFor (w, i) (b.ledger w i) = pairsIn held := by
  have hsome : (Posting.pairFor (w, i) ∘ fun p : String × String => Posting.held w i p.1 p.2) = some :=
    funext fun p => by simp [Posting.pairFor]
  simp only [BoltExecutor.ledger, hlog]
  rw [Posting.pairsFor_apply, Multiset.filterMap_coe, List.filterMap_map, hsome, List.filterMap_some]

lemma mem_list_sum {α : Type} {l : List (Multiset α)} {e : α} (h : e ∈ l.sum) : ∃ X ∈ l, e ∈ X := by
  induction l with
  | nil => simp at h
  | cons X l ih =>
    rw [List.sum_cons, Multiset.mem_add] at h
    rcases h with h | h
    · exact ⟨X, List.mem_cons_self, h⟩
    · obtain ⟨Y, hY, hy⟩ := ih h
      exact ⟨Y, List.mem_cons_of_mem _ hY, hy⟩

lemma mem_mapValue {x : Tuple} {e : Posting} (he : e ∈ M.mapValue J x) :
    e = .mapInput ∨ e = .mapOutput ∨ ∃ p, e = M.holding p := by
  rcases Multiset.mem_add.mp he with he | he
  · exact .inl (Multiset.mem_singleton.mp he)
  · obtain ⟨y, hy, hey⟩ := mem_list_sum he
    obtain ⟨p, -, rfl⟩ := List.mem_map.mp hy
    rcases Multiset.mem_add.mp hey with he | he
    · exact .inr (.inl (Multiset.mem_singleton.mp he))
    · exact .inr (.inr ⟨p, Multiset.mem_singleton.mp he⟩)

lemma mem_streamValue {c : String} (hc : c ≠ M.map) {q : Nat} {x : Tuple} {e : Posting}
    (he : e ∈ M.streamValue J c q x) :
    (c = M.reduce ∧ ∃ i k v, e = .held q i k v) ∨ (c = M.print ∧ ∃ k v, e = .result q k v) := by
  unfold streamValue at he
  rw [if_neg hc] at he
  split at he
  · split at he
    · exact .inl ⟨‹_›, _, _, _, Multiset.mem_singleton.mp he⟩
    · split at he
      · exact .inr ⟨‹_›, _, _, Multiset.mem_singleton.mp (Multiset.mem_nsmul.mp he).2⟩
      · cases he
  · cases he

lemma resultsAt_mapValue (q : Nat) (x : Tuple) : Posting.resultsAt q (M.mapValue J x) = 0 :=
  resultsAt_eq_zero fun e he => by
    rcases mem_mapValue he with rfl | rfl | ⟨p, rfl⟩ <;> rfl

section Reading

variable {β : Type} [AddCommMonoid β] (φ : Multiset Posting →+ β)

lemma map_ledger (s : World) :
    φ (M.ledger J s) = ((List.range D.addresses.length).map fun w => ((s.job? ⟨w, D.job⟩).map fun j =>
      φ (j.context.ledger w) + (j.bolts.mapIdx fun i b => φ (b.ledger w i)).sum +
        (j.routers.map fun e => φ (M.sendersLedger J e.1 w e.2.senders)).sum).getD 0).sum := by
  rw [ledger, map_list_sum, List.map_map]
  refine congrArg List.sum (List.map_congr_left fun w _ => ?_)
  cases hj : s.job? ⟨w, D.job⟩ with
  | none => simp [hj]
  | some j => simp [hj, jobLedger, map_list_sum, List.map_map, Function.comp_def, map_mapIdx]

lemma map_routers_eq_zero {j : Job} (hnd : (j.routers.map (·.1)).Nodup) {w : Nat}
    (h : ∀ c r, j.router? c = some r → ∀ k S, r.senders[k]? = some S → ∀ x ∈ S.held,
      φ (M.streamValue J c (Job.peerWorker w k) x) = 0) :
    (j.routers.map fun e => φ (M.sendersLedger J e.1 w e.2.senders)).sum = 0 := by
  refine List.sum_eq_zero fun y hy => ?_
  obtain ⟨e, he, rfl⟩ := List.mem_map.mp hy
  rw [sendersLedger, map_list_sum, map_mapIdx]
  refine List.sum_eq_zero fun z hz => ?_
  obtain ⟨k, hk, rfl⟩ := List.mem_mapIdx.mp hz
  rw [map_list_sum, List.map_map]
  refine List.sum_eq_zero fun u hu => ?_
  obtain ⟨x, hx, rfl⟩ := List.mem_map.mp hu
  exact h e.1 e.2 (lookup_eq_some_of_mem hnd he) k _ (List.getElem?_eq_getElem hk) x hx

end Reading

lemma heldFor_streamValue {c : String} (hc : c ≠ M.map) {q' : Nat} {r : Nat × Nat} (hq : c = M.reduce → q' ≠ r.1)
    (x : Tuple) : Posting.heldFor r (M.streamValue J c q' x) = 0 :=
  heldFor_eq_zero fun e he => by
    rcases mem_streamValue hc he with ⟨hcr, i, k, v, rfl⟩ | ⟨-, k, v, rfl⟩
    · have := hq hcr
      simp only [Posting.pairFor]
      exact if_neg fun h => this (congrArg Prod.fst h)
    · rfl

lemma resultsAt_streamValue {c : String} {q' q : Nat} (hq : c = M.print → q' ≠ q) (x : Tuple) :
    Posting.resultsAt q (M.streamValue J c q' x) = 0 := by
  by_cases hc : c = M.map
  · rw [streamValue, if_pos hc, resultsAt_mapValue]
  · exact resultsAt_eq_zero fun e he => by
      rcases mem_streamValue hc he with ⟨-, i, k, v, rfl⟩ | ⟨hcp, k, v, rfl⟩
      · rfl
      · exact if_neg (hq hcp)

section Reading

variable (hw : D.Wired s)
include hw

/-- The postings held for a reduce executor are its buffer, once nothing is held back on the map
stream anywhere nor on the reduce stream towards its worker. -/
theorem heldFor_ledger (hmap : ∀ q', D.Drained s M.map q') {q i : Nat} (hred : D.Drained s M.reduce q) :
    Posting.heldFor (q, i) (M.ledger J s) = ((s.boltAt D.job q i).map (BoltExecutor.ledger q i)).getD 0 := by
  rw [map_ledger]
  have hpiece : ∀ w, ((s.job? ⟨w, D.job⟩).map fun j => Posting.heldFor (q, i) (j.context.ledger w) +
      (j.bolts.mapIdx fun i' b => Posting.heldFor (q, i) (b.ledger w i')).sum +
      (j.routers.map fun e => Posting.heldFor (q, i) (M.sendersLedger J e.1 w e.2.senders)).sum).getD 0 =
      if w = q then ((s.boltAt D.job q i).map (BoltExecutor.ledger q i)).getD 0 else 0 := fun w => by
    cases hj : s.job? ⟨w, D.job⟩ with
    | none =>
      split
      · rename_i hwq
        subst hwq
        simp [World.boltAt, hj]
      · rfl
    | some j =>
      have hs := hw.shaped_of_job? hj
      -- the senders hold nothing for the executor: nothing on the map stream, and on the reduce
      -- stream only pairs for executors of other workers
      have hrouters := map_routers_eq_zero (M := M) (J := J) (Posting.heldFor (q, i)) (hs.routerKeys ▸ hw.boltKeys)
        fun c r hr k S hS x hx => by
          have hR : s.routerAt D.job w c = some r := by rw [World.routerAt_of_job? hj]; exact hr
          by_cases hcm : c = M.map
          · subst hcm
            rw [hmap _ w r hR k S hS rfl] at hx
            cases hx
          · refine heldFor_streamValue hcm (fun hcr hq => ?_) x
            subst hcr
            rw [hred w r hR k S hS hq] at hx
            cases hx
      simp only [Option.map_some, Option.getD_some, heldFor_context, zero_add, hrouters, add_zero,
        heldFor_boltLedger, Prod.mk.injEq]
      split
      · rename_i hwq
        subst hwq
        simp only [true_and, World.boltAt_of_job? hj]
        exact sum_mapIdx_ite (fun i' b => b.ledger w i') j.bolts i
      · rename_i hwq
        simp [hwq]
  rw [List.map_congr_left fun w _ => hpiece w, sum_range_ite]
  split
  · rfl
  · rename_i hge
    cases hb : s.boltAt D.job q i with
    | none => rfl
    | some b => exact absurd (hw.lt_of_boltAt hb) hge

theorem resultsAt_ledger {q : Nat} (hprint : D.Drained s M.print q) {j : Job} (hj : s.job? ⟨q, D.job⟩ = some j) :
    Posting.resultsAt q (M.ledger J s) = (j.context.results : Multiset (String × String)) := by
  rw [map_ledger]
  have hpiece : ∀ w, ((s.job? ⟨w, D.job⟩).map fun j => Posting.resultsAt q (j.context.ledger w) +
      (j.bolts.mapIdx fun i' b => Posting.resultsAt q (b.ledger w i')).sum +
      (j.routers.map fun e => Posting.resultsAt q (M.sendersLedger J e.1 w e.2.senders)).sum).getD 0 =
      if w = q then (j.context.results : Multiset (String × String)) else 0 := fun w => by
    cases hj' : s.job? ⟨w, D.job⟩ with
    | none =>
      split
      · rename_i hwq
        subst hwq
        rw [hj] at hj'
        cases hj'
      · rfl
    | some j' =>
      have hs := hw.shaped_of_job? hj'
      -- only the print stream carries results, and it holds nothing back towards `q`
      have hrouters := map_routers_eq_zero (M := M) (J := J) (Posting.resultsAt q) (hs.routerKeys ▸ hw.boltKeys)
        fun c r hr k S hS x hx => by
          have hR : s.routerAt D.job w c = some r := by rw [World.routerAt_of_job? hj']; exact hr
          refine resultsAt_streamValue (fun hcp hq => ?_) x
          subst hcp
          rw [hprint w r hR k S hS hq] at hx
          cases hx
      simp only [Option.map_some, Option.getD_some, resultsAt_context, resultsAt_boltLedger, hrouters,
        add_zero]
      split
      · rename_i hwq
        subst hwq
        rw [hj, Option.some.injEq] at hj'
        subst hj'
        simp
      · simp
  rw [List.map_congr_left fun w _ => hpiece w, sum_range_ite, if_pos (hw.lt_of_job? hj)]

/-- A counter's postings in the ledger are those of the workers' contexts, once nothing is held
back on the map stream anywhere. -/
theorem count_ledger (hmap : ∀ q', D.Drained s M.map q') {a : Posting} (hheld : ∀ w i k v, a ≠ .held w i k v)
    (hres : ∀ w k v, a ≠ .result w k v) :
    (M.ledger J s).count a = ((List.range D.addresses.length).map fun w =>
      ((s.job? ⟨w, D.job⟩).map fun j => (j.context.ledger w).count a).getD 0).sum := by
  rw [← Multiset.coe_countAddMonoidHom, map_ledger]
  refine congrArg List.sum (List.map_congr_left fun w _ => ?_)
  cases hj : s.job? ⟨w, D.job⟩ with
  | none => rfl
  | some j =>
    have hs := hw.shaped_of_job? hj
    -- executors hold pairs, and off the map stream senders hold pairs or results
    have hbolts : (j.bolts.mapIdx fun i b => Multiset.countAddMonoidHom a (b.ledger w i)).sum = 0 :=
      List.sum_eq_zero fun y hy => by
        obtain ⟨i, hi, rfl⟩ := List.mem_mapIdx.mp hy
        refine Multiset.count_eq_zero.mpr fun ha => ?_
        obtain ⟨k, v, he⟩ := mem_boltLedger ha
        exact hheld w i k v he
    have hrouters := map_routers_eq_zero (M := M) (J := J) (Multiset.countAddMonoidHom a)
      (hs.routerKeys ▸ hw.boltKeys) (w := w) fun c r hr k S hS x hx => by
        have hR : s.routerAt D.job w c = some r := by rw [World.routerAt_of_job? hj]; exact hr
        by_cases hcm : c = M.map
        · subst hcm
          rw [hmap _ w r hR k S hS rfl] at hx
          cases hx
        · refine Multiset.count_eq_zero.mpr fun ha => ?_
          rcases mem_streamValue hcm ha with ⟨-, i, k', v, he⟩ | ⟨-, k', v, he⟩
          · exact hheld _ i k' v he
          · exact hres _ k' v he
    simp only [Option.map_some, Option.getD_some]
    rw [hbolts, hrouters, add_zero, add_zero]

end Reading

end MapReduce

end Deployment

end Dataflow
