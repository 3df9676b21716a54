import Dataflow.Job
import Mathlib.Data.List.Nodup

/-! Routing across workers. A tuple emitted on one worker and routed by its router, then, for a
peer's slot, by the receiving worker's router among its own executors, lands where routing over
all the executors of the cluster would put it. -/

namespace Dataflow.Router

def slotAt (localCount position k : Nat) : Slot :=
  if k / localCount = position then .mine (k % localCount)
  else .peer (if k / localCount < position then k / localCount else k / localCount - 1)

lemma slotAt_block {localCount position n x : Nat} (hx : x < localCount) :
    slotAt localCount position (localCount * n + x) =
      if n = position then .mine x else .peer (if n < position then n else n - 1) := by
  have hdiv : (localCount * n + x) / localCount = n := by
    rw [Nat.mul_add_div (by omega), Nat.div_eq_of_lt hx, Nat.add_zero]
  have hmod : (localCount * n + x) % localCount = x := by
    rw [Nat.mul_add_mod, Nat.mod_eq_of_lt hx]
  simp only [slotAt, hdiv, hmod]

lemma layout_eq_map (localCount peerCount position : Nat) (hp : position ≤ peerCount) :
    layout localCount peerCount position =
      (List.range (localCount * (peerCount + 1))).map (slotAt localCount position) := by
  simp only [layout, Nat.min_eq_left hp]
  generalize hn : peerCount + 1 = n
  have hle : n ≤ peerCount + 1 := by omega
  clear hn
  induction n with
  | zero => simp
  | succ n ih =>
    rw [List.range_succ, List.flatMap_append, ih (by omega), Nat.mul_succ, List.range_add,
      List.map_append, List.map_map]
    congr 1
    simp only [List.flatMap_cons, List.flatMap_nil, List.append_nil]
    by_cases hn : n = position
    · simp only [hn, if_true]
      refine (List.map_congr_left fun x hx => ?_).symm
      rw [Function.comp_apply, slotAt_block (List.mem_range.mp hx), if_pos rfl]
    · have hj : (if n < position then n else n - 1) < peerCount := by split <;> omega
      rw [if_neg hn, if_pos hj, eq_comm, List.eq_replicate_iff]
      refine ⟨by simp, fun s hs => ?_⟩
      obtain ⟨x, hx, rfl⟩ := List.mem_map.mp hs
      rw [Function.comp_apply, slotAt_block (List.mem_range.mp hx), if_neg hn]

lemma length_layout (localCount peerCount position : Nat) (hp : position ≤ peerCount) :
    (layout localCount peerCount position).length = localCount * (peerCount + 1) := by
  rw [layout_eq_map _ _ _ hp, List.length_map, List.length_range]

lemma getD_layout {localCount peerCount position k : Nat} (hp : position ≤ peerCount)
    (hk : k < localCount * (peerCount + 1)) (d : Slot) :
    (layout localCount peerCount position).getD k d = slotAt localCount position k := by
  rw [layout_eq_map _ _ _ hp, List.getD_eq_getElem?_getD, List.getElem?_map,
    List.getElem?_range hk, Option.map_some, Option.getD_some]

end Dataflow.Router

namespace Dataflow.Job

/-- The worker the `j`-th sender of the worker at `position` pushes to: the workers of the list in
order, skipping `position`. -/
def peerWorker (position j : Nat) : Nat := if j < position then j else j + 1

lemma filter_range_ne (position count : Nat) (hp : position < count) :
    (List.range count).filter (· ≠ position) = (List.range (count - 1)).map (peerWorker position) := by
  obtain ⟨k, rfl⟩ : ∃ k, count = position + 1 + k := ⟨count - position - 1, by omega⟩
  induction k with
  | zero =>
    rw [Nat.add_zero, List.range_succ, List.filter_append, Nat.add_sub_cancel]
    simp only [List.filter_cons, List.filter_nil, ne_eq, not_true_eq_false, decide_false,
      Bool.false_eq_true, if_false, List.append_nil]
    rw [List.filter_eq_self.mpr fun x hx => by simp [Nat.ne_of_lt (List.mem_range.mp hx)]]
    exact ((List.map_congr_left fun x hx => if_pos (List.mem_range.mp hx)).trans (List.map_id' _)).symm
  | succ k ih =>
    rw [← Nat.add_assoc, List.range_succ, List.filter_append, ih (by omega),
      show position + 1 + k + 1 - 1 = (position + 1 + k - 1) + 1 by omega, List.range_succ,
      List.map_append]
    congr 1
    have hne : position + 1 + k ≠ position := by omega
    simp only [List.filter_cons, List.filter_nil, ne_eq, hne, not_false_eq_true, decide_true,
      if_true, List.map_cons, List.map_nil, peerWorker]
    rw [if_neg (by omega)]
    congr 1
    omega

lemma length_peerSenders (addresses : List String) {position : Nat} (batch : Nat) (job stream : String)
    (hp : position < addresses.length) :
    (peerSenders addresses position batch job stream).length = addresses.length - 1 := by
  rw [peerSenders, List.length_map, filter_range_ne _ _ hp, List.length_map, List.length_range]

lemma address_peerSenders (addresses : List String) {position j : Nat} (batch : Nat) (job stream : String)
    (hp : position < addresses.length) (hj : j < addresses.length - 1) (d : Sender) :
    ((peerSenders addresses position batch job stream).getD j d).address =
      addresses.getD (peerWorker position j) "" := by
  rw [peerSenders, filter_range_ne _ _ hp, List.map_map, List.getD_eq_getElem?_getD,
    List.getElem?_map, List.getElem?_range hj, Option.map_some, Option.getD_some]
  rfl

end Dataflow.Job

namespace Dataflow.Router

/-- The executors, as (worker, local position), that a tuple routed on worker `w` lands on. A local
slot is an executor of `w`; a peer's slot hands the tuple to the worker listening at the sender's
address, whose router passes it on among its own executors. -/
def reach (routers : Nat → Router) (addresses : List String) (w : Nat) (t : Tuple) :
    List (Nat × Nat) :=
  ((routers w).route t).1.flatMap fun
    | .mine i => [(w, i)]
    | .peer j =>
      let q := addresses.idxOf ((routers w).senders.getD j default).address
      ((routers q).routeLocally t).1.flatMap fun
        | .mine i => [(q, i)]
        | .peer _ => []

/-- The routers of one stream of a job on every worker of the list, as the job's wiring makes
them, each with its own shuffle counter. -/
def wired (addresses : List String) (batch : Nat) (job stream : String) (grouping : Grouping)
    (locals : Nat → List Nat) (next : Nat → Nat) (w : Nat) : Router :=
  { Job.streamRouter addresses w batch job stream grouping (locals w) with next := next w }

def executors (workers localCount : Nat) : List (Nat × Nat) :=
  (List.range workers).flatMap fun q => (List.range localCount).map (q, ·)

lemma route_of_endOfStream (r : Router) {t : Tuple} (h : t.endOfStream = true) :
    (r.route t).1 = r.everywhere := by
  simp [route, h]

lemma routeLocally_of_endOfStream (r : Router) {t : Tuple} (h : t.endOfStream = true) :
    (r.routeLocally t).1 = r.everyLocal := by
  simp [routeLocally, h]

section Data

variable (r : Router) {t : Tuple}

lemma route_fields (h : t.endOfStream = false) (hs : r.slots ≠ []) {names : Fields} (hg : r.grouping = .fields names) :
    (r.route t).1 = [r.slots.getD (partitionFor (partitionKey names t) r.slots.length) (.mine 0)] := by
  simp [route, h, hs, hg]

lemma route_shuffle (h : t.endOfStream = false) (hs : r.slots ≠ []) (hg : r.grouping = .shuffle) :
    (r.route t).1 = [r.slots.getD (r.next % r.slots.length) (.mine 0)] := by
  simp [route, h, hs, hg]

lemma route_broadcast (h : t.endOfStream = false) (hs : r.slots ≠ []) (hg : r.grouping = .broadcast) :
    (r.route t).1 = r.everywhere := by
  simp [route, h, hs, hg]

lemma routeLocally_fields (h : t.endOfStream = false) (hs : r.locals ≠ []) {names : Fields} (hg : r.grouping = .fields names) :
    (r.routeLocally t).1 = [.mine (partitionFor (partitionKey names t) r.locals.length)] := by
  simp [routeLocally, h, hs, hg]

lemma routeLocally_shuffle (h : t.endOfStream = false) (hs : r.locals ≠ []) (hg : r.grouping = .shuffle) :
    (r.routeLocally t).1 = [.mine (r.next % r.locals.length)] := by
  simp [routeLocally, h, hs, hg]

lemma routeLocally_broadcast (h : t.endOfStream = false) (hs : r.locals ≠ []) (hg : r.grouping = .broadcast) :
    (r.routeLocally t).1 = r.everyLocal := by
  simp [routeLocally, h, hs, hg]

end Data

lemma mem_executors {workers localCount q i : Nat} :
    (q, i) ∈ executors workers localCount ↔ q < workers ∧ i < localCount := by
  simp [executors]

lemma nodup_executors (workers localCount : Nat) : (executors workers localCount).Nodup := by
  rw [executors, List.nodup_flatMap]
  refine ⟨fun q _ => List.nodup_range.map fun _ _ h => (Prod.mk.inj h).2, ?_⟩
  refine List.nodup_range.imp fun {q q'} hne => List.disjoint_left.mpr fun {x} hx hx' => ?_
  obtain ⟨i, -, rfl⟩ := List.mem_map.mp hx
  obtain ⟨i', -, he⟩ := List.mem_map.mp hx'
  exact hne (Prod.mk.inj he).1.symm

lemma count_executors (workers localCount q i : Nat) :
    (executors workers localCount).count (q, i) = if q < workers ∧ i < localCount then 1 else 0 := by
  by_cases h : q < workers ∧ i < localCount
  · rw [if_pos h, List.count_eq_one_of_mem (nodup_executors _ _) (mem_executors.mpr h)]
  · rw [if_neg h, List.count_eq_zero_of_not_mem (mt mem_executors.mp h)]

lemma perm_executors {workers w localCount : Nat} (hw : w < workers) :
    ((w :: (List.range (workers - 1)).map (Job.peerWorker w)).flatMap fun q =>
      (List.range localCount).map (q, ·)).Perm (executors workers localCount) := by
  have he : (List.range workers).filter (· ≠ w) = (List.range workers).erase w := by
    rw [List.nodup_range.erase_eq_filter]
    exact List.filter_congr fun x _ => by by_cases h : x = w <;> simp [h]
  rw [← Job.filter_range_ne w workers hw, he]
  exact ((List.perm_cons_erase (List.mem_range.mpr hw)).flatMap_right _).symm

section Wired

variable {addresses : List String} {batch : Nat} {job stream : String} {grouping : Grouping}
  {locals : Nat → List Nat} {next : Nat → Nat} {localCount w : Nat}

@[simp] lemma wired_grouping :
    (wired addresses batch job stream grouping locals next w).grouping = grouping := rfl

@[simp] lemma wired_locals :
    (wired addresses batch job stream grouping locals next w).locals = locals w := rfl

@[simp] lemma wired_next :
    (wired addresses batch job stream grouping locals next w).next = next w := rfl

lemma wired_slots (hw : w < addresses.length) :
    (wired addresses batch job stream grouping locals next w).slots =
      layout (locals w).length (addresses.length - 1) w := by
  simp [wired, Job.streamRouter, make, Job.length_peerSenders _ _ _ _ hw]

lemma wired_slots_length (hw : w < addresses.length) :
    (wired addresses batch job stream grouping locals next w).slots.length =
      (locals w).length * addresses.length := by
  rw [wired_slots hw, length_layout _ _ _ (by omega), Nat.sub_add_cancel (by omega)]

lemma wired_slot (hw : w < addresses.length) {k : Nat} (hk : k < (locals w).length * addresses.length)
    (d : Slot) :
    (wired addresses batch job stream grouping locals next w).slots.getD k d =
      slotAt (locals w).length w k := by
  rw [wired_slots hw, getD_layout (by omega) (by rwa [Nat.sub_add_cancel (by omega)])]

lemma wired_receiver (hnd : addresses.Nodup) (hw : w < addresses.length) {j : Nat}
    (hj : j < addresses.length - 1) :
    addresses.idxOf ((wired addresses batch job stream grouping locals next w).senders.getD j
      default).address = Job.peerWorker w j := by
  have hq : Job.peerWorker w j < addresses.length := by unfold Job.peerWorker; split <;> omega
  simp only [wired, Job.streamRouter, make]
  rw [Job.address_peerSenders _ _ _ _ hw hj, List.getD_eq_getElem?_getD, List.getElem?_eq_getElem hq,
    Option.getD_some, hnd.idxOf_getElem]

lemma peerWorker_lt {workers : Nat} (hw : w < workers) {j : Nat} (hj : j < workers - 1) :
    Job.peerWorker w j < workers := by
  unfold Job.peerWorker; split <;> omega

lemma reach_peer (hnd : addresses.Nodup) (hw : w < addresses.length) {t : Tuple} {j : Nat} (hj : j < addresses.length - 1)
    (hs : ((wired addresses batch job stream grouping locals next w).route t).1 = [.peer j]) :
    reach (wired addresses batch job stream grouping locals next) addresses w t =
      (((wired addresses batch job stream grouping locals next (Job.peerWorker w j)).routeLocally
        t).1.flatMap fun
          | .mine i => [(Job.peerWorker w j, i)]
          | .peer _ => []) := by
  simp only [reach, hs, List.flatMap_cons, List.flatMap_nil, List.append_nil]
  rw [wired_receiver hnd hw hj]

lemma locals_ne_nil (hL : 0 < localCount) (hlen : ∀ q, (locals q).length = localCount) (q : Nat) : (wired addresses batch job stream grouping locals next q).locals ≠ [] := by
  rw [wired_locals, ← List.length_pos_iff, hlen]; exact hL

variable (hL : 0 < localCount) (hlen : ∀ q, (locals q).length = localCount)
  (hnd : addresses.Nodup) (hw : w < addresses.length)
include hL hlen hnd hw

lemma reach_fields {names : Fields} (hg : grouping = .fields names) {t : Tuple}
    (ht : t.endOfStream = false) :
    let h := (KeyHash.ofString (partitionKey names t)).toNat
    reach (wired addresses batch job stream grouping locals next) addresses w t =
      [(h % (localCount * addresses.length) / localCount, h % localCount)] := by
  intro h
  have hslots : (wired addresses batch job stream grouping locals next w).slots.length =
      localCount * addresses.length := by rw [wired_slots_length hw, hlen]
  have hpos : 0 < localCount * addresses.length := Nat.mul_pos hL (by omega)
  have hk : h % (localCount * addresses.length) < localCount * addresses.length := Nat.mod_lt _ hpos
  have hkw : h % (localCount * addresses.length) / localCount < addresses.length :=
    (Nat.div_lt_iff_lt_mul hL).mpr (Nat.mul_comm localCount _ ▸ hk)
  have hmod : h % (localCount * addresses.length) % localCount = h % localCount :=
    Nat.mod_mul_right_mod _ _ _
  have hroute : ((wired addresses batch job stream grouping locals next w).route t).1 =
      [slotAt localCount w (h % (localCount * addresses.length))] := by
    rw [route_fields _ ht (List.ne_nil_of_length_pos (by omega)) (by rw [wired_grouping, hg]),
      hslots, partitionFor, if_neg (by omega), wired_slot hw (by rwa [hlen]), hlen]
  generalize hk' : h % (localCount * addresses.length) = k at hroute hk hkw hmod
  unfold slotAt at hroute
  split at hroute
  · rename_i hkq
    simp only [reach, hroute, List.flatMap_cons, List.flatMap_nil, List.append_nil, hkq, hmod]
  · rename_i hkq
    have hj : (if k / localCount < w then k / localCount else k / localCount - 1) <
        addresses.length - 1 := by
      rcases Nat.lt_or_ge (k / localCount) w with hlt | hge
      · rw [if_pos hlt]; omega
      · rw [if_neg (by omega)]; omega
    have hq : Job.peerWorker w (if k / localCount < w then k / localCount else k / localCount - 1) =
        k / localCount := by
      unfold Job.peerWorker
      rcases Nat.lt_or_ge (k / localCount) w with hlt | hge
      · rw [if_pos hlt, if_pos hlt]
      · rw [if_neg (show ¬k / localCount < w by omega), if_neg (by omega)]
        omega
    rw [reach_peer hnd hw hj hroute, hq, routeLocally_fields _ ht (locals_ne_nil hL hlen _)
      (by rw [wired_grouping, hg]), wired_locals, hlen]
    simp only [partitionFor, if_neg (Nat.ne_of_gt hL), List.flatMap_cons, List.flatMap_nil,
      List.append_nil]
    rfl

lemma reach_shuffle (hg : grouping = .shuffle) {t : Tuple} (ht : t.endOfStream = false) :
    ∃ q i, q < addresses.length ∧ i < localCount ∧
      reach (wired addresses batch job stream grouping locals next) addresses w t = [(q, i)] := by
  have hslots : (wired addresses batch job stream grouping locals next w).slots.length =
      localCount * addresses.length := by rw [wired_slots_length hw, hlen]
  have hpos : 0 < localCount * addresses.length := Nat.mul_pos hL (by omega)
  have hk : next w % (localCount * addresses.length) < localCount * addresses.length :=
    Nat.mod_lt _ hpos
  have hroute : ((wired addresses batch job stream grouping locals next w).route t).1 =
      [slotAt localCount w (next w % (localCount * addresses.length))] := by
    rw [route_shuffle _ ht (List.ne_nil_of_length_pos (by omega)) (by rw [wired_grouping, hg]),
      hslots, wired_next, wired_slot hw (by rwa [hlen]), hlen]
  generalize next w % (localCount * addresses.length) = k at hroute hk
  have hkw : k / localCount < addresses.length :=
    (Nat.div_lt_iff_lt_mul hL).mpr (Nat.mul_comm localCount _ ▸ hk)
  unfold slotAt at hroute
  split at hroute
  · rename_i hkq
    refine ⟨w, k % localCount, hw, Nat.mod_lt _ hL, ?_⟩
    simp only [reach, hroute, List.flatMap_cons, List.flatMap_nil, List.append_nil]
  · rename_i hkq
    have hj : (if k / localCount < w then k / localCount else k / localCount - 1) <
        addresses.length - 1 := by
      rcases Nat.lt_or_ge (k / localCount) w with hlt | hge
      · rw [if_pos hlt]; omega
      · rw [if_neg (by omega)]; omega
    generalize (if k / localCount < w then k / localCount else k / localCount - 1) = j at hroute hj
    refine ⟨Job.peerWorker w j, next (Job.peerWorker w j) % localCount, peerWorker_lt hw hj,
      Nat.mod_lt _ hL, ?_⟩
    rw [reach_peer hnd hw hj hroute, routeLocally_shuffle _ ht (locals_ne_nil hL hlen _)
      (by rw [wired_grouping, hg]), wired_locals, hlen, wired_next]
    rfl

omit hL in
lemma reach_everywhere {t : Tuple}
    (hs : ((wired addresses batch job stream grouping locals next w).route t).1 =
      (wired addresses batch job stream grouping locals next w).everywhere)
    (hr : ∀ q, ((wired addresses batch job stream grouping locals next q).routeLocally t).1 =
      (wired addresses batch job stream grouping locals next q).everyLocal) :
    reach (wired addresses batch job stream grouping locals next) addresses w t =
      (w :: (List.range (addresses.length - 1)).map (Job.peerWorker w)).flatMap fun q =>
        (List.range localCount).map (q, ·) := by
  have hsenders : (wired addresses batch job stream grouping locals next w).senders.length =
      addresses.length - 1 := Job.length_peerSenders _ _ _ _ hw
  simp only [reach, hs, everywhere, wired_locals, hlen, hsenders, List.flatMap_append,
    List.flatMap_cons]
  congr 1
  · rw [List.flatMap_map, ← List.flatMap_pure_eq_map]
    rfl
  · rw [List.flatMap_map, List.flatMap_map]
    refine List.flatMap_congr fun j hj => ?_
    dsimp only
    rw [wired_receiver hnd hw (List.mem_range.mp hj), hr, everyLocal, wired_locals, hlen,
      List.flatMap_map, ← List.flatMap_pure_eq_map]
    rfl

end Wired

/-- Routing over all the executors of the cluster, `localCount` on each worker of the list: a fields
grouping puts a tuple on executor `h mod localCount` of worker `(h mod localCount·W) / localCount`
for the hash `h` of its key, a shuffle on one executor, a broadcast and an end of stream on every
executor once. -/
def LogicalRouting (routers : Nat → Router) (addresses : List String) (grouping : Grouping)
    (localCount w : Nat) : Prop :=
  (∀ names, grouping = .fields names → ∀ t : Tuple, t.endOfStream = false →
    let h := (KeyHash.ofString (partitionKey names t)).toNat
    reach routers addresses w t =
      [(h % (localCount * addresses.length) / localCount, h % localCount)]) ∧
  (grouping = .shuffle → ∀ t : Tuple, t.endOfStream = false →
    ∃ q i, q < addresses.length ∧ i < localCount ∧ reach routers addresses w t = [(q, i)]) ∧
  (grouping = .broadcast → ∀ t : Tuple, t.endOfStream = false → ∀ q i,
    (reach routers addresses w t).count (q, i) =
      if q < addresses.length ∧ i < localCount then 1 else 0) ∧
  (∀ t : Tuple, t.endOfStream = true → ∀ q i,
    (reach routers addresses w t).count (q, i) =
      if q < addresses.length ∧ i < localCount then 1 else 0)

/-- The routers the job's wiring makes route a tuple from any worker as routing over all the
executors of the cluster would. -/
theorem wired_routes_logically {addresses : List String} {batch : Nat} {job stream : String}
    {grouping : Grouping} {locals : Nat → List Nat} {next : Nat → Nat} {localCount w : Nat}
    (hL : 0 < localCount) (hlen : ∀ q, (locals q).length = localCount) (hnd : addresses.Nodup)
    (hw : w < addresses.length) :
    LogicalRouting (wired addresses batch job stream grouping locals next) addresses grouping
      localCount w := by
  have hslots : (wired addresses batch job stream grouping locals next w).slots ≠ [] := by
    rw [← List.length_pos_iff, wired_slots_length hw, hlen]
    exact Nat.mul_pos hL (by omega)
  have hcount : ∀ t, reach (wired addresses batch job stream grouping locals next) addresses w t =
      ((w :: (List.range (addresses.length - 1)).map (Job.peerWorker w)).flatMap fun q =>
        (List.range localCount).map (q, ·)) →
      ∀ q i, (reach (wired addresses batch job stream grouping locals next) addresses w t).count (q, i) =
        if q < addresses.length ∧ i < localCount then 1 else 0 := by
    intro t ht q i
    rw [ht, (perm_executors hw).count_eq, count_executors]
  refine ⟨fun names hg t ht => reach_fields hL hlen hnd hw hg ht,
    fun hg t ht => reach_shuffle hL hlen hnd hw hg ht, fun hg t ht => hcount t ?_,
    fun t ht => hcount t ?_⟩
  · exact reach_everywhere hlen hnd hw (route_broadcast _ ht hslots (by rw [wired_grouping, hg]))
      fun q => routeLocally_broadcast _ ht (locals_ne_nil hL hlen q) (by rw [wired_grouping, hg])
  · exact reach_everywhere hlen hnd hw (route_of_endOfStream _ ht)
      fun q => routeLocally_of_endOfStream _ ht

/-- Two workers with two executors each of a stream grouped by `key`. -/
theorem wired_routes_logically_two_workers :
    0 < 2 ∧ (∀ q : Nat, ((fun _ => [0, 1] : Nat → List Nat) q).length = 2) ∧ ["w0", "w1"].Nodup ∧
      0 < ["w0", "w1"].length ∧
      LogicalRouting (wired ["w0", "w1"] 1 "job" "reduce" (.fields ⟨["key"]⟩) (fun _ => [0, 1])
        (fun _ => 0)) ["w0", "w1"] (.fields ⟨["key"]⟩) 2 0 :=
  ⟨by decide, fun _ => rfl, by decide, by decide,
    wired_routes_logically (by decide) (fun _ => rfl) (by decide) (by decide)⟩

end Dataflow.Router
