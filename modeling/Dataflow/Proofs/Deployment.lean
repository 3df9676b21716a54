import Dataflow.Proofs.View
import Dataflow.Proofs.Routing
import Mathlib.Data.List.Perm.Subperm
/-!
A job deployed on a cluster: one topology instantiated on every worker of an address list, each
worker knowing its own position in the list, with distinct executor ids across the cluster and a
link that hands every push to the worker at the address.

`Wired` collects what the deployment fixes and no flow changes: executors, their nodes, routes and
expected votes, and the routers' layouts and destinations. `Consistent` is the invariant of the
end-of-stream protocol: tallies count distinct closed feeders, a forwarded end of stream has
reached every executor it feeds, a finalized executor that has not forwarded its end of stream
waits on a feeder that has not either, and a sender holds only data from its worker's executors
that have not yet voted where the data goes.
-/
namespace Dataflow

structure Deployment where
  job : String
  topology : Topology
  addresses : List String

namespace Deployment

variable (D : Deployment)

/-- What instantiating the topology fixes of the job on the worker at position `w`. -/
structure Shaped (w : Nat) (j : Job) : Prop where
  topology : j.topology = D.topology
  spout : ∀ sp ∈ j.spouts,
    (D.topology.spouts.lookup sp.node).isSome ∧ sp.routes = D.topology.subscribers sp.node
  bolt : ∀ b ∈ j.bolts, ∃ d, D.topology.bolts.lookup b.node = some d ∧
    b.routes = D.topology.subscribers b.node ∧
    b.tally.expected = (D.topology.parallelism d.input).getD 0 * D.addresses.length
  count : ∀ n, (j.spouts.map (·.node)).count n + (j.bolts.map (·.node)).count n =
    (D.topology.parallelism n).getD 0
  routerKeys : j.routers.map (·.1) = D.topology.bolts.map (·.1)
  router : ∀ c d, D.topology.bolts.lookup c = some d → ∃ batch,
    (j.router? c).map Router.fixed = some (Job.streamRouter D.addresses w batch D.job c d.grouping (j.boltsOf c))

/-- Executor ids are distinct across the cluster: two executors with one id are one executor. -/
structure DistinctIds (s : World) : Prop where
  bolts : ∀ w i b w' i' b', s.boltAt D.job w i = some b → s.boltAt D.job w' i' = some b' →
    b.id = b'.id → w = w' ∧ i = i'
  spouts : ∀ w i sp w' i' sp', s.spoutAt D.job w i = some sp → s.spoutAt D.job w' i' = some sp' →
    sp.id = sp'.id → w = w' ∧ i = i'
  mixed : ∀ w i b w' i' sp, s.boltAt D.job w i = some b → s.spoutAt D.job w' i' = some sp → b.id ≠ sp.id

/-- What the deployment fixes: the workers and the link, the shape of the job on every worker,
distinct executor ids, and a topology that passed validation, its nodes named once. -/
structure Wired (s : World) : Prop where
  workers : s.workers.length = D.addresses.length
  link : ∃ repeatEos, s.link = .loopback repeatEos
  address : ∀ q < D.addresses.length, s.workerAt? (D.addresses.getD q "") = some q
  shaped : ∀ w < D.addresses.length, ∃ j, s.job? ⟨w, D.job⟩ = some j ∧ D.Shaped w j
  distinct : D.DistinctIds s
  valid : D.topology.Valid
  spoutKeys : (D.topology.spouts.map (·.1)).Nodup
  boltKeys : (D.topology.bolts.map (·.1)).Nodup

def HostsId (s : World) (w : Nat) (x : String) : Prop :=
  (∃ i b, s.boltAt D.job w i = some b ∧ b.id = x) ∨ (∃ i sp, s.spoutAt D.job w i = some sp ∧ sp.id = x)

/-- `x` is the id of a closed executor of `node`: a finalized bolt executor or a done spout
executor. -/
def ClosedFeeder (s : World) (node x : String) : Prop :=
  (∃ w i b, s.boltAt D.job w i = some b ∧ b.id = x ∧ b.node = node ∧ b.finalized = true) ∨
    (∃ w i sp, s.spoutAt D.job w i = some sp ∧ sp.id = x ∧ sp.node = node ∧ sp.done = true)

def VotedAt (s : World) (stream x : String) : Prop :=
  ∀ w i d, s.boltAt D.job w i = some d → d.node = stream → x ∈ d.tally.voters

def Unsent (s : World) (x : String) : Prop :=
  (∀ w i b, s.boltAt D.job w i = some b → b.id = x → b.sentEos = false) ∧
    (∀ w i sp, s.spoutAt D.job w i = some sp → sp.id = x → sp.sentEos = false)

def idsAt (s : World) (w : Nat) (node : String) : List String :=
  ((s.job? ⟨w, D.job⟩).map fun j =>
    (j.spouts.filter (·.node = node)).map (·.id) ++ (j.bolts.filter (·.node = node)).map (·.id)).getD []

def feederIds (s : World) (node : String) : List String :=
  (List.range D.addresses.length).flatMap fun w => D.idsAt s w node

/-- A sender of stream `c` on worker `w`, the `k`-th towards a peer: with a batch size of one it
holds nothing, and it holds only data from executors of the stream's input on `w` that have not
voted at the stream's executors on the peer. -/
def SenderOk (s : World) (w : Nat) (c : String) (k : Nat) (S : Sender) : Prop :=
  (S.batchSize = 1 → S.held = []) ∧ ∀ x ∈ S.held, x.endOfStream = false ∧
    (∃ d, D.topology.bolts.lookup c = some d ∧ x.source ∈ D.idsAt s w d.input) ∧
    ∀ i b, s.boltAt D.job (Job.peerWorker w k) i = some b → b.node = c → x.source ∉ b.tally.voters

structure Consistent (s : World) : Prop where
  tally : ∀ w i b, s.boltAt D.job w i = some b → b.tally.voters.Nodup ∧
    b.finalized = b.tally.reached ∧ (b.tally.reached = true ↔ b.tally.expected ≤ b.tally.voters.length)
  voters : ∀ w i b, s.boltAt D.job w i = some b → ∀ d, D.topology.bolts.lookup b.node = some d →
    ∀ x ∈ b.tally.voters, D.ClosedFeeder s d.input x
  boltSent : ∀ w i b, s.boltAt D.job w i = some b → b.sentEos = true →
    b.finalized = true ∧ ∀ c ∈ b.routes, D.VotedAt s c b.id
  spoutSent : ∀ w i sp, s.spoutAt D.job w i = some sp → sp.sentEos = true →
    sp.done = true ∧ ∀ c ∈ sp.routes, D.VotedAt s c sp.id
  stuck : ∀ w i b, s.boltAt D.job w i = some b → b.finalized = true → b.sentEos = false →
    ∃ last, b.tally.voters.getLast? = some last ∧ D.Unsent s last
  held : ∀ w c r, s.routerAt D.job w c = some r → ∀ k S, r.senders[k]? = some S → D.SenderOk s w c k S
  seen : ∀ w, ∀ e ∈ s.seenAt D.job w, ∀ i d, s.boltAt D.job w i = some d → d.node = e.1 →
    e.2 ∈ d.tally.voters
  errors : ∀ w j, s.job? ⟨w, D.job⟩ = some j → ∀ r ∈ j.context.errors, r.code ≠ "PROTOCOL_VIOLATION"

/-- A router as wiring made it for a stream on a worker: its executors are the stream's bolt
executors there, its senders go to the other workers in order, and its slots name one of them. -/
structure RouterWired (s : World) (w : Nat) (c : String) (r : Router) : Prop where
  lookup : ∃ d, D.topology.bolts.lookup c = some d ∧ r.grouping = d.grouping
  locals : ∀ k < r.locals.length, ∃ b, s.boltAt D.job w (r.locals.getD k 0) = some b ∧ b.node = c
  everyLocal : ∀ i b, s.boltAt D.job w i = some b → b.node = c →
    ∃ k < r.locals.length, r.locals.getD k 0 = i
  peers : r.senders.length + 1 = D.addresses.length
  sender : ∀ k S, r.senders[k]? = some S → S.address = D.addresses.getD (Job.peerWorker w k) "" ∧
    S.job = D.job ∧ S.stream = c ∧ 1 ≤ S.batchSize
  slots : ∀ sl ∈ r.slots,
    (∃ i, sl = .mine i ∧ i < r.locals.length) ∨ (∃ k, sl = .peer k ∧ k < r.senders.length)

variable {D}

/-! ### The fixed part carries the shape -/

lemma Shaped.of_fixed {w : Nat} {j j' : Job} (hs : D.Shaped w j) (h : j'.fixed = j.fixed) :
    D.Shaped w j' := by
  have hsp : j'.spouts.map SpoutExecutor.fixed = j.spouts.map SpoutExecutor.fixed := congrArg Job.spouts h
  have hbo : j'.bolts.map BoltExecutor.fixed = j.bolts.map BoltExecutor.fixed := congrArg Job.bolts h
  have hro : j'.routers.map (fun e => (e.1, e.2.fixed)) = j.routers.map (fun e => (e.1, e.2.fixed)) :=
    congrArg Job.routers h
  have hsn : j'.spouts.map (·.node) = j.spouts.map (·.node) := by
    simpa [List.map_map, Function.comp_def, SpoutExecutor.fixed] using congrArg (List.map (·.node)) hsp
  have hbn : j'.bolts.map (·.node) = j.bolts.map (·.node) := by
    simpa [List.map_map, Function.comp_def, BoltExecutor.fixed] using congrArg (List.map (·.node)) hbo
  refine ⟨?_, fun sp hsp' => ?_, fun b hb' => ?_, fun n => ?_, ?_, fun c d hd => ?_⟩
  · have ht := congrArg Job.topology h
    rw [← hs.topology]
    exact ht
  · have hmem : sp.fixed ∈ j.spouts.map SpoutExecutor.fixed := hsp ▸ List.mem_map_of_mem hsp'
    obtain ⟨sp₀, hsp₀, he⟩ := List.mem_map.mp hmem
    obtain ⟨-, hn, hr⟩ := SpoutExecutor.fixed_eq_iff.mp he
    rw [← hn, ← hr]
    exact hs.spout sp₀ hsp₀
  · have hmem : b.fixed ∈ j.bolts.map BoltExecutor.fixed := hbo ▸ List.mem_map_of_mem hb'
    obtain ⟨b₀, hb₀, he⟩ := List.mem_map.mp hmem
    obtain ⟨-, hn, hr, hx⟩ := BoltExecutor.fixed_eq_iff.mp he
    rw [← hn, ← hr, ← hx]
    exact hs.bolt b₀ hb₀
  · rw [hsn, hbn]
    exact hs.count n
  · rw [← hs.routerKeys]
    simpa [List.map_map, Function.comp_def] using congrArg (List.map (·.1)) hro
  · obtain ⟨batch, hb⟩ := hs.router c d hd
    refine ⟨batch, ?_⟩
    have hr : (j'.router? c).map Router.fixed = (j.router? c).map Router.fixed := by
      simp only [Job.router?, ← lookup_map_pair fun _ (r : Router) => r.fixed, hro]
    rw [hr, hb, Job.boltsOf_eq_of_nodes hbn]

lemma DistinctIds.of_fixedOf {s s' : World} (hd : D.DistinctIds s) (h : s'.fixedOf D.job = s.fixedOf D.job) :
    D.DistinctIds s' := by
  refine ⟨fun w i b w' i' b' hb hb' he => ?_, fun w i sp w' i' sp' hsp hsp' he => ?_,
    fun w i b w' i' sp hb hsp he => ?_⟩
  · obtain ⟨b₀, hb₀, hf⟩ := World.boltAt_fixed_some h hb
    obtain ⟨b₀', hb₀', hf'⟩ := World.boltAt_fixed_some h hb'
    exact hd.bolts w i b₀ w' i' b₀' hb₀ hb₀'
      (by rw [← (BoltExecutor.fixed_eq_iff.mp hf).1, ← (BoltExecutor.fixed_eq_iff.mp hf').1]; exact he)
  · obtain ⟨sp₀, hsp₀, hf⟩ := World.spoutAt_fixed_some h hsp
    obtain ⟨sp₀', hsp₀', hf'⟩ := World.spoutAt_fixed_some h hsp'
    exact hd.spouts w i sp₀ w' i' sp₀' hsp₀ hsp₀'
      (by rw [← (SpoutExecutor.fixed_eq_iff.mp hf).1, ← (SpoutExecutor.fixed_eq_iff.mp hf').1]; exact he)
  · obtain ⟨b₀, hb₀, hf⟩ := World.boltAt_fixed_some h hb
    obtain ⟨sp₀, hsp₀, hf'⟩ := World.spoutAt_fixed_some h hsp
    exact hd.mixed w i b₀ w' i' sp₀ hb₀ hsp₀
      (by rw [← (BoltExecutor.fixed_eq_iff.mp hf).1, ← (SpoutExecutor.fixed_eq_iff.mp hf').1]; exact he)

lemma Wired.of_fixedOf {s s' : World} (hw : D.Wired s) (h : s'.fixedOf D.job = s.fixedOf D.job) :
    D.Wired s' where
  workers := by
    have := congrArg (fun x => x.2.length) h
    simp only [World.fixedOf, List.length_map] at this
    rw [this, hw.workers]
  link := by
    rw [World.link_fixed_eq h]
    exact hw.link
  address q hq := by
    rw [World.workerAt?_fixed_eq h]
    exact hw.address q hq
  shaped w hwl := by
    obtain ⟨j, hj, hs⟩ := hw.shaped w hwl
    have := World.job?_fixed_eq h w
    rw [hj, Option.map_some, Option.map_eq_some_iff] at this
    obtain ⟨j', hj', hf⟩ := this
    exact ⟨j', hj', hs.of_fixed hf⟩
  distinct := hw.distinct.of_fixedOf h
  valid := hw.valid
  spoutKeys := hw.spoutKeys
  boltKeys := hw.boltKeys

/-! ### Reading the wiring -/

lemma getElem?_peerSenders {addresses : List String} {position : Nat} (batch : Nat) (job stream : String)
    (hp : position < addresses.length) (k : Nat) :
    (Job.peerSenders addresses position batch job stream)[k]? =
      ((List.range (addresses.length - 1))[k]?).map fun k =>
        Sender.make (addresses.getD (Job.peerWorker position k) "") job stream batch := by
  rw [Job.peerSenders, Job.filter_range_ne _ _ hp, List.map_map, List.getElem?_map]
  rfl

lemma mem_layout {localCount peerCount position : Nat} (hp : position ≤ peerCount) {sl : Slot}
    (h : sl ∈ Router.layout localCount peerCount position) :
    (∃ i, sl = .mine i ∧ i < localCount) ∨ (∃ k, sl = .peer k ∧ k < peerCount) := by
  rw [Router.layout_eq_map _ _ _ hp] at h
  obtain ⟨k, hk, rfl⟩ := List.mem_map.mp h
  have hk : k < localCount * (peerCount + 1) := List.mem_range.mp hk
  have hL : 0 < localCount := Nat.pos_of_ne_zero fun h0 => by simp [h0] at hk
  have hq : k / localCount < peerCount + 1 := (Nat.div_lt_iff_lt_mul hL).mpr (by rwa [Nat.mul_comm])
  unfold Router.slotAt
  split
  · exact .inl ⟨_, rfl, Nat.mod_lt _ hL⟩
  · rename_i hne
    refine .inr ⟨_, rfl, ?_⟩
    split <;> omega


section Wiring

variable {s : World} (hw : D.Wired s)
include hw

lemma Wired.lt_of_job? {w : Nat} {j : Job} (hj : s.job? ⟨w, D.job⟩ = some j) : w < D.addresses.length := by
  rw [← hw.workers]
  simp only [World.job?, Option.bind_eq_some_iff] at hj
  obtain ⟨wk, hwk, -⟩ := hj
  exact (List.getElem?_eq_some_iff.mp hwk).1

lemma Wired.shaped_of_job? {w : Nat} {j : Job} (hj : s.job? ⟨w, D.job⟩ = some j) : D.Shaped w j := by
  obtain ⟨j', hj', hs⟩ := hw.shaped w (hw.lt_of_job? hj)
  rw [hj] at hj'
  cases hj'
  exact hs

lemma Wired.of_boltAt {w i : Nat} {b : BoltExecutor} (hb : s.boltAt D.job w i = some b) :
    ∃ j, s.job? ⟨w, D.job⟩ = some j ∧ j.bolts[i]? = some b ∧ D.Shaped w j := by
  simp only [World.boltAt, Option.bind_eq_some_iff] at hb
  obtain ⟨j, hj, hb⟩ := hb
  exact ⟨j, hj, hb, hw.shaped_of_job? hj⟩

lemma Wired.of_spoutAt {w i : Nat} {sp : SpoutExecutor} (hsp : s.spoutAt D.job w i = some sp) :
    ∃ j, s.job? ⟨w, D.job⟩ = some j ∧ j.spouts[i]? = some sp ∧ D.Shaped w j := by
  simp only [World.spoutAt, Option.bind_eq_some_iff] at hsp
  obtain ⟨j, hj, hsp⟩ := hsp
  exact ⟨j, hj, hsp, hw.shaped_of_job? hj⟩

lemma Wired.lt_of_boltAt {w i : Nat} {b : BoltExecutor} (hb : s.boltAt D.job w i = some b) :
    w < D.addresses.length := by
  obtain ⟨j, hj, -, -⟩ := hw.of_boltAt hb
  exact hw.lt_of_job? hj

lemma Wired.lt_of_spoutAt {w i : Nat} {sp : SpoutExecutor} (hsp : s.spoutAt D.job w i = some sp) :
    w < D.addresses.length := by
  obtain ⟨j, hj, -, -⟩ := hw.of_spoutAt hsp
  exact hw.lt_of_job? hj

lemma Wired.bolt {w i : Nat} {b : BoltExecutor} (hb : s.boltAt D.job w i = some b) :
    ∃ d, D.topology.bolts.lookup b.node = some d ∧ b.routes = D.topology.subscribers b.node ∧
      b.tally.expected = (D.topology.parallelism d.input).getD 0 * D.addresses.length := by
  obtain ⟨j, -, hb, hs⟩ := hw.of_boltAt hb
  exact hs.bolt b (List.mem_of_getElem? hb)

lemma Wired.spout {w i : Nat} {sp : SpoutExecutor} (hsp : s.spoutAt D.job w i = some sp) :
    (D.topology.spouts.lookup sp.node).isSome ∧ sp.routes = D.topology.subscribers sp.node := by
  obtain ⟨j, -, hsp, hs⟩ := hw.of_spoutAt hsp
  exact hs.spout sp (List.mem_of_getElem? hsp)

lemma Wired.routerWired {w : Nat} {c : String} {r : Router} (hr : s.routerAt D.job w c = some r) :
    D.RouterWired s w c r := by
  simp only [World.routerAt, Option.bind_eq_some_iff] at hr
  obtain ⟨j, hj, hr⟩ := hr
  have hs := hw.shaped_of_job? hj
  have hwl := hw.lt_of_job? hj
  obtain ⟨d, hd⟩ := lookup_isSome_of_mem_keys (hs.routerKeys ▸ Keyed.mem_keys_of_lookup hr)
  obtain ⟨batch, hb⟩ := hs.router c d hd
  rw [hr, Option.map_some, Option.some.injEq] at hb
  have hg := congrArg Router.grouping hb
  have hl := congrArg Router.locals hb
  have hsend := congrArg Router.senders hb
  have hslots := congrArg Router.slots hb
  simp only [Router.fixed, Job.streamRouter, Router.make] at hg hl hsend hslots
  have hlen : r.senders.length = D.addresses.length - 1 := by
    rw [← List.length_map Sender.fixed, hsend, Job.length_peerSenders _ _ _ _ hwl]
  refine ⟨⟨d, hd, hg⟩, fun k hk => ?_, fun i b hb hn => ?_, by omega, fun k S hS => ?_, fun sl hsl => ?_⟩
  · rw [hl] at hk ⊢
    have hmem : (j.boltsOf c).getD k 0 ∈ j.boltsOf c := by
      rw [List.getD_eq_getElem?_getD, List.getElem?_eq_getElem hk, Option.getD_some]
      exact List.getElem_mem hk
    generalize (j.boltsOf c).getD k 0 = i at hmem ⊢
    simp only [Job.boltsOf, List.mem_filter, List.mem_range, decide_eq_true_eq] at hmem
    obtain ⟨hi, hn⟩ := hmem
    have hgd : j.bolts.getD i default = j.bolts.get ⟨i, hi⟩ := by
      rw [List.getD_eq_getElem?_getD, List.getElem?_eq_getElem hi, Option.getD_some]
      rfl
    refine ⟨j.bolts.get ⟨i, hi⟩, ?_, hgd ▸ hn⟩
    rw [World.boltAt_of_job? hj, List.getElem?_eq_getElem hi]
    rfl
  · rw [World.boltAt_of_job? hj] at hb
    have hi : i < j.bolts.length := (List.getElem?_eq_some_iff.mp hb).1
    have hmem : i ∈ j.boltsOf c := by
      simp only [Job.boltsOf, List.mem_filter, List.mem_range, decide_eq_true_eq]
      refine ⟨hi, ?_⟩
      rw [List.getD_eq_getElem?_getD, hb, Option.getD_some, hn]
    obtain ⟨k, hk, hki⟩ := List.mem_iff_getElem.mp hmem
    refine ⟨k, hl ▸ hk, ?_⟩
    rw [hl, List.getD_eq_getElem?_getD, List.getElem?_eq_getElem hk, Option.getD_some, hki]
  · have hk : k < D.addresses.length - 1 := hlen ▸ (List.getElem?_eq_some_iff.mp hS).1
    have hfk := congrArg (·[k]?) hsend
    simp only [List.getElem?_map, hS, Option.map_some, getElem?_peerSenders _ _ _ hwl,
      List.getElem?_range hk, Option.some.injEq] at hfk
    have ha := congrArg Sender.address hfk
    have hjob := congrArg Sender.job hfk
    have hst := congrArg Sender.stream hfk
    have hbs := congrArg Sender.batchSize hfk
    simp only [Sender.fixed, Sender.make] at ha hjob hst hbs
    exact ⟨ha, hjob, hst, hbs ▸ Nat.le_max_right _ _⟩
  · have hpl : (Job.peerSenders D.addresses w batch D.job c).length = D.addresses.length - 1 :=
      Job.length_peerSenders _ _ _ _ hwl
    rw [hslots, hpl] at hsl
    rw [hl, hlen]
    exact mem_layout (by omega) hsl

end Wiring

/-! ### The executors of a node across the cluster -/

section Feeders

variable {s : World}

lemma mem_idsAt {w : Nat} {n x : String} : x ∈ D.idsAt s w n ↔
    (∃ i b, s.boltAt D.job w i = some b ∧ b.node = n ∧ b.id = x) ∨
      (∃ i sp, s.spoutAt D.job w i = some sp ∧ sp.node = n ∧ sp.id = x) := by
  simp only [idsAt]
  cases hj : s.job? ⟨w, D.job⟩ with
  | none => simp [World.boltAt, World.spoutAt, hj]
  | some j =>
    simp only [Option.map_some, Option.getD_some, List.mem_append, List.mem_map, List.mem_filter,
      decide_eq_true_eq, World.boltAt_of_job? hj, World.spoutAt_of_job? hj]
    constructor
    · rintro (⟨sp, ⟨hsp, hn⟩, rfl⟩ | ⟨b, ⟨hb, hn⟩, rfl⟩)
      · obtain ⟨i, hi⟩ := List.mem_iff_getElem?.mp hsp
        exact .inr ⟨i, sp, hi, hn, rfl⟩
      · obtain ⟨i, hi⟩ := List.mem_iff_getElem?.mp hb
        exact .inl ⟨i, b, hi, hn, rfl⟩
    · rintro (⟨i, b, hi, hn, rfl⟩ | ⟨i, sp, hi, hn, rfl⟩)
      · exact .inr ⟨b, ⟨List.mem_of_getElem? hi, hn⟩, rfl⟩
      · exact .inl ⟨sp, ⟨List.mem_of_getElem? hi, hn⟩, rfl⟩

variable (hw : D.Wired s)
include hw

lemma Wired.mem_feederIds {n x : String} : x ∈ D.feederIds s n ↔
    (∃ w i b, s.boltAt D.job w i = some b ∧ b.node = n ∧ b.id = x) ∨
      (∃ w i sp, s.spoutAt D.job w i = some sp ∧ sp.node = n ∧ sp.id = x) := by
  simp only [feederIds, List.mem_flatMap, List.mem_range, mem_idsAt]
  constructor
  · rintro ⟨w, -, ⟨i, b, h⟩ | ⟨i, sp, h⟩⟩
    · exact .inl ⟨w, i, b, h⟩
    · exact .inr ⟨w, i, sp, h⟩
  · rintro (⟨w, i, b, h⟩ | ⟨w, i, sp, h⟩)
    · exact ⟨w, hw.lt_of_boltAt h.1, .inl ⟨i, b, h⟩⟩
    · exact ⟨w, hw.lt_of_spoutAt h.1, .inr ⟨i, sp, h⟩⟩

lemma Wired.mem_feederIds_of_closed {n x : String} (h : D.ClosedFeeder s n x) : x ∈ D.feederIds s n := by
  rcases h with ⟨w, i, b, hb, hx, hn, -⟩ | ⟨w, i, sp, hsp, hx, hn, -⟩
  · exact (hw.mem_feederIds).mpr (.inl ⟨w, i, b, hb, hn, hx⟩)
  · exact (hw.mem_feederIds).mpr (.inr ⟨w, i, sp, hsp, hn, hx⟩)

omit hw in
lemma count_map_eq_length_filter {α : Type} (f : α → String) (l : List α) (n : String) :
    (l.map f).count n = (l.filter (f · = n)).length := by
  induction l with
  | nil => rfl
  | cons a l ih => by_cases h : f a = n <;> simp [h, ih]

lemma Wired.length_idsAt {w : Nat} (hwl : w < D.addresses.length) (n : String) :
    (D.idsAt s w n).length = (D.topology.parallelism n).getD 0 := by
  obtain ⟨j, hj, hs⟩ := hw.shaped w hwl
  rw [← hs.count n, count_map_eq_length_filter, count_map_eq_length_filter]
  simp only [idsAt, hj, Option.map_some, Option.getD_some, List.length_append, List.length_map]

lemma Wired.length_feederIds (n : String) :
    (D.feederIds s n).length = (D.topology.parallelism n).getD 0 * D.addresses.length := by
  have key : ∀ m ≤ D.addresses.length, ((List.range m).flatMap fun w => D.idsAt s w n).length =
      (D.topology.parallelism n).getD 0 * m := by
    intro m hm
    induction m with
    | zero => simp
    | succ m ih =>
      rw [List.range_succ, List.flatMap_append, List.length_append, ih (by omega),
        List.flatMap_singleton, hw.length_idsAt (by omega), Nat.mul_succ]
  exact key _ (Nat.le_refl _)

lemma Wired.nodup_feederIds (n : String) : (D.feederIds s n).Nodup := by
  have hd := hw.distinct
  refine List.nodup_flatMap.mpr ⟨fun w _ => ?_, ?_⟩
  · rw [List.nodup_iff_pairwise_ne]
    simp only [idsAt]
    cases hj : s.job? ⟨w, D.job⟩ with
    | none => simp
    | some j =>
      simp only [Option.map_some, Option.getD_some, List.pairwise_append, List.pairwise_map]
      refine ⟨?_, ?_, ?_⟩
      · refine List.Pairwise.filter _ (List.pairwise_iff_getElem.mpr fun a b ha hb hab he => ?_)
        have := hd.spouts w a _ w b _ (by rw [World.spoutAt_of_job? hj]; exact List.getElem?_eq_getElem ha)
          (by rw [World.spoutAt_of_job? hj]; exact List.getElem?_eq_getElem hb) he
        omega
      · refine List.Pairwise.filter _ (List.pairwise_iff_getElem.mpr fun a b ha hb hab he => ?_)
        have := hd.bolts w a _ w b _ (by rw [World.boltAt_of_job? hj]; exact List.getElem?_eq_getElem ha)
          (by rw [World.boltAt_of_job? hj]; exact List.getElem?_eq_getElem hb) he
        omega
      · intro x hx y hy he
        obtain ⟨sp, hsp, rfl⟩ := List.mem_map.mp hx
        obtain ⟨b, hb, rfl⟩ := List.mem_map.mp hy
        obtain ⟨a, ha⟩ := List.mem_iff_getElem?.mp (List.mem_filter.mp hsp).1
        obtain ⟨k, hk⟩ := List.mem_iff_getElem?.mp (List.mem_filter.mp hb).1
        exact hd.mixed w k b w a sp (by rw [World.boltAt_of_job? hj]; exact hk)
          (by rw [World.spoutAt_of_job? hj]; exact ha) he.symm
  · refine List.nodup_range.pairwise_of_forall_ne fun w _ w' _ hne => ?_
    refine List.disjoint_left.mpr fun {x} hx hx' => ?_
    rcases mem_idsAt.mp hx with ⟨i, b, hb, -, rfl⟩ | ⟨i, sp, hsp, -, rfl⟩ <;>
      rcases mem_idsAt.mp hx' with ⟨i', b', hb', -, he⟩ | ⟨i', sp', hsp', -, he⟩
    · exact hne (hd.bolts w i b w' i' b' hb hb' he.symm).1
    · exact hd.mixed w i b w' i' sp' hb hsp' he.symm
    · exact hd.mixed w' i' b' w i sp hb' hsp he
    · exact hne (hd.spouts w i sp w' i' sp' hsp hsp' he.symm).1

/-- A bolt executor has finished exactly when every executor of its input node, on every worker,
has voted: its tally expects as many distinct votes as there are such executors, and only they
vote. -/
theorem Wired.finalized_iff (hc : D.Consistent s) {w i : Nat} {b : BoltExecutor} {d : BoltDecl}
    (hb : s.boltAt D.job w i = some b) (hd : D.topology.bolts.lookup b.node = some d) :
    b.finalized = true ↔ ∀ x ∈ D.feederIds s d.input, x ∈ b.tally.voters := by
  obtain ⟨hnd, hfr, hreach⟩ := hc.tally w i b hb
  have hsub : ∀ x ∈ b.tally.voters, x ∈ D.feederIds s d.input :=
    fun x hx => hw.mem_feederIds_of_closed (hc.voters w i b hb d hd x hx)
  have hlen : (D.feederIds s d.input).length = b.tally.expected := by
    obtain ⟨d', hd', -, hx⟩ := hw.bolt hb
    rw [hd] at hd'
    cases hd'
    rw [hx, hw.length_feederIds]
  constructor
  · intro hf
    have hle : b.tally.expected ≤ b.tally.voters.length := hreach.mp (hfr ▸ hf)
    have hperm := (hnd.subperm hsub).perm_of_length_le (by omega)
    exact fun x hx => hperm.mem_iff.mpr hx
  · intro hall
    have hle := ((hw.nodup_feederIds d.input).subperm hall).length_le
    rw [hfr]
    exact hreach.mpr (by omega)

end Feeders

/-! ### The deployed state -/

lemma count_flatMap_replicate {δ : Type} (P : δ → Nat) (n : String) :
    ∀ {L : List (String × δ)}, (L.map (·.1)).Nodup →
      (L.flatMap fun e => List.replicate (P e.2) e.1).count n = ((L.lookup n).map P).getD 0
  | [], _ => rfl
  | (k, v) :: rest, hnd => by
    simp only [List.map_cons, List.nodup_cons] at hnd
    rw [List.flatMap_cons, List.count_append, count_flatMap_replicate P n hnd.2, List.count_replicate]
    by_cases hk : k = n
    · subst hk
      have hnone : rest.lookup k = none := by
        cases hl : rest.lookup k with
        | none => rfl
        | some v' => exact absurd (Keyed.mem_keys_of_lookup hl) hnd.1
      simp [hnone]
    · have hb : (n == k) = false := by simp [Ne.symm hk]
      simp [hk, List.lookup_cons, hb]

lemma streamRouter_fixed (addresses : List String) (position batch : Nat) (job stream : String)
    (grouping : Grouping) (locals : List Nat) :
    (Job.streamRouter addresses position batch job stream grouping locals).fixed =
      Job.streamRouter addresses position batch job stream grouping locals := by
  simp [Router.fixed, Job.streamRouter, Router.make, Job.peerSenders, Sender.fixed, Sender.make]

lemma Valid.parallelism_pos {T : Topology} (hv : T.Valid) {n : String} (h : (T.parallelism n).isSome) :
    0 < (T.parallelism n).getD 0 := by
  unfold Topology.parallelism at h ⊢
  cases hs : T.spouts.lookup n with
  | some sd => simpa [hs] using hv.spoutParallelism n sd hs
  | none =>
    cases hb : T.bolts.lookup n with
    | some bd => simpa [hs, hb] using hv.boltParallelism n bd hb
    | none => simp [hs, hb] at h

lemma shaped_of_instance (hv : D.topology.Valid) (hsk : (D.topology.spouts.map (·.1)).Nodup)
    (hbk : (D.topology.bolts.map (·.1)).Nodup) {w batch : Nat} {j : Job}
    (hi : Job.Instance D.topology D.job D.addresses w batch j) : D.Shaped w j := by
  refine ⟨hi.topology, fun sp hsp => ⟨?_, (hi.spout sp hsp).2.2⟩, fun b hb => ?_, fun n => ?_, ?_,
    fun c d hd => ⟨batch, ?_⟩⟩
  · have hn : sp.node ∈ j.spouts.map (·.node) := List.mem_map_of_mem hsp
    rw [hi.spoutNodes] at hn
    obtain ⟨e, he, hne⟩ := List.mem_flatMap.mp hn
    rw [(List.eq_of_mem_replicate hne)]
    obtain ⟨v, hv⟩ := lookup_isSome_of_mem_keys (List.mem_map_of_mem he : e.1 ∈ D.topology.spouts.map (·.1))
    simp [hv]
  · obtain ⟨d, hd, ht, -, -, hr⟩ := hi.bolt b hb
    exact ⟨d, lookup_eq_some_of_mem hbk hd, hr, by rw [ht]⟩
  · rw [hi.spoutNodes, hi.boltNodes, count_flatMap_replicate _ n hsk, count_flatMap_replicate _ n hbk]
    unfold Topology.parallelism
    cases hs : D.topology.spouts.lookup n with
    | some sd => simp [hv.disjoint n sd hs]
    | none => simp
  · rw [hi.routers, List.map_map]
    rfl
  · rw [Job.router?, hi.routers,
      lookup_map_pair (fun k (e : BoltDecl) => Job.streamRouter D.addresses w batch D.job k e.grouping (j.boltsOf k)),
      hd]
    simp [streamRouter_fixed]

/-- A state right after the job was defined on every worker of a nonempty list from one
topology, the worker at each position told that position and the whole list, no end of stream
taken yet, every executor id distinct, and a link that hands each push to the worker at its
address. -/
structure Installed (s : World) : Prop where
  nonempty : D.addresses ≠ []
  workers : s.workers.length = D.addresses.length
  link : ∃ repeatEos, s.link = .loopback repeatEos
  address : ∀ q < D.addresses.length, s.workerAt? (D.addresses.getD q "") = some q
  instantiated : ∀ w < D.addresses.length, ∃ disk name config j,
    Job.instantiate disk name D.job config D.topology = .done j ∧ config.workers = .ok D.addresses ∧
      config.workerIndex = .ok w ∧ s.job? ⟨w, D.job⟩ = some j ∧ s.seenAt D.job w = []
  distinct : D.DistinctIds s
  spoutKeys : (D.topology.spouts.map (·.1)).Nodup
  boltKeys : (D.topology.bolts.map (·.1)).Nodup

section Installed

variable {s : World} (h : D.Installed s)
include h

lemma Installed.instance {w : Nat} (hw : w < D.addresses.length) : ∃ j batch,
    s.job? ⟨w, D.job⟩ = some j ∧ s.seenAt D.job w = [] ∧ D.topology.validate = .ok () ∧
      Job.Instance D.topology D.job D.addresses w batch j := by
  obtain ⟨disk, name, config, j, hj, hws, hwi, hjob, hseen⟩ := h.instantiated w hw
  obtain ⟨addresses, position, batch, hv, ha, hp, -, hi⟩ := Job.Instance.of_instantiate hj
  rw [hws, Except.ok.injEq] at ha
  rw [hwi, Except.ok.injEq] at hp
  subst ha hp
  exact ⟨j, batch, hjob, hseen, hv, hi⟩

lemma Installed.valid : D.topology.Valid := by
  obtain ⟨-, -, -, -, hv, -⟩ := h.instance (List.length_pos_iff.mpr h.nonempty)
  exact Topology.Valid.of_validate hv

theorem Installed.wired : D.Wired s where
  workers := h.workers
  link := h.link
  address := h.address
  shaped w hw := by
    obtain ⟨j, batch, hj, -, -, hi⟩ := h.instance hw
    exact ⟨j, hj, shaped_of_instance h.valid h.spoutKeys h.boltKeys hi⟩
  distinct := h.distinct
  valid := h.valid
  spoutKeys := h.spoutKeys
  boltKeys := h.boltKeys

lemma Installed.of_boltAt {w i : Nat} {b : BoltExecutor} (hb : s.boltAt D.job w i = some b) :
    ∃ d, D.topology.bolts.lookup b.node = some d ∧
      b.tally = { expected := (D.topology.parallelism d.input).getD 0 * D.addresses.length } ∧
      b.finalized = false ∧ b.sentEos = false := by
  obtain ⟨j₀, hj₀, hb₀, -⟩ := h.wired.of_boltAt hb
  obtain ⟨j, batch, hj, -, -, hi⟩ := h.instance (h.wired.lt_of_job? hj₀)
  rw [hj₀, Option.some.injEq] at hj
  subst hj
  obtain ⟨d, hd, ht, hf, hs, -⟩ := hi.bolt b (List.mem_of_getElem? hb₀)
  exact ⟨d, lookup_eq_some_of_mem h.boltKeys hd, ht, hf, hs⟩

lemma Installed.of_spoutAt {w i : Nat} {sp : SpoutExecutor} (hsp : s.spoutAt D.job w i = some sp) :
    sp.done = false ∧ sp.sentEos = false := by
  obtain ⟨j₀, hj₀, hsp₀, -⟩ := h.wired.of_spoutAt hsp
  obtain ⟨j, batch, hj, -, -, hi⟩ := h.instance (h.wired.lt_of_job? hj₀)
  rw [hj₀, Option.some.injEq] at hj
  subst hj
  obtain ⟨hd, hs, -⟩ := hi.spout sp (List.mem_of_getElem? hsp₀)
  exact ⟨hd, hs⟩

lemma Installed.held_nil {w : Nat} {c : String} {r : Router} (hr : s.routerAt D.job w c = some r) {k : Nat}
    {S : Sender} (hS : r.senders[k]? = some S) : S.held = [] := by
  simp only [World.routerAt, Option.bind_eq_some_iff] at hr
  obtain ⟨j₀, hj₀, hr⟩ := hr
  obtain ⟨j, batch, hj, -, -, hi⟩ := h.instance (h.wired.lt_of_job? hj₀)
  rw [hj₀, Option.some.injEq] at hj
  subst hj
  rw [Job.router?, hi.routers, lookup_map_pair
    (fun k (e : BoltDecl) => Job.streamRouter D.addresses w batch D.job k e.grouping (j₀.boltsOf k)),
    Option.map_eq_some_iff] at hr
  obtain ⟨d, -, rfl⟩ := hr
  simp only [Job.streamRouter, Router.make, Job.peerSenders, List.getElem?_map,
    Option.map_eq_some_iff] at hS
  obtain ⟨_, -, rfl⟩ := hS
  rfl

theorem Installed.consistent : D.Consistent s := by
  refine ⟨fun w i b hb => ?_, fun w i b hb d _ x hx => ?_, fun w i b hb hs => ?_,
    fun w i sp hsp hs => ?_, fun w i b hb hf => ?_, fun w c r hr k S hS => ?_, fun w e he => ?_,
    fun w j hj r hr => ?_⟩
  · obtain ⟨d, hd, ht, hf, -⟩ := h.of_boltAt hb
    have hpos := Valid.parallelism_pos h.valid (h.valid.inputDeclared b.node d hd)
    have hW := List.length_pos_iff.mpr h.nonempty
    rw [hf, ht]
    simp only [List.nodup_nil, List.length_nil, Nat.le_zero, true_and, Bool.false_eq_true, false_iff]
    exact Nat.pos_iff_ne_zero.mp (Nat.mul_pos hpos hW)
  · obtain ⟨d, -, ht, -, -⟩ := h.of_boltAt hb
    rw [ht] at hx
    simp at hx
  · obtain ⟨-, -, -, -, hs'⟩ := h.of_boltAt hb
    rw [hs'] at hs
    simp at hs
  · rw [(h.of_spoutAt hsp).2] at hs
    simp at hs
  · obtain ⟨-, -, -, hf', -⟩ := h.of_boltAt hb
    rw [hf'] at hf
    simp at hf
  · simp [SenderOk, h.held_nil hr hS]
  · by_cases hwl : w < D.addresses.length
    · obtain ⟨-, -, -, hseen, -⟩ := h.instance hwl
      rw [hseen] at he
      simp at he
    · have hnone : s.workers[w]? = none := List.getElem?_eq_none (by rw [h.workers]; omega)
      simp [World.seenAt, hnone] at he
  · obtain ⟨j', batch, hj', -, -, hi⟩ := h.instance (h.wired.lt_of_job? hj)
    rw [hj, Option.some.injEq] at hj'
    subst hj'
    rw [hi.errors] at hr
    simp at hr

end Installed

end Deployment

end Dataflow
