import Dataflow.Proofs.Definition
import Mathlib.Data.List.GetD
/-!
The slot layout of a router. A router of a bolt with `L` local executors and `R` peers has
`L * (R + 1)` slots in `R + 1` blocks of `L`: the block at this worker's position, clamped to
`R`, holds the local executors in order, and every other block one peer's sender, repeated, the
peers taken in order around the local block.

As a job's wiring makes the routers, on the worker at position `p` of a list of `W` workers and
with the other workers as peers in list order, block `q` of every router belongs to worker `q`:
it is the local block when `q = p`, and otherwise a sender to the address of worker `q`. Every
worker of the job has the same number of slots, the node's tasks times `W`.
-/
namespace Dataflow

namespace Router

lemma layout_clamp (localCount peerCount position : Nat) :
    layout localCount peerCount position = layout localCount peerCount (min position peerCount) := by
  simp only [layout, Nat.min_assoc, Nat.min_self]

lemma getElem_layout {localCount peerCount position i : Nat}
    (hi : i < (layout localCount peerCount position).length) :
    (layout localCount peerCount position)[i] =
      slotAt localCount (min position peerCount) i := by
  have hp : min position peerCount ≤ peerCount := Nat.min_le_right _ _
  have hk : i < localCount * (peerCount + 1) := by
    rwa [layout_clamp, length_layout _ _ _ hp] at hi
  simp only [layout_clamp localCount peerCount position, layout_eq_map _ _ _ hp, List.getElem_map,
    List.getElem_range]

end Router

namespace Job

variable {addresses : List String} {position batch : Nat} {job node : String} {grouping : Grouping}
  {locals : List Nat}

lemma streamRouter_slot (hp : position < addresses.length) {i : Nat}
    (hi : i < locals.length * addresses.length) :
    let r := streamRouter addresses position batch job node grouping locals
    (i / locals.length = position ∧ r.slots.getD i default = .mine (i % locals.length)) ∨
    (i / locals.length ≠ position ∧ ∃ k < r.senders.length, r.slots.getD i default = .peer k ∧
      (r.senders.getD k default).address = addresses.getD (i / locals.length) "") := by
  have hq : i / locals.length < addresses.length := Nat.div_lt_of_lt_mul hi
  have hslot : (streamRouter addresses position batch job node grouping locals).slots.getD i default =
      Router.slotAt locals.length position i := by
    show (Router.layout _ (peerSenders addresses position batch job node).length position).getD i default = _
    rw [length_peerSenders _ _ _ _ hp, Router.getD_layout (by omega) (by rwa [Nat.sub_add_cancel (by omega)])]
  by_cases hloc : i / locals.length = position
  · exact .inl ⟨hloc, by rw [hslot, Router.slotAt, if_pos hloc]⟩
  · -- the peers skip this worker: block `q` is peer `q` before it and peer `q - 1` after it
    let k := if i / locals.length < position then i / locals.length else i / locals.length - 1
    have hk : k < addresses.length - 1 := by
      simp only [k]
      split <;> omega
    have hworker : peerWorker position k = i / locals.length := by
      by_cases hlt : i / locals.length < position
      · simp only [k, peerWorker, if_pos hlt]
      · simp only [k, peerWorker, if_neg hlt]
        rw [if_neg (by omega)]
        omega
    refine .inr ⟨hloc, k, ?_, by rw [hslot, Router.slotAt, if_neg hloc], ?_⟩
    · show k < (peerSenders addresses position batch job node).length
      rwa [length_peerSenders _ _ _ _ hp]
    · rw [← hworker]
      exact address_peerSenders _ _ _ _ hp hk _

lemma router_of_instantiate {disk : Storage} {name : Nat → String} {id : String} {config : JobConfig}
    {T : Topology} {j : Job} (h : instantiate disk name id config T = .done j) {r : Router}
    (hr : (node, r) ∈ j.routers) :
    ∃ addresses position batch grouping locals, config.workers = .ok addresses ∧
      config.workerIndex = .ok position ∧ locals.length = T.boltTasks.count node ∧
      r = streamRouter addresses position batch id node grouping locals := by
  obtain ⟨addresses, position, batch, -, hw, hi, -, hinst⟩ := Instance.of_instantiate h
  rw [hinst.routers] at hr
  obtain ⟨⟨n, d⟩, -, heq⟩ := List.mem_map.mp hr
  simp only [Prod.mk.injEq] at heq
  obtain ⟨rfl, rfl⟩ := heq
  refine ⟨addresses, position, batch, d.grouping, j.boltsOf n, hw, hi, ?_, rfl⟩
  rw [length_boltsOf, hinst.boltNodes]
  rfl

end Job

namespace Router

/-- The slots of a router: `L * (R + 1)` of them for `L` local executors and `R` peers, in blocks
of `L`; block `q`, with the position `p` clamped to `p' = min p R`, holds the local executors when
`q = p'`, and peer `q` before that block and peer `q - 1` after it. A router the wiring of a job
makes on worker `p` has a block for every worker of the list, the same number of slots on every
worker, and block `q` belongs to worker `q`: local when `q = p`, else a sender to worker `q`. -/
theorem slots_laid_out_by_worker :
    (∀ (stream : String) (grouping : Grouping) (locals : List Nat) (senders : List Sender) (p : Nat),
      (make stream grouping locals senders p).slots.length = locals.length * (senders.length + 1) ∧
      ∀ i (hi : i < (make stream grouping locals senders p).slots.length),
        (make stream grouping locals senders p).slots[i] =
          if i / locals.length = min p senders.length then
            .mine (i - i / locals.length * locals.length)
          else if i / locals.length < min p senders.length then .peer (i / locals.length)
          else .peer (i / locals.length - 1)) ∧
    (∀ (disk : Storage) (name : Nat → String) (id : String) (config : JobConfig) (T : Topology)
        (j : Job) (addresses : List String) (p : Nat),
      Job.instantiate disk name id config T = .done j → config.workers = .ok addresses →
      config.workerIndex = .ok p →
      p < addresses.length ∧
      ∀ node r, (node, r) ∈ j.routers →
        r.slots.length = T.boltTasks.count node * addresses.length ∧
        ∀ i (hi : i < r.slots.length),
          (i / T.boltTasks.count node = p ∧ r.slots[i] = .mine (i % T.boltTasks.count node)) ∨
          (i / T.boltTasks.count node ≠ p ∧ ∃ k < r.senders.length, r.slots[i] = .peer k ∧
            (r.senders.getD k default).address = addresses.getD (i / T.boltTasks.count node) "")) := by
  refine ⟨fun stream grouping locals senders p => ⟨?_, fun i hi => ?_⟩, ?_⟩
  · rw [make, layout_clamp, length_layout _ _ _ (Nat.min_le_right _ _)]
  · simp only [make] at hi ⊢
    rw [getElem_layout hi, slotAt, Nat.mod_eq_sub_div_mul]
    split_ifs <;> rfl
  · intro disk name id config T j addresses p h hw hi
    have hp := JobConfig.workerIndex_lt hw hi
    refine ⟨hp, fun node r hr => ?_⟩
    obtain ⟨addresses', p', batch, grouping, locals, hw', hi', hlen, rfl⟩ := Job.router_of_instantiate h hr
    obtain rfl : addresses' = addresses := Except.ok.inj (hw'.symm.trans hw)
    obtain rfl : p' = p := Except.ok.inj (hi'.symm.trans hi)
    refine ⟨by rw [Job.length_slots_streamRouter hp, hlen], fun i hi => ?_⟩
    rw [← List.getD_eq_getElem _ default hi, ← hlen]
    exact Job.streamRouter_slot hp (by rwa [Job.length_slots_streamRouter hp] at hi)

/-- Two workers, the sink topology made on the second: the job instantiates, and every router it
wires lays its slots out by worker. -/
theorem sink_slots_on_second_worker :
    ∃ j, Job.instantiate {} toString "job" ⟨[("workerIndex", "1"), ("workerList", "a,b")]⟩
        Deployment.sinkTopology = .done j ∧
      (JobConfig.workers ⟨[("workerIndex", "1"), ("workerList", "a,b")]⟩ = .ok ["http://a", "http://b"]) ∧
      (JobConfig.workerIndex ⟨[("workerIndex", "1"), ("workerList", "a,b")]⟩ = .ok 1) ∧
      1 < ["http://a", "http://b"].length ∧
      ∀ node r, (node, r) ∈ j.routers →
        r.slots.length = Deployment.sinkTopology.boltTasks.count node * 2 ∧
        ∀ i (hi : i < r.slots.length),
          (i / Deployment.sinkTopology.boltTasks.count node = 1 ∧
            r.slots[i] = .mine (i % Deployment.sinkTopology.boltTasks.count node)) ∨
          (i / Deployment.sinkTopology.boltTasks.count node ≠ 1 ∧ ∃ k < r.senders.length,
            r.slots[i] = .peer k ∧ (r.senders.getD k default).address =
              ["http://a", "http://b"].getD (i / Deployment.sinkTopology.boltTasks.count node) "") := by
  obtain ⟨j, hj⟩ : ∃ j, Job.instantiate {} toString "job" ⟨[("workerIndex", "1"), ("workerList", "a,b")]⟩
      Deployment.sinkTopology = .done j := ⟨_, Deployment.Job.Built.eq_done (by decide +kernel)⟩
  have hw : JobConfig.workers ⟨[("workerIndex", "1"), ("workerList", "a,b")]⟩ = .ok ["http://a", "http://b"] := rfl
  have hi : JobConfig.workerIndex ⟨[("workerIndex", "1"), ("workerList", "a,b")]⟩ = .ok 1 := rfl
  obtain ⟨hp, hslots⟩ := slots_laid_out_by_worker.2 {} toString "job" _ _ j _ 1 hj hw hi
  exact ⟨j, hj, hw, hi, hp, hslots⟩

end Router

end Dataflow
