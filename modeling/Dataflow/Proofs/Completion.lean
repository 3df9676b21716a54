import Dataflow.Proofs.Executor
import Dataflow.Cluster
/-!
The end-of-stream protocol along every run of a deployed job: the states reached from the
deployment by steps of spout executors, on any worker and in any order, keep the invariant, and
from it follow completion across workers and the absence of protocol violations.
-/
namespace Dataflow

lemma Worker.code_of_job {wk : Worker} {id : String} {f : Fault} (h : wk.job id = .error f) :
    f.code = "JOB_NOT_FOUND" := by
  unfold Worker.job at h
  split at h <;> cases h
  rfl

namespace Deployment

variable {D : Deployment} {s : World}

theorem spec_stepSpout (hw : D.Wired s) (hc : D.Consistent s) (w k : Nat) :
    Run.Spec (Run.stepSpout w D.job k) s (D.StepPost s) := by
  rw [Run.stepSpout, Run.jobOf]
  simp only [Run.spec_bind, Run.spec_worker]
  intro wk _
  cases hj : wk.job D.job with
  | error f => exact ⟨hc, Keeps.refl _ _, by simp [Clean, Worker.code_of_job hj]⟩
  | ok j =>
    simp only [Run.spec_pure]
    split
    · exact spec_spoutStep deliverOk hw hc w k
    · exact Run.spec_crash _

variable (D) in
/-- The states a deployed job reaches by steps of its spout executors, on any worker and in any
order. -/
inductive Reachable : World → Prop
  | installed {s : World} : D.Installed s → Reachable s
  | step {s s' : World} {w k : Nat} {r : Except Fault Bool} : Reachable s →
      (Run.stepSpout w D.job k).run.run s = .ok (r, s') → Reachable s'

lemma stepPost_of_run (hw : D.Wired s) (hc : D.Consistent s) {w k : Nat} {r : Except Fault Bool}
    {s' : World} (hrun : (Run.stepSpout w D.job k).run.run s = .ok (r, s')) : D.StepPost s r s' :=
  (spec_stepSpout hw hc w k).of_run hrun

theorem Reachable.invariant (h : D.Reachable s) : D.Wired s ∧ D.Consistent s := by
  induction h with
  | installed hi => exact ⟨hi.wired, hi.consistent⟩
  | step _ hrun ih =>
    obtain ⟨hc', hk, -⟩ := stepPost_of_run ih.1 ih.2 hrun
    exact ⟨ih.1.of_fixedOf hk.fixed, hc'⟩

section SingleWorker

lemma index_eq_of_nodup_map {α β : Type} {l : List α} {f : α → β} (hnd : (l.map f).Nodup) {i j : Nat}
    {a b : α} (hi : l[i]? = some a) (hj : l[j]? = some b) (he : f a = f b) : i = j := by
  obtain ⟨hil, rfl⟩ := List.getElem?_eq_some_iff.mp hi
  obtain ⟨hjl, rfl⟩ := List.getElem?_eq_some_iff.mp hj
  have h : (l.map f).get ⟨i, by simpa using hil⟩ = (l.map f).get ⟨j, by simpa using hjl⟩ := by
    simpa using he
  exact Fin.mk.inj_iff.mp (hnd.get_inj_iff.mp h)

variable {wk : Worker} {j : Job} (hs : s.workers = [wk]) (hj : wk.job? D.job = some j)
include hs hj

lemma job?_of_single {w : Nat} {j' : Job} (h : s.job? ⟨w, D.job⟩ = some j') : w = 0 ∧ j' = j := by
  rcases w with _ | w
  · simp only [World.job?, hs, List.getElem?_cons_zero, Option.bind_some, hj, Option.some.injEq] at h
    exact ⟨rfl, h.symm⟩
  · simp [World.job?, hs] at h

lemma DistinctIds.of_single (hnd : j.executorIds.Nodup) : D.DistinctIds s := by
  obtain ⟨hsp, hbo, hdis⟩ := List.nodup_append.mp hnd
  have bolt : ∀ {w i b}, s.boltAt D.job w i = some b → w = 0 ∧ j.bolts[i]? = some b := by
    intro w i b hb
    obtain ⟨j', hj', hi⟩ := Option.bind_eq_some_iff.mp hb
    obtain ⟨rfl, rfl⟩ := job?_of_single hs hj hj'
    exact ⟨rfl, hi⟩
  have spout : ∀ {w i sp}, s.spoutAt D.job w i = some sp → w = 0 ∧ j.spouts[i]? = some sp := by
    intro w i sp hsp
    obtain ⟨j', hj', hi⟩ := Option.bind_eq_some_iff.mp hsp
    obtain ⟨rfl, rfl⟩ := job?_of_single hs hj hj'
    exact ⟨rfl, hi⟩
  refine ⟨fun w i b w' i' b' hb hb' he => ?_, fun w i sp w' i' sp' h h' he => ?_,
    fun w i b w' i' sp hb h he => ?_⟩
  · obtain ⟨rfl, hi⟩ := bolt hb
    obtain ⟨rfl, hi'⟩ := bolt hb'
    exact ⟨rfl, index_eq_of_nodup_map hbo hi hi' he⟩
  · obtain ⟨rfl, hi⟩ := spout h
    obtain ⟨rfl, hi'⟩ := spout h'
    exact ⟨rfl, index_eq_of_nodup_map hsp hi hi' he⟩
  · have hb : b.id ∈ j.bolts.map (·.id) := List.mem_map_of_mem (List.mem_of_getElem? (bolt hb).2)
    have hsp : sp.id ∈ j.spouts.map (·.id) := List.mem_map_of_mem (List.mem_of_getElem? (spout h).2)
    exact hdis _ hsp _ hb he.symm

end SingleWorker

section Sink

def sinkTopology : Topology :=
  { spouts := [("source", ⟨"empty", 1⟩)], bolts := [("sink", ⟨"sink", 1, "source", .shuffle⟩)] }

def sink : Deployment := ⟨"job", sinkTopology, ["http://a"]⟩

def sinkConfig : JobConfig := ⟨[("workerIndex", "0"), ("workerList", "a")]⟩

def sinkJob : Job :=
  match Job.instantiate {} toString "job" sinkConfig sinkTopology with
  | .done j => j
  | _ => default

def sinkWorld : World :=
  { workers := [{ port := 0, address := "http://a", jobs := [("job", sinkJob)] }], link := .loopback false }

lemma Job.Built.eq_done {b : Job.Built} (h : (b matches .done _) = true) :
    b = .done (match b with | .done j => j | _ => default) := by
  cases b with
  | done j => rfl
  | failed => cases h
  | overflowed => cases h

theorem sink_installed : sink.Installed sinkWorld where
  nonempty := List.cons_ne_nil _ _
  workers := rfl
  link := ⟨false, rfl⟩
  address := by decide
  instantiated := by
    intro w hw
    obtain rfl : w = 0 := by simpa [sink] using hw
    exact ⟨{}, toString, sinkConfig, sinkJob, Job.Built.eq_done (by decide +kernel), rfl, rfl, rfl, rfl⟩
  distinct := DistinctIds.of_single rfl rfl (by decide +kernel)
  spoutKeys := by decide
  boltKeys := by decide

end Sink

section Completion

variable (hw : D.Wired s) (hc : D.Consistent s)
include hw hc

lemma Consistent.voted_of_forwarded {w i : Nat} {b : BoltExecutor} {d : BoltDecl}
    (hb : s.boltAt D.job w i = some b) (hd : D.topology.bolts.lookup b.node = some d)
    (hbs : ∀ w' i' e, s.boltAt D.job w' i' = some e → e.node = d.input → e.sentEos = true)
    (hss : ∀ w' i' e, s.spoutAt D.job w' i' = some e → e.node = d.input → e.sentEos = true) :
    ∀ x ∈ D.feederIds s d.input, x ∈ b.tally.voters := by
  have hsub : b.node ∈ D.topology.subscribers d.input := Topology.mem_subscribers_of_lookup hd
  intro x hx
  rcases hw.mem_feederIds.mp hx with ⟨w', i', e, he, hn, rfl⟩ | ⟨w', i', e, he, hn, rfl⟩
  · obtain ⟨-, hv⟩ := hc.boltSent w' i' e he (hbs w' i' e he hn)
    obtain ⟨-, -, hr, -⟩ := hw.bolt he
    exact hv b.node (by rw [hr, hn]; exact hsub) w i b hb rfl
  · obtain ⟨-, hv⟩ := hc.spoutSent w' i' e he (hss w' i' e he hn)
    obtain ⟨-, hr⟩ := hw.spout he
    exact hv b.node (by rw [hr, hn]; exact hsub) w i b hb rfl

lemma Consistent.sent_of_forwarded {w i : Nat} {b : BoltExecutor} {d : BoltDecl}
    (hb : s.boltAt D.job w i = some b) (hd : D.topology.bolts.lookup b.node = some d)
    (hf : b.finalized = true)
    (hbs : ∀ w' i' e, s.boltAt D.job w' i' = some e → e.node = d.input → e.sentEos = true)
    (hss : ∀ w' i' e, s.spoutAt D.job w' i' = some e → e.node = d.input → e.sentEos = true) :
    b.sentEos = true := by
  cases hse : b.sentEos
  · obtain ⟨last, hlast, hus, hsu⟩ := hc.stuck w i b hb hf hse
    have hx := hw.mem_feederIds_of_closed (hc.voters w i b hb d hd last (List.mem_of_getLast? hlast))
    rcases hw.mem_feederIds.mp hx with ⟨w', i', e, he, hn, rfl⟩ | ⟨w', i', e, he, hn, rfl⟩
    · exact absurd (hbs w' i' e he hn) (by simp [hus w' i' e he rfl])
    · exact absurd (hss w' i' e he hn) (by simp [hsu w' i' e he rfl])
  · rfl

end Completion

/-- End-of-stream completion across workers. In every state a deployed job reaches by steps of its
spout executors, each bolt executor's tally expects one vote from every executor of its input node
on every worker, counts only their votes, each once, and the executor finishes exactly when all of
them have voted; it forwards its end of stream only once finished, and has finished and forwarded
in every state where every executor of its input node has forwarded. Once finished it changes no
more, so it finishes and forwards at most once. -/
theorem completion_across_workers (h : D.Reachable s) {w i : Nat} {b : BoltExecutor}
    (hb : s.boltAt D.job w i = some b) :
    ∃ d, D.topology.bolts.lookup b.node = some d ∧
      b.tally.expected = (D.topology.parallelism d.input).getD 0 * D.addresses.length ∧
      (D.feederIds s d.input).length = b.tally.expected ∧
      b.tally.voters.Nodup ∧ (∀ x ∈ b.tally.voters, x ∈ D.feederIds s d.input) ∧
      (b.finalized = true ↔ ∀ x ∈ D.feederIds s d.input, x ∈ b.tally.voters) ∧
      (b.sentEos = true → b.finalized = true) ∧
      ((∀ w' i' e, s.boltAt D.job w' i' = some e → e.node = d.input → e.sentEos = true) →
        (∀ w' i' e, s.spoutAt D.job w' i' = some e → e.node = d.input → e.sentEos = true) →
          b.finalized = true ∧ b.sentEos = true) ∧
      (b.finalized = true → ∀ w' k r s', (Run.stepSpout w' D.job k).run.run s = .ok (r, s') →
        s'.boltAt D.job w i = some b) := by
  obtain ⟨hw, hc⟩ := h.invariant
  obtain ⟨d, hd, -, hexp⟩ := hw.bolt hb
  have hfin := hw.finalized_iff hc hb hd
  refine ⟨d, hd, hexp, by rw [hexp, hw.length_feederIds], (hc.tally w i b hb).1,
    fun x hx => hw.mem_feederIds_of_closed (hc.voters w i b hb d hd x hx), hfin,
    fun hs => (hc.boltSent w i b hb hs).1, fun hbs hss => ?_, fun hf w' k r s' hrun => ?_⟩
  · have hf := hfin.mpr (hc.voted_of_forwarded hw hb hd hbs hss)
    exact ⟨hf, hc.sent_of_forwarded hw hb hd hf hbs hss⟩
  · exact (stepPost_of_run hw hc hrun).2.1.boltAt_finalized hb hf

/-- At the one bolt executor of the sink deployment, every feeder is counted and finishing is
exactly all of them having voted. -/
theorem sink_bolt_completion : ∃ b d, sinkWorld.boltAt "job" 0 0 = some b ∧
    sinkTopology.bolts.lookup b.node = some d ∧
    (sink.feederIds sinkWorld d.input).length = b.tally.expected ∧
    (b.finalized = true ↔ ∀ x ∈ sink.feederIds sinkWorld d.input, x ∈ b.tally.voters) := by
  obtain ⟨b, hb⟩ : ∃ b, sinkWorld.boltAt "job" 0 0 = some b :=
    Option.isSome_iff_exists.mp (by decide +kernel)
  obtain ⟨d, hd, -, hlen, -, -, hfin, -⟩ :=
    completion_across_workers (.installed sink_installed) hb
  exact ⟨b, d, hb, hd, hlen, hfin⟩

/-- Data before ends of stream. From every state a deployed job reaches, a step of a spout
executor never ends in a protocol violation and leaves none recorded, whatever the batch sizes;
every tuple a sender then holds back towards a peer is data whose source's end of stream has not
reached the stream's executors there. -/
theorem no_protocol_violation (h : D.Reachable s) {w k : Nat} {r : Except Fault Bool} {s' : World}
    (hrun : (Run.stepSpout w D.job k).run.run s = .ok (r, s')) :
    (∀ f, r = .error f → f.code ≠ "PROTOCOL_VIOLATION") ∧
    (∀ q j, s'.job? ⟨q, D.job⟩ = some j → ∀ e ∈ j.context.errors, e.code ≠ "PROTOCOL_VIOLATION") ∧
    (∀ q c r', s'.routerAt D.job q c = some r' → ∀ k' S, r'.senders[k']? = some S → ∀ t ∈ S.held,
      t.endOfStream = false ∧ ∀ i b, s'.boltAt D.job (Job.peerWorker q k') i = some b → b.node = c →
        t.source ∉ b.tally.voters) := by
  obtain ⟨hw, hc⟩ := h.invariant
  obtain ⟨hc', -, hcl⟩ := stepPost_of_run hw hc hrun
  refine ⟨fun f hf => ?_, hc'.errors, fun q c r' hr k' S hS t ht => ?_⟩
  · subst hf
    exact hcl
  · obtain ⟨heos, -, hnv⟩ := (hc'.held q c r' hr k' S hS).2 t ht
    exact ⟨heos, hnv⟩

/-- The first step of the sink deployment's spout executor ends without a protocol violation. -/
theorem sink_step_clean : ∃ r s', (Run.stepSpout 0 "job" 0).run.run sinkWorld = .ok (r, s') ∧
    ∀ f, r = .error f → f.code ≠ "PROTOCOL_VIOLATION" := by
  obtain ⟨r, s', hrun⟩ : ∃ r s', (Run.stepSpout 0 "job" 0).run.run sinkWorld = .ok (r, s') := by
    have hm : ((Run.stepSpout 0 "job" 0).run.run sinkWorld).isOk = true := by decide +kernel
    cases h : (Run.stepSpout 0 "job" 0).run.run sinkWorld with
    | ok p => exact ⟨p.1, p.2, rfl⟩
    | error e => rw [h] at hm; cases hm
  exact ⟨r, s', hrun, (no_protocol_violation (.installed sink_installed) hrun).1⟩

end Deployment

end Dataflow
