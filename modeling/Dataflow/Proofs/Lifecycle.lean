import Dataflow.Proofs.Failure
import Mathlib.Data.Finset.Card
/-!
The life of a bolt executor, tuple by tuple. An executor expecting `n` votes finishes at the
first end of stream that brings the distinct sources of the ends of stream it has taken to
`max n 1`; before that its component takes the data tuples in arrival order, and after that data
is a protocol violation and ends of stream are ignored.

`BoltExecutor.take` is one step of the executor when whatever the step carries out succeeds, and
`BoltExecutor.after` a history of such steps. The main statement, `bolt_executor_lifecycle`,
says what an executor is after any history, and what delivering one more tuple to it does on
the network: exactly which effects it carries out, what it answers and what it records.

A spout executor's step is stated the same way (`spec_spoutStep_iff`): a done executor does
nothing, and one that runs out is marked done before it forwards its end of stream, so it forwards
one and counts itself finished once (`spout_executor_lifecycle`).
-/
namespace Dataflow

/-! ### Ends of stream and quorum -/

def eosSources (ts : List Tuple) : Finset String :=
  ((ts.filter (·.endOfStream)).map (·.source)).toFinset

/-- Ends of stream from enough distinct sources to finish an executor expecting `expected` votes:
at least `expected` of them, and at least one. -/
def Quorum (expected : Nat) (ts : List Tuple) : Prop := max expected 1 ≤ (eosSources ts).card

instance (expected : Nat) : DecidablePred (Quorum expected) := fun ts =>
  inferInstanceAs (Decidable (max expected 1 ≤ (eosSources ts).card))

section Quorum

variable {ts : List Tuple} {t : Tuple} {n : Nat}

@[simp] lemma eosSources_nil : eosSources [] = ∅ := rfl

lemma eosSources_append_data (h : t.endOfStream = false) : eosSources (ts ++ [t]) = eosSources ts := by
  simp [eosSources, h]

lemma eosSources_append_eos (h : t.endOfStream = true) :
    eosSources (ts ++ [t]) = insert t.source (eosSources ts) := by
  simp [eosSources, h]

lemma eosSources_mono (rest : List Tuple) : eosSources ts ⊆ eosSources (ts ++ rest) := by
  intro x
  simp only [eosSources, List.filter_append, List.map_append, List.toFinset_append, Finset.mem_union]
  exact .inl

lemma Quorum.append (h : Quorum n ts) (rest : List Tuple) : Quorum n (ts ++ rest) :=
  h.trans (Finset.card_le_card (eosSources_mono rest))

lemma quorum_append_data (h : t.endOfStream = false) : Quorum n (ts ++ [t]) ↔ Quorum n ts := by
  simp only [Quorum, eosSources_append_data h]

end Quorum

def BoltLogic.afterData (l : BoltLogic) (ts : List Tuple) : BoltLogic :=
  (ts.filter fun t => !t.endOfStream).foldl (fun l t => (l.onTuple t).2) l

section AfterData

variable (l : BoltLogic) (ts : List Tuple) {t : Tuple}

@[simp] lemma BoltLogic.afterData_nil : l.afterData [] = l := rfl

lemma BoltLogic.afterData_append_data (h : t.endOfStream = false) :
    l.afterData (ts ++ [t]) = ((l.afterData ts).onTuple t).2 := by
  simp [afterData, h]

lemma BoltLogic.afterData_append_eos (h : t.endOfStream = true) : l.afterData (ts ++ [t]) = l.afterData ts := by
  simp [afterData, h]

end AfterData

namespace Tally

variable {tl : Tally} (h : tl.reached = false) (u : String)
include h

lemma reached_vote : (tl.vote u).2.reached = (tl.vote u).1 := by
  rw [vote_of_not_reached h]
  split <;> simp [h]

lemma toFinset_voters_vote : (tl.vote u).2.voters.toFinset = insert u tl.voters.toFinset := by
  rw [vote_of_not_reached h]
  split
  · rename_i hu
    exact (Finset.insert_eq_of_mem (List.mem_toFinset.mpr hu)).symm
  · simp

lemma nodup_voters_vote (hn : tl.voters.Nodup) : (tl.vote u).2.voters.Nodup := by
  rw [vote_of_not_reached h]
  split
  · exact hn
  · rename_i hu
    exact hn.append (List.nodup_singleton u) (by simpa using hu)

end Tally

namespace BoltExecutor

/-! ### The executor as a machine -/

/-- One tuple taken by a bolt executor, when what the step carries out succeeds: an end of stream
is a vote until the executor is finished, and the vote that completes the tally finishes its
component and marks its own end of stream sent; data goes to the component until then. -/
def take (b : BoltExecutor) (t : Tuple) : BoltExecutor :=
  if t.endOfStream then
    if b.finalized then b
    else
      let (won, tally) := b.tally.vote t.source
      if won then { b with tally, finalized := true, sentEos := true, logic := b.logic.onFinish.2 }
      else { b with tally }
  else if b.finalized then b
  else { b with logic := (b.logic.onTuple t).2 }

def after (b : BoltExecutor) (ts : List Tuple) : BoltExecutor := ts.foldl take b

@[simp] lemma after_nil (b : BoltExecutor) : b.after [] = b := rfl

@[simp] lemma after_append_singleton (b : BoltExecutor) (ts : List Tuple) (t : Tuple) :
    b.after (ts ++ [t]) = (b.after ts).take t := by
  simp [after]

/-- A bolt executor as instantiation leaves it: no vote taken, not finished, nothing forwarded. -/
structure Fresh (b : BoltExecutor) : Prop where
  tally : b.tally = { expected := b.tally.expected }
  finalized : b.finalized = false
  sentEos : b.sentEos = false

/-- What an executor is after a history `pre` of a fresh executor `b₀`: finished exactly when `pre`
holds a quorum, with its end of stream sent then; until then its voters are the distinct sources
of the ends of stream of `pre`, and its component has taken the data of `pre` in order. -/
structure Tracks (b₀ : BoltExecutor) (pre : List Tuple) (b : BoltExecutor) : Prop where
  id : b.id = b₀.id
  routes : b.routes = b₀.routes
  expected : b.tally.expected = b₀.tally.expected
  finalized : b.finalized = decide (Quorum b₀.tally.expected pre)
  sentEos : b.sentEos = b.finalized
  reached : b.tally.reached = b.finalized
  voters : b.finalized = false → b.tally.voters.Nodup ∧ b.tally.voters.toFinset = eosSources pre
  logic : b.finalized = false → b.logic = b₀.logic.afterData pre

lemma fresh_of_instance {T : Topology} {id : String} {addresses : List String} {position batch : Nat} {j : Job}
    (h : Job.Instance T id addresses position batch j) {b : BoltExecutor} (hb : b ∈ j.bolts) : b.Fresh := by
  obtain ⟨d, -, ht, hf, hs, -⟩ := h.bolt b hb
  exact ⟨by rw [ht], hf, hs⟩

variable {b₀ b : BoltExecutor} {pre : List Tuple} {t : Tuple}

lemma Tracks.init (h : b₀.Fresh) : Tracks b₀ [] b₀ where
  id := rfl
  routes := rfl
  expected := rfl
  finalized := by
    have : ¬Quorum b₀.tally.expected [] := by simp [Quorum]
    simp [h.finalized, this]
  sentEos := by rw [h.sentEos, h.finalized]
  reached := by rw [h.tally, h.finalized]
  voters _ := by rw [h.tally]; simp
  logic _ := rfl

lemma Tracks.vote_won (hb : Tracks b₀ pre b) (hf : b.finalized = false) (he : t.endOfStream = true) :
    (b.tally.vote t.source).1 = decide (Quorum b₀.tally.expected (pre ++ [t])) := by
  obtain ⟨hnd, hset⟩ := hb.voters hf
  have hq : ¬Quorum b₀.tally.expected pre := by simpa [hf] using hb.finalized.symm
  have hcard : (eosSources pre).card = b.tally.voters.length := by
    rw [← hset, List.toFinset_card_of_nodup hnd]
  rw [Tally.vote_of_not_reached (hb.reached.trans hf), hb.expected]
  simp only [Quorum, eosSources_append_eos he] at hq ⊢
  split
  · rename_i hmem
    have hin : t.source ∈ eosSources pre := by rw [← hset]; simpa using hmem
    rw [Finset.insert_eq_of_mem hin]
    simpa using hq
  · rename_i hmem
    have hin : t.source ∉ eosSources pre := by rw [← hset]; simpa using hmem
    rw [Finset.card_insert_of_notMem hin, hcard]
    simp only [decide_eq_decide]
    omega

lemma Tracks.take_of_finalized (hb : Tracks b₀ pre b) (hf : b.finalized = true) (t : Tuple) :
    Tracks b₀ (pre ++ [t]) (b.take t) := by
  have hq : Quorum b₀.tally.expected pre := by simpa [hf] using hb.finalized.symm
  have ht : b.take t = b := by cases he : t.endOfStream <;> simp [BoltExecutor.take, he, hf]
  rw [ht]
  exact { hb with
    finalized := by simp [hf, hq.append [t]]
    voters := fun h => absurd (hf.symm.trans h) Bool.noConfusion
    logic := fun h => absurd (hf.symm.trans h) Bool.noConfusion }

lemma Tracks.take_data (hb : Tracks b₀ pre b) (hf : b.finalized = false) (he : t.endOfStream = false) :
    Tracks b₀ (pre ++ [t]) (b.take t) := by
  have ht : b.take t = { b with logic := (b.logic.onTuple t).2 } := by simp [BoltExecutor.take, he, hf]
  rw [ht]
  exact { hb with
    finalized := by simpa [quorum_append_data he] using hb.finalized
    voters := fun _ => by simpa [eosSources_append_data he] using hb.voters hf
    logic := fun _ => by simp [BoltLogic.afterData_append_data _ _ he, hb.logic hf] }

lemma Tracks.take_vote (hb : Tracks b₀ pre b) (hf : b.finalized = false) (he : t.endOfStream = true) :
    Tracks b₀ (pre ++ [t]) (b.take t) := by
  have hr : b.tally.reached = false := hb.reached.trans hf
  have hwon := hb.vote_won hf he
  obtain ⟨hnd, hset⟩ := hb.voters hf
  rcases hv : b.tally.vote t.source with ⟨won, tally⟩
  -- what the vote leaves in the tally
  have hreached : tally.reached = won := by simpa [hv] using Tally.reached_vote hr t.source
  have hexp : tally.expected = b.tally.expected := by simpa [hv] using Tally.vote_expected b.tally t.source
  have hset' : tally.voters.toFinset = eosSources (pre ++ [t]) := by
    simpa [hv, hset, eosSources_append_eos he] using Tally.toFinset_voters_vote hr t.source
  have hnd' : tally.voters.Nodup := by simpa [hv] using Tally.nodup_voters_vote hr t.source hnd
  rw [hv] at hwon
  simp only at hwon
  cases won
  case true =>
    have ht : b.take t = { b with tally, finalized := true, sentEos := true, logic := b.logic.onFinish.2 } := by
      simp [BoltExecutor.take, he, hf, hv]
    rw [ht]
    exact { hb with
      expected := hexp.trans hb.expected
      finalized := hwon
      sentEos := rfl
      reached := hreached
      voters := fun h => Bool.noConfusion h
      logic := fun h => Bool.noConfusion h }
  case false =>
    have ht : b.take t = { b with tally } := by simp [BoltExecutor.take, he, hf, hv]
    rw [ht]
    exact { hb with
      expected := hexp.trans hb.expected
      finalized := hf.trans hwon
      reached := hreached.trans hf.symm
      voters := fun _ => ⟨hnd', hset'⟩
      logic := fun _ => by simp [BoltLogic.afterData_append_eos _ _ he, hb.logic hf] }

lemma Tracks.take (hb : Tracks b₀ pre b) (t : Tuple) : Tracks b₀ (pre ++ [t]) (b.take t) := by
  -- the three branches of a step: finished, data, vote
  cases hf : b.finalized
  case true => exact hb.take_of_finalized hf t
  case false =>
    cases he : t.endOfStream
    case false => exact hb.take_data hf he
    case true => exact hb.take_vote hf he

theorem tracks_after (h : b₀.Fresh) (pre : List Tuple) : Tracks b₀ pre (b₀.after pre) := by
  -- the history grows at its end, one step at a time
  induction pre using List.reverseRecOn with
  | nil => exact Tracks.init h
  | append_singleton pre t ih =>
    rw [after_append_singleton]
    exact ih.take t

section History

variable (h₀ : b₀.Fresh)
include h₀

lemma logic_after_finish (hq : ¬Quorum b₀.tally.expected pre) (hq' : Quorum b₀.tally.expected (pre ++ [t])) :
    (b₀.after (pre ++ [t])).logic = (b₀.logic.afterData pre).onFinish.2 := by
  have hb := tracks_after h₀ pre
  have hf : (b₀.after pre).finalized = false := by simp [hb.finalized, hq]
  -- data never brings a quorum
  have he : t.endOfStream = true := by
    cases he : t.endOfStream
    · exact absurd ((quorum_append_data he).mp hq') hq
    · rfl
  have hwon := hb.vote_won hf he
  rcases hv : (b₀.after pre).tally.vote t.source with ⟨won, tally⟩
  rw [hv] at hwon
  simp only [decide_eq_true hq'] at hwon
  subst hwon
  simp [take, he, hf, hv, hb.logic hf]

lemma after_append_of_quorum (hq : Quorum b₀.tally.expected pre) (t : Tuple) :
    b₀.after (pre ++ [t]) = b₀.after pre := by
  have hf : (b₀.after pre).finalized = true := by simp [(tracks_after h₀ pre).finalized, hq]
  cases he : t.endOfStream <;> simp [take, he, hf]

end History

end BoltExecutor

/-! ### A call on the network -/

namespace World

def setBolt (s : World) (p : Place) (i : Nat) (b : BoltExecutor) : World :=
  s.updJob p fun j => { j with bolts := j.bolts.modify i fun _ => b }

/-- The world once a bolt executor has forwarded its end of stream: the executor marks it sent,
and its job counts one local executor finished. -/
def closeBolt (s : World) (p : Place) (i : Nat) : World :=
  (s.updJob p fun j => { j with bolts := j.bolts.modify i fun b => { b with sentEos := true } }).updJob p
    fun j => { j with context := j.context.finishOne }

/-- The world once a spout executor has forwarded its end of stream: the executor marks it sent,
and its job counts one local executor finished. -/
def closeSpout (s : World) (p : Place) (k : Nat) : World :=
  (s.updJob p fun j => { j with spouts := j.spouts.modify k fun sp => { sp with sentEos := true } }).updJob p
    fun j => { j with context := j.context.finishOne }

variable {s : World} {p : Place} {i : Nat} {b : BoltExecutor}

lemma spoutAt_modifySpout_self {k : Nat} {sp : SpoutExecutor} (hsp : s.spoutAt p.job p.worker k = some sp)
    (g : SpoutExecutor → SpoutExecutor) :
    (s.updJob p fun j => { j with spouts := j.spouts.modify k g }).spoutAt p.job p.worker k = some (g sp) := by
  rw [spoutAt_modifySpout, if_pos ⟨rfl, rfl⟩, hsp]
  rfl

lemma boltAt_setBolt_self (hb : s.boltAt p.job p.worker i = some b) (b' : BoltExecutor) :
    (s.setBolt p i b').boltAt p.job p.worker i = some b' := by
  have h : (s.updJob ⟨p.worker, p.job⟩ fun j => { j with bolts := j.bolts.modify i fun _ => b' }).boltAt
      p.job p.worker i = _ := boltAt_modifyBolt p.worker i
  simpa [setBolt, hb] using h

@[simp] lemma setBolt_setBolt (b₁ b₂ : BoltExecutor) : (s.setBolt p i b₁).setBolt p i b₂ = s.setBolt p i b₂ := by
  rw [setBolt, setBolt, updJob_updJob]
  congr 1
  funext j
  simp [List.modify_modify_eq, Function.comp_def]

lemma updJob_modifyBolt_of (hb : s.boltAt p.job p.worker i = some b) (f : BoltExecutor → BoltExecutor) :
    s.updJob p (fun j => { j with bolts := j.bolts.modify i f }) = s.setBolt p i (f b) := by
  obtain ⟨j, hj, hjb⟩ := Option.bind_eq_some_iff.mp hb
  refine updJob_congr fun j' hj' => ?_
  obtain rfl : j = j' := Option.some.inj (hj.symm.trans hj')
  have hmod : j.bolts.modify i f = j.bolts.modify i fun _ => f b := by
    refine List.ext_getElem? fun k => ?_
    simp only [List.getElem?_modify]
    split <;> simp_all
  simp [hmod]

end World

namespace Run

variable {deliver : Deliver} {p : Place} {i : Nat} {t : Tuple} {s : World} {b : BoltExecutor}

-- reading an executor through its job, when both lookups are known to succeed
lemma forall_bind_eq_some_iff {γ δ : Type} {o : Option γ} {g : γ → Option δ} {d : δ} {P : δ → Prop}
    (h : o.bind g = some d) : (∀ c, o = some c → ∀ d', g c = some d' → P d') ↔ P d := by
  obtain ⟨c, hc, hd⟩ := Option.bind_eq_some_iff.mp h
  constructor
  · intro H
    exact H c hc d hd
  · intro hP c' hc' d' hd'
    obtain rfl : c = c' := Option.some.inj (hc.symm.trans hc')
    obtain rfl : d = d' := Option.some.inj (hd.symm.trans hd')
    exact hP

lemma spec_bind_bolt {α : Type} {Q : Except Fault α → World → Prop} (hb : s.boltAt p.job p.worker i = some b)
    (f : BoltExecutor → Run α) : Spec (bolt p i >>= f) s Q ↔ Spec (f b) s Q := by
  rw [spec_bind, spec_bolt]
  exact forall_bind_eq_some_iff hb

lemma spec_bind_pure {α : Type} {Q : Except Fault α → World → Prop} {x : Run Unit} (a : α) :
    Spec (x >>= fun _ => pure a) s Q ↔ Spec x s fun r s' => Q (r.map fun _ => a) s' := by
  rw [spec_bind]
  refine Iff.of_eq (congrArg _ (funext fun r => funext fun s' => ?_))
  rcases r with e | _ <;> rfl

/-- One call of a bolt executor on the network, for any delivery: an end of stream is ignored by
a finished executor and otherwise counted as a vote; the vote that completes the tally carries out
the component's finishing effects and forwards the executor's own end of stream, and only if both
succeed marks it sent and counts the executor finished. Data fails the job of a finished executor
with a protocol violation, and otherwise goes to the component, whose effects are carried out. -/
theorem spec_boltExecute (hb : s.boltAt p.job p.worker i = some b) {Q : Except Fault Bool → World → Prop} :
    Spec (boltExecute deliver p i t) s Q ↔
      if t.endOfStream then
        if b.finalized then Q (.ok false) s
        else if (b.tally.vote t.source).1 then
          Spec (do
              perform deliver ⟨p, b.id, b.logic.fields, b.routes⟩ b.logic.onFinish.1
              emitEos deliver ⟨p, b.id, b.logic.fields, b.routes⟩)
            (s.setBolt p i { b.take t with sentEos := b.sentEos }) fun r s' => match r with
              | .ok _ => Q (.ok false) (s'.closeBolt p i)
              | .error f => Q (.error f) s'
        else Q (.ok true) (s.setBolt p i (b.take t))
      else if b.finalized then
        Q (.error (.protocolViolation b.id t.source))
          (s.updJob p fun j => { j with context := j.context.fail (some b.id) (.protocolViolation b.id t.source) })
      else
        Spec (perform deliver ⟨p, b.id, b.logic.fields, b.routes⟩ (b.logic.onTuple t).1) (s.setBolt p i (b.take t))
          fun r s' => Q (r.map fun _ => true) s' := by
  rw [boltExecute, spec_bind_bolt hb]
  cases he : t.endOfStream <;> cases hf : b.finalized
  case false.false =>
    -- data goes to the component
    have ht : b.take t = { b with logic := (b.logic.onTuple t).2 } := by simp [BoltExecutor.take, he, hf]
    simp only [Bool.false_eq_true, if_false]
    rw [spec_bind]
    simp only [spec_modifyBolt]
    rw [spec_bind_pure, World.updJob_modifyBolt_of hb, ht]
  case false.true =>
    -- data after finishing
    simp [spec_bind]
  case true.true => exact Iff.rfl
  case true.false =>
    simp only [Bool.false_eq_true, if_false, if_true]
    rcases hv : b.tally.vote t.source with ⟨won, tally⟩
    cases won
    case false =>
      -- a vote that leaves the tally short
      have ht : b.take t = { b with tally } := by simp [BoltExecutor.take, he, hf, hv]
      simp only [Bool.not_false, if_true, Bool.false_eq_true, if_false]
      rw [spec_bind]
      simp only [spec_modifyBolt, spec_pure]
      rw [World.updJob_modifyBolt_of hb, ht]
    case true =>
      -- the vote that completes the tally finishes the executor before its effects are carried out
      have ht : { b.take t with sentEos := b.sentEos } =
          { b with tally, finalized := true, logic := b.logic.onFinish.2 } := by
        simp [BoltExecutor.take, he, hf, hv]
      simp only [Bool.not_true, Bool.false_eq_true, if_false, if_true]
      rw [spec_bind]
      simp only [spec_modifyBolt]
      rw [spec_bind]
      simp only [spec_modifyBolt]
      rw [World.updJob_modifyBolt_of hb, World.updJob_modifyBolt_of (World.boltAt_setBolt_self hb _),
        World.setBolt_setBolt, ht]
      simp only [spec_bind, spec_modifyBolt, spec_modifyContext, spec_pure, World.closeBolt]
      -- the two sides differ only in how their outcomes are matched
      refine Iff.of_eq (congrArg _ (funext fun r => funext fun s' => ?_))
      rcases r with f | _
      · rfl
      · dsimp only
        refine congrArg _ (funext fun r => funext fun s'' => ?_)
        rcases r with f | _ <;> rfl

lemma spec_bind_spout {α : Type} {Q : Except Fault α → World → Prop} {k : Nat} {sp : SpoutExecutor}
    (hsp : s.spoutAt p.job p.worker k = some sp) (f : SpoutExecutor → Run α) :
    Spec (spout p k >>= f) s Q ↔ Spec (f sp) s Q := by
  rw [spec_bind, spec_spout]
  exact forall_bind_eq_some_iff hsp

/-- One step of a spout executor on the network, for any delivery: a done executor answers `false`
and changes nothing. Otherwise its component moves on and its effects are carried out; while the
component has more the step answers `true`, and when it has nothing more the executor is marked
done before it forwards its end of stream, and only once that succeeds is it marked sent and
counted finished. -/
theorem spec_spoutStep_iff {k : Nat} {sp : SpoutExecutor} (hsp : s.spoutAt p.job p.worker k = some sp)
    {Q : Except Fault Bool → World → Prop} :
    Spec (spoutStep deliver p k) s Q ↔
      if sp.done then Q (.ok false) s
      else
        Spec (perform deliver ⟨p, sp.id, sp.logic.fields, sp.routes⟩ sp.logic.next.1)
          (s.updJob p fun j => { j with spouts := j.spouts.modify k fun sp' => { sp' with logic := sp.logic.next.2.2 } })
          fun r s₁ => match r with
            | .error f => Q (.error f) s₁
            | .ok _ =>
              if sp.logic.next.2.1 then Q (.ok true) s₁
              else Spec (emitEos deliver ⟨p, sp.id, sp.logic.fields, sp.routes⟩)
                (s₁.updJob p fun j => { j with spouts := j.spouts.modify k fun sp' => { sp' with done := true } })
                fun r s₂ => match r with
                  | .ok _ => Q (.ok false) (s₂.closeSpout p k)
                  | .error f => Q (.error f) s₂ := by
  rw [spoutStep, spec_bind_spout hsp]
  cases hd : sp.done
  case true => exact Iff.rfl
  case false =>
    rcases hn : sp.logic.next with ⟨effects, more, logic⟩
    simp only [Bool.false_eq_true, if_false, spec_bind, spec_modifySpout]
    -- the two sides differ only in how their outcomes are matched
    refine Iff.of_eq (congrArg _ (funext fun r => funext fun s₁ => ?_))
    rcases r with f | _
    · rfl
    · cases more
      case true => rfl
      case false =>
        simp only [Bool.false_eq_true, if_false, spec_bind, spec_modifySpout, spec_modifyContext, spec_pure,
          World.closeSpout]
        refine congrArg _ (funext fun r => funext fun s₂ => ?_)
        rcases r with f | _ <;> rfl

end Run

/-- The life of a bolt executor after any history `pre`: finished, with its end of stream sent,
exactly when the ends of stream of `pre` come from `max n 1` distinct sources, its component having
taken the data before that in order and finished once. Delivering one more tuple on the network
carries out exactly the effects that step calls for, answers as the step says, and counts the
executor finished only once its end of stream is forwarded. -/
theorem bolt_executor_lifecycle {b₀ : BoltExecutor} (h₀ : b₀.Fresh) (pre : List Tuple) :
    ((b₀.after pre).finalized = decide (Quorum b₀.tally.expected pre) ∧
      (b₀.after pre).sentEos = decide (Quorum b₀.tally.expected pre) ∧
      (¬Quorum b₀.tally.expected pre → (b₀.after pre).logic = b₀.logic.afterData pre) ∧
      (∀ t, ¬Quorum b₀.tally.expected pre → Quorum b₀.tally.expected (pre ++ [t]) →
        (b₀.after (pre ++ [t])).logic = (b₀.logic.afterData pre).onFinish.2) ∧
      (∀ t, Quorum b₀.tally.expected pre → b₀.after (pre ++ [t]) = b₀.after pre)) ∧
    ∀ (deliver : Deliver) (p : Place) (i : Nat) (t : Tuple) (s : World) (Q : Except Fault Bool → World → Prop),
      s.boltAt p.job p.worker i = some (b₀.after pre) →
      (Run.Spec (boltExecute deliver p i t) s Q ↔
        if Quorum b₀.tally.expected pre then
          if t.endOfStream then Q (.ok false) s
          else Q (.error (.protocolViolation b₀.id t.source)) (s.updJob p fun j =>
            { j with context := j.context.fail (some b₀.id) (.protocolViolation b₀.id t.source) })
        else if t.endOfStream then
          if Quorum b₀.tally.expected (pre ++ [t]) then
            Run.Spec (do
                perform deliver ⟨p, b₀.id, b₀.logic.fields, b₀.routes⟩ (b₀.logic.afterData pre).onFinish.1
                emitEos deliver ⟨p, b₀.id, b₀.logic.fields, b₀.routes⟩)
              (s.setBolt p i { b₀.after (pre ++ [t]) with sentEos := false }) fun r s' => match r with
                | .ok _ => Q (.ok false) (s'.closeBolt p i)
                | .error f => Q (.error f) s'
          else Q (.ok true) (s.setBolt p i (b₀.after (pre ++ [t])))
        else
          Run.Spec (perform deliver ⟨p, b₀.id, b₀.logic.fields, b₀.routes⟩ ((b₀.logic.afterData pre).onTuple t).1)
            (s.setBolt p i (b₀.after (pre ++ [t]))) fun r s' => Q (r.map fun _ => true) s') := by
  have hb := BoltExecutor.tracks_after h₀ pre
  refine ⟨⟨hb.finalized, hb.sentEos.trans hb.finalized, fun hq => hb.logic (by simp [hb.finalized, hq]),
    fun t => BoltExecutor.logic_after_finish h₀, fun t hq => BoltExecutor.after_append_of_quorum h₀ hq t⟩, ?_⟩
  intro deliver p i t s Q hs
  rw [Run.spec_boltExecute hs, hb.id, hb.routes]
  by_cases hq : Quorum b₀.tally.expected pre
  case pos =>
    have hf : (b₀.after pre).finalized = true := by simp [hb.finalized, hq]
    simp only [hf, hq, if_true]
  case neg =>
    have hf : (b₀.after pre).finalized = false := by simp [hb.finalized, hq]
    simp only [hf, hq, if_false, Bool.false_eq_true, BoltExecutor.after_append_singleton]
    cases he : t.endOfStream
    case false =>
      simp only [Bool.false_eq_true, if_false, hb.logic hf]
      rfl
    case true =>
      simp only [if_true, hb.vote_won hf he, decide_eq_true_eq, hb.logic hf, hb.sentEos, hf]
      rfl

def twoVoteSink : BoltExecutor := { id := "sink", node := "sink", logic := .sink [], tally := { expected := 2 } }

/-- A repeated source is one vote: the sink finishes only at the second distinct source. -/
theorem twoVoteSink_finishes_at_second_source :
    twoVoteSink.Fresh ∧ (twoVoteSink.after [Tuple.eos "a", Tuple.eos "a"]).finalized = false ∧
      (twoVoteSink.after [Tuple.eos "a", Tuple.eos "a", Tuple.eos "b"]).finalized = true :=
  ⟨⟨rfl, rfl, rfl⟩, (bolt_executor_lifecycle ⟨rfl, rfl, rfl⟩ _).1.1.trans (by decide),
    (bolt_executor_lifecycle ⟨rfl, rfl, rfl⟩ _).1.1.trans (by decide)⟩

/-- The life of a spout executor, step by step: a step of a done executor answers `false` and
changes nothing, so no executor forwards a second end of stream or counts itself finished twice;
a step of one not yet done answers `false` only once the executor is done and its end of stream
forwarded and marked sent, since forwarding moves no spout executor. -/
theorem spout_executor_lifecycle {s : World} {p : Place} {k : Nat} {sp : SpoutExecutor}
    (hsp : s.spoutAt p.job p.worker k = some sp) :
    (sp.done = true → (spoutStep deliver p k).run.run s = .ok (.ok false, s)) ∧
    (sp.done = false → Run.Spec (spoutStep deliver p k) s fun r s' => r = .ok false →
      ∃ sp', s'.spoutAt p.job p.worker k = some sp' ∧ sp'.done = true ∧ sp'.sentEos = true) := by
  have hR := flowRel_spoutsKept none
  refine ⟨fun hd => ?_, fun hd => ?_⟩
  · obtain ⟨j, hj, hjs⟩ := Option.bind_eq_some_iff.mp hsp
    rw [spoutStep, Run.run_bind, Run.run_spout hj hjs]
    simp [hd]
    rfl
  rw [Run.spec_spoutStep_iff hsp, if_neg (by simp [hd])]
  -- the component's effects move no spout executor
  refine ((hR.stays_perform hR.stays_deliver _ _) _).mono fun r s₁ h₁ => ?_
  rcases r with f | _
  · intro h
    cases h
  dsimp only
  split
  · intro h
    cases h
  -- nor does forwarding the end of stream, so the mark `done` set before it stays
  refine ((hR.stays_emitEos hR.stays_deliver _) _).mono fun r s₂ h₂ => ?_
  rcases r with f | _
  · intro h
    cases h
  intro _
  have hk₁ : s₁.spoutAt p.job p.worker k = some { sp with logic := sp.logic.next.2.2 } := by
    rw [SpoutsKept.spoutAt_eq h₁]
    exact World.spoutAt_modifySpout_self hsp _
  have hk₂ : s₂.spoutAt p.job p.worker k = some { sp with logic := sp.logic.next.2.2, done := true } := by
    rw [SpoutsKept.spoutAt_eq h₂]
    exact World.spoutAt_modifySpout_self hk₁ _
  refine ⟨{ sp with logic := sp.logic.next.2.2, done := true, sentEos := true }, ?_, rfl, rfl⟩
  rw [World.closeSpout, World.spoutAt_context]
  exact World.spoutAt_modifySpout_self hk₂ _

end Dataflow
