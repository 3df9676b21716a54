import Dataflow.Proofs.Deployment
/-!
How flows move the end-of-stream state of a deployed job.

`Keeps` is what every flow keeps: the fixed part of the job, tallies that only gain votes,
finished executors that never change again, and the senders of the streams above the executor
that started the flow. `Quiet` is what a flow of data keeps besides: every tally, closing and
forwarded end of stream as it was. A flow may deliver a data tuple where its source feeds the
stream and has not voted (`DataAdm`), and an end of stream where its source has closed and has no
data held back on the way (`EosAdm`).

The invariant `Consistent` reads only the end-of-stream part of executors, the senders' held
tuples, the ends of stream taken and the errors; a change that leaves those alone keeps it
(`Consistent.of_quiet`).
-/
namespace Dataflow

def BoltExecutor.eos (b : BoltExecutor) : BoltExecutor := { b with logic := default }

/-- What the end-of-stream protocol reads of a spout executor: all but its component. -/
def SpoutExecutor.eos (sp : SpoutExecutor) : SpoutExecutor := { sp with logic := default }

lemma BoltExecutor.eos_eq_iff {b b' : BoltExecutor} : b.eos = b'.eos ↔ b.id = b'.id ∧ b.node = b'.node ∧
    b.tally = b'.tally ∧ b.finalized = b'.finalized ∧ b.sentEos = b'.sentEos ∧ b.routes = b'.routes := by
  obtain ⟨id, node, logic, tally, f, se, routes⟩ := b
  obtain ⟨id', node', logic', tally', f', se', routes'⟩ := b'
  simp only [eos, mk.injEq]
  tauto

lemma SpoutExecutor.eos_eq_iff {sp sp' : SpoutExecutor} : sp.eos = sp'.eos ↔ sp.id = sp'.id ∧
    sp.node = sp'.node ∧ sp.done = sp'.done ∧ sp.sentEos = sp'.sentEos ∧ sp.routes = sp'.routes := by
  obtain ⟨id, node, logic, d, se, routes⟩ := sp
  obtain ⟨id', node', logic', d', se', routes'⟩ := sp'
  simp only [eos, mk.injEq]
  tauto

def Clean {α : Type} : Except Fault α → Prop
  | .ok _ => True
  | .error e => e.code ≠ "PROTOCOL_VIOLATION"

namespace Deployment

variable (D : Deployment)

/-- What a flow started by an executor at depth `k` keeps: the fixed part of the job, tallies that
only gain votes, finished executors exactly as they were, and the senders of every stream at
depth `k` or less. -/
structure Keeps (k : Nat) (s s' : World) : Prop where
  fixed : s'.fixedOf D.job = s.fixedOf D.job
  bolt : ∀ w i b, s.boltAt D.job w i = some b → ∃ b', s'.boltAt D.job w i = some b' ∧
    b.tally.voters <+: b'.tally.voters ∧ (b.finalized = true → b' = b)
  spout : ∀ w i sp, s.spoutAt D.job w i = some sp → ∃ sp', s'.spoutAt D.job w i = some sp' ∧
    (sp.done = true → sp' = sp)
  senders : ∀ w c r, D.topology.depth c ≤ k → s.routerAt D.job w c = some r →
    ∃ r', s'.routerAt D.job w c = some r' ∧ r'.senders = r.senders

structure Quiet (s s' : World) : Prop where
  bolt : ∀ w i, (s'.boltAt D.job w i).map BoltExecutor.eos = (s.boltAt D.job w i).map BoltExecutor.eos
  spout : ∀ w i, (s'.spoutAt D.job w i).map SpoutExecutor.eos = (s.spoutAt D.job w i).map SpoutExecutor.eos

/-- Every bolt executor that has finished without forwarding its end of stream in `s'` was so,
unchanged, in `s`. -/
def NoNewStuck (s s' : World) : Prop :=
  ∀ w i b, s'.boltAt D.job w i = some b → b.finalized = true → b.sentEos = false →
    s.boltAt D.job w i = some b

def Voted (s : World) (q : Nat) (c x : String) : Prop :=
  ∀ i b, s.boltAt D.job q i = some b → b.node = c → x ∈ b.tally.voters

def NotVoter (s : World) (x : String) : Prop :=
  ∀ w i b, s.boltAt D.job w i = some b → x ∉ b.tally.voters

/-- A data tuple may reach the executors of stream `c` on worker `q`: its source feeds the stream
and has voted at none of them. -/
def DataAdm (s : World) (q : Nat) (c : String) (t : Tuple) : Prop :=
  t.endOfStream = false ∧ (∃ d, D.topology.bolts.lookup c = some d ∧ t.source ∈ D.feederIds s d.input) ∧
    ∀ i b, s.boltAt D.job q i = some b → b.node = c → t.source ∉ b.tally.voters

def Flushed (s : World) (q : Nat) (c x : String) : Prop :=
  ∀ w r, s.routerAt D.job w c = some r → ∀ k S, r.senders[k]? = some S → Job.peerWorker w k = q →
    ∀ t ∈ S.held, t.source ≠ x

/-- The end of stream of `x` may reach the executors of stream `c` on worker `q`: `x` is a closed
executor of the stream's input, and none of its data is held back on the way to `q`. -/
def EosAdm (s : World) (q : Nat) (c x : String) : Prop :=
  (∃ d, D.topology.bolts.lookup c = some d ∧ D.ClosedFeeder s d.input x) ∧ D.Flushed s q c x

variable {D}

/-! ### The end-of-stream part unchanged -/

namespace Quiet

variable {s s' s'' : World}

@[refl] lemma refl (s : World) : D.Quiet s s := ⟨fun _ _ => rfl, fun _ _ => rfl⟩

lemma symm (h : D.Quiet s s') : D.Quiet s' s := ⟨fun w i => (h.bolt w i).symm, fun w i => (h.spout w i).symm⟩

lemma trans (h : D.Quiet s s') (h' : D.Quiet s' s'') : D.Quiet s s'' :=
  ⟨fun w i => (h'.bolt w i).trans (h.bolt w i), fun w i => (h'.spout w i).trans (h.spout w i)⟩

lemma boltAt (h : D.Quiet s s') {w i : Nat} {b : BoltExecutor} (hb : s.boltAt D.job w i = some b) :
    ∃ b', s'.boltAt D.job w i = some b' ∧ b'.eos = b.eos := by
  have := h.bolt w i
  rw [hb, Option.map_some, Option.map_eq_some_iff] at this
  exact this

lemma spoutAt (h : D.Quiet s s') {w i : Nat} {sp : SpoutExecutor} (hsp : s.spoutAt D.job w i = some sp) :
    ∃ sp', s'.spoutAt D.job w i = some sp' ∧ sp'.eos = sp.eos := by
  have := h.spout w i
  rw [hsp, Option.map_some, Option.map_eq_some_iff] at this
  exact this

lemma closedFeeder (h : D.Quiet s s') {n x : String} (hx : D.ClosedFeeder s n x) : D.ClosedFeeder s' n x := by
  rcases hx with ⟨w, i, b, hb, hid, hn, hf⟩ | ⟨w, i, sp, hsp, hid, hn, hd⟩
  · obtain ⟨b', hb', he⟩ := h.boltAt hb
    obtain ⟨hid', hn', -, hf', -⟩ := BoltExecutor.eos_eq_iff.mp he
    exact .inl ⟨w, i, b', hb', hid'.trans hid, hn'.trans hn, hf'.trans hf⟩
  · obtain ⟨sp', hsp', he⟩ := h.spoutAt hsp
    obtain ⟨hid', hn', hd', -⟩ := SpoutExecutor.eos_eq_iff.mp he
    exact .inr ⟨w, i, sp', hsp', hid'.trans hid, hn'.trans hn, hd'.trans hd⟩

lemma voted (h : D.Quiet s s') {q : Nat} {c x : String} (hx : D.Voted s q c x) : D.Voted s' q c x := by
  intro i b' hb' hn
  obtain ⟨b, hb, he⟩ := h.symm.boltAt hb'
  obtain ⟨-, hn', ht, -⟩ := BoltExecutor.eos_eq_iff.mp he
  rw [← ht]
  exact hx i b hb (hn'.trans hn)

lemma votedAt (h : D.Quiet s s') {c x : String} (hx : D.VotedAt s c x) : D.VotedAt s' c x :=
  fun w => h.voted (show D.Voted s w c x from fun i b hb hn => hx w i b hb hn)

lemma unsent (h : D.Quiet s s') {x : String} (hx : D.Unsent s x) : D.Unsent s' x := by
  refine ⟨fun w i b' hb' hid => ?_, fun w i sp' hsp' hid => ?_⟩
  · obtain ⟨b, hb, he⟩ := h.symm.boltAt hb'
    obtain ⟨hid', -, -, -, hse, -⟩ := BoltExecutor.eos_eq_iff.mp he
    exact hse.symm.trans (hx.1 w i b hb (hid'.trans hid))
  · obtain ⟨sp, hsp, he⟩ := h.symm.spoutAt hsp'
    obtain ⟨hid', -, -, hse, -⟩ := SpoutExecutor.eos_eq_iff.mp he
    exact hse.symm.trans (hx.2 w i sp hsp (hid'.trans hid))

lemma mem_idsAt (h : D.Quiet s s') {w : Nat} {n x : String} (hx : x ∈ D.idsAt s w n) : x ∈ D.idsAt s' w n := by
  rcases Deployment.mem_idsAt.mp hx with ⟨i, b, hb, hn, hid⟩ | ⟨i, sp, hsp, hn, hid⟩
  · obtain ⟨b', hb', he⟩ := h.boltAt hb
    obtain ⟨hid', hn', -⟩ := BoltExecutor.eos_eq_iff.mp he
    exact Deployment.mem_idsAt.mpr (.inl ⟨i, b', hb', hn'.trans hn, hid'.trans hid⟩)
  · obtain ⟨sp', hsp', he⟩ := h.spoutAt hsp
    obtain ⟨hid', hn', -⟩ := SpoutExecutor.eos_eq_iff.mp he
    exact Deployment.mem_idsAt.mpr (.inr ⟨i, sp', hsp', hn'.trans hn, hid'.trans hid⟩)

lemma mem_feederIds (h : D.Quiet s s') {n x : String} (hx : x ∈ D.feederIds s n) : x ∈ D.feederIds s' n := by
  simp only [feederIds, List.mem_flatMap] at hx ⊢
  obtain ⟨w, hw, hx⟩ := hx
  exact ⟨w, hw, h.mem_idsAt hx⟩

lemma notVoter (h : D.Quiet s s') {x : String} (hx : D.NotVoter s x) : D.NotVoter s' x := by
  intro w i b' hb'
  obtain ⟨b, hb, he⟩ := h.symm.boltAt hb'
  rw [← (BoltExecutor.eos_eq_iff.mp he).2.2.1]
  exact hx w i b hb

end Quiet

lemma SenderOk.of_quiet {s s' : World} (hq : D.Quiet s s') {w k : Nat} {c : String} {S : Sender}
    (h : D.SenderOk s w c k S) : D.SenderOk s' w c k S := by
  refine ⟨h.1, fun x hx => ?_⟩
  obtain ⟨heos, ⟨d, hd, hids⟩, hnv⟩ := h.2 x hx
  refine ⟨heos, ⟨d, hd, hq.mem_idsAt hids⟩, fun i b' hb' hn => ?_⟩
  obtain ⟨b, hb, he⟩ := hq.symm.boltAt hb'
  obtain ⟨-, hn', ht, -⟩ := BoltExecutor.eos_eq_iff.mp he
  rw [← ht]
  exact hnv i b hb (hn'.trans hn)

/-- A change that leaves the end-of-stream part of every executor and the ends of stream taken as
they were, records no protocol violation and leaves every sender as the invariant wants it, keeps
the invariant. -/
theorem Consistent.of_quiet_senders {s s' : World} (hc : D.Consistent s) (hq : D.Quiet s s')
    (hr : ∀ w c r', s'.routerAt D.job w c = some r' → ∀ k S, r'.senders[k]? = some S → D.SenderOk s' w c k S)
    (hseen : ∀ w, ∀ e ∈ s'.seenAt D.job w, e ∈ s.seenAt D.job w ∨ D.Voted s' w e.1 e.2)
    (herr : ∀ w j, s'.job? ⟨w, D.job⟩ = some j → ∀ r ∈ j.context.errors, r.code ≠ "PROTOCOL_VIOLATION") :
    D.Consistent s' := by
  refine ⟨fun w i b' hb' => ?_, fun w i b' hb' d hd x hx => ?_, fun w i b' hb' hs => ?_,
    fun w i sp' hsp' hs => ?_, fun w i b' hb' hf hs => ?_, fun w c r' hr' k S hS => ?_,
    fun w e he i b' hb' hn => ?_, herr⟩
  · obtain ⟨b, hb, he⟩ := hq.symm.boltAt hb'
    obtain ⟨-, -, ht, hf, -⟩ := BoltExecutor.eos_eq_iff.mp he
    rw [← ht, ← hf]
    exact hc.tally w i b hb
  · obtain ⟨b, hb, he⟩ := hq.symm.boltAt hb'
    obtain ⟨-, hn, ht, -⟩ := BoltExecutor.eos_eq_iff.mp he
    rw [← ht] at hx
    exact hq.closedFeeder (hc.voters w i b hb d (hn ▸ hd) x hx)
  · obtain ⟨b, hb, he⟩ := hq.symm.boltAt hb'
    obtain ⟨hid, -, -, hf, hse, hro⟩ := BoltExecutor.eos_eq_iff.mp he
    obtain ⟨hfin, hv⟩ := hc.boltSent w i b hb (hse.trans hs)
    refine ⟨hf ▸ hfin, fun c hc' => ?_⟩
    rw [← hid]
    exact hq.votedAt (hv c (hro ▸ hc'))
  · obtain ⟨sp, hsp, he⟩ := hq.symm.spoutAt hsp'
    obtain ⟨hid, -, hd, hse, hro⟩ := SpoutExecutor.eos_eq_iff.mp he
    obtain ⟨hdone, hv⟩ := hc.spoutSent w i sp hsp (hse.trans hs)
    refine ⟨hd ▸ hdone, fun c hc' => ?_⟩
    rw [← hid]
    exact hq.votedAt (hv c (hro ▸ hc'))
  · obtain ⟨b, hb, he⟩ := hq.symm.boltAt hb'
    obtain ⟨-, -, ht, hfe, hse, -⟩ := BoltExecutor.eos_eq_iff.mp he
    obtain ⟨last, hl, hu⟩ := hc.stuck w i b hb (hfe.trans hf) (hse.trans hs)
    exact ⟨last, ht ▸ hl, hq.unsent hu⟩
  · exact hr w c r' hr' k S hS
  · rcases hseen w e he with he | hv
    · obtain ⟨b, hb, heq⟩ := hq.symm.boltAt hb'
      obtain ⟨-, hn', ht, -⟩ := BoltExecutor.eos_eq_iff.mp heq
      rw [← ht]
      exact hc.seen w e he i b hb (hn'.trans hn)
    · exact hv i b' hb' hn

/-- A change that leaves the end-of-stream part of every executor, the senders' held tuples and the
ends of stream taken as they were, and records no protocol violation, keeps the invariant. -/
theorem Consistent.of_quiet {s s' : World} (hc : D.Consistent s) (hq : D.Quiet s s')
    (hr : ∀ w c r', s'.routerAt D.job w c = some r' → ∃ r, s.routerAt D.job w c = some r ∧ r'.senders = r.senders)
    (hseen : ∀ w, s'.seenAt D.job w = s.seenAt D.job w)
    (herr : ∀ w j, s'.job? ⟨w, D.job⟩ = some j → ∀ r ∈ j.context.errors, r.code ≠ "PROTOCOL_VIOLATION") :
    D.Consistent s' := by
  refine hc.of_quiet_senders hq (fun w c r' hr' k S hS => ?_) (fun w e he => .inl (hseen w ▸ he)) herr
  obtain ⟨r, hr₀, hsend⟩ := hr w c r' hr'
  rw [hsend] at hS
  exact (hc.held w c r hr₀ k S hS).of_quiet hq

/-! ### What every flow keeps -/

lemma idsAt_of_fixedOf {s s' : World} (h : s'.fixedOf D.job = s.fixedOf D.job) (w : Nat) (n : String) :
    D.idsAt s' w n = D.idsAt s w n := by
  have key : ∀ t : World, D.idsAt t w n = (((t.job? ⟨w, D.job⟩).map Job.fixed).map fun j =>
      (j.spouts.filter (·.node = n)).map (·.id) ++ (j.bolts.filter (·.node = n)).map (·.id)).getD [] := by
    intro t
    simp only [idsAt, Option.map_map]
    congr 2
    funext j
    simp only [Job.fixed, List.filter_map, List.map_map, Function.comp_def, SpoutExecutor.fixed,
      BoltExecutor.fixed]
    rfl
  rw [key, key, World.job?_fixed_eq h]

lemma feederIds_of_fixedOf {s s' : World} (h : s'.fixedOf D.job = s.fixedOf D.job) (n : String) :
    D.feederIds s' n = D.feederIds s n := by
  simp only [feederIds, idsAt_of_fixedOf h]

namespace Keeps

variable {k : Nat} {s s' s'' : World}

@[refl] lemma refl (k : Nat) (s : World) : D.Keeps k s s where
  fixed := rfl
  bolt _ _ b hb := ⟨b, hb, List.prefix_refl _, fun _ => rfl⟩
  spout _ _ sp hsp := ⟨sp, hsp, fun _ => rfl⟩
  senders _ _ r _ hr := ⟨r, hr, rfl⟩

lemma trans (h : D.Keeps k s s') (h' : D.Keeps k s' s'') : D.Keeps k s s'' where
  fixed := h'.fixed.trans h.fixed
  bolt w i b hb := by
    obtain ⟨b', hb', hv, hf⟩ := h.bolt w i b hb
    obtain ⟨b'', hb'', hv', hf'⟩ := h'.bolt w i b' hb'
    refine ⟨b'', hb'', hv.trans hv', fun hfin => ?_⟩
    obtain rfl := hf hfin
    exact hf' hfin
  spout w i sp hsp := by
    obtain ⟨sp', hsp', hd⟩ := h.spout w i sp hsp
    obtain ⟨sp'', hsp'', hd'⟩ := h'.spout w i sp' hsp'
    refine ⟨sp'', hsp'', fun hdone => ?_⟩
    obtain rfl := hd hdone
    exact hd' hdone
  senders w c r hd hr := by
    obtain ⟨r', hr', hs⟩ := h.senders w c r hd hr
    obtain ⟨r'', hr'', hs'⟩ := h'.senders w c r' hd hr'
    exact ⟨r'', hr'', hs'.trans hs⟩

lemma mono (h : D.Keeps k s s') {k' : Nat} (hk : k' ≤ k) : D.Keeps k' s s' :=
  { h with senders := fun w c r hd hr => h.senders w c r (Nat.le_trans hd hk) hr }

lemma boltAt_back (h : D.Keeps k s s') {w i : Nat} {b' : BoltExecutor} (hb' : s'.boltAt D.job w i = some b') :
    ∃ b, s.boltAt D.job w i = some b ∧ b'.fixed = b.fixed ∧ b.tally.voters <+: b'.tally.voters ∧
      (b.finalized = true → b' = b) := by
  obtain ⟨b, hb, hfix⟩ := World.boltAt_fixed_some h.fixed hb'
  obtain ⟨b'', hb'', hv, hf⟩ := h.bolt w i b hb
  rw [hb', Option.some.injEq] at hb''
  subst hb''
  exact ⟨b, hb, hfix, hv, hf⟩

lemma boltAt_fwd (h : D.Keeps k s s') {w i : Nat} {b : BoltExecutor} (hb : s.boltAt D.job w i = some b) :
    ∃ b', s'.boltAt D.job w i = some b' ∧ b'.fixed = b.fixed ∧ b.tally.voters <+: b'.tally.voters := by
  obtain ⟨b', hb', hv, -⟩ := h.bolt w i b hb
  have := World.boltAt_fixed_eq h.fixed w i
  rw [hb, hb', Option.map_some, Option.map_some, Option.some.injEq] at this
  exact ⟨b', hb', this, hv⟩

lemma closedFeeder (h : D.Keeps k s s') {n x : String} (hx : D.ClosedFeeder s n x) : D.ClosedFeeder s' n x := by
  rcases hx with ⟨w, i, b, hb, hid, hn, hf⟩ | ⟨w, i, sp, hsp, hid, hn, hd⟩
  · obtain ⟨b', hb', -, hfr⟩ := h.bolt w i b hb
    rw [hfr hf] at hb'
    exact .inl ⟨w, i, b, hb', hid, hn, hf⟩
  · obtain ⟨sp', hsp', hfr⟩ := h.spout w i sp hsp
    rw [hfr hd] at hsp'
    exact .inr ⟨w, i, sp, hsp', hid, hn, hd⟩

lemma voted (h : D.Keeps k s s') {q : Nat} {c x : String} (hx : D.Voted s q c x) : D.Voted s' q c x := by
  intro i b' hb' hn
  obtain ⟨b, hb, hfix, hv, -⟩ := h.boltAt_back hb'
  exact hv.subset (hx i b hb ((BoltExecutor.fixed_eq_iff.mp hfix).2.1 ▸ hn))

lemma votedAt (h : D.Keeps k s s') {c x : String} (hx : D.VotedAt s c x) : D.VotedAt s' c x :=
  fun w => h.voted (show D.Voted s w c x from fun i b hb hn => hx w i b hb hn)

lemma flushed (h : D.Keeps k s s') {q : Nat} {c x : String} (hd : D.topology.depth c ≤ k)
    (hx : D.Flushed s q c x) : D.Flushed s' q c x := by
  intro w r' hr' j S hS hq t ht
  obtain ⟨r, hr, -⟩ := World.routerAt_fixed_some h.fixed hr'
  obtain ⟨r'', hr'', hs⟩ := h.senders w c r hd hr
  rw [hr', Option.some.injEq] at hr''
  subst hr''
  rw [hs] at hS
  exact hx w r hr j S hS hq t ht

lemma eosAdm (h : D.Keeps k s s') {q : Nat} {c x : String} (hd : D.topology.depth c ≤ k)
    (hx : D.EosAdm s q c x) : D.EosAdm s' q c x := by
  obtain ⟨⟨d, hl, hcl⟩, hfl⟩ := hx
  exact ⟨⟨d, hl, h.closedFeeder hcl⟩, h.flushed hd hfl⟩

end Keeps

lemma DataAdm.of_quiet {s s' : World} (hq : D.Quiet s s') {q : Nat} {c : String} {t : Tuple}
    (h : D.DataAdm s q c t) : D.DataAdm s' q c t := by
  obtain ⟨heos, ⟨d, hl, hmem⟩, hnv⟩ := h
  refine ⟨heos, ⟨d, hl, hq.mem_feederIds hmem⟩, fun i b' hb' hn => ?_⟩
  obtain ⟨b, hb, he⟩ := hq.symm.boltAt hb'
  obtain ⟨-, hn', ht, -⟩ := BoltExecutor.eos_eq_iff.mp he
  rw [← ht]
  exact hnv i b hb (hn'.trans hn)

namespace NoNewStuck

variable {s s' s'' : World}

@[refl] lemma refl (s : World) : D.NoNewStuck s s := fun _ _ _ hb _ _ => hb

lemma trans (h : D.NoNewStuck s s') (h' : D.NoNewStuck s' s'') : D.NoNewStuck s s'' :=
  fun w i b hb hf hs => h w i b (h' w i b hb hf hs) hf hs

lemma of_quiet {k : Nat} (hq : D.Quiet s s') (hk : D.Keeps k s s') : D.NoNewStuck s s' := by
  intro w i b' hb' hf hs
  obtain ⟨b, hb, he⟩ := hq.symm.boltAt hb'
  obtain ⟨-, -, -, hfe, -⟩ := BoltExecutor.eos_eq_iff.mp he
  obtain ⟨b'', hb'', -, hfr⟩ := hk.bolt w i b hb
  rw [hfr (hfe.trans hf), hb', Option.some.injEq] at hb''
  rw [hb'']
  exact hb

end NoNewStuck

end Deployment

end Dataflow
