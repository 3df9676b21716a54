import Dataflow.Proofs.Protocol
/-!
The updates the flows make, one at a time, against the invariant of the end-of-stream protocol.

Most updates leave the end-of-stream state alone (`Neutral`): a count in the job's context, a
component's new state, a router's shuffle counter, a hand-over begun, a file written. The others
each change one thing: a sender takes a tuple, a bolt executor takes a vote (and finishes with the
vote that completes its tally), a spout executor closes, an executor forwards its end of stream,
a worker marks an end of stream taken. Each keeps `Consistent` under the condition that makes it
safe, and each extends `Keeps`.
-/
namespace Dataflow

@[simp] lemma BoltExecutor.fixed_eos (b : BoltExecutor) : b.eos.fixed = b.fixed := rfl

@[simp] lemma SpoutExecutor.fixed_eos (sp : SpoutExecutor) : sp.eos.fixed = sp.fixed := rfl

namespace Deployment

variable (D : Deployment)

/-- A change that leaves the end-of-stream state alone: the fixed part of the job, the
end-of-stream part of every executor, finished executors entirely, the senders' held tuples and
the ends of stream taken; an error it records is no protocol violation. -/
structure Neutral (s s' : World) : Prop where
  fixed : s'.fixedOf D.job = s.fixedOf D.job
  quiet : D.Quiet s s'
  finalized : ∀ w i b, s.boltAt D.job w i = some b → b.finalized = true → s'.boltAt D.job w i = some b
  done : ∀ w i sp, s.spoutAt D.job w i = some sp → sp.done = true → s'.spoutAt D.job w i = some sp
  senders : ∀ w c r', s'.routerAt D.job w c = some r' →
    ∃ r, s.routerAt D.job w c = some r ∧ r'.senders = r.senders
  seen : ∀ w, s'.seenAt D.job w = s.seenAt D.job w
  errors : ∀ w j', s'.job? ⟨w, D.job⟩ = some j' → ∀ r ∈ j'.context.errors,
    (∃ j, s.job? ⟨w, D.job⟩ = some j ∧ r ∈ j.context.errors) ∨ r.code ≠ "PROTOCOL_VIOLATION"

variable {D}

namespace Neutral

variable {s s' s'' : World}

@[refl] lemma refl (s : World) : D.Neutral s s where
  fixed := rfl
  quiet := Quiet.refl s
  finalized _ _ _ hb _ := hb
  done _ _ _ hsp _ := hsp
  senders _ _ r hr := ⟨r, hr, rfl⟩
  seen _ := rfl
  errors _ j hj _ hr := .inl ⟨j, hj, hr⟩

lemma trans (h : D.Neutral s s') (h' : D.Neutral s' s'') : D.Neutral s s'' where
  fixed := h'.fixed.trans h.fixed
  quiet := h.quiet.trans h'.quiet
  finalized w i b hb hf := h'.finalized w i b (h.finalized w i b hb hf) hf
  done w i sp hsp hd := h'.done w i sp (h.done w i sp hsp hd) hd
  senders w c r'' hr'' := by
    obtain ⟨r', hr', hs'⟩ := h'.senders w c r'' hr''
    obtain ⟨r, hr, hs⟩ := h.senders w c r' hr'
    exact ⟨r, hr, hs'.trans hs⟩
  seen w := (h'.seen w).trans (h.seen w)
  errors w j'' hj'' r hr := by
    rcases h'.errors w j'' hj'' r hr with ⟨j', hj', hr'⟩ | hne
    · exact h.errors w j' hj' r hr'
    · exact .inr hne

lemma consistent (h : D.Neutral s s') (hc : D.Consistent s) : D.Consistent s' := by
  refine hc.of_quiet h.quiet h.senders h.seen fun w j' hj' r hr => ?_
  rcases h.errors w j' hj' r hr with ⟨j, hj, hr⟩ | hne
  · exact hc.errors w j hj r hr
  · exact hne

lemma keeps (h : D.Neutral s s') (k : Nat) : D.Keeps k s s' where
  fixed := h.fixed
  bolt w i b hb := by
    obtain ⟨b', hb', he⟩ := h.quiet.boltAt hb
    refine ⟨b', hb', ?_, fun hf => ?_⟩
    · exact (BoltExecutor.eos_eq_iff.mp he).2.2.1 ▸ List.prefix_refl _
    · rw [h.finalized w i b hb hf, Option.some.injEq] at hb'
      exact hb'.symm
  spout w i sp hsp := by
    obtain ⟨sp', hsp', -⟩ := h.quiet.spoutAt hsp
    refine ⟨sp', hsp', fun hd => ?_⟩
    rw [h.done w i sp hsp hd, Option.some.injEq] at hsp'
    exact hsp'.symm
  senders w c r _ hr := by
    obtain ⟨r', hr'⟩ : ∃ r', s'.routerAt D.job w c = some r' := by
      have := World.routerAt_fixed_eq h.fixed w c
      rw [hr, Option.map_some] at this
      obtain ⟨r', hr', -⟩ := Option.map_eq_some_iff.mp this
      exact ⟨r', hr'⟩
    obtain ⟨r₀, hr₀, hs⟩ := h.senders w c r' hr'
    rw [hr, Option.some.injEq] at hr₀
    subst hr₀
    exact ⟨r', hr', hs⟩

lemma noNewStuck (h : D.Neutral s s') : D.NoNewStuck s s' := NoNewStuck.of_quiet h.quiet (h.keeps 0)

end Neutral

/-! ### Updates that leave the end-of-stream state alone -/

section Neutral

variable {s : World}

lemma errors_updJob_of_context {p : Place} {f : Job → Job} {w : Nat} {j' : Job}
    (hj' : (s.updJob p f).job? ⟨w, D.job⟩ = some j') (hf : ∀ j, (f j).context = j.context) {r : FaultReport}
    (hr : r ∈ j'.context.errors) :
    ∃ j, s.job? ⟨w, D.job⟩ = some j ∧ r ∈ j.context.errors := by
  rw [World.job?_updJob] at hj'
  split at hj'
  · rename_i hp
    rw [← hp] at hj'
    obtain ⟨j, hj, rfl⟩ := Option.map_eq_some_iff.mp hj'
    exact ⟨j, hj, hf j ▸ hr⟩
  · exact ⟨j', hj', hr⟩

lemma neutral_of_workers {s' : World} (hw : s'.workers = s.workers) (hl : s'.link = s.link) :
    D.Neutral s s' := by
  have hj : ∀ p, s'.job? p = s.job? p := fun p => by simp [World.job?, hw]
  have hb : ∀ w i, s'.boltAt D.job w i = s.boltAt D.job w i := fun w i => by simp [World.boltAt, hj]
  have hsp : ∀ w i, s'.spoutAt D.job w i = s.spoutAt D.job w i := fun w i => by simp [World.spoutAt, hj]
  have hr : ∀ w c, s'.routerAt D.job w c = s.routerAt D.job w c := fun w c => by simp [World.routerAt, hj]
  refine ⟨by simp [World.fixedOf, hw, hl], ⟨fun w i => by rw [hb], fun w i => by rw [hsp]⟩,
    fun w i b h _ => (hb w i).trans h, fun w i sp h _ => (hsp w i).trans h,
    fun w c r' h => ⟨r', (hr w c) ▸ h, rfl⟩, fun w => by simp [World.seenAt, hw],
    fun w j' h r hr => .inl ⟨j', (hj _) ▸ h, hr⟩⟩

lemma neutral_context {p : Place} (f : JobContext → JobContext)
    (hf : ∀ c, ∀ r ∈ (f c).errors, r ∈ c.errors ∨ r.code ≠ "PROTOCOL_VIOLATION") :
    D.Neutral s (s.updJob p fun j => { j with context := f j.context }) := by
  have hb : ∀ w i, (s.updJob p fun j => { j with context := f j.context }).boltAt D.job w i =
      s.boltAt D.job w i := World.boltAt_updJob_of_bolts fun _ => rfl
  have hsp : ∀ w i, (s.updJob p fun j => { j with context := f j.context }).spoutAt D.job w i =
      s.spoutAt D.job w i := World.spoutAt_updJob_of_spouts fun _ => rfl
  have hr : ∀ w c, (s.updJob p fun j => { j with context := f j.context }).routerAt D.job w c =
      s.routerAt D.job w c := World.routerAt_updJob_of_routers fun _ => rfl
  refine ⟨World.fixedOf_updJob fun j _ => Job.fixed_context j _, ⟨fun w i => by rw [hb], fun w i => by rw [hsp]⟩,
    fun w i b h _ => (hb w i).trans h, fun w i sp h _ => (hsp w i).trans h,
    fun w c r' h => ⟨r', (hr w c) ▸ h, rfl⟩, fun w => World.seenAt_updJob w, fun w j' hj' r hr => ?_⟩
  rw [World.job?_updJob] at hj'
  split at hj'
  · rename_i hp
    rw [← hp] at hj'
    obtain ⟨j, hj, rfl⟩ := Option.map_eq_some_iff.mp hj'
    rcases hf j.context r hr with hr | hne
    · exact .inl ⟨j, hj, hr⟩
    · exact .inr hne
  · exact .inl ⟨j', hj', hr⟩

lemma neutral_modifyBolt {q i : Nat} {b : BoltExecutor} {g : BoltExecutor → BoltExecutor}
    (hb : s.boltAt D.job q i = some b) (hf : b.finalized = false) (hg : (g b).eos = b.eos) :
    D.Neutral s (s.updJob ⟨q, D.job⟩ fun j => { j with bolts := j.bolts.modify i g }) := by
  have hB : ∀ w i', (s.updJob ⟨q, D.job⟩ fun j => { j with bolts := j.bolts.modify i g }).boltAt D.job w i' =
      if w = q ∧ i' = i then some (g b) else s.boltAt D.job w i' := fun w i' => by
    rw [World.boltAt_modifyBolt, hb, Option.map_some]
  have hsp : ∀ w i', (s.updJob ⟨q, D.job⟩ fun j => { j with bolts := j.bolts.modify i g }).spoutAt D.job w i' =
      s.spoutAt D.job w i' := World.spoutAt_updJob_of_spouts fun _ => rfl
  have hr : ∀ w c, (s.updJob ⟨q, D.job⟩ fun j => { j with bolts := j.bolts.modify i g }).routerAt D.job w c =
      s.routerAt D.job w c := World.routerAt_updJob_of_routers fun _ => rfl
  refine ⟨World.fixedOf_updJob fun j hj => Job.fixed_modifyBolts fun b₀ hb₀ => ?_,
    ⟨fun w i' => ?_, fun w i' => by rw [hsp]⟩, fun w i' b' hb' hf' => ?_, fun w i' sp h _ => (hsp w i').trans h,
    fun w c r' h => ⟨r', (hr w c) ▸ h, rfl⟩, fun w => World.seenAt_updJob w,
    fun w j' hj' r hr => .inl (errors_updJob_of_context hj' (fun _ => rfl) hr)⟩
  · rw [World.boltAt_of_job? hj, hb₀, Option.some.injEq] at hb
    rw [hb, ← BoltExecutor.fixed_eos, hg, BoltExecutor.fixed_eos]
  · rw [hB]
    split
    · rename_i h
      obtain ⟨rfl, rfl⟩ := h
      rw [hb, Option.map_some, Option.map_some, hg]
    · rfl
  · rw [hB]
    split
    · rename_i h
      obtain ⟨rfl, rfl⟩ := h
      rw [hb, Option.some.injEq] at hb'
      subst hb'
      simp [hf] at hf'
    · exact hb'

lemma neutral_modifySpout {q i : Nat} {sp : SpoutExecutor} {g : SpoutExecutor → SpoutExecutor}
    (hsp : s.spoutAt D.job q i = some sp) (hd : sp.done = false) (hg : (g sp).eos = sp.eos) :
    D.Neutral s (s.updJob ⟨q, D.job⟩ fun j => { j with spouts := j.spouts.modify i g }) := by
  have hS : ∀ w i', (s.updJob ⟨q, D.job⟩ fun j => { j with spouts := j.spouts.modify i g }).spoutAt D.job w i' =
      if w = q ∧ i' = i then some (g sp) else s.spoutAt D.job w i' := fun w i' => by
    rw [World.spoutAt_modifySpout, hsp, Option.map_some]
  have hb : ∀ w i', (s.updJob ⟨q, D.job⟩ fun j => { j with spouts := j.spouts.modify i g }).boltAt D.job w i' =
      s.boltAt D.job w i' := World.boltAt_updJob_of_bolts fun _ => rfl
  have hr : ∀ w c, (s.updJob ⟨q, D.job⟩ fun j => { j with spouts := j.spouts.modify i g }).routerAt D.job w c =
      s.routerAt D.job w c := World.routerAt_updJob_of_routers fun _ => rfl
  refine ⟨World.fixedOf_updJob fun j hj => Job.fixed_modifySpouts fun sp₀ hsp₀ => ?_,
    ⟨fun w i' => by rw [hb], fun w i' => ?_⟩, fun w i' b h _ => (hb w i').trans h, fun w i' sp' hsp' hd' => ?_,
    fun w c r' h => ⟨r', (hr w c) ▸ h, rfl⟩, fun w => World.seenAt_updJob w,
    fun w j' hj' r hr => .inl (errors_updJob_of_context hj' (fun _ => rfl) hr)⟩
  · rw [World.spoutAt_of_job? hj, hsp₀, Option.some.injEq] at hsp
    rw [hsp, ← SpoutExecutor.fixed_eos, hg, SpoutExecutor.fixed_eos]
  · rw [hS]
    split
    · rename_i h
      obtain ⟨rfl, rfl⟩ := h
      rw [hsp, Option.map_some, Option.map_some, hg]
    · rfl
  · rw [hS]
    split
    · rename_i h
      obtain ⟨rfl, rfl⟩ := h
      rw [hsp, Option.some.injEq] at hsp'
      subst hsp'
      simp [hd] at hd'
    · exact hsp'

lemma Wired.router_mem_eq (hw : D.Wired s) {q : Nat} {c : String} {r r₀ : Router} {j : Job}
    (hj : s.job? ⟨q, D.job⟩ = some j) (hr : s.routerAt D.job q c = some r) (hr₀ : (c, r₀) ∈ j.routers) :
    r₀ = r := by
  have hnd : (j.routers.map (·.1)).Nodup := (hw.shaped_of_job? hj).routerKeys ▸ hw.boltKeys
  rw [World.routerAt_of_job? hj, Job.router?, lookup_eq_some_of_mem hnd hr₀, Option.some.injEq] at hr
  exact hr

lemma neutral_setRouter (hw : D.Wired s) {q : Nat} {c : String} {r r' : Router}
    (hr : s.routerAt D.job q c = some r) (hfix : r'.fixed = r.fixed) (hs : r'.senders = r.senders) :
    D.Neutral s (s.updJob ⟨q, D.job⟩ (·.setRouter c r')) := by
  have hb : ∀ w i, (s.updJob ⟨q, D.job⟩ (·.setRouter c r')).boltAt D.job w i = s.boltAt D.job w i :=
    World.boltAt_updJob_of_bolts fun _ => rfl
  have hsp : ∀ w i, (s.updJob ⟨q, D.job⟩ (·.setRouter c r')).spoutAt D.job w i = s.spoutAt D.job w i :=
    World.spoutAt_updJob_of_spouts fun _ => rfl
  refine ⟨World.fixedOf_updJob fun j hj => Job.fixed_setRouter fun r₀ hr₀ => ?_,
    ⟨fun w i => by rw [hb], fun w i => by rw [hsp]⟩, fun w i b h _ => (hb w i).trans h,
    fun w i sp h _ => (hsp w i).trans h, fun w c' r'' hr'' => ?_, fun w => World.seenAt_updJob w,
    fun w j' hj' r hr => .inl (errors_updJob_of_context hj' (fun _ => rfl) hr)⟩
  · rw [hw.router_mem_eq hj hr hr₀]
    exact hfix
  · rw [World.routerAt_setRouter] at hr''
    split at hr''
    · rename_i h
      obtain ⟨rfl, rfl⟩ := h
      rw [hr, Option.map_some, Option.some.injEq] at hr''
      exact ⟨r, hr, hr'' ▸ hs⟩
    · exact ⟨r'', hr'', rfl⟩

end Neutral

/-! ### Changing one executor -/

section Executor

variable {s : World} {q i : Nat}

lemma boltAt_modifyBolt_of {b : BoltExecutor} {g : BoltExecutor → BoltExecutor}
    (hb : s.boltAt D.job q i = some b) (w i' : Nat) :
    (s.updJob ⟨q, D.job⟩ fun j => { j with bolts := j.bolts.modify i g }).boltAt D.job w i' =
      if w = q ∧ i' = i then some (g b) else s.boltAt D.job w i' := by
  rw [World.boltAt_modifyBolt, hb, Option.map_some]

lemma spoutAt_modifySpout_of {sp : SpoutExecutor} {g : SpoutExecutor → SpoutExecutor}
    (hsp : s.spoutAt D.job q i = some sp) (w i' : Nat) :
    (s.updJob ⟨q, D.job⟩ fun j => { j with spouts := j.spouts.modify i g }).spoutAt D.job w i' =
      if w = q ∧ i' = i then some (g sp) else s.spoutAt D.job w i' := by
  rw [World.spoutAt_modifySpout, hsp, Option.map_some]

/-- Changing one bolt executor keeps the invariant when its new state does: it keeps its fixed
part, its votes and its closing, its tally stays consistent, each new voter is a closed feeder
with no data held back towards it, it forwards its end of stream only once finished and voted
for downstream, it waits only on a feeder that has not forwarded, and no waiting executor waits
on it when it forwards. -/
theorem Consistent.modifyBolt (hc : D.Consistent s) {b b' : BoltExecutor} {g : BoltExecutor → BoltExecutor}
    (hb : s.boltAt D.job q i = some b) (hg : g b = b') (hfix : b'.fixed = b.fixed)
    (hv : b.tally.voters <+: b'.tally.voters) (hfin : b.finalized = true → b'.finalized = true)
    (htally : b'.tally.voters.Nodup ∧ b'.finalized = b'.tally.reached ∧
      (b'.tally.reached = true ↔ b'.tally.expected ≤ b'.tally.voters.length))
    (hnew : ∀ x ∈ b'.tally.voters, x ∉ b.tally.voters →
      (∃ d, D.topology.bolts.lookup b.node = some d ∧ D.ClosedFeeder s d.input x) ∧ D.Flushed s q b.node x)
    (hsent : b'.sentEos = true → b'.finalized = true ∧ ∀ c ∈ b.routes, D.VotedAt s c b.id)
    (hstuck : b'.finalized = true → b'.sentEos = false →
      ∃ last, b'.tally.voters.getLast? = some last ∧ D.Unsent s last)
    (hwait : b'.sentEos = true → b.sentEos = false → ∀ w i' d, s.boltAt D.job w i' = some d →
      d.finalized = true → d.sentEos = false → b.id ∉ d.tally.voters) :
    D.Consistent (s.updJob ⟨q, D.job⟩ fun j => { j with bolts := j.bolts.modify i g }) := by
  set s' := s.updJob ⟨q, D.job⟩ fun j => { j with bolts := j.bolts.modify i g } with hs'
  obtain ⟨hid, hnode, hroutes, -⟩ := BoltExecutor.fixed_eq_iff.mp hfix
  have hB : ∀ w i', s'.boltAt D.job w i' = if w = q ∧ i' = i then some b' else s.boltAt D.job w i' :=
    fun w i' => hg ▸ boltAt_modifyBolt_of hb w i'
  have hSp : ∀ w i', s'.spoutAt D.job w i' = s.spoutAt D.job w i' := World.spoutAt_updJob_of_spouts fun _ => rfl
  have hR : ∀ w c, s'.routerAt D.job w c = s.routerAt D.job w c := World.routerAt_updJob_of_routers fun _ => rfl
  have hfixed : s'.fixedOf D.job = s.fixedOf D.job :=
    World.fixedOf_updJob fun j hj => Job.fixed_modifyBolts fun b₀ hb₀ => by
      rw [World.boltAt_of_job? hj, hb₀, Option.some.injEq] at hb
      rw [hb, hg, hfix]
  -- What only grows from `s` to `s'`: closings and votes.
  have hclosed : ∀ {n x}, D.ClosedFeeder s n x → D.ClosedFeeder s' n x := by
    rintro n x (⟨w, i', d, hd, hx, hn, hf⟩ | ⟨w, i', sp, hsp, hx, hn, hd⟩)
    · by_cases hp : w = q ∧ i' = i
      · obtain ⟨rfl, rfl⟩ := hp
        rw [hb, Option.some.injEq] at hd
        subst hd
        exact .inl ⟨w, i', b', by rw [hB, if_pos ⟨rfl, rfl⟩], hid ▸ hx, hnode ▸ hn, hfin hf⟩
      · exact .inl ⟨w, i', d, by rw [hB, if_neg hp]; exact hd, hx, hn, hf⟩
    · exact .inr ⟨w, i', sp, (hSp w i').trans hsp, hx, hn, hd⟩
  have hvoted : ∀ {c x}, D.VotedAt s c x → D.VotedAt s' c x := by
    intro c x h w i' d hd hn
    rw [hB] at hd
    split at hd
    · rename_i hp
      obtain ⟨rfl, rfl⟩ := hp
      cases hd
      exact hv.subset (h w i' b hb (hnode ▸ hn))
    · exact h w i' d hd hn
  have hunsent : ∀ {x}, D.Unsent s x → (b'.sentEos = true → b.id ≠ x) → D.Unsent s' x := by
    intro x hx hne
    refine ⟨fun w i' d hd hdx => ?_, fun w i' sp hsp hspx => hx.2 w i' sp ((hSp w i').symm.trans hsp) hspx⟩
    rw [hB] at hd
    split at hd
    · cases hd
      cases hse : b'.sentEos
      · rfl
      · exact absurd (hid.symm.trans hdx) (hne hse)
    · exact hx.1 w i' d hd hdx
  refine ⟨fun w i' d hd => ?_, fun w i' d hd dd hdd x hx => ?_, fun w i' d hd hs => ?_,
    fun w i' sp hsp hs => ?_, fun w i' d hd hf hs => ?_, fun w c r hr k S hS => ?_,
    fun w e he i' d hd hn => ?_, fun w j' hj' r hr => ?_⟩
  · rw [hB] at hd
    split at hd
    · cases hd
      exact htally
    · exact hc.tally w i' d hd
  · rw [hB] at hd
    split at hd
    · rename_i hp
      obtain ⟨rfl, rfl⟩ := hp
      cases hd
      rw [hnode] at hdd
      by_cases hold : x ∈ b.tally.voters
      · exact hclosed (hc.voters w i' b hb dd hdd x hold)
      · obtain ⟨⟨d₀, hd₀, hcl⟩, -⟩ := hnew x hx hold
        rw [hdd, Option.some.injEq] at hd₀
        subst hd₀
        exact hclosed hcl
    · exact hclosed (hc.voters w i' d hd dd hdd x hx)
  · rw [hB] at hd
    split at hd
    · cases hd
      obtain ⟨hf, hvs⟩ := hsent hs
      exact ⟨hf, fun c hcr => hid ▸ hvoted (hvs c (hroutes ▸ hcr))⟩
    · obtain ⟨hf, hvs⟩ := hc.boltSent w i' d hd hs
      exact ⟨hf, fun c hcr => hvoted (hvs c hcr)⟩
  · obtain ⟨hd, hvs⟩ := hc.spoutSent w i' sp ((hSp w i').symm.trans hsp) hs
    exact ⟨hd, fun c hcr => hvoted (hvs c hcr)⟩
  · rw [hB] at hd
    split at hd
    · cases hd
      obtain ⟨last, hl, hu⟩ := hstuck hf hs
      exact ⟨last, hl, hunsent hu fun h => absurd (hs.symm.trans h) (by simp)⟩
    · obtain ⟨last, hl, hu⟩ := hc.stuck w i' d hd hf hs
      refine ⟨last, hl, hunsent hu fun hse' heq => ?_⟩
      cases hse : b.sentEos
      · exact hwait hse' hse w i' d hd hf hs (heq ▸ List.mem_of_getLast? hl)
      · exact absurd (hu.1 q i b hb heq) (by simp [hse])
  · rw [hR] at hr
    obtain ⟨h1, h2⟩ := hc.held w c r hr k S hS
    refine ⟨h1, fun x hx => ?_⟩
    obtain ⟨heos, ⟨d₀, hd₀, hids⟩, hnv⟩ := h2 x hx
    refine ⟨heos, ⟨d₀, hd₀, (idsAt_of_fixedOf hfixed w d₀.input).symm ▸ hids⟩, fun i' d hd hn => ?_⟩
    rw [hB] at hd
    split at hd
    · rename_i hp
      obtain ⟨hq, rfl⟩ := hp
      cases hd
      intro hmem
      by_cases hold : x.source ∈ b.tally.voters
      · exact hnv i' b (hq ▸ hb) (hnode ▸ hn) hold
      · obtain ⟨-, hfl⟩ := hnew x.source hmem hold
        have hc' : c = b.node := hnode ▸ hn.symm
        subst hc'
        exact hfl w r hr k S hS hq x hx rfl
    · exact hnv i' d hd hn
  · rw [World.seenAt_updJob] at he
    rw [hB] at hd
    split at hd
    · rename_i hp
      obtain ⟨rfl, rfl⟩ := hp
      cases hd
      exact hv.subset (hc.seen w e he i' b hb (hnode ▸ hn))
    · exact hc.seen w e he i' d hd hn
  · obtain ⟨j, hj, hr⟩ := errors_updJob_of_context hj' (fun _ => rfl) hr
    exact hc.errors w j hj r hr

/-- Changing one spout executor keeps the invariant when it keeps its fixed part and its closing,
forwards its end of stream only once done and voted for downstream, and no waiting executor waits
on it when it forwards. -/
theorem Consistent.modifySpout (hc : D.Consistent s) {sp sp' : SpoutExecutor} {g : SpoutExecutor → SpoutExecutor}
    (hsp : s.spoutAt D.job q i = some sp) (hg : g sp = sp') (hfix : sp'.fixed = sp.fixed)
    (hdone : sp.done = true → sp'.done = true)
    (hsent : sp'.sentEos = true → sp'.done = true ∧ ∀ c ∈ sp.routes, D.VotedAt s c sp.id)
    (hwait : sp'.sentEos = true → sp.sentEos = false → ∀ w i' d, s.boltAt D.job w i' = some d →
      d.finalized = true → d.sentEos = false → sp.id ∉ d.tally.voters) :
    D.Consistent (s.updJob ⟨q, D.job⟩ fun j => { j with spouts := j.spouts.modify i g }) := by
  set s' := s.updJob ⟨q, D.job⟩ fun j => { j with spouts := j.spouts.modify i g } with hs'
  obtain ⟨hid, hnode, hroutes⟩ := SpoutExecutor.fixed_eq_iff.mp hfix
  have hSp : ∀ w i', s'.spoutAt D.job w i' = if w = q ∧ i' = i then some sp' else s.spoutAt D.job w i' :=
    fun w i' => hg ▸ spoutAt_modifySpout_of hsp w i'
  have hB : ∀ w i', s'.boltAt D.job w i' = s.boltAt D.job w i' := World.boltAt_updJob_of_bolts fun _ => rfl
  have hR : ∀ w c, s'.routerAt D.job w c = s.routerAt D.job w c := World.routerAt_updJob_of_routers fun _ => rfl
  have hfixed : s'.fixedOf D.job = s.fixedOf D.job :=
    World.fixedOf_updJob fun j hj => Job.fixed_modifySpouts fun sp₀ hsp₀ => by
      rw [World.spoutAt_of_job? hj, hsp₀, Option.some.injEq] at hsp
      rw [hsp, hg, hfix]
  have hclosed : ∀ {n x}, D.ClosedFeeder s n x → D.ClosedFeeder s' n x := by
    rintro n x (⟨w, i', d, hd, hx, hn, hf⟩ | ⟨w, i', sp₀, hsp₀, hx, hn, hd⟩)
    · exact .inl ⟨w, i', d, (hB w i').trans hd, hx, hn, hf⟩
    · by_cases hp : w = q ∧ i' = i
      · obtain ⟨rfl, rfl⟩ := hp
        rw [hsp, Option.some.injEq] at hsp₀
        subst hsp₀
        exact .inr ⟨w, i', sp', by rw [hSp, if_pos ⟨rfl, rfl⟩], hid ▸ hx, hnode ▸ hn, hdone hd⟩
      · exact .inr ⟨w, i', sp₀, by rw [hSp, if_neg hp]; exact hsp₀, hx, hn, hd⟩
  have hvoted : ∀ {c x}, D.VotedAt s c x → D.VotedAt s' c x :=
    fun h w i' d hd hn => h w i' d ((hB w i').symm.trans hd) hn
  refine ⟨fun w i' d hd => hc.tally w i' d ((hB w i').symm.trans hd),
    fun w i' d hd dd hdd x hx => hclosed (hc.voters w i' d ((hB w i').symm.trans hd) dd hdd x hx),
    fun w i' d hd hs => ?_, fun w i' sp₀ hsp₀ hs => ?_, fun w i' d hd hf hs => ?_,
    fun w c r hr k S hS => ?_, fun w e he i' d hd hn => ?_, fun w j' hj' r hr => ?_⟩
  · obtain ⟨hf, hvs⟩ := hc.boltSent w i' d ((hB w i').symm.trans hd) hs
    exact ⟨hf, fun c hcr => hvoted (hvs c hcr)⟩
  · rw [hSp] at hsp₀
    split at hsp₀
    · cases hsp₀
      obtain ⟨hd, hvs⟩ := hsent hs
      exact ⟨hd, fun c hcr => hid ▸ hvoted (hvs c (hroutes ▸ hcr))⟩
    · obtain ⟨hd, hvs⟩ := hc.spoutSent w i' sp₀ hsp₀ hs
      exact ⟨hd, fun c hcr => hvoted (hvs c hcr)⟩
  · rw [hB] at hd
    obtain ⟨last, hl, hu⟩ := hc.stuck w i' d hd hf hs
    refine ⟨last, hl, fun w₀ i₀ d₀ hd₀ hx => hu.1 w₀ i₀ d₀ ((hB w₀ i₀).symm.trans hd₀) hx,
      fun w₀ i₀ sp₀ hsp₀ hx => ?_⟩
    rw [hSp] at hsp₀
    split at hsp₀
    · rename_i hp
      obtain ⟨rfl, rfl⟩ := hp
      cases hsp₀
      cases hse' : sp'.sentEos
      · rfl
      · cases hse : sp.sentEos
        · exact absurd (hid.symm.trans hx ▸ List.mem_of_getLast? hl) (hwait hse' hse w i' d hd hf hs)
        · exact absurd (hu.2 w₀ i₀ sp hsp (hid.symm.trans hx)) (by simp [hse])
    · exact hu.2 w₀ i₀ sp₀ hsp₀ hx
  · rw [hR] at hr
    obtain ⟨h1, h2⟩ := hc.held w c r hr k S hS
    refine ⟨h1, fun x hx => ?_⟩
    obtain ⟨heos, ⟨d₀, hd₀, hids⟩, hnv⟩ := h2 x hx
    exact ⟨heos, ⟨d₀, hd₀, (idsAt_of_fixedOf hfixed w d₀.input).symm ▸ hids⟩,
      fun i' d hd hn => hnv i' d ((hB _ i').symm.trans hd) hn⟩
  · rw [World.seenAt_updJob] at he
    exact hc.seen w e he i' d ((hB w i').symm.trans hd) hn
  · obtain ⟨j, hj, hr⟩ := errors_updJob_of_context hj' (fun _ => rfl) hr
    exact hc.errors w j hj r hr

lemma Keeps.modifyBolt {k : Nat} {s₀ : World} (hk : D.Keeps k s₀ s) {b b' : BoltExecutor}
    {g : BoltExecutor → BoltExecutor} (hb : s.boltAt D.job q i = some b) (hg : g b = b')
    (hfix : b'.fixed = b.fixed) (hv : b.tally.voters <+: b'.tally.voters)
    (hfr : ∀ b₀, s₀.boltAt D.job q i = some b₀ → b₀.finalized = true → b' = b) :
    D.Keeps k s₀ (s.updJob ⟨q, D.job⟩ fun j => { j with bolts := j.bolts.modify i g }) where
  fixed := by
    refine (World.fixedOf_updJob fun j hj => Job.fixed_modifyBolts fun b₁ hb₁ => ?_).trans hk.fixed
    rw [World.boltAt_of_job? hj, hb₁, Option.some.injEq] at hb
    rw [hb, hg, hfix]
  bolt w i' b₀ hb₀ := by
    obtain ⟨b₁, hb₁, hv₁, hf₁⟩ := hk.bolt w i' b₀ hb₀
    rw [boltAt_modifyBolt_of hb, hg]
    split
    · rename_i hp
      obtain ⟨rfl, rfl⟩ := hp
      rw [hb, Option.some.injEq] at hb₁
      subst hb₁
      refine ⟨b', rfl, hv₁.trans hv, fun hf => ?_⟩
      rw [hfr b₀ hb₀ hf]
      exact hf₁ hf
    · exact ⟨b₁, hb₁, hv₁, hf₁⟩
  spout w i' sp₀ hsp₀ := by
    obtain ⟨sp₁, hsp₁, hf₁⟩ := hk.spout w i' sp₀ hsp₀
    exact ⟨sp₁, (World.spoutAt_modifyBolts w i').trans hsp₁, hf₁⟩
  senders w c r₀ hd hr₀ := by
    obtain ⟨r₁, hr₁, hs₁⟩ := hk.senders w c r₀ hd hr₀
    exact ⟨r₁, (World.routerAt_modifyBolts w c).trans hr₁, hs₁⟩

lemma Keeps.modifySpout {k : Nat} {s₀ : World} (hk : D.Keeps k s₀ s) {sp sp' : SpoutExecutor}
    {g : SpoutExecutor → SpoutExecutor} (hsp : s.spoutAt D.job q i = some sp) (hg : g sp = sp')
    (hfix : sp'.fixed = sp.fixed) (hfr : ∀ sp₀, s₀.spoutAt D.job q i = some sp₀ → sp₀.done = true → sp' = sp) :
    D.Keeps k s₀ (s.updJob ⟨q, D.job⟩ fun j => { j with spouts := j.spouts.modify i g }) where
  fixed := by
    refine (World.fixedOf_updJob fun j hj => Job.fixed_modifySpouts fun sp₁ hsp₁ => ?_).trans hk.fixed
    rw [World.spoutAt_of_job? hj, hsp₁, Option.some.injEq] at hsp
    rw [hsp, hg, hfix]
  bolt w i' b₀ hb₀ := by
    obtain ⟨b₁, hb₁, hv₁, hf₁⟩ := hk.bolt w i' b₀ hb₀
    exact ⟨b₁, (World.boltAt_modifySpouts w i').trans hb₁, hv₁, hf₁⟩
  spout w i' sp₀ hsp₀ := by
    obtain ⟨sp₁, hsp₁, hf₁⟩ := hk.spout w i' sp₀ hsp₀
    rw [spoutAt_modifySpout_of hsp, hg]
    split
    · rename_i hp
      obtain ⟨rfl, rfl⟩ := hp
      rw [hsp, Option.some.injEq] at hsp₁
      subst hsp₁
      refine ⟨sp', rfl, fun hd => ?_⟩
      rw [hfr sp₀ hsp₀ hd]
      exact hf₁ hd
    · exact ⟨sp₁, hsp₁, hf₁⟩
  senders w c r₀ hd hr₀ := by
    obtain ⟨r₁, hr₁, hs₁⟩ := hk.senders w c r₀ hd hr₀
    exact ⟨r₁, (World.routerAt_modifySpouts w c).trans hr₁, hs₁⟩

/-- A finished bolt executor forwarding its end of stream keeps the invariant once its vote has
reached every executor it feeds and no waiting executor waits on it. -/
theorem Consistent.boltForward (hc : D.Consistent s) {b : BoltExecutor} (hb : s.boltAt D.job q i = some b)
    (hf : b.finalized = true) (hv : ∀ c ∈ b.routes, D.VotedAt s c b.id)
    (hwait : ∀ w i' d, s.boltAt D.job w i' = some d → d.finalized = true → d.sentEos = false →
      b.id ∉ d.tally.voters) :
    D.Consistent (s.updJob ⟨q, D.job⟩ fun j => { j with bolts := j.bolts.modify i fun b => { b with sentEos := true } }) := by
  obtain ⟨hnd, hfr, hre⟩ := hc.tally q i b hb
  exact hc.modifyBolt hb rfl rfl (List.prefix_refl _) id ⟨hnd, hfr, hre⟩
    (fun x hx hx' => absurd hx hx') (fun _ => ⟨hf, hv⟩) (fun _ h => by simp at h) (fun _ _ => hwait)

theorem Consistent.spoutClose (hc : D.Consistent s) {sp : SpoutExecutor} (hsp : s.spoutAt D.job q i = some sp) :
    D.Consistent (s.updJob ⟨q, D.job⟩ fun j => { j with spouts := j.spouts.modify i fun sp => { sp with done := true } }) :=
  hc.modifySpout hsp rfl rfl (fun _ => rfl)
    (fun h => ⟨rfl, (hc.spoutSent q i sp hsp h).2⟩) (fun h h' => by simp [h'] at h)

/-- A closed spout executor forwarding its end of stream keeps the invariant once its vote has
reached every executor it feeds and no waiting executor waits on it. -/
theorem Consistent.spoutForward (hc : D.Consistent s) {sp : SpoutExecutor} (hsp : s.spoutAt D.job q i = some sp)
    (hd : sp.done = true) (hv : ∀ c ∈ sp.routes, D.VotedAt s c sp.id)
    (hwait : ∀ w i' d, s.boltAt D.job w i' = some d → d.finalized = true → d.sentEos = false →
      sp.id ∉ d.tally.voters) :
    D.Consistent (s.updJob ⟨q, D.job⟩ fun j => { j with spouts := j.spouts.modify i fun sp => { sp with sentEos := true } }) :=
  hc.modifySpout hsp rfl rfl id (fun _ => ⟨hd, hv⟩) (fun _ _ => hwait)

/-! ### Ends of stream taken -/

theorem Consistent.markEos (hc : D.Consistent s) {c u : String} (hq : q < s.workers.length)
    (hv : D.Voted s q c u) : D.Consistent (s.markEos q D.job c u) := by
  have hquiet : D.Quiet s (s.markEos q D.job c u) := ⟨fun w i => by simp, fun w i => by simp⟩
  refine hc.of_quiet_senders hquiet (fun w c' r hr k S hS => ?_) (fun w e he => ?_) (fun w j hj r hr => ?_)
  · rw [World.routerAt_markEos] at hr
    exact (hc.held w c' r hr k S hS).of_quiet hquiet
  · rw [World.seenAt_markEos hq] at he
    split at he
    · rename_i hw
      rcases List.mem_append.mp he with he | he
      · exact .inl (hw ▸ he)
      · rw [List.mem_singleton.mp he, hw]
        exact .inr (hquiet.voted hv)
    · exact .inl he
  · rw [World.job?_markEos] at hj
    exact hc.errors w j hj r hr

lemma Quiet.markEos {c u : String} : D.Quiet s (s.markEos q D.job c u) :=
  ⟨fun w i => by simp, fun w i => by simp⟩

lemma Keeps.markEos {k : Nat} {s₀ : World} (hk : D.Keeps k s₀ s) {c u : String} :
    D.Keeps k s₀ (s.markEos q D.job c u) where
  fixed := (World.fixedOf_markEos q D.job c u).trans hk.fixed
  bolt w i' b hb := by simpa using hk.bolt w i' b hb
  spout w i' sp hsp := by simpa using hk.spout w i' sp hsp
  senders w c' r hd hr := by simpa using hk.senders w c' r hd hr

end Executor

/-! ### Senders -/

lemma Sender.fixed_send (S : Sender) (t : Tuple) : (S.send t).2.fixed = S.fixed := by
  unfold Sender.send
  split
  · rfl
  · dsimp only
    split <;> rfl

lemma Router.fixed_set_sender {r : Router} {k : Nat} {S S' : Sender} (hS : r.senders[k]? = some S)
    (h : S'.fixed = S.fixed) : ({ r with senders := r.senders.set k S' } : Router).fixed = r.fixed := by
  simp only [Router.fixed, Router.mk.injEq, and_true, true_and]
  refine List.ext_getElem? fun k' => ?_
  simp only [List.getElem?_map, List.getElem?_set]
  by_cases hk : k = k'
  · subst hk
    obtain ⟨hlt, hget⟩ := List.getElem?_eq_some_iff.mp hS
    simp [h, hlt, hget]
  · simp [hk]

section Senders

variable {s : World}

lemma SenderOk.send {w k : Nat} {c : String} {S : Sender} {t : Tuple} (h : D.SenderOk s w c k S)
    (ht : t.endOfStream = false →
      (∀ i b, s.boltAt D.job (Job.peerWorker w k) i = some b → b.node = c → t.source ∉ b.tally.voters) ∧
      ∃ d, D.topology.bolts.lookup c = some d ∧ t.source ∈ D.idsAt s w d.input) :
    D.SenderOk s w c k (S.send t).2 := by
  refine ⟨fun h1 => ?_, fun x hx => ?_⟩
  · rw [Sender.send_batchSize] at h1
    rw [Sender.send_of_batchSize_one h1]
    exact h.1 h1
  · rcases Sender.mem_held_send hx with hx | ⟨rfl, heos⟩
    · exact h.2 x hx
    · obtain ⟨hnv, hids⟩ := ht heos
      exact ⟨heos, hids, hnv⟩

lemma quiet_setRouter {p : Place} {c : String} {r : Router} : D.Quiet s (s.updJob p (·.setRouter c r)) :=
  ⟨fun w i => by simp, fun w i => by simp⟩

lemma Keeps.setRouter (hw : D.Wired s) {k : Nat} {s₀ : World} (hk : D.Keeps k s₀ s) {q : Nat} {c : String}
    {r r' : Router} (hr : s.routerAt D.job q c = some r) (hfix : r'.fixed = r.fixed)
    (hs : D.topology.depth c ≤ k → r'.senders = r.senders) : D.Keeps k s₀ (s.updJob ⟨q, D.job⟩ (·.setRouter c r')) where
  fixed := by
    refine (World.fixedOf_updJob fun j hj => Job.fixed_setRouter fun r₀ hr₀ => ?_).trans hk.fixed
    rw [hw.router_mem_eq hj hr hr₀]
    exact hfix
  bolt w i b hb := by simpa using hk.bolt w i b hb
  spout w i sp hsp := by simpa using hk.spout w i sp hsp
  senders w c' r₀ hd hr₀ := by
    obtain ⟨r₁, hr₁, hs₁⟩ := hk.senders w c' r₀ hd hr₀
    rw [World.routerAt_setRouter]
    split
    · rename_i h
      obtain ⟨rfl, rfl⟩ := h
      rw [hr] at hr₁ ⊢
      cases hr₁
      exact ⟨r', rfl, (hs hd).trans hs₁⟩
    · exact ⟨r₁, hr₁, hs₁⟩

/-- A sender taking an end of stream, or data from an executor of the stream's input on its worker
that has not voted where it sends, keeps the invariant. -/
theorem Consistent.send (hc : D.Consistent s) {w k : Nat} {c : String} {r : Router} {S : Sender} {t : Tuple}
    (hr : s.routerAt D.job w c = some r) (hS : r.senders[k]? = some S)
    (ht : t.endOfStream = false →
      (∀ i b, s.boltAt D.job (Job.peerWorker w k) i = some b → b.node = c → t.source ∉ b.tally.voters) ∧
      ∃ d, D.topology.bolts.lookup c = some d ∧ t.source ∈ D.idsAt s w d.input) :
    D.Consistent (s.updJob ⟨w, D.job⟩ (·.setRouter c { r with senders := r.senders.set k (S.send t).2 })) := by
  have hq : D.Quiet s (s.updJob ⟨w, D.job⟩ (·.setRouter c { r with senders := r.senders.set k (S.send t).2 })) :=
    quiet_setRouter
  refine hc.of_quiet_senders hq (fun w' c' r' hr' k' S' hS' => ?_) (fun w' e he => .inl (by simpa using he))
    (fun w' j hj x hx => ?_)
  · rw [World.routerAt_setRouter] at hr'
    split at hr'
    · rename_i h
      obtain ⟨rfl, rfl⟩ := h
      rw [hr, Option.map_some, Option.some.injEq] at hr'
      subst hr'
      rw [List.getElem?_set] at hS'
      split at hS'
      · rename_i hk
        subst hk
        rw [if_pos (List.getElem?_eq_some_iff.mp hS).1, Option.some.injEq] at hS'
        subst hS'
        exact ((hc.held w' c' r hr k S hS).send ht).of_quiet hq
      · exact (hc.held w' c' r hr k' S' hS').of_quiet hq
    · exact (hc.held w' c' r' hr' k' S' hS').of_quiet hq
  · obtain ⟨j₀, hj₀, hx⟩ := errors_updJob_of_context hj (fun _ => rfl) hx
    exact hc.errors w' j₀ hj₀ x hx

end Senders

/-! ### Votes, closings and forwarded ends of stream -/

section Protocol

variable {s : World} (hw : D.Wired s) (hc : D.Consistent s)
include hw

lemma Wired.node_of_closed_bolt {n x : String} (hcl : D.ClosedFeeder s n x) {w i : Nat} {e : BoltExecutor}
    (he : s.boltAt D.job w i = some e) (hid : e.id = x) : e.node = n := by
  rcases hcl with ⟨w', i', f, hf, hfx, hfn, -⟩ | ⟨w', i', sp, hsp, hspx, -⟩
  · obtain ⟨rfl, rfl⟩ := hw.distinct.bolts w i e w' i' f he hf (hid.trans hfx.symm)
    rw [he, Option.some.injEq] at hf
    rw [hf]
    exact hfn
  · exact absurd (hid.trans hspx.symm) (hw.distinct.mixed w i e w' i' sp he hsp)

lemma Wired.node_of_closed_spout {n x : String} (hcl : D.ClosedFeeder s n x) {w i : Nat} {e : SpoutExecutor}
    (he : s.spoutAt D.job w i = some e) (hid : e.id = x) : e.node = n := by
  rcases hcl with ⟨w', i', f, hf, hfx, -⟩ | ⟨w', i', sp, hsp, hspx, hspn, -⟩
  · exact absurd (hfx.trans hid.symm) (hw.distinct.mixed w' i' f w i e hf he)
  · obtain ⟨rfl, rfl⟩ := hw.distinct.spouts w i e w' i' sp he hsp (hid.trans hspx.symm)
    rw [he, Option.some.injEq] at hsp
    rw [hsp]
    exact hspn

include hc

lemma Consistent.unsent_of_not_voted {n x c : String} {d : BoltDecl} (hcl : D.ClosedFeeder s n x)
    (hd : D.topology.bolts.lookup c = some d) (hn : d.input = n) {w i : Nat} {b : BoltExecutor}
    (hb : s.boltAt D.job w i = some b) (hbn : b.node = c) (hx : x ∉ b.tally.voters) : D.Unsent s x := by
  have hsub : c ∈ D.topology.subscribers n := hn ▸ Topology.mem_subscribers_of_lookup hd
  refine ⟨fun w' i' e he hid => ?_, fun w' i' sp hsp hid => ?_⟩
  · cases hse : e.sentEos
    · rfl
    · obtain ⟨-, hv⟩ := hc.boltSent w' i' e he hse
      obtain ⟨-, -, hr, -⟩ := hw.bolt he
      rw [hw.node_of_closed_bolt hcl he hid] at hr
      exact absurd (hid ▸ hv c (hr ▸ hsub) w i b hb hbn) hx
  · cases hse : sp.sentEos
    · rfl
    · obtain ⟨-, hv⟩ := hc.spoutSent w' i' sp hsp hse
      obtain ⟨-, hr⟩ := hw.spout hsp
      rw [hw.node_of_closed_spout hcl hsp hid] at hr
      exact absurd (hid ▸ hv c (hr ▸ hsub) w i b hb hbn) hx

/-- A vote of a closed feeder whose data has all arrived keeps the invariant, and so does the
executor finishing on the vote that completes its tally. -/
theorem Consistent.vote {q i : Nat} {b : BoltExecutor} {u : String} (hb : s.boltAt D.job q i = some b)
    (hf : b.finalized = false) (hadm : D.EosAdm s q b.node u) {g : BoltExecutor → BoltExecutor}
    (hg : (g b).eos = { b with tally := (b.tally.vote u).2, finalized := (b.tally.vote u).1 }.eos) :
    D.Consistent (s.updJob ⟨q, D.job⟩ fun j => { j with bolts := j.bolts.modify i g }) := by
  obtain ⟨hid, hnode, ht, hfin, hse, hro⟩ := BoltExecutor.eos_eq_iff.mp hg
  obtain ⟨hnd, hfr, -⟩ := hc.tally q i b hb
  have hreached : b.tally.reached = false := hfr ▸ hf
  have hsent : b.sentEos = false := by
    cases h : b.sentEos
    · rfl
    · exact absurd (hc.boltSent q i b hb h).1 (by simp [hf])
  have hfix : (g b).fixed = b.fixed :=
    BoltExecutor.fixed_eq_iff.mpr ⟨hid, hnode, hro, by rw [ht, Tally.vote_expected]⟩
  rw [Tally.vote_of_not_reached hreached] at ht hfin
  by_cases hu : u ∈ b.tally.voters
  · simp only [hu, if_true] at ht hfin
    refine hc.modifyBolt hb rfl hfix (ht ▸ List.prefix_refl _) (by simp [hf]) ?_
      (fun x hx hx' => absurd (ht ▸ hx) hx') (fun h => by simp [hse, hsent] at h)
      (fun h => by simp [hfin] at h) (fun h => by simp [hse, hsent] at h)
    rw [ht, hfin]
    exact ⟨hnd, hreached.symm, by simpa using hc.tally q i b hb |>.2.2⟩
  · simp only [hu, if_false] at ht hfin
    obtain ⟨⟨d, hd, hcl⟩, hfl⟩ := hadm
    refine hc.modifyBolt hb rfl hfix (by rw [ht]; exact List.prefix_append _ _) (by simp [hf]) ?_
      (fun x hx hx' => ?_) (fun h => by simp [hse, hsent] at h) (fun hw' _ => ?_)
      (fun h => by simp [hse, hsent] at h)
    · have hnd' : (b.tally.voters ++ [u]).Nodup := by
        rw [List.nodup_append]
        refine ⟨hnd, by simp, ?_⟩
        simp only [List.mem_singleton]
        rintro a ha _ rfl rfl
        exact hu ha
      rw [ht, hfin]
      exact ⟨hnd', rfl, by simp⟩
    · rw [ht] at hx
      obtain rfl : x = u := by simpa [hx'] using hx
      exact ⟨⟨d, hd, hcl⟩, hfl⟩
    · refine ⟨u, by rw [ht]; simp, ?_⟩
      exact hc.unsent_of_not_voted hw hcl hd rfl hb rfl hu

end Protocol

end Deployment

end Dataflow
