import Dataflow.Proofs.Flow
/-!
The executors against the invariant of the end-of-stream protocol: what components raise, what
carrying out their effects leaves, a bolt executor taking a tuple and a spout executor taking a
step, and delivery with a nesting bound as a delivery that keeps the protocol.
-/
namespace Dataflow

/-! ### What components raise -/

def CleanRaises (effects : List Effect) : Prop :=
  ∀ f, Effect.raise f ∈ effects → f.code ≠ "PROTOCOL_VIOLATION"

lemma Tuple.code_of_text {t : Tuple} {n : String} {f : Fault} (h : t.text n = .error f) :
    f.code = "EXECUTION_ERROR" := by
  unfold Tuple.text at h
  split at h <;> cases h
  rfl

lemma code_of_sumValues {key : String} {acc : Int} {vs : List String} {f : Fault}
    (h : sumValues key acc vs = .error (.notInteger f)) : f.code = "EXECUTION_ERROR" := by
  induction vs generalizing acc with
  | nil => cases h
  | cons v rest ih =>
    unfold sumValues at h
    split at h
    · cases h
      rfl
    · simp only at h
      split at h
      · cases h
      · exact ih h

lemma Reducer.cleanRaises_reduce (job : Reducer) (key : String) (values : List String) :
    CleanRaises (job.reduce key values) := by
  intro f hf
  unfold Reducer.reduce at hf
  split at hf
  · simp at hf
  · rename_i h
    obtain rfl : f = _ := by simpa using hf
    simp [code_of_sumValues h]
  · simp at hf

namespace BoltLogic

theorem cleanRaises_onTuple (b : BoltLogic) (t : Tuple) : CleanRaises (b.onTuple t).1 := by
  intro f hf
  cases b with
  | map job =>
    simp only [onTuple] at hf
    split at hf
    · cases job <;> simp [Reducer.map] at hf
    · rename_i f' hpair
      obtain rfl : f = f' := by simpa using hf
      -- the first field missing is the fault
      cases hk : t.text "key" with
      | error e =>
        simp only [hk, bind, Except.bind, Except.error.injEq] at hpair
        simp [← hpair, Tuple.code_of_text hk]
      | ok k =>
        cases hv : t.text "value" with
        | error e =>
          simp only [hk, hv, bind, Except.bind, Except.error.injEq] at hpair
          simp [← hpair, Tuple.code_of_text hv]
        | ok v => simp [hk, hv, bind, Except.bind, pure, Except.pure] at hpair
  | reduce job held =>
    simp only [onTuple] at hf
    split at hf
    · simp at hf
    · obtain rfl : f = _ := by simpa using hf
      simp [Tuple.code_of_text ‹_›]
    · obtain rfl : f = _ := by simpa using hf
      simp [Tuple.code_of_text ‹_›]
  | print results dir =>
    simp only [onTuple] at hf
    split at hf
    · simp at hf
    · obtain rfl : f = _ := by simpa using hf
      simp [Tuple.code_of_text ‹_›]
    · obtain rfl : f = _ := by simpa using hf
      simp [Tuple.code_of_text ‹_›]
  | sink seen => simp [onTuple] at hf

theorem cleanRaises_onFinish (b : BoltLogic) : CleanRaises b.onFinish.1 := by
  intro f hf
  cases b with
  | map job => simp [onFinish] at hf
  | reduce job held =>
    simp only [onFinish, List.mem_cons, reduceCtorEq, false_or, List.mem_flatMap] at hf
    obtain ⟨⟨k, vs⟩, -, hf⟩ := hf
    exact Reducer.cleanRaises_reduce job k vs f hf
  | print results dir =>
    simp only [onFinish] at hf
    split at hf <;> simp at hf
  | sink seen => simp [onFinish] at hf

end BoltLogic

namespace SpoutLogic

lemma cleanRaises_nextLine (task parallelism fuel : Nat) (r : LineReader) (n : Nat) :
    CleanRaises (nextLine task parallelism fuel r n).1 := by
  induction fuel generalizing r n with
  | zero => simp [CleanRaises, nextLine]
  | succ fuel ih =>
    intro f hf
    unfold nextLine at hf
    split at hf
    · simp at hf
    · obtain rfl : f = _ := by simpa using hf
      simp [IoError.toFault, Fault.code]
    · split at hf
      · simp at hf
      · exact ih _ _ f hf

theorem cleanRaises_next (sp : SpoutLogic) : CleanRaises sp.next.1 := by
  intro f hf
  cases sp with
  | file r n task p => exact cleanRaises_nextLine task p _ r n f hf
  | records items i fields task p =>
    simp only [next] at hf
    split at hf <;> simp at hf
  | empty => simp [next] at hf

end SpoutLogic

lemma Tuple.make_ok {fields : Fields} {values : List Datum} {source : String} {t : Tuple}
    (h : Tuple.make fields values source = .ok t) : t.source = source ∧ t.endOfStream = false := by
  unfold Tuple.make at h
  split at h <;> cases h
  exact ⟨rfl, rfl⟩

lemma Tuple.code_of_make {fields : Fields} {values : List Datum} {source : String} {f : Fault}
    (h : Tuple.make fields values source = .error f) : f.code = "EXECUTION_ERROR" := by
  unfold Tuple.make at h
  split at h <;> cases h
  rfl

lemma Tally.mem_vote {t : Tally} (h : t.reached = false) {u x : String} :
    x ∈ (t.vote u).2.voters ↔ x ∈ t.voters ∨ x = u := by
  rw [Tally.vote_of_not_reached h]
  split
  · exact ⟨.inl, fun hx => hx.elim id fun hxu => hxu ▸ ‹u ∈ t.voters›⟩
  · simp

lemma Tally.prefix_vote (t : Tally) (u : String) : t.voters <+: (t.vote u).2.voters := by
  cases h : t.reached
  · rw [Tally.vote_of_not_reached h]
    split
    · exact List.prefix_refl _
    · exact List.prefix_append _ _
  · exact Tally.vote_of_reached h u ▸ List.prefix_refl _

lemma World.updJob_modifyBolt_modifyBolt (s : World) (p : Place) (i : Nat) (f g : BoltExecutor → BoltExecutor) :
    (s.updJob p fun j => { j with bolts := j.bolts.modify i f }).updJob p
      (fun j => { j with bolts := j.bolts.modify i g }) = s.updJob p fun j => { j with bolts := j.bolts.modify i (g ∘ f) } := by
  rw [World.updJob_updJob]
  congr 1
  funext j
  simp [List.modify_modify_eq]

namespace Deployment

variable {D : Deployment} {s : World}

variable (D) in
/-- An emitter of the job: an executor of node `U` on worker `w`, feeding `U`'s subscribers. -/
structure EmitterAt (s : World) (e : Emitter) (w : Nat) (U : String) : Prop where
  place : e.place = ⟨w, D.job⟩
  id : e.id ∈ D.idsAt s w U
  routes : ∀ c ∈ e.routes, c ∈ D.topology.subscribers U

lemma EmitterAt.of_keeps {e : Emitter} {w k : Nat} {U : String} {s' : World} (he : D.EmitterAt s e w U)
    (hk : D.Keeps k s s') : D.EmitterAt s' e w U :=
  ⟨he.place, by rw [idsAt_of_fixedOf hk.fixed]; exact he.id, he.routes⟩

lemma NoNewStuck.modifyBolt {q i : Nat} {b : BoltExecutor} {g : BoltExecutor → BoltExecutor}
    (hb : s.boltAt D.job q i = some b) (hg : (g b).finalized = true → (g b).sentEos = false → g b = b) :
    D.NoNewStuck s (s.updJob ⟨q, D.job⟩ fun j => { j with bolts := j.bolts.modify i g }) := by
  intro w i' d hd hf hse
  rw [boltAt_modifyBolt_of hb] at hd
  split at hd
  · rename_i h
    obtain ⟨rfl, rfl⟩ := h
    rw [Option.some.injEq] at hd
    subst hd
    rw [hg hf hse]
    exact hb
  · exact hd

lemma NoNewStuck.of_agree {s₁ s' : World} {q i : Nat}
    (h₁ : ∀ w i', ¬(w = q ∧ i' = i) → s₁.boltAt D.job w i' = s.boltAt D.job w i') (h : D.NoNewStuck s₁ s')
    (hq : ∀ d, s'.boltAt D.job q i = some d → d.finalized = true → d.sentEos = false → False) :
    D.NoNewStuck s s' := by
  intro w i' d hd hf hse
  by_cases hwi : w = q ∧ i' = i
  · obtain ⟨rfl, rfl⟩ := hwi
    exact (hq d hd hf hse).elim
  · rw [← h₁ w i' hwi]
    exact h w i' d hd hf hse

lemma Keeps.boltAt_finalized {k : Nat} {s' : World} (hk : D.Keeps k s s') {q i : Nat} {b : BoltExecutor}
    (hb : s.boltAt D.job q i = some b) (hf : b.finalized = true) : s'.boltAt D.job q i = some b := by
  obtain ⟨b', hb', -, hfr⟩ := hk.bolt q i b hb
  rw [hb', hfr hf]

lemma NotVoter.after_vote (hw : D.Wired s) (hc : D.Consistent s) {q i : Nat} {b : BoltExecutor}
    (hb : s.boltAt D.job q i = some b) (hf : b.finalized = false) {d : BoltDecl}
    (hl : D.topology.bolts.lookup b.node = some d) {u : String} (hcl : D.ClosedFeeder s d.input u)
    {g : BoltExecutor → BoltExecutor} (hvoters : ∀ x ∈ (g b).tally.voters, x ∈ b.tally.voters ∨ x = u) :
    D.NotVoter (s.updJob ⟨q, D.job⟩ fun j => { j with bolts := j.bolts.modify i g }) b.id := by
  have hnv := hc.notVoter_of_bolt hw hb hf
  intro w i' d' hd' hx
  rw [boltAt_modifyBolt_of hb] at hd'
  split at hd'
  · rw [Option.some.injEq] at hd'
    subst hd'
    rcases hvoters _ hx with hx | hx
    · exact hnv q i b hb hx
    · -- it would feed its own input, one level below itself
      have hn := hw.node_of_closed_bolt hcl hb hx
      have := hw.valid.depth_input b.node d hl
      rw [hn] at this
      omega
  · exact hnv w i' d' hd' hx

lemma DataPost.trans {α : Type} {k : Nat} {s₁ s₂ : World} {a : Unit} {r : Except Fault α}
    (h : D.DataPost k s (.ok a) s₁) (h' : D.DataPost k s₁ r s₂) : D.DataPost k s r s₂ :=
  ⟨h'.1, h.2.1.trans h'.2.1, h.2.2.1.trans h'.2.2.1, h'.2.2.2⟩

section Emit

variable {deliver : Deliver} (hd : D.DeliverOk deliver)
include hd

theorem spec_emit (hw : D.Wired s) (hc : D.Consistent s) {e : Emitter} {w : Nat} {U : String}
    (he : D.EmitterAt s e w U) (hnv : D.NotVoter s e.id) (values : List Datum) :
    Run.Spec (emit deliver e values) s (D.DataPost (D.topology.depth U) s) := by
  rw [emit, Run.spec_bind, Run.spec_ofExcept]
  cases hmk : Tuple.make e.fields values e.id with
  | error f =>
    exact ⟨hc, Keeps.refl _ _, Quiet.refl s, by simp [Clean, Tuple.code_of_make hmk]⟩
  | ok t =>
    obtain ⟨hsrc, ht⟩ := Tuple.make_ok hmk
    simp only [he.place, Run.spec_bind]
    -- the invariant of the loop: a flow of data so far
    refine Run.spec_forIn_prefix _ _ (fun _ s₁ => D.DataPost (D.topology.depth U) s (.ok ()) s₁)
      (fun e s₁ => D.DataPost (D.topology.depth U) s (.error e : Except Fault Unit) s₁)
      ⟨hc, Keeps.refl _ _, Quiet.refl s, trivial⟩ ?_ |>.mono ?_
    · rintro pre c post hl s₁ h₁
      obtain ⟨dc, hdc, hin⟩ := Topology.lookup_of_mem_subscribers hw.boltKeys
        (he.routes c (hl ▸ List.mem_append_right _ List.mem_cons_self))
      have hsrc₁ : t.source ∈ D.idsAt s₁ w dc.input := by
        rw [hsrc, hin]
        exact (he.of_keeps h₁.2.1).id
      simp only [Run.spec_bind]
      refine (spec_routeOut_data hd (hw.of_fixedOf h₁.2.1.fixed) h₁.1 hdc ht hsrc₁
        (hsrc ▸ h₁.2.2.1.notVoter hnv)).mono fun r s₂ h₂ => ?_
      rw [hin] at h₂
      rcases r with e | _
      · exact h₁.trans h₂
      · exact h₁.trans h₂
    · rintro (e | _) s' h
      · exact h
      · exact h

theorem spec_emitEos (hw : D.Wired s) (hc : D.Consistent s) {e : Emitter} {w : Nat} {U : String}
    (he : D.EmitterAt s e w U) (hcl : D.ClosedFeeder s U e.id) :
    Run.Spec (emitEos deliver e) s
      (D.EosPost (D.topology.depth U) s fun s' => ∀ c ∈ e.routes, D.VotedAt s' c e.id) := by
  rw [emitEos]
  simp only [he.place, Run.spec_bind]
  -- the invariant of the loop: the streams done so far have the vote everywhere
  refine Run.spec_forIn_prefix _ _ (fun pre s₁ => D.Consistent s₁ ∧ D.Keeps (D.topology.depth U) s s₁ ∧
      D.NoNewStuck s s₁ ∧ ∀ c ∈ pre, D.VotedAt s₁ c e.id)
    (fun f s₁ => D.EosPost (D.topology.depth U) s (fun s' => ∀ c ∈ e.routes, D.VotedAt s' c e.id)
      (.error f : Except Fault Unit) s₁)
    ⟨hc, Keeps.refl _ _, NoNewStuck.refl s, fun _ h => absurd h List.not_mem_nil⟩ ?_ |>.mono ?_
  · rintro pre c post hl s₁ ⟨hc₁, hk₁, hs₁, hv₁⟩
    obtain ⟨dc, hdc, hin⟩ := Topology.lookup_of_mem_subscribers hw.boltKeys
      (he.routes c (hl ▸ List.mem_append_right _ List.mem_cons_self))
    have hsrc₁ : (Tuple.eos e.id).source ∈ D.idsAt s₁ w dc.input := by
      rw [hin]
      exact (he.of_keeps hk₁).id
    simp only [Run.spec_bind]
    refine (spec_routeOut_eos hd (hw.of_fixedOf hk₁.fixed) hc₁ hdc rfl hsrc₁
      (hin ▸ hk₁.closedFeeder hcl)).mono fun r s₂ h₂ => ?_
    rw [hin] at h₂
    obtain ⟨hc₂, hk₂, hcl₂, hok⟩ := h₂
    rcases r with f | _
    · exact ⟨hc₂, hk₁.trans hk₂, hcl₂, fun a ha => by cases ha⟩
    · obtain ⟨hv, hs₂⟩ := hok _ rfl
      refine ⟨hc₂, hk₁.trans hk₂, hs₁.trans hs₂, fun c' hc' => ?_⟩
      rcases List.mem_append.mp hc' with hc' | hc'
      · exact hk₂.votedAt (hv₁ c' hc')
      · rw [List.mem_singleton.mp hc']
        exact hv
  · rintro (f | _) s' h
    · exact h
    · obtain ⟨hc', hk', hs', hv'⟩ := h
      exact ⟨hc', hk', trivial, fun _ _ => ⟨hv', hs'⟩⟩

omit hd in
lemma neutral_of_errors {p : Place} (f : JobContext → JobContext) (hf : ∀ c, (f c).errors = c.errors) :
    D.Neutral s (s.updJob p fun j => { j with context := f j.context }) :=
  neutral_context f fun c _ hr => .inl (hf c ▸ hr)

/-- Carrying out the effects of an executor that has voted nowhere is a flow of data, whose
failures are those of its component. -/
theorem spec_perform (hw : D.Wired s) (hc : D.Consistent s) {e : Emitter} {w : Nat} {U : String}
    (he : D.EmitterAt s e w U) (hnv : D.NotVoter s e.id) {effects : List Effect} (hr : CleanRaises effects) :
    Run.Spec (perform deliver e effects) s (D.DataPost (D.topology.depth U) s) := by
  rw [perform]
  simp only [he.place, Run.spec_bind]
  -- the invariant of the loop: a flow of data so far
  refine Run.spec_forIn_prefix _ _ (fun _ s₁ => D.DataPost (D.topology.depth U) s (.ok ()) s₁)
    (fun f s₁ => D.DataPost (D.topology.depth U) s (.error f : Except Fault Unit) s₁)
    ⟨hc, Keeps.refl _ _, Quiet.refl s, trivial⟩ ?_ |>.mono ?_
  · rintro pre eff post hl s₁ h₁
    have he₁ := he.of_keeps h₁.2.1
    have hnv₁ := h₁.2.2.1.notVoter hnv
    have hw₁ := hw.of_fixedOf h₁.2.1.fixed
    have hctx : ∀ f : JobContext → JobContext, (∀ c, (f c).errors = c.errors) →
        D.DataPost (D.topology.depth U) s (.ok ())
          (s₁.updJob ⟨w, D.job⟩ fun j => { j with context := f j.context }) := fun f hf =>
      h₁.trans (DataPost.of_neutral h₁.1 (neutral_of_errors f hf) ())
    cases eff with
    | setPhase ph => exact hctx (·.setPhase ph) fun c => c.setPhase_errors ph
    | countMapInput => exact hctx (fun c => { c with mapInputs := c.mapInputs + 1 }) fun _ => rfl
    | countReduceInput => exact hctx (fun c => { c with reduceInputs := c.reduceInputs + 1 }) fun _ => rfl
    | write k v =>
      simp only [Run.spec_bind, Run.spec_modifyContext]
      have hn : D.Neutral s₁ (s₁.updJob ⟨w, D.job⟩ fun j => { j with context := j.context.countOutput }) :=
        neutral_of_errors JobContext.countOutput fun c => c.countOutput_errors
      refine (spec_emit hd (hw₁.of_fixedOf hn.fixed) (hn.consistent h₁.1) (he₁.of_keeps (hn.keeps 0))
        (hn.quiet.notVoter hnv₁) [.text k, .text v]).mono fun r s₂ h₂ => ?_
      have h₁' := h₁.trans (DataPost.of_neutral h₁.1 hn ())
      rcases r with f | _
      · exact h₁'.trans h₂
      · exact h₁'.trans h₂
    | emit values =>
      simp only [Run.spec_bind]
      refine (spec_emit hd hw₁ h₁.1 he₁ hnv₁ values).mono fun r s₂ h₂ => ?_
      rcases r with f | _
      · exact h₁.trans h₂
      · exact h₁.trans h₂
    | record k v => exact hctx (·.record k v) fun c => c.record_errors k v
    | save dir lines =>
      -- the disk alone changes
      simp only [Run.spec_bind, Run.spec_updateDisk]
      have hdisk : ∀ d, D.DataPost (D.topology.depth U) s (.ok ()) { s₁ with disk := d } := fun d => by
        have hn : D.Neutral s₁ { s₁ with disk := d } := neutral_of_workers rfl rfl
        exact h₁.trans (DataPost.of_neutral h₁.1 hn ())
      split
      · split
        · exact hdisk _
        · obtain ⟨hc₂, hk₂, hq₂, -⟩ := hdisk ‹_›
          exact ⟨hc₂, hk₂, hq₂, by simp [Clean, IoError.toFault, Fault.code]⟩
      · exact ⟨h₁.1, h₁.2.1, h₁.2.2.1, by simp [Clean, IoError.toFault, Fault.code]⟩
    | raise f =>
      simp only [Run.spec_bind, Run.spec_throw]
      exact ⟨h₁.1, h₁.2.1, h₁.2.2.1, hr f (hl ▸ List.mem_append_right _ List.mem_cons_self)⟩
    | overflow m => simp only [Run.spec_bind, Run.spec_crash]
  · rintro (f | _) s' h
    · exact h
    · exact h

theorem spec_boltExecute_data (hw : D.Wired s) (hc : D.Consistent s) {q i : Nat} {b : BoltExecutor}
    (hb : s.boltAt D.job q i = some b) {t : Tuple} (ht : D.DataAdm s q b.node t) :
    Run.Spec (boltExecute deliver ⟨q, D.job⟩ i t) s (D.DataPost (D.topology.depth b.node) s) := by
  rw [boltExecute, Run.spec_bind, Run.spec_bolt]
  intro j hj b' hb'
  obtain rfl : b = b' := by
    rw [World.boltAt_of_job? hj, hb', Option.some.injEq] at hb
    exact hb.symm
  -- data never reaches a finished executor: its source would have voted there
  have hf : b.finalized = false := by
    obtain ⟨-, ⟨d, hl, hmem⟩, hnv⟩ := ht
    cases h : b.finalized
    · rfl
    · exact absurd ((hw.finalized_iff hc hb hl).mp h _ hmem) (hnv i b hb rfl)
  simp only [ht.1, hf, Bool.false_eq_true, if_false, Run.spec_bind, Run.spec_modifyBolt]
  -- the component takes the tuple; its new state is no part of the protocol
  have hn : D.Neutral s (s.updJob ⟨q, D.job⟩
      fun j => { j with bolts := j.bolts.modify i fun b' => { b' with logic := (b.logic.onTuple t).2 } }) :=
    neutral_modifyBolt hb hf rfl
  have he : D.EmitterAt s ⟨⟨q, D.job⟩, b.id, b.logic.fields, b.routes⟩ q b.node :=
    ⟨rfl, mem_idsAt.mpr (.inl ⟨i, b, hb, rfl, rfl⟩), fun c hc' => by rwa [(hw.bolt hb).choose_spec.2.1] at hc'⟩
  refine (spec_perform hd (hw.of_fixedOf hn.fixed) (hn.consistent hc) (he.of_keeps (hn.keeps 0))
    (hn.quiet.notVoter (hc.notVoter_of_bolt hw hb hf)) (b.logic.cleanRaises_onTuple t)).mono fun r s' h => ?_
  have h' := (DataPost.of_neutral hc hn ()).trans h
  rcases r with f | _
  · exact h'
  · exact h'

/-- An end of stream a bolt executor may take is its source's vote there; the vote that completes
the tally finishes the executor, which carries out its finishing effects and forwards its own end
of stream. -/
theorem spec_boltExecute_eos (hw : D.Wired s) (hc : D.Consistent s) {q i : Nat} {b : BoltExecutor}
    (hb : s.boltAt D.job q i = some b) {t : Tuple} (ht : t.endOfStream = true) (hadm : D.EosAdm s q b.node t.source) :
    Run.Spec (boltExecute deliver ⟨q, D.job⟩ i t) s (D.EosPost (D.topology.depth b.node) s
      fun s' => ∃ b', s'.boltAt D.job q i = some b' ∧ t.source ∈ b'.tally.voters) := by
  rw [boltExecute, Run.spec_bind, Run.spec_bolt]
  intro j hj b' hb'
  obtain rfl : b = b' := by
    rw [World.boltAt_of_job? hj, hb', Option.some.injEq] at hb
    exact hb.symm
  obtain ⟨⟨d, hl, hcl⟩, -⟩ := id hadm
  have hsrc := hw.mem_feederIds_of_closed hcl
  simp only [ht, if_true]
  cases hf : b.finalized
  case true =>
    -- finished before: every feeder has voted
    exact ⟨hc, Keeps.refl _ _, trivial, fun _ _ =>
      ⟨⟨b, hb, (hw.finalized_iff hc hb hl).mp hf _ hsrc⟩, NoNewStuck.refl s⟩⟩
  case false =>
  have hreached : b.tally.reached = false := (hc.tally q i b hb).2.1 ▸ hf
  have hvoted : t.source ∈ (b.tally.vote t.source).2.voters := (Tally.mem_vote hreached).mpr (.inr rfl)
  simp only [Bool.false_eq_true, if_false]
  rcases hv : b.tally.vote t.source with ⟨won, tally⟩
  rw [hv] at hvoted
  have hfix : ∀ logic finalized, ({ b with tally, logic, finalized } : BoltExecutor).fixed = b.fixed :=
    fun _ _ => BoltExecutor.fixed_eq_iff.mpr ⟨rfl, rfl, rfl, by rw [← Tally.vote_expected b.tally t.source, hv]⟩
  have hpre : b.tally.voters <+: tally.voters := by
    have := Tally.prefix_vote b.tally t.source
    rwa [hv] at this
  have hfr : ∀ b₀, s.boltAt D.job q i = some b₀ → b₀.finalized = true → False := fun b₀ hb₀ hf₀ => by
    rw [hb, Option.some.injEq] at hb₀
    subst hb₀
    simp [hf] at hf₀
  simp only [Run.spec_bind, Run.spec_modifyBolt]
  cases won
  case false =>
    -- a vote that does not complete the tally
    simp only [Bool.not_false, if_true]
    have hc₁ : D.Consistent (s.updJob ⟨q, D.job⟩
        fun j => { j with bolts := j.bolts.modify i fun b' => { b' with tally } }) :=
      hc.vote hw hb hf hadm (BoltExecutor.eos_eq_iff.mpr ⟨rfl, rfl, by rw [hv], by rw [hv]; exact hf, rfl, rfl⟩)
    refine ⟨hc₁, Keeps.modifyBolt (Keeps.refl _ _) hb rfl (hfix b.logic b.finalized) hpre
      (fun b₀ hb₀ hf₀ => (hfr b₀ hb₀ hf₀).elim), trivial,
      fun _ _ => ⟨⟨_, by rw [boltAt_modifyBolt_of hb, if_pos ⟨rfl, rfl⟩], hvoted⟩, ?_⟩⟩
    exact NoNewStuck.modifyBolt hb fun h => absurd (hf ▸ h) (by simp)
  case true =>
    simp only [Bool.not_true, Bool.false_eq_true, if_false]
    rcases hof : b.logic.onFinish with ⟨effects, logic⟩
    have hr : CleanRaises effects := by
      have h := b.logic.cleanRaises_onFinish
      rwa [hof] at h
    simp only [Run.spec_bind, Run.spec_modifyBolt]
    rw [World.updJob_modifyBolt_modifyBolt]
    -- the vote completes the tally and the executor finishes, in one change of it
    set g : BoltExecutor → BoltExecutor :=
      (fun b' => { b' with logic, finalized := true }) ∘ fun b' => { b' with tally } with hg
    set s₁ := s.updJob ⟨q, D.job⟩ fun j => { j with bolts := j.bolts.modify i g } with hs₁
    have hc₁ : D.Consistent s₁ :=
      hc.vote hw hb hf hadm (BoltExecutor.eos_eq_iff.mpr ⟨rfl, rfl, by rw [hv]; rfl, by rw [hv]; rfl, rfl, rfl⟩)
    have hk₁ : D.Keeps (D.topology.depth b.node) s s₁ :=
      Keeps.modifyBolt (Keeps.refl _ _) hb rfl (hfix logic true) hpre fun b₀ hb₀ hf₀ => (hfr b₀ hb₀ hf₀).elim
    have hb₁ : s₁.boltAt D.job q i = some { b with tally, logic, finalized := true } := by
      rw [hs₁, boltAt_modifyBolt_of hb, if_pos ⟨rfl, rfl⟩]
      rfl
    have hagree : ∀ w i', ¬(w = q ∧ i' = i) → s₁.boltAt D.job w i' = s.boltAt D.job w i' := fun w i' h => by
      rw [hs₁, boltAt_modifyBolt_of hb, if_neg h]
    -- the executor has voted nowhere: only its feeders vote at it
    have hnv₁ : D.NotVoter s₁ b.id := NotVoter.after_vote hw hc hb hf hl hcl fun x hx => by
      have hmem := @Tally.mem_vote _ hreached t.source x
      rw [hv] at hmem
      exact hmem.mp hx
    have he : D.EmitterAt s₁ ⟨⟨q, D.job⟩, b.id, b.logic.fields, b.routes⟩ q b.node :=
      ⟨rfl, mem_idsAt.mpr (.inl ⟨i, _, hb₁, rfl, rfl⟩), fun c hc' => by rwa [(hw.bolt hb).choose_spec.2.1] at hc'⟩
    refine (spec_perform hd (hw.of_fixedOf hk₁.fixed) hc₁ he hnv₁ hr).mono fun r s₂ h₂ => ?_
    obtain ⟨hc₂, hk₂, hq₂, hcl₂⟩ := h₂
    rcases r with f | _
    · exact ⟨hc₂, hk₁.trans hk₂, hcl₂, fun a ha => by cases ha⟩
    -- then it forwards its end of stream
    have hb₂ := hk₂.boltAt_finalized hb₁ rfl
    refine (spec_emitEos hd (hw.of_fixedOf (hk₁.trans hk₂).fixed) hc₂ (he.of_keeps hk₂)
      (.inl ⟨q, i, _, hb₂, rfl, rfl, rfl⟩)).mono fun r s₃ h₃ => ?_
    obtain ⟨hc₃, hk₃, hcl₃, hok₃⟩ := h₃
    rcases r with f | _
    · exact ⟨hc₃, hk₁.trans (hk₂.trans hk₃), hcl₃, fun a ha => by cases ha⟩
    obtain ⟨hvr, hs₃⟩ := hok₃ _ rfl
    simp only [Run.spec_modifyContext, Run.spec_pure]
    have hb₃ := hk₃.boltAt_finalized hb₂ rfl
    have hc₄ := hc₃.boltForward hb₃ rfl hvr fun w i' d' hd' hfd hsd =>
      hq₂.notVoter hnv₁ w i' d' (hs₃ w i' d' hd' hfd hsd)
    set s₄ := s₃.updJob ⟨q, D.job⟩ fun j => { j with bolts := j.bolts.modify i fun b' => { b' with sentEos := true } }
      with hs₄
    have hk₄ : D.Keeps (D.topology.depth b.node) s s₄ :=
      Keeps.modifyBolt (hk₁.trans (hk₂.trans hk₃)) hb₃ rfl rfl (List.prefix_refl _)
        fun b₀ hb₀ hf₀ => (hfr b₀ hb₀ hf₀).elim
    have hn₅ : D.Neutral s₄ (s₄.updJob ⟨q, D.job⟩ fun j => { j with context := j.context.finishOne }) :=
      neutral_of_errors JobContext.finishOne fun c => c.finishOne_errors
    have hb₅ : (s₄.updJob ⟨q, D.job⟩ fun j => { j with context := j.context.finishOne }).boltAt D.job q i =
        some { b with tally, logic, finalized := true, sentEos := true } := by
      rw [World.boltAt_context, hs₄, boltAt_modifyBolt_of hb₃, if_pos ⟨rfl, rfl⟩]
    refine ⟨hn₅.consistent hc₄, hk₄.trans (hn₅.keeps _), trivial, fun _ _ => ⟨⟨_, hb₅, hvoted⟩, ?_⟩⟩
    -- only the executor itself changed before the flows it started, and it has forwarded since
    refine NoNewStuck.of_agree hagree ((NoNewStuck.of_quiet hq₂ hk₂).trans (hs₃.trans
      ((NoNewStuck.modifyBolt hb₃ fun _ h => by simp at h).trans hn₅.noNewStuck))) fun d' hd' _ hse => ?_
    rw [hb₅, Option.some.injEq] at hd'
    rw [← hd'] at hse
    cases hse

variable (D) in
/-- What a step of the job leaves: the invariant, what every flow keeps, and no protocol
violation. -/
def StepPost {α : Type} (s : World) (r : Except Fault α) (s' : World) : Prop :=
  D.Consistent s' ∧ D.Keeps 0 s s' ∧ Clean r

/-- A spout executor's step: its component's effects are a flow of data, and when it has nothing
more it closes and forwards its end of stream. -/
theorem spec_spoutStep (hw : D.Wired s) (hc : D.Consistent s) (q i : Nat) :
    Run.Spec (spoutStep deliver ⟨q, D.job⟩ i) s (D.StepPost s) := by
  rw [spoutStep, Run.spec_bind, Run.spec_spout]
  intro j hj sp hsp'
  have hsp : s.spoutAt D.job q i = some sp := by rw [World.spoutAt_of_job? hj]; exact hsp'
  cases hdone : sp.done
  case true =>
    simp only [hdone, if_true]
    exact ⟨hc, Keeps.refl _ _, trivial⟩
  case false =>
  have hfr : ∀ sp₀, s.spoutAt D.job q i = some sp₀ → sp₀.done = true → False := fun sp₀ hsp₀ hd₀ => by
    rw [hsp, Option.some.injEq] at hsp₀
    subst hsp₀
    simp [hdone] at hd₀
  simp only [hdone, Bool.false_eq_true, if_false]
  rcases hnext : sp.logic.next with ⟨effects, more, logic⟩
  have hr : CleanRaises effects := by
    have h := sp.logic.cleanRaises_next
    rwa [hnext] at h
  simp only [Run.spec_bind, Run.spec_modifySpout]
  -- the component moves on; its new state is no part of the protocol
  have hn : D.Neutral s (s.updJob ⟨q, D.job⟩
      fun j => { j with spouts := j.spouts.modify i fun sp' => { sp' with logic } }) :=
    neutral_modifySpout hsp hdone rfl
  have he : D.EmitterAt s ⟨⟨q, D.job⟩, sp.id, sp.logic.fields, sp.routes⟩ q sp.node :=
    ⟨rfl, mem_idsAt.mpr (.inr ⟨i, sp, hsp, rfl, rfl⟩), fun c hc' => by rwa [(hw.spout hsp).2] at hc'⟩
  refine (spec_perform hd (hw.of_fixedOf hn.fixed) (hn.consistent hc) (he.of_keeps (hn.keeps 0))
    (hn.quiet.notVoter (hc.notVoter_of_spout hw hsp hdone)) hr).mono fun r s₂ h₂ => ?_
  obtain ⟨hc₂, hk₂, hq₂, hcl₂⟩ := (DataPost.of_neutral hc hn ()).trans h₂
  have hk₂' := hk₂.mono (Nat.zero_le _)
  rcases r with f | _
  · exact ⟨hc₂, hk₂', hcl₂⟩
  cases more
  case true => exact ⟨hc₂, hk₂', trivial⟩
  case false =>
  simp only [Bool.false_eq_true, if_false, Run.spec_bind, Run.spec_modifySpout]
  -- nothing more: the executor closes
  obtain ⟨sp₂, hsp₂, he₂⟩ := hq₂.spoutAt hsp
  obtain ⟨hid, hnode, hd₂, -, hro⟩ := SpoutExecutor.eos_eq_iff.mp he₂
  set s₃ := s₂.updJob ⟨q, D.job⟩ fun j => { j with spouts := j.spouts.modify i fun sp' => { sp' with done := true } }
    with hs₃
  have hsp₃ : s₃.spoutAt D.job q i = some { sp₂ with done := true } := by
    rw [hs₃, spoutAt_modifySpout_of hsp₂, if_pos ⟨rfl, rfl⟩]
  have hk₃ : D.Keeps 0 s s₃ :=
    Keeps.modifySpout hk₂' hsp₂ rfl rfl fun sp₀ hsp₀ hd₀ => (hfr sp₀ hsp₀ hd₀).elim
  have hkU : D.Keeps (D.topology.depth sp.node) s s₃ :=
    Keeps.modifySpout hk₂ hsp₂ rfl rfl fun sp₀ hsp₀ hd₀ => (hfr sp₀ hsp₀ hd₀).elim
  -- it has voted nowhere: only bolt executors take votes, and they are as they were
  have hnv₃ : D.NotVoter s₃ sp.id := fun w i' d hd' =>
    hq₂.notVoter (hc.notVoter_of_spout hw hsp hdone) w i' d ((World.boltAt_modifySpouts w i').symm.trans hd')
  have hc₃ : D.Consistent s₃ := hc₂.spoutClose hsp₂
  have he₃ : D.EmitterAt s₃ ⟨⟨q, D.job⟩, sp.id, sp.logic.fields, sp.routes⟩ q sp.node := he.of_keeps hk₃
  -- then it forwards its end of stream
  refine (spec_emitEos hd (hw.of_fixedOf hk₃.fixed) hc₃ he₃
    (.inr ⟨q, i, _, hsp₃, hid, hnode, rfl⟩)).mono fun r s₄ h₄ => ?_
  obtain ⟨hc₄, hk₄, hcl₄, hok₄⟩ := h₄
  have hk₀₄ := hk₃.trans (hk₄.mono (Nat.zero_le _))
  rcases r with f | _
  · exact ⟨hc₄, hk₀₄, hcl₄⟩
  obtain ⟨hvr, hs₄⟩ := hok₄ _ rfl
  simp only [Run.spec_modifyContext, Run.spec_pure]
  obtain ⟨sp₄, hsp₄, hfr₄⟩ := hk₄.spout q i _ hsp₃
  rw [hfr₄ rfl] at hsp₄
  have hc₅ := hc₄.spoutForward hsp₄ rfl (hid ▸ hro ▸ hvr) fun w i' d hd' hfd hsd =>
    hid ▸ hnv₃ w i' d (hs₄ w i' d hd' hfd hsd)
  set s₅ := s₄.updJob ⟨q, D.job⟩ fun j => { j with spouts := j.spouts.modify i fun sp' => { sp' with sentEos := true } }
    with hs₅
  have hk₅ : D.Keeps 0 s s₅ :=
    Keeps.modifySpout hk₀₄ hsp₄ rfl rfl fun sp₀ hsp₀ hd₀ => (hfr sp₀ hsp₀ hd₀).elim
  have hn₆ : D.Neutral s₅ (s₅.updJob ⟨q, D.job⟩ fun j => { j with context := j.context.finishOne }) :=
    neutral_of_errors JobContext.finishOne fun c => c.finishOne_errors
  exact ⟨hn₆.consistent hc₅, hk₅.trans (hn₆.keeps 0), trivial⟩

end Emit

/-- Delivery within any nesting bound keeps the protocol: by induction on the bound, each level
delivering through the one below it. -/
theorem deliverOk_within : ∀ n, D.DeliverOk (deliverWithin n)
  | 0 => fun _ _ _ _ _ _ _ _ => ⟨fun _ => Run.spec_crash _, fun _ _ => Run.spec_crash _⟩
  | n + 1 => fun _ _ _ _ _ hw hc hb =>
    ⟨fun ht => spec_boltExecute_data (deliverOk_within n) hw hc hb ht,
      fun he ha => spec_boltExecute_eos (deliverOk_within n) hw hc hb he ha⟩

theorem deliverOk : D.DeliverOk deliver := fun s q i b t hw hc hb => by
  simp only [Run.spec_deliver]
  exact deliverOk_within s.boltCount s q i b t hw hc hb

end Deployment

end Dataflow
