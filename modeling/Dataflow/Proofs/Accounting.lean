import Dataflow.Proofs.Holdings
/-!
The ledger of a map/reduce job along the flows of the network. A flow of data adds what its tuple
amounts to where it goes (`DataFlowed`); a flow that carries ends of stream settles the reduce
executors it finishes (`Flowed`). Both keep the job staged and move phases only forward. Each flow
is specified together with what it leaves of the end-of-stream protocol, for any delivery that
keeps both (`LedgerOk`).
-/
namespace Dataflow

namespace Deployment

variable {D : Deployment} {s s₁ s₂ : World}

lemma exists_job_of_fixedOf (h : s₁.fixedOf D.job = s.fixedOf D.job) {w : Nat} {j₁ : Job}
    (hj : s₁.job? ⟨w, D.job⟩ = some j₁) : ∃ j, s.job? ⟨w, D.job⟩ = some j := by
  have := World.job?_fixed_eq h w
  rw [hj, Option.map_some] at this
  cases hj₀ : s.job? ⟨w, D.job⟩ with
  | none => rw [hj₀] at this; cases this
  | some j => exact ⟨j, rfl⟩

lemma Quiet.finalized (hq : D.Quiet s s₁) {w i : Nat} {x y : BoltExecutor} (hx : s.boltAt D.job w i = some x)
    (hy : s₁.boltAt D.job w i = some y) : y.finalized = x.finalized := by
  have h := hq.bolt w i
  rw [hx, hy, Option.map_some, Option.map_some, Option.some.injEq] at h
  exact (BoltExecutor.eos_eq_iff.mp h).2.2.2.1

namespace MapReduce

variable (M : D.MapReduce) (J : Reducer)

/-- What a flow of data leaves of the ledger: grown by `δ`, the job staged, and phases moved only
from init to mapping. -/
def DataFlowed (s : World) (δ : Multiset Posting) (s' : World) : Prop :=
  M.ledger J s' = M.ledger J s + δ ∧ M.Staged J s' ∧ D.PhaseData s s'

def Finishes (s s' : World) (F : List (Nat × Nat)) : Prop :=
  F.Nodup ∧ ∀ r, r ∈ F ↔ (∃ b, s.boltAt D.job r.1 r.2 = some b ∧ b.node = M.reduce ∧ b.finalized = false) ∧
    ∃ b', s'.boltAt D.job r.1 r.2 = some b' ∧ b'.finalized = true

/-- What any flow leaves of the ledger: grown by `δ`, with the reduce executors it finished settled,
the job staged, and phases moved forward. -/
def Flowed (s : World) (δ : Multiset Posting) (s' : World) : Prop :=
  (∃ F, M.Finishes s s' F ∧ M.Settles (M.ledger J s) δ F (M.ledger J s')) ∧ M.Staged J s' ∧ D.PhaseFwd s s'

/-- What a flow of data leaves: the protocol's post, and, when it ends normally, the ledger grown by
`δ`. -/
def DataLedger {α : Type} (k : Nat) (s : World) (δ : Multiset Posting) (r : Except Fault α) (s' : World) :
    Prop :=
  D.DataPost k s r s' ∧ ∀ a, r = .ok a → M.DataFlowed J s δ s'

/-- What a flow carrying an end of stream leaves: the protocol's post, and, when it ends normally,
the ledger with the reduce executors it finished settled. -/
def EosLedger {α : Type} (k : Nat) (s : World) (delivered : World → Prop) (r : Except Fault α) (s' : World) :
    Prop :=
  D.EosPost k s delivered r s' ∧ ∀ a, r = .ok a → M.Flowed J s 0 s'

/-- A delivery that keeps the protocol and the ledger: data that may reach a bolt executor adds
what it amounts to there, and an end of stream that may reach it settles what it finishes. -/
def LedgerOk (deliver : Deliver) : Prop :=
  ∀ s q i b t, D.Wired s → D.Consistent s → M.Staged J s → s.boltAt D.job q i = some b →
    (D.DataAdm s q b.node t → Run.Spec (deliver ⟨q, D.job⟩ i t) s
      (M.DataLedger J (D.topology.depth b.node) s (M.execValue J b.node q i t))) ∧
    (t.endOfStream = true → D.EosAdm s q b.node t.source → Run.Spec (deliver ⟨q, D.job⟩ i t) s
      (M.EosLedger J (D.topology.depth b.node) s
        fun s' => ∃ b', s'.boltAt D.job q i = some b' ∧ t.source ∈ b'.tally.voters))

def pushValue (c : String) (q : Nat) (ts : List Tuple) : Multiset Posting :=
  (ts.map fun t => if t.endOfStream then 0 else M.streamValue J c q t).sum

/-- What tuples taken so far from a push leave of the ledger: a flow adding what their data amounts
to, and a flow of data while only data came. -/
def PushAcc (q : Nat) (c : String) (s : World) (pre : List Tuple) (s' : World) : Prop :=
  M.Flowed J s (M.pushValue J c q pre) s' ∧
    ((∀ y ∈ pre, y.endOfStream = false) → M.DataFlowed J s (M.pushValue J c q pre) s')

def PushLedger (q : Nat) (c : String) (ts : List Tuple) (s : World) (r : Except Fault Unit) (s' : World) : Prop :=
  ∀ a, r = .ok a → M.PushAcc J q c s ts s'

variable {M J}

@[simp] lemma pushValue_nil (c : String) (q : Nat) : M.pushValue J c q [] = 0 := rfl

lemma pushValue_append (c : String) (q : Nat) (ts ts' : List Tuple) :
    M.pushValue J c q (ts ++ ts') = M.pushValue J c q ts + M.pushValue J c q ts' := by
  simp [pushValue]

lemma pushValue_singleton (c : String) (q : Nat) (t : Tuple) :
    M.pushValue J c q [t] = if t.endOfStream then 0 else M.streamValue J c q t := by
  simp [pushValue]

lemma pushValue_of_eos {c : String} {q : Nat} {ts : List Tuple} (h : ∀ t ∈ ts, t.endOfStream = true) :
    M.pushValue J c q ts = 0 :=
  List.sum_eq_zero fun x hx => by
    obtain ⟨t, ht, rfl⟩ := List.mem_map.mp hx
    simp [h t ht]

lemma pushValue_of_data {c : String} {q : Nat} {ts : List Tuple} (h : ∀ t ∈ ts, t.endOfStream = false) :
    M.pushValue J c q ts = (ts.map (M.streamValue J c q)).sum :=
  congrArg List.sum (List.map_congr_left fun t ht => by simp [h t ht])

/-! ### Composing flows -/

lemma PhaseData.trans_fixed (h : D.PhaseData s s₁) (h' : D.PhaseData s₁ s₂)
    (hf : s₂.fixedOf D.job = s₁.fixedOf D.job) : D.PhaseData s s₂ :=
  h.trans h' fun _ _ hj => exists_job_of_fixedOf hf hj

lemma PhaseFwd.trans_fixed (h : D.PhaseFwd s s₁) (h' : D.PhaseFwd s₁ s₂)
    (hf : s₂.fixedOf D.job = s₁.fixedOf D.job) : D.PhaseFwd s s₂ :=
  h.trans h' fun _ _ hj => exists_job_of_fixedOf hf hj

lemma DataFlowed.refl (hs : M.Staged J s) : M.DataFlowed J s 0 s :=
  ⟨(add_zero _).symm, hs, PhaseData.refl s⟩

lemma DataFlowed.trans {δ₁ δ₂ : Multiset Posting} (h₁ : M.DataFlowed J s δ₁ s₁) (h₂ : M.DataFlowed J s₁ δ₂ s₂)
    (hf : s₂.fixedOf D.job = s₁.fixedOf D.job) : M.DataFlowed J s (δ₁ + δ₂) s₂ :=
  ⟨by rw [h₂.1, h₁.1, add_assoc], h₂.2.1, PhaseData.trans_fixed h₁.2.2 h₂.2.2 hf⟩

lemma DataFlowed.flowed_of {δ : Multiset Posting} (h : M.DataFlowed J s δ s₁)
    (hfin : ∀ w i b, s.boltAt D.job w i = some b → b.node = M.reduce → b.finalized = false →
      ∀ b', s₁.boltAt D.job w i = some b' → b'.finalized = false) :
    M.Flowed J s δ s₁ := by
  refine ⟨⟨[], ⟨List.nodup_nil, fun r => ⟨fun h => absurd h List.not_mem_nil, ?_⟩⟩, ?_⟩, h.2.1, h.2.2.fwd⟩
  · rintro ⟨⟨b, hb, hn, hf⟩, b', hb', hf'⟩
    rw [hfin r.1 r.2 b hb hn hf b' hb'] at hf'
    cases hf'
  · rw [settles_nil, h.1]

lemma DataFlowed.flowed {δ : Multiset Posting} (h : M.DataFlowed J s δ s₁) (hq : D.Quiet s s₁) :
    M.Flowed J s δ s₁ :=
  h.flowed_of fun _ _ _ hb _ hf _ hb' => (hq.finalized hb hb').trans hf

lemma Flowed.refl (hs : M.Staged J s) : M.Flowed J s 0 s :=
  (DataFlowed.refl hs).flowed (Quiet.refl s)

theorem Flowed.trans_of_finished {δ₁ δ₂ : Multiset Posting} (h₁ : M.Flowed J s δ₁ s₁) (h₂ : M.Flowed J s₁ δ₂ s₂)
    (hk₁ : D.Keeps 0 s s₁) (hk₂ : D.Keeps 0 s₁ s₂)
    (hδ : ∀ r b, s₁.boltAt D.job r.1 r.2 = some b → b.node = M.reduce → b.finalized = true →
      Posting.heldFor r δ₂ = 0) :
    M.Flowed J s (δ₁ + δ₂) s₂ := by
  obtain ⟨⟨F₁, ⟨hnd₁, hF₁⟩, hs₁⟩, -, hp₁⟩ := h₁
  obtain ⟨⟨F₂, ⟨hnd₂, hF₂⟩, hs₂⟩, hst₂, hp₂⟩ := h₂
  -- what the first flow finished is finished after it, what the second finished was not
  have hdis : ∀ r ∈ F₁, r ∉ F₂ := fun r h₁ h₂ => by
    obtain ⟨-, b', hb', hf'⟩ := (hF₁ r).mp h₁
    obtain ⟨⟨b, hb, -, hf⟩, -⟩ := (hF₂ r).mp h₂
    rw [hb', Option.some.injEq] at hb
    rw [hb, hf] at hf'
    cases hf'
  have hnd : (F₁ ++ F₂).Nodup := List.nodup_append.mpr ⟨hnd₁, hnd₂, fun r h₁ r' h₂ he => hdis r h₁ (he ▸ h₂)⟩
  refine ⟨⟨F₁ ++ F₂, ⟨hnd, fun r => ⟨fun hr => ?_, fun hr => ?_⟩⟩,
    hs₁.trans hs₂ (fun r hr => ?_) hnd⟩, hst₂, PhaseFwd.trans_fixed hp₁ hp₂ hk₂.fixed⟩
  · rcases List.mem_append.mp hr with hr | hr
    · obtain ⟨hb, b', hb', hf'⟩ := (hF₁ r).mp hr
      obtain ⟨b'', hb'', -, hfr⟩ := hk₂.bolt _ _ b' hb'
      exact ⟨hb, b'', hb'', by rw [hfr hf']; exact hf'⟩
    · obtain ⟨⟨b₁, hb₁, hn₁, hf₁⟩, hfin⟩ := (hF₂ r).mp hr
      obtain ⟨b, hb, hfix, -, hfr⟩ := hk₁.boltAt_back hb₁
      refine ⟨⟨b, hb, (BoltExecutor.fixed_eq_iff.mp hfix).2.1.symm.trans hn₁, ?_⟩, hfin⟩
      cases hbf : b.finalized
      · rfl
      · rw [hfr hbf, hbf] at hf₁
        cases hf₁
  · -- unfinished before, finished after: by the first flow or by the second
    obtain ⟨⟨b, hb, hn, hf⟩, b'', hb'', hf''⟩ := hr
    obtain ⟨b₁, hb₁, hfix, -⟩ := hk₁.boltAt_fwd hb
    cases hf₁ : b₁.finalized
    · have hn₁ : b₁.node = M.reduce := (BoltExecutor.fixed_eq_iff.mp hfix).2.1.trans hn
      exact List.mem_append_right _ ((hF₂ r).mpr ⟨⟨b₁, hb₁, hn₁, hf₁⟩, b'', hb'', hf''⟩)
    · exact List.mem_append_left _ ((hF₁ r).mpr ⟨⟨b, hb, hn, hf⟩, b₁, hb₁, hf₁⟩)
  · -- the first flow finished it, so it reduces and has finished after it
    obtain ⟨⟨b, hb, hn, -⟩, b', hb', hf'⟩ := (hF₁ r).mp hr
    obtain ⟨b₁, hb₁, hfix, -⟩ := hk₁.boltAt_fwd hb
    rw [hb', Option.some.injEq] at hb₁
    subst hb₁
    exact hδ r b' hb' ((BoltExecutor.fixed_eq_iff.mp hfix).2.1.trans hn) hf'

theorem Flowed.trans {δ₁ δ₂ : Multiset Posting} (h₁ : M.Flowed J s δ₁ s₁) (h₂ : M.Flowed J s₁ δ₂ s₂)
    (hk₁ : D.Keeps 0 s s₁) (hk₂ : D.Keeps 0 s₁ s₂) (hδ : ∀ r, Posting.heldFor r δ₂ = 0) :
    M.Flowed J s (δ₁ + δ₂) s₂ :=
  h₁.trans_of_finished h₂ hk₁ hk₂ fun r _ _ _ _ => hδ r

lemma pushValue_send {c : String} {q : Nat} {S : Sender} (hS : S.batchSize = 1 → S.held = []) (t : Tuple) :
    M.pushValue J c q (Sender.carried (S.send t).1) + M.pushValue J c q (S.send t).2.held =
      M.pushValue J c q S.held + M.pushValue J c q [t] := by
  rw [← pushValue_append, ← pushValue_append, Sender.carried_send_append_held S t hS]

lemma data_send_held {S : Sender} (hS : S.batchSize = 1 → S.held = [])
    (hd : ∀ x ∈ S.held, x.endOfStream = false) {t : Tuple} :
    ∀ x ∈ (S.send t).2.held, x.endOfStream = false := fun x hx => by
  cases he : t.endOfStream
  · have hx' : x ∈ S.held ++ [t] := by
      rw [← Sender.carried_send_append_held S t hS]
      exact List.mem_append_right _ hx
    rcases List.mem_append.mp hx' with hx' | hx'
    · exact hd x hx'
    · rw [List.mem_singleton.mp hx']
      exact he
  · rw [Sender.send_held_of_endOfStream S he] at hx
    split at hx
    · exact hd x hx
    · cases hx

lemma DataFlowed.of_job?_left {δ : Multiset Posting} (hj : ∀ w, s₁.job? ⟨w, D.job⟩ = s.job? ⟨w, D.job⟩)
    (h : M.DataFlowed J s₁ δ s₂) : M.DataFlowed J s δ s₂ :=
  ⟨by rw [h.1, ledger_of_job? M J hj], h.2.1, fun w j j₂ hj₀ hj₂ => h.2.2 w j j₂ (by rw [hj]; exact hj₀) hj₂⟩

lemma Flowed.of_job?_left {δ : Multiset Posting} (hj : ∀ w, s₁.job? ⟨w, D.job⟩ = s.job? ⟨w, D.job⟩)
    (h : M.Flowed J s₁ δ s₂) : M.Flowed J s δ s₂ := by
  obtain ⟨⟨F, ⟨hnd, hF⟩, hst⟩, hs, hp⟩ := h
  have hb : ∀ w i, s₁.boltAt D.job w i = s.boltAt D.job w i := fun w i => by simp only [World.boltAt, hj]
  refine ⟨⟨F, ⟨hnd, fun r => by rw [hF r, hb]⟩, by rwa [← ledger_of_job? M J hj]⟩, hs,
    fun w j j₂ hj₀ hj₂ => hp w j j₂ (by rw [hj]; exact hj₀) hj₂⟩

lemma PushAcc.of_job?_left {q : Nat} {c : String} {pre : List Tuple}
    (hj : ∀ w, s₁.job? ⟨w, D.job⟩ = s.job? ⟨w, D.job⟩) (h : M.PushAcc J q c s₁ pre s₂) : M.PushAcc J q c s pre s₂ :=
  ⟨h.1.of_job?_left hj, fun hall => (h.2 hall).of_job?_left hj⟩

lemma DataFlowed.of_before {δ δ' : Multiset Posting} (h : M.DataFlowed J s₁ δ s₂)
    (hL : M.ledger J s₁ + δ = M.ledger J s + δ') (hp : D.PhaseData s s₁) (hf : s₂.fixedOf D.job = s₁.fixedOf D.job) :
    M.DataFlowed J s δ' s₂ :=
  ⟨h.1.trans hL, h.2.1, PhaseData.trans_fixed hp h.2.2 hf⟩

lemma Flowed.of_before {δ δ' : Multiset Posting} (h : M.Flowed J s₁ δ s₂)
    (hL : M.ledger J s₁ + δ = M.ledger J s + δ') (hb : ∀ w i, s₁.boltAt D.job w i = s.boltAt D.job w i)
    (hp : D.PhaseData s s₁) (hf : s₂.fixedOf D.job = s₁.fixedOf D.job) : M.Flowed J s δ' s₂ := by
  obtain ⟨⟨F, ⟨hnd, hF⟩, hst⟩, hs, hp'⟩ := h
  refine ⟨⟨F, ⟨hnd, fun r => by rw [hF r, hb]⟩, ?_⟩, hs, PhaseFwd.trans_fixed hp.fwd hp' hf⟩
  unfold Settles at hst ⊢
  rwa [← hL]

/-! ### What one change does -/

section Changes

variable {q : Nat} {f : Job → Job}

lemma MapsClosed.of_boltAt (h : M.MapsClosed s) (hb : ∀ w i, s₁.boltAt D.job w i = s.boltAt D.job w i) :
    M.MapsClosed s₁ := fun w i b hb' => h w i b (by rw [← hb]; exact hb')

lemma Staged.updJob (hs : M.Staged J s)
    (hjob : ∀ j, s.job? ⟨q, D.job⟩ = some j → M.JobStaged J j → M.JobStaged J (f j))
    (hmaps : M.MapsClosed s → M.MapsClosed (s.updJob ⟨q, D.job⟩ f))
    (hred : ∀ j, s.job? ⟨q, D.job⟩ = some j → (f j).context.phase = .reducing →
      j.context.phase = .reducing ∨ M.MapsClosed (s.updJob ⟨q, D.job⟩ f)) :
    M.Staged J (s.updJob ⟨q, D.job⟩ f) := by
  constructor
  · intro w j' hj'
    rw [World.job?_updJob] at hj'
    split at hj'
    · obtain ⟨j, hj, rfl⟩ := Option.map_eq_some_iff.mp hj'
      exact hjob j hj (hs.jobs q j hj)
    · exact hs.jobs w j' hj'
  · intro w j' hj' hph
    rw [World.job?_updJob] at hj'
    split at hj'
    · obtain ⟨j, hj, rfl⟩ := Option.map_eq_some_iff.mp hj'
      rcases hred j hj hph with h | h
      · exact hmaps (hs.reducing q j hj h)
      · exact h
    · exact hmaps (hs.reducing w j' hj' hph)

lemma PhaseData.updJob (hf : ∀ j, (f j).context.phase = j.context.phase) :
    D.PhaseData s (s.updJob ⟨q, D.job⟩ f) :=
  PhaseData.of_phase fun w => by
    rw [World.job?_updJob]
    split
    · rename_i h
      rw [← h]
      cases s.job? ⟨w, D.job⟩ <;> simp [hf]
    · rfl

lemma Staged.of_job? (hs : M.Staged J s) (h : ∀ w, s₁.job? ⟨w, D.job⟩ = s.job? ⟨w, D.job⟩) : M.Staged J s₁ :=
  ⟨fun w j hj => hs.jobs w j (by rw [← h]; exact hj), fun w j hj hph =>
    (hs.reducing w j (by rw [← h]; exact hj) hph).of_boltAt fun w' i => by simp only [World.boltAt, h]⟩

lemma Staged.setRouter (hs : M.Staged J s) (c : String) (r : Router) :
    M.Staged J (s.updJob ⟨q, D.job⟩ (·.setRouter c r)) :=
  hs.updJob (fun _ _ h => ⟨h.nodes, h.fits, h.pending, h.course, h.idle⟩)
    (fun h => h.of_boltAt fun _ _ => World.boltAt_setRouter _ _) fun _ _ hph => .inl hph

lemma Staged.context (hs : M.Staged J s) (g : JobContext → JobContext) (hp : ∀ c, (g c).pending = c.pending)
    (hph : ∀ c, (g c).phase = c.phase) :
    M.Staged J (s.updJob ⟨q, D.job⟩ fun j => { j with context := g j.context }) :=
  hs.updJob (fun _ _ h => ⟨h.nodes, h.fits, (hp _).trans h.pending, (hph _).symm ▸ h.course,
      fun hi => (hp _).trans (h.idle ((hph _).symm.trans hi))⟩)
    (fun h => h.of_boltAt fun _ _ => World.boltAt_context _ _) fun _ _ hr => .inl ((hph _).symm.trans hr)

lemma ledger_updJob_of (hf : ∀ j, M.jobLedger J q (f j) = M.jobLedger J q j) :
    M.ledger J (s.updJob ⟨q, D.job⟩ f) = M.ledger J s := by
  unfold ledger
  refine congrArg List.sum (List.map_congr_left fun w _ => ?_)
  rw [World.job?_updJob]
  split
  · rename_i h
    obtain rfl : w = q := congrArg Place.worker h
    cases s.job? ⟨w, D.job⟩ <;> simp [hf]
  · rfl

lemma ledger_context_of (g : JobContext → JobContext) (hg : ∀ c, (g c).ledger q = c.ledger q) :
    M.ledger J (s.updJob ⟨q, D.job⟩ fun j => { j with context := g j.context }) = M.ledger J s :=
  ledger_updJob_of fun j => by simp only [jobLedger, hg]

lemma ledger_modifySpout (i : Nat) (g : SpoutExecutor → SpoutExecutor) :
    M.ledger J (s.updJob ⟨q, D.job⟩ fun j => { j with spouts := j.spouts.modify i g }) = M.ledger J s :=
  ledger_updJob_of fun _ => rfl

variable (hw : D.Wired s)
include hw

lemma ledger_setRouter {c : String} {r : Router} (hr : s.routerAt D.job q c = some r) (r' : Router) :
    M.ledger J (s.updJob ⟨q, D.job⟩ (·.setRouter c r')) + M.sendersLedger J c q r.senders =
      M.ledger J s + M.sendersLedger J c q r'.senders := by
  simp only [World.routerAt, Option.bind_eq_some_iff] at hr
  obtain ⟨j, hj, hr⟩ := hr
  exact ledger_updJob M J (hw.lt_of_job? hj) hj
    (jobLedger_setRouter M J q ((hw.shaped_of_job? hj).routerKeys ▸ hw.boltKeys) hr r')

lemma ledger_setRouter_of_senders {c : String} {r r' : Router} (hr : s.routerAt D.job q c = some r)
    (hs : r'.senders = r.senders) : M.ledger J (s.updJob ⟨q, D.job⟩ (·.setRouter c r')) = M.ledger J s := by
  have h := ledger_setRouter hw hr r' (M := M) (J := J)
  rw [hs] at h
  exact add_right_cancel h

lemma ledger_context {j : Job} (hj : s.job? ⟨q, D.job⟩ = some j) (g : JobContext → JobContext) :
    M.ledger J (s.updJob ⟨q, D.job⟩ fun j => { j with context := g j.context }) + j.context.ledger q =
      M.ledger J s + (g j.context).ledger q :=
  ledger_updJob M J (hw.lt_of_job? hj) hj (jobLedger_context M J q j _)

lemma ledger_modifyBolt {i : Nat} {b : BoltExecutor} (hb : s.boltAt D.job q i = some b)
    (g : BoltExecutor → BoltExecutor) :
    M.ledger J (s.updJob ⟨q, D.job⟩ fun j => { j with bolts := j.bolts.modify i g }) + b.ledger q i =
      M.ledger J s + (g b).ledger q i := by
  simp only [World.boltAt, Option.bind_eq_some_iff] at hb
  obtain ⟨j, hj, hb⟩ := hb
  exact ledger_updJob M J (hw.lt_of_job? hj) hj (jobLedger_bolts M J q hb g)

lemma dataFlowed_setRouter (hs : M.Staged J s) {q : Nat} {c : String} {r r' : Router}
    (hr : s.routerAt D.job q c = some r) (hsend : r'.senders = r.senders) :
    M.DataFlowed J s 0 (s.updJob ⟨q, D.job⟩ (·.setRouter c r')) :=
  ⟨by rw [ledger_setRouter_of_senders hw hr hsend, add_zero], hs.setRouter c r', PhaseData.updJob fun _ => rfl⟩

end Changes

lemma Flowed.of_job? {δ : Multiset Posting} (h : M.Flowed J s δ s₁) (hj : ∀ w, s₂.job? ⟨w, D.job⟩ = s₁.job? ⟨w, D.job⟩) :
    M.Flowed J s δ s₂ := by
  obtain ⟨⟨F, ⟨hnd, hF⟩, hst⟩, hs, hp⟩ := h
  have hb : ∀ w i, s₂.boltAt D.job w i = s₁.boltAt D.job w i := fun w i => by simp only [World.boltAt, hj]
  refine ⟨⟨F, ⟨hnd, fun r => by rw [hF r, hb]⟩, by rwa [ledger_of_job? M J hj]⟩, hs.of_job? hj,
    fun w j j₂ hj₀ hj₂ => hp w j j₂ hj₀ (by rw [← hj]; exact hj₂)⟩

/-! ### Delivering from a peer -/

section Flows

variable {deliver : Deliver} (hl : M.LedgerOk J deliver)
include hl

theorem ledger_routeLocally_data (hw : D.Wired s) (hc : D.Consistent s) (hs : M.Staged J s) {q : Nat}
    {c : String} {t : Tuple} (ht : D.DataAdm s q c t) :
    Run.Spec (routeLocally deliver ⟨q, D.job⟩ c t) s
      (M.DataLedger J (D.topology.depth c) s (M.streamValue J c q t)) := by
  rw [routeLocally, Run.spec_bind, Run.spec_router]
  intro j hj r hr
  have hR : s.routerAt D.job q c = some r := by rw [World.routerAt_of_job? hj]; exact hr
  have hrw := hw.routerWired hR
  obtain ⟨d, hd⟩ := hw.routerExact hj (hs.jobs q j hj).nodes hr
  simp only [Run.spec_bind, Run.spec_setRouter]
  have hn := neutral_setRouter hw hR (r.routeLocally_snd t).1 (r.routeLocally_snd t).2
  have hl₀ := dataFlowed_setRouter hw hs hR (r.routeLocally_snd t).2
  -- the invariant of the loop: a flow of data adding what the slots so far amount to
  refine (Run.spec_forIn_prefix _ _ (fun pre s₁ => D.DataPost (D.topology.depth c) s (.ok ()) s₁ ∧
      D.DataAdm s₁ q c t ∧ M.DataFlowed J s ((pre.map (M.slotValue J c q r t)).sum) s₁)
      (fun e s₁ => M.DataLedger J (D.topology.depth c) s (M.streamValue J c q t) (.error e : Except Fault Unit) s₁)
      ⟨DataPost.of_neutral hc hn (), ht.of_quiet hn.quiet, hl₀⟩ ?_).mono ?_
  · rintro pre sl post hlst s₁ ⟨⟨hc₁, hk₁, hq₁, -⟩, ht₁, hL₁⟩
    obtain ⟨i, rfl, hi⟩ := r.mem_routeLocally t (hlst ▸ List.mem_append_right _ (List.mem_cons_self ..))
    obtain ⟨b, hb, hbn⟩ := hrw.locals i hi
    obtain ⟨b₁, hb₁, hfix, -⟩ := hk₁.boltAt_fwd hb
    have hbn₁ : b₁.node = c := (BoltExecutor.fixed_eq_iff.mp hfix).2.1.trans hbn
    have hdel := (hl s₁ q _ b₁ t (hw.of_fixedOf hk₁.fixed) hc₁ hL₁.2.1 hb₁).1 (hbn₁ ▸ ht₁)
    simp only [Run.spec_bind]
    refine hdel.mono fun r' s₂ h => ?_
    rw [hbn₁] at h
    obtain ⟨⟨hc₂, hk₂, hq₂, hcl⟩, hok⟩ := h
    rcases r' with e | _
    · exact ⟨⟨hc₂, hk₁.trans hk₂, hq₁.trans hq₂, hcl⟩, fun a ha => by cases ha⟩
    · refine ⟨⟨hc₂, hk₁.trans hk₂, hq₁.trans hq₂, trivial⟩, ht₁.of_quiet hq₂, ?_⟩
      rw [List.map_append, List.sum_append, List.map_singleton, List.sum_singleton, slotValue_mine]
      exact hL₁.trans (hok _ rfl) hk₂.fixed
  · intro r' s' h
    rcases r' with e | _
    · exact h
    · obtain ⟨hp, -, hL⟩ := h
      refine ⟨hp, fun _ _ => ?_⟩
      rwa [sum_routeLocally_slotValue hw.boltKeys hd ht.1] at hL

theorem ledger_routeLocally_eos (hw : D.Wired s) (hc : D.Consistent s) (hs : M.Staged J s) {q : Nat}
    {c u : String} (ht : D.EosAdm s q c u) :
    Run.Spec (routeLocally deliver ⟨q, D.job⟩ c (Tuple.eos u)) s
      (M.EosLedger J (D.topology.depth c) s fun s' => D.Voted s' q c u) := by
  rw [routeLocally, Run.spec_bind, Run.spec_router]
  intro j hj r hr
  have hR : s.routerAt D.job q c = some r := by rw [World.routerAt_of_job? hj]; exact hr
  have hrw := hw.routerWired hR
  simp only [Run.spec_bind, Run.spec_setRouter]
  have hn := neutral_setRouter hw hR (r.routeLocally_snd (Tuple.eos u)).1 (r.routeLocally_snd (Tuple.eos u)).2
  have hl₀ := (dataFlowed_setRouter hw hs hR (r.routeLocally_snd (Tuple.eos u)).2).flowed hn.quiet
  -- the executors reached so far have the vote, and what they finished is settled
  refine (Run.spec_forIn_prefix _ _ (fun pre s₁ => D.Consistent s₁ ∧ D.Keeps (D.topology.depth c) s s₁ ∧
      D.NoNewStuck s s₁ ∧ (∀ i, Slot.mine i ∈ pre →
        ∃ b, s₁.boltAt D.job q (r.locals.getD i 0) = some b ∧ u ∈ b.tally.voters) ∧ M.Flowed J s 0 s₁)
      (fun e s₁ => M.EosLedger J (D.topology.depth c) s (fun s' => D.Voted s' q c u)
        (.error e : Except Fault Unit) s₁)
      ⟨hn.consistent hc, hn.keeps _, hn.noNewStuck, fun _ h => absurd h (List.not_mem_nil), hl₀⟩ ?_).mono ?_
  · rintro pre sl post hlst s₁ ⟨hc₁, hk₁, hs₁, hv₁, hL₁⟩
    obtain ⟨i, rfl, hi⟩ := r.mem_routeLocally _ (hlst ▸ List.mem_append_right _ (List.mem_cons_self ..))
    obtain ⟨b, hb, hbn⟩ := hrw.locals i hi
    obtain ⟨b₁, hb₁, hfix, -⟩ := hk₁.boltAt_fwd hb
    have hbn₁ : b₁.node = c := (BoltExecutor.fixed_eq_iff.mp hfix).2.1.trans hbn
    have hdel := (hl s₁ q _ b₁ (Tuple.eos u) (hw.of_fixedOf hk₁.fixed) hc₁ hL₁.2.1 hb₁).2 rfl
      (hbn₁ ▸ hk₁.eosAdm (Nat.le_refl _) ht)
    simp only [Run.spec_bind]
    refine hdel.mono fun r' s₂ h => ?_
    rw [hbn₁] at h
    obtain ⟨⟨hc₂, hk₂, hcl, hok⟩, hL₂⟩ := h
    rcases r' with e | _
    · exact ⟨⟨hc₂, hk₁.trans hk₂, hcl, fun a ha => by cases ha⟩, fun a ha => by cases ha⟩
    · obtain ⟨⟨b₂, hb₂, hu⟩, hs₂⟩ := hok _ rfl
      refine ⟨hc₂, hk₁.trans hk₂, hs₁.trans hs₂, fun i' hi' => ?_, ?_⟩
      · rcases List.mem_append.mp hi' with hi' | hi'
        · obtain ⟨b', hb', hu'⟩ := hv₁ i' hi'
          obtain ⟨b'', hb'', -, hv⟩ := hk₂.boltAt_fwd hb'
          exact ⟨b'', hb'', hv.subset hu'⟩
        · obtain rfl : i' = i := by simpa using hi'
          exact ⟨b₂, hb₂, hu⟩
      · simpa using hL₁.trans (hL₂ _ rfl) (hk₁.mono (Nat.zero_le _)) (hk₂.mono (Nat.zero_le _))
          fun _ => map_zero _
  · intro r' s' h
    rcases r' with e | _
    · exact h
    · obtain ⟨hc', hk', hs', hv', hL'⟩ := h
      refine ⟨⟨hc', hk', trivial, fun _ _ => ⟨fun i' b' hb' hn' => ?_, hs'⟩⟩, fun _ _ => hL'⟩
      obtain ⟨b, hb, hfix, -⟩ := hk'.boltAt_back hb'
      have hbn : b.node = c := (BoltExecutor.fixed_eq_iff.mp hfix).2.1.symm.trans hn'
      obtain ⟨k, hk, hki⟩ := hrw.everyLocal i' b hb hbn
      have hmem : Slot.mine k ∈ (r.routeLocally (Tuple.eos u)).1 := by
        rw [Router.routeLocally_of_endOfStream r rfl]
        exact List.mem_map.mpr ⟨k, List.mem_range.mpr hk, rfl⟩
      obtain ⟨b'', hb'', hu⟩ := hv' k hmem
      rw [hki, hb', Option.some.injEq] at hb''
      exact hb'' ▸ hu

theorem ledger_takeTuple_data (hw : D.Wired s) (hc : D.Consistent s) (hs : M.Staged J s) {q : Nat} {c : String}
    {t : Tuple} (ht : D.DataAdm s q c t) :
    Run.Spec (takeTuple deliver ⟨q, D.job⟩ c t) s
      (M.DataLedger J (D.topology.depth c) s (M.streamValue J c q t)) := by
  rw [takeTuple]
  simp only [ht.1, Bool.false_eq_true, if_false, Run.spec_bind, Run.spec_modifyContext, Run.spec_tryCatch]
  have hn : D.Neutral s (s.updJob ⟨q, D.job⟩ fun j => { j with context := j.context.countReceived c }) :=
    neutral_context (·.countReceived c) fun _ r hr => .inl hr
  -- counting the tuple is no posting
  have hL₀ : M.DataFlowed J s 0 (s.updJob ⟨q, D.job⟩ fun j => { j with context := j.context.countReceived c }) :=
    ⟨by rw [ledger_context_of (·.countReceived c) fun _ => rfl, add_zero],
      hs.context (·.countReceived c) (fun _ => rfl) fun _ => rfl, PhaseData.updJob fun _ => rfl⟩
  refine (ledger_routeLocally_data hl (hw.of_fixedOf hn.fixed) (hn.consistent hc) hL₀.2.1
    (ht.of_quiet hn.quiet)).mono fun r s' h => ?_
  obtain ⟨⟨hc', hk', hq', hcl⟩, hok⟩ := h
  rcases r with e | _
  · simp only [Run.spec_failJob, Run.spec_throw]
    have hf : D.Neutral s' (s'.updJob ⟨q, D.job⟩ fun j => { j with context := j.context.fail none e }) :=
      neutral_fail hcl
    exact ⟨⟨hf.consistent hc', (hn.keeps _).trans (hk'.trans (hf.keeps _)), hn.quiet.trans (hq'.trans hf.quiet),
      hcl⟩, fun a ha => by cases ha⟩
  · exact ⟨⟨hc', (hn.keeps _).trans hk', hn.quiet.trans hq', trivial⟩,
      fun _ _ => by simpa using hL₀.trans (hok _ rfl) hk'.fixed⟩

theorem ledger_takeTuple_eos (hw : D.Wired s) (hc : D.Consistent s) (hs : M.Staged J s) {q : Nat} {c : String}
    {t : Tuple} (ht : t.endOfStream = true) (hadm : D.EosAdm s q c t.source) :
    Run.Spec (takeTuple deliver ⟨q, D.job⟩ c t) s
      (M.EosLedger J (D.topology.depth c) s fun s' => D.Voted s' q c t.source) := by
  rw [takeTuple]
  simp only [ht, if_true, Run.spec_bind, Run.spec_worker]
  intro wk hwk
  split
  · rename_i hseen
    refine ⟨⟨hc, Keeps.refl _ _, trivial, fun _ _ => ⟨fun i b hb hn => ?_, NoNewStuck.refl _⟩⟩,
      fun _ _ => Flowed.refl hs⟩
    exact hc.seen q _ ((World.eosDelivered_iff hwk c t.source).mp hseen) i b hb hn
  · simp only [Run.spec_bind, Run.spec_tryCatch]
    refine (ledger_routeLocally_eos hl hw hc hs hadm).mono fun r s' h => ?_
    obtain ⟨⟨hc', hk', hcl, hok⟩, hL⟩ := h
    rcases r with e | _
    · simp only [Run.spec_failJob, Run.spec_throw]
      have hf : D.Neutral s' (s'.updJob ⟨q, D.job⟩ fun j => { j with context := j.context.fail none e }) :=
        neutral_fail hcl
      exact ⟨⟨hf.consistent hc', hk'.trans (hf.keeps _), hcl, fun a ha => by cases ha⟩, fun a ha => by cases ha⟩
    · obtain ⟨hv, hs'⟩ := hok _ rfl
      simp only [Run.spec_modifyWorker]
      have hq : q < s'.workers.length := by
        rw [(hw.of_fixedOf hk'.fixed).workers, ← hw.workers]
        exact (List.getElem?_eq_some_iff.mp hwk).1
      -- marking the end of stream as taken keeps every job
      exact ⟨⟨hc'.markEos hq hv, hk'.markEos, trivial, fun _ _ =>
        ⟨Quiet.markEos.voted hv, fun w i b hb => hs' w i b (by simpa using hb)⟩⟩,
        fun _ _ => (hL _ rfl).of_job? fun w => World.job?_markEos _⟩

lemma ledger_pushStep (hw : D.Wired s) {q : Nat} {c : String} {ts pre post : List Tuple} {t : Tuple}
    {s₁ : World} (hfirst : DataFirst ts) (hts : D.Admissible s q c ts) (hlst : ts = pre ++ t :: post)
    (h : D.PushInv q c s pre s₁) (hA : M.PushAcc J q c s pre s₁) :
    Run.Spec (takeTuple deliver ⟨q, D.job⟩ c t) s₁ fun r s' => match r with
      | .ok _ => D.PushInv q c s (pre ++ [t]) s' ∧ M.PushAcc J q c s (pre ++ [t]) s'
      | .error e => D.PushPost (D.topology.depth c) q c ts s (.error e) s' ∧
          M.PushLedger J q c ts s (.error e) s' := by
  obtain ⟨hc₁, hk₁, hn₁, hq₁, hv₁⟩ := h
  have hw₁ : D.Wired s₁ := hw.of_fixedOf hk₁.fixed
  have hs₁ : M.Staged J s₁ := hA.1.2.1
  have htm : t ∈ ts := hlst ▸ List.mem_append_right _ List.mem_cons_self
  cases ht : t.endOfStream with
  | false =>
    -- data: everything before it was data, so the flow so far is one of data
    have hdata := hfirst pre t post hlst ht
    have hq₁' := hq₁ hdata
    refine (ledger_takeTuple_data hl hw₁ hc₁ hs₁ (((hts t htm).1 ht).of_quiet hq₁')).mono fun r s' h' => ?_
    obtain ⟨⟨hc', hk', hq', hcl⟩, hok⟩ := h'
    rcases r with e | _
    · exact ⟨⟨hc', hk₁.trans hk', hcl, fun _ => hq₁'.trans hq', fun a ha => by cases ha⟩, fun a ha => by cases ha⟩
    · have hD : M.DataFlowed J s (M.pushValue J c q (pre ++ [t])) s' := by
        rw [pushValue_append, pushValue_singleton, ht, if_neg Bool.false_ne_true]
        exact (hA.2 hdata).trans (hok _ rfl) hk'.fixed
      refine ⟨⟨hc', hk₁.trans hk', hn₁.trans (NoNewStuck.of_quiet hq' hk'), fun _ => hq₁'.trans hq', ?_⟩,
        hD.flowed (hq₁'.trans hq'), fun _ => hD⟩
      intro y hy hye
      rcases List.mem_append.mp hy with hy | hy
      · exact hq'.voted (hv₁ y hy hye)
      · rw [List.mem_singleton.mp hy, ht] at hye
        cases hye
  | true =>
    refine (ledger_takeTuple_eos hl hw₁ hc₁ hs₁ ht (hk₁.eosAdm (Nat.le_refl _) ((hts t htm).2 ht))).mono
      fun r s' h' => ?_
    obtain ⟨⟨hc', hk', hcl, hok⟩, hL⟩ := h'
    rcases r with e | _
    · exact ⟨⟨hc', hk₁.trans hk', hcl, fun hall => absurd (hall t htm) (by simp [ht]), fun a ha => by cases ha⟩,
        fun a ha => by cases ha⟩
    · obtain ⟨hvt, hn'⟩ := hok _ rfl
      have hF : M.Flowed J s (M.pushValue J c q (pre ++ [t])) s' := by
        rw [pushValue_append, pushValue_singleton, ht, if_pos rfl]
        exact hA.1.trans (hL _ rfl) (hk₁.mono (Nat.zero_le _)) (hk'.mono (Nat.zero_le _)) fun _ => map_zero _
      refine ⟨⟨hc', hk₁.trans hk', hn₁.trans hn', fun hall => absurd (hall t (by simp)) (by simp [ht]), ?_⟩,
        hF, fun hall => absurd (hall t (by simp)) (by simp [ht])⟩
      intro y hy hye
      rcases List.mem_append.mp hy with hy | hy
      · exact hk'.voted (hv₁ y hy hye)
      · exact (List.mem_singleton.mp hy) ▸ hvt

/-- Tuples pushed for a stream of the job add what their data amounts to on the receiving worker,
and settle what their ends of stream finish. -/
theorem ledger_push (hw : D.Wired s) (hc : D.Consistent s) (hs : M.Staged J s) {q : Nat} {c : String}
    {ts : List Tuple} (hfirst : DataFirst ts) (hts : D.Admissible s q c ts) :
    Run.Spec (push deliver q (some D.job) c ts) s fun r s' =>
      D.PushPost (D.topology.depth c) q c ts s r s' ∧ M.PushLedger J q c ts s r s' := by
  rw [push]
  simp only [Run.spec_bind, Run.spec_worker]
  intro wk hwk
  simp only [Run.spec_pure]
  have href : ∀ f : Fault, f.code ≠ "PROTOCOL_VIOLATION" →
      D.PushPost (D.topology.depth c) q c ts s (.error f) s ∧ M.PushLedger J q c ts s (.error f) s :=
    fun f hf => ⟨PushPost.refuse hc hf, fun a ha => by cases ha⟩
  split
  · simp only [Run.spec_bind, Run.spec_throw]
    exact href _ (by simp [Fault.code])
  · simp only [Run.spec_bind, Run.spec_ofExcept]
    cases hj : wk.job D.job with
    | error f =>
      simp only
      refine href _ ?_
      simp only [Worker.job] at hj
      split at hj <;> cases hj
      simp [Fault.code]
    | ok j =>
      simp only
      split
      · simp only [Run.spec_bind, Run.spec_throw]
        exact href _ (by simp [Fault.fail, Fault.code])
      · simp only [Run.spec_bind]
        refine (Run.spec_forIn_prefix ts _ (fun pre s₁ => D.PushInv q c s pre s₁ ∧ M.PushAcc J q c s pre s₁)
          (fun e s₁ => D.PushPost (D.topology.depth c) q c ts s (.error e) s₁ ∧
            M.PushLedger J q c ts s (.error e) s₁)
          ⟨⟨hc, Keeps.refl _ _, NoNewStuck.refl _, fun _ => Quiet.refl s, by simp⟩,
            by simpa using Flowed.refl hs, fun _ => by simpa using DataFlowed.refl hs⟩ ?_).mono ?_
        · intro pre t post hlst s₁ h
          simp only [Run.spec_bind, Run.spec_pure]
          refine (ledger_pushStep hl hw hfirst hts hlst h.1 h.2).mono ?_
          rintro (e | _) s' h' <;> exact h'
        · rintro (e | _) s' h
          · exact h
          · obtain ⟨⟨hc', hk', hn', hq', hv'⟩, hA⟩ := h
            exact ⟨⟨hc', hk', trivial, hq', fun _ _ => ⟨hv', hn'⟩⟩, fun _ _ => hA⟩

theorem ledger_transmit (hw : D.Wired s) (hc : D.Consistent s) (hs : M.Staged J s) {q : Nat} {d : Delivery}
    (hj : d.job = D.job) (ha : d.address = D.addresses.getD q "") (hq : q < D.addresses.length)
    (hfirst : DataFirst d.tuples) (hts : D.Admissible s q d.stream d.tuples) :
    Run.Spec (transmit deliver d) s fun r s' =>
      D.PushPost (D.topology.depth d.stream) q d.stream d.tuples s r s' ∧
        M.PushLedger J q d.stream d.tuples s r s' := by
  obtain ⟨again, hlk⟩ := hw.link
  rw [transmit]
  simp only [Run.spec_bind, Run.spec_get]
  rw [hlk]
  simp only [Run.spec_bind, Run.spec_begin, Run.spec_get]
  -- the hand-over is only recorded
  have hn : D.Neutral s { s with handovers := s.handovers ++ [d] } := neutral_of_workers rfl rfl
  have hj₁ : ∀ w, ({ s with handovers := s.handovers ++ [d] } : World).job? ⟨w, D.job⟩ = s.job? ⟨w, D.job⟩ :=
    fun _ => rfl
  have hw₁ := hw.of_fixedOf hn.fixed
  rw [ha, hw₁.address q hq, hj]
  simp only [Run.spec_bind]
  refine (ledger_push hl hw₁ (hn.consistent hc) (hs.of_job? hj₁) hfirst (hts.of_neutral hn)).mono
    fun r s₂ h => ?_
  obtain ⟨hp, hL⟩ := h
  rcases r with e | _
  · exact ⟨hp.of_neutral hn, fun a ha => by cases ha⟩
  · have hA := (hL () rfl).of_job?_left hj₁
    have hends : ∀ t ∈ d.tuples.filter (·.endOfStream), t.endOfStream = true := fun t ht =>
      (List.mem_filter.mp ht).2
    have hsub : ∀ t ∈ d.tuples.filter (·.endOfStream), t ∈ d.tuples := fun t ht => (List.mem_filter.mp ht).1
    simp only
    split
    · rename_i hrep
      -- pushed again only when some end of stream went
      have hne : ¬∀ t ∈ d.tuples, t.endOfStream = false := fun hall => by
        have hnil : d.tuples.filter (·.endOfStream) = [] :=
          List.filter_eq_nil_iff.mpr fun t ht => by simp [hall t ht]
        simp [hnil] at hrep
      refine (ledger_push hl (hw₁.of_fixedOf hp.2.1.fixed) hp.1 hA.1.2.1 (DataFirst.of_eos hends)
        (((hts.of_neutral hn).sub hsub).of_keeps hp.2.1 hends)).mono fun r s₃ h' =>
          ⟨(hp.again hsub h'.1).of_neutral hn, fun a ha => ⟨?_, fun hall => absurd hall hne⟩⟩
      have hF := (h'.2 a ha).1
      rw [pushValue_of_eos hends] at hF
      simpa using hA.1.trans hF ((hn.keeps 0).trans (hp.2.1.mono (Nat.zero_le _)))
        (h'.1.2.1.mono (Nat.zero_le _)) fun _ => map_zero _
    · exact ⟨hp.of_neutral hn, fun _ _ => hA⟩

/-- A tuple sent from worker `w` to its `k`-th peer adds, once handed over, what its data amounts
to there: the sender's ledger moves what it hands over to the peer. -/
theorem ledger_sendTo (hw : D.Wired s) (hc : D.Consistent s) (hs : M.Staged J s) {w k : Nat} {c : String}
    {dc : BoltDecl} (hdc : D.topology.bolts.lookup c = some dc) (hk : k + 1 < D.addresses.length) {t : Tuple}
    (hsrc : t.source ∈ D.idsAt s w dc.input) (hdata : t.endOfStream = false → D.NotVoter s t.source)
    (heos : t.endOfStream = true → D.ClosedFeeder s dc.input t.source) :
    Run.Spec (sendTo deliver ⟨w, D.job⟩ c k t) s fun r s' =>
      D.PushPost (D.topology.depth dc.input) (Job.peerWorker w k) c [t] s r s' ∧
        M.PushLedger J (Job.peerWorker w k) c [t] s r s' := by
  rw [sendTo, Run.spec_bind, Run.spec_router]
  intro j hj r hr
  have hR : s.routerAt D.job w c = some r := by rw [World.routerAt_of_job? hj]; exact hr
  have hrw := hw.routerWired hR
  have hks : k < r.senders.length := by have := hrw.peers; omega
  obtain ⟨S, hS⟩ : ∃ S, r.senders[k]? = some S := ⟨_, List.getElem?_eq_getElem hks⟩
  have hget : r.senders.getD k default = S := by simp [List.getD_eq_getElem?_getD, hS]
  have hok := hc.held w c r hR k S hS
  obtain ⟨haddr, hjob, hstream, -⟩ := hrw.sender k S hS
  have hq : Job.peerWorker w k < D.addresses.length := Job.peerWorker_lt (hw.lt_of_job? hj) hk
  set s₁ := s.updJob ⟨w, D.job⟩ (·.setRouter c { r with senders := r.senders.set k (S.send t).2 }) with hs₁_def
  have hc₁ := hc.send hR hS (t := t) fun hd => ⟨fun i b hb _ => hdata hd _ i b hb, dc, hdc, hsrc⟩
  have hk₁ : D.Keeps (D.topology.depth dc.input) s s₁ :=
    Keeps.setRouter hw (Keeps.refl _ _) hR (Router.fixed_set_sender hS (Sender.fixed_send S t))
      fun h => absurd (hw.valid.depth_input c dc hdc) (by omega)
  have hq₁ : D.Quiet s s₁ := quiet_setRouter
  have hw₁ := hw.of_fixedOf hk₁.fixed
  have hs₁ : M.Staged J s₁ := hs.setRouter c _
  have hp₁ : D.PhaseData s s₁ := PhaseData.updJob fun _ => rfl
  have hheld : ∀ x ∈ S.held, D.DataAdm s (Job.peerWorker w k) c x := fun x hx => by
    obtain ⟨hxd, ⟨d, hd, hids⟩, hnv⟩ := hok.2 x hx
    exact ⟨hxd, ⟨d, hd, hw.mem_feederIds_of_idsAt hids⟩, hnv⟩
  -- the ledger: what the sender hands over comes out of what it held with the tuple
  have hL₁ : M.ledger J s₁ + M.pushValue J c (Job.peerWorker w k) (Sender.carried (S.send t).1) =
      M.ledger J s + M.pushValue J c (Job.peerWorker w k) [t] := by
    have hset := ledger_setRouter hw hR { r with senders := r.senders.set k (S.send t).2 } (M := M) (J := J)
    have hsl := sendersLedger_set M J c w hS (S.send t).2
    rw [← pushValue_of_data fun x hx => (hok.2 x hx).1,
      ← pushValue_of_data (data_send_held hok.1 (fun x hx => (hok.2 x hx).1))] at hsl
    have hpv := pushValue_send (M := M) (J := J) (c := c) (q := Job.peerWorker w k) hok.1 t
    refine add_right_cancel (b := M.sendersLedger J c w r.senders +
      M.pushValue J c (Job.peerWorker w k) (S.send t).2.held) ?_
    calc _ = (M.ledger J s₁ + M.sendersLedger J c w r.senders) +
          (M.pushValue J c (Job.peerWorker w k) (Sender.carried (S.send t).1) +
            M.pushValue J c (Job.peerWorker w k) (S.send t).2.held) := by abel
      _ = M.ledger J s + M.pushValue J c (Job.peerWorker w k) [t] +
          (M.sendersLedger J c w (r.senders.set k (S.send t).2) + M.pushValue J c (Job.peerWorker w k) S.held) := by
        rw [hset, hpv]
        abel
      _ = _ := by rw [hsl]
  simp only [hget, Run.spec_bind, Run.spec_setRouter]
  rcases hsend : (S.send t).1 with _ | dv
  · -- held back: only data is
    have ht : t.endOfStream = false := by
      cases he : t.endOfStream
      · rfl
      · have := Sender.carried_send_of_endOfStream hok.1 he
        rw [hsend] at this
        simp [Sender.carried] at this
    have hD : M.DataFlowed J s (M.pushValue J c (Job.peerWorker w k) [t]) s₁ := by
      refine ⟨?_, hs₁, hp₁⟩
      rw [hsend] at hL₁
      simpa [Sender.carried] using hL₁
    refine ⟨⟨hc₁, hk₁, trivial, fun _ => hq₁, fun _ _ => ⟨fun x hx he => ?_, NoNewStuck.of_quiet hq₁ hk₁⟩⟩,
      fun _ _ => ⟨hD.flowed hq₁, fun _ => hD⟩⟩
    rw [List.mem_singleton.mp hx, ht] at he
    cases he
  · obtain ⟨hda, hdj, hds, -⟩ := Sender.send_delivery hsend
    have hmem : ∀ x ∈ dv.tuples, x ∈ S.held ∨ x = t := fun x hx =>
      Sender.mem_carried_send (by rw [hsend]; exact hx)
    -- an end of stream goes with everything held before it
    have hcar : t.endOfStream = true → dv.tuples = S.held ++ [t] := fun he => by
      have h := Sender.carried_send_of_endOfStream hok.1 he
      rw [hsend] at h
      exact h
    -- what goes may reach the stream's executors on that peer
    have hadm : D.Admissible s₁ (Job.peerWorker w k) c dv.tuples := fun x hx => by
      rcases hmem x hx with hx | rfl
      · exact ⟨fun _ => (hheld x hx).of_quiet hq₁, fun he => by simp [(hok.2 x hx).1] at he⟩
      · refine ⟨fun hd => DataAdm.of_quiet hq₁ ⟨hd, ⟨dc, hdc, hw.mem_feederIds_of_idsAt hsrc⟩,
          fun i b hb _ => hdata hd _ i b hb⟩, fun he => ⟨⟨dc, hdc, hq₁.closedFeeder (heos he)⟩, ?_⟩⟩
        refine hc.flushed_sent hw hR hsrc ?_
        rw [Sender.send_held_of_endOfStream S he]
        split
        · exact hok.1 ‹_›
        · rfl
    have hfirst : DataFirst dv.tuples := by
      cases he : t.endOfStream
      · refine DataFirst.of_data fun x hx => ?_
        rcases hmem x hx with hx | rfl
        · exact (hok.2 x hx).1
        · exact he
      · refine DataFirst.of_dropLast fun x hx => ?_
        rw [hcar he, List.dropLast_concat] at hx
        exact (hok.2 x hx).1
    have htr := ledger_transmit hl hw₁ hc₁ hs₁ (hdj.trans hjob) (hda.trans haddr) hq hfirst
      (hds.trans hstream ▸ hadm)
    rw [hds, hstream] at htr
    rw [hsend] at hL₁
    have hdep := hw.valid.depth_input c dc hdc
    have hb₁ : ∀ w' i, s₁.boltAt D.job w' i = s.boltAt D.job w' i := fun _ _ => World.boltAt_setRouter _ _
    refine htr.mono fun r s₂ h => ⟨h.1.of_sent hk₁ hq₁ (by omega) (fun x hx he => ?_) fun hall x hx => ?_,
      fun a ha => ?_⟩
    · rw [List.mem_singleton.mp hx] at he ⊢
      rw [hcar he]
      exact List.mem_append_right _ (List.mem_singleton_self t)
    · rcases hmem x hx with hx | rfl
      · exact (hok.2 x hx).1
      · exact hall x (List.mem_singleton_self x)
    · obtain ⟨hF, hD⟩ := h.2 a ha
      refine ⟨hF.of_before (by simpa [Sender.carried] using hL₁) hb₁ hp₁ h.1.2.1.fixed, fun hall => ?_⟩
      refine (hD fun x hx => ?_).of_before (by simpa [Sender.carried] using hL₁) hp₁ h.1.2.1.fixed
      rcases hmem x hx with hx | rfl
      · exact (hok.2 x hx).1
      · exact hall x (List.mem_singleton_self x)

/-- Data routed out of worker `w` on stream `c` adds what it amounts to from any worker: each slot
it goes to adds what it amounts to there. -/
theorem ledger_routeOut_data (hw : D.Wired s) (hc : D.Consistent s) (hs : M.Staged J s) {w : Nat} {c : String}
    {dc : BoltDecl} (hdc : D.topology.bolts.lookup c = some dc) {t : Tuple} (ht : t.endOfStream = false)
    (hsrc : t.source ∈ D.idsAt s w dc.input) (hnv : D.NotVoter s t.source) :
    Run.Spec (routeOut deliver ⟨w, D.job⟩ c t) s
      (M.DataLedger J (D.topology.depth dc.input) s (M.outValue J c t)) := by
  rw [routeOut]
  simp only [ht, Bool.false_eq_true, if_false]
  rw [Run.spec_bind, Run.spec_router]
  intro j hj r hr
  have hR : s.routerAt D.job w c = some r := by rw [World.routerAt_of_job? hj]; exact hr
  have hrw := hw.routerWired hR
  obtain ⟨d, hex⟩ := hw.routerExact hj (hs.jobs w j hj).nodes hr
  have hdep := hw.valid.depth_input c dc hdc
  simp only [Run.spec_bind, Run.spec_setRouter]
  have hn := neutral_setRouter hw hR (r.route_snd t).1 (r.route_snd t).2.1
  -- the invariant of the loop: a flow of data adding what the slots so far amount to
  refine (Run.spec_forIn_prefix _ _ (fun pre s₁ => D.DataPost (D.topology.depth dc.input) s (.ok ()) s₁ ∧
      M.DataFlowed J s ((pre.map (M.slotValue J c w r t)).sum) s₁)
      (fun e s₁ => M.DataLedger J (D.topology.depth dc.input) s (M.outValue J c t) (.error e : Except Fault Unit) s₁)
      ⟨DataPost.of_neutral hc hn (), dataFlowed_setRouter hw hs hR (r.route_snd t).2.1⟩ ?_).mono ?_
  · rintro pre sl post hlst s₁ ⟨⟨hc₁, hk₁, hq₁, -⟩, hL₁⟩
    have hw₁ := hw.of_fixedOf hk₁.fixed
    have hsrc₁ : t.source ∈ D.idsAt s₁ w dc.input := by rw [idsAt_of_fixedOf hk₁.fixed]; exact hsrc
    have hsum : ∀ δ, ((pre ++ [sl]).map (M.slotValue J c w r t)).sum = (pre.map (M.slotValue J c w r t)).sum + δ ↔
        M.slotValue J c w r t sl = δ := fun δ => by
      rw [List.map_append, List.sum_append, List.map_singleton, List.sum_singleton, add_right_inj]
    rcases hrw.route_slot t (hlst ▸ List.mem_append_right _ (List.mem_cons_self ..)) with ⟨i, rfl, hi⟩ | ⟨k, rfl, hk⟩
    · -- a local executor of the stream
      simp only [Run.spec_bind]
      obtain ⟨b, hb, hbn⟩ := hrw.locals i hi
      obtain ⟨b₁, hb₁, hfix, -⟩ := hk₁.boltAt_fwd hb
      have hbn₁ : b₁.node = c := (BoltExecutor.fixed_eq_iff.mp hfix).2.1.trans hbn
      have hadm : D.DataAdm s₁ w b₁.node t :=
        hbn₁ ▸ ⟨ht, ⟨dc, hdc, hw₁.mem_feederIds_of_idsAt hsrc₁⟩, fun i' b' hb' _ => hq₁.notVoter hnv w i' b' hb'⟩
      refine ((hl s₁ w _ b₁ t hw₁ hc₁ hL₁.2.1 hb₁).1 hadm).mono fun r' s₂ h => ?_
      rw [hbn₁] at h
      obtain ⟨⟨hc₂, hk₂, hq₂, hcl⟩, hok⟩ := h
      have hk₁₂ := hk₁.trans (hk₂.mono (by omega))
      rcases r' with e | _
      · exact ⟨⟨hc₂, hk₁₂, hq₁.trans hq₂, hcl⟩, fun a ha => by cases ha⟩
      · refine ⟨⟨hc₂, hk₁₂, hq₁.trans hq₂, trivial⟩, ?_⟩
        rw [(hsum _).mpr (slotValue_mine ..)]
        exact hL₁.trans (hok _ rfl) hk₂.fixed
    · -- a peer, through its sender
      simp only [Run.spec_bind]
      have hk' : k + 1 < D.addresses.length := by have := hrw.peers; omega
      refine (ledger_sendTo hl hw₁ hc₁ hL₁.2.1 hdc hk' hsrc₁ (fun _ => hq₁.notVoter hnv) (by simp [ht])).mono
        fun r' s₂ h => ?_
      obtain ⟨⟨hc₂, hk₂, hcl, hq₂, -⟩, hok⟩ := h
      have hq₁₂ := hq₁.trans (hq₂ (by simp [ht]))
      rcases r' with e | _
      · exact ⟨⟨hc₂, hk₁.trans hk₂, hq₁₂, hcl⟩, fun a ha => by cases ha⟩
      · refine ⟨⟨hc₂, hk₁.trans hk₂, hq₁₂, trivial⟩, ?_⟩
        have hD := (hok _ rfl).2 (by simp [ht])
        rw [pushValue_singleton, ht, if_neg Bool.false_ne_true] at hD
        rw [(hsum _).mpr (slotValue_peer ..)]
        exact hL₁.trans hD hk₂.fixed
  · intro r' s' h
    rcases r' with e | _
    · exact h
    · obtain ⟨hp, hL⟩ := h
      refine ⟨hp, fun _ _ => ?_⟩
      rwa [sum_route_slotValue hw.boltKeys hex ht] at hL

theorem ledger_routeOut_eos (hw : D.Wired s) (hc : D.Consistent s) (hs : M.Staged J s) {w : Nat} {c : String}
    {dc : BoltDecl} (hdc : D.topology.bolts.lookup c = some dc) {t : Tuple} (ht : t.endOfStream = true)
    (hsrc : t.source ∈ D.idsAt s w dc.input) (hcl : D.ClosedFeeder s dc.input t.source) :
    Run.Spec (routeOut deliver ⟨w, D.job⟩ c t) s
      (M.EosLedger J (D.topology.depth dc.input) s fun s' => D.VotedAt s' c t.source) := by
  rw [routeOut]
  simp only [ht, if_true]
  rw [Run.spec_bind, Run.spec_router]
  intro j hj r hr
  have hR : s.routerAt D.job w c = some r := by rw [World.routerAt_of_job? hj]; exact hr
  have hrw := hw.routerWired hR
  have hdep := hw.valid.depth_input c dc hdc
  have hwl : w < D.addresses.length := hw.lt_of_job? hj
  simp only [Run.spec_bind, Run.spec_setRouter]
  have hn := neutral_setRouter hw hR (r.route_snd (Tuple.eos t.source)).1 (r.route_snd (Tuple.eos t.source)).2.1
  have hL₀ := (dataFlowed_setRouter hw hs hR (r.route_snd (Tuple.eos t.source)).2.1 (M := M) (J := J)).flowed
    hn.quiet
  -- the invariant of the loop: the destinations reached so far have the vote, and a flow adding
  -- nothing
  refine (Run.spec_forIn_prefix _ _ (fun pre s₁ => D.Consistent s₁ ∧
      D.Keeps (D.topology.depth dc.input) s s₁ ∧ D.NoNewStuck s s₁ ∧
      (∀ i, Slot.mine i ∈ pre → ∃ b, s₁.boltAt D.job w (r.locals.getD i 0) = some b ∧
        t.source ∈ b.tally.voters) ∧
      (∀ k, Slot.peer k ∈ pre → D.Voted s₁ (Job.peerWorker w k) c t.source) ∧ M.Flowed J s 0 s₁)
      (fun e s₁ => M.EosLedger J (D.topology.depth dc.input) s (fun s' => D.VotedAt s' c t.source)
        (.error e : Except Fault Unit) s₁)
      ⟨hn.consistent hc, hn.keeps _, hn.noNewStuck, fun _ h => absurd h List.not_mem_nil,
        fun _ h => absurd h List.not_mem_nil, hL₀⟩ ?_).mono ?_
  · rintro pre sl post hl' s₁ ⟨hc₁, hk₁, hs₁, hvl, hvp, hL₁⟩
    have hw₁ := hw.of_fixedOf hk₁.fixed
    have hsrc₁ : t.source ∈ D.idsAt s₁ w dc.input := by rw [idsAt_of_fixedOf hk₁.fixed]; exact hsrc
    have hcl₁ := hk₁.closedFeeder hcl
    rcases hrw.route_slot _ (hl' ▸ List.mem_append_right _ (List.mem_cons_self ..)) with ⟨i, rfl, hi⟩ | ⟨k, rfl, hk⟩
    · -- a local executor of the stream: nothing of the source is held back towards its own worker
      simp only [Run.spec_bind]
      obtain ⟨b, hb, hbn⟩ := hrw.locals i hi
      obtain ⟨b₁, hb₁, hfix, -⟩ := hk₁.boltAt_fwd hb
      have hbn₁ : b₁.node = c := (BoltExecutor.fixed_eq_iff.mp hfix).2.1.trans hbn
      have hadm : D.EosAdm s₁ w b₁.node (Tuple.eos t.source).source :=
        hbn₁ ▸ ⟨⟨dc, hdc, hcl₁⟩, hc₁.flushed_home hw₁ hsrc₁ c⟩
      refine ((hl s₁ w _ b₁ _ hw₁ hc₁ hL₁.2.1 hb₁).2 rfl hadm).mono fun r' s₂ h => ?_
      obtain ⟨⟨hc₂, hk₂, hcl₂, hok⟩, hF⟩ := h
      have hk₁₂ := hk₁.trans (hk₂.mono (by rw [hbn₁]; omega))
      rcases r' with e | _
      · exact ⟨⟨hc₂, hk₁₂, hcl₂, fun a ha => by cases ha⟩, fun a ha => by cases ha⟩
      · obtain ⟨⟨b₂, hb₂, hu⟩, hs₂⟩ := hok _ rfl
        refine ⟨hc₂, hk₁₂, hs₁.trans hs₂, fun i' hi' => ?_, fun k hk => hk₂.voted (hvp k ?_), ?_⟩
        · rcases List.mem_append.mp hi' with hi' | hi'
          · obtain ⟨b', hb', hu'⟩ := hvl i' hi'
            obtain ⟨b'', hb'', -, hv⟩ := hk₂.boltAt_fwd hb'
            exact ⟨b'', hb'', hv.subset hu'⟩
          · obtain rfl : i' = i := by simpa using hi'
            exact ⟨b₂, hb₂, hu⟩
        · simpa using hk
        · simpa using hL₁.trans (hF _ rfl) (hk₁.mono (Nat.zero_le _)) (hk₂.mono (Nat.zero_le _))
            fun _ => map_zero _
    · -- a peer, through its sender
      simp only [Run.spec_bind]
      have hk' : k + 1 < D.addresses.length := by have := hrw.peers; omega
      have hsrc' : (Tuple.eos t.source).source ∈ D.idsAt s₁ w dc.input := hsrc₁
      refine (ledger_sendTo hl hw₁ hc₁ hL₁.2.1 hdc hk' hsrc' (fun h => by simp [Tuple.eos] at h)
        (fun _ => hcl₁)).mono fun r' s₂ h => ?_
      obtain ⟨⟨hc₂, hk₂, hcl₂, -, hok⟩, hA⟩ := h
      rcases r' with e | _
      · exact ⟨⟨hc₂, hk₁.trans hk₂, hcl₂, fun a ha => by cases ha⟩, fun a ha => by cases ha⟩
      · obtain ⟨hv, hs₂⟩ := hok _ rfl
        have hF := (hA _ rfl).1
        rw [pushValue_of_eos fun x hx => by rw [List.mem_singleton.mp hx]; rfl] at hF
        refine ⟨hc₂, hk₁.trans hk₂, hs₁.trans hs₂, fun i' hi' => ?_, fun k' hk'' => ?_, ?_⟩
        · obtain ⟨b', hb', hu'⟩ := hvl i' (by simpa using hi')
          obtain ⟨b'', hb'', -, hv'⟩ := hk₂.boltAt_fwd hb'
          exact ⟨b'', hb'', hv'.subset hu'⟩
        · rcases List.mem_append.mp hk'' with hk'' | hk''
          · exact hk₂.voted (hvp k' hk'')
          · obtain rfl : k' = k := by simpa using hk''
            exact hv (Tuple.eos t.source) (List.mem_singleton_self _) rfl
        · simpa using hL₁.trans hF (hk₁.mono (Nat.zero_le _)) (hk₂.mono (Nat.zero_le _)) fun _ => map_zero _
  · rintro (e | _) s' h
    · exact h
    · obtain ⟨hc', hk', hs', hvl, hvp, hL⟩ := h
      refine ⟨⟨hc', hk', trivial, fun _ _ => ⟨fun w' i' b' hb' hn' => ?_, hs'⟩⟩, fun _ _ => hL⟩
      have hall : ∀ sl ∈ r.everywhere, sl ∈ (r.route (Tuple.eos t.source)).1 := fun sl h => by
        rw [Router.route_of_endOfStream r rfl]
        exact h
      by_cases hww : w' = w
      · -- on the emitting worker: every local executor is a slot
        subst hww
        obtain ⟨b, hb, hfix, -⟩ := hk'.boltAt_back hb'
        have hbn : b.node = c := (BoltExecutor.fixed_eq_iff.mp hfix).2.1.symm.trans hn'
        obtain ⟨k, hk, hki⟩ := hrw.everyLocal i' b hb hbn
        obtain ⟨b'', hb'', hu⟩ := hvl k (hall _ (r.mem_everywhere.mpr (.inl ⟨k, rfl, hk⟩)))
        rw [hki, hb', Option.some.injEq] at hb''
        exact hb'' ▸ hu
      · -- on another worker: it is some peer
        have hw'l := (hw.of_fixedOf hk'.fixed).lt_of_boltAt hb'
        obtain ⟨k, hk, rfl⟩ := Job.exists_peerWorker hwl hw'l hww
        have hk' : k < r.senders.length := by have := hrw.peers; omega
        exact hvp k (hall _ (r.mem_everywhere.mpr (.inr ⟨k, rfl, hk'⟩))) i' b' hb' hn'

end Flows

end MapReduce

end Deployment

end Dataflow
