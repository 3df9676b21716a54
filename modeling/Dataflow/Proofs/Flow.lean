import Dataflow.Proofs.Updates
/-!
The flows of the network against the invariant of the end-of-stream protocol.

Every flow is specified by what it leaves: a flow of data keeps the invariant and what flows keep,
leaves the end-of-stream state as it was, and never ends in a protocol violation (`DataPost`); a
flow carrying an end of stream keeps the invariant and what flows keep, never ends in a protocol
violation, and when it ends normally has delivered its end of stream and left no executor newly
waiting (`EosPost`). Flows nest through delivery to bolt executors, so each flow is specified for
any delivery that keeps the protocol (`DeliverOk`), and delivery with a nesting bound is shown to be
such a delivery by induction on the bound.
-/
namespace Dataflow

/-! ### Routing facts -/

namespace Job

lemma peerWorker_ne (w k : Nat) : peerWorker w k ≠ w := by
  unfold peerWorker
  split <;> omega

lemma peerWorker_inj {w k k' : Nat} (h : peerWorker w k = peerWorker w k') : k = k' := by
  unfold peerWorker at h
  split at h <;> split at h <;> omega

lemma exists_peerWorker {w q workers : Nat} (hw : w < workers) (hq : q < workers) (hne : q ≠ w) :
    ∃ k < workers - 1, peerWorker w k = q := by
  by_cases hlt : q < w
  · exact ⟨q, by omega, by simp [peerWorker, hlt]⟩
  · refine ⟨q - 1, by omega, ?_⟩
    unfold peerWorker
    split <;> omega

lemma peerWorker_lt {w k n : Nat} (hw : w < n) (hk : k + 1 < n) : peerWorker w k < n := by
  unfold peerWorker
  split
  · exact Nat.lt_trans ‹k < w› hw
  · exact hk

end Job

namespace Router

variable (r : Router) (t : Tuple)

lemma route_snd : (r.route t).2.fixed = r.fixed ∧ (r.route t).2.senders = r.senders ∧
    (r.route t).2.locals = r.locals := by
  unfold route
  split
  · exact ⟨rfl, rfl, rfl⟩
  · split
    · exact ⟨rfl, rfl, rfl⟩
    · split <;> exact ⟨rfl, rfl, rfl⟩

lemma routeLocally_snd : (r.routeLocally t).2.fixed = r.fixed ∧ (r.routeLocally t).2.senders = r.senders := by
  unfold routeLocally
  split
  · exact ⟨rfl, rfl⟩
  · split
    · exact ⟨rfl, rfl⟩
    · split <;> exact ⟨rfl, rfl⟩

lemma partitionFor_lt (key : String) {n : Nat} (hn : 0 < n) : partitionFor key n < n := by
  unfold partitionFor
  rw [if_neg (by omega)]
  exact Nat.mod_lt _ hn

lemma mem_route {sl : Slot} (h : sl ∈ (r.route t).1) : sl ∈ r.slots ∨ sl ∈ r.everywhere := by
  unfold route at h
  split at h
  · exact .inr h
  · split at h
    · simp at h
    · rename_i hne
      have hpos : 0 < r.slots.length := List.length_pos_iff.mpr (by simpa using hne)
      split at h
      · rw [List.mem_singleton.mp h, List.getD_eq_getElem?_getD,
          List.getElem?_eq_getElem (partitionFor_lt _ hpos), Option.getD_some]
        exact .inl (List.getElem_mem _)
      · rw [List.mem_singleton.mp h, List.getD_eq_getElem?_getD,
          List.getElem?_eq_getElem (Nat.mod_lt _ hpos), Option.getD_some]
        exact .inl (List.getElem_mem _)
      · exact .inr h

lemma mem_routeLocally {sl : Slot} (h : sl ∈ (r.routeLocally t).1) : ∃ i, sl = .mine i ∧ i < r.locals.length := by
  unfold routeLocally at h
  split at h
  · obtain ⟨i, hi, rfl⟩ := List.mem_map.mp h
    exact ⟨i, rfl, List.mem_range.mp hi⟩
  · split at h
    · simp at h
    · rename_i hne
      have hpos : 0 < r.locals.length := List.length_pos_iff.mpr (by simpa using hne)
      split at h
      · exact ⟨_, List.mem_singleton.mp h, partitionFor_lt _ hpos⟩
      · exact ⟨_, List.mem_singleton.mp h, Nat.mod_lt _ hpos⟩
      · obtain ⟨i, hi, rfl⟩ := List.mem_map.mp h
        exact ⟨i, rfl, List.mem_range.mp hi⟩

lemma mem_everywhere {sl : Slot} : sl ∈ r.everywhere ↔
    (∃ i, sl = .mine i ∧ i < r.locals.length) ∨ (∃ k, sl = .peer k ∧ k < r.senders.length) := by
  simp only [everywhere, List.mem_append, List.mem_map, List.mem_range]
  constructor
  · rintro (⟨i, hi, rfl⟩ | ⟨k, hk, rfl⟩)
    · exact .inl ⟨i, rfl, hi⟩
    · exact .inr ⟨k, rfl, hk⟩
  · rintro (⟨i, rfl, hi⟩ | ⟨k, rfl, hk⟩)
    · exact .inl ⟨i, hi, rfl⟩
    · exact .inr ⟨k, hk, rfl⟩

end Router

namespace Deployment

variable {D : Deployment} {s : World}

lemma RouterWired.route_slot {w : Nat} {c : String} {r : Router} (hr : D.RouterWired s w c r) (t : Tuple)
    {sl : Slot} (h : sl ∈ (r.route t).1) :
    (∃ i, sl = .mine i ∧ i < r.locals.length) ∨ (∃ k, sl = .peer k ∧ k < r.senders.length) := by
  rcases r.mem_route t h with h | h
  · exact hr.slots sl h
  · exact r.mem_everywhere.mp h

section Ids

variable (hw : D.Wired s)
include hw

lemma Wired.eq_of_mem_idsAt {w w' : Nat} {n n' x : String} (hx : x ∈ D.idsAt s w n) (hx' : x ∈ D.idsAt s w' n') :
    w = w' := by
  rcases mem_idsAt.mp hx with ⟨i, b, hb, -, rfl⟩ | ⟨i, sp, hsp, -, rfl⟩ <;>
    rcases mem_idsAt.mp hx' with ⟨i', b', hb', -, he⟩ | ⟨i', sp', hsp', -, he⟩
  · exact (hw.distinct.bolts w i b w' i' b' hb hb' he.symm).1
  · exact absurd he.symm (hw.distinct.mixed w i b w' i' sp' hb hsp')
  · exact absurd he (hw.distinct.mixed w' i' b' w i sp hb' hsp)
  · exact (hw.distinct.spouts w i sp w' i' sp' hsp hsp' he.symm).1

lemma Wired.mem_feederIds_of_idsAt {w : Nat} {n x : String} (hx : x ∈ D.idsAt s w n) : x ∈ D.feederIds s n := by
  rcases mem_idsAt.mp hx with ⟨i, b, hb, hn, hid⟩ | ⟨i, sp, hsp, hn, hid⟩
  · exact hw.mem_feederIds.mpr (.inl ⟨w, i, b, hb, hn, hid⟩)
  · exact hw.mem_feederIds.mpr (.inr ⟨w, i, sp, hsp, hn, hid⟩)

variable (hc : D.Consistent s)
include hc

lemma Consistent.flushed_home {w : Nat} {n u : String} (hu : u ∈ D.idsAt s w n) (c : String) :
    D.Flushed s w c u := by
  intro w' r hr k S hS hq x hx hxu
  obtain ⟨-, ⟨d, -, hids⟩, -⟩ := (hc.held w' c r hr k S hS).2 x hx
  rw [hxu] at hids
  have := hw.eq_of_mem_idsAt hu hids
  subst this
  exact Job.peerWorker_ne _ _ hq

lemma Consistent.flushed_sent {w k : Nat} {c n u : String} {r : Router} {S' : Sender}
    (hR : s.routerAt D.job w c = some r) (hu : u ∈ D.idsAt s w n) (hS' : S'.held = []) :
    D.Flushed (s.updJob ⟨w, D.job⟩ (·.setRouter c { r with senders := r.senders.set k S' }))
      (Job.peerWorker w k) c u := by
  intro w' r' hr' k' S hS hq x hx hxu
  rw [World.routerAt_setRouter] at hr'
  split at hr'
  · -- the router changed: only its `k`-th sender goes to that peer, and it is empty
    rename_i h
    obtain ⟨rfl, -⟩ := h
    rw [hR, Option.map_some, Option.some.injEq] at hr'
    subst hr'
    obtain rfl := Job.peerWorker_inj hq
    rw [List.getElem?_set] at hS
    split at hS
    · split at hS
      · rw [Option.some.injEq] at hS
        subst hS
        rw [hS'] at hx
        exact List.not_mem_nil hx
      · cases hS
    · exact absurd rfl ‹¬k' = k'›
  · rename_i h
    obtain ⟨-, ⟨d, -, hids⟩, -⟩ := (hc.held w' c r' hr' k' S hS).2 x hx
    rw [hxu] at hids
    exact h ⟨(hw.eq_of_mem_idsAt hu hids).symm, rfl⟩

lemma Consistent.notVoter_of_bolt {q i : Nat} {b : BoltExecutor} (hb : s.boltAt D.job q i = some b)
    (hf : b.finalized = false) : D.NotVoter s b.id := by
  intro w i' d hd hx
  obtain ⟨dd, hdd, -⟩ := hw.bolt hd
  rcases hc.voters w i' d hd dd hdd b.id hx with ⟨w'', i'', f, hf', hfx, -, hfin⟩ | ⟨w'', i'', sp, hsp, hspx, -⟩
  · obtain ⟨rfl, rfl⟩ := hw.distinct.bolts q i b w'' i'' f hb hf' hfx.symm
    rw [hb, Option.some.injEq] at hf'
    subst hf'
    simp [hf] at hfin
  · exact hw.distinct.mixed q i b w'' i'' sp hb hsp hspx.symm

lemma Consistent.notVoter_of_spout {q i : Nat} {sp : SpoutExecutor} (hsp : s.spoutAt D.job q i = some sp)
    (hd : sp.done = false) : D.NotVoter s sp.id := by
  intro w i' d hdd hx
  obtain ⟨dd, hdl, -⟩ := hw.bolt hdd
  rcases hc.voters w i' d hdd dd hdl sp.id hx with ⟨w'', i'', f, hf', hfx, -⟩ | ⟨w'', i'', sp', hsp', hspx, -, hdone⟩
  · exact hw.distinct.mixed w'' i'' f q i sp hf' hsp hfx
  · obtain ⟨rfl, rfl⟩ := hw.distinct.spouts q i sp w'' i'' sp' hsp hsp' hspx.symm
    rw [hsp, Option.some.injEq] at hsp'
    subst hsp'
    simp [hd] at hdone

end Ids

/-! ### What flows leave -/

variable (D)

/-- What a flow of data leaves: the invariant, what flows started at depth `k` keep, the
end-of-stream state as it was, and no protocol violation. -/
def DataPost {α : Type} (k : Nat) (s : World) (r : Except Fault α) (s' : World) : Prop :=
  D.Consistent s' ∧ D.Keeps k s s' ∧ D.Quiet s s' ∧ Clean r

/-- What a flow carrying an end of stream leaves: the invariant, what flows started at depth `k`
keep, no protocol violation, and, when it ends normally, the end of stream delivered and no
executor newly waiting. -/
def EosPost {α : Type} (k : Nat) (s : World) (delivered : World → Prop) (r : Except Fault α) (s' : World) :
    Prop :=
  D.Consistent s' ∧ D.Keeps k s s' ∧ Clean r ∧ ∀ a, r = .ok a → delivered s' ∧ D.NoNewStuck s s'

/-- A delivery that keeps the protocol: data that may reach a bolt executor is a flow of data, and
an end of stream that may reach it is a flow that counts its vote there. -/
def DeliverOk (deliver : Deliver) : Prop :=
  ∀ s q i b t, D.Wired s → D.Consistent s → s.boltAt D.job q i = some b →
    (D.DataAdm s q b.node t →
      Run.Spec (deliver ⟨q, D.job⟩ i t) s (D.DataPost (D.topology.depth b.node) s)) ∧
    (t.endOfStream = true → D.EosAdm s q b.node t.source →
      Run.Spec (deliver ⟨q, D.job⟩ i t) s (D.EosPost (D.topology.depth b.node) s
        fun s' => ∃ b', s'.boltAt D.job q i = some b' ∧ t.source ∈ b'.tally.voters))

variable {D}

lemma DataPost.of_neutral {α : Type} {k : Nat} {s' : World} (hc : D.Consistent s) (hn : D.Neutral s s')
    (a : α) : D.DataPost k s (.ok a) s' :=
  ⟨hn.consistent hc, hn.keeps k, hn.quiet, trivial⟩

/-! ### Delivering from a peer -/

section Flows

variable {deliver : Deliver} (hd : D.DeliverOk deliver)
include hd

theorem spec_routeLocally_data (hw : D.Wired s) (hc : D.Consistent s) {q : Nat} {c : String} {t : Tuple}
    (ht : D.DataAdm s q c t) :
    Run.Spec (routeLocally deliver ⟨q, D.job⟩ c t) s (D.DataPost (D.topology.depth c) s) := by
  rw [routeLocally, Run.spec_bind, Run.spec_router]
  intro j hj r hr
  have hR : s.routerAt D.job q c = some r := by rw [World.routerAt_of_job? hj]; exact hr
  have hrw := hw.routerWired hR
  simp only [Run.spec_bind, Run.spec_setRouter]
  have hn := neutral_setRouter hw hR (r.routeLocally_snd t).1 (r.routeLocally_snd t).2
  refine (Run.spec_forIn_prefix _ _ (fun _ s₁ => D.DataPost (D.topology.depth c) s (.ok ()) s₁ ∧
      D.DataAdm s₁ q c t) (fun e s₁ => D.DataPost (D.topology.depth c) s (.error e : Except Fault Unit) s₁)
      ⟨DataPost.of_neutral hc hn (), ht.of_quiet hn.quiet⟩ ?_).mono ?_
  · rintro pre sl post hl s₁ ⟨⟨hc₁, hk₁, hq₁, -⟩, ht₁⟩
    obtain ⟨i, rfl, hi⟩ := r.mem_routeLocally t (hl ▸ List.mem_append_right _ (List.mem_cons_self ..))
    obtain ⟨b, hb, hbn⟩ := hrw.locals i hi
    obtain ⟨b₁, hb₁, hfix, -⟩ := hk₁.boltAt_fwd hb
    have hbn₁ : b₁.node = c := (BoltExecutor.fixed_eq_iff.mp hfix).2.1.trans hbn
    have hdel := (hd s₁ q _ b₁ t (hw.of_fixedOf hk₁.fixed) hc₁ hb₁).1 (hbn₁ ▸ ht₁)
    simp only [Run.spec_bind]
    refine hdel.mono fun r s₂ h => ?_
    rw [hbn₁] at h
    rcases r with e | _
    · exact ⟨h.1, hk₁.trans h.2.1, hq₁.trans h.2.2.1, h.2.2.2⟩
    · exact ⟨⟨h.1, hk₁.trans h.2.1, hq₁.trans h.2.2.1, trivial⟩, ht₁.of_quiet h.2.2.1⟩
  · intro r s' h
    rcases r with e | _
    · exact h
    · exact h.1

theorem spec_routeLocally_eos (hw : D.Wired s) (hc : D.Consistent s) {q : Nat} {c u : String}
    (ht : D.EosAdm s q c u) :
    Run.Spec (routeLocally deliver ⟨q, D.job⟩ c (Tuple.eos u)) s
      (D.EosPost (D.topology.depth c) s fun s' => D.Voted s' q c u) := by
  rw [routeLocally, Run.spec_bind, Run.spec_router]
  intro j hj r hr
  have hR : s.routerAt D.job q c = some r := by rw [World.routerAt_of_job? hj]; exact hr
  have hrw := hw.routerWired hR
  simp only [Run.spec_bind, Run.spec_setRouter]
  have hn := neutral_setRouter hw hR (r.routeLocally_snd (Tuple.eos u)).1 (r.routeLocally_snd (Tuple.eos u)).2
  -- the executors reached so far have the vote
  refine (Run.spec_forIn_prefix _ _ (fun pre s₁ => D.Consistent s₁ ∧ D.Keeps (D.topology.depth c) s s₁ ∧
      D.NoNewStuck s s₁ ∧ ∀ i, Slot.mine i ∈ pre →
        ∃ b, s₁.boltAt D.job q (r.locals.getD i 0) = some b ∧ u ∈ b.tally.voters)
      (fun e s₁ => D.EosPost (D.topology.depth c) s (fun s' => D.Voted s' q c u) (.error e : Except Fault Unit) s₁)
      ⟨hn.consistent hc, hn.keeps _, hn.noNewStuck, fun _ h => absurd h (List.not_mem_nil)⟩ ?_).mono ?_
  · rintro pre sl post hl s₁ ⟨hc₁, hk₁, hs₁, hv₁⟩
    obtain ⟨i, rfl, hi⟩ := r.mem_routeLocally _ (hl ▸ List.mem_append_right _ (List.mem_cons_self ..))
    obtain ⟨b, hb, hbn⟩ := hrw.locals i hi
    obtain ⟨b₁, hb₁, hfix, -⟩ := hk₁.boltAt_fwd hb
    have hbn₁ : b₁.node = c := (BoltExecutor.fixed_eq_iff.mp hfix).2.1.trans hbn
    have hdel := (hd s₁ q _ b₁ (Tuple.eos u) (hw.of_fixedOf hk₁.fixed) hc₁ hb₁).2 rfl
      (hbn₁ ▸ hk₁.eosAdm (Nat.le_refl _) ht)
    simp only [Run.spec_bind]
    refine hdel.mono fun r s₂ h => ?_
    rw [hbn₁] at h
    obtain ⟨hc₂, hk₂, hcl, hok⟩ := h
    rcases r with e | _
    · exact ⟨hc₂, hk₁.trans hk₂, hcl, fun a ha => by cases ha⟩
    · obtain ⟨⟨b₂, hb₂, hu⟩, hs₂⟩ := hok _ rfl
      refine ⟨hc₂, hk₁.trans hk₂, hs₁.trans hs₂, fun i' hi' => ?_⟩
      rcases List.mem_append.mp hi' with hi' | hi'
      · obtain ⟨b', hb', hu'⟩ := hv₁ i' hi'
        obtain ⟨b'', hb'', -, hv⟩ := hk₂.boltAt_fwd hb'
        exact ⟨b'', hb'', hv.subset hu'⟩
      · obtain rfl : i' = i := by simpa using hi'
        exact ⟨b₂, hb₂, hu⟩
  · intro r s' h
    rcases r with e | _
    · exact h
    · obtain ⟨hc', hk', hs', hv'⟩ := h
      refine ⟨hc', hk', trivial, fun _ _ => ⟨fun i' b' hb' hn' => ?_, hs'⟩⟩
      obtain ⟨b, hb, hfix, -⟩ := hk'.boltAt_back hb'
      have hbn : b.node = c := (BoltExecutor.fixed_eq_iff.mp hfix).2.1.symm.trans hn'
      obtain ⟨k, hk, hki⟩ := hrw.everyLocal i' b hb hbn
      have hmem : Slot.mine k ∈ (r.routeLocally (Tuple.eos u)).1 := by
        rw [Router.routeLocally_of_endOfStream r rfl]
        exact List.mem_map.mpr ⟨k, List.mem_range.mpr hk, rfl⟩
      obtain ⟨b'', hb'', hu⟩ := hv' k hmem
      rw [hki, hb', Option.some.injEq] at hb''
      exact hb'' ▸ hu

end Flows

lemma neutral_fail {p : Place} {ex : Option String} {e : Fault} (he : e.code ≠ "PROTOCOL_VIOLATION") :
    D.Neutral s (s.updJob p fun j => { j with context := j.context.fail ex e }) := by
  refine neutral_context (·.fail ex e) ?_
  intro _ r hr
  rcases JobContext.mem_errors_fail hr with hr | hr
  · exact .inl hr
  · exact .inr (hr ▸ he)

def DataFirst (ts : List Tuple) : Prop :=
  ∀ pre t post, ts = pre ++ t :: post → t.endOfStream = false → ∀ x ∈ pre, x.endOfStream = false

lemma DataFirst.of_dropLast {ts : List Tuple} (h : ∀ x ∈ ts.dropLast, x.endOfStream = false) : DataFirst ts := by
  intro pre t post hts ht x hx
  refine h x ?_
  rw [hts, List.dropLast_append_of_ne_nil (List.cons_ne_nil t post)]
  exact List.mem_append_left _ hx

lemma DataFirst.of_data {ts : List Tuple} (h : ∀ t ∈ ts, t.endOfStream = false) : DataFirst ts :=
  fun _ _ _ hts _ x hx => h x (hts ▸ List.mem_append_left _ hx)

lemma DataFirst.of_eos {ts : List Tuple} (h : ∀ t ∈ ts, t.endOfStream = true) : DataFirst ts := by
  intro pre t post hts ht
  rw [h t (hts ▸ List.mem_append_right _ List.mem_cons_self)] at ht
  cases ht

def Admissible (s : World) (q : Nat) (c : String) (ts : List Tuple) : Prop :=
  ∀ t ∈ ts, (t.endOfStream = false → D.DataAdm s q c t) ∧ (t.endOfStream = true → D.EosAdm s q c t.source)

lemma Admissible.of_neutral {s' : World} {q : Nat} {c : String} {ts : List Tuple} (h : D.Admissible s q c ts)
    (hn : D.Neutral s s') : D.Admissible s' q c ts := fun t ht =>
  ⟨fun hd => ((h t ht).1 hd).of_quiet hn.quiet, fun he => (hn.keeps _).eosAdm (Nat.le_refl _) ((h t ht).2 he)⟩

lemma Admissible.sub {q : Nat} {c : String} {ts ts' : List Tuple} (h : D.Admissible s q c ts)
    (hsub : ∀ t ∈ ts', t ∈ ts) : D.Admissible s q c ts' := fun t ht => h t (hsub t ht)

lemma Admissible.of_keeps {s' : World} {q : Nat} {c : String} {ts : List Tuple} (h : D.Admissible s q c ts)
    (hk : D.Keeps (D.topology.depth c) s s') (heos : ∀ t ∈ ts, t.endOfStream = true) :
    D.Admissible s' q c ts := fun t ht =>
  ⟨fun hd => absurd (heos t ht) (by simp [hd]), fun he => hk.eosAdm (Nat.le_refl _) ((h t ht).2 he)⟩

/-- What handing tuples over for stream `c` to worker `q` leaves: the invariant, what flows at
depth `k` keep, no protocol violation, the end-of-stream state as it was if only data went, and,
when all went well, every end of stream delivered and no executor newly waiting. -/
def PushPost (k q : Nat) (c : String) (ts : List Tuple) (s : World) (r : Except Fault Unit) (s' : World) :
    Prop :=
  D.Consistent s' ∧ D.Keeps k s s' ∧ Clean r ∧
    ((∀ t ∈ ts, t.endOfStream = false) → D.Quiet s s') ∧
    ∀ a, r = .ok a → (∀ t ∈ ts, t.endOfStream = true → D.Voted s' q c t.source) ∧ D.NoNewStuck s s'

variable {k q : Nat} {c : String} {ts : List Tuple}

lemma PushPost.refuse (hc : D.Consistent s) {f : Fault} (hf : f.code ≠ "PROTOCOL_VIOLATION") :
    D.PushPost k q c ts s (.error f) s :=
  ⟨hc, Keeps.refl _ _, hf, fun _ => Quiet.refl s, fun a ha => by cases ha⟩

lemma PushPost.of_sent {m : Nat} {s₁ s₂ : World} {ts' : List Tuple} {r : Except Fault Unit}
    (hk : D.Keeps m s s₁) (hq : D.Quiet s s₁) (hm : m ≤ k) (h : D.PushPost k q c ts s₁ r s₂)
    (hsub : ∀ t ∈ ts', t.endOfStream = true → t ∈ ts)
    (hdata : (∀ t ∈ ts', t.endOfStream = false) → ∀ t ∈ ts, t.endOfStream = false) :
    D.PushPost m q c ts' s r s₂ := by
  obtain ⟨hc', hk', hcl', hq', hok'⟩ := h
  refine ⟨hc', hk.trans (hk'.mono hm), hcl', fun hall => hq.trans (hq' (hdata hall)), fun a ha => ?_⟩
  obtain ⟨hv, hn⟩ := hok' a ha
  exact ⟨fun t ht he => hv t (hsub t ht he) he, (NoNewStuck.of_quiet hq hk).trans hn⟩

lemma PushPost.of_neutral {s₁ s₂ : World} {r : Except Fault Unit} (hn : D.Neutral s s₁)
    (h : D.PushPost k q c ts s₁ r s₂) : D.PushPost k q c ts s r s₂ :=
  h.of_sent (hn.keeps k) hn.quiet (Nat.le_refl k) (fun _ ht _ => ht) id

lemma PushPost.again {s₁ s₂ : World} {ts' : List Tuple} {r : Except Fault Unit}
    (h : D.PushPost k q c ts s (.ok ()) s₁) (hsub : ∀ t ∈ ts', t ∈ ts) (h' : D.PushPost k q c ts' s₁ r s₂) :
    D.PushPost k q c ts s r s₂ := by
  obtain ⟨-, hk, -, hq, hok⟩ := h
  obtain ⟨hv, hn⟩ := hok () rfl
  obtain ⟨hc', hk', hcl', hq', hok'⟩ := h'
  refine ⟨hc', hk.trans hk', hcl', fun hall => (hq hall).trans (hq' fun t ht => hall t (hsub t ht)), ?_⟩
  intro a ha
  exact ⟨fun t ht he => hk'.voted (hv t ht he), hn.trans (hok' a ha).2⟩

/-- After a prefix of the pushed tuples: the invariant, what flows at the stream's depth keep, no
executor newly waiting, the end-of-stream state as it was while only data came, and each end of
stream taken so far delivered. -/
def PushInv (q : Nat) (c : String) (s : World) (pre : List Tuple) (s' : World) : Prop :=
  D.Consistent s' ∧ D.Keeps (D.topology.depth c) s s' ∧ D.NoNewStuck s s' ∧
    ((∀ y ∈ pre, y.endOfStream = false) → D.Quiet s s') ∧
    ∀ y ∈ pre, y.endOfStream = true → D.Voted s' q c y.source

/-! ### Taking what a peer pushed -/

section Flows

variable {deliver : Deliver} (hd : D.DeliverOk deliver)
include hd

theorem spec_takeTuple_data (hw : D.Wired s) (hc : D.Consistent s) {q : Nat} {c : String} {t : Tuple}
    (ht : D.DataAdm s q c t) :
    Run.Spec (takeTuple deliver ⟨q, D.job⟩ c t) s (D.DataPost (D.topology.depth c) s) := by
  rw [takeTuple]
  simp only [ht.1, Bool.false_eq_true, if_false, Run.spec_bind, Run.spec_modifyContext, Run.spec_tryCatch]
  have hn : D.Neutral s (s.updJob ⟨q, D.job⟩ fun j => { j with context := j.context.countReceived c }) := by
    refine neutral_context (·.countReceived c) ?_
    intro _ r hr
    exact .inl hr
  refine (spec_routeLocally_data hd (hw.of_fixedOf hn.fixed) (hn.consistent hc) (ht.of_quiet hn.quiet)).mono
    fun r s' h => ?_
  rcases r with e | _
  · simp only [Run.spec_failJob, Run.spec_throw]
    have hf : D.Neutral s' (s'.updJob ⟨q, D.job⟩ fun j => { j with context := j.context.fail none e }) :=
      neutral_fail h.2.2.2
    exact ⟨hf.consistent h.1, (hn.keeps _).trans (h.2.1.trans (hf.keeps _)),
      hn.quiet.trans (h.2.2.1.trans hf.quiet), h.2.2.2⟩
  · exact ⟨h.1, (hn.keeps _).trans h.2.1, hn.quiet.trans h.2.2.1, trivial⟩

theorem spec_takeTuple_eos (hw : D.Wired s) (hc : D.Consistent s) {q : Nat} {c : String} {t : Tuple}
    (ht : t.endOfStream = true) (hadm : D.EosAdm s q c t.source) :
    Run.Spec (takeTuple deliver ⟨q, D.job⟩ c t) s
      (D.EosPost (D.topology.depth c) s fun s' => D.Voted s' q c t.source) := by
  rw [takeTuple]
  simp only [ht, if_true, Run.spec_bind, Run.spec_worker]
  intro wk hwk
  split
  · -- taken before: its vote is in already
    rename_i hseen
    refine ⟨hc, Keeps.refl _ _, trivial, fun _ _ => ⟨fun i b hb hn => ?_, NoNewStuck.refl _⟩⟩
    exact hc.seen q _ ((World.eosDelivered_iff hwk c t.source).mp hseen) i b hb hn
  · simp only [Run.spec_bind, Run.spec_tryCatch]
    refine (spec_routeLocally_eos hd hw hc hadm).mono fun r s' h => ?_
    obtain ⟨hc', hk', hcl, hok⟩ := h
    rcases r with e | _
    · simp only [Run.spec_failJob, Run.spec_throw]
      have hf : D.Neutral s' (s'.updJob ⟨q, D.job⟩ fun j => { j with context := j.context.fail none e }) :=
        neutral_fail hcl
      exact ⟨hf.consistent hc', hk'.trans (hf.keeps _), hcl, fun a ha => by cases ha⟩
    · obtain ⟨hv, hs⟩ := hok _ rfl
      simp only [Run.spec_modifyWorker]
      have hq : q < s'.workers.length := by
        rw [(hw.of_fixedOf hk'.fixed).workers, ← hw.workers]
        exact (List.getElem?_eq_some_iff.mp hwk).1
      exact ⟨hc'.markEos hq hv, hk'.markEos, trivial, fun _ _ =>
        ⟨Quiet.markEos.voted hv, fun w i b hb => hs w i b (by simpa using hb)⟩⟩

lemma PushInv.step (hw : D.Wired s) {q : Nat} {c : String} {ts pre post : List Tuple} {t : Tuple} {s₁ : World}
    (hfirst : DataFirst ts) (hts : D.Admissible s q c ts)
    (hl : ts = pre ++ t :: post) (h : D.PushInv q c s pre s₁) :
    Run.Spec (takeTuple deliver ⟨q, D.job⟩ c t) s₁ fun r s' => match r with
      | .ok _ => D.PushInv q c s (pre ++ [t]) s'
      | .error e => D.PushPost (D.topology.depth c) q c ts s (.error e) s' := by
  obtain ⟨hc₁, hk₁, hn₁, hq₁, hv₁⟩ := h
  have hw₁ : D.Wired s₁ := hw.of_fixedOf hk₁.fixed
  have htm : t ∈ ts := hl ▸ List.mem_append_right _ List.mem_cons_self
  cases ht : t.endOfStream with
  | false =>
    -- data: everything before it was data, so the end-of-stream state is still the first one
    have hq₁' := hq₁ (hfirst pre t post hl ht)
    refine (spec_takeTuple_data hd hw₁ hc₁ (((hts t htm).1 ht).of_quiet hq₁')).mono fun r s' h' => ?_
    obtain ⟨hc', hk', hq', hcl⟩ := h'
    rcases r with e | _
    · exact ⟨hc', hk₁.trans hk', hcl, fun _ => hq₁'.trans hq', fun a ha => by cases ha⟩
    · refine ⟨hc', hk₁.trans hk', hn₁.trans (NoNewStuck.of_quiet hq' hk'), fun _ => hq₁'.trans hq', ?_⟩
      intro y hy hye
      rcases List.mem_append.mp hy with hy | hy
      · exact hq'.voted (hv₁ y hy hye)
      · rw [List.mem_singleton.mp hy, ht] at hye
        cases hye
  | true =>
    refine (spec_takeTuple_eos hd hw₁ hc₁ ht (hk₁.eosAdm (Nat.le_refl _) ((hts t htm).2 ht))).mono fun r s' h' => ?_
    obtain ⟨hc', hk', hcl, hok⟩ := h'
    rcases r with e | _
    · exact ⟨hc', hk₁.trans hk', hcl, fun hall => absurd (hall t htm) (by simp [ht]), fun a ha => by cases ha⟩
    · obtain ⟨hvt, hn'⟩ := hok _ rfl
      refine ⟨hc', hk₁.trans hk', hn₁.trans hn', fun hall => absurd (hall t (by simp)) (by simp [ht]), ?_⟩
      intro y hy hye
      rcases List.mem_append.mp hy with hy | hy
      · exact hk'.voted (hv₁ y hy hye)
      · exact (List.mem_singleton.mp hy) ▸ hvt

theorem spec_push (hw : D.Wired s) (hc : D.Consistent s) {q : Nat} {c : String} {ts : List Tuple}
    (hfirst : DataFirst ts) (hts : D.Admissible s q c ts) :
    Run.Spec (push deliver q (some D.job) c ts) s (D.PushPost (D.topology.depth c) q c ts s) := by
  rw [push]
  simp only [Run.spec_bind, Run.spec_worker]
  intro wk hwk
  simp only [Run.spec_pure]
  split
  · simp only [Run.spec_bind, Run.spec_throw]
    exact PushPost.refuse hc (by simp [Fault.code])
  · simp only [Run.spec_bind, Run.spec_ofExcept]
    cases hj : wk.job D.job with
    | error f =>
      simp only
      refine PushPost.refuse hc ?_
      simp only [Worker.job] at hj
      split at hj <;> cases hj
      simp [Fault.code]
    | ok j =>
      simp only
      split
      · simp only [Run.spec_bind, Run.spec_throw]
        exact PushPost.refuse hc (by simp [Fault.fail, Fault.code])
      · simp only [Run.spec_bind]
        refine (Run.spec_forIn_prefix ts _ (D.PushInv q c s) (fun e => D.PushPost (D.topology.depth c) q c ts s (.error e))
          ⟨hc, Keeps.refl _ _, NoNewStuck.refl _, fun _ => Quiet.refl s, by simp⟩ ?_).mono ?_
        · intro pre t post hl s₁ h
          simp only [Run.spec_bind, Run.spec_pure]
          refine (h.step hd hw hfirst hts hl).mono ?_
          rintro (e | _) s' h' <;> exact h'
        · rintro (e | _) s' h
          · exact h
          · obtain ⟨hc', hk', hn', hq', hv'⟩ := h
            exact ⟨hc', hk', trivial, hq', fun _ _ => ⟨hv', hn'⟩⟩

/-- Handing tuples over to a worker of the job: the loopback link pushes them there, and may push
their ends of stream a second time. -/
theorem spec_transmit (hw : D.Wired s) (hc : D.Consistent s) {q : Nat} {d : Delivery} (hj : d.job = D.job)
    (ha : d.address = D.addresses.getD q "") (hq : q < D.addresses.length) (hfirst : DataFirst d.tuples)
    (hts : D.Admissible s q d.stream d.tuples) :
    Run.Spec (transmit deliver d) s (D.PushPost (D.topology.depth d.stream) q d.stream d.tuples s) := by
  obtain ⟨again, hl⟩ := hw.link
  rw [transmit]
  simp only [Run.spec_bind, Run.spec_get]
  rw [hl]
  simp only [Run.spec_bind, Run.spec_begin, Run.spec_get]
  -- the hand-over is only recorded
  have hn : D.Neutral s { s with handovers := s.handovers ++ [d] } := neutral_of_workers rfl rfl
  have hw₁ := hw.of_fixedOf hn.fixed
  rw [ha, hw₁.address q hq, hj]
  simp only [Run.spec_bind]
  refine (spec_push hd hw₁ (hn.consistent hc) hfirst (hts.of_neutral hn)).mono fun r s₂ h => ?_
  rcases r with e | _
  · exact h.of_neutral hn
  · have hends : ∀ t ∈ d.tuples.filter (·.endOfStream), t.endOfStream = true := fun t ht =>
      (List.mem_filter.mp ht).2
    have hsub : ∀ t ∈ d.tuples.filter (·.endOfStream), t ∈ d.tuples := fun t ht => (List.mem_filter.mp ht).1
    simp only
    split
    · refine (spec_push hd (hw₁.of_fixedOf h.2.1.fixed) h.1 (DataFirst.of_eos hends) ?_).mono
        fun r s₃ h' => (h.again hsub h').of_neutral hn
      exact ((hts.of_neutral hn).sub hsub).of_keeps h.2.1 hends
    · exact h.of_neutral hn

/-- A tuple sent from worker `w` to its `k`-th peer on stream `c`, from an executor of the stream's
input there: data from one that has voted nowhere, or the end of stream of a closed one. The
sender takes it, and what it hands over then may all reach the stream's executors on that peer. -/
theorem spec_sendTo (hw : D.Wired s) (hc : D.Consistent s) {w k : Nat} {c : String} {dc : BoltDecl}
    (hdc : D.topology.bolts.lookup c = some dc) (hk : k + 1 < D.addresses.length) {t : Tuple}
    (hsrc : t.source ∈ D.idsAt s w dc.input) (hdata : t.endOfStream = false → D.NotVoter s t.source)
    (heos : t.endOfStream = true → D.ClosedFeeder s dc.input t.source) :
    Run.Spec (sendTo deliver ⟨w, D.job⟩ c k t) s
      (D.PushPost (D.topology.depth dc.input) (Job.peerWorker w k) c [t] s) := by
  rw [sendTo, Run.spec_bind, Run.spec_router]
  intro j hj r hr
  have hR : s.routerAt D.job w c = some r := by rw [World.routerAt_of_job? hj]; exact hr
  have hrw := hw.routerWired hR
  have hks : k < r.senders.length := by have := hrw.peers; omega
  obtain ⟨S, hS⟩ : ∃ S, r.senders[k]? = some S := ⟨_, List.getElem?_eq_getElem hks⟩
  have hget : r.senders.getD k default = S := by simp [List.getD_eq_getElem?_getD, hS]
  have hok := hc.held w c r hR k S hS
  obtain ⟨haddr, hjob, hstream, -⟩ := hrw.sender k S hS
  have hq : Job.peerWorker w k < D.addresses.length := Job.peerWorker_lt (hw.lt_of_job? hj) hk
  -- the sender takes the tuple: this changes senders of the stream, one deeper than its input
  have hc₁ := hc.send hR hS (t := t) fun hd => ⟨fun i b hb _ => hdata hd _ i b hb, dc, hdc, hsrc⟩
  have hk₁ : D.Keeps (D.topology.depth dc.input) s
      (s.updJob ⟨w, D.job⟩ (·.setRouter c { r with senders := r.senders.set k (S.send t).2 })) :=
    Keeps.setRouter hw (Keeps.refl _ _) hR (Router.fixed_set_sender hS (Sender.fixed_send S t))
      fun h => absurd (hw.valid.depth_input c dc hdc) (by omega)
  have hq₁ : D.Quiet s (s.updJob ⟨w, D.job⟩ (·.setRouter c { r with senders := r.senders.set k (S.send t).2 })) :=
    quiet_setRouter
  have hw₁ := hw.of_fixedOf hk₁.fixed
  -- what the sender held is data of executors on `w` that have not voted on that peer
  have hheld : ∀ x ∈ S.held, D.DataAdm s (Job.peerWorker w k) c x := fun x hx => by
    obtain ⟨hxd, ⟨d, hd, hids⟩, hnv⟩ := hok.2 x hx
    exact ⟨hxd, ⟨d, hd, hw.mem_feederIds_of_idsAt hids⟩, hnv⟩
  simp only [hget, Run.spec_bind, Run.spec_setRouter]
  rcases hsend : (S.send t).1 with _ | dv
  · -- held back: only data is
    have ht : t.endOfStream = false := by
      cases he : t.endOfStream
      · rfl
      · have := Sender.carried_send_of_endOfStream hok.1 he
        rw [hsend] at this
        simp [Sender.carried] at this
    refine ⟨hc₁, hk₁, trivial, fun _ => hq₁, fun _ _ => ⟨fun x hx he => ?_, NoNewStuck.of_quiet hq₁ hk₁⟩⟩
    rw [List.mem_singleton.mp hx, ht] at he
    cases he
  · obtain ⟨hda, hdj, hds, -⟩ := Sender.send_delivery hsend
    have hmem : ∀ x ∈ dv.tuples, x ∈ S.held ∨ x = t := fun x hx =>
      Sender.mem_carried_send (by rw [hsend]; exact hx)
    -- an end of stream goes with everything held before it
    have hcar : t.endOfStream = true → dv.tuples = S.held ++ [t] := fun he => by
      have h := Sender.carried_send_of_endOfStream hok.1 he
      rw [hsend] at h
      exact h
    -- what goes may reach the stream's executors on that peer
    have hadm : D.Admissible _ (Job.peerWorker w k) c dv.tuples := fun x hx => by
      rcases hmem x hx with hx | rfl
      · exact ⟨fun _ => (hheld x hx).of_quiet hq₁, fun he => by simp [(hok.2 x hx).1] at he⟩
      · refine ⟨fun hd => DataAdm.of_quiet hq₁ ⟨hd, ⟨dc, hdc, hw.mem_feederIds_of_idsAt hsrc⟩,
          fun i b hb _ => hdata hd _ i b hb⟩, fun he => ⟨⟨dc, hdc, hq₁.closedFeeder (heos he)⟩, ?_⟩⟩
        refine hc.flushed_sent hw hR hsrc ?_
        rw [Sender.send_held_of_endOfStream S he]
        split
        · exact hok.1 ‹_›
        · rfl
    have hfirst : DataFirst dv.tuples := by
      cases he : t.endOfStream
      · refine DataFirst.of_data fun x hx => ?_
        rcases hmem x hx with hx | rfl
        · exact (hok.2 x hx).1
        · exact he
      · refine DataFirst.of_dropLast fun x hx => ?_
        rw [hcar he, List.dropLast_concat] at hx
        exact (hok.2 x hx).1
    have htr := spec_transmit hd hw₁ hc₁ (hdj.trans hjob) (hda.trans haddr) hq hfirst (hds.trans hstream ▸ hadm)
    rw [hds, hstream] at htr
    have hdep := hw.valid.depth_input c dc hdc
    refine htr.mono fun r s₂ h => h.of_sent hk₁ hq₁ (by omega) (fun x hx he => ?_) fun hall x hx => ?_
    · rw [List.mem_singleton.mp hx] at he ⊢
      rw [hcar he]
      exact List.mem_append_right _ (List.mem_singleton_self t)
    · rcases hmem x hx with hx | rfl
      · exact (hok.2 x hx).1
      · exact hall x (List.mem_singleton_self x)
/-- Data routed out of worker `w` on stream `c`, from an executor of the stream's input there that
has voted nowhere, reaches only executors it may reach. -/
theorem spec_routeOut_data (hw : D.Wired s) (hc : D.Consistent s) {w : Nat} {c : String} {dc : BoltDecl}
    (hdc : D.topology.bolts.lookup c = some dc) {t : Tuple} (ht : t.endOfStream = false)
    (hsrc : t.source ∈ D.idsAt s w dc.input) (hnv : D.NotVoter s t.source) :
    Run.Spec (routeOut deliver ⟨w, D.job⟩ c t) s (D.DataPost (D.topology.depth dc.input) s) := by
  rw [routeOut]
  simp only [ht, Bool.false_eq_true, if_false]
  rw [Run.spec_bind, Run.spec_router]
  intro j hj r hr
  have hR : s.routerAt D.job w c = some r := by rw [World.routerAt_of_job? hj]; exact hr
  have hrw := hw.routerWired hR
  have hdep := hw.valid.depth_input c dc hdc
  simp only [Run.spec_bind, Run.spec_setRouter]
  have hn := neutral_setRouter hw hR (r.route_snd t).1 (r.route_snd t).2.1
  -- the invariant of the loop: a flow of data so far
  refine (Run.spec_forIn_prefix _ _ (fun _ s₁ => D.DataPost (D.topology.depth dc.input) s (.ok ()) s₁)
      (fun e s₁ => D.DataPost (D.topology.depth dc.input) s (.error e : Except Fault Unit) s₁)
      (DataPost.of_neutral hc hn ()) ?_).mono ?_
  · rintro pre sl post hl s₁ ⟨hc₁, hk₁, hq₁, -⟩
    have hw₁ := hw.of_fixedOf hk₁.fixed
    have hsrc₁ : t.source ∈ D.idsAt s₁ w dc.input := by rw [idsAt_of_fixedOf hk₁.fixed]; exact hsrc
    rcases hrw.route_slot t (hl ▸ List.mem_append_right _ (List.mem_cons_self ..)) with ⟨i, rfl, hi⟩ | ⟨k, rfl, hk⟩
    · -- a local executor of the stream
      simp only [Run.spec_bind]
      obtain ⟨b, hb, hbn⟩ := hrw.locals i hi
      obtain ⟨b₁, hb₁, hfix, -⟩ := hk₁.boltAt_fwd hb
      have hbn₁ : b₁.node = c := (BoltExecutor.fixed_eq_iff.mp hfix).2.1.trans hbn
      have hadm : D.DataAdm s₁ w b₁.node t :=
        hbn₁ ▸ ⟨ht, ⟨dc, hdc, hw₁.mem_feederIds_of_idsAt hsrc₁⟩, fun i' b' hb' _ => hq₁.notVoter hnv w i' b' hb'⟩
      refine ((hd s₁ w _ b₁ t hw₁ hc₁ hb₁).1 hadm).mono fun r s₂ h => ?_
      rw [hbn₁] at h
      obtain ⟨hc₂, hk₂, hq₂, hcl⟩ := h
      have hk₁₂ := hk₁.trans (hk₂.mono (by omega))
      rcases r with e | _
      · exact ⟨hc₂, hk₁₂, hq₁.trans hq₂, hcl⟩
      · exact ⟨hc₂, hk₁₂, hq₁.trans hq₂, trivial⟩
    · -- a peer, through its sender
      simp only [Run.spec_bind]
      have hk' : k + 1 < D.addresses.length := by have := hrw.peers; omega
      refine (spec_sendTo hd hw₁ hc₁ hdc hk' hsrc₁ (fun _ => hq₁.notVoter hnv) (by simp [ht])).mono
        fun r s₂ h => ?_
      obtain ⟨hc₂, hk₂, hcl, hq₂, -⟩ := h
      have hq₁₂ := hq₁.trans (hq₂ (by simp [ht]))
      rcases r with e | _
      · exact ⟨hc₂, hk₁.trans hk₂, hq₁₂, hcl⟩
      · exact ⟨hc₂, hk₁.trans hk₂, hq₁₂, trivial⟩
  · rintro (e | _) s' h
    · exact h
    · exact h

/-- The end of stream of a closed executor of stream `c`'s input on worker `w`, routed out of `w`,
reaches every executor of the stream on every worker. -/
theorem spec_routeOut_eos (hw : D.Wired s) (hc : D.Consistent s) {w : Nat} {c : String} {dc : BoltDecl}
    (hdc : D.topology.bolts.lookup c = some dc) {t : Tuple} (ht : t.endOfStream = true)
    (hsrc : t.source ∈ D.idsAt s w dc.input) (hcl : D.ClosedFeeder s dc.input t.source) :
    Run.Spec (routeOut deliver ⟨w, D.job⟩ c t) s
      (D.EosPost (D.topology.depth dc.input) s fun s' => D.VotedAt s' c t.source) := by
  rw [routeOut]
  simp only [ht, if_true]
  rw [Run.spec_bind, Run.spec_router]
  intro j hj r hr
  have hR : s.routerAt D.job w c = some r := by rw [World.routerAt_of_job? hj]; exact hr
  have hrw := hw.routerWired hR
  have hdep := hw.valid.depth_input c dc hdc
  have hwl : w < D.addresses.length := hw.lt_of_job? hj
  simp only [Run.spec_bind, Run.spec_setRouter]
  have hn := neutral_setRouter hw hR (r.route_snd (Tuple.eos t.source)).1 (r.route_snd (Tuple.eos t.source)).2.1
  -- the invariant of the loop: the destinations reached so far have the vote
  refine (Run.spec_forIn_prefix _ _ (fun pre s₁ => D.Consistent s₁ ∧
      D.Keeps (D.topology.depth dc.input) s s₁ ∧ D.NoNewStuck s s₁ ∧
      (∀ i, Slot.mine i ∈ pre → ∃ b, s₁.boltAt D.job w (r.locals.getD i 0) = some b ∧
        t.source ∈ b.tally.voters) ∧
      ∀ k, Slot.peer k ∈ pre → D.Voted s₁ (Job.peerWorker w k) c t.source)
      (fun e s₁ => D.EosPost (D.topology.depth dc.input) s (fun s' => D.VotedAt s' c t.source)
        (.error e : Except Fault Unit) s₁)
      ⟨hn.consistent hc, hn.keeps _, hn.noNewStuck, fun _ h => absurd h List.not_mem_nil,
        fun _ h => absurd h List.not_mem_nil⟩ ?_).mono ?_
  · rintro pre sl post hl s₁ ⟨hc₁, hk₁, hs₁, hvl, hvp⟩
    have hw₁ := hw.of_fixedOf hk₁.fixed
    have hsrc₁ : t.source ∈ D.idsAt s₁ w dc.input := by rw [idsAt_of_fixedOf hk₁.fixed]; exact hsrc
    have hcl₁ := hk₁.closedFeeder hcl
    rcases hrw.route_slot _ (hl ▸ List.mem_append_right _ (List.mem_cons_self ..)) with ⟨i, rfl, hi⟩ | ⟨k, rfl, hk⟩
    · -- a local executor of the stream: nothing of the source is held back towards its own worker
      simp only [Run.spec_bind]
      obtain ⟨b, hb, hbn⟩ := hrw.locals i hi
      obtain ⟨b₁, hb₁, hfix, -⟩ := hk₁.boltAt_fwd hb
      have hbn₁ : b₁.node = c := (BoltExecutor.fixed_eq_iff.mp hfix).2.1.trans hbn
      have hadm : D.EosAdm s₁ w b₁.node (Tuple.eos t.source).source :=
        hbn₁ ▸ ⟨⟨dc, hdc, hcl₁⟩, hc₁.flushed_home hw₁ hsrc₁ c⟩
      refine ((hd s₁ w _ b₁ _ hw₁ hc₁ hb₁).2 rfl hadm).mono fun r s₂ h => ?_
      obtain ⟨hc₂, hk₂, hcl₂, hok⟩ := h
      have hk₁₂ := hk₁.trans (hk₂.mono (by rw [hbn₁]; omega))
      rcases r with e | _
      · exact ⟨hc₂, hk₁₂, hcl₂, fun a ha => by cases ha⟩
      · obtain ⟨⟨b₂, hb₂, hu⟩, hs₂⟩ := hok _ rfl
        refine ⟨hc₂, hk₁₂, hs₁.trans hs₂, fun i' hi' => ?_, fun k hk => hk₂.voted (hvp k ?_)⟩
        · rcases List.mem_append.mp hi' with hi' | hi'
          · obtain ⟨b', hb', hu'⟩ := hvl i' hi'
            obtain ⟨b'', hb'', -, hv⟩ := hk₂.boltAt_fwd hb'
            exact ⟨b'', hb'', hv.subset hu'⟩
          · obtain rfl : i' = i := by simpa using hi'
            exact ⟨b₂, hb₂, hu⟩
        · simpa using hk
    · -- a peer, through its sender
      simp only [Run.spec_bind]
      have hk' : k + 1 < D.addresses.length := by have := hrw.peers; omega
      have hsrc' : (Tuple.eos t.source).source ∈ D.idsAt s₁ w dc.input := hsrc₁
      refine (spec_sendTo hd hw₁ hc₁ hdc hk' hsrc' (fun h => by simp [Tuple.eos] at h) (fun _ => hcl₁)).mono
        fun r s₂ h => ?_
      obtain ⟨hc₂, hk₂, hcl₂, -, hok⟩ := h
      rcases r with e | _
      · exact ⟨hc₂, hk₁.trans hk₂, hcl₂, fun a ha => by cases ha⟩
      · obtain ⟨hv, hs₂⟩ := hok _ rfl
        refine ⟨hc₂, hk₁.trans hk₂, hs₁.trans hs₂, fun i' hi' => ?_, fun k' hk'' => ?_⟩
        · obtain ⟨b', hb', hu'⟩ := hvl i' (by simpa using hi')
          obtain ⟨b'', hb'', -, hv'⟩ := hk₂.boltAt_fwd hb'
          exact ⟨b'', hb'', hv'.subset hu'⟩
        · rcases List.mem_append.mp hk'' with hk'' | hk''
          · exact hk₂.voted (hvp k' hk'')
          · obtain rfl : k' = k := by simpa using hk''
            exact hv (Tuple.eos t.source) (List.mem_singleton_self _) rfl
  · rintro (e | _) s' h
    · exact h
    · obtain ⟨hc', hk', hs', hvl, hvp⟩ := h
      refine ⟨hc', hk', trivial, fun _ _ => ⟨fun w' i' b' hb' hn' => ?_, hs'⟩⟩
      have hall : ∀ sl ∈ r.everywhere, sl ∈ (r.route (Tuple.eos t.source)).1 := fun sl h => by
        rw [Router.route_of_endOfStream r rfl]
        exact h
      by_cases hww : w' = w
      · -- on the emitting worker: every local executor is a slot
        subst hww
        obtain ⟨b, hb, hfix, -⟩ := hk'.boltAt_back hb'
        have hbn : b.node = c := (BoltExecutor.fixed_eq_iff.mp hfix).2.1.symm.trans hn'
        obtain ⟨k, hk, hki⟩ := hrw.everyLocal i' b hb hbn
        obtain ⟨b'', hb'', hu⟩ := hvl k (hall _ (r.mem_everywhere.mpr (.inl ⟨k, rfl, hk⟩)))
        rw [hki, hb', Option.some.injEq] at hb''
        exact hb'' ▸ hu
      · -- on another worker: it is some peer
        have hw'l := (hw.of_fixedOf hk'.fixed).lt_of_boltAt hb'
        obtain ⟨k, hk, rfl⟩ := Job.exists_peerWorker hwl hw'l hww
        have hk' : k < r.senders.length := by have := hrw.peers; omega
        exact hvp k (hall _ (r.mem_everywhere.mpr (.inr ⟨k, rfl, hk'⟩))) i' b' hb' hn'

end Flows

end Deployment

end Dataflow
