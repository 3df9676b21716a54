import Dataflow.Proofs.Spec
import Mathlib.Tactic.SplitIfs
/-!
Batching by a sender. Over any run of sends, what the sender hands over, followed by what it
still holds, is exactly the tuples it was given, in order. With a batch size of one every tuple
goes out alone at once. Above one, every hand-over is a non-empty batch of at most the batch size
whose only end of stream can be its last tuple, made exactly when the buffer fills or an end of
stream arrives; between sends the buffer holds fewer tuples than the batch size and no end of
stream. A batch leaves the buffer before it is handed over, so a hand-over that fails is
returned by the send and is not kept.
-/
namespace Dataflow

namespace Sender

def sendAll (s : Sender) : List Tuple → List Delivery × Sender
  | [] => ([], s)
  | t :: ts => ((s.send t).1.toList ++ ((s.send t).2.sendAll ts).1, ((s.send t).2.sendAll ts).2)

variable {s : Sender} {t : Tuple}

@[simp] lemma sendAll_nil (s : Sender) : s.sendAll [] = ([], s) := rfl

lemma sendAll_cons (s : Sender) (t : Tuple) (ts : List Tuple) :
    s.sendAll (t :: ts) = ((s.send t).1.toList ++ ((s.send t).2.sendAll ts).1, ((s.send t).2.sendAll ts).2) :=
  rfl

lemma sendAll_append (s : Sender) (pre post : List Tuple) :
    s.sendAll (pre ++ post) =
      ((s.sendAll pre).1 ++ ((s.sendAll pre).2.sendAll post).1, ((s.sendAll pre).2.sendAll post).2) := by
  induction pre generalizing s with
  | nil => simp
  | cons t pre ih => simp [sendAll_cons, ih]

lemma sendAll_of_batchSize_one (h : s.batchSize = 1) (ts : List Tuple) :
    s.sendAll ts = (ts.map fun t => ⟨.single, s.address, s.job, s.stream, [t]⟩, s) := by
  induction ts with
  | nil => rfl
  | cons t ts ih => simp [sendAll_cons, send_of_batchSize_one h, ih]

lemma send_of_batchSize_ne_one (h : s.batchSize ≠ 1) (t : Tuple) :
    s.send t = if t.endOfStream = true ∨ s.batchSize ≤ s.held.length + 1 then
      (some ⟨.batch, s.address, s.job, s.stream, s.held ++ [t]⟩, { s with held := [] })
    else (none, { s with held := s.held ++ [t] }) := by
  simp [send, h]

/-- What a sender keeps between sends: a positive batch size, fewer tuples held than it, and no
end of stream among them. -/
structure Settled (s : Sender) : Prop where
  pos : 0 < s.batchSize
  fewer : s.held.length < s.batchSize
  data : ∀ x ∈ s.held, x.endOfStream = false

lemma settled_make (address job stream : String) (b : Nat) : (make address job stream b).Settled where
  pos := by simp only [make]; omega
  fewer := by simp only [make, List.length_nil]; omega
  data := by simp [make]

lemma Settled.held_of_one (h : s.Settled) (hb : s.batchSize = 1) : s.held = [] :=
  List.eq_nil_of_length_eq_zero (by have := h.fewer; omega)

lemma Settled.isSome_send_iff (h : s.Settled) (hb : s.batchSize ≠ 1) :
    (s.send t).1.isSome ↔ t.endOfStream = true ∨ s.held.length + 1 = s.batchSize := by
  have hfew := h.fewer
  rw [send_of_batchSize_ne_one hb]
  split_ifs with hflush
  · refine iff_of_true rfl ?_
    rcases hflush with he | hfull
    · exact .inl he
    · exact .inr (by omega)
  · simp only [not_or, Bool.not_eq_true] at hflush
    simp only [Option.isSome_none, Bool.false_eq_true, false_iff, not_or, hflush.1, Bool.false_eq_true,
      not_false_eq_true, true_and]
    omega

lemma send_batch {d : Delivery} (hb : s.batchSize ≠ 1) (hd : (s.send t).1 = some d) :
    d = ⟨.batch, s.address, s.job, s.stream, s.held ++ [t]⟩ ∧ (s.send t).2.held = [] := by
  rw [send_of_batchSize_ne_one hb] at hd ⊢
  split_ifs at hd ⊢
  exact ⟨(Option.some.inj hd).symm, rfl⟩

lemma Settled.send (h : s.Settled) (t : Tuple) : (s.send t).2.Settled := by
  by_cases hb : s.batchSize = 1
  · rwa [send_of_batchSize_one hb]
  · have hfew := h.fewer
    rw [send_of_batchSize_ne_one hb]
    split_ifs with hflush
    · exact ⟨h.pos, h.pos, by simp⟩
    · -- the tuple is held: it is data, and the buffer is still short of the batch size
      have ht : t.endOfStream = false := by simpa using fun he => hflush (.inl he)
      refine ⟨h.pos, by simp only [List.length_append, List.length_singleton]; omega, fun x hx => ?_⟩
      rcases List.mem_append.mp hx with hx | hx
      · exact h.data x hx
      · exact (List.mem_singleton.mp hx) ▸ ht

lemma Settled.batch_shape (h : s.Settled) (hb : s.batchSize ≠ 1) {d : Delivery} (hd : (s.send t).1 = some d) :
    d.kind = .batch ∧ d.tuples ≠ [] ∧ d.tuples.length ≤ s.batchSize ∧
      (∀ x ∈ d.tuples.dropLast, x.endOfStream = false) ∧
      d.address = s.address ∧ d.job = s.job ∧ d.stream = s.stream := by
  obtain ⟨rfl, -⟩ := send_batch hb hd
  have hfew := h.fewer
  refine ⟨rfl, by simp, by simp only [List.length_append, List.length_singleton]; omega, ?_, rfl, rfl, rfl⟩
  rw [List.dropLast_concat]
  exact h.data

@[simp] lemma sendAll_batchSize (s : Sender) (ts : List Tuple) : (s.sendAll ts).2.batchSize = s.batchSize := by
  induction ts generalizing s with
  | nil => rfl
  | cons t ts ih => rw [sendAll_cons, ih, send_batchSize]

lemma Settled.sendAll (h : s.Settled) (ts : List Tuple) : (s.sendAll ts).2.Settled := by
  induction ts generalizing s with
  | nil => exact h
  | cons t ts ih => exact ih (h.send t)

lemma Settled.tuples_sendAll (h : s.Settled) (ts : List Tuple) :
    (s.sendAll ts).1.flatMap (·.tuples) ++ (s.sendAll ts).2.held = s.held ++ ts := by
  induction ts generalizing s with
  | nil => simp
  | cons t ts ih =>
    have hstep := carried_send_append_held s t h.held_of_one
    have hcarried : (s.send t).1.toList.flatMap (·.tuples) = carried (s.send t).1 := by
      cases (s.send t).1 <;> simp [carried]
    rw [sendAll_cons, List.flatMap_append, List.append_assoc, ih (h.send t), hcarried, ← List.append_assoc,
      hstep, List.append_assoc, List.singleton_append]

lemma Settled.mem_sendAll (h : s.Settled) (hb : s.batchSize ≠ 1) {ts : List Tuple} {d : Delivery}
    (hd : d ∈ (s.sendAll ts).1) :
    d.kind = .batch ∧ d.tuples ≠ [] ∧ d.tuples.length ≤ s.batchSize ∧
      (∀ x ∈ d.tuples.dropLast, x.endOfStream = false) ∧
      d.address = s.address ∧ d.job = s.job ∧ d.stream = s.stream := by
  induction ts generalizing s with
  | nil => simp at hd
  | cons t ts ih =>
    rw [sendAll_cons] at hd
    rcases List.mem_append.mp hd with hd | hd
    · exact h.batch_shape hb (Option.mem_toList.mp hd)
    · have hb' : (s.send t).2.batchSize ≠ 1 := by rwa [send_batchSize]
      simpa only [send_batchSize, send_address, send_job, send_stream] using ih (h.send t) hb' hd

lemma run_sendTo {deliver : Deliver} {w : World} {p : Place} {c : String} {k : Nat} {t : Tuple} {j : Job}
    {r : Router} (hj : w.job? p = some j) (hr : j.router? c = some r) {d : Delivery}
    (hd : ((r.senders.getD k default).send t).1 = some d) :
    (sendTo deliver p c k t).run.run w = (transmit deliver d).run.run
      (w.updJob p (·.setRouter c { r with senders := r.senders.set k ((r.senders.getD k default).send t).2 })) := by
  rw [Dataflow.sendTo, Run.run_bind, Run.run_router hj hr]
  rcases hsend : (r.senders.getD k default).send t with ⟨d', S'⟩
  rw [hsend] at hd
  obtain rfl := hd
  simp only [hsend]
  rw [Run.run_bind]
  rfl

/-- Batching neither loses, duplicates nor reorders tuples, and always flushes on an end of
stream. Take a sender made with any batch size `b`, counted as `max b 1`, and any run of sends.
With a batch size of one each tuple is handed over alone, in order, and nothing is held. Above
one, the batches handed over followed by the buffer are the tuples sent; each batch is non-empty,
holds at most the batch size and can only end with an end of stream; a batch is handed over
exactly when the buffer fills or an end of stream is sent; and between sends the buffer holds
fewer tuples than the batch size and no end of stream. On the network, a send that hands a batch
over stores the sender with an empty buffer first and ends as the hand-over does, failure
included. -/
theorem batches_keep_order (address job stream : String) (b : Nat) (ts : List Tuple) :
    let s₀ := make address job stream b
    (max b 1 = 1 →
      s₀.sendAll ts = (ts.map fun t => ⟨.single, address, job, stream, [t]⟩, s₀) ∧ s₀.held = []) ∧
    (1 < max b 1 →
      (s₀.sendAll ts).1.flatMap (·.tuples) ++ (s₀.sendAll ts).2.held = ts ∧
      (∀ d ∈ (s₀.sendAll ts).1, d.kind = .batch ∧ d.tuples ≠ [] ∧ d.tuples.length ≤ max b 1 ∧
        (∀ x ∈ d.tuples.dropLast, x.endOfStream = false) ∧
        d.address = address ∧ d.job = job ∧ d.stream = stream) ∧
      (∀ pre post, ts = pre ++ post → (s₀.sendAll pre).2.held.length < max b 1 ∧
        ∀ x ∈ (s₀.sendAll pre).2.held, x.endOfStream = false) ∧
      ∀ pre t post, ts = pre ++ t :: post →
        (((s₀.sendAll pre).2.send t).1.isSome ↔
          t.endOfStream = true ∨ (s₀.sendAll pre).2.held.length + 1 = max b 1)) ∧
    ∀ (deliver : Deliver) (w : World) (p : Place) (c : String) (k : Nat) (t : Tuple) (j : Job) (r : Router)
      (d : Delivery), w.job? p = some j → j.router? c = some r →
      ((r.senders.getD k default).send t).1 = some d → (r.senders.getD k default).batchSize ≠ 1 →
      ((r.senders.getD k default).send t).2.held = [] ∧
      (sendTo deliver p c k t).run.run w = (transmit deliver d).run.run
        (w.updJob p (·.setRouter c { r with senders := r.senders.set k ((r.senders.getD k default).send t).2 })) := by
  intro s₀
  have h₀ : s₀.Settled := settled_make address job stream b
  have hsize : s₀.batchSize = max b 1 := rfl
  refine ⟨fun hb => ⟨sendAll_of_batchSize_one (hsize.trans hb) ts, rfl⟩, fun hb => ?_,
    fun deliver w p c k t j r d hj hr hd hb => ⟨(send_batch hb hd).2, run_sendTo hj hr hd⟩⟩
  have hb' : s₀.batchSize ≠ 1 := by omega
  have hrun : ∀ pre, (s₀.sendAll pre).2.batchSize = max b 1 := fun pre => (sendAll_batchSize s₀ pre).trans hsize
  refine ⟨?_, fun d hd => hsize ▸ h₀.mem_sendAll hb' hd, fun pre post _ => ?_, fun pre t post _ => ?_⟩
  · have h := h₀.tuples_sendAll ts
    rwa [show s₀.held = [] from rfl, List.nil_append] at h
  · have h₁ := h₀.sendAll pre
    exact ⟨hrun pre ▸ h₁.fewer, h₁.data⟩
  · have h₁ := (h₀.sendAll pre).isSome_send_iff (t := t) (by rw [hrun pre]; omega)
    rwa [hrun pre] at h₁

/-- Seven data tuples through a sender batching three: two full batches, and one tuple held. -/
example : ((make "w" "job" "s" 3).sendAll (List.replicate 7 ⟨⟨["key"]⟩, [.text "1"], "src", false⟩)).1.map
      (·.tuples.length) = [3, 3] := by
  decide

end Sender

end Dataflow
