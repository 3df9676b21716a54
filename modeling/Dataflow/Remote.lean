import Dataflow.Tuple
/-!
Remote destinations. A stream's executors on another worker are reached by pushing tuples to
that worker's `/pushdata/<stream>` endpoint, or several at once to `/pushbatch/<stream>`, with the
job in the query. A sender with a batch size above one holds data tuples until the batch is full;
an end-of-stream tuple always goes out at once, after the data held before it, so a source's data
is delivered before its end of stream. The held tuples leave the sender when the batch is handed
over, whether or not its delivery succeeds.
-/
namespace Dataflow

inductive PushKind where
  | single
  | batch
  deriving DecidableEq, Repr, Inhabited

structure Delivery where
  kind : PushKind
  address : String
  job : String
  stream : String
  tuples : List Tuple
  deriving Repr, Inhabited

/-- The endpoint URL for pushing to `stream` of `job` at a worker address; trailing slashes of
the address are dropped. -/
def pushUrl (address stream job : String) (batch : Bool) : String :=
  let base := String.ofList (address.toList.reverse.dropWhile (· = '/')).reverse
  let endpoint := if batch then "pushbatch" else "pushdata"
  s!"{base}/{endpoint}/{stream}?job={job}"

structure Sender where
  address : String
  job : String
  stream : String
  batchSize : Nat
  held : List Tuple := []
  deriving Repr, Inhabited

namespace Sender

def make (address job stream : String) (batchSize : Nat) : Sender :=
  { address, job, stream, batchSize := max batchSize 1 }

def send (s : Sender) (t : Tuple) : Option Delivery × Sender :=
  if s.batchSize = 1 then (some ⟨.single, s.address, s.job, s.stream, [t]⟩, s)
  else
    let held := s.held ++ [t]
    if t.endOfStream ∨ s.batchSize ≤ held.length then
      (some ⟨.batch, s.address, s.job, s.stream, held⟩, { s with held := [] })
    else (none, { s with held })

def buffered (s : Sender) : Nat := s.held.length

def carried : Option Delivery → List Tuple
  | some d => d.tuples
  | none => []

@[simp] theorem send_batchSize (s : Sender) (t : Tuple) : (s.send t).2.batchSize = s.batchSize := by
  unfold send
  split
  · rfl
  · dsimp only
    split <;> rfl

@[simp] theorem send_address (s : Sender) (t : Tuple) : (s.send t).2.address = s.address := by
  unfold send
  split
  · rfl
  · dsimp only
    split <;> rfl

@[simp] theorem send_job (s : Sender) (t : Tuple) : (s.send t).2.job = s.job := by
  unfold send
  split
  · rfl
  · dsimp only
    split <;> rfl

@[simp] theorem send_stream (s : Sender) (t : Tuple) : (s.send t).2.stream = s.stream := by
  unfold send
  split
  · rfl
  · dsimp only
    split <;> rfl

/-- Nothing is lost, duplicated or reordered: what a sender delivers now, then what it holds, is
what it held, then the tuple. -/
theorem carried_send_append_held (s : Sender) (t : Tuple) (h : s.batchSize = 1 → s.held = []) :
    carried (s.send t).1 ++ (s.send t).2.held = s.held ++ [t] := by
  unfold send
  split
  · simp [carried, h ‹_›]
  · dsimp only
    split <;> simp [carried]

theorem send_held_of_endOfStream (s : Sender) {t : Tuple} (h : t.endOfStream = true) :
    (s.send t).2.held = if s.batchSize = 1 then s.held else [] := by
  unfold send
  split
  · simp_all
  · simp_all

theorem send_of_batchSize_one {s : Sender} (h : s.batchSize = 1) (t : Tuple) :
    s.send t = (some ⟨.single, s.address, s.job, s.stream, [t]⟩, s) := by
  simp [send, h]

theorem mem_held_send {s : Sender} {t x : Tuple} (h : x ∈ (s.send t).2.held) :
    x ∈ s.held ∨ (x = t ∧ t.endOfStream = false) := by
  unfold send at h
  split at h
  · exact .inl h
  · dsimp only at h
    split at h
    · simp at h
    · rename_i hne
      rcases List.mem_append.mp h with h | h
      · exact .inl h
      · refine .inr ⟨List.mem_singleton.mp h, ?_⟩
        cases ht : t.endOfStream
        · rfl
        · simp [ht] at hne

theorem mem_carried_send {s : Sender} {t x : Tuple} (h : x ∈ carried (s.send t).1) : x ∈ s.held ∨ x = t := by
  unfold send at h
  split at h
  · exact .inr (List.mem_singleton.mp h)
  · dsimp only at h
    split at h
    · rcases List.mem_append.mp h with h | h
      · exact .inl h
      · exact .inr (List.mem_singleton.mp h)
    · simp [carried] at h

theorem carried_send_of_endOfStream {s : Sender} (h : s.batchSize = 1 → s.held = []) {t : Tuple}
    (ht : t.endOfStream = true) : carried (s.send t).1 = s.held ++ [t] := by
  unfold send
  split
  · simp [carried, h ‹_›]
  · simp [carried, ht]

theorem send_delivery {s : Sender} {t : Tuple} {d : Delivery} (h : (s.send t).1 = some d) :
    d.address = s.address ∧ d.job = s.job ∧ d.stream = s.stream ∧ d.tuples = carried (s.send t).1 := by
  rw [h]
  unfold send at h
  split at h
  · cases h
    exact ⟨rfl, rfl, rfl, rfl⟩
  · dsimp only at h
    split at h
    · cases h
      exact ⟨rfl, rfl, rfl, rfl⟩
    · cases h

end Sender

end Dataflow
