import Dataflow.Phase
import Dataflow.Config
import Dataflow.Keyed
/-!
Job contexts: what one job on one worker shares among its executors. A context holds the job's
phase, its map and reduce counters, a count of tuples received per stream, the results printed,
the failures recorded, and the completion state: how many local executors must still finish,
whether the job was started, and whether it failed.

The phase never leaves `idle` and setting the current phase changes nothing; the job becomes
idle when its last executor finishes. Only the first failure is recorded, and recording it drops
the queued spout tasks. The progress reported to the master is the counter pair of the current
phase: map counters while mapping, reduce counters while reducing, the reduce outputs once idle.
-/
namespace Dataflow

structure JobContext where
  job : String
  config : JobConfig
  phase : Phase := .init
  mapInputs : Nat := 0
  mapOutputs : Nat := 0
  reduceInputs : Nat := 0
  reduceOutputs : Nat := 0
  received : List (String × Nat) := []
  results : List (String × String) := []
  errors : List FaultReport := []
  pending : Nat := 0
  started : Bool := false
  failed : Bool := false
  /-- Spout tasks waiting in the job's queue, by spout position, first to run first. -/
  tasks : List Nat := []
  deriving Inhabited

namespace JobContext

def setPhase (c : JobContext) (p : Phase) : JobContext :=
  if c.phase = .idle then c else { c with phase := p }

def countReceived (c : JobContext) (stream : String) : JobContext :=
  { c with received := Keyed.insert stream (((c.received.lookup stream).getD 0) + 1) c.received }

/-- Counts one output pair in the current phase: a map output while mapping, a reduce output
while reducing, nothing otherwise. -/
def countOutput (c : JobContext) : JobContext :=
  match c.phase with
  | .mapping => { c with mapOutputs := c.mapOutputs + 1 }
  | .reducing => { c with reduceOutputs := c.reduceOutputs + 1 }
  | _ => c

def record (c : JobContext) (key value : String) : JobContext :=
  { c with results := c.results ++ [(key, value)] }

def expect (c : JobContext) (n : Nat) : JobContext := { c with pending := c.pending + n }

def start (c : JobContext) : Bool × JobContext := (!c.started, { c with started := true })

def finishOne (c : JobContext) : JobContext :=
  let c := { c with pending := c.pending - 1 }
  if c.pending = 0 then c.setPhase .idle else c

def complete (c : JobContext) : Bool := c.started && c.pending == 0

def fail (c : JobContext) (executor : Option String) (f : Fault) : JobContext :=
  if c.failed then c
  else { c with failed := true, errors := c.errors ++ [FaultReport.ofFault (some c.job) executor f], tasks := [] }

def progress (c : JobContext) : Nat × Nat :=
  match c.phase with
  | .mapping => (c.mapInputs, c.mapOutputs)
  | .reducing => (c.reduceInputs, c.reduceOutputs)
  | .idle => (0, c.reduceOutputs)
  | _ => (0, 0)

/-- The outcome of waiting for the job: its first failure, or whether it is complete. -/
def outcome (c : JobContext) : Except Fault Bool :=
  if c.failed then
    let first := match c.errors with
      | r :: _ => r.message
      | [] => "job failed"
    .error (.fail s!"job {c.job}: {first}")
  else .ok c.complete

@[simp] theorem setPhase_of_idle {c : JobContext} (h : c.phase = .idle) (p : Phase) :
    c.setPhase p = c := by
  simp [setPhase, h]

theorem setPhase_phase {c : JobContext} (h : c.phase ≠ .idle) (p : Phase) :
    (c.setPhase p).phase = p := by
  simp [setPhase, h]

@[simp] theorem setPhase_pending (c : JobContext) (p : Phase) : (c.setPhase p).pending = c.pending := by
  unfold setPhase; split <;> rfl

@[simp] theorem setPhase_failed (c : JobContext) (p : Phase) : (c.setPhase p).failed = c.failed := by
  unfold setPhase; split <;> rfl

@[simp] theorem finishOne_pending (c : JobContext) : c.finishOne.pending = c.pending - 1 := by
  simp only [finishOne]
  split <;> simp

theorem finishOne_phase_of_last {c : JobContext} (h : c.pending ≤ 1) : c.finishOne.phase = .idle := by
  have hz : c.pending - 1 = 0 := by omega
  simp only [finishOne, hz, if_true, setPhase]
  split <;> simp_all

@[simp] theorem fail_failed (c : JobContext) (executor : Option String) (f : Fault) :
    (c.fail executor f).failed = true := by
  unfold fail; split <;> simp_all

theorem fail_of_failed {c : JobContext} (h : c.failed = true) (executor : Option String) (f : Fault) :
    c.fail executor f = c := by
  simp [fail, h]

theorem fail_of_not_failed {c : JobContext} (h : c.failed = false) (executor : Option String) (f : Fault) :
    c.fail executor f =
      { c with failed := true, errors := c.errors ++ [FaultReport.ofFault (some c.job) executor f], tasks := [] } := by
  simp [fail, h]

@[simp] theorem fail_pending (c : JobContext) (executor : Option String) (f : Fault) :
    (c.fail executor f).pending = c.pending := by
  unfold fail; split <;> rfl

@[simp] theorem fail_phase (c : JobContext) (executor : Option String) (f : Fault) :
    (c.fail executor f).phase = c.phase := by
  unfold fail; split <;> rfl

@[simp] theorem setPhase_errors (c : JobContext) (p : Phase) : (c.setPhase p).errors = c.errors := by
  unfold setPhase; split <;> rfl

@[simp] theorem finishOne_errors (c : JobContext) : c.finishOne.errors = c.errors := by
  simp only [finishOne]
  split <;> simp

@[simp] theorem countOutput_errors (c : JobContext) : c.countOutput.errors = c.errors := by
  unfold countOutput; split <;> rfl

@[simp] theorem countReceived_errors (c : JobContext) (stream : String) :
    (c.countReceived stream).errors = c.errors := rfl

@[simp] theorem record_errors (c : JobContext) (key value : String) : (c.record key value).errors = c.errors :=
  rfl

theorem mem_errors_fail {c : JobContext} {executor : Option String} {f : Fault} {r : FaultReport}
    (h : r ∈ (c.fail executor f).errors) : r ∈ c.errors ∨ r.code = f.code := by
  unfold fail at h
  split at h
  · exact .inl h
  · rcases List.mem_append.mp h with h | h
    · exact .inl h
    · rw [List.mem_singleton.mp h]
      exact .inr rfl

theorem outcome_of_failed {c : JobContext} (h : c.failed = true) :
    ∃ m : String, c.outcome = .error (.fail s!"job {c.job}: {m}") := by
  unfold outcome
  simp only [h, if_true]
  exact ⟨_, rfl⟩

theorem outcome_of_not_failed {c : JobContext} (h : c.failed = false) : c.outcome = .ok c.complete := by
  simp [outcome, h]

end JobContext

end Dataflow
