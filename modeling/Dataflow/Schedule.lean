import Dataflow.Network
/-!
Scheduling spout steps. Draining steps a set of spout executors in turn, skipping those that have
returned `false`, until all have, a step fails, or a limit on the number of single steps is
reached; it records nothing on failure. The pool runs queued spout tasks: a task that returns `true` goes to the back of its
job's queue, one that returns `false` is dropped, and one that fails fails its job, which drops
the job's queue. The pool serves the workers in turn. On a worker it takes the first job that has
a task and has not failed, looking at the jobs in id order from a cursor, round to the first;
each look moves the cursor on by one job, so one busy job cannot starve the others.
-/
namespace Dataflow

inductive DrainEnd where
  | finished (steps : Nat)
  | stopped (steps : Nat)
  /-- Step number `step` (counting from 1), of spout `spout` of a job, failed. -/
  | failed (place : Place) (spout : Nat) (step : Nat) (fault : Fault)
  deriving Inhabited

/-- One round: steps each spout in turn while fewer than `limit` steps were made; returns the
spouts still going, or how the drain ended. -/
def drainRound (limit : Nat) : List (Place × Nat) → List (Place × Nat) → Nat →
    Run (Except DrainEnd (List (Place × Nat) × Nat))
  | [], going, taken => pure (.ok (going, taken))
  | (p, k) :: rest, going, taken => do
    if limit ≤ taken then return .error (.stopped taken)
    let r ← tryCatch (do return Except.ok (← spoutStep deliver p k)) fun e => pure (.error e)
    match r with
    | .error e => return .error (.failed p k (taken + 1) e)
    | .ok true => drainRound limit rest (going ++ [(p, k)]) (taken + 1)
    | .ok false => drainRound limit rest going (taken + 1)

/-- Steps the spouts in rounds while any is going; every single step counts towards the limit. -/
def drainFrom (limit : Nat) : Nat → List (Place × Nat) → Nat → Run DrainEnd
  | _, [], taken => pure (.finished taken)
  | 0, _, taken => pure (.stopped taken)
  | fuel + 1, spouts, taken => do
    match ← drainRound limit spouts [] taken with
    | .error stop => return stop
    | .ok (going, taken) => drainFrom limit fuel going taken

def drain (spouts : List (Place × Nat)) (limit : Nat) : Run DrainEnd :=
  drainFrom limit (limit + 1) spouts 0

/-- The spouts of a job on every worker that has it, in worker order then spout order. -/
def World.spoutsOf (s : World) (job : String) : List (Place × Nat) :=
  (List.range s.workers.length).flatMap fun w =>
    match (s.workers.getD w default).job? job with
    | some j => (List.range j.spouts.length).map fun k => (⟨w, job⟩, k)
    | none => []

/-- The next task of a worker: looking at its jobs in id order from the one at the cursor, round
to the first, the first job that has one and has not failed. -/
def Worker.nextTask? (w : Worker) : Option (String × Nat) :=
  let start := w.cursor % w.jobs.length
  (w.jobs.drop start ++ w.jobs.take start).findSome? fun (id, j) =>
    if j.context.failed then none
    else match j.context.tasks with
      | k :: _ => some (id, k)
      | [] => none

/-- A worker that has looked for a task: its cursor moves on by one job, if it has any. -/
def Worker.turn (w : Worker) : Worker :=
  if w.jobs.isEmpty then w else { w with cursor := w.cursor + 1 }

/-- Runs one queued task of a worker whose pool is running, if it has one; says whether it had
one. A task that may go on is queued again unless its job failed or the pool stopped. -/
def runTask (w : Nat) : Run Bool := do
  let wk ← Run.worker w
  if !wk.healthy || wk.threads = 0 then return false
  let ran ← match wk.nextTask? with
    | none => pure false
    | some (id, k) => do
      let p : Place := ⟨w, id⟩
      Run.modifyContext p fun c => { c with tasks := c.tasks.drop 1 }
      let r ← tryCatch (do return Except.ok (← spoutStep deliver p k)) fun e => pure (.error e)
      match r with
      | .ok true =>
        if !(← Run.job p).context.failed && (← Run.worker w).healthy then
          Run.modifyContext p fun c => { c with tasks := c.tasks ++ [k] }
      | .ok false => pure ()
      | .error e =>
        let s ← Run.spout p k
        Run.failJob p (some s.id) e
      pure true
  -- the look moves the cursor on; the task never reads it, so it may move after the task
  Run.modifyWorker w Worker.turn
  return ran

def runPool : Nat → Run Unit
  | 0 => pure ()
  | fuel + 1 => do
    let n := (← get).workers.length
    let ran ← (List.range n).foldlM (fun any w => do return (← runTask w) || any) false
    if ran then runPool fuel

def poolRounds : Nat := 1000000

/-- One round over spouts of one job, keeping each step's outcome; returns the spouts still going
and whether a step failed. -/
def traceRound (p : Place) : List Nat → List Nat → List (Nat × Except Fault Bool) →
    Run (List Nat × List (Nat × Except Fault Bool) × Bool)
  | [], going, acc => pure (going, acc, false)
  | k :: rest, going, acc => do
    let r ← tryCatch (do return Except.ok (← spoutStep deliver p k)) fun e => pure (.error e)
    let acc := acc ++ [(k, r)]
    match r with
    | .error _ => return (going, acc, true)
    | .ok true => traceRound p rest (going ++ [k]) acc
    | .ok false => traceRound p rest going acc

/-- Steps spouts of one job in rounds, keeping each step's outcome, until all have returned
`false`, a step fails, or a round would start after `limit` steps. -/
def traceFrom (p : Place) (limit : Nat) :
    Nat → List Nat → List (Nat × Except Fault Bool) → Run (List (Nat × Except Fault Bool))
  | 0, _, acc => pure acc
  | _, [], acc => pure acc
  | fuel + 1, spouts, acc => do
    if limit ≤ acc.length then return acc
    let (going, acc, failed) ← traceRound p spouts [] acc
    if failed then return acc
    traceFrom p limit fuel going acc

end Dataflow
