import Dataflow.Fault
/-!
Retry policies. An operation is tried again while it fails with a retryable fault and retries
remain, so it runs at most `maxRetries + 1` times. The pause before retry `n` is the base delay,
doubled `min n 16` times with backoff; a pause that does not fit in 64 bits of milliseconds is an
arithmetic overflow, which crashes the retrying.
-/
namespace Dataflow

structure RetryPolicy where
  maxRetries : Nat
  delayMs : Nat
  backoff : Bool
  deriving DecidableEq, Repr, Inhabited

namespace RetryPolicy

def standard : RetryPolicy := ⟨3, 100, true⟩

def polling (maxRetries intervalMs : Nat) : RetryPolicy := ⟨maxRetries, intervalMs, false⟩

/-- The pause before retry `attempt`, in milliseconds; `none` when it overflows 64 bits. -/
def delay (p : RetryPolicy) (attempt : Nat) : Option Nat :=
  let d := if p.backoff then p.delayMs * Nat.pow 2 (min attempt 16) else p.delayMs
  if d < Nat.pow 2 64 then some d else none

def overflow : Crash := ⟨"attempt to multiply with overflow"⟩

/-- Waits out the pause before retry `attempt` with `wait`; a pause that overflows crashes. -/
def sleep {m : Type → Type} [Monad m] [MonadExceptOf Crash m] (p : RetryPolicy) (wait : Nat → m Unit)
    (attempt : Nat) : m Unit :=
  match p.delay attempt with
  | some d => wait d
  | none => throwThe Crash overflow

/-- Runs `op` until it succeeds, fails for good, or the retries are used up, sleeping before
retry `n` as `sleep wait n` does. -/
def run {m : Type → Type} [Monad m] [MonadExceptOf Crash m] {α : Type} (p : RetryPolicy)
    (wait : Nat → m Unit) (op : m (Except Fault α)) : m (Except Fault α) :=
  go 0 (p.maxRetries + 1)
where
  go (attempt : Nat) : Nat → m (Except Fault α)
    | 0 => op
    | fuel + 1 => do
      match ← op with
      | .ok v => return .ok v
      | .error e =>
        if e.retryable ∧ attempt < p.maxRetries then
          p.sleep wait attempt
          go (attempt + 1) fuel
        else return .error e

end RetryPolicy

end Dataflow
