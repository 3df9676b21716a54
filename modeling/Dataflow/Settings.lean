import Dataflow.Retry
import Dataflow.Text.Blank
/-!
Process-level settings of a worker: the number of pool threads, the retry policies for router
lookups and for pushes to peers, the idle wait of a pool thread and the status interval. The pool
size defaults to the machine's processor count (at least 2), which this library leaves unnamed.
Environment overrides are read trimmed; an override that does not parse is ignored; a pool size
or interval below 1 counts as 1.
-/
namespace Dataflow

structure Settings where
  poolSize : Option Nat := none
  routerRetry : RetryPolicy := .polling 100 100
  pushRetry : RetryPolicy := .standard
  idleWaitMs : Nat := 200
  statusIntervalSecs : Nat := 10
  deriving DecidableEq, Repr, Inhabited

namespace Settings

def ofEnv (env : List (String × String)) : Settings :=
  let parse (k : String) (bits : Nat) : Option Nat :=
    (env.lookup k).bind fun v => Text.parseUnsigned (Text.wordMax bits) (Text.trim v)
  let s : Settings := {}
  let s := match parse "STORMLITE_POOL_SIZE" 64 with
    | some n => { s with poolSize := some (max n 1) }
    | none => s
  let s := match parse "STORMLITE_ROUTER_RETRIES" 32 with
    | some n => { s with routerRetry := { s.routerRetry with maxRetries := n } }
    | none => s
  match parse "STORMLITE_STATUS_INTERVAL_SECS" 64 with
  | some n => { s with statusIntervalSecs := max n 1 }
  | none => s

def withPoolSize (s : Settings) (n : Nat) : Settings := { s with poolSize := some (max n 1) }

end Settings

end Dataflow
