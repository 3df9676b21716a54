import Dataflow.Script.Request
import Dataflow.Config
import Dataflow.Settings
/-!
Requests on configuration: job configurations and their accessors, worker settings from the
environment, faults and their reports, and retry policies.
-/
namespace Dataflow.Script

/-- A key-value pair given as an array whose first two items are strings; more items are
ignored. `k` names the member holding the pairs. -/
def pair (k : String) : Json → Step (String × String)
  | .arr (.str key :: .str v :: _) => pure (key, v)
  | _ => throw (.malformed s!"{k} entries are [key, value]")

/-- A job configuration: built from `pairs` (a later key wins) when they are given, else read
from `config`, then overridden by `with`; a configuration that cannot be read is the outcome,
before `with` is looked at. -/
def jobConfig (j : Json) : Step (Except Fault JobConfig) := do
  let base ← match member? j "pairs" with
    | some _ => do pure (.ok (JobConfig.ofPairs (← (← items j "pairs").mapM (pair "pairs"))))
    | none => pure ((JobConfig.readJson ((member? j "config").getD (.obj []))).mapError Fault.ofRead)
  match base with
  | .error f => return .error f
  | .ok c =>
    let overrides ← (← items j "with").mapM (pair "with")
    return .ok (overrides.foldl (fun c (k, v) => c.insert k v) c)

/-- A key with its default count, given as an array whose first item is a string and second a
number; more items are ignored. -/
def keyDefault : Json → Step (String × Nat)
  | .arr (.str k :: .nat n :: _) => pure (k, n)
  | _ => throw (.malformed "usize_or entries are [key, default]")

/-- A configuration and its accessors: the configuration first, then whether to list its
entries (`iter`), then the keys asked for by `require`, `require_usize`, `usize_or` and `get`. -/
def configAnswer (j : Json) : Step Json := do
  match ← jobConfig j with
  | .error f => return faultJson f
  | .ok c =>
  let listed ← flagOr j "iter" false
  let required ← texts j "require"
  let counted ← texts j "require_usize"
  let defaulted ← (← items j "usize_or").mapM keyDefault
  let asked ← texts j "get"
  let fields := [("json", c.toJson), ("workers", result ((c.workers).map Json.strs)),
    ("worker_index", result (c.workerIndex.map .nat)), ("job_id", Json.strOpt c.jobId?),
    ("batch_size", result (c.batchSize.map .nat)),
    ("require", .arr (required.map fun k => result ((c.require k).map .str))),
    ("require_usize", .arr (counted.map fun k => result ((c.requireCount k).map .nat))),
    ("usize_or", .arr (defaulted.map fun (k, d) => result ((c.countOr k d).map .nat))),
    ("get", .arr (asked.map fun k => .arr [Json.strOpt (c.get? k), .bool (c.contains k)]))]
  return ok (.obj (if listed then fields ++ [("iter", .arr (c.entries.map fun (k, v) => .strs [k, v]))]
    else fields))

def RetryPolicy.toJson (p : RetryPolicy) : Json :=
  .obj [("max_retries", .nat p.maxRetries), ("retry_delay_ms", .nat p.delayMs),
    ("use_backoff", .bool p.backoff)]

/-- The environment variables worker settings are read from, in the order they are set. -/
def settingKeys : List String :=
  ["STORMLITE_POOL_SIZE", "STORMLITE_ROUTER_RETRIES", "STORMLITE_STATUS_INTERVAL_SECS"]

/-- An environment name or value as the operating system's strings are shown: quoted like a
string, and a single quote escaped too. -/
def quoteEnvText (s : String) : String := (Json.debugQuote s).replace "'" "\\'"

/-- Sets the environment variables given, in the order of `settingKeys`; a value holding a NUL
character cannot be set, and stops everything. -/
def setEnv (env : List (String × String)) : Step Unit :=
  settingKeys.forM fun k => do
    if let some v := env.lookup k then
      if v.contains '\x00' then
        let name := quoteEnvText k
        let value := quoteEnvText v
        throw (.crashed s!"failed to set environment variable `{name}` to `{value}`: file name contained an unexpected NUL byte")

/-- Worker settings from the environment variables given: the string members of `env`. -/
def settingsAnswer (j : Json) : Step Json := do
  let env := match member? j "env" with
    | some (.obj ms) => ms.filterMap fun (k, v) => match v with
      | .str s => some (k, s)
      | _ => none
    | _ => []
  setEnv env
  let s := Settings.ofEnv env
  let s := match ← count? j "with_pool_size" with
    | some n => s.withPoolSize n
    | none => s
  return ok (.obj [
    ("pool_size", match s.poolSize with | some n => .nat n | none => .str "default"),
    ("router_retry", RetryPolicy.toJson s.routerRetry), ("push_retry", RetryPolicy.toJson s.pushRetry),
    ("idle_wait_ms", .nat s.idleWaitMs), ("status_interval_secs", .nat s.statusIntervalSecs)])

def reportJson (r : FaultReport) : Json :=
  .obj [("code", .str r.code), ("message", .str r.message), ("job_id", Json.strOpt r.job),
    ("executor_id", Json.strOpt r.executor)]

def reportKeys (r : FaultReport) : List String :=
  ["code"] ++ (if r.executor.isSome then ["executor_id"] else []) ++
    (if r.job.isSome then ["job_id"] else []) ++ ["message", "timestamp"]

/-- A fault, from the JSON form in `json` or else a request form in `spec`, and its report. -/
def faultAnswer (j : Json) : Step Json := do
  let f ← match member? j "json", member? j "spec" with
    | some form, _ => pure ((Fault.readJson form).mapError Fault.ofRead)
    | none, some spec => do pure (.ok (← fault spec causeDepth))
    | none, none => throw (.malformed "error needs spec or json")
  let job := looseText? j "job_id"
  let executor := looseText? j "executor_id"
  return result <| f.map fun f =>
    let r := FaultReport.ofFault job executor f
    .obj [("code", .str f.code), ("display", .str f.message), ("retryable", .bool f.retryable),
      ("json", f.toJson),
      ("info", .obj [("code", .str r.code), ("message", .str r.message),
        ("job_id", Json.strOpt r.job), ("executor_id", Json.strOpt r.executor),
        ("has_timestamp", .bool true)]),
      ("info_json_keys", .strs (reportKeys r))]

def retryCount (n : Nat) : Step Nat :=
  if n ≤ Text.wordMax 32 then pure n else throw (.malformed "max_retries must fit u32")

/-- A retry policy from a request: polling, with both members required, or the standard one
with the members given. -/
def retryPolicy (j : Json) : Step RetryPolicy := do
  if ← flagOr j "polling" false then
    let retries ← retryCount (← count j "max_retries")
    return .polling retries (← count j "retry_delay_ms")
  let retries ← retryCount (← countOr j "max_retries" RetryPolicy.standard.maxRetries)
  let delay ← countOr j "retry_delay_ms" RetryPolicy.standard.delayMs
  return ⟨retries, delay, ← flagOr j "use_backoff" RetryPolicy.standard.backoff⟩

def attemptsOf : List Json → Step (List Nat)
  | [] => pure []
  | .nat n :: rest => do
    if n > Text.wordMax 32 then throw (.malformed "attempt must fit u32")
    return n :: (← attemptsOf rest)
  | _ :: _ => throw (.malformed "attempts must be unsigned")

def retryDelayAnswer (j : Json) : Step Json := do
  let p ← retryPolicy j
  let attempts ← attemptsOf (← items j "attempts")
  let delays := attempts.map fun a => match p.delay a with
    | some d => Json.nat d
    | none => Abort.toJson (.crashed RetryPolicy.overflow.message)
  return ok (.obj [("max_retries", .nat p.maxRetries), ("retry_delay_ms", .nat p.delayMs),
    ("use_backoff", .bool p.backoff), ("delays", .arr delays)])

/-- A scripted outcome of one call: a success holding the string in `ok`, or else the fault in
`err`. An `ok` member that holds anything but a string or `null` is refused, even beside an
`err`. -/
def outcome (j : Json) : Step (Except Fault String) := do
  match member? j "ok", member? j "err" with
  | some (.str s), _ => return .ok s
  | some _, _ => throw (.malformed "ok outcome must be a string")
  | none, some spec => return .error (← fault spec causeDepth)
  | none, none => throw (.malformed "outcome needs ok or err")

/-- One call of a scripted operation: the next outcome, or a fault once the script is used up. -/
def scripted : StateT (List (Except Fault String) × Nat) (Except Crash) (Except Fault String) :=
  modifyGet fun (rest, calls) => match rest with
    | [] => (.error (.config "script exhausted"), ([], calls + 1))
    | o :: more => (o, (more, calls + 1))

/-- A scripted operation run under a retry policy: its result and the number of calls. -/
def retryRunAnswer (j : Json) : Step Json := do
  let p ← retryPolicy j
  if p.delayMs > 2 then throw (.malformed "retry_run keeps retry_delay_ms <= 2")
  let script ← (← items j "outcomes").mapM outcome
  match (p.run (fun _ => pure ()) scripted).run (script, 0) with
  | .ok (r, (_, calls)) => return ok (.obj [("result", result (r.map Json.str)), ("calls", .nat calls)])
  | .error c => throw (.crashed c.message)

end Dataflow.Script
