import Dataflow.Fault
import Dataflow.Text.Blank
/-!
Job configuration: a map from keys to strings, shipped with the topology to every worker and
written as a plain JSON object with keys in order. Accessors read counts (`+` allowed, blanks
around ignored, 64 bits), the worker list, the worker's own index, the job id and the batch size.

The worker list is written `[host:port,host:port]`: blanks around the list and around each entry,
any number of leading `[` and trailing `]`, and empty entries are ignored, and an entry without
`http://` or `https://` gets `http://`.
-/
namespace Dataflow

structure JobConfig where
  entries : List (String × String) := []
  deriving DecidableEq, Repr, Inhabited

namespace JobConfig

def workerListKey : String := "workerList"
def workerIndexKey : String := "workerIndex"
def jobIdKey : String := "jobID"
def jobKey : String := "job"
def batchSizeKey : String := "batchSize"
def storageKey : String := "storageDirectory"
def inputKey : String := "input"
def inputFileKey : String := "inputFile"
def outputKey : String := "output"

def insert (c : JobConfig) (k v : String) : JobConfig :=
  let rec go : List (String × String) → List (String × String)
    | [] => [(k, v)]
    | (k', v') :: rest =>
      if k = k' then (k, v) :: rest
      else if k < k' then (k, v) :: (k', v') :: rest
      else (k', v') :: go rest
  ⟨go c.entries⟩

def ofPairs (pairs : List (String × String)) : JobConfig := pairs.foldl (fun c (k, v) => c.insert k v) {}

def get? (c : JobConfig) (k : String) : Option String := c.entries.lookup k

def contains (c : JobConfig) (k : String) : Bool := (c.get? k).isSome

def require (c : JobConfig) (k : String) : Except Fault String :=
  match c.get? k with
  | some v => .ok v
  | none => .error (.config s!"missing required key '{k}'")

def requireCount (c : JobConfig) (k : String) : Except Fault Nat := do
  let raw ← c.require k
  match Text.parseUnsigned (Text.wordMax 64) (Text.trim raw) with
  | some n => return n
  | none => throw (.config s!"key '{k}' must be an integer, got '{raw}'")

def countOr (c : JobConfig) (k : String) (default : Nat) : Except Fault Nat :=
  if c.contains k then c.requireCount k else .ok default

def workers (c : JobConfig) : Except Fault (List String) := do
  let raw ← c.require workerListKey
  let cs := (Text.trim raw).toList.dropWhile (· = '[')
  let cs := (cs.reverse.dropWhile (· = ']')).reverse
  let entries := (Text.splitOn ',' cs).map fun piece => Text.trim (String.ofList piece)
  let ws := (entries.filter (· ≠ "")).map fun w =>
    if w.startsWith "http://" ∨ w.startsWith "https://" then w else "http://" ++ w
  if ws.isEmpty then throw (.config "workerList is empty")
  return ws

def workerIndex (c : JobConfig) : Except Fault Nat := do
  let index ← c.requireCount workerIndexKey
  let count := (← c.workers).length
  if count ≤ index then throw (.config s!"workerIndex {index} out of range for {count} workers")
  return index

def jobId? (c : JobConfig) : Option String := (c.get? jobIdKey).orElse fun _ => c.get? jobKey

def batchSize (c : JobConfig) : Except Fault Nat := do return max (← c.countOr batchSizeKey 1) 1

def toJson (c : JobConfig) : Json := .obj (c.entries.map fun (k, v) => (k, .str v))

def shape : Json.Shape := .map .string

def ofForm (j : Json) : JobConfig :=
  match j with
  | .obj ms => ofPairs (ms.filterMap fun (k, v) => match v with | .str s => some (k, s) | _ => none)
  | _ => {}

def readJson (j : Json) : Except ReadError JobConfig := (shape.readValue j).map ofForm

end JobConfig

end Dataflow
