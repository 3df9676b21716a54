import Dataflow.Component
import Dataflow.Config
/-!
The component registry: the spouts `file`, `records` and `empty`, the bolts `map`, `reduce`,
`print` and `sink`, and the jobs `word_count` (also registered as `word_count_alias`) and
`sum_by_key`. Making a component reads the job configuration: the map and reduce bolts name their
job by `mapClass` and `reduceClass`, and the print bolt writes under
`<storageDirectory>/<output>` when both are set. Opening a spout finds its input: for the file
spout, `inputFile` (relative to the storage directory), or else the first file, in name order, of
the input directory whose path ends in `.<workerIndex>`; for the records spout, the JSON records
under `records.<workerIndex>` or `records`, with fields from `recordFields`.
-/
namespace Dataflow

namespace Registry

def spoutIds : List String := ["file", "records", "empty"]

def boltIds : List String := ["map", "reduce", "print", "sink"]

def hasSpout (id : String) : Bool := spoutIds.contains id

def hasBolt (id : String) : Bool := boltIds.contains id

def jobNamed (c : JobConfig) (key : String) : Except Fault Reducer := do
  let id ← c.require key
  match Reducer.ofId? id with
  | some r => return r
  | none => throw (.componentNotFound s!"job '{id}'")

def makeBolt (id : String) (c : JobConfig) : Except Fault BoltLogic :=
  match id with
  | "map" => do return .map (← jobNamed c "mapClass")
  | "reduce" => do return .reduce (← jobNamed c "reduceClass") []
  | "print" =>
    let dir := match c.get? JobConfig.storageKey, c.get? JobConfig.outputKey with
      | some storage, some output => some (joinPath storage output)
      | _, _ => none
    .ok (.print [] dir)
  | "sink" => .ok (.sink [])
  | _ => .error (.componentNotFound s!"bolt '{id}'")

def inputPath (inputFile : Option String) (c : JobConfig) (disk : Storage) : Except Fault String := do
  let storage := c.get? JobConfig.storageKey
  if let some file := inputFile then
    return match storage with
      | some dir => if file.startsWith "/" then file else joinPath dir file
      | none => file
  let dir ← match storage, c.get? JobConfig.inputKey with
    | some s, some i => pure (joinPath s i)
    | some s, none => pure s
    | none, some i => pure i
    | none, none => throw (.config "file spout needs inputFile or storageDirectory/input")
  let index ← c.require JobConfig.workerIndexKey
  let suffix := "." ++ index
  let names ← (disk.readDir dir).mapError IoError.toFault
  let shards := names.filter fun n => disk.isFile (joinPath dir n) && (joinPath dir n).endsWith suffix
  match shards with
  | first :: _ => return joinPath dir first
  | [] => throw (.io s!"no input shard ending in '{suffix}' under {dir}")

def recordsOf (c : JobConfig) : Except Fault (List (List String) × Fields) := do
  let key := match c.get? JobConfig.workerIndexKey with
    | some i => if (c.get? ("records." ++ i)).isSome then "records." ++ i else "records"
    | none => "records"
  let items ← match c.get? key with
    | some text => (Json.Shape.readText (.seq (.seq .string)) text).mapError Fault.ofRead
    | none => pure (.arr [])
  let fields ← match c.get? "recordFields" with
    | some text => (Fields.readJson =<< Json.Shape.readText Fields.shape text).mapError Fault.ofRead
    | none => pure pairFields
  let rows := match items with
    | .arr rows => rows.map fun row => match row with
      | .arr xs => xs.filterMap fun x => match x with | .str s => some s | _ => none
      | _ => []
    | _ => []
  return (rows, fields)

/-- What a spout is made from, before it is opened: a records spout has read its records and
their fields when it is made. -/
inductive SpoutPlan where
  | file (inputFile : Option String)
  | records (rows : List (List String)) (fields : Fields)
  | empty
  deriving Inhabited

def makeSpout (id : String) (c : JobConfig) : Except Fault SpoutPlan :=
  match id with
  | "file" => .ok (.file (c.get? JobConfig.inputFileKey))
  | "records" => do let (rows, fields) ← recordsOf c; return .records rows fields
  | "empty" => .ok .empty
  | _ => .error (.componentNotFound s!"spout '{id}'")

def openSpout (plan : SpoutPlan) (c : JobConfig) (job : String) (task parallelism : Nat)
    (disk : Storage) : Except Fault SpoutLogic :=
  match plan with
  | .file inputFile => do
    let path ← inputPath inputFile c disk
    let entry ← (disk.openRead path).mapError IoError.toFault
    return .file ⟨entry⟩ 0 task (max parallelism 1)
  | .records rows fields => do
    if c.contains "recordsRequireJob" && job.isEmpty then
      throw (.config "records spout needs a job id")
    return .records rows 0 fields task (max parallelism 1)
  | .empty => .ok .empty

end Registry

end Dataflow
