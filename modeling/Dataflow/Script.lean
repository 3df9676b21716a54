import Dataflow.Script.Values
import Dataflow.Script.Setup
import Dataflow.Script.Graph
import Dataflow.Script.Reports
import Dataflow.Script.Flow
import Dataflow.Script.Cluster
import Dataflow.Json.Read
import Dataflow.Json.Write
import Dataflow.Text.Uuid
/-!
Answering scripted requests: a line of JSON text naming an operation in `op`, answered by a line
of JSON text.
-/
namespace Dataflow.Script

/-- The answer to a request on values, configuration, topologies or executors, by its `op`. -/
def valueAnswer (op : String) (j : Json) : Step Json :=
  match op with
  | "fields" => fieldsAnswer j
  | "tuple" => tupleAnswer j
  | "tuple_parse" => tupleParseAnswer j
  | "partition" => partitionAnswer j
  | "consensus" => consensusAnswer j
  | "push_url" => pushUrlAnswer j
  | "config" => configAnswer j
  | "runtime_config" => settingsAnswer j
  | "error" => faultAnswer j
  | "retry_delay" => retryDelayAnswer j
  | "retry_run" => retryRunAnswer j
  | "topology_build" => topologyBuildAnswer j
  | "topology_validate" => topologyValidateAnswer j
  | "map_reduce_topology" => mapReduceAnswer j
  | "worker_status" => workerStatusAnswer j
  | "status_board" => statusBoardAnswer j
  | "sender" => senderAnswer j
  | "router" => routerAnswer j
  | "executor" => executorAnswer j
  | "spout" => spoutAnswer j
  | other => throw (.malformed s!"unknown op '{other}'")

/-- The answer to a request, with how the identifiers named while it ran are replaced: a
network of workers names those in its job ids as it goes, and labels its executors. -/
def answer (j : Json) : Json × Uuid.Naming :=
  match text j "op" with
  | .error e => (e.toJson, {})
  | .ok "cluster" => clusterAnswer j
  | .ok op =>
    match valueAnswer op j with
    | .ok a => (a, {})
    | .error e => (e.toJson, {})

mutual
/-- Names the identifiers in the strings and keys of a value, members in the order given, each
key before its value. -/
def nameIds (n : Uuid.Naming) : Json → Json × Uuid.Naming
  | .str s => let (s, n) := n.rename s; (.str s, n)
  | .arr xs => let (xs, n) := nameIdsItems n xs; (.arr xs, n)
  | .obj ms => let (ms, n) := nameIdsMembers n ms; (.obj ms, n)
  | j => (j, n)

def nameIdsItems (n : Uuid.Naming) : List Json → List Json × Uuid.Naming
  | [] => ([], n)
  | x :: xs =>
    let (x, n) := nameIds n x
    let (xs, n) := nameIdsItems n xs
    (x :: xs, n)

def nameIdsMembers (n : Uuid.Naming) : List (String × Json) → List (String × Json) × Uuid.Naming
  | [] => ([], n)
  | (k, v) :: ms =>
    let (k, n) := n.rename k
    let (v, n) := nameIds n v
    let (ms, n) := nameIdsMembers n ms
    ((k, v) :: ms, n)
end

/-- An answer as a map at every depth, with every identifier replaced: labelled ones by their
labels, those already named keeping their rank, and the others ranked after them by first
appearance when the answer is read in key order. -/
def withNamedIds (n : Uuid.Naming) (j : Json) : Json := (nameIds n (Json.canonical j)).1

/-- The answer to a request line, as a line. The request is read as a value whose objects are
maps: members ordered by key, the last of equal keys kept. -/
def answerLine (line : String) : String :=
  match Json.parse line with
  | .ok j =>
    let (a, named) := answer (Json.canonical j)
    Json.render (withNamedIds named a)
  | .error e => Json.render (Abort.toJson (.malformed s!"invalid JSON: {e.text}"))

end Dataflow.Script
