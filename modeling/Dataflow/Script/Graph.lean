import Dataflow.Script.Setup
import Dataflow.Topology.Builder
/-!
Requests on topologies: built from declarations, read from JSON and checked, or made by the
built-in map/reduce pipeline; each answered with the topology, the parallelism of every node and
the subscribers of every node.
-/
namespace Dataflow.Script

def topologyReport (t : Topology) : Json :=
  let nodes := Json.asMap ((t.spouts.map fun (n, _) => (n, Json.null)) ++ t.bolts.map fun (n, _) => (n, .null))
  .obj [("topology", t.toJson),
    ("parallelism", .obj (nodes.map fun (n, _) => (n, Json.natOpt (t.parallelism n)))),
    ("subscribers", .obj (nodes.map fun (n, _) => (n, .strs (t.subscribers n))))]

/-- A grouping declaration: its input node, then its kind, then for a fields grouping the
fields; `first` is a broadcast. -/
def groupingDecl (j : Json) : Step (String × Grouping) := do
  let input ← text j "upstream"
  match ← text j "type" with
  | "fields" => return (input, .fields (Fields.ofList (← texts j "fields")))
  | "broadcast" | "first" => return (input, .broadcast)
  | "shuffle" => return (input, .shuffle)
  | other => throw (.malformed s!"unknown grouping '{other}'")

/-- Node declarations from a request: each spout's name, component and parallelism, then each
bolt's, with its grouping declarations. -/
def builderOf (j : Json) : Step TopologyBuilder := do
  let b ← (← items j "spouts").foldlM (fun (b : TopologyBuilder) s => do
    let name ← text s "name"
    let component ← text s "component"
    return b.spout name component (← count s "parallelism")) {}
  (← items j "bolts").foldlM (fun b d => do
    let name ← text d "name"
    let component ← text d "component"
    let parallelism ← count d "parallelism"
    return b.bolt name component parallelism (← (← items d "groupings").mapM groupingDecl)) b

def topologyBuildAnswer (j : Json) : Step Json := do
  return result ((← builderOf j).create.map topologyReport)

def topologyValidateAnswer (j : Json) : Step Json := do
  let t := (Topology.readJson ((member? j "topology").getD .null)).mapError Fault.ofRead
  return result do
    let t ← t
    t.validate
    return topologyReport t

def mapReduceAnswer (j : Json) : Step Json := do
  let c := (JobConfig.readJson ((member? j "config").getD (.obj []))).mapError Fault.ofRead
  return result do
    return topologyReport (← mapReduceTopology (← c))

end Dataflow.Script
