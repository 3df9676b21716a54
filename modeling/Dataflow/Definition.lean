import Dataflow.Topology
import Dataflow.Config
/-!
Job definitions: what a worker is asked to run, a topology with its job configuration. The JSON
form is an object with the members `topology` and `config`.
-/
namespace Dataflow

structure JobDefinition where
  topology : Topology
  config : JobConfig
  deriving Inhabited

namespace JobDefinition

def shape : Json.Shape :=
  .record "struct WorkerJob" [("topology", Topology.shape, none), ("config", JobConfig.shape, none)]

def ofForm (j : Json) : JobDefinition :=
  { topology := Topology.ofForm ((j.field? "topology").getD .null)
    config := JobConfig.ofForm ((j.field? "config").getD .null) }

def readText (s : String) : Except ReadError JobDefinition := (shape.readText s).map ofForm

def toJson (d : JobDefinition) : Json := .obj [("topology", d.topology.toJson), ("config", d.config.toJson)]

end JobDefinition

end Dataflow
