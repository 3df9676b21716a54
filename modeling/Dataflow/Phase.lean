import Dataflow.Json.Shape
/-!
Job phases, as a worker reports them: a job starts in `init`, maps, reduces, and ends `idle`;
`indexing` is a phase a job may be put in by hand. Phases are written in capitals.
-/
namespace Dataflow

inductive Phase where
  | init
  | mapping
  | reducing
  | indexing
  | idle
  deriving DecidableEq, Repr, Inhabited

namespace Phase

def name : Phase → String
  | init => "INIT"
  | mapping => "MAPPING"
  | reducing => "REDUCING"
  | indexing => "INDEXING"
  | idle => "IDLE"

def all : List Phase := [init, mapping, reducing, indexing, idle]

def ofName? (s : String) : Option Phase := all.find? (·.name = s)

def shape : Json.Shape := .choice "JobPhase" (all.map fun p => (p.name, .unit))

def ofForm (j : Json) : Phase :=
  match j with
  | .str s => (ofName? s).getD init
  | _ => init

end Phase

end Dataflow
