import Dataflow.Grouping
import Dataflow.Keyed
/-!
Topologies: the job graph, identical on every worker. Spouts and bolts are named nodes with a
component id and a per-worker parallelism; each bolt subscribes to one input node through a
grouping. A topology is well formed when it has a spout, no node is both spout and bolt, every
parallelism is positive, every input node is declared, no fields grouping is empty, and following
input nodes from any bolt reaches a spout (no cycle). `validate` reports the first defect in the
order: spouts by name, then bolts by name.
-/
namespace Dataflow

structure SpoutDecl where
  component : String
  parallelism : Nat
  deriving DecidableEq, Repr, Inhabited

structure BoltDecl where
  component : String
  parallelism : Nat
  input : String
  grouping : Grouping
  deriving DecidableEq, Repr, Inhabited

structure Topology where
  spouts : List (String × SpoutDecl) := []
  bolts : List (String × BoltDecl) := []
  deriving DecidableEq, Repr, Inhabited

namespace Topology

def parallelism (t : Topology) (node : String) : Option Nat :=
  match t.spouts.lookup node with
  | some s => some s.parallelism
  | none => (t.bolts.lookup node).map (·.parallelism)

def subscribers (t : Topology) (node : String) : List String :=
  (t.bolts.filter (·.2.input = node)).map (·.1)

/-- Follows input nodes from a bolt until a node that is not a bolt; a bolt met twice is a cycle. -/
def reachesSpout (t : Topology) (bolt : String) : Except Fault Unit :=
  go (t.bolts.length + 1) bolt []
where
  go : Nat → String → List String → Except Fault Unit
    | 0, _, _ => .error (.config s!"bolt '{bolt}' is part of a cycle")
    | fuel + 1, current, seen =>
      match t.bolts.lookup current with
      | none => .ok ()
      | some d =>
        if seen.contains current then .error (.config s!"bolt '{bolt}' is part of a cycle")
        else go fuel d.input (current :: seen)

def checkSpout (t : Topology) (name : String) (s : SpoutDecl) : Except Fault Unit := do
  if s.parallelism = 0 then throw (.config s!"spout '{name}' has parallelism 0")
  if (t.bolts.lookup name).isSome then throw (.config s!"node '{name}' declared as both spout and bolt")

def checkBolt (t : Topology) (name : String) (b : BoltDecl) : Except Fault Unit := do
  if b.parallelism = 0 then throw (.config s!"bolt '{name}' has parallelism 0")
  if (t.parallelism b.input).isNone then
    throw (.config s!"bolt '{name}' subscribes to undeclared node '{b.input}'")
  if b.grouping = .fields ⟨[]⟩ then throw (.config s!"bolt '{name}' has an empty fields grouping")
  t.reachesSpout name

def validate (t : Topology) : Except Fault Unit := do
  if t.spouts.isEmpty then throw (.config "topology declares no spouts")
  t.spouts.forM fun (n, s) => t.checkSpout n s
  t.bolts.forM fun (n, b) => t.checkBolt n b

def toJson (t : Topology) : Json :=
  .obj [("spouts", .obj (t.spouts.map fun (n, s) =>
          (n, .obj [("component", .str s.component), ("parallelism", .nat s.parallelism)]))),
        ("bolts", .obj (t.bolts.map fun (n, b) =>
          (n, .obj [("component", .str b.component), ("parallelism", .nat b.parallelism),
                    ("upstream", .str b.input), ("grouping", b.grouping.toJson)])))]

def shape : Json.Shape :=
  let count : Json.Shape := .unsigned "usize" (Nat.pow 2 64 - 1)
  .record "struct Topology" [
    ("spouts", .map (.record "struct SpoutDecl"
      [("component", .string, none), ("parallelism", count, none)]), none),
    ("bolts", .map (.record "struct BoltDecl"
      [("component", .string, none), ("parallelism", count, none), ("upstream", .string, none),
       ("grouping", Grouping.shape, none)]), none)]

def textOf (j : Json) (k : String) : String :=
  match j.field? k with
  | some (.str s) => s
  | _ => ""

def countOf (j : Json) (k : String) : Nat :=
  match j.field? k with
  | some (.nat n) => n
  | _ => 0

def membersOf (j : Json) (k : String) : List (String × Json) :=
  match j.field? k with
  | some (.obj ms) => ms
  | _ => []

def ofForm (j : Json) : Topology :=
  { spouts := (membersOf j "spouts").map fun (n, s) => (n, ⟨textOf s "component", countOf s "parallelism"⟩)
    bolts := (membersOf j "bolts").map fun (n, b) =>
      (n, ⟨textOf b "component", countOf b "parallelism", textOf b "upstream",
        Grouping.ofForm ((b.field? "grouping").getD .null)⟩) }

def readJson (j : Json) : Except ReadError Topology := (shape.readValue j).map ofForm

end Topology

end Dataflow
