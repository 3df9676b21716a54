import Dataflow.Topology
import Dataflow.Config
/-!
Assembling a topology from declarations: spouts in order, then bolts each with the groupings
declared on it. `create` reports the first mistake: a repeated spout name; then per bolt in
declaration order, a bolt with no grouping or more than one, then a name already taken by a spout
or an earlier bolt; then the structural checks of `Topology.validate`. The built-in map/reduce
pipeline is `file` → `map` → `reduce` → `print`, sized from the job configuration.
-/
namespace Dataflow

/-- A bolt declared on a builder, with the groupings declared on it so far. -/
structure BoltDraft where
  name : String
  component : String
  parallelism : Nat
  groupings : List (String × Grouping) := []
  deriving Repr, Inhabited

structure TopologyBuilder where
  spouts : List (String × SpoutDecl) := []
  bolts : List BoltDraft := []
  deriving Repr, Inhabited

namespace TopologyBuilder

def spout (b : TopologyBuilder) (name component : String) (parallelism : Nat) : TopologyBuilder :=
  { b with spouts := b.spouts ++ [(name, ⟨component, parallelism⟩)] }

def bolt (b : TopologyBuilder) (name component : String) (parallelism : Nat)
    (groupings : List (String × Grouping)) : TopologyBuilder :=
  { b with bolts := b.bolts ++ [⟨name, component, parallelism, groupings⟩] }

def addSpouts (t : Topology) : List (String × SpoutDecl) → Except Fault Topology
  | [] => .ok t
  | (n, s) :: rest =>
    if (t.spouts.lookup n).isSome then .error (.config s!"duplicate node name '{n}'")
    else addSpouts { t with spouts := Keyed.insert n s t.spouts } rest

def addBolts (t : Topology) : List BoltDraft → Except Fault Topology
  | [] => .ok t
  | d :: rest =>
    match d.groupings with
    | [] => .error (.config s!"bolt '{d.name}' has no grouping")
    | [(input, g)] =>
      if (t.spouts.lookup d.name).isSome ∨ (t.bolts.lookup d.name).isSome then
        .error (.config s!"duplicate node name '{d.name}'")
      else addBolts { t with bolts := Keyed.insert d.name ⟨d.component, d.parallelism, input, g⟩ t.bolts } rest
    | _ => .error (.config s!"bolt '{d.name}' declares more than one grouping")

def create (b : TopologyBuilder) : Except Fault Topology := do
  let t ← addSpouts {} b.spouts
  let t ← addBolts t b.bolts
  t.validate
  return t

end TopologyBuilder

/-- The built-in map/reduce pipeline: `mapExecutors` and `reduceExecutors` are required,
`spoutExecutors` and `printerExecutors` default to 1. -/
def mapReduceTopology (c : JobConfig) : Except Fault Topology := do
  let spouts ← c.countOr "spoutExecutors" 1
  let maps ← c.requireCount "mapExecutors"
  let reduces ← c.requireCount "reduceExecutors"
  let printers ← c.countOr "printerExecutors" 1
  let key := Grouping.fields (Fields.ofList ["key"])
  ({} : TopologyBuilder)
    |>.spout "WORD_SPOUT" "file" spouts
    |>.bolt "WORD_MAP" "map" maps [("WORD_SPOUT", key)]
    |>.bolt "WORD_REDUCE" "reduce" reduces [("WORD_MAP", key)]
    |>.bolt "WORD_PRINTER" "print" printers [("WORD_REDUCE", .broadcast)]
    |>.create

end Dataflow
