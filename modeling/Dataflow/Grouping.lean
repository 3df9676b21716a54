import Dataflow.Tuple
import Dataflow.KeyHash
/-!
Groupings: how a stream spreads tuples over the executors of its destination bolt. A fields
grouping sends equal values of the grouping fields to the same destination: the key is the
concatenated key texts of the grouping fields the tuple has, and the destination among `n` is the
key's hash modulo `n` (0 when there are none). Broadcast sends every tuple everywhere; shuffle
takes destinations in turn.
-/
namespace Dataflow

inductive Grouping where
  | fields (names : Fields)
  | broadcast
  | shuffle
  deriving DecidableEq, Repr, Inhabited

namespace Grouping

def toJson : Grouping → Json
  | fields names => .obj [("type", .str "fields"), ("fields", .strs names.names)]
  | broadcast => .obj [("type", .str "broadcast")]
  | shuffle => .obj [("type", .str "shuffle")]

def shape : Json.Shape :=
  .tagged "Grouping" "type" [
    ("fields", .record "struct variant Grouping::Fields" [("fields", Fields.shape, none)]),
    ("broadcast", .unit), ("shuffle", .unit)]

def ofForm (j : Json) : Grouping :=
  match j.field? "type" with
  | some (.str "fields") => fields (Fields.ofForm ((j.field? "fields").getD (.arr [])))
  | some (.str "broadcast") => broadcast
  | _ => shuffle

def readJson (j : Json) : Except ReadError Grouping := (shape.readValue j).map ofForm

end Grouping

/-- The partition key of a tuple: key texts of the grouping fields it has, concatenated. -/
def partitionKey (names : Fields) (t : Tuple) : String :=
  names.names.foldl (fun acc n => match t.get? n with
    | some d => acc ++ d.keyText
    | none => acc) ""

def partitionFor (key : String) (count : Nat) : Nat :=
  if count = 0 then 0 else (KeyHash.ofString key).toNat % count

end Dataflow
