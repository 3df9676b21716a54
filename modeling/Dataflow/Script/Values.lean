import Dataflow.Script.Request
import Dataflow.Grouping
import Dataflow.Vote
import Dataflow.Remote
/-!
Requests on values: field lists, tuples and their wire text, partitioning by key, end-of-stream
tallies and push endpoints.
-/
namespace Dataflow.Script

/-- Field names from `names`, or read from the JSON form in `json`, with the positions of the
names in `query` (an object, so in name order). The names are read first; when the JSON form
cannot be read, that is the answer. -/
def fieldsAnswer (j : Json) : Step Json := do
  let fields ← match member? j "json" with
    | some form => pure ((Fields.readJson form).mapError Fault.ofRead)
    | none => do pure (.ok (Fields.ofList (← texts j "names")))
  match fields with
  | .error f => return faultJson f
  | .ok f =>
  let query ← texts j "query"
  return ok (.obj [("names", .strs f.names), ("len", .nat f.size), ("is_empty", .bool f.names.isEmpty),
    ("index_of", .obj (Json.asMap (query.map fun q => (q, Json.natOpt (f.indexOf? q))))),
    ("json", .strs f.names)])

def fieldReport (t : Tuple) (name : String) : Json :=
  let d := t.get? name
  .obj [("name", .str name), ("get", (d.map Datum.toJson).getD .null),
    ("key_string", Json.strOpt (d.map Datum.keyText)),
    ("as_str", Json.strOpt (d.bind Datum.asText?)),
    ("string", result ((t.text name).map Json.str))]

/-- A tuple and what it says about the names in `query`. The tuple is made first; when it
cannot be made, that is the answer. -/
def tupleAnswer (j : Json) : Step Json := do
  match ← tuple j with
  | .error f => return faultJson f
  | .ok t =>
  let query ← texts j "query"
  return ok (.obj [("wire", t.toJson), ("eos", .bool t.endOfStream), ("source", .str t.source),
    ("fields", .strs t.fields.names), ("values", .strs (t.values.map Datum.keyText)),
    ("query", .arr (query.map (fieldReport t)))])

def tupleParseAnswer (j : Json) : Step Json := do
  let parsed := (Tuple.readText (← text j "text")).mapError Fault.ofRead
  return result <| parsed.map fun t =>
    .obj [("wire", t.toJson), ("eos", .bool t.endOfStream), ("source", .str t.source)]

/-- The destination indices of a key for each count in `counts`; the key is given, or made from
a tuple and grouping fields. The key is found first; a tuple that cannot be made is the answer. -/
def partitionAnswer (j : Json) : Step Json := do
  let key : Except Fault String ← match member? j "tuple" with
    | some spec => do
      match ← tuple spec with
      | .error f => pure (.error f)
      | .ok t => pure (.ok (partitionKey (Fields.ofList (← texts j "grouping")) t))
    | none => do pure (.ok (← text j "key"))
  match key with
  | .error f => return faultJson f
  | .ok key =>
  let counts ← counts j "counts"
  return ok (.obj [("key", .str key), ("indices", .arr (counts.map fun n => .nat (partitionFor key n)))])

/-- Votes cast one by one: each vote's answer, the number of voters, and whether consensus holds. -/
def tallySteps : Tally → List String → List Json
  | _, [] => []
  | t, v :: rest =>
    let (won, t) := t.vote v
    .arr [.bool won, .nat t.votes, .bool t.reached] :: tallySteps t rest

def consensusAnswer (j : Json) : Step Json := do
  let expected ← count j "expected"
  let votes ← texts j "votes"
  return ok (.obj [("expected", .nat expected), ("steps", .arr (tallySteps { expected } votes))])

/-- A push endpoint URL from `address`, `stream` and `job`, for a batch when `batch` says so. -/
def pushUrlAnswer (j : Json) : Step Json := do
  let address ← text j "address"
  let stream ← text j "stream"
  let job ← text j "job"
  return ok (.str (pushUrl address stream job (← flagOr j "batch" false)))

end Dataflow.Script
