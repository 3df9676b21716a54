import Dataflow.Fault
import Dataflow.Json.ShapeText
/-!
Tuples: the unit of data between executors. A tuple holds field names without repeats, one value
per field, the id of the executor that emitted it, and an end-of-stream mark; an end-of-stream
tuple has no fields and no values. A value is a string or a list of strings; its key text, used
for hashing and printing, joins a list with commas.

The wire form is `{"fields", "values", "sourceExecutor", "endOfStream"}`; reading it accepts the
four members in any order, `endOfStream` defaulting to false, or an array of the four values, and
does not check that fields and values line up.
-/
namespace Dataflow

inductive Datum where
  | text (s : String)
  | list (items : List String)
  deriving DecidableEq, Repr, Inhabited

namespace Datum

def keyText : Datum → String
  | text s => s
  | list items => ",".intercalate items

def asText? : Datum → Option String
  | text s => some s
  | list _ => none

def toJson : Datum → Json
  | text s => .str s
  | list items => .strs items

def ofJson : Json → Datum
  | .arr items => list (items.filterMap fun j => match j with | .str s => some s | _ => none)
  | .str s => text s
  | _ => text ""

end Datum

structure Fields where
  names : List String
  deriving DecidableEq, Repr, Inhabited

namespace Fields

def ofList (names : List String) : Fields :=
  ⟨names.foldl (fun acc n => if acc.contains n then acc else acc ++ [n]) []⟩

def size (f : Fields) : Nat := f.names.length

def indexOf? (f : Fields) (name : String) : Option Nat := f.names.findIdx? (· == name)

def shape : Json.Shape := .seq .string

def ofForm (j : Json) : Fields :=
  match j with
  | .arr items => ofList (items.filterMap fun j => match j with | .str s => some s | _ => none)
  | _ => ⟨[]⟩

def readJson (j : Json) : Except ReadError Fields := (shape.readValue j).map ofForm

end Fields

structure Tuple where
  fields : Fields
  values : List Datum
  source : String
  endOfStream : Bool := false
  deriving DecidableEq, Repr, Inhabited

namespace Tuple

def make (fields : Fields) (values : List Datum) (source : String) : Except Fault Tuple :=
  if fields.size = values.length then .ok { fields, values, source }
  else .error (.fail s!"tuple has {fields.size} fields but {values.length} values")

def eos (source : String) : Tuple := { fields := ⟨[]⟩, values := [], source, endOfStream := true }

def get? (t : Tuple) (name : String) : Option Datum :=
  (t.fields.indexOf? name).bind fun i => t.values[i]?

def text (t : Tuple) (name : String) : Except Fault String :=
  match t.get? name with
  | some d => .ok d.keyText
  | none => .error (.fail s!"tuple has no field '{name}'")

def toJson (t : Tuple) : Json :=
  .obj [("fields", .strs t.fields.names), ("values", .arr (t.values.map Datum.toJson)),
    ("sourceExecutor", .str t.source), ("endOfStream", .bool t.endOfStream)]

def shape : Json.Shape :=
  .record "struct Tuple" [("fields", Fields.shape, none), ("values", .seq .slot, none),
    ("sourceExecutor", .string, none), ("endOfStream", .boolean, some (.bool false))]

def ofForm (j : Json) : Tuple :=
  { fields := Fields.ofForm ((j.field? "fields").getD (.arr []))
    values := match j.field? "values" with
      | some (.arr items) => items.map Datum.ofJson
      | _ => []
    source := match j.field? "sourceExecutor" with | some (.str s) => s | _ => ""
    endOfStream := match j.field? "endOfStream" with | some (.bool b) => b | _ => false }

def readJson (j : Json) : Except ReadError Tuple := (shape.readValue j).map ofForm

def readText (s : String) : Except ReadError Tuple := (shape.readText s).map ofForm

end Tuple

end Dataflow
