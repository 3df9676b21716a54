import Dataflow.Tuple
import Dataflow.Text.Blank
/-!
Scripted requests: a JSON object naming an operation of the library and its inputs, answered by a
JSON value. A success is an object with the one member `ok`, a fault of the library an object
with the members `error` (its code) and `message`.
Two outcomes are not the library's: a request whose members have the wrong type, and a
failed runtime check inside the library (an arithmetic overflow, an index out of range), which
ends the request with no answer of its own.
-/
namespace Dataflow.Script

inductive Abort where
  | malformed (message : String)
  /-- A failed runtime check (an arithmetic overflow, an index out of range) stopped the
  operation. -/
  | crashed (message : String)
  deriving Inhabited, Repr

def Abort.toJson : Abort → Json
  | .malformed m => .obj [("error", .str "bad_input"), ("message", .str m)]
  | .crashed m => .obj [("error", .str "panic"), ("message", .str m)]

abbrev Step := Except Abort

def ok (j : Json) : Json := .obj [("ok", j)]

def faultJson (f : Fault) : Json := .obj [("error", .str f.code), ("message", .str f.message)]

def result (r : Except Fault Json) : Json :=
  match r with
  | .ok j => ok j
  | .error f => faultJson f

def member? (j : Json) (k : String) : Option Json :=
  match j.field? k with
  | some .null => none
  | other => other

def wrongType {α : Type} (k what : String) : Step α := throw (.malformed s!"field '{k}' must be {what}")

def text (j : Json) (k : String) : Step String :=
  match member? j k with
  | some (.str s) => pure s
  | _ => wrongType k "a string"

def textOr (j : Json) (k : String) (d : String) : Step String :=
  match member? j k with
  | none => pure d
  | some (.str s) => pure s
  | _ => wrongType k "a string"

def text? (j : Json) (k : String) : Step (Option String) :=
  match member? j k with
  | none => pure none
  | some (.str s) => pure (some s)
  | _ => wrongType k "a string"

/-- A count given as a number, or as text holding one (an optional `+` and decimal digits), up
to 64 bits. -/
def countValue? : Json → Option Nat
  | .nat n => some n
  | .str s => Text.parseUnsigned (Text.wordMax 64) s
  | _ => none

def count (j : Json) (k : String) : Step Nat :=
  match (member? j k).bind countValue? with
  | some n => pure n
  | none => wrongType k "an unsigned integer"

def countOr (j : Json) (k : String) (d : Nat) : Step Nat :=
  match member? j k with
  | none => pure d
  | some v => match countValue? v with
    | some n => pure n
    | none => wrongType k "an unsigned integer"

def count? (j : Json) (k : String) : Step (Option Nat) :=
  match member? j k with
  | none => pure none
  | some v => match countValue? v with
    | some n => pure (some n)
    | none => wrongType k "an unsigned integer"

def looseText? (j : Json) (k : String) : Option String :=
  match member? j k with
  | some (.str s) => some s
  | _ => none

def flagOr (j : Json) (k : String) (d : Bool) : Step Bool :=
  match member? j k with
  | none => pure d
  | some (.bool b) => pure b
  | _ => wrongType k "a boolean"

def items (j : Json) (k : String) : Step (List Json) :=
  match member? j k with
  | none => pure []
  | some (.arr xs) => pure xs
  | _ => wrongType k "an array"

def stringsOf (k : String) : List Json → Step (List String)
  | [] => pure []
  | .str s :: rest => do return s :: (← stringsOf k rest)
  | _ :: _ => throw (.malformed s!"field '{k}' must hold strings")

def texts (j : Json) (k : String) : Step (List String) := do stringsOf k (← items j k)

def countsOf (k : String) : List Json → Step (List Nat)
  | [] => pure []
  | .nat n :: rest => do return n :: (← countsOf k rest)
  | _ :: _ => throw (.malformed s!"{k} must be unsigned integers")

def counts (j : Json) (k : String) : Step (List Nat) := do countsOf k (← items j k)

def members (j : Json) (k : String) : Step (List (String × Json)) :=
  match member? j k with
  | none => pure []
  | some (.obj ms) => pure ms
  | _ => wrongType k "an object"

def datum : Json → Step Datum
  | .str s => pure (.text s)
  | .arr xs =>
    if xs.all (fun x => match x with | .str _ => true | _ => false) then
      pure (.list (xs.filterMap fun x => match x with | .str s => some s | _ => none))
    else throw (.malformed "values must be strings or string arrays")
  | _ => throw (.malformed "values must be strings or string arrays")

/-- A tuple from its request form: an end of stream from the source in `eos`, a wire form in
`wire`, or `fields`, `values` and a `source` (`src` when absent). -/
def tuple (j : Json) : Step (Except Fault Tuple) := do
  match member? j "eos" with
  | some (.str src) => return .ok (Tuple.eos src)
  | some _ => throw (.malformed "eos must be a string")
  | none => pure ()
  if let some w := member? j "wire" then return (Tuple.readJson w).mapError Fault.ofRead
  let fields ← texts j "fields"
  let values ← (← items j "values").mapM datum
  let source ← textOr j "source" "src"
  return Tuple.make (Fields.ofList fields) values source

/-- A fault from its request form `{"kind": variant, ...}`; missing strings are empty. The kind
is read first, then the members of its variant in the order the variant lists them, a cause
before the context it explains. -/
def fault (j : Json) : Nat → Step Fault
  | 0 => pure .shuttingDown
  | depth + 1 => do
    let message : Step String := textOr j "message" ""
    match ← text j "kind" with
    | "Config" => return .config (← message)
    | "ComponentNotFound" => return .componentNotFound (← message)
    | "JobNotFound" => return .jobNotFound (← message)
    | "Timeout" => return .timeout (← message)
    | "Serialization" => return .serialization (← message)
    | "Io" => return .io (← message)
    | "ProtocolViolation" =>
      let executor ← textOr j "executor_id" ""
      return .protocolViolation executor (← textOr j "source_executor" "")
    | "RouterNotReady" =>
      let job ← textOr j "job_id" ""
      return .routerNotReady job (← textOr j "stream" "")
    | "Http" =>
      let status ← countOr j "status" 0
      if status > Text.wordMax 16 then throw (.malformed "status must fit u16")
      return .http status (← message)
    | "Execution" =>
      let cause ← match member? j "source" with
        | some s => some <$> fault s depth
        | none => pure none
      return .execution (← textOr j "context" "") cause
    | "ShuttingDown" => return .shuttingDown
    | other => throw (.malformed s!"unknown error kind '{other}'")

def causeDepth : Nat := 128

end Dataflow.Script
