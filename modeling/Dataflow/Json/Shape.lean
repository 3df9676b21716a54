import Dataflow.Json.Value
import Dataflow.Json.Number
import Dataflow.Text.Printable
/-!
Shapes: the JSON form of a library type, as a value that a reader can follow. Reading a value
against a shape either refuses it, with the words a reader of that type uses, or returns the value
in the form the type writes back: objects of records in declared field order with defaults filled
in, maps ordered by key with the last repeat winning, and variants spelled out.

This module reads a parsed value (a document already in memory). A member the shape does not
name is skipped. `Dataflow.Json.ShapeText` reads text directly, which reports errors with
positions and stops at the first one in text order.
-/
namespace Dataflow.Json

inductive Shape where
  | unit
  | string
  | boolean
  | unsigned (name : String) (bound : Nat)
  | seq (item : Shape)
  | map (item : Shape)
  | pair (first second : Shape)
  /-- A record named by `expecting` (`struct Tuple`), its fields with their defaults. It may also
  be written as an array of its field values in order. -/
  | record (expecting : String) (fields : List (String × Shape × Option Json))
  | slot
  /-- Variants told apart by the member `tag`; a variant's payload is `unit` or a `record`. It
  may also be written as an array: the variant's name, then the payload's field values in order. -/
  | tagged (name tag : String) (variants : List (String × Shape))
  /-- Variants written as their name alone (payload `unit`) or as a one-member object; a record
  payload must then be an object. -/
  | choice (name : String) (variants : List (String × Shape))
  deriving Inhabited

namespace Shape

def expecting : Shape → String
  | unit => "unit"
  | string => "a string"
  | boolean => "a boolean"
  | unsigned name _ => name
  | seq _ => "a sequence"
  | map _ => "a map"
  | pair _ _ => "a tuple of size 2"
  | record e _ => e
  | slot => "untagged enum Value"
  | tagged name _ _ => "internally tagged enum " ++ name
  | choice name _ => "enum " ++ name

end Shape

/-- A string as it is written for a reader's messages: quoted; NUL, tab, line feed, carriage
return, the quote and the backslash escaped by a backslash; every other character that does not
show as it is written as its code point, `\u` and lowercase hex digits in braces. -/
def debugQuote (s : String) : String :=
  let esc (c : Char) : String :=
    if c = '"' then "\\\"" else if c = '\\' then "\\\\"
    else if c = '\n' then "\\n" else if c = '\r' then "\\r" else if c = '\t' then "\\t"
    else if c = '\x00' then "\\0"
    else if Text.showsAsIs c then c.toString
    else "\\u" ++ "\x7b" ++ String.ofList (Nat.toDigits 16 c.toNat) ++ "\x7d"
  "\"" ++ s.foldl (fun acc c => acc ++ esc c) "" ++ "\""

def unexpected : Json → String
  | .null => "null"
  | .bool b => s!"boolean `{b}`"
  | .nat n => s!"integer `{n}`"
  | .neg n => s!"integer `{n}`"
  | .float x => s!"floating point `{Number.render x}`"
  | .str s => "string " ++ debugQuote s
  | .arr _ => "sequence"
  | .obj _ => "map"

def invalidType (what expected : String) : ReadError :=
  { message := s!"invalid type: {what}, expected {expected}" }

def invalidValue (what expected : String) : ReadError :=
  { message := s!"invalid value: {what}, expected {expected}" }

def invalidLength (n : Nat) (expected : String) : ReadError :=
  { message := s!"invalid length {n}, expected {expected}" }

def inSequence (n : Nat) : String :=
  if n = 1 then "1 element in sequence" else s!"{n} elements in sequence"

def withElements (expecting : String) (n : Nat) : String :=
  if n = 1 then s!"{expecting} with 1 element" else s!"{expecting} with {n} elements"

def missingField (name : String) : ReadError := { message := s!"missing field `{name}`" }

def duplicateField (name : String) : ReadError := { message := s!"duplicate field `{name}`" }

def oneOf : List String → String
  | [a] => s!"`{a}`"
  | [a, b] => s!"`{a}` or `{b}`"
  | names => "one of " ++ ", ".intercalate (names.map fun n => s!"`{n}`")

def unknownVariant (name : String) (names : List String) : ReadError :=
  if names.isEmpty then { message := s!"unknown variant `{name}`, there are no variants" }
  else { message := s!"unknown variant `{name}`, expected {oneOf names}" }

def slotMismatch : ReadError := { message := "data did not match any variant of untagged enum Value" }

def checkUnsigned (name : String) (bound : Nat) (j : Json) : Except ReadError Json :=
  match j with
  | .nat n => if n ≤ bound then .ok (.nat n) else .error (invalidValue (unexpected j) name)
  | .neg _ => .error (invalidValue (unexpected j) name)
  | _ => .error (invalidType (unexpected j) name)

def readSlot (j : Json) : Except ReadError Json :=
  match j with
  | .str s => .ok (.str s)
  | .arr items => if items.all (fun x => match x with | .str _ => true | _ => false) then .ok j
                  else .error slotMismatch
  | _ => .error slotMismatch

def fieldShape (fields : List (String × Shape × Option Json)) (name : String) : Option Shape :=
  (fields.find? (·.1 = name)).map (·.2.1)

/-- A record's fields in declared order from the values found, a default standing in for a field
not found; the first field with neither is reported missing. -/
def assemble (fields : List (String × Shape × Option Json)) (found : List (String × Json)) :
    Except ReadError (List (String × Json)) :=
  fields.mapM fun (name, _, default) =>
    match found.lookup name, default with
    | some v, _ => .ok (name, v)
    | none, some d => .ok (name, d)
    | none, none => .error (missingField name)

def variantNamed (variants : List (String × Shape)) (j : Json) : Except ReadError (String × Shape) :=
  match j with
  | .str name =>
    match variants.lookup name with
    | some s => .ok (name, s)
    | none => .error (unknownVariant name (variants.map (·.1)))
  | _ => .error (invalidType (unexpected j) "variant identifier")

def readTag (tag : String) (variants : List (String × Shape)) :
    List (String × Json) → Option (String × Shape) → List (String × Json) →
    Except ReadError (Option (String × Shape) × List (String × Json))
  | [], found, rest => .ok (found, rest)
  | (k, x) :: members, found, rest =>
    if k = tag then
      if found.isSome then .error (duplicateField tag)
      else do
        let v ← variantNamed variants x
        readTag tag variants members (some v) rest
    else readTag tag variants members found (rest ++ [(k, x)])
mutual
def read : Nat → Shape → Json → Except ReadError Json
  | 0, _, _ => .error { message := "recursion limit exceeded" }
  | fuel + 1, s, j =>
    match s, j with
    | .unit, .null => .ok .null
    | .string, .str x => .ok (.str x)
    | .boolean, .bool b => .ok (.bool b)
    | .unsigned name bound, .nat _ => checkUnsigned name bound j
    | .unsigned name bound, .neg _ => checkUnsigned name bound j
    | .seq item, .arr items => (readItems fuel item items).map .arr
    | .map item, .obj members => (readMap fuel item members).map fun ms => .obj (asMap ms)
    | .pair a b, .arr items =>
      match items with
      | [] => .error (invalidLength 0 "a tuple of size 2")
      | [x] => do let _ ← read fuel a x; throw (invalidLength 1 "a tuple of size 2")
      | [x, y] => do return .arr [← read fuel a x, ← read fuel b y]
      | x :: y :: _ => do
        let _ ← read fuel a x
        let _ ← read fuel b y
        throw (invalidLength items.length "fewer elements in array")
    | .record _ fields, .obj members => do
      let found ← readFields fuel fields members []
      return .obj (← assemble fields found)
    | .record e fields, .arr items => do
      let values ← readPositional fuel e fields.length fields items 0
      if fields.length < items.length then
        throw (invalidLength items.length "fewer elements in array")
      return .obj values
    | .slot, _ => readSlot j
    | .tagged _ tag variants, .obj members => do
      let (variant, rest) ← readTag tag variants members none []
      match variant with
      | none => throw (missingField tag)
      | some (v, payload) =>
        match payload with
        | .record _ _ =>
          match ← read fuel payload (.obj rest) with
          | .obj ms => return .obj ((tag, .str v) :: ms)
          | other => return other
        | _ => return .obj [(tag, .str v)]
    | .tagged _ tag variants, .arr items =>
      match items with
      | [] => .error (missingField tag)
      | x :: rest => do
        let (v, payload) ← variantNamed variants x
        match payload with
        | .record e fields => do
          let values ← readPositional fuel e fields.length fields rest 0
          if fields.length < rest.length then
            throw (invalidLength rest.length (inSequence fields.length))
          return .obj ((tag, .str v) :: values)
        | _ =>
          if rest.isEmpty then return .obj [(tag, .str v)]
          else throw (invalidLength rest.length (inSequence 0))
    | .choice _ variants, .obj members =>
      match members with
      | [(k, v)] => do
        let (name, payload) ← variantNamed variants (.str k)
        match payload with
        | .unit => do let _ ← read fuel .unit v; return .str name
        | .record _ _ =>
          match v with
          | .obj _ => return .obj [(name, ← read fuel payload v)]
          | _ => throw (invalidType (unexpected v) "struct variant")
        | _ => return .obj [(name, ← read fuel payload v)]
      | _ => .error (invalidValue "map" "map with a single key")
    | .choice _ variants, .str k => do
      let (name, payload) ← variantNamed variants (.str k)
      match payload with
      | .unit => return .str name
      | .record _ _ => throw (invalidType "unit variant" "struct variant")
      | _ => throw (invalidType "unit variant" "newtype variant")
    | .choice _ _, _ => .error (invalidType (unexpected j) "string or map")
    | _, _ => .error (invalidType (unexpected j) s.expecting)
termination_by fuel _ _ => (fuel, 0, 0)

def readItems (fuel : Nat) (item : Shape) : List Json → Except ReadError (List Json)
  | [] => .ok []
  | x :: rest => do return (← read fuel item x) :: (← readItems fuel item rest)
termination_by xs => (fuel, 1, sizeOf xs)

def readMap (fuel : Nat) (item : Shape) : List (String × Json) → Except ReadError (List (String × Json))
  | [] => .ok []
  | (k, x) :: rest => do return (k, ← read fuel item x) :: (← readMap fuel item rest)
termination_by xs => (fuel, 1, sizeOf xs)

/-- Members of an object against a record's fields, in member order; a field given twice is
refused before its second value is read, and members the record does not name are skipped. -/
def readFields (fuel : Nat) (fields : List (String × Shape × Option Json)) :
    List (String × Json) → List (String × Json) → Except ReadError (List (String × Json))
  | [], found => .ok found
  | (k, x) :: rest, found =>
    match fieldShape fields k with
    | none => readFields fuel fields rest found
    | some s =>
      if (found.lookup k).isSome then .error (duplicateField k)
      else do
        let v ← read fuel s x
        readFields fuel fields rest (found ++ [(k, v)])
termination_by xs _ => (fuel, 1, sizeOf xs)

def readPositional (fuel : Nat) (expecting : String) (count : Nat) :
    List (String × Shape × Option Json) → List Json → Nat → Except ReadError (List (String × Json))
  | [], _, _ => .ok []
  | (name, s, default) :: fields, items, index =>
    match items with
    | x :: rest => do
      let v ← read fuel s x
      return (name, v) :: (← readPositional fuel expecting count fields rest (index + 1))
    | [] =>
      match default with
      | some d => do return (name, d) :: (← readPositional fuel expecting count fields [] (index + 1))
      | none => .error (invalidLength index (withElements expecting count))
termination_by fs _ _ => (fuel, 1, sizeOf fs)

end

def shapeFuel : Nat := 64

def Shape.readValue (s : Shape) (j : Json) : Except ReadError Json := read shapeFuel s j

end Dataflow.Json
