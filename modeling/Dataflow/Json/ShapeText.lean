import Dataflow.Json.Read
import Dataflow.Json.Shape
/-!
Reading text against a shape in one pass. Errors that arise at a character carry its place at
once. Errors about meaning (a missing field, a repeated one, a slot of the wrong form) arise after
some text has been read; they take the place where the innermost array, object or record around
them stops reading, which first moves past blanks and its own closing bracket, or past a comma
and the blanks after it. A tuple slot and a tagged variant are read as a whole value first and
then against their shape.

Every array and object opened counts against one nesting limit, whether it is read against a
shape or as a whole value. A member that a record does not name is skipped (`skipValue`), which
neither counts nesting nor checks escapes and numbers beyond their syntax.
-/
namespace Dataflow.Json

abbrev Halt := ReadError × Nat

def settle (src : Source) (i : Nat) (e : ReadError) : ReadError :=
  match e.place with
  | some _ => e
  | none => { e with place := some (placeOf src i) }

def seqStop (src : Source) (i : Nat) : Nat :=
  let j := skipBlank src i
  match charAt src j with
  | some ']' => j + 1
  | some ',' => skipBlank src (j + 1)
  | _ => j

/-- Where the end of an object leaves the reader when an error is already on its way. -/
def mapStop (src : Source) (i : Nat) : Nat :=
  let j := skipBlank src i
  match charAt src j with
  | some '\x7d' => j + 1
  | _ => j

def closeSeq (src : Source) (i : Nat) : Except ReadError Nat :=
  let j := skipBlank src i
  match charAt src j with
  | some ']' => .ok (j + 1)
  | some ',' =>
    let k := skipBlank src (j + 1)
    match charAt src k with
    | some ']' => .error (failPeek src k "trailing comma")
    | _ => .error (failPeek src k "trailing characters")
  | some _ => .error (failPeek src j "trailing characters")
  | none => .error (failPeek src j "EOF while parsing a list")

def closeMap (src : Source) (i : Nat) : Except ReadError Nat :=
  let j := skipBlank src i
  match charAt src j with
  | some '\x7d' => .ok (j + 1)
  | some ',' => .error (failPeek src j "trailing comma")
  | some _ => .error (failPeek src j "trailing characters")
  | none => .error (failPeek src j "EOF while parsing an object")

/-- Finishes an array read by `body`: closes it, or settles the body's error where the array
stops. -/
def finishSeq {α : Type} (src : Source) (body : Except Halt (α × Nat)) : Except Halt (α × Nat) :=
  match body with
  | .ok (x, k) =>
    match closeSeq src k with
    | .ok k' => .ok (x, k')
    | .error e => .error (e, k)
  | .error (e, k) => let k' := seqStop src k; .error (settle src k' e, k')

def finishMap {α : Type} (src : Source) (body : Except Halt (α × Nat)) : Except Halt (α × Nat) :=
  match body with
  | .ok (x, k) =>
    match closeMap src k with
    | .ok k' => .ok (x, k')
    | .error e => .error (e, k)
  | .error (e, k) => let k' := mapStop src k; .error (settle src k' e, k')

def placed {α : Type} (r : Except ReadError α) : Except Halt α :=
  r.mapError fun e => (e, 0)

/-- The error for a value of the wrong kind at position `j`: the value is read to name it, and
the place is after it (at it, for an array or an object). -/
def wrongKind {α : Type} (src : Source) (j : Nat) (expected : String) : Except Halt α :=
  match charAt src j with
  | some '[' => .error (failAt src j s!"invalid type: sequence, expected {expected}", j)
  | some '\x7b' => .error (failAt src j s!"invalid type: map, expected {expected}", j)
  | _ =>
    match scanValue src 4 depthLimit j with
    | .ok (v, k) => .error (failAt src k s!"invalid type: {unexpected v}, expected {expected}", k)
    | .error e => .error (e, j)

/-- Whether another item follows in an array: the position of the item, or `none` at the
closing bracket (not consumed). -/
def nextItem (src : Source) (i : Nat) (first : Bool) : Except Halt (Option Nat) :=
  let j := skipBlank src i
  match charAt src j with
  | none => .error (failPeek src j "EOF while parsing a list", j)
  | some ']' => .ok none
  | some c =>
    if first then .ok (some j)
    else if c = ',' then
      let k := skipBlank src (j + 1)
      match charAt src k with
      | some ']' => .error (failPeek src k "trailing comma", k)
      | some _ => .ok (some k)
      | none => .error (failPeek src k "EOF while parsing a value", k)
    else .error (failPeek src j "expected `,` or `]`", j)

/-- Whether another member follows in an object: the position of its key's opening quote, or
`none` at the closing brace (not consumed). -/
def nextKey (src : Source) (i : Nat) (first : Bool) : Except Halt (Option Nat) :=
  let j := skipBlank src i
  match charAt src j with
  | none => .error (failPeek src j "EOF while parsing an object", j)
  | some '\x7d' => .ok none
  | some c =>
    if first then
      if c = '"' then .ok (some j) else .error (failPeek src j "key must be a string", j)
    else if c = ',' then
      let k := skipBlank src (j + 1)
      match charAt src k with
      | some '"' => .ok (some k)
      | some '\x7d' => .error (failPeek src k "trailing comma", k)
      | some _ => .error (failPeek src k "key must be a string", k)
      | none => .error (failPeek src k "EOF while parsing a value", k)
    else .error (failPeek src j "expected `,` or `\x7d`", j)

def colon (src : Source) (i : Nat) : Except Halt Nat :=
  let m := skipBlank src i
  match charAt src m with
  | some ':' => .ok (m + 1)
  | some _ => .error (failPeek src m "expected `:`", m)
  | none => .error (failPeek src m "EOF while parsing an object", m)

def key (src : Source) (k : Nat) : Except Halt (String × Nat) := placed (scanString src (k + 1) [])

def wholeValue (src : Source) (depth i : Nat) : Except Halt (Json × Nat) :=
  placed (scanValue src (src.size + 2) depth i)

def skipped (src : Source) (i : Nat) : Except Halt Nat := placed (skipValue src (skipFuel src) i)

def variantText (src : Source) (variants : List (String × Shape)) (i : Nat) :
    Except Halt ((String × Shape) × Nat) :=
  let j := skipBlank src i
  match charAt src j with
  | some '"' => do
    let (name, k) ← placed (scanString src (j + 1) [])
    match variants.lookup name with
    | some s => return ((name, s), k)
    | none => throw (settle src k (unknownVariant name (variants.map (·.1))), k)
  | none => .error (failPeek src j "EOF while parsing a value", j)
  | some _ => wrongKind src j "variant identifier"

def wholeItems (src : Source) (fuel depth i : Nat) (acc : List Json) : Except Halt (List Json × Nat) :=
  match fuel with
  | 0 => .error (failAt src i "recursion limit exceeded", i)
  | fuel + 1 => do
    match ← nextItem src i false with
    | none => return (acc.reverse, i)
    | some k =>
      let (x, k') ← wholeValue src depth k
      wholeItems src fuel depth k' (x :: acc)

/-- The items of a tagged variant written as an array: its name first, then the rest as whole
values; no name in an empty array. -/
def tagItems (src : Source) (fuel depth : Nat) (variants : List (String × Shape)) (i : Nat) :
    Except Halt ((Option String × List Json) × Nat) := do
  match ← nextItem src i true with
  | none => return ((none, []), i)
  | some k =>
    let ((name, _), k1) ← variantText src variants k
    let (rest, k2) ← wholeItems src fuel depth k1 []
    return ((some name, rest), k2)

/-- The error for an array or object opened with no nesting left, at its bracket `j`. -/
def tooDeep {α : Type} (src : Source) (j : Nat) : Except Halt α :=
  .error (failPeek src j "recursion limit exceeded", j)

mutual
def follow (src : Source) (fuel depth : Nat) (s : Shape) (i : Nat) : Except Halt (Json × Nat) :=
  match fuel with
  | 0 => .error (failAt src i "recursion limit exceeded", i)
  | fuel + 1 =>
    let j := skipBlank src i
    match charAt src j with
    | none => .error (failPeek src j "EOF while parsing a value", j)
    | some c =>
      match s with
      | .unit =>
        if c = 'n' then placed ((expectWord src (j + 1) ['u', 'l', 'l']).map fun k => (.null, k))
        else wrongKind src j s.expecting
      | .string =>
        if c = '"' then placed ((scanString src (j + 1) []).map fun (x, k) => (.str x, k))
        else wrongKind src j s.expecting
      | .boolean =>
        if c = 't' then placed ((expectWord src (j + 1) ['r', 'u', 'e']).map fun k => (.bool true, k))
        else if c = 'f' then
          placed ((expectWord src (j + 1) ['a', 'l', 's', 'e']).map fun k => (.bool false, k))
        else wrongKind src j s.expecting
      | .unsigned name bound =>
        if c = '-' ∨ isDigit c then do
          let (v, k) ← placed (scanNumber src (if c = '-' then j + 1 else j) (c ≠ '-'))
          match checkUnsigned name bound v with
          | .ok v => return (v, k)
          | .error e => throw (settle src k e, k)
        else wrongKind src j s.expecting
      | .seq item =>
        if c = '[' then
          if depth ≤ 1 then tooDeep src j
          else finishSeq src ((followItems src fuel (depth - 1) item (j + 1) true []).map
            fun (xs, k) => (.arr xs, k))
        else wrongKind src j s.expecting
      | .map item =>
        if c = '\x7b' then
          if depth ≤ 1 then tooDeep src j
          else finishMap src ((followEntries src fuel (depth - 1) item (j + 1) true []).map
            fun (ms, k) => (.obj (asMap ms), k))
        else wrongKind src j s.expecting
      | .pair a b =>
        if c = '[' then
          if depth ≤ 1 then tooDeep src j
          else finishSeq src (followPair src fuel (depth - 1) a b (j + 1))
        else wrongKind src j s.expecting
      | .record e fields =>
        if c = '[' then
          if depth ≤ 1 then tooDeep src j
          else finishSeq src ((followPositional src fuel (depth - 1) e fields.length fields (j + 1) 0 []).map
            fun (ms, k) => (.obj ms, k))
        else if c = '\x7b' then
          if depth ≤ 1 then tooDeep src j
          else finishMap src (do
            let (found, k) ← followFields src fuel (depth - 1) fields (j + 1) true []
            match assemble fields found with
            | .ok ms => return (.obj ms, k)
            | .error err => throw (err, k))
        else wrongKind src j s.expecting
      | .slot => do
        let (v, k) ← wholeValue src depth j
        match readSlot v with
        | .ok v => return (v, k)
        | .error e => throw (e, k)
      | .tagged _ tag variants =>
        if c = '\x7b' then
          if depth ≤ 1 then tooDeep src j
          else do
            let (found, k) ← finishMap src (followTag src fuel (depth - 1) tag variants (j + 1) true none [])
            match found with
            | (none, _) => throw (settle src k (missingField tag), k)
            | (some (v, payload), rest) =>
              match payload with
              | .record _ _ =>
                match Shape.readValue payload (.obj rest) with
                | .ok (.obj ms) => return (.obj ((tag, .str v) :: ms), k)
                | .ok other => return (other, k)
                | .error e => throw (e, k)
              | _ => return (.obj [(tag, .str v)], k)
        else if c = '[' then
          if depth ≤ 1 then tooDeep src j
          else do
            let ((name, rest), k) ← finishSeq src (tagItems src fuel (depth - 1) variants (j + 1))
            match name with
            | none => throw (settle src k (missingField tag), k)
            | some v =>
              match Shape.readValue s (.arr (.str v :: rest)) with
              | .ok v => return (v, k)
              | .error e => throw (e, k)
        else do
          let (v, k) ← wholeValue src depth j
          throw (settle src k (invalidType (unexpected v) s.expecting), k)
      | .choice _ _ => do
        let (v, k) ← wholeValue src depth j
        match Shape.readValue s v with
        | .ok v => return (v, k)
        | .error e => throw (e, k)

def followItems (src : Source) (fuel depth : Nat) (item : Shape) (i : Nat) (first : Bool)
    (acc : List Json) : Except Halt (List Json × Nat) :=
  match fuel with
  | 0 => .error (failAt src i "recursion limit exceeded", i)
  | fuel + 1 => do
    match ← nextItem src i first with
    | none => return (acc.reverse, i)
    | some k =>
      let (x, k') ← follow src fuel depth item k
      followItems src fuel depth item k' false (x :: acc)

def followEntries (src : Source) (fuel depth : Nat) (item : Shape) (i : Nat) (first : Bool)
    (acc : List (String × Json)) : Except Halt (List (String × Json) × Nat) :=
  match fuel with
  | 0 => .error (failAt src i "recursion limit exceeded", i)
  | fuel + 1 => do
    match ← nextKey src i first with
    | none => return (acc.reverse, i)
    | some k =>
      let (name, k1) ← key src k
      let k2 ← colon src k1
      let (x, k3) ← follow src fuel depth item k2
      followEntries src fuel depth item k3 false ((name, x) :: acc)

def followPair (src : Source) (fuel depth : Nat) (a b : Shape) (i : Nat) : Except Halt (Json × Nat) :=
  match fuel with
  | 0 => .error (failAt src i "recursion limit exceeded", i)
  | fuel + 1 => do
    match ← nextItem src i true with
    | none => throw (invalidLength 0 "a tuple of size 2", i)
    | some k =>
      let (x, k1) ← follow src fuel depth a k
      match ← nextItem src k1 false with
      | none => throw (invalidLength 1 "a tuple of size 2", k1)
      | some k2 =>
        let (y, k3) ← follow src fuel depth b k2
        return (.arr [x, y], k3)

def followPositional (src : Source) (fuel depth : Nat) (expecting : String) (count : Nat)
    (fields : List (String × Shape × Option Json)) (i index : Nat) (acc : List (String × Json)) :
    Except Halt (List (String × Json) × Nat) :=
  match fuel with
  | 0 => .error (failAt src i "recursion limit exceeded", i)
  | fuel + 1 =>
    match fields with
    | [] => .ok (acc.reverse, i)
    | (name, s, default) :: rest => do
      match ← nextItem src i (index = 0) with
      | some k =>
        let (x, k') ← follow src fuel depth s k
        followPositional src fuel depth expecting count rest k' (index + 1) ((name, x) :: acc)
      | none =>
        match default with
        | some d => followPositional src fuel depth expecting count rest i (index + 1) ((name, d) :: acc)
        | none => throw (invalidLength index (withElements expecting count), i)

/-- Members of an object against a record's fields, up to the closing brace; members the record
does not name are skipped. -/
def followFields (src : Source) (fuel depth : Nat) (fields : List (String × Shape × Option Json))
    (i : Nat) (first : Bool) (found : List (String × Json)) :
    Except Halt (List (String × Json) × Nat) :=
  match fuel with
  | 0 => .error (failAt src i "recursion limit exceeded", i)
  | fuel + 1 => do
    match ← nextKey src i first with
    | none => return (found, i)
    | some k =>
      let (name, k1) ← key src k
      match fieldShape fields name with
      | none =>
        let k2 ← colon src k1
        let k3 ← skipped src k2
        followFields src fuel depth fields k3 false found
      | some s =>
        if (found.lookup name).isSome then throw (duplicateField name, k1)
        let k2 ← colon src k1
        let (x, k3) ← follow src fuel depth s k2
        followFields src fuel depth fields k3 false (found ++ [(name, x)])

/-- Members of a tagged object: the variant its tag names and the other members in order, read
as whole values. -/
def followTag (src : Source) (fuel depth : Nat) (tag : String) (variants : List (String × Shape))
    (i : Nat) (first : Bool) (found : Option (String × Shape)) (rest : List (String × Json)) :
    Except Halt ((Option (String × Shape) × List (String × Json)) × Nat) :=
  match fuel with
  | 0 => .error (failAt src i "recursion limit exceeded", i)
  | fuel + 1 => do
    match ← nextKey src i first with
    | none => return ((found, rest), i)
    | some k =>
      let (name, k1) ← key src k
      if name = tag then
        if found.isSome then throw (duplicateField tag, k1)
        let k2 ← colon src k1
        let (v, k3) ← variantText src variants k2
        followTag src fuel depth tag variants k3 false (some v) rest
      else
        let k2 ← colon src k1
        let (x, k3) ← wholeValue src depth k2
        followTag src fuel depth tag variants k3 false found (rest ++ [(name, x)])
end

def Shape.readText (s : Shape) (text : String) : Except ReadError Json :=
  let src := Source.ofText text
  match follow src (2 * src.size + 16) depthLimit s 0 with
  | .ok (v, i) => (expectEnd src i).map fun _ => v
  | .error (e, _) => .error e

end Dataflow.Json
