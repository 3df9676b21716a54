/-!
JSON values as the library reads and writes them. A number keeps the kind a reader tells apart:
a non-negative integer that fits in 64 bits, a negative one that fits, or a binary64 float. An
object keeps its members in the order they were read, repeats included; `Json.canonical` gives the
form of a parsed document whose objects are maps, with keys in order and the last repeat winning.
-/
namespace Dataflow

inductive Json where
  | null
  | bool (b : Bool)
  | nat (n : Nat)
  | neg (n : Int)
  | float (x : Float)
  | str (s : String)
  | arr (items : List Json)
  | obj (members : List (String × Json))
  deriving Inhabited

namespace Json

/-- Inserts a member into a key-ordered member list; an existing key takes the new value. -/
def insertMember (k : String) (v : Json) : List (String × Json) → List (String × Json)
  | [] => [(k, v)]
  | (k', v') :: rest =>
    if k = k' then (k, v) :: rest
    else if k < k' then (k, v) :: (k', v') :: rest
    else (k', v') :: insertMember k v rest

def asMap (members : List (String × Json)) : List (String × Json) :=
  members.foldl (fun acc (k, v) => insertMember k v acc) []

mutual
def canonical : Json → Json
  | .arr items => .arr (canonicalItems items)
  | .obj members => .obj (asMap (canonicalMembers members))
  | j => j

def canonicalItems : List Json → List Json
  | [] => []
  | j :: rest => canonical j :: canonicalItems rest

def canonicalMembers : List (String × Json) → List (String × Json)
  | [] => []
  | (k, j) :: rest => (k, canonical j) :: canonicalMembers rest
end

def field? (j : Json) (k : String) : Option Json :=
  match j with
  | .obj members => members.lookup k
  | _ => none

def record (members : List (String × Json)) : Json := .obj members

def strs (xs : List String) : Json := .arr (xs.map .str)

def natOpt : Option Nat → Json
  | some n => .nat n
  | none => .null

def strOpt : Option String → Json
  | some s => .str s
  | none => .null

end Json

end Dataflow

namespace Dataflow

/-- Why text or a value could not be read, in the reader's words, with the line and the column
(in UTF-8 bytes) where the reader stood when it was reading text. -/
structure ReadError where
  message : String
  place : Option (Nat × Nat) := none
  deriving Inhabited

def ReadError.text (e : ReadError) : String :=
  match e.place with
  | some (line, column) => s!"{e.message} at line {line} column {column}"
  | none => e.message

end Dataflow
