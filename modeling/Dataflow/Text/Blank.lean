/-!
Blanks: the characters with the Unicode White_Space property, and trimming them from both ends
of a text.
-/
namespace Dataflow.Text

def isBlank (c : Char) : Bool :=
  let n := c.toNat
  (0x09 ≤ n ∧ n ≤ 0x0d) ∨ n = 0x20 ∨ n = 0x85 ∨ n = 0xa0 ∨ n = 0x1680 ∨
    (0x2000 ≤ n ∧ n ≤ 0x200a) ∨ n = 0x2028 ∨ n = 0x2029 ∨ n = 0x202f ∨ n = 0x205f ∨ n = 0x3000

def trim (s : String) : String :=
  String.ofList ((s.toList.dropWhile isBlank).reverse.dropWhile isBlank).reverse

/-- The pieces of a text between occurrences of a separator, in order; empty pieces included. -/
def splitOn (sep : Char) : List Char → List (List Char)
  | [] => [[]]
  | c :: cs =>
    let rest := splitOn sep cs
    if c = sep then [] :: rest else (c :: rest.headD []) :: rest.tail

def allDigits (cs : List Char) : Bool := !cs.isEmpty && cs.all fun c => '0' ≤ c ∧ c ≤ '9'

def digitsValue (cs : List Char) : Nat := cs.foldl (fun acc c => acc * 10 + (c.toNat - '0'.toNat)) 0

def parseUnsigned (bound : Nat) (s : String) : Option Nat :=
  let cs := match s.toList with
    | '+' :: rest => rest
    | cs => cs
  if allDigits cs then
    let n := digitsValue cs
    if n ≤ bound then some n else none
  else none

/-- A signed integer within `[-2^(bits-1), 2^(bits-1))`: an optional sign and ASCII digits. -/
def parseSigned (bits : Nat) (s : String) : Option Int :=
  let (negative, cs) := match s.toList with
    | '+' :: rest => (false, rest)
    | '-' :: rest => (true, rest)
    | cs => (false, cs)
  if allDigits cs then
    let n := digitsValue cs
    if negative then (if n ≤ Nat.pow 2 (bits - 1) then some (-(n : Int)) else none)
    else if n < Nat.pow 2 (bits - 1) then some n else none
  else none

def wordMax (bits : Nat) : Nat := Nat.pow 2 bits - 1

end Dataflow.Text
