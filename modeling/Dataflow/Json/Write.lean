import Dataflow.Json.Value
import Dataflow.Json.Number
/-!
Writing JSON text compactly: no blanks, members in their stored order. In a string, the quote,
the backslash and the characters below U+0020 are escaped (`\b \t \n \f \r` by name, the rest as
`\u00XX` with lowercase hex); everything else, DEL and non-ASCII included, is written as it is.
-/
namespace Dataflow.Json

def hexDigit (n : Nat) : Char := "0123456789abcdef".toList.getD n '0'

def escapeChar (c : Char) : String :=
  if c = '"' then "\\\"" else if c = '\\' then "\\\\"
  else if c = '\n' then "\\n" else if c = '\r' then "\\r" else if c = '\t' then "\\t"
  else if c = '\x08' then "\\b" else if c = '\x0c' then "\\f"
  else if c.toNat < 0x20 then
    String.ofList ['\\', 'u', '0', '0', hexDigit (c.toNat / 16), hexDigit (c.toNat % 16)]
  else c.toString

def quote (s : String) : String :=
  "\"" ++ s.foldl (fun acc c => acc ++ escapeChar c) "" ++ "\""

mutual
def render : Json → String
  | .null => "null"
  | .bool true => "true"
  | .bool false => "false"
  | .nat n => toString n
  | .neg n => toString n
  | .float x => if x.isNaN ∨ x.isInf then "null" else Number.render x
  | .str s => quote s
  | .arr items => "[" ++ renderItems true items ++ "]"
  | .obj members => "\x7b" ++ renderMembers true members ++ "\x7d"

def renderItems (first : Bool) : List Json → String
  | [] => ""
  | j :: rest => (if first then "" else ",") ++ render j ++ renderItems false rest

def renderMembers (first : Bool) : List (String × Json) → String
  | [] => ""
  | (k, j) :: rest => (if first then "" else ",") ++ quote k ++ ":" ++ render j ++ renderMembers false rest
end

end Dataflow.Json
