import Dataflow.Json.Value
import Dataflow.Json.Number
/-!
Reading JSON text. The reader walks the UTF-8 bytes of the text once; every error carries the line
and the byte column where it stopped. A character that is consumed and found wrong counts as its
first byte only, and a syntax error that is detected on looking at a byte (`peek`) is placed one
byte past it. Objects keep their members in text order, repeats included. Nesting deeper than 128
arrays or objects is refused.

A value that a record does not name is skipped rather than read (`skipValue`): skipping checks only
the syntax, so it follows any nesting, lets lone surrogate escapes through and does not compute
numbers.
-/
namespace Dataflow.Json

abbrev Source := Array UInt8

/-- A byte as a character: every token of the syntax is a single ASCII byte, and a byte from 0x80
up (part of a longer character) stands for a character that no token uses. -/
def byteChar (b : UInt8) : Char := Char.ofNat b.toNat

def charAt (src : Source) (i : Nat) : Option Char := src[i]?.map byteChar

def placeOf (src : Source) (i : Nat) : Nat × Nat :=
  (src.toList.take i).foldl
    (fun (line, col) (b : UInt8) => if b = 10 then (line + 1, 0) else (line, col + 1)) (1, 0)

def peekPlace (src : Source) (i : Nat) : Nat × Nat := placeOf src (min (i + 1) src.size)

def failAt (src : Source) (i : Nat) (message : String) : ReadError :=
  { message, place := some (placeOf src i) }

def failPeek (src : Source) (i : Nat) (message : String) : ReadError :=
  { message, place := some (peekPlace src i) }

def isBlank (c : Char) : Bool := c = ' ' ∨ c = '\n' ∨ c = '\t' ∨ c = '\r'

def skipBlank (src : Source) (i : Nat) : Nat :=
  if h : i < src.size then
    if isBlank (byteChar src[i]) then skipBlank src (i + 1) else i
  else i
termination_by src.size - i

/-- Reads the rest of a literal word (`ull` of `null`), returning the position after it. -/
def expectWord (src : Source) (i : Nat) : List Char → Except ReadError Nat
  | [] => .ok i
  | c :: rest =>
    match charAt src i with
    | none => .error (failAt src i "EOF while parsing a value")
    | some d => if d = c then expectWord src (i + 1) rest else .error (failAt src (i + 1) "expected ident")

def hexValue (c : Char) : Option Nat :=
  if '0' ≤ c ∧ c ≤ '9' then some (c.toNat - '0'.toNat)
  else if 'a' ≤ c ∧ c ≤ 'f' then some (c.toNat - 'a'.toNat + 10)
  else if 'A' ≤ c ∧ c ≤ 'F' then some (c.toNat - 'A'.toNat + 10)
  else none

/-- Four hexadecimal digits from position `i`: their value and the position after them. The four
bytes are taken whatever they are, so a bad digit is reported after all four. -/
def hex4 (src : Source) (i : Nat) : Except ReadError (Nat × Nat) :=
  if i + 4 ≤ src.size then
    let ds := [i, i + 1, i + 2, i + 3].map fun k => (charAt src k).bind hexValue
    match ds with
    | [some a, some b, some c, some d] => .ok (((a * 16 + b) * 16 + c) * 16 + d, i + 4)
    | _ => .error (failAt src (i + 4) "invalid escape")
  else .error (failAt src src.size "EOF while parsing a string")

/-- A `\u` escape from position `i` (after the `u`): the character and the position after it.
A leading surrogate must be followed by an escaped trailing one. -/
def unicodeEscape (src : Source) (i : Nat) : Except ReadError (Char × Nat) := do
  let (n, j) ← hex4 src i
  if 0xDC00 ≤ n ∧ n ≤ 0xDFFF then throw (failAt src j "lone leading surrogate in hex escape")
  if n < 0xD800 ∨ 0xDBFF < n then return (Char.ofNat n, j)
  match charAt src j with
  | none => throw (failAt src src.size "EOF while parsing a string")
  | some '\\' =>
    match charAt src (j + 1) with
    | none => throw (failAt src src.size "EOF while parsing a string")
    | some 'u' =>
      let (n2, k) ← hex4 src (j + 2)
      if n2 < 0xDC00 ∨ 0xDFFF < n2 then throw (failAt src k "lone leading surrogate in hex escape")
      return (Char.ofNat ((((n - 0xD800) * 1024) + (n2 - 0xDC00)) + 0x10000), k)
    | some _ => throw (failAt src (j + 2) "unexpected end of hex escape")
  | some _ => throw (failAt src (j + 1) "unexpected end of hex escape")

def simpleEscape (e : Char) : Option Char :=
  if e = '"' then some '"' else if e = '\\' then some '\\' else if e = '/' then some '/'
  else if e = 'b' then some '\x08' else if e = 'f' then some '\x0c'
  else if e = 'n' then some '\n' else if e = 'r' then some '\r'
  else if e = 't' then some '\t' else none

/-- The text of the bytes gathered for a string, most recent first. The bytes between escapes are
whole characters of the text and every escape adds whole characters, so they always decode. -/
def gathered (acc : List UInt8) : String := (String.fromUTF8? ⟨acc.reverse.toArray⟩).getD ""

/-- The rest of a string from position `i` (after the opening quote): its text and the position
after the closing quote. -/
def scanString (src : Source) (i : Nat) (acc : List UInt8) : Except ReadError (String × Nat) :=
  if h : i < src.size then
    let c := byteChar src[i]
    if c = '"' then .ok (gathered acc, i + 1)
    else if c = '\\' then
      match charAt src (i + 1) with
      | none => .error (failAt src src.size "EOF while parsing a string")
      | some e =>
        match simpleEscape e with
        | some d => scanString src (i + 2) ((String.utf8EncodeChar d).reverse ++ acc)
        | none =>
          if e = 'u' then
            match unicodeEscape src (i + 2) with
            | .ok (d, j) =>
              if i < j then scanString src j ((String.utf8EncodeChar d).reverse ++ acc)
              else .error (failAt src j "invalid escape")
            | .error err => .error err
          else .error (failAt src (i + 2) "invalid escape")
    else if c.toNat < 0x20 then
      .error (failAt src (i + 1) "control character (\\u0000-\\u001F) found while parsing a string")
    else scanString src (i + 1) (src[i] :: acc)
  else .error (failAt src src.size "EOF while parsing a string")
termination_by src.size - i

/-- Skips the rest of a string from position `i` (after the opening quote), returning the
position after the closing quote. Escapes are checked for their form only; a control character
is reported where it stands. -/
def skipString (src : Source) (i : Nat) : Except ReadError Nat :=
  if h : i < src.size then
    let c := byteChar src[i]
    if c = '"' then .ok (i + 1)
    else if c = '\\' then
      match charAt src (i + 1) with
      | none => .error (failAt src src.size "EOF while parsing a string")
      | some e =>
        if (simpleEscape e).isSome then skipString src (i + 2)
        else if e = 'u' then
          match hex4 src (i + 2) with
          | .ok (_, j) => if i < j then skipString src j else .error (failAt src j "invalid escape")
          | .error err => .error err
        else .error (failAt src (i + 2) "invalid escape")
    else if c.toNat < 0x20 then
      .error (failAt src i "control character (\\u0000-\\u001F) found while parsing a string")
    else skipString src (i + 1)
  else .error (failAt src src.size "EOF while parsing a string")
termination_by src.size - i

def isDigit (c : Char) : Bool := '0' ≤ c ∧ c ≤ '9'

def digitAt (src : Source) (i : Nat) : Option Nat :=
  match charAt src i with
  | some c => if isDigit c then some (c.toNat - '0'.toNat) else none
  | none => none

def maxSignificand : Nat := Nat.pow 2 64 - 1

def maxExponent : Nat := Nat.pow 2 31 - 1

def clampExponent (e : Int) : Int := max (-((Nat.pow 2 31 : Nat) : Int)) (min ((Nat.pow 2 31 - 1 : Nat) : Int) e)

def floatAt (src : Source) (i : Nat) (positive : Bool) (significand : Nat) (exponent : Int) :
    Except ReadError (Json × Nat) :=
  match Number.fromParts positive significand exponent with
  | some x => .ok (.float x, i)
  | none => .error (failAt src i "number out of range")

def skipDigits (src : Source) (i : Nat) : Nat :=
  if h : i < src.size then
    if isDigit (byteChar src[i]) then skipDigits src (i + 1) else i
  else i
termination_by src.size - i

/-- Digits of an exponent from `i`, accumulated into `exp`: the exponent and the position after
its digits, or `none` and the position just after the digit that overflowed. -/
def exponentDigits (src : Source) (i : Nat) (exp : Nat) : Option Nat × Nat :=
  if h : i < src.size then
    let c := byteChar src[i]
    if isDigit c then
      let e := exp * 10 + (c.toNat - '0'.toNat)
      if e > maxExponent then (none, i + 1) else exponentDigits src (i + 1) e
    else (some exp, i)
  else (some exp, i)
termination_by src.size - i

/-- The exponent part from position `i` (at `e` or `E`). An exponent too large to hold makes a
nonzero number with a positive exponent out of range at once; otherwise the number is zero. -/
def scanExponent (src : Source) (i : Nat) (positive : Bool) (significand : Nat) (start : Int) :
    Except ReadError (Json × Nat) :=
  let (positiveExp, j) :=
    match charAt src (i + 1) with
    | some '+' => (true, i + 2)
    | some '-' => (false, i + 2)
    | _ => (true, i + 1)
  match digitAt src j with
  | none => if j < src.size then .error (failAt src (j + 1) "invalid number")
            else .error (failAt src j "EOF while parsing a value")
  | some d =>
    match exponentDigits src (j + 1) d with
    | (none, k) =>
      if positiveExp ∧ significand ≠ 0 then .error (failAt src k "number out of range")
      else .ok (.float (if positive then 0.0 else -0.0), skipDigits src k)
    | (some e, k) =>
      floatAt src k positive significand (clampExponent (if positiveExp then start + e else start - e))

/-- Fraction digits from `i`: significand and exponent so far, or the overflow position. -/
def fractionDigits (src : Source) (i : Nat) (sig : Nat) (exp : Int) : Nat × Int × Nat × Bool :=
  if h : i < src.size then
    let c := byteChar src[i]
    if isDigit c then
      let s := sig * 10 + (c.toNat - '0'.toNat)
      if s > maxSignificand then (sig, exp, skipDigits src i, true)
      else fractionDigits src (i + 1) s (exp - 1)
    else (sig, exp, i, false)
  else (sig, exp, i, false)
termination_by src.size - i

def scanFraction (src : Source) (i : Nat) (positive : Bool) (significand : Nat) (start : Int) :
    Except ReadError (Json × Nat) :=
  let (sig, exp, j, overflowed) := fractionDigits src (i + 1) significand start
  if ¬ overflowed ∧ exp = start then
    if j < src.size then .error (failPeek src j "invalid number")
    else .error (failPeek src j "EOF while parsing a value")
  else
    match charAt src j with
    | some 'e' | some 'E' => scanExponent src j positive sig exp
    | _ => floatAt src j positive sig exp

/-- After the integer digits at position `i`: a fraction, an exponent, or an integer. -/
def scanAfterInteger (src : Source) (i : Nat) (positive : Bool) (significand : Nat) :
    Except ReadError (Json × Nat) :=
  match charAt src i with
  | some '.' => scanFraction src i positive significand 0
  | some 'e' | some 'E' => scanExponent src i positive significand 0
  | _ =>
    if positive then .ok (.nat significand, i)
    else if significand = 0 then .ok (.float (-0.0), i)
    else if significand ≤ Nat.pow 2 63 then .ok (.neg (-(significand : Int)), i)
    else .ok (.float (-(Number.ofNat significand)), i)

def scanLongInteger (src : Source) (i : Nat) (positive : Bool) (significand : Nat) (exp : Nat) :
    Except ReadError (Json × Nat) :=
  if h : i < src.size then
    let c := byteChar src[i]
    if isDigit c then scanLongInteger src (i + 1) positive significand (exp + 1)
    else if c = '.' then scanFraction src i positive significand exp
    else if c = 'e' ∨ c = 'E' then scanExponent src i positive significand exp
    else floatAt src i positive significand exp
  else floatAt src i positive significand exp
termination_by src.size - i

def integerDigits (src : Source) (i : Nat) (positive : Bool) (significand : Nat) :
    Except ReadError (Json × Nat) :=
  if h : i < src.size then
    let c := byteChar src[i]
    if isDigit c then
      let s := significand * 10 + (c.toNat - '0'.toNat)
      if s > maxSignificand then scanLongInteger src i positive significand 0
      else integerDigits src (i + 1) positive s
    else scanAfterInteger src i positive significand
  else scanAfterInteger src i positive significand
termination_by src.size - i

/-- A number from position `i` (after its sign): its value and the position after it. -/
def scanNumber (src : Source) (i : Nat) (positive : Bool) : Except ReadError (Json × Nat) :=
  match charAt src i with
  | none => .error (failAt src i "EOF while parsing a value")
  | some '0' =>
    if (digitAt src (i + 1)).isSome then .error (failPeek src (i + 1) "invalid number")
    else scanAfterInteger src (i + 1) positive 0
  | some c =>
    if isDigit c then integerDigits src i positive 0
    else .error (failAt src (i + 1) "invalid number")

/-- Skips an exponent from position `i` (at `e` or `E`); it needs one digit at least. -/
def skipExponent (src : Source) (i : Nat) : Except ReadError Nat :=
  let j := match charAt src (i + 1) with
    | some '+' | some '-' => i + 2
    | _ => i + 1
  match digitAt src j with
  | some _ => .ok (skipDigits src (j + 1))
  | none => .error (failAt src (min (j + 1) src.size) "invalid number")

def skipNumberTail (src : Source) (i : Nat) : Except ReadError Nat :=
  match charAt src i with
  | some '.' =>
    let j := skipDigits src (i + 1)
    if j = i + 1 then .error (failPeek src j "invalid number")
    else
      match charAt src j with
      | some 'e' | some 'E' => skipExponent src j
      | _ => .ok j
  | some 'e' | some 'E' => skipExponent src i
  | _ => .ok i

def skipNumber (src : Source) (i : Nat) : Except ReadError Nat :=
  match charAt src i with
  | some '0' =>
    if (digitAt src (i + 1)).isSome then .error (failPeek src (i + 1) "invalid number")
    else skipNumberTail src (i + 1)
  | some c =>
    if isDigit c then skipNumberTail src (skipDigits src i)
    else .error (failAt src (i + 1) "invalid number")
  | none => .error (failAt src i "invalid number")

def depthLimit : Nat := 128

mutual
/-- A value from position `i`, after blanks. The fuel bounds the recursion by the text length;
`depth` is how many more arrays and objects may be opened, plus one. -/
def scanValue (src : Source) (fuel depth i : Nat) : Except ReadError (Json × Nat) :=
  match fuel with
  | 0 => .error (failAt src i "recursion limit exceeded")
  | fuel + 1 =>
    let j := skipBlank src i
    match charAt src j with
    | none => .error (failPeek src j "EOF while parsing a value")
    | some 'n' => (expectWord src (j + 1) ['u', 'l', 'l']).map fun k => (.null, k)
    | some 't' => (expectWord src (j + 1) ['r', 'u', 'e']).map fun k => (.bool true, k)
    | some 'f' => (expectWord src (j + 1) ['a', 'l', 's', 'e']).map fun k => (.bool false, k)
    | some '-' => scanNumber src (j + 1) false
    | some '"' => (scanString src (j + 1) []).map fun (s, k) => (.str s, k)
    | some '[' =>
      if depth ≤ 1 then .error (failPeek src j "recursion limit exceeded")
      else (scanItems src fuel (depth - 1) (j + 1) true []).map fun (xs, k) => (.arr xs, k)
    | some '\x7b' =>
      if depth ≤ 1 then .error (failPeek src j "recursion limit exceeded")
      else (scanMembers src fuel (depth - 1) (j + 1) true []).map fun (ms, k) => (.obj ms, k)
    | some c =>
      if isDigit c then scanNumber src j true else .error (failPeek src j "expected value")

def scanItems (src : Source) (fuel depth i : Nat) (first : Bool) (acc : List Json) :
    Except ReadError (List Json × Nat) :=
  match fuel with
  | 0 => .error (failAt src i "recursion limit exceeded")
  | fuel + 1 =>
    let j := skipBlank src i
    match charAt src j with
    | none => .error (failPeek src j "EOF while parsing a list")
    | some ']' => .ok (acc.reverse, j + 1)
    | some c =>
      let start : Except ReadError Nat :=
        if first then .ok j
        else if c = ',' then
          let k := skipBlank src (j + 1)
          match charAt src k with
          | some ']' => .error (failPeek src k "trailing comma")
          | some _ => .ok k
          | none => .error (failPeek src k "EOF while parsing a value")
        else .error (failPeek src j "expected `,` or `]`")
      match start with
      | .error e => .error e
      | .ok k =>
        match scanValue src fuel depth k with
        | .error e => .error e
        | .ok (x, k') => scanItems src fuel depth k' false (x :: acc)

def scanMembers (src : Source) (fuel depth i : Nat) (first : Bool) (acc : List (String × Json)) :
    Except ReadError (List (String × Json) × Nat) :=
  match fuel with
  | 0 => .error (failAt src i "recursion limit exceeded")
  | fuel + 1 =>
    let j := skipBlank src i
    match charAt src j with
    | none => .error (failPeek src j "EOF while parsing an object")
    | some '\x7d' => .ok (acc.reverse, j + 1)
    | some c =>
      let start : Except ReadError Nat :=
        if first then
          if c = '"' then .ok j else .error (failPeek src j "key must be a string")
        else if c = ',' then
          let k := skipBlank src (j + 1)
          match charAt src k with
          | some '"' => .ok k
          | some '\x7d' => .error (failPeek src k "trailing comma")
          | some _ => .error (failPeek src k "key must be a string")
          | none => .error (failPeek src k "EOF while parsing a value")
        else .error (failPeek src j "expected `,` or `\x7d`")
      match start with
      | .error e => .error e
      | .ok k =>
        match scanString src (k + 1) [] with
        | .error e => .error e
        | .ok (key, k') =>
          let m := skipBlank src k'
          match charAt src m with
          | some ':' =>
            match scanValue src fuel depth (m + 1) with
            | .error e => .error e
            | .ok (x, m') => scanMembers src fuel depth m' false ((key, x) :: acc)
          | some _ => .error (failPeek src m "expected `:`")
          | none => .error (failPeek src m "EOF while parsing an object")
end

mutual
/-- Skips a value from position `i`, after blanks, returning the position after it. The fuel
bounds the recursion by the text length; nesting is not limited. -/
def skipValue (src : Source) (fuel i : Nat) : Except ReadError Nat :=
  match fuel with
  | 0 => .error (failAt src i "recursion limit exceeded")
  | fuel + 1 =>
    let j := skipBlank src i
    match charAt src j with
    | none => .error (failPeek src j "EOF while parsing a value")
    | some 'n' => expectWord src (j + 1) ['u', 'l', 'l']
    | some 't' => expectWord src (j + 1) ['r', 'u', 'e']
    | some 'f' => expectWord src (j + 1) ['a', 'l', 's', 'e']
    | some '-' => skipNumber src (j + 1)
    | some '"' => skipString src (j + 1)
    | some '[' => skipItems src fuel (j + 1) true
    | some '\x7b' => skipMembers src fuel (j + 1) true
    | some c => if isDigit c then skipNumber src j else .error (failPeek src j "expected value")

/-- Skips the items of an array from position `i`, through the closing bracket. After a comma
another value must follow. -/
def skipItems (src : Source) (fuel i : Nat) (first : Bool) : Except ReadError Nat :=
  match fuel with
  | 0 => .error (failAt src i "recursion limit exceeded")
  | fuel + 1 =>
    let j := skipBlank src i
    match charAt src j with
    | none => .error (failPeek src j "EOF while parsing a list")
    | some ']' => .ok (j + 1)
    | some c =>
      let start : Except ReadError Nat :=
        if first then .ok j
        else if c = ',' then .ok (j + 1)
        else .error (failPeek src j "expected `,` or `]`")
      match start with
      | .error e => .error e
      | .ok k =>
        match skipValue src fuel k with
        | .error e => .error e
        | .ok k' => skipItems src fuel k' false

/-- Skips the members of an object from position `i`, through the closing brace. After a comma
another key must follow. -/
def skipMembers (src : Source) (fuel i : Nat) (first : Bool) : Except ReadError Nat :=
  match fuel with
  | 0 => .error (failAt src i "recursion limit exceeded")
  | fuel + 1 =>
    let j := skipBlank src i
    match charAt src j with
    | none => .error (failPeek src j "EOF while parsing an object")
    | some '\x7d' => .ok (j + 1)
    | some c =>
      let start : Except ReadError Nat :=
        if first then .ok j
        else if c = ',' then .ok (skipBlank src (j + 1))
        else .error (failPeek src j "expected `,` or `\x7d`")
      match start with
      | .error e => .error e
      | .ok k =>
        match charAt src k with
        | none => .error (failPeek src k "EOF while parsing an object")
        | some '"' =>
          match skipString src (k + 1) with
          | .error e => .error e
          | .ok k' =>
            let m := skipBlank src k'
            match charAt src m with
            | some ':' =>
              match skipValue src fuel (m + 1) with
              | .error e => .error e
              | .ok m' => skipMembers src fuel m' false
            | some _ => .error (failPeek src m "expected `:`")
            | none => .error (failPeek src m "EOF while parsing an object")
        | some _ => .error (failPeek src k "key must be a string")
end

def skipFuel (src : Source) : Nat := 2 * src.size + 4

def expectEnd (src : Source) (i : Nat) : Except ReadError Unit :=
  let j := skipBlank src i
  if j < src.size then .error (failPeek src j "trailing characters") else .ok ()

def Source.ofText (text : String) : Source := text.toUTF8.data

def parse (text : String) : Except ReadError Json := do
  let src := Source.ofText text
  let (j, i) ← scanValue src (src.size + 2) depthLimit 0
  expectEnd src i
  return j

end Dataflow.Json
