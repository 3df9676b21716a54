/-!
Binary64 numbers in JSON text. Reading follows the usual fast conversion: the decimal
significand, kept while it fits in 64 bits, is converted to binary64 and then multiplied or divided
by one binary64 power of ten, in steps of `1e308` when the exponent is out of the table. Writing
gives the fewest significant digits that read back to the same number, nearest to it, ties to an
even last digit, laid out positionally for decimal exponents from -5 to 16 and as `d.ddde±x`
otherwise.
-/
namespace Dataflow.Json.Number

def pow10 (k : Nat) : Float := Float.ofScientific 1 false k

def ofNat (n : Nat) : Float := Float.ofScientific n false 0

/-- Scaling by `10^exponent` in binary64 steps; `none` when the result is infinite, which a
reader reports as a number out of range. The fuel bounds the number of `1e308` steps. -/
def scale : Nat → Float → Int → Option Float
  | 0, f, _ => some f
  | fuel + 1, f, exponent =>
    if exponent.natAbs ≤ 308 then
      if 0 ≤ exponent then
        let g := f * pow10 exponent.natAbs
        if g.isInf then none else some g
      else some (f / pow10 exponent.natAbs)
    else if f == 0 then some f
    else if 0 ≤ exponent then none
    else scale fuel (f / pow10 308) (exponent + 308)

def fromParts (positive : Bool) (significand : Nat) (exponent : Int) : Option Float :=
  (scale (exponent.natAbs / 308 + 2) (ofNat significand) exponent).map
    fun f => if positive then f else -f

/-- The parts of a finite binary64 number: sign, significand `m` and exponent `q` with value
`m * 2^q`, and whether the gap to the next smaller number is half the gap to the next larger. -/
structure Binary where
  negative : Bool
  mantissa : Nat
  exponent : Int
  narrowBelow : Bool

def Binary.ofFloat (x : Float) : Binary :=
  let bits : Nat := x.toBits.toNat
  let e : Nat := (bits / Nat.pow 2 52) % 2048
  let f : Nat := bits % Nat.pow 2 52
  if e = 0 then ⟨bits / Nat.pow 2 63 = 1, f, -1074, false⟩
  else ⟨bits / Nat.pow 2 63 = 1, f + Nat.pow 2 52, (e : Int) - 1075, f = 0 ∧ 1 < e⟩

def scaledFloor (x s : Nat) (k : Int) : Nat :=
  if 0 ≤ k then x / (s * Nat.pow 10 k.toNat) else x * Nat.pow 10 (-k).toNat / s

def scaledCeil (x s : Nat) (k : Int) : Nat :=
  if 0 ≤ k then (x + s * Nat.pow 10 k.toNat - 1) / (s * Nat.pow 10 k.toNat)
  else (x * Nat.pow 10 (-k).toNat + s - 1) / s

def scaledRound (x s : Nat) (k : Int) : Nat :=
  let num := if 0 ≤ k then x else x * Nat.pow 10 (-k).toNat
  let den := if 0 ≤ k then s * Nat.pow 10 k.toNat else s
  let q := num / den
  let r := num % den
  if 2 * r > den then q + 1 else if 2 * r = den then q + q % 2 else q

def log10 (n : Nat) : Nat :=
  if h : n < 10 then 0 else log10 (n / 10) + 1
termination_by n
decreasing_by omega

def floorLog10 (v s : Nat) : Int :=
  if s ≤ v then (log10 (v / s) : Int)
  else -((log10 ((s + v - 1) / v - 1) : Int) + 1)

def trim : Nat → Nat → Int → Nat × Int
  | 0, d, k => (d, k)
  | fuel + 1, d, k => if d ≠ 0 ∧ d % 10 = 0 then trim fuel (d / 10) (k + 1) else (d, k)

/-- The shortest digits `d` and exponent `k` with `d × 10^k` inside the rounding interval of
`m × 2^q`, nearest to it. -/
def shortest (b : Binary) : Nat × Int :=
  let m := b.mantissa
  let below := if b.narrowBelow then 1 else 2
  let (v, lo, hi, s) :=
    if 2 ≤ b.exponent then
      let u := Nat.pow 2 (b.exponent - 2).toNat
      (4 * m * u, (4 * m - below) * u, (4 * m + 2) * u, 1)
    else (4 * m, 4 * m - below, 4 * m + 2, Nat.pow 2 (2 - b.exponent).toNat)
  let inclusive := m % 2 = 0
  let e := floorLog10 v s
  let pick (n : Nat) : Option (Nat × Int) :=
    let k := e - n + 1
    let first := if inclusive then scaledCeil lo s k else scaledFloor lo s k + 1
    let last := if inclusive then scaledFloor hi s k else scaledCeil hi s k - 1
    if first ≤ last ∧ (inclusive ∨ 0 < scaledCeil hi s k) then
      some (min last (max first (scaledRound v s k)), k)
    else none
  let found := (List.range 17).findSome? fun n => pick (n + 1)
  let (d, k) := found.getD (scaledRound v s (e - 16), e - 16)
  trim 20 d k

def digits (n : Nat) : String := toString n

/-- The text of a finite binary64 number in the layout described above; `0.0` for zero. -/
def render (x : Float) : String :=
  let b := Binary.ofFloat x
  let sign := if b.negative then "-" else ""
  if b.mantissa = 0 then sign ++ "0.0"
  else
    let (d, k) := shortest b
    let ds := digits d
    let n : Int := ds.length
    let point := n + k
    let body :=
      if 0 ≤ k ∧ point ≤ 16 then ds ++ String.ofList (List.replicate k.toNat '0') ++ ".0"
      else if 0 < point ∧ point ≤ 16 then
        String.ofList (ds.toList.take point.toNat) ++ "." ++ String.ofList (ds.toList.drop point.toNat)
      else if -5 < point ∧ point ≤ 0 then
        "0." ++ String.ofList (List.replicate (-point).toNat '0') ++ ds
      else
        let exp := point - 1
        let expText := if exp < 0 then "-" ++ digits exp.natAbs else "+" ++ digits exp.natAbs
        let mantissa :=
          if ds.length = 1 then ds
          else String.ofList (ds.toList.take 1) ++ "." ++ String.ofList (ds.toList.drop 1)
        mantissa ++ "e" ++ expText
    sign ++ body

end Dataflow.Json.Number
