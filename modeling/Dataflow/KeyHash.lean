/-!
The seedless 64-bit hash that places keys on executors (SeaHash). The input is read as
little-endian 64-bit words, the last one padded with zero bytes; word `k` is mixed into lane
`k mod 4` of four lanes with fixed seeds; the lanes, xored together with the input length, are
diffused once more. Every worker computes the same hash for the same key.
-/
namespace Dataflow.KeyHash

def multiplier : UInt64 := 0x6eed0e9da4d94a4f

def diffuse (x : UInt64) : UInt64 :=
  let x := x * multiplier
  let x := x ^^^ ((x >>> 32) >>> (x >>> 60))
  x * multiplier

def word (bytes : List UInt8) : UInt64 :=
  bytes.foldr (fun b acc => (acc <<< 8) ||| b.toUInt64) 0

def words : List UInt8 → List UInt64
  | [] => []
  | b :: rest => word ((b :: rest).take 8) :: words ((b :: rest).drop 8)
termination_by bytes => bytes.length
decreasing_by simp only [List.length_drop, List.length_cons]; omega

structure Lanes where
  a : UInt64 := 0x16f11fe89b0d677c
  b : UInt64 := 0xb480a793d8e6c86c
  c : UInt64 := 0x6fe2e5aaf078ebc9
  d : UInt64 := 0x14f994a4c5259381

def absorb : Lanes → Nat → List UInt64 → Lanes
  | s, _, [] => s
  | s, k, w :: rest =>
    let s := match k % 4 with
      | 0 => { s with a := diffuse (s.a ^^^ w) }
      | 1 => { s with b := diffuse (s.b ^^^ w) }
      | 2 => { s with c := diffuse (s.c ^^^ w) }
      | _ => { s with d := diffuse (s.d ^^^ w) }
    absorb s (k + 1) rest

def hash (bytes : List UInt8) : UInt64 :=
  let s := absorb {} 0 (words bytes)
  diffuse (s.a ^^^ s.b ^^^ (s.c ^^^ s.d) ^^^ bytes.length.toUInt64)

def ofString (s : String) : UInt64 := hash s.toUTF8.toList

end Dataflow.KeyHash
