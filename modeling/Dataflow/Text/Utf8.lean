/-!
UTF-8 decoding of byte sequences, following the well-formed octet sequences of RFC 3629: a lead
octet fixes the length and the range of the second octet (excluding overlong forms, surrogates and
code points above U+10FFFF), later octets lie in 80..BF. Strict decoding refuses any ill-formed
sequence. Lossy decoding replaces each maximal ill-formed subpart (the longest prefix of a
well-formed sequence, or a single octet that starts none) by U+FFFD.
-/
namespace Dataflow.Text

inductive Decoded where
  | char (c : Char) (rest : List UInt8)
  | bad (rest : List UInt8)

/-- The length of the sequence a lead octet starts, the range of its second octet, and the value
bits of the lead octet. -/
def leadOf (n : Nat) : Option (Nat × Nat × Nat × Nat) :=
  if 0xC2 ≤ n ∧ n ≤ 0xDF then some (1, 0x80, 0xBF, n % 0x20)
  else if n = 0xE0 then some (2, 0xA0, 0xBF, n % 0x10)
  else if n = 0xED then some (2, 0x80, 0x9F, n % 0x10)
  else if 0xE1 ≤ n ∧ n ≤ 0xEF then some (2, 0x80, 0xBF, n % 0x10)
  else if n = 0xF0 then some (3, 0x90, 0xBF, n % 0x08)
  else if n = 0xF4 then some (3, 0x80, 0x8F, n % 0x08)
  else if 0xF1 ≤ n ∧ n ≤ 0xF3 then some (3, 0x80, 0xBF, n % 0x08)
  else none

def continuation (acc need lo hi : Nat) : List UInt8 → Decoded
  | [] => .bad []
  | b :: rest =>
    if lo ≤ b.toNat ∧ b.toNat ≤ hi then
      if need ≤ 1 then .char (Char.ofNat (acc * 64 + (b.toNat - 0x80))) rest
      else continuation (acc * 64 + (b.toNat - 0x80)) (need - 1) 0x80 0xBF rest
    else .bad (b :: rest)

def decodeOne (b : UInt8) (rest : List UInt8) : Decoded :=
  if b.toNat < 0x80 then .char (Char.ofNat b.toNat) rest
  else match leadOf b.toNat with
    | some (need, lo, hi, bits) => continuation bits need lo hi rest
    | none => .bad rest

def Decoded.rest : Decoded → List UInt8
  | .char _ r => r
  | .bad r => r

def Decoded.char? : Decoded → Option Char
  | .char c _ => some c
  | .bad _ => none

theorem continuation_rest_length (acc need lo hi : Nat) (l : List UInt8) :
    (continuation acc need lo hi l).rest.length ≤ l.length := by
  induction l generalizing acc need lo hi with
  | nil => simp [continuation, Decoded.rest]
  | cons x xs ih =>
    simp only [continuation]
    split
    · split
      · simp [Decoded.rest]
      · have := ih (acc * 64 + (x.toNat - 0x80)) (need - 1) 0x80 0xBF
        simp only [List.length_cons]
        omega
    · simp [Decoded.rest]

theorem decodeOne_rest_length (b : UInt8) (rest : List UInt8) :
    (decodeOne b rest).rest.length ≤ rest.length := by
  simp only [decodeOne]
  split
  · simp [Decoded.rest]
  · split
    · exact continuation_rest_length ..
    · simp [Decoded.rest]

def decodeLossy : List UInt8 → List Char
  | [] => []
  | b :: rest =>
    ((decodeOne b rest).char?.getD (Char.ofNat 0xFFFD)) :: decodeLossy (decodeOne b rest).rest
termination_by bytes => bytes.length
decreasing_by have := decodeOne_rest_length b rest; simp only [List.length_cons]; omega

def decodeStrict : List UInt8 → Option (List Char)
  | [] => some []
  | b :: rest =>
    match (decodeOne b rest).char? with
    | some c => (decodeStrict (decodeOne b rest).rest).map (c :: ·)
    | none => none
termination_by bytes => bytes.length
decreasing_by have := decodeOne_rest_length b rest; simp only [List.length_cons]; omega

def lossyText (bytes : List UInt8) : String := String.ofList (decodeLossy bytes)

def utf8 (s : String) : List UInt8 := s.toUTF8.toList

end Dataflow.Text
