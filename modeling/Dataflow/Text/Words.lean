import Dataflow.Text.Classes
import Dataflow.Text.Lowercase
/-!
Words of a line and their folded form. A word is a maximal run of alphanumeric characters. A
word is folded to lowercase character by character, except that a capital sigma becomes the final
form ς when it ends a word: a cased letter comes before it and none after it, case-ignorable
characters skipped on both sides.
-/
namespace Dataflow.Text

def words (s : String) : List String :=
  ((s.toList.splitBy fun a b => isAlphanumeric a == isAlphanumeric b).filter fun run =>
    run.any isAlphanumeric).map String.ofList

def casedAfterIgnorable (cs : List Char) : Bool :=
  match cs.dropWhile isCaseIgnorable with
  | c :: _ => isCased c
  | [] => false

def capitalSigma : Char := Char.ofNat 0x3A3

/-- Lowercase of the characters of a word; `before` holds the characters already passed, nearest
first. -/
def lowerFrom (before : List Char) : List Char → List Char
  | [] => []
  | c :: rest =>
    let here :=
      if c = capitalSigma then
        if casedAfterIgnorable before && !casedAfterIgnorable rest then [Char.ofNat 0x3C2]
        else [Char.ofNat 0x3C3]
      else lowerFull c
    here ++ lowerFrom (c :: before) rest

def lowerWord (w : String) : String := String.ofList (lowerFrom [] w.toList)

end Dataflow.Text
