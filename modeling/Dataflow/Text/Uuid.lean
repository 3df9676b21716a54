/-!
Identifiers in the text form of UUIDs: 32 lowercase hexadecimal digits in groups of 8, 4, 4, 4
and 12, joined by `-`. Freshly drawn identifiers differ from run to run, so a text that shows
them is made comparable by naming each distinct identifier by the rank of its first appearance:
`uuid#1`, `uuid#2`, ... Some identifiers have a label of their own instead (an executor's is the
place it runs at); a label is put in as it is, its text never searched again. Occurrences are
found from left to right, each one starting after the previous one ends, so identifiers that
touch each other or other digits are still found.
-/
namespace Dataflow.Uuid

def isDigit (c : Char) : Bool := ('0' ≤ c ∧ c ≤ '9') ∨ ('a' ≤ c ∧ c ≤ 'f')

/-- The layout of an identifier, one entry per character: `true` for a digit, `false` for `-`. -/
def layout : List Bool :=
  List.replicate 8 true ++ [false] ++ List.replicate 4 true ++ [false] ++ List.replicate 4 true ++
    [false] ++ List.replicate 4 true ++ [false] ++ List.replicate 12 true

def width : Nat := 36

def fits : List Bool → List Char → Bool
  | [], _ => true
  | _ :: _, [] => false
  | digit :: ls, c :: cs => (if digit then isDigit c else c = '-') && fits ls cs

def startsAt (cs : List Char) : Bool := fits layout cs

/-- The rank (from 1) of an identifier among those already named, naming it next if it is new. -/
def rank (named : List String) (id : String) : Nat × List String :=
  match named.idxOf? id with
  | some i => (i + 1, named)
  | none => (named.length + 1, named ++ [id])

def nameOf (n : Nat) : String := s!"uuid#{n}"

/-- The text an identifier is replaced by: its label if it has one, else the name of its rank
(extending the named identifiers). -/
def replacement (labels : List (String × String)) (named : List String) (id : String) :
    String × List String :=
  match labels.lookup id with
  | some label => (label, named)
  | none => let (n, named) := rank named id; (nameOf n, named)

/-- Replaces every identifier in some characters by its label or name, extending the named
identifiers. -/
def renameChars (labels : List (String × String)) (named : List String) (cs : List Char) :
    List Char × List String :=
  match cs with
  | [] => ([], named)
  | c :: rest =>
    if startsAt (c :: rest) then
      let (text, named) := replacement labels named (String.ofList ((c :: rest).take width))
      let (out, named) := renameChars labels named ((c :: rest).drop width)
      (text.toList ++ out, named)
    else
      let (out, named) := renameChars labels named rest
      (c :: out, named)
termination_by cs.length
decreasing_by
  all_goals simp only [List.length_drop, List.length_cons, width]
  all_goals omega

/-- Replaces every identifier in a text by its label or name, extending the named identifiers. -/
def renameText (labels : List (String × String)) (named : List String) (s : String) :
    String × List String :=
  let (cs, named) := renameChars labels named s.toList
  (String.ofList cs, named)

/-- How the identifiers of texts are being replaced: those named by rank so far, in rank order,
and those with labels of their own. -/
structure Naming where
  ranked : List String := []
  labels : List (String × String) := []
  deriving Inhabited

/-- Replaces every identifier in a text by its label or name, extending the named identifiers. -/
def Naming.rename (n : Naming) (s : String) : String × Naming :=
  let (s, ranked) := renameText n.labels n.ranked s
  (s, { n with ranked })

def Naming.label (n : Naming) (id text : String) : Naming :=
  if (n.labels.lookup id).isSome then n else { n with labels := n.labels ++ [(id, text)] }

def hexDigits (width n : Nat) : String :=
  let digits := Nat.toDigits 16 (n % Nat.pow 16 width)
  String.ofList (List.replicate (width - digits.length) '0' ++ digits)

/-- The `n`-th identifier drawn in a series of a run: the layout of a time-ordered identifier
whose fourth group tells the series and whose last group counts the identifiers drawn, so that
identifiers of different series never meet and those of one series sort in drawing order. -/
def drawn (series n : Nat) : String :=
  "019a0000-0000-7000-" ++ hexDigits 4 (0x8000 + series) ++ "-" ++ hexDigits 12 n

def fresh (n : Nat) : String := drawn 0 n

def executor (n : Nat) : String := drawn 1 n

end Dataflow.Uuid
