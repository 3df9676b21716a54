import Dataflow.Tuple
import Dataflow.Phase
import Dataflow.Storage
import Dataflow.Text.Words
import Dataflow.Text.Blank
/-!
Components: what spouts and bolts do with data. A component step does not touch the job or the
network itself; it returns the effects it has, in order, for the executor to carry out, and the
effects after a failure are not carried out.

The built-in jobs are word counting (each maximal alphanumeric run of a line, lowercased, counts
one) and summing by key (values pass through and are summed as 64-bit signed integers; a sum
outside that range is an arithmetic overflow). The map bolt runs a job's map on each pair, the
reduce bolt holds values per key and reduces keys in order at the end of the stream, the print
bolt records results and writes them to `output.txt` under its output directory, and the sink
bolt keeps everything it receives. The file spout emits the lines of its shard as
`(lineNumber, line)`, the records spout emits records from its configuration, and the empty
spout emits nothing; several executors of one spout share the input by position modulo their
number.
-/
namespace Dataflow

/-- An effect of a component step on its executor, job or storage. -/
inductive Effect where
  | setPhase (p : Phase)
  | countMapInput
  | countReduceInput
  | write (key value : String)
  | emit (values : List Datum)
  | record (key value : String)
  | save (dir : String) (lines : List String)
  | raise (f : Fault)
  | overflow (message : String)
  deriving Inhabited

inductive Reducer where
  | wordCount
  | sumByKey
  deriving DecidableEq, Repr, Inhabited

def intMin : Int := -((Nat.pow 2 63 : Nat) : Int)

def intMax : Int := ((Nat.pow 2 63 : Nat) : Int) - 1

inductive SumFailure where
  | notInteger (f : Fault)
  | overflow
  deriving Inhabited

/-- The 64-bit sum of the values of a key, read in order; reading stops at the first value that
is not an integer. -/
def sumValues (key : String) : Int → List String → Except SumFailure Int
  | acc, [] => .ok acc
  | acc, v :: rest =>
    match Text.parseSigned 64 (Text.trim v) with
    | none => .error (.notInteger (.fail s!"value '{v}' for key '{key}' is not an integer"))
    | some n =>
      let total := acc + n
      if total < intMin ∨ intMax < total then .error .overflow else sumValues key total rest

namespace Reducer

def ofId? : String → Option Reducer
  | "word_count" => some .wordCount
  | "word_count_alias" => some .wordCount
  | "sum_by_key" => some .sumByKey
  | _ => none

def map : Reducer → String → String → List Effect
  | .wordCount, _, value => (Text.words value).map fun w => .write (Text.lowerWord w) "1"
  | .sumByKey, key, value => [.write key value]

def reduce (_ : Reducer) (key : String) (values : List String) : List Effect :=
  match sumValues key 0 values with
  | .ok n => [.write key (toString n)]
  | .error (.notInteger f) => [.raise f]
  | .error .overflow => [.overflow "attempt to add with overflow"]

end Reducer

inductive SinkEntry where
  | tuple (t : Tuple)
  | finish
  deriving Inhabited

inductive BoltLogic where
  | map (job : Reducer)
  | reduce (job : Reducer) (held : List (String × List String))
  | print (results : List (String × String)) (outputDir : Option String)
  | sink (seen : List SinkEntry)
  deriving Inhabited

def pairFields : Fields := Fields.ofList ["key", "value"]

namespace BoltLogic

def fields (_ : BoltLogic) : Fields := pairFields

def hold (held : List (String × List String)) (k v : String) : List (String × List String) :=
  Keyed.insert k (((held.lookup k).getD []) ++ [v]) held

def onTuple (b : BoltLogic) (t : Tuple) : List Effect × BoltLogic :=
  match b with
  | .map job =>
    let pair := do return (← t.text "key", ← t.text "value")
    match pair with
    | .ok (k, v) => ([.setPhase .mapping, .countMapInput] ++ job.map k v, b)
    | .error f => ([.setPhase .mapping, .countMapInput, .raise f], b)
  | .reduce job held =>
    match t.text "key", t.text "value" with
    | .ok k, .ok v => ([], .reduce job (hold held k v))
    | .error f, _ | _, .error f => ([.raise f], b)
  | .print results dir =>
    match t.text "key", t.text "value" with
    | .ok k, .ok v => ([.record k v], .print (results ++ [(k, v)]) dir)
    | .error f, _ | _, .error f => ([.raise f], b)
  | .sink seen => ([], .sink (seen ++ [.tuple t]))

def onFinish (b : BoltLogic) : List Effect × BoltLogic :=
  match b with
  | .map _ => ([], b)
  | .reduce job held =>
    (.setPhase .reducing :: held.flatMap (fun (k, vs) => .countReduceInput :: job.reduce k vs),
      .reduce job [])
  | .print results dir =>
    match dir with
    | some d => ([.save d (results.map fun (k, v) => s!"({k}, {v})")], b)
    | none => ([], b)
  | .sink seen => ([], .sink (seen ++ [.finish]))

end BoltLogic

inductive SpoutLogic where
  /-- Lines of an open shard, the number of the next line, and this executor's share. -/
  | file (reader : LineReader) (line : Nat) (task parallelism : Nat)
  /-- Records, the position of the next one, their fields, and this executor's share. -/
  | records (items : List (List String)) (next : Nat) (fields : Fields) (task parallelism : Nat)
  | empty
  deriving Inhabited

namespace SpoutLogic

def fields : SpoutLogic → Fields
  | .records _ _ f _ _ => f
  | _ => pairFields

/-- Reads lines until one that belongs to this executor; `fuel` bounds the lines read. -/
def nextLine (task parallelism : Nat) : Nat → LineReader → Nat → List Effect × Bool × LineReader × Nat
  | 0, r, n => ([], false, r, n)
  | fuel + 1, r, n =>
    match r.next with
    | (none, r) => ([], false, r, n)
    | (some (.error e), r) => ([.raise e.toFault], false, r, n)
    | (some (.ok text), r) =>
      if n % parallelism = task then ([.emit [.text (toString n), .text text]], true, r, n + 1)
      else nextLine task parallelism fuel r (n + 1)

def readerBound (r : LineReader) : Nat :=
  match r.source with
  | .file bytes => bytes.length + 1
  | .directory => 1

def next (s : SpoutLogic) : List Effect × Bool × SpoutLogic :=
  match s with
  | .file r n task p =>
    let (effects, more, r, n) := nextLine task p (readerBound r) r n
    (effects, more, .file r n task p)
  | .records items i fields task p =>
    match ((List.range items.length).drop i).find? (· % p = task) with
    | some j => ([.emit ((items.getD j []).map Datum.text)], true, .records items (j + 1) fields task p)
    | none => ([], false, .records items items.length fields task p)
  | .empty => ([], false, s)

end SpoutLogic

end Dataflow
