import Dataflow.Component
import Dataflow.Vote
/-!
Executors: live instances of spouts and bolts. Each has an id, the node it instantiates, its
component's state, and the streams its output feeds, in the order they were wired.

A bolt executor finishes once it has end-of-stream votes from every expected feeding executor:
the vote that completes the tally finalizes it, runs its component's finish step, and forwards a
single end of stream. A spout executor is done once its component has nothing more; it then
forwards a single end of stream.
-/
namespace Dataflow

structure BoltExecutor where
  id : String
  node : String
  logic : BoltLogic
  tally : Tally
  finalized : Bool := false
  sentEos : Bool := false
  routes : List String := []
  deriving Inhabited

structure SpoutExecutor where
  id : String
  node : String
  logic : SpoutLogic
  done : Bool := false
  sentEos : Bool := false
  routes : List String := []
  deriving Inhabited

/-- An event in the life of an executor's component: spouts are opened and closed, bolts
prepared and cleaned up, each named by its executor's id. -/
inductive Lifecycle where
  | opened (executor : String)
  | prepared (executor : String)
  | cleanedUp (executor : String)
  | closed (executor : String)
  deriving DecidableEq, Repr, Inhabited

def BoltExecutor.received (b : BoltExecutor) : List SinkEntry :=
  match b.logic with
  | .sink seen => seen
  | _ => []

end Dataflow
