import Dataflow.Grouping
import Dataflow.Remote
/-!
Stream routers. A router delivers the tuples of one stream to the executors of its destination
bolt on every worker. Its slots are laid out in worker order: this worker contributes its local
executors, every other worker its sender repeated once per local executor, so every worker sees
the same number of slots and a key lands on the same logical executor wherever it is emitted.

A tuple emitted on this worker goes to one slot (fields: the hash of its key modulo the slots;
shuffle: the next slot in turn) or, for a broadcast and for an end of stream, to every local
executor and once to every peer. A tuple that arrived from a peer goes to local executors only:
fields pick the key's hash modulo the local executors, shuffle the next in turn (one counter
serves both), broadcast and end of stream every local executor.
-/
namespace Dataflow

/-- A destination slot: a local executor (by position among the locals) or a peer's sender. -/
inductive Slot where
  | mine (i : Nat)
  | peer (j : Nat)
  deriving DecidableEq, Repr, Inhabited

structure Router where
  stream : String
  grouping : Grouping
  /-- The local executors of the destination bolt, by their position in the job. -/
  locals : List Nat
  senders : List Sender
  slots : List Slot
  next : Nat := 0
  deriving Inhabited

namespace Router

def layout (localCount peerCount position : Nat) : List Slot :=
  let position := min position peerCount
  (List.range (peerCount + 1)).flatMap fun w =>
    if w = position then (List.range localCount).map Slot.mine
    else
      let j := if w < position then w else w - 1
      if j < peerCount then List.replicate localCount (Slot.peer j) else []

def make (stream : String) (grouping : Grouping) (locals : List Nat) (senders : List Sender)
    (position : Nat) : Router :=
  { stream, grouping, locals, senders, slots := layout locals.length senders.length position }

def keyFor (r : Router) (t : Tuple) : String :=
  match r.grouping with
  | .fields names => partitionKey names t
  | _ => ""

def everywhere (r : Router) : List Slot :=
  (List.range r.locals.length).map Slot.mine ++ (List.range r.senders.length).map Slot.peer

def everyLocal (r : Router) : List Slot := (List.range r.locals.length).map Slot.mine

def route (r : Router) (t : Tuple) : List Slot × Router :=
  if t.endOfStream then (r.everywhere, r)
  else if r.slots.isEmpty then ([], r)
  else match r.grouping with
    | .fields names =>
      ([r.slots.getD (partitionFor (partitionKey names t) r.slots.length) (.mine 0)], r)
    | .shuffle => ([r.slots.getD (r.next % r.slots.length) (.mine 0)], { r with next := r.next + 1 })
    | .broadcast => (r.everywhere, r)

def routeLocally (r : Router) (t : Tuple) : List Slot × Router :=
  if t.endOfStream then (r.everyLocal, r)
  else if r.locals.isEmpty then ([], r)
  else match r.grouping with
    | .fields names => ([.mine (partitionFor (partitionKey names t) r.locals.length)], r)
    | .shuffle => ([.mine (r.next % r.locals.length)], { r with next := r.next + 1 })
    | .broadcast => (r.everyLocal, r)

end Router

end Dataflow
