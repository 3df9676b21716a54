import Dataflow.Proofs.Deployment
import Mathlib.Algebra.BigOperators.Group.Multiset.Basic
import Mathlib.Data.Multiset.Filter
import Mathlib.Data.Multiset.Dedup
import Mathlib.Data.String.Basic
import Mathlib.Tactic.Abel
/-!
The ledger of a map/reduce job. A job of the map/reduce shape has one spout node, a map bolt fed
from it, a reduce bolt grouped on `key` from the map, and a print bolt fed from the reduce by a
broadcast. Its ledger is a multiset of postings: the counters of every worker's context, the
results printed on every worker, the pairs every reduce executor holds, and, for every tuple a
sender holds back, what that tuple amounts to once delivered. A tuple a spout emits amounts to one
map input and, for each pair the map writes of it, one map output and the pair held by the reduce
executor its key picks, the same executor from every worker.

A flow of data adds what its tuple amounts to. A flow carrying ends of stream adds nothing but
finishes reduce executors, and a finished reduce executor settles its pairs: they leave the ledger,
and each key comes back as one reduce input, one reduce output, and its total printed by every
print executor of the cluster (`Settles`).
-/
namespace Dataflow

inductive Posting where
  | mapInput
  | mapOutput
  | reduceInput
  | reduceOutput
  /-- A pair held for the reduce executor at position `i` on worker `w`. -/
  | held (w i : Nat) (key value : String)
  | result (w : Nat) (key value : String)
  deriving DecidableEq

namespace Posting

def pairFor (r : Nat × Nat) : Posting → Option (String × String)
  | held w i k v => if (w, i) = r then some (k, v) else none
  | _ => none

def resultAt (q : Nat) : Posting → Option (String × String)
  | result w k v => if w = q then some (k, v) else none
  | _ => none

end Posting

def Tuple.pair? (t : Tuple) : Option (String × String) :=
  match t.text "key", t.text "value" with
  | .ok k, .ok v => some (k, v)
  | _, _ => none

def Reducer.pairs : Reducer → String → String → List (String × String)
  | .wordCount, _, value => (Text.words value).map fun w => (Text.lowerWord w, "1")
  | .sumByKey, key, value => [(key, value)]

lemma Reducer.map_eq_pairs (J : Reducer) (k v : String) :
    J.map k v = (J.pairs k v).map fun p => .write p.1 p.2 := by
  cases J <;> simp [Reducer.map, Reducer.pairs]

def Reducer.pairsOf (J : Reducer) (t : Tuple) : List (String × String) :=
  match t.pair? with
  | some (k, v) => J.pairs k v
  | none => []

def valueOf (v : String) : Int := (Text.parseSigned 64 (Text.trim v)).getD 0

/-- Every key of some pairs once, with the total of its values, as a reduce executor writes it. -/
def totals (m : Multiset (String × String)) : Multiset (String × String) :=
  (m.map Prod.fst).dedup.map fun k => (k, toString ((m.filter (·.1 = k)).map (valueOf ·.2)).sum)

lemma sumValues_eq {key : String} : ∀ {acc : Int} {vs : List String} {n : Int},
    sumValues key acc vs = .ok n → n = acc + (vs.map valueOf).sum
  | acc, [], n, h => by
    simp only [sumValues, Except.ok.injEq] at h
    simp [h]
  | acc, v :: rest, n, h => by
    unfold sumValues at h
    split at h
    · cases h
    · rename_i m hm
      simp only at h
      split at h
      · cases h
      · rw [sumValues_eq h, List.map_cons, List.sum_cons, valueOf, hm, Option.getD_some]
        abel

/-! ### Values held per key -/

namespace Keyed

variable {α : Type}

def Ordered (xs : List (String × α)) : Prop := xs.Pairwise fun a b => a.1 < b.1

lemma Ordered.nodup {xs : List (String × α)} (h : Ordered xs) : (xs.map (·.1)).Nodup := by
  exact (List.pairwise_map.mpr h : (xs.map (·.1)).Pairwise (· < ·)).nodup

theorem insert_ordered {k : String} {v : α} : ∀ {xs : List (String × α)}, Ordered xs →
    Ordered (insert k v xs) ∧ (insert k v xs).Perm ((k, v) :: xs.filter fun e => e.1 ≠ k)
  | [], _ => by simp [insert, Ordered]
  | (k', v') :: rest, h => by
    have hrest : Ordered rest := (List.pairwise_cons.mp h).2
    have hlt : ∀ e ∈ rest, k' < e.1 := (List.pairwise_cons.mp h).1
    unfold insert
    by_cases hk : k = k'
    · -- the key is there: its entry is replaced, and no later key equals it
      subst hk
      have hf : rest.filter (fun e => e.1 ≠ k) = rest :=
        List.filter_eq_self.mpr fun e he => by simpa using (ne_of_lt (hlt e he)).symm
      simp only [if_true, List.filter_cons, ne_eq, not_true_eq_false, decide_false, Bool.false_eq_true,
        if_false, hf]
      exact ⟨List.pairwise_cons.mpr ⟨hlt, hrest⟩, List.Perm.refl _⟩
    · simp only [hk, if_false]
      have hne : k' ≠ k := Ne.symm hk
      split
      · -- a new key before every other
        rename_i hkl
        have hf : ((k', v') :: rest).filter (fun e => e.1 ≠ k) = (k', v') :: rest :=
          List.filter_eq_self.mpr fun e he => by
            rcases List.mem_cons.mp he with rfl | he
            · simpa using hne
            · simpa using (ne_of_lt (lt_trans hkl (hlt e he))).symm
        rw [hf]
        refine ⟨List.pairwise_cons.mpr ⟨fun e he => ?_, h⟩, List.Perm.refl _⟩
        rcases List.mem_cons.mp he with rfl | he
        · exact hkl
        · exact lt_trans hkl (hlt e he)
      · rename_i hkl
        have hgt : k' < k := lt_of_le_of_ne (not_lt.mp hkl) hne
        obtain ⟨ho, hp⟩ := insert_ordered (k := k) (v := v) hrest
        refine ⟨List.pairwise_cons.mpr ⟨fun e he => ?_, ho⟩, ?_⟩
        · rcases List.mem_cons.mp (hp.subset he) with rfl | he
          · exact hgt
          · exact hlt e (List.mem_of_mem_filter he)
        · simp only [List.filter_cons, ne_eq, hne, not_false_eq_true, decide_true, if_true]
          exact (hp.cons _).trans (List.Perm.swap _ _ _)

lemma filter_key {k : String} : ∀ {xs : List (String × α)}, (xs.map (·.1)).Nodup →
    xs.filter (fun e => e.1 = k) = ((xs.lookup k).map ((k, ·))).toList
  | [], _ => rfl
  | (k', v') :: rest, h => by
    obtain ⟨hnot, hrest⟩ := List.nodup_cons.mp h
    by_cases hk : k' = k
    · subst hk
      have hnone : rest.filter (fun e => e.1 = k') = [] :=
        List.filter_eq_nil_iff.mpr fun e he hek => hnot (List.mem_map.mpr ⟨e, he, by simpa using hek⟩)
      simp [hnone]
    · have hb : (k == k') = false := by simp [Ne.symm hk]
      simp [hk, List.lookup_cons, hb, filter_key hrest]

end Keyed

def pairsIn (held : List (String × List String)) : List (String × String) :=
  held.flatMap fun e => e.2.map (e.1, ·)

lemma pairsIn_hold {held : List (String × List String)} (h : Keyed.Ordered held) (k v : String) :
    Keyed.Ordered (BoltLogic.hold held k v) ∧
      (pairsIn (BoltLogic.hold held k v) : Multiset (String × String)) = (pairsIn held : Multiset (String × String)) + {(k, v)} := by
  obtain ⟨ho, hp⟩ := Keyed.insert_ordered (k := k) (v := (held.lookup k).getD [] ++ [v]) h
  refine ⟨ho, ?_⟩
  -- the buffer is the key's entry and the others, before and after
  have hsplit := (List.filter_append_perm (fun e => decide (e.1 = k)) held).symm
  rw [Keyed.filter_key h.nodup] at hsplit
  have hf : held.filter (fun e => !decide (e.1 = k)) = held.filter fun e => e.1 ≠ k := by
    simp only [decide_not]
  rw [hf] at hsplit
  simp only [pairsIn, BoltLogic.hold, Multiset.coe_eq_coe.mpr (hp.flatMap_right _),
    Multiset.coe_eq_coe.mpr (hsplit.flatMap_right _), List.flatMap_cons, List.flatMap_append,
    ← Multiset.coe_add]
  cases held.lookup k <;> simp [add_comm]

lemma totals_pairsIn {held : List (String × List String)} (h : Keyed.Ordered held)
    (hne : ∀ e ∈ held, e.2 ≠ []) :
    totals (pairsIn held : Multiset (String × String)) =
      ((held.map fun e => (e.1, toString (e.2.map valueOf).sum) : List _) : Multiset _) := by
  have hnd := h.nodup
  -- the keys of the pairs are the keys of the buffer
  have hkeys : ((pairsIn held : Multiset (String × String)).map Prod.fst).dedup = ((held.map (·.1) : List String) : Multiset String) := by
    refine Multiset.Nodup.ext (Multiset.nodup_dedup _) (Multiset.coe_nodup.mpr hnd) |>.mpr fun k => ?_
    simp only [Multiset.mem_dedup, Multiset.mem_map, Multiset.mem_coe, pairsIn, List.mem_flatMap,
      List.mem_map]
    constructor
    · rintro ⟨p, ⟨e, he, v, -, rfl⟩, rfl⟩
      exact ⟨e, he, rfl⟩
    · rintro ⟨e, he, rfl⟩
      obtain ⟨v, hv⟩ := List.exists_mem_of_ne_nil _ (hne e he)
      exact ⟨(e.1, v), ⟨e, he, v, hv, rfl⟩, rfl⟩
  -- the pairs of one key are its entry's values
  have hkey : ∀ e ∈ held,
      (pairsIn held : Multiset (String × String)).filter (·.1 = e.1) = (e.2.map (e.1, ·) : Multiset _) := by
    intro e he
    have hsel : held.filter (fun x => x.1 = e.1) = [e] := by
      rw [Keyed.filter_key hnd, lookup_eq_some_of_mem hnd he]
      rfl
    have hone : ∀ x : String × List String, (x.2.map (x.1, ·)).filter (fun p => p.1 = e.1) =
        if x.1 = e.1 then x.2.map (x.1, ·) else [] := by
      intro x
      split
      · exact List.filter_eq_self.mpr fun p hp => by
          obtain ⟨v, -, rfl⟩ := List.mem_map.mp hp
          simpa
      · exact List.filter_eq_nil_iff.mpr fun p hp => by
          obtain ⟨v, -, rfl⟩ := List.mem_map.mp hp
          simpa
    have hflat : ∀ l : List (String × List String),
        l.flatMap (fun x => (x.2.map (x.1, ·)).filter fun p => p.1 = e.1) =
          (l.filter fun x => x.1 = e.1).flatMap fun x => x.2.map (x.1, ·) := by
      intro l
      induction l with
      | nil => rfl
      | cons x l ih =>
        rw [List.flatMap_cons, hone, ih, List.filter_cons]
        by_cases hx : x.1 = e.1 <;> simp [hx]
    rw [Multiset.filter_coe, pairsIn, List.filter_flatMap, hflat, hsel]
    simp
  rw [totals, hkeys, Multiset.map_coe, List.map_map]
  refine congrArg (fun l : List (String × String) => (l : Multiset (String × String)))
    (List.map_congr_left fun e he => ?_)
  simp only [Function.comp_apply, hkey e he, Multiset.map_coe, List.map_map, Multiset.sum_coe]
  rfl

/-! ### Reading the ledger -/

namespace Posting

def heldFor (r : Nat × Nat) : Multiset Posting →+ Multiset Posting where
  toFun X := X.filter fun e => (e.pairFor r).isSome
  map_zero' := Multiset.filter_zero _
  map_add' := Multiset.filter_add _

def pairsFor (r : Nat × Nat) : Multiset Posting →+ Multiset (String × String) where
  toFun X := X.filterMap (pairFor r)
  map_zero' := Multiset.filterMap_zero _
  map_add' := Multiset.filterMap_add _

def resultsAt (q : Nat) : Multiset Posting →+ Multiset (String × String) where
  toFun X := X.filterMap (resultAt q)
  map_zero' := Multiset.filterMap_zero _
  map_add' := Multiset.filterMap_add _

lemma pairsFor_apply (r : Nat × Nat) (X : Multiset Posting) : pairsFor r X = X.filterMap (pairFor r) :=
  rfl

lemma resultsAt_apply (q : Nat) (X : Multiset Posting) : resultsAt q X = X.filterMap (resultAt q) :=
  rfl

@[simp] lemma heldFor_singleton (r : Nat × Nat) (e : Posting) :
    heldFor r {e} = if (e.pairFor r).isSome then {e} else 0 :=
  Multiset.filter_singleton _

@[simp] lemma pairsFor_singleton (r : Nat × Nat) (e : Posting) : pairsFor r {e} = (e.pairFor r).toList := by
  show Multiset.filterMap (pairFor r) {e} = _
  rw [← Multiset.coe_singleton, Multiset.filterMap_coe]
  cases h : pairFor r e <;> simp [h]

@[simp] lemma resultsAt_singleton (q : Nat) (e : Posting) : resultsAt q {e} = (e.resultAt q).toList := by
  show Multiset.filterMap (resultAt q) {e} = _
  rw [← Multiset.coe_singleton, Multiset.filterMap_coe]
  cases h : resultAt q e <;> simp [h]

@[simp] lemma heldFor_cons (r : Nat × Nat) (e : Posting) (X : Multiset Posting) :
    heldFor r (e ::ₘ X) = heldFor r {e} + heldFor r X := by
  rw [← Multiset.singleton_add, map_add]

@[simp] lemma pairsFor_cons (r : Nat × Nat) (e : Posting) (X : Multiset Posting) :
    pairsFor r (e ::ₘ X) = pairsFor r {e} + pairsFor r X := by
  rw [← Multiset.singleton_add, map_add]

@[simp] lemma resultsAt_cons (q : Nat) (e : Posting) (X : Multiset Posting) :
    resultsAt q (e ::ₘ X) = resultsAt q {e} + resultsAt q X := by
  rw [← Multiset.singleton_add, map_add]

lemma pairsFor_heldFor (r : Nat × Nat) (X : Multiset Posting) : pairsFor r (heldFor r X) = pairsFor r X := by
  induction X using Multiset.induction with
  | empty => simp
  | cons e X ih =>
    rw [← Multiset.singleton_add]
    simp only [map_add, ih, heldFor_singleton]
    split <;> simp_all

lemma pairFor_eq_none_of_ne {r r' : Nat × Nat} (h : r ≠ r') {e : Posting} (he : (e.pairFor r').isSome) :
    e.pairFor r = none := by
  cases e with
  | held w i k v =>
    simp only [pairFor] at he ⊢
    split at he
    · rename_i hr
      rw [if_neg (hr ▸ h.symm ∘ Eq.symm ∘ Eq.symm)]
    · cases he
  | _ => rfl

lemma heldFor_heldFor_of_ne {r r' : Nat × Nat} (h : r ≠ r') (X : Multiset Posting) :
    heldFor r (heldFor r' X) = 0 := by
  induction X using Multiset.induction with
  | empty => simp
  | cons e X ih =>
    rw [← Multiset.singleton_add]
    simp only [map_add, ih, heldFor_singleton]
    split
    · rename_i he
      simp [pairFor_eq_none_of_ne h he]
    · simp

lemma pairsFor_heldFor_of_ne {r r' : Nat × Nat} (h : r ≠ r') (X : Multiset Posting) :
    pairsFor r (heldFor r' X) = 0 := by
  rw [← pairsFor_heldFor, heldFor_heldFor_of_ne h, map_zero]

end Posting

/-! ### The ledger of a job -/

/-- The postings of a job's context on worker `w`: its counters and its printed results. -/
def JobContext.ledger (w : Nat) (c : JobContext) : Multiset Posting :=
  c.mapInputs • {.mapInput} + c.mapOutputs • {.mapOutput} + c.reduceInputs • {.reduceInput} +
    c.reduceOutputs • {.reduceOutput} + ((c.results.map fun p => Posting.result w p.1 p.2 : List _) : Multiset _)

/-- The posting of an output counted in a phase: a map output while mapping, a reduce output
while reducing. -/
def Phase.output : Phase → Multiset Posting
  | .mapping => {.mapOutput}
  | .reducing => {.reduceOutput}
  | _ => 0

def BoltExecutor.ledger (w i : Nat) (b : BoltExecutor) : Multiset Posting :=
  match b.logic with
  | .reduce _ held => ((pairsIn held).map fun p => Posting.held w i p.1 p.2 : List _)
  | _ => 0

namespace JobContext

variable (w : Nat) (c : JobContext)

@[simp] lemma ledger_setPhase (p : Phase) : (c.setPhase p).ledger w = c.ledger w := by
  unfold setPhase
  split <;> rfl

@[simp] lemma ledger_countOutput : c.countOutput.ledger w = c.ledger w + c.phase.output := by
  unfold countOutput
  split <;> rename_i h <;> simp [ledger, Phase.output, h, add_nsmul] <;> abel

@[simp] lemma ledger_countReceived (stream : String) : (c.countReceived stream).ledger w = c.ledger w := rfl

@[simp] lemma ledger_finishOne : c.finishOne.ledger w = c.ledger w := by
  simp only [finishOne]
  split
  · rw [ledger_setPhase]
    rfl
  · rfl

@[simp] lemma ledger_record (k v : String) : (c.record k v).ledger w = c.ledger w + {.result w k v} := by
  simp only [record, ledger, List.map_append, List.map_cons, List.map_nil, ← Multiset.coe_add,
    Multiset.coe_singleton]
  abel

lemma ledger_countMapInput :
    ({ c with mapInputs := c.mapInputs + 1 } : JobContext).ledger w = c.ledger w + {.mapInput} := by
  simp only [ledger, add_nsmul, one_nsmul]
  abel

lemma ledger_countReduceInput :
    ({ c with reduceInputs := c.reduceInputs + 1 } : JobContext).ledger w = c.ledger w + {.reduceInput} := by
  simp only [ledger, add_nsmul, one_nsmul]
  abel

end JobContext

namespace BoltExecutor

variable (w i : Nat) {b b' : BoltExecutor}

lemma ledger_of_logic (h : b'.logic = b.logic) : b'.ledger w i = b.ledger w i := by
  unfold ledger
  rw [h]

lemma ledger_of_not_reduce (h : ∀ job held, b.logic ≠ .reduce job held) : b.ledger w i = 0 := by
  unfold ledger
  split
  · rename_i job held hl
    exact absurd hl (h job held)
  · rfl

lemma ledger_hold {job : Reducer} {held : List (String × List String)} (hb : b.logic = .reduce job held)
    (ho : Keyed.Ordered held) (k v : String) :
    ({ b with logic := .reduce job (BoltLogic.hold held k v) } : BoltExecutor).ledger w i =
      b.ledger w i + {.held w i k v} := by
  simp only [ledger, hb, ← Multiset.map_coe, (pairsIn_hold ho k v).2, Multiset.map_add,
    Multiset.map_singleton]

end BoltExecutor

namespace Deployment

variable (D : Deployment)

def boltNodes : List String := D.topology.bolts.flatMap fun e => List.replicate e.2.parallelism e.1

def positionsOf (n : String) : List Nat :=
  (List.range D.boltNodes.length).filter fun i => D.boltNodes.getD i "" = n

/-- A deployment of the map/reduce shape: one spout node, a map bolt fed from it by a shuffle or
fields grouping, a reduce bolt fed from the map grouped on `key`, and a print bolt fed from the
reduce by a broadcast, and no other node. -/
structure MapReduce where
  spout : String
  map : String
  reduce : String
  print : String
  mapDecl : BoltDecl
  reduceDecl : BoltDecl
  printDecl : BoltDecl
  spouts : ∀ n sd, D.topology.spouts.lookup n = some sd → n = spout
  bolts : ∀ n d, D.topology.bolts.lookup n = some d → n = map ∨ n = reduce ∨ n = print
  map_lookup : D.topology.bolts.lookup map = some mapDecl
  reduce_lookup : D.topology.bolts.lookup reduce = some reduceDecl
  print_lookup : D.topology.bolts.lookup print = some printDecl
  map_component : mapDecl.component = "map"
  map_input : mapDecl.input = spout
  map_grouping : mapDecl.grouping ≠ .broadcast
  reduce_component : reduceDecl.component = "reduce"
  reduce_input : reduceDecl.input = map
  reduce_grouping : reduceDecl.grouping = .fields ⟨["key"]⟩
  print_component : printDecl.component = "print"
  print_input : printDecl.input = reduce
  print_grouping : printDecl.grouping = .broadcast

variable {D}

namespace MapReduce

variable (M : D.MapReduce) (J : Reducer)

/-- The local position among its node's executors that a key picks for the reduce stream. -/
def slotOf (k : String) : Nat := (KeyHash.ofString k).toNat % M.reduceDecl.parallelism

/-- The reduce executor a key goes to, from every worker: the worker and position of the
executor that routing over all the reduce executors of the cluster picks. -/
def reducerOf (k : String) : Nat × Nat :=
  ((KeyHash.ofString k).toNat % (M.reduceDecl.parallelism * D.addresses.length) / M.reduceDecl.parallelism,
    (D.positionsOf M.reduce).getD (M.slotOf k) 0)

def holding (p : String × String) : Posting := .held (M.reducerOf p.1).1 (M.reducerOf p.1).2 p.1 p.2

def printed (k v : String) : Multiset Posting :=
  ((List.range D.addresses.length).map fun q => M.printDecl.parallelism • {Posting.result q k v}).sum

/-- What a tuple of the spout amounts to once a map executor has taken it: one map input, and
for each pair the job writes of it, one map output and the pair held where its key is reduced. -/
def mapValue (t : Tuple) : Multiset Posting :=
  {.mapInput} + ((J.pairsOf t).map fun p => {.mapOutput} + {M.holding p}).sum

/-- What a tuple amounts to once delivered to the executor at position `i` of stream `c` on
worker `q`. -/
def execValue (c : String) (q i : Nat) (t : Tuple) : Multiset Posting :=
  if c = M.map then M.mapValue J t
  else match t.pair? with
    | some (k, v) => if c = M.reduce then {.held q i k v} else if c = M.print then {.result q k v} else 0
    | none => 0

/-- What a tuple pushed to worker `q` on stream `c` amounts to: on the reduce stream, the pair
held by the executor there that its key picks; on the print stream, one result printed by each
print executor there. -/
def streamValue (c : String) (q : Nat) (t : Tuple) : Multiset Posting :=
  if c = M.map then M.mapValue J t
  else match t.pair? with
    | some (k, v) =>
      if c = M.reduce then {.held q ((D.positionsOf M.reduce).getD (M.slotOf k) 0) k v}
      else if c = M.print then M.printDecl.parallelism • {.result q k v} else 0
    | none => 0

def outValue (c : String) (t : Tuple) : Multiset Posting :=
  if c = M.map then M.mapValue J t
  else match t.pair? with
    | some (k, v) => if c = M.reduce then {M.holding (k, v)} else if c = M.print then M.printed k v else 0
    | none => 0

def sendersLedger (c : String) (w : Nat) (ss : List Sender) : Multiset Posting :=
  (ss.mapIdx fun k S => (S.held.map (M.streamValue J c (Job.peerWorker w k))).sum).sum

/-- The postings of the job on worker `w`: its context, its reduce executors' pairs, and what its
senders hold back. -/
def jobLedger (w : Nat) (j : Job) : Multiset Posting :=
  j.context.ledger w + (j.bolts.mapIdx (BoltExecutor.ledger w)).sum +
    (j.routers.map fun e => M.sendersLedger J e.1 w e.2.senders).sum

def ledger (s : World) : Multiset Posting :=
  ((List.range D.addresses.length).map fun w => ((s.job? ⟨w, D.job⟩).map (M.jobLedger J w)).getD 0).sum

/-- What reducing some pairs amounts to: for each key, one reduce input, one reduce output, and
its total printed by every print executor of the cluster. -/
def reduced (m : Multiset (String × String)) : Multiset Posting :=
  ((totals m).map fun o => {.reduceInput} + {.reduceOutput} + M.printed o.1 o.2).sum

/-- A flow that adds `δ` to the ledger `X` and finishes the reduce executors `F` ends with the
ledger `Y`: each of them hands the pairs held for it over as reduced totals. -/
def Settles (X δ : Multiset Posting) (F : List (Nat × Nat)) (Y : Multiset Posting) : Prop :=
  Y + (F.map fun r => Posting.heldFor r (X + δ)).sum =
    X + δ + (F.map fun r => M.reduced (Posting.pairsFor r (X + δ))).sum

/-! ### How changes move the ledger -/

lemma sum_map_update {l : List Nat} (hl : l.Nodup) {q : Nat} (hq : q ∈ l) {g g' : Nat → Multiset Posting}
    (hg : ∀ w ∈ l, w ≠ q → g' w = g w) {a b : Multiset Posting} (h : g' q + a = g q + b) :
    (l.map g').sum + a = (l.map g).sum + b := by
  induction l with
  | nil => cases hq
  | cons x l ih =>
    obtain ⟨hx, hl⟩ := List.nodup_cons.mp hl
    by_cases hxq : x = q
    · subst hxq
      have hrest : l.map g' = l.map g :=
        List.map_congr_left fun w hw => hg w (List.mem_cons_of_mem _ hw) fun h => hx (h ▸ hw)
      rw [List.map_cons, List.map_cons, List.sum_cons, List.sum_cons, hrest]
      calc g' x + (l.map g).sum + a = (g' x + a) + (l.map g).sum := by abel
        _ = g x + (l.map g).sum + b := by rw [h]; abel
    · have hq' : q ∈ l := (List.mem_cons.mp hq).resolve_left (Ne.symm hxq)
      rw [List.map_cons, List.map_cons, List.sum_cons, List.sum_cons, hg x List.mem_cons_self hxq,
        add_assoc, ih hl hq' fun w hw hwq => hg w (List.mem_cons_of_mem _ hw) hwq, add_assoc]

lemma sum_set_add {L : List (Multiset Posting)} {n : Nat} {x : Multiset Posting} (h : L[n]? = some x)
    (y : Multiset Posting) : (L.set n y).sum + x = L.sum + y := by
  induction L generalizing n with
  | nil => cases h
  | cons a L ih =>
    cases n with
    | zero =>
      obtain rfl : a = x := by simpa using h
      simp only [List.set_cons_zero, List.sum_cons]
      abel
    | succ n =>
      simp only [List.set_cons_succ, List.sum_cons, List.getElem?_cons_succ] at h ⊢
      rw [add_assoc, ih h, add_assoc]

lemma ledger_updJob {s : World} {q : Nat} (hq : q < D.addresses.length) {j : Job}
    (hj : s.job? ⟨q, D.job⟩ = some j) {f : Job → Job} {a b : Multiset Posting}
    (h : M.jobLedger J q (f j) + a = M.jobLedger J q j + b) :
    M.ledger J (s.updJob ⟨q, D.job⟩ f) + a = M.ledger J s + b := by
  refine sum_map_update List.nodup_range (List.mem_range.mpr hq) (fun w _ hw => ?_) ?_
  · rw [World.job?_updJob, if_neg fun h => hw (congrArg Place.worker h)]
  · rw [World.job?_updJob, if_pos rfl, hj]
    exact h

lemma ledger_of_job? {s s' : World} (h : ∀ w, s'.job? ⟨w, D.job⟩ = s.job? ⟨w, D.job⟩) :
    M.ledger J s' = M.ledger J s := by
  simp only [ledger, h]

lemma jobLedger_context (w : Nat) (j : Job) (c : JobContext) :
    M.jobLedger J w { j with context := c } + j.context.ledger w = M.jobLedger J w j + c.ledger w := by
  simp only [jobLedger]
  abel

lemma jobLedger_bolts (w : Nat) {j : Job} {i : Nat} {b : BoltExecutor} (hb : j.bolts[i]? = some b)
    (g : BoltExecutor → BoltExecutor) :
    M.jobLedger J w { j with bolts := j.bolts.modify i g } + b.ledger w i =
      M.jobLedger J w j + (g b).ledger w i := by
  have hset : (j.bolts.modify i g).mapIdx (BoltExecutor.ledger w) =
      (j.bolts.mapIdx (BoltExecutor.ledger w)).set i ((g b).ledger w i) := by
    rw [List.modify_eq_set, hb, Option.getD_some, List.mapIdx_set]
  have hsum := sum_set_add (L := j.bolts.mapIdx (BoltExecutor.ledger w)) (n := i)
    (by rw [List.getElem?_mapIdx, hb, Option.map_some]) ((g b).ledger w i)
  simp only [jobLedger, hset]
  calc j.context.ledger w + (((j.bolts.mapIdx (BoltExecutor.ledger w)).set i ((g b).ledger w i)).sum) +
        (j.routers.map fun e => M.sendersLedger J e.1 w e.2.senders).sum + b.ledger w i
      = j.context.ledger w + ((((j.bolts.mapIdx (BoltExecutor.ledger w)).set i ((g b).ledger w i)).sum) +
          b.ledger w i) + (j.routers.map fun e => M.sendersLedger J e.1 w e.2.senders).sum := by abel
    _ = _ := by rw [hsum]; abel

lemma sum_setRouter {rs : List (String × Router)} (hnd : (rs.map (·.1)).Nodup) {c : String} {r r' : Router}
    (hr : rs.lookup c = some r) (g : String → Router → Multiset Posting) :
    ((rs.map fun (s, r₀) => if s = c then (s, r') else (s, r₀)).map fun e => g e.1 e.2).sum + g c r =
      (rs.map fun e => g e.1 e.2).sum + g c r' := by
  induction rs with
  | nil => simp at hr
  | cons e rs ih =>
    obtain ⟨c', r₀⟩ := e
    obtain ⟨hc, hnd⟩ := List.nodup_cons.mp hnd
    by_cases hcc : c' = c
    · subst hcc
      obtain rfl : r₀ = r := by simpa using hr
      have hrest : (rs.map fun (s, r₁) => if s = c' then (s, r') else (s, r₁)) = rs := by
        refine (List.map_congr_left fun e he => ?_).trans (List.map_id' _)
        obtain ⟨s, r₁⟩ := e
        have hs : s ≠ c' := fun h => hc (by rw [← h]; exact List.mem_map_of_mem (f := fun x => x.1) he)
        simp [hs]
      simp only [List.map_cons, if_true, hrest, List.sum_cons]
      abel
    · have hb : (c == c') = false := by simp [Ne.symm hcc]
      simp only [List.lookup_cons, hb] at hr
      simp only [List.map_cons, hcc, if_false, List.sum_cons]
      rw [add_assoc, ih hnd hr, add_assoc]

lemma jobLedger_setRouter (w : Nat) {j : Job} (hnd : (j.routers.map (·.1)).Nodup) {c : String} {r : Router}
    (hr : j.router? c = some r) (r' : Router) :
    M.jobLedger J w (j.setRouter c r') + M.sendersLedger J c w r.senders =
      M.jobLedger J w j + M.sendersLedger J c w r'.senders := by
  have h := @sum_setRouter _ hnd _ _ r' hr fun c' r₀ => M.sendersLedger J c' w r₀.senders
  simp only [jobLedger, Job.setRouter]
  rw [add_assoc, h]
  abel

lemma sendersLedger_set (c : String) (w : Nat) {ss : List Sender} {k : Nat} {S : Sender} (hS : ss[k]? = some S)
    (S' : Sender) :
    M.sendersLedger J c w (ss.set k S') + (S.held.map (M.streamValue J c (Job.peerWorker w k))).sum =
      M.sendersLedger J c w ss + (S'.held.map (M.streamValue J c (Job.peerWorker w k))).sum := by
  simp only [sendersLedger, List.mapIdx_set]
  exact sum_set_add (by rw [List.getElem?_mapIdx, hS, Option.map_some]) _

/-! ### Settling -/

variable {M}

@[simp] lemma heldFor_printed (r : Nat × Nat) (k v : String) : Posting.heldFor r (M.printed k v) = 0 := by
  rw [printed, map_list_sum, List.map_map]
  exact List.sum_eq_zero fun x hx => by
    obtain ⟨q, -, rfl⟩ := List.mem_map.mp hx
    simp [map_nsmul, Posting.pairFor]

@[simp] lemma pairsFor_printed (r : Nat × Nat) (k v : String) : Posting.pairsFor r (M.printed k v) = 0 := by
  rw [← Posting.pairsFor_heldFor, heldFor_printed, map_zero]

@[simp] lemma heldFor_reduced (r : Nat × Nat) (m : Multiset (String × String)) :
    Posting.heldFor r (M.reduced m) = 0 := by
  rw [reduced, map_multiset_sum, Multiset.map_map]
  refine Multiset.sum_eq_zero fun x hx => ?_
  obtain ⟨o, -, rfl⟩ := Multiset.mem_map.mp hx
  simp [Posting.pairFor]

@[simp] lemma pairsFor_reduced (r : Nat × Nat) (m : Multiset (String × String)) :
    Posting.pairsFor r (M.reduced m) = 0 := by
  rw [← Posting.pairsFor_heldFor, heldFor_reduced, map_zero]

lemma heldFor_sum_heldFor {r : Nat × Nat} {F : List (Nat × Nat)} (hr : r ∉ F) (X : Multiset Posting) :
    Posting.heldFor r (F.map fun r' => Posting.heldFor r' X).sum = 0 := by
  rw [map_list_sum, List.map_map]
  exact List.sum_eq_zero fun x hx => by
    obtain ⟨r', hr', rfl⟩ := List.mem_map.mp hx
    exact Posting.heldFor_heldFor_of_ne (fun h => hr (by rw [h]; exact hr')) X

lemma pairsFor_sum_heldFor {r : Nat × Nat} {F : List (Nat × Nat)} (hr : r ∉ F) (X : Multiset Posting) :
    Posting.pairsFor r (F.map fun r' => Posting.heldFor r' X).sum = 0 := by
  rw [← Posting.pairsFor_heldFor, heldFor_sum_heldFor hr, map_zero]

lemma heldFor_sum_reduced (r : Nat × Nat) (F : List (Nat × Nat)) (g : Nat × Nat → Multiset (String × String)) :
    Posting.heldFor r (F.map fun r' => M.reduced (g r')).sum = 0 := by
  simp [map_list_sum, Function.comp_def]

lemma pairsFor_sum_reduced (r : Nat × Nat) (F : List (Nat × Nat)) (g : Nat × Nat → Multiset (String × String)) :
    Posting.pairsFor r (F.map fun r' => M.reduced (g r')).sum = 0 := by
  simp [map_list_sum, Function.comp_def]

variable {X Y Z δ δ₁ δ₂ : Multiset Posting} {F F₁ F₂ : List (Nat × Nat)}

@[simp] lemma settles_nil : M.Settles X δ [] Y ↔ Y = X + δ := by
  simp [Settles]

lemma Settles.perm {F' : List (Nat × Nat)} (h : M.Settles X δ F Y) (hp : F.Perm F') : M.Settles X δ F' Y := by
  unfold Settles at *
  rwa [← (hp.map _).sum_eq, ← (hp.map _).sum_eq]

lemma Settles.heldFor_of_not_mem (h : M.Settles X δ F Y) {r : Nat × Nat} (hr : r ∉ F) :
    Posting.heldFor r Y = Posting.heldFor r (X + δ) ∧ Posting.pairsFor r Y = Posting.pairsFor r (X + δ) := by
  have hh := congrArg (Posting.heldFor r) h
  have hp := congrArg (Posting.pairsFor r) h
  rw [map_add, map_add (Posting.heldFor r) (X + δ), heldFor_sum_heldFor hr, heldFor_sum_reduced,
    add_zero, add_zero] at hh
  rw [map_add, map_add (Posting.pairsFor r) (X + δ), pairsFor_sum_heldFor hr, pairsFor_sum_reduced,
    add_zero, add_zero] at hp
  exact ⟨hh, hp⟩

theorem Settles.trans (h₁ : M.Settles X δ₁ F₁ Y) (h₂ : M.Settles Y δ₂ F₂ Z)
    (hδ : ∀ r ∈ F₁, Posting.heldFor r δ₂ = 0) (hF : (F₁ ++ F₂).Nodup) :
    M.Settles X (δ₁ + δ₂) (F₁ ++ F₂) Z := by
  have hdis : ∀ r ∈ F₂, r ∉ F₁ := fun r h₂ h₁ => List.disjoint_of_nodup_append hF h₁ h₂
  -- the first flow's executors see nothing of the second flow
  have hfirst : ∀ r ∈ F₁, Posting.heldFor r (X + (δ₁ + δ₂)) = Posting.heldFor r (X + δ₁) ∧
      Posting.pairsFor r (X + (δ₁ + δ₂)) = Posting.pairsFor r (X + δ₁) := fun r hr => by
    have hp : Posting.pairsFor r δ₂ = 0 := by rw [← Posting.pairsFor_heldFor, hδ r hr, map_zero]
    rw [← add_assoc, map_add, hδ r hr, map_add (Posting.pairsFor r), hp, add_zero, add_zero]
    exact ⟨rfl, rfl⟩
  -- the second flow's executors saw nothing of the first
  have hsecond : ∀ r ∈ F₂, Posting.heldFor r (X + (δ₁ + δ₂)) = Posting.heldFor r (Y + δ₂) ∧
      Posting.pairsFor r (X + (δ₁ + δ₂)) = Posting.pairsFor r (Y + δ₂) := fun r hr => by
    obtain ⟨hh, hp⟩ := h₁.heldFor_of_not_mem (hdis r hr)
    rw [← add_assoc, map_add, map_add (Posting.heldFor r) Y, hh, map_add (Posting.pairsFor r),
      map_add (Posting.pairsFor r) Y, hp]
    exact ⟨rfl, rfl⟩
  unfold Settles at *
  rw [List.map_append, List.map_append, List.sum_append, List.sum_append,
    List.map_congr_left fun r hr => (hfirst r hr).1, List.map_congr_left fun r hr => (hsecond r hr).1,
    List.map_congr_left fun r hr => congrArg M.reduced (hfirst r hr).2,
    List.map_congr_left fun r hr => congrArg M.reduced (hsecond r hr).2]
  calc Z + ((F₁.map fun r => Posting.heldFor r (X + δ₁)).sum + (F₂.map fun r => Posting.heldFor r (Y + δ₂)).sum)
      = (Z + (F₂.map fun r => Posting.heldFor r (Y + δ₂)).sum) + (F₁.map fun r => Posting.heldFor r (X + δ₁)).sum := by
        abel
    _ = (Y + (F₁.map fun r => Posting.heldFor r (X + δ₁)).sum) + δ₂ +
          (F₂.map fun r => M.reduced (Posting.pairsFor r (Y + δ₂))).sum := by
        rw [h₂]
        abel
    _ = _ := by
        rw [h₁]
        abel

end MapReduce

end Deployment

end Dataflow
