import Dataflow.Proofs.Ledger
import Dataflow.Proofs.Lifecycle
/-!
The reduce bolt groups values by key. Over any sequence of data tuples, its buffer holds one entry
per distinct key among the tuples that have a key and a value, keys in increasing order, each with
the values of its key in the order they arrived; a tuple that lacks either field raises an
execution fault naming the field and leaves the buffer as it was. At the end of its input it sets
the phase to reducing and then, key after key in increasing order, counts one reduce input and
reduces the key's values; its buffer is then empty.
-/
namespace Dataflow

def dataPairs (ts : List Tuple) : List (String × String) :=
  (ts.filter fun t => !t.endOfStream).filterMap Tuple.pair?

def valuesFor (ps : List (String × String)) (k : String) : List String :=
  ps.filterMap fun p => if p.1 = k then some p.2 else none

@[simp] lemma valuesFor_cons_self (ps : List (String × String)) (k v : String) :
    valuesFor ((k, v) :: ps) k = v :: valuesFor ps k := by
  simp [valuesFor]

lemma valuesFor_cons_of_ne {ps : List (String × String)} {k k' : String} (h : k' ≠ k) (v : String) :
    valuesFor ((k', v) :: ps) k = valuesFor ps k := by
  simp [valuesFor, h]

namespace BoltLogic

def holdAll (held : List (String × List String)) (ps : List (String × String)) : List (String × List String) :=
  ps.foldl (fun h p => hold h p.1 p.2) held

variable {held : List (String × List String)} {k v : String}

lemma lookup_hold (k' : String) :
    (hold held k v).lookup k' = if k' = k then some ((held.lookup k).getD [] ++ [v]) else held.lookup k' := by
  split
  · rename_i h
    subst h
    exact Keyed.lookup_insert_self _ _ _
  · exact Keyed.lookup_insert_of_ne ‹_› _ _

lemma lookup_holdAll (ps : List (String × String)) (held : List (String × List String)) (k : String) :
    (holdAll held ps).lookup k =
      if valuesFor ps k = [] then held.lookup k else some ((held.lookup k).getD [] ++ valuesFor ps k) := by
  induction ps generalizing held with
  | nil => simp [holdAll, valuesFor]
  | cons p ps ih =>
    obtain ⟨k', v'⟩ := p
    simp only [holdAll, List.foldl_cons] at ih ⊢
    rw [ih, lookup_hold]
    by_cases hk : k = k'
    · -- the pair adds its value before those of the rest
      subst hk
      rw [valuesFor_cons_self, if_neg (List.cons_ne_nil _ _)]
      split <;> simp_all
    · rw [valuesFor_cons_of_ne (Ne.symm hk)]
      simp [hk]

lemma ordered_holdAll (ps : List (String × String)) (h : Keyed.Ordered held) : Keyed.Ordered (holdAll held ps) := by
  induction ps generalizing held with
  | nil => exact h
  | cons p ps ih => exact ih (Keyed.insert_ordered h).1

lemma afterData_reduce (job : Reducer) (ts : List Tuple) :
    (BoltLogic.reduce job held).afterData ts = .reduce job (holdAll held (dataPairs ts)) := by
  induction ts using List.reverseRecOn generalizing held with
  | nil => rfl
  | append_singleton ts t ih =>
    cases he : t.endOfStream
    · rw [afterData_append_data _ _ he, ih]
      simp only [onTuple, dataPairs, holdAll, List.filter_append, List.filter_singleton, he,
        Bool.not_false, cond_true, List.filterMap_append, List.foldl_append]
      cases hk : t.text "key" <;> cases hv : t.text "value" <;> simp [Tuple.pair?, hk, hv]
    · rw [afterData_append_eos _ _ he, ih]
      simp [dataPairs, he]

lemma onTuple_reduce_missing (job : Reducer) (t : Tuple) (h : t.get? "key" = none ∨ t.get? "value" = none) :
    ∃ name, (name = "key" ∨ name = "value") ∧ t.get? name = none ∧
      (BoltLogic.reduce job held).onTuple t = ([.raise (.fail s!"tuple has no field '{name}'")], .reduce job held) := by
  by_cases hk : t.get? "key" = none
  · exact ⟨"key", .inl rfl, hk, by simp [onTuple, Tuple.text, hk]⟩
  · have hv : t.get? "value" = none := h.resolve_left hk
    obtain ⟨d, hd⟩ := Option.ne_none_iff_exists'.mp hk
    exact ⟨"value", .inr rfl, hv, by simp [onTuple, Tuple.text, hd, hv]⟩

end BoltLogic

/-- The reduce bolt groups values by key. After any sequence of data tuples its buffer has keys in
increasing order, exactly the keys of the tuples that have a key and a value, each once and with
that key's values in arrival order; at the end of its input it sets the phase to reducing, then
for each key in turn counts one reduce input and reduces the key's values, and is left with an
empty buffer. A tuple without a key or a value, whatever the buffer, raises an execution fault
naming the missing field and leaves the buffer as it was. -/
theorem reduce_groups_by_key (job : Reducer) (ts : List Tuple) :
    (∃ held, (BoltLogic.reduce job []).afterData ts = .reduce job held ∧
      Keyed.Ordered held ∧
      (∀ k, k ∈ held.map (·.1) ↔ ∃ v, (k, v) ∈ dataPairs ts) ∧
      held.length = ((dataPairs ts).map (·.1)).dedup.length ∧
      (∀ e ∈ held, e.2 = valuesFor (dataPairs ts) e.1) ∧
      (BoltLogic.reduce job held).onFinish =
        (.setPhase .reducing :: held.flatMap (fun e => .countReduceInput :: job.reduce e.1 e.2), .reduce job [])) ∧
    ∀ (held : List (String × List String)) (t : Tuple), (t.get? "key" = none ∨ t.get? "value" = none) →
      ∃ name, (name = "key" ∨ name = "value") ∧ t.get? name = none ∧
        (BoltLogic.reduce job held).onTuple t = ([.raise (.fail s!"tuple has no field '{name}'")], .reduce job held) ∧
        (Fault.fail s!"tuple has no field '{name}'").code = "EXECUTION_ERROR" := by
  refine ⟨?_, fun held t h => ?_⟩
  case refine_2 =>
    obtain ⟨name, hname, hnone, hrun⟩ := BoltLogic.onTuple_reduce_missing job t h
    exact ⟨name, hname, hnone, hrun, rfl⟩
  set held := BoltLogic.holdAll [] (dataPairs ts)
  have ho : Keyed.Ordered held := BoltLogic.ordered_holdAll _ (List.Pairwise.nil)
  -- what a key looks up to in the buffer
  have hlookup : ∀ k, held.lookup k =
      if valuesFor (dataPairs ts) k = [] then none else some (valuesFor (dataPairs ts) k) := by
    intro k
    simp [held, BoltLogic.lookup_holdAll]
  have hvalues : ∀ k, valuesFor (dataPairs ts) k ≠ [] ↔ ∃ v, (k, v) ∈ dataPairs ts := by
    intro k
    rw [Ne, valuesFor, List.filterMap_eq_nil_iff]
    constructor
    · intro h
      by_contra hn
      refine h fun p hp => if_neg fun he => hn ⟨p.2, ?_⟩
      rw [← he]
      exact hp
    · rintro ⟨v, hv⟩ h
      simpa using h _ hv
  have hkeys : ∀ k, k ∈ held.map (·.1) ↔ ∃ v, (k, v) ∈ dataPairs ts := by
    intro k
    rw [← hvalues]
    constructor
    · intro hk hnil
      obtain ⟨v, hv⟩ := lookup_isSome_of_mem_keys hk
      simp [hlookup, hnil] at hv
    · intro hne
      exact Keyed.mem_keys_of_lookup (v := valuesFor (dataPairs ts) k) (by simp [hlookup, hne])
  refine ⟨held, BoltLogic.afterData_reduce job ts, ho, hkeys, ?_, fun e he => ?_, rfl⟩
  · -- the keys of the buffer are the distinct keys of the pairs
    have hperm : (held.map (·.1)).Perm ((dataPairs ts).map (·.1)).dedup :=
      (List.perm_ext_iff_of_nodup ho.nodup (List.nodup_dedup _)).mpr fun k => by
        simp [hkeys, List.mem_dedup]
    simpa using hperm.length_eq
  · have hl : held.lookup e.1 = some e.2 := lookup_eq_some_of_mem ho.nodup he
    rw [hlookup] at hl
    split at hl
    · cases hl
    · exact (Option.some.inj hl).symm

end Dataflow
