import Mathlib
import Dataflow.Proofs.Ledger
/-!
The sum the built-in jobs reduce with. Values are read in order as 64-bit integers, blanks around
them ignored, and added to a running total that starts at zero. What the sum promises is the
total of the values, or the fault naming the first value that is not a 64-bit integer. It keeps
that promise exactly when every running total, up to the first value that is not an integer,
fits 64 bits; otherwise the addition that leaves the range is an arithmetic overflow, even when
the final total would fit or a value that is not an integer comes later.
-/
namespace Dataflow

def readInt (v : String) : Option Int := Text.parseSigned 64 (Text.trim v)

/-- What summing promises: the total of the values when each is a 64-bit integer, else the fault
naming the first that is not. -/
def promisedSum (key : String) (vs : List String) : Except SumFailure Int :=
  match vs.find? fun v => (readInt v).isNone with
  | none => .ok (vs.map valueOf).sum
  | some v => .error (.notInteger (.fail s!"value '{v}' for key '{key}' is not an integer"))

/-- The running totals from `acc` over the values read before the first that is not an integer,
`acc` first. -/
def runningTotals (acc : Int) (vs : List String) : List Int :=
  ((vs.takeWhile fun v => (readInt v).isSome).map valueOf).scanl (· + ·) acc

def FitsInt64 (s : Int) : Prop := intMin ≤ s ∧ s ≤ intMax

instance : DecidablePred FitsInt64 := fun s => inferInstanceAs (Decidable (intMin ≤ s ∧ s ≤ intMax))

variable {key : String}

lemma valueOf_of_readInt {v : String} {n : Int} (h : readInt v = some n) : valueOf v = n := by
  show (readInt v).getD 0 = n
  rw [h, Option.getD_some]

lemma promisedSum_cons_of_none {v : String} (h : readInt v = none) (rest : List String) :
    promisedSum key (v :: rest) =
      .error (.notInteger (.fail s!"value '{v}' for key '{key}' is not an integer")) := by
  simp [promisedSum, h]

lemma promisedSum_cons_of_some {v : String} {n : Int} (h : readInt v = some n) (rest : List String) :
    promisedSum key (v :: rest) = (promisedSum key rest).map (n + ·) := by
  unfold promisedSum
  simp only [List.find?_cons, h, Option.isNone_some]
  cases rest.find? fun v => (readInt v).isNone <;> simp [Except.map, valueOf_of_readInt h]

lemma runningTotals_cons_of_none {v : String} (h : readInt v = none) (acc : Int) (rest : List String) :
    runningTotals acc (v :: rest) = [acc] := by
  simp [runningTotals, h]

lemma runningTotals_cons_of_some {v : String} {n : Int} (h : readInt v = some n) (acc : Int)
    (rest : List String) : runningTotals acc (v :: rest) = acc :: runningTotals (acc + n) rest := by
  simp [runningTotals, h, valueOf_of_readInt h]

lemma mem_runningTotals (acc : Int) (vs : List String) : acc ∈ runningTotals acc vs := by
  unfold runningTotals
  generalize List.map valueOf _ = ns
  cases ns <;> simp [List.scanl_cons]

lemma sumValues_cons_of_some {v : String} {n : Int} (h : readInt v = some n) (acc : Int)
    (rest : List String) :
    sumValues key acc (v :: rest) =
      if FitsInt64 (acc + n) then sumValues key (acc + n) rest else .error .overflow := by
  have hparse : Text.parseSigned 64 (Text.trim v) = some n := h
  simp only [sumValues, hparse]
  by_cases hfit : FitsInt64 (acc + n)
  · rw [if_pos hfit, if_neg]
    unfold FitsInt64 at hfit
    omega
  · rw [if_neg hfit, if_pos]
    unfold FitsInt64 at hfit
    omega

lemma sumValues_from : ∀ (vs : List String) (acc : Int), FitsInt64 acc →
    sumValues key acc vs =
      if ∀ s ∈ runningTotals acc vs, FitsInt64 s then (promisedSum key vs).map (acc + ·)
      else .error .overflow
  | [], acc, hacc => by
    simp [sumValues, runningTotals, hacc, promisedSum, Except.map]
  | v :: rest, acc, hacc => by
    cases hv : readInt v with
    | none =>
      have hparse : Text.parseSigned 64 (Text.trim v) = none := hv
      simp [sumValues, hparse, runningTotals_cons_of_none hv, hacc, promisedSum_cons_of_none hv,
        Except.map]
    | some n =>
      rw [sumValues_cons_of_some hv, runningTotals_cons_of_some hv, promisedSum_cons_of_some hv]
      by_cases hfit : FitsInt64 (acc + n)
      · -- the new total fits: the sum goes on from it
        rw [if_pos hfit, sumValues_from rest (acc + n) hfit]
        simp only [List.forall_mem_cons, hacc, true_and]
        split
        · cases promisedSum key rest <;> simp [Except.map, add_assoc]
        · rfl
      · -- the new total leaves 64 bits, and it is one of the running totals
        have hnot : ¬∀ s ∈ acc :: runningTotals (acc + n) rest, FitsInt64 s :=
          fun hall => hfit (hall _ (List.mem_cons_of_mem _ (mem_runningTotals _ _)))
        rw [if_neg hfit, if_neg hnot]

/-- The sum of a key's values is the total of the values, or the fault naming the first value
that is not a 64-bit integer, exactly when every running total up to that value fits 64 bits;
otherwise it overflows. -/
theorem sum_exact_iff_totals_fit (key : String) (vs : List String) :
    sumValues key 0 vs =
      if ∀ s ∈ runningTotals 0 vs, FitsInt64 s then promisedSum key vs else .error .overflow := by
  have h0 : FitsInt64 0 := by simp [FitsInt64, intMin, intMax]
  rw [sumValues_from vs 0 h0]
  split
  · cases promisedSum key vs <;> simp [Except.map]
  · rfl

example : sumValues "k" 0 ["1", " 2", "-4"] = .ok (-1) := rfl

/-- Both values are 64-bit integers and their total is `2 ^ 63`, yet the addition overflows. -/
theorem sum_overflows_midway :
    (∀ v ∈ ["9223372036854775807", "1"], (readInt v).isSome) ∧
      sumValues "k" 0 ["9223372036854775807", "1"] = .error .overflow :=
  ⟨by decide, rfl⟩

end Dataflow
