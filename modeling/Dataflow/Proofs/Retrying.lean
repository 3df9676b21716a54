import Mathlib
import Dataflow.Retry
/-!
Retrying an operation. An operation is watched through a state that counts its calls and logs,
in order, each call and each sleep; its `n`-th call returns `o n`. The loop stops at the first
call whose outcome settles it (a success, or a fault not worth retrying) or at call
`maxRetries + 1`, and returns that call's outcome, sleeping `delay i` before retry `i`; a pause
that overflows crashes it instead. A fault is worth retrying exactly when the fault at the end of
its chain of causes is transient.

The pause before retry `n` is the base delay doubled `min n 16` times with backoff. It is
computed in 64 bits, so it is defined exactly when that product fits, and where it is defined it
grows with `n`.
-/
namespace Dataflow

namespace Fault

def rootCause : Fault → Fault
  | execution _ (some cause) => cause.rootCause
  | f => f

/-- A fault that may go away by itself: a destination not wired yet, a timeout, an I/O failure,
or an HTTP answer 408, 429 or 5xx, or no answer at all (status 0). -/
def Transient : Fault → Prop
  | routerNotReady _ _ | timeout _ | io _ => True
  | http status _ => status = 0 ∨ status = 408 ∨ status = 429 ∨ 500 ≤ status
  | _ => False

lemma retryable_iff_transient : ∀ f : Fault, f.retryable = true ↔ f.rootCause.Transient
  | execution _ (some cause) => by
    rw [retryable, rootCause]
    exact retryable_iff_transient cause
  | execution _ none => by simp [retryable, rootCause, Transient]
  | http status _ => by
    simp only [retryable, rootCause, Transient, decide_eq_true_eq]
    omega
  | config _ | componentNotFound _ | protocolViolation _ _ | routerNotReady _ _ | jobNotFound _
  | timeout _ | serialization _ | io _ | shuttingDown => by simp [retryable, rootCause, Transient]

end Fault

namespace RetryPolicy

/-- What a caller of a retried operation sees, in order: a call of the operation, or a sleep of
the given pause. -/
inductive Event where
  | call
  | sleep (ms : Nat)
  deriving DecidableEq, Repr

abbrev Watched := StateT (Nat × List Event) (Except Crash)

def watched {α : Type} (o : Nat → Except Fault α) : Watched (Except Fault α) :=
  modifyGet fun (n, log) => (o (n + 1), (n + 1, log ++ [.call]))

def slept (ms : Nat) : Watched Unit :=
  modify fun (calls, log) => (calls, log ++ [.sleep ms])

def settles {α : Type} : Except Fault α → Bool
  | .ok _ => true
  | .error e => !e.retryable

/-- The pause before retry `n` by the arithmetic alone, with no 64-bit limit: the base delay,
doubled `min n 16` times with backoff. -/
def nominalDelay (p : RetryPolicy) (n : Nat) : Nat :=
  if p.backoff then p.delayMs * 2 ^ min n 16 else p.delayMs

/-- The events of calls `a + 1` to `k`: a call, then a sleep before retry `i` and a call, for
each `i` from `a` to `k - 2`. -/
def pacedFrom (p : RetryPolicy) (a k : Nat) : List Event :=
  .call :: (List.range' a (k - 1 - a)).flatMap fun i => [.sleep (p.nominalDelay i), .call]

variable {α : Type} (p : RetryPolicy) (o : Nat → Except Fault α)

lemma delay_eq_nominal (n : Nat) :
    p.delay n = if p.nominalDelay n < 2 ^ 64 then some (p.nominalDelay n) else none :=
  rfl

lemma pacedFrom_self (a : Nat) : p.pacedFrom a (a + 1) = [.call] := by
  simp [pacedFrom]

lemma pacedFrom_of_lt {a k : Nat} (h : a + 1 < k) :
    p.pacedFrom a k = .call :: .sleep (p.nominalDelay a) :: p.pacedFrom (a + 1) k := by
  have hn : k - 1 - a = (k - 1 - (a + 1)) + 1 := by omega
  rw [pacedFrom, hn, List.range'_succ]
  rfl

lemma sleep_slept (a : Nat) (σ : Nat × List Event) :
    (p.sleep slept a).run σ =
      if p.nominalDelay a < 2 ^ 64 then .ok ((), σ.1, σ.2 ++ [.sleep (p.nominalDelay a)]) else .error overflow := by
  unfold sleep
  by_cases h : p.nominalDelay a < 2 ^ 64 <;> simp only [delay_eq_nominal, h, if_true, if_false] <;> rfl

lemma run_go_succ (a fuel : Nat) (log : List Event) :
    (run.go p slept (watched o) a (fuel + 1)).run (a, log) =
      if settles (o (a + 1)) ∨ p.maxRetries ≤ a then .ok (o (a + 1), a + 1, log ++ [.call])
      else if p.nominalDelay a < 2 ^ 64 then
        (run.go p slept (watched o) (a + 1) fuel).run (a + 1, log ++ [.call, .sleep (p.nominalDelay a)])
      else .error overflow := by
  simp only [run.go, StateT.run_bind, watched, StateT.run_modifyGet, pure_bind]
  cases h : o (a + 1) with
  | ok v => rfl
  | error e =>
    by_cases hretry : e.retryable = true ∧ a < p.maxRetries
    · have hgo : ¬(settles (.error e : Except Fault α) = true ∨ p.maxRetries ≤ a) := by
        simp [settles, hretry.1, hretry.2]
      simp only [hretry, and_self, ↓reduceIte, hgo, StateT.run_bind, sleep_slept]
      split
      · simp only [List.append_assoc, List.singleton_append]
        rfl
      · rfl
    · have hstop : settles (.error e : Except Fault α) = true ∨ p.maxRetries ≤ a := by
        by_cases hr : e.retryable = true
        · exact .inr (Nat.le_of_not_lt fun ha => hretry ⟨hr, ha⟩)
        · simp [settles, hr]
      simp only [hretry, if_false, hstop, if_true]
      rfl

lemma run_go_calls {k : Nat} (hk : settles (o k) ∨ k = p.maxRetries + 1) (hle : k ≤ p.maxRetries + 1) :
    ∀ (fuel a : Nat) (log : List Event), a + fuel = p.maxRetries + 1 → a < k →
      (∀ j, a < j → j < k → settles (o j) = false ∧ j ≠ p.maxRetries + 1) →
      (run.go p slept (watched o) a fuel).run (a, log) =
        if ∀ i, a ≤ i → i < k - 1 → p.nominalDelay i < 2 ^ 64 then .ok (o k, k, log ++ p.pacedFrom a k)
        else .error overflow
  | 0, a, log, hfuel, hak, _ => by omega
  | fuel + 1, a, log, hfuel, hak, hbefore => by
    rw [run_go_succ]
    by_cases hnext : k = a + 1
    · -- call `a + 1` decides, and no pause comes before it
      subst hnext
      have hstop : settles (o (a + 1)) = true ∨ p.maxRetries ≤ a := hk.imp id (by omega)
      have hfits : ∀ i, a ≤ i → i < a + 1 - 1 → p.nominalDelay i < 2 ^ 64 := fun i h₁ h₂ => by omega
      rw [if_pos hstop, if_pos hfits, pacedFrom_self]
    · -- call `a + 1` fails transiently with retries left: the pause before retry `a` comes next
      have hlt : a + 1 < k := by omega
      obtain ⟨hsettle, hlast⟩ := hbefore (a + 1) (by omega) hlt
      have hgo : ¬(settles (o (a + 1)) = true ∨ p.maxRetries ≤ a) := by
        simp only [hsettle, Bool.false_eq_true, false_or, not_le]
        omega
      rw [if_neg hgo]
      by_cases hfit : p.nominalDelay a < 2 ^ 64
      · have hrest := run_go_calls hk hle fuel (a + 1) (log ++ [.call, .sleep (p.nominalDelay a)]) (by omega) hlt
          (fun j hj hjk => hbefore j (by omega) hjk)
        -- with pause `a` fitting, the pauses from `a` on fit exactly when those from `a + 1` on do
        have hfits : (∀ i, a + 1 ≤ i → i < k - 1 → p.nominalDelay i < 2 ^ 64) ↔
            ∀ i, a ≤ i → i < k - 1 → p.nominalDelay i < 2 ^ 64 :=
          ⟨fun h i h₁ h₂ => if hi : i = a then hi ▸ hfit else h i (by omega) h₂, fun h i h₁ h₂ => h i (by omega) h₂⟩
        rw [if_pos hfit, hrest, pacedFrom_of_lt p hlt]
        simp only [hfits, List.append_assoc, List.cons_append, List.nil_append]
      · have hnot : ¬∀ i, a ≤ i → i < k - 1 → p.nominalDelay i < 2 ^ 64 := fun h => hfit (h a le_rfl (by omega))
        rw [if_neg hfit, if_neg hnot]

/-- A retried operation is called until the first call that decides: a success, a fault not
worth retrying, or call `maxRetries + 1`. When every pause before a retry fits 64 bits, it returns
that call's outcome and sleeps `delay 0, delay 1, …` before the retries, one sleep between
consecutive calls; otherwise it crashes. A fault is worth retrying exactly when the fault at the
end of its chain of causes is transient. -/
theorem run_calls_until_decided :
    (∃ k, IsLeast {k | 0 < k ∧ (settles (o k) ∨ k = p.maxRetries + 1)} k ∧
      (p.run slept (watched o)).run (0, []) =
        if ∀ i < k - 1, p.nominalDelay i < 2 ^ 64 then
          .ok (o k, k, .call :: (List.range (k - 1)).flatMap fun i => [.sleep (p.nominalDelay i), .call])
        else .error overflow) ∧
    ∀ f : Fault, f.retryable = true ↔ f.rootCause.Transient := by
  refine ⟨?_, Fault.retryable_iff_transient⟩
  have hex : ∃ k, 0 < k ∧ (settles (o k) ∨ k = p.maxRetries + 1) := ⟨p.maxRetries + 1, by omega, .inr rfl⟩
  refine ⟨Nat.find hex, ⟨Nat.find_spec hex, fun j hj => Nat.find_min' hex hj⟩, ?_⟩
  obtain ⟨hpos, hk⟩ := Nat.find_spec hex
  have hle : Nat.find hex ≤ p.maxRetries + 1 := Nat.find_min' hex ⟨by omega, .inr rfl⟩
  -- the calls before the deciding one neither settle nor are the last allowed
  have hbefore : ∀ j, 0 < j → j < Nat.find hex → settles (o j) = false ∧ j ≠ p.maxRetries + 1 := by
    intro j hj hjk
    have hnot := Nat.find_min hex hjk
    simp only [not_and, not_or, Bool.not_eq_true] at hnot
    exact hnot hj
  rw [run, run_go_calls p o hk hle (p.maxRetries + 1) 0 [] (by omega) hpos hbefore]
  simp [pacedFrom, List.range_eq_range']

/-- Two transient faults, then a success: three calls, two sleeps. -/
example : ((polling 3 1).run slept
    (watched fun n => if n < 3 then .error (.http 503 "not yet") else .ok n)).run (0, []) =
      .ok (.ok 3, 3, [.call, .sleep 1, .call, .sleep 1, .call]) := rfl

/-- A fault that is not worth retrying ends the loop at once. -/
example : (((polling 2 1).run slept
    (watched fun _ => (.error (.http 400 "bad") : Except Fault Unit))).run (0, [])).map (·.2.1) = .ok 1 := rfl

/-- Doubling from `2 ^ 63` ms, the pause before the second retry overflows: a crash. -/
example : ((RetryPolicy.mk 3 (2 ^ 63) true).run slept
    (watched fun _ => (.error (.timeout "slow") : Except Fault Unit))).run (0, []) = .error overflow := rfl

lemma nominalDelay_mono {m n : Nat} (h : m ≤ n) : p.nominalDelay m ≤ p.nominalDelay n := by
  unfold nominalDelay
  split
  · exact Nat.mul_le_mul_left _ (Nat.pow_le_pow_right (by omega) (by omega))
  · exact le_rfl

lemma nominalDelay_le (n : Nat) : p.nominalDelay n ≤ p.delayMs * 2 ^ 16 := by
  unfold nominalDelay
  split
  · exact Nat.mul_le_mul_left _ (Nat.pow_le_pow_right (by omega) (by omega))
  · exact Nat.le_mul_of_pos_right _ (by positivity)

lemma eq_nominal_of_delay {n d : Nat} (hd : p.delay n = some d) :
    d = p.nominalDelay n ∧ p.nominalDelay n < 2 ^ 64 := by
  rw [delay_eq_nominal] at hd
  split at hd
  · exact ⟨(Option.some.inj hd).symm, by assumption⟩
  · cases hd

lemma nominalDelay_lt_iff {p : RetryPolicy} (hp : p.delayMs < 2 ^ 64) (n : Nat) :
    p.nominalDelay n < 2 ^ 64 ↔ (p.backoff = true → p.delayMs * 2 ^ min n 16 < 2 ^ 64) := by
  unfold nominalDelay
  cases p.backoff
  · simpa using hp
  · simp

/-- For a base delay that fits 64 bits, the pause before retry `n` is the base delay doubled
`min n 16` times with backoff, and the base delay without; it is defined exactly when that
product fits 64 bits, and is missing (an arithmetic overflow) otherwise. Where it is defined it
is at most the base delay doubled 16 times, and the pauses before earlier retries are defined
and no longer. -/
theorem delay_fits_iff (hp : p.delayMs < 2 ^ 64) :
    (∀ n, p.delay n = some (p.nominalDelay n) ↔ (p.backoff = true → p.delayMs * 2 ^ min n 16 < 2 ^ 64)) ∧
    (∀ n, p.delay n = none ↔ p.backoff = true ∧ 2 ^ 64 ≤ p.delayMs * 2 ^ min n 16) ∧
    (∀ n d, p.delay n = some d → d ≤ p.delayMs * 2 ^ 16) ∧
    (∀ m n d, m ≤ n → p.delay n = some d → ∃ d', p.delay m = some d' ∧ d' ≤ d) := by
  refine ⟨fun n => ?_, fun n => ?_, fun n d hd => ?_, fun m n d hmn hd => ?_⟩
  · rw [← nominalDelay_lt_iff hp, delay_eq_nominal]
    split <;> simp_all
  · have hfit := nominalDelay_lt_iff hp n
    rw [delay_eq_nominal]
    split <;> simp_all
  · obtain ⟨rfl, -⟩ := p.eq_nominal_of_delay hd
    exact p.nominalDelay_le n
  · obtain ⟨rfl, hfit⟩ := p.eq_nominal_of_delay hd
    have hm := p.nominalDelay_mono hmn
    exact ⟨p.nominalDelay m, by rw [delay_eq_nominal, if_pos (hm.trans_lt hfit)], hm⟩

/-- The standard policy's pauses stop doubling after retry 16. -/
theorem standard_delay_saturates :
    standard.delayMs < 2 ^ 64 ∧ standard.delay 20 = some (standard.nominalDelay 20) :=
  ⟨by decide, ((delay_fits_iff standard (by decide)).1 20).2 fun _ => by decide⟩

/-- A base delay of `2 ^ 48` ms doubled 16 times reaches `2 ^ 64`: the pause overflows. -/
theorem delay_overflows_at_limit : (RetryPolicy.mk 3 (2 ^ 48) true).delay 16 = none := by
  decide

end RetryPolicy

end Dataflow
