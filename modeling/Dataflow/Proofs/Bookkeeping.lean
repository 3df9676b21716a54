import Dataflow.Context
import Mathlib.Data.List.Perm.Subperm
/-!
The completion and failure bookkeeping of a job's context, over the sequences of calls the
cluster makes on it: the executors are registered once, before any of them finishes, each
finishes at most once, and in between come starts, changes to a working phase, failures and
queries. The pending count is the registered count less the executors finished; the job is idle
exactly when all have finished, and then for good; only the first start finds the job not
started; the job is complete exactly when it was started and all executors finished; it has
failed exactly when a failure was recorded, and then holds the report of the first failure
only; and waiting on it fails exactly when it has failed, and succeeds at once exactly when it
is complete and has not failed.

Each fact is one lemma per call (`*_apply`), lifted to a sequence of calls by induction on the
sequence (`*_replay`).
-/
namespace Dataflow

namespace JobContext

inductive Call where
  | register (n : Nat)
  | finished (executor : Nat)
  | markStarted
  | setPhase (p : Phase)
  | fail (executor : Option String) (f : Fault)

namespace Call

def apply : Call → JobContext → JobContext
  | register n, c => c.expect n
  | finished _, c => c.finishOne
  | markStarted, c => c.start.2
  | setPhase p, c => c.setPhase p
  | fail executor f, c => c.fail executor f

def isRegister : Call → Bool
  | register _ => true
  | _ => false

def isStart : Call → Bool
  | markStarted => true
  | _ => false

def setsIdle : Call → Bool
  | setPhase p => p == .idle
  | _ => false

def finisher? : Call → Option Nat
  | finished e => some e
  | _ => none

def failure? : Call → Option (Option String × Fault)
  | fail executor f => some (executor, f)
  | _ => none

end Call

def replay (c : JobContext) (calls : List Call) : JobContext := calls.foldl (fun c k => k.apply c) c

def finishers (calls : List Call) : List Nat := calls.filterMap Call.finisher?

def firstFailure (calls : List Call) : Option (Option String × Fault) := calls.findSome? Call.failure?

def reportOf (job : String) (r : Option String × Fault) : FaultReport := FaultReport.ofFault (some job) r.1 r.2

/-- Calls as the cluster makes them once `n` executors are registered: no second registration,
no phase set to idle by hand, and each of the `n` executors finishing at most once. -/
structure Issued (n : Nat) (calls : List Call) : Prop where
  noRegister : ∀ k ∈ calls, k.isRegister = false
  working : ∀ k ∈ calls, k.setsIdle = false
  finishers_lt : ∀ e ∈ finishers calls, e < n
  finishers_nodup : (finishers calls).Nodup

instance (n : Nat) (calls : List Call) : Decidable (Issued n calls) :=
  decidable_of_iff ((∀ k ∈ calls, k.isRegister = false) ∧ (∀ k ∈ calls, k.setsIdle = false) ∧
      (∀ e ∈ finishers calls, e < n) ∧ (finishers calls).Nodup)
    ⟨fun ⟨h₁, h₂, h₃, h₄⟩ => ⟨h₁, h₂, h₃, h₄⟩, fun ⟨h₁, h₂, h₃, h₄⟩ => ⟨h₁, h₂, h₃, h₄⟩⟩

lemma Issued.length_finishers_le {n : Nat} {calls : List Call} (h : Issued n calls) :
    (finishers calls).length ≤ n := by
  have hsub : (finishers calls).Subperm (List.range n) :=
    List.subperm_of_subset h.finishers_nodup fun e he => List.mem_range.mpr (h.finishers_lt e he)
  simpa using hsub.length_le

lemma Issued.finisher?_eq_none {calls : List Call} (h : Issued 0 calls) : ∀ k ∈ calls, k.finisher? = none := by
  intro k hk
  cases he : k.finisher? with
  | none => rfl
  | some e => exact absurd (h.finishers_lt e (List.mem_filterMap.mpr ⟨k, hk, he⟩)) (Nat.not_lt_zero e)

/-! ### One call -/

section Step

variable (c : JobContext) (k : Call)

lemma phase_setPhase (p : Phase) : (c.setPhase p).phase = if c.phase = .idle then .idle else p := by
  unfold setPhase; split <;> simp_all

@[simp] lemma setPhase_job (p : Phase) : (c.setPhase p).job = c.job := by
  unfold setPhase; split <;> rfl

@[simp] lemma setPhase_started (p : Phase) : (c.setPhase p).started = c.started := by
  unfold setPhase; split <;> rfl

@[simp] lemma finishOne_job : c.finishOne.job = c.job := by
  simp only [finishOne]; split <;> simp

@[simp] lemma finishOne_started : c.finishOne.started = c.started := by
  simp only [finishOne]; split <;> simp

@[simp] lemma finishOne_failed : c.finishOne.failed = c.failed := by
  simp only [finishOne]; split <;> simp

@[simp] lemma fail_job (ex : Option String) (f : Fault) : (c.fail ex f).job = c.job := by
  unfold fail; split <;> rfl

@[simp] lemma fail_started (ex : Option String) (f : Fault) : (c.fail ex f).started = c.started := by
  unfold fail; split <;> rfl

@[simp] lemma job_apply : (k.apply c).job = c.job := by
  cases k <;> simp [Call.apply, expect, start]

lemma started_apply : (k.apply c).started = (c.started || k.isStart) := by
  cases k <;> simp [Call.apply, Call.isStart, expect, start]

lemma failed_apply : (k.apply c).failed = (c.failed || (k.failure?).isSome) := by
  cases k <;> simp [Call.apply, Call.failure?, expect, start]

lemma errors_apply : (k.apply c).errors =
    if c.failed then c.errors else c.errors ++ ((k.failure?).map (reportOf c.job)).toList := by
  cases k with
  | fail ex f =>
    cases hf : c.failed
    · simp [Call.apply, Call.failure?, fail_of_not_failed hf, reportOf]
    · simp [Call.apply, fail_of_failed hf]
  | _ => by_cases hf : c.failed <;> simp [Call.apply, Call.failure?, hf, expect, start]

lemma pending_apply (hk : k.isRegister = false) : (k.apply c).pending = c.pending - (k.finisher?).toList.length := by
  cases k <;> simp_all [Call.apply, Call.isRegister, Call.finisher?, start]

lemma phase_apply_of_idle (h : c.phase = .idle) : (k.apply c).phase = .idle := by
  cases k with
  | register n => exact h
  | finished e =>
    simp only [Call.apply, finishOne]
    split
    · simp [phase_setPhase]
    · exact h
  | markStarted => exact h
  | setPhase p => simp only [Call.apply, setPhase_of_idle h]; exact h
  | fail ex f => simpa [Call.apply] using h

lemma phase_apply_ne_idle (hk : k.finisher? = none) (hi : k.setsIdle = false) (h : c.phase ≠ .idle) :
    (k.apply c).phase ≠ .idle := by
  cases k with
  | register n => exact h
  | finished e => cases hk
  | markStarted => exact h
  | setPhase p =>
    simp only [Call.setsIdle, beq_eq_false_iff_ne] at hi
    simpa [Call.apply, setPhase_phase h] using hi
  | fail ex f => simpa [Call.apply] using h

lemma idle_iff_apply (hr : k.isRegister = false) (hi : k.setsIdle = false) (h : c.phase = .idle ↔ c.pending = 0) :
    (k.apply c).phase = .idle ↔ (k.apply c).pending = 0 := by
  cases k with
  | register n => cases hr
  | finished e =>
    by_cases hl : c.pending ≤ 1
    · -- the last executor to finish makes the job idle
      simp only [Call.apply, finishOne_phase_of_last hl, finishOne_pending, true_iff]
      omega
    · have hz : c.pending - 1 ≠ 0 := by omega
      have hp : c.phase ≠ .idle := fun hp => by have := h.mp hp; omega
      simp only [Call.apply, finishOne, hz, if_false]
      simpa using hp
  | markStarted => simpa [Call.apply, start] using h
  | setPhase p =>
    simp only [Call.setsIdle, beq_eq_false_iff_ne] at hi
    by_cases hp : c.phase = .idle
    · simpa [Call.apply, setPhase_of_idle hp] using h
    · simp only [Call.apply, setPhase_phase hp, setPhase_pending]
      exact ⟨fun he => absurd he hi, fun hz => absurd (h.mpr hz) hp⟩
  | fail ex f => simpa [Call.apply] using h

end Step

/-! ### Sequences of calls -/

section Replay

variable (c : JobContext) (calls : List Call)

@[simp] lemma replay_nil : replay c [] = c := rfl

@[simp] lemma replay_cons (k : Call) : replay c (k :: calls) = replay (k.apply c) calls := rfl

lemma replay_append (pre post : List Call) : replay c (pre ++ post) = replay (replay c pre) post :=
  List.foldl_append

@[simp] lemma job_replay : (replay c calls).job = c.job := by
  induction calls generalizing c with
  | nil => rfl
  | cons k ks ih => rw [replay_cons, ih, job_apply]

lemma started_replay : (replay c calls).started = (c.started || calls.any Call.isStart) := by
  induction calls generalizing c with
  | nil => simp
  | cons k ks ih => rw [replay_cons, ih, started_apply, List.any_cons, Bool.or_assoc]

lemma isSome_firstFailure_cons (k : Call) :
    (firstFailure (k :: calls)).isSome = ((k.failure?).isSome || (firstFailure calls).isSome) := by
  simp only [firstFailure, List.findSome?_cons]
  cases k.failure? <;> rfl

lemma failed_replay : (replay c calls).failed = (c.failed || (firstFailure calls).isSome) := by
  induction calls generalizing c with
  | nil => simp [firstFailure]
  | cons k ks ih => rw [replay_cons, ih, failed_apply, isSome_firstFailure_cons, Bool.or_assoc]

lemma errors_replay : (replay c calls).errors =
    if c.failed then c.errors else c.errors ++ ((firstFailure calls).map (reportOf c.job)).toList := by
  induction calls generalizing c with
  | nil => simp [firstFailure]
  | cons k ks ih =>
    rw [replay_cons, ih, errors_apply, failed_apply, job_apply]
    cases hf : c.failed
    · -- the first failure is this call's, or the first of the rest
      cases hk : k.failure? <;> simp [firstFailure, hk]
    · simp

lemma pending_replay (h : ∀ k ∈ calls, k.isRegister = false) :
    (replay c calls).pending = c.pending - (finishers calls).length := by
  induction calls generalizing c with
  | nil => simp [finishers]
  | cons k ks ih =>
    rw [replay_cons, ih _ fun k' hk' => h k' (List.mem_cons_of_mem k hk'),
      pending_apply c k (h k List.mem_cons_self)]
    cases hk : k.finisher? <;> simp [finishers, hk, Nat.sub_sub, Nat.add_comm]

lemma phase_replay_of_idle (h : c.phase = .idle) : (replay c calls).phase = .idle := by
  induction calls generalizing c with
  | nil => exact h
  | cons k ks ih => exact ih _ (phase_apply_of_idle c k h)

lemma phase_replay_ne_idle (hk : ∀ k ∈ calls, k.finisher? = none ∧ k.setsIdle = false) (h : c.phase ≠ .idle) :
    (replay c calls).phase ≠ .idle := by
  induction calls generalizing c with
  | nil => exact h
  | cons k ks ih =>
    have ⟨hf, hi⟩ := hk k List.mem_cons_self
    exact ih _ (fun k' hk' => hk k' (List.mem_cons_of_mem k hk')) (phase_apply_ne_idle c k hf hi h)

lemma idle_iff_replay (hk : ∀ k ∈ calls, k.isRegister = false ∧ k.setsIdle = false)
    (h : c.phase = .idle ↔ c.pending = 0) :
    (replay c calls).phase = .idle ↔ (replay c calls).pending = 0 := by
  induction calls generalizing c with
  | nil => exact h
  | cons k ks ih =>
    have ⟨hr, hi⟩ := hk k List.mem_cons_self
    exact ih _ (fun k' hk' => hk k' (List.mem_cons_of_mem k hk')) (idle_iff_apply c k hr hi h)

end Replay

/-! ### Failures in a sequence -/

lemma isSome_firstFailure_iff (calls : List Call) :
    (firstFailure calls).isSome = true ↔ ∃ ex f, Call.fail ex f ∈ calls := by
  simp only [firstFailure, List.isSome_findSome?, List.any_eq_true]
  constructor
  · rintro ⟨k, hk, hs⟩
    cases k with
    | fail ex f => exact ⟨ex, f, hk⟩
    | _ => simp [Call.failure?] at hs
  · rintro ⟨ex, f, hk⟩
    exact ⟨_, hk, rfl⟩

lemma firstFailure_of_first {xs ys : List Call} {ex : Option String} {f : Fault}
    (h : ∀ k ∈ xs, k.failure? = none) : firstFailure (xs ++ Call.fail ex f :: ys) = some (ex, f) := by
  induction xs with
  | nil => rfl
  | cons k ks ih =>
    simp only [firstFailure, List.cons_append, List.findSome?_cons, h k List.mem_cons_self] at ih ⊢
    exact ih fun k' hk' => h k' (List.mem_cons_of_mem k hk')

/-! ### The bookkeeping of a job -/

/-- Completion and failure bookkeeping of a job's context. The cluster makes a context for a job,
makes some calls that neither register nor finish executors, registers `n ≥ 1` executors, and then
makes calls in which each executor finishes at most once; no call sets the phase to idle. Then
the pending count is `n` less the executors finished; the job is idle exactly when all `n` have
finished, and no call takes it out of idle; a start finds the job not started exactly when no
start came before it; the job is complete exactly when it was started and all `n` executors have
finished; it has failed exactly when a failure was recorded, and it then holds one report, that of
the first failure, and none before; waiting on it gives a fault exactly when it has failed, and
completion exactly when it is complete and has not failed. -/
theorem context_bookkeeping {job : String} {config : JobConfig} {n : Nat} {pre post : List Call}
    (hn : 0 < n) (hpre : Issued 0 pre) (hpost : Issued n post) :
    let calls := pre ++ .register n :: post
    let c := replay { job, config } calls
    c.pending = n - (finishers post).length ∧
    (c.phase = .idle ↔ (finishers post).length = n) ∧
    (∀ later : List Call, c.phase = .idle → (replay c later).phase = .idle) ∧
    (∀ xs ys, calls = xs ++ .markStarted :: ys →
      ((replay { job, config } xs).start.1 = true ↔ ∀ k ∈ xs, k.isStart = false)) ∧
    (c.complete = true ↔ (∃ k ∈ calls, k.isStart = true) ∧ (finishers post).length = n) ∧
    (c.failed = true ↔ ∃ ex f, Call.fail ex f ∈ calls) ∧
    (∀ xs ex f ys, calls = xs ++ .fail ex f :: ys → (∀ k ∈ xs, k.failure? = none) →
      c.errors = [FaultReport.ofFault (some job) ex f]) ∧
    (c.failed = false → c.errors = []) ∧
    ((∃ e, c.outcome = .error e) ↔ c.failed = true) ∧
    (c.outcome = .ok true ↔ c.complete = true ∧ c.failed = false) := by
  intro calls c
  -- the context once the executors are registered: nothing pending yet finished, not idle
  set c₁ := replay { job, config } pre with hc₁
  have hpre' : ∀ k ∈ pre, k.finisher? = none ∧ k.setsIdle = false :=
    fun k hk => ⟨hpre.finisher?_eq_none k hk, hpre.working k hk⟩
  have hp₁ : c₁.pending = 0 := by
    rw [hc₁, pending_replay _ _ hpre.noRegister]
    simp [finishers, List.filterMap_eq_nil_iff.mpr fun k hk => (hpre' k hk).1]
  have hi₁ : c₁.phase ≠ .idle := phase_replay_ne_idle _ _ hpre' (by simp)
  have hc : c = replay (c₁.expect n) post := by
    simp only [c, calls, replay_append, replay_cons, Call.apply, hc₁]
  have hle := hpost.length_finishers_le
  have hpend : c.pending = n - (finishers post).length := by
    rw [hc, pending_replay _ _ hpost.noRegister]
    simp [expect, hp₁]
  have hidle : c.phase = .idle ↔ c.pending = 0 := by
    rw [hc]
    refine idle_iff_replay _ _ (fun k hk => ⟨hpost.noRegister k hk, hpost.working k hk⟩) ?_
    simp only [expect, hp₁]
    exact ⟨fun h => absurd h hi₁, fun h => by omega⟩
  have hstarted : c.started = calls.any Call.isStart := by
    simp [c, started_replay]
  have hfailed : c.failed = (firstFailure calls).isSome := by
    simp [c, failed_replay]
  have herrors : c.errors = ((firstFailure calls).map (reportOf job)).toList := by
    simp [c, errors_replay]
  refine ⟨hpend, ?_, fun later h => phase_replay_of_idle c later h, ?_, ?_, ?_, ?_, ?_, ?_, ?_⟩
  · rw [hidle, hpend]
    omega
  · intro xs ys _
    simp [start, started_replay]
  · simp only [complete, Bool.and_eq_true, beq_iff_eq, hstarted, List.any_eq_true, hpend]
    exact and_congr_right fun _ => by omega
  · rw [hfailed]
    exact isSome_firstFailure_iff calls
  · intro xs ex f ys hsplit hfirst
    rw [herrors, hsplit, firstFailure_of_first hfirst]
    rfl
  · intro hf
    have hnone : firstFailure calls = none := by simpa [hfailed] using hf
    rw [herrors, hnone]
    rfl
  · cases hf : c.failed <;> simp [outcome, hf]
  · cases hf : c.failed <;> simp [outcome, hf]

/-- Two executors registered after a start; one finishes, the job fails, the other finishes. -/
theorem context_bookkeeping_two_executors :
    0 < 2 ∧ Issued 0 [.markStarted] ∧
      Issued 2 [.setPhase .mapping, .finished 0, .fail (some "s0") (.fail "boom"), .finished 1] ∧
    let post : List Call := [.setPhase .mapping, .finished 0, .fail (some "s0") (.fail "boom"), .finished 1]
    let calls := [.markStarted] ++ .register 2 :: post
    let c := replay { job := "job", config := {} } calls
    c.pending = 2 - (finishers post).length ∧
    (c.phase = .idle ↔ (finishers post).length = 2) ∧
    (∀ later : List Call, c.phase = .idle → (replay c later).phase = .idle) ∧
    (∀ xs ys, calls = xs ++ .markStarted :: ys →
      ((replay { job := "job", config := {} } xs).start.1 = true ↔ ∀ k ∈ xs, k.isStart = false)) ∧
    (c.complete = true ↔ (∃ k ∈ calls, k.isStart = true) ∧ (finishers post).length = 2) ∧
    (c.failed = true ↔ ∃ ex f, Call.fail ex f ∈ calls) ∧
    (∀ xs ex f ys, calls = xs ++ .fail ex f :: ys → (∀ k ∈ xs, k.failure? = none) →
      c.errors = [FaultReport.ofFault (some "job") ex f]) ∧
    (c.failed = false → c.errors = []) ∧
    ((∃ e, c.outcome = .error e) ↔ c.failed = true) ∧
    (c.outcome = .ok true ↔ c.complete = true ∧ c.failed = false) :=
  ⟨by decide, by decide, by decide, context_bookkeeping (by decide) (by decide) (by decide)⟩

end JobContext

end Dataflow
