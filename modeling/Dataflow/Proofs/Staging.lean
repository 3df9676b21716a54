import Dataflow.Proofs.Ledger
import Dataflow.Proofs.Flow
/-!
The course of a map/reduce job. Its phases only move forward along init, mapping, reducing and
idle (`Phase.rank`), because each worker's job keeps `JobStaged` between flows: every bolt executor
runs the component of its node, the pending count is the number of local executors that have not
forwarded their end of stream, and the job is idle only once that count is zero; and a job is
reducing only once every map executor of the cluster has finished (`Staged`).
-/
namespace Dataflow

namespace Phase

def course : List Phase := [.init, .mapping, .reducing, .idle]

/-- The place of a phase on the course; `indexing`, which is not on it, comes after it. -/
def rank (p : Phase) : Nat := course.idxOf p

@[simp] lemma rank_init : rank .init = 0 := rfl
@[simp] lemma rank_mapping : rank .mapping = 1 := rfl
@[simp] lemma rank_reducing : rank .reducing = 2 := rfl
@[simp] lemma rank_idle : rank .idle = 3 := rfl

lemma rank_le_idle {p : Phase} (h : p ∈ course) : p.rank ≤ Phase.idle.rank := by
  simp only [course, List.mem_cons, List.not_mem_nil, or_false] at h
  rcases h with rfl | rfl | rfl | rfl <;> decide

end Phase

def Job.unsent (j : Job) : Nat := (j.spouts.map (·.sentEos)).count false + (j.bolts.map (·.sentEos)).count false

lemma count_false_set {L : List Bool} {i : Nat} (h : L[i]? = some false) :
    (L.set i true).count false + 1 = L.count false := by
  induction L generalizing i with
  | nil => cases h
  | cons a L ih =>
    cases i with
    | zero =>
      obtain rfl : a = false := by simpa using h
      simp
    | succ i =>
      simp only [List.getElem?_cons_succ] at h
      simp only [List.set_cons_succ, List.count_cons]
      rw [Nat.add_right_comm, ih h]

namespace Deployment

variable {D : Deployment}

namespace MapReduce

variable (M : D.MapReduce)

/-! ### The shape -/

lemma map_ne_reduce : M.map ≠ M.reduce := fun h => by
  have := M.map_lookup
  rw [h, M.reduce_lookup, Option.some.injEq] at this
  have hc := M.map_component
  rw [← this, M.reduce_component] at hc
  simp at hc

lemma map_ne_print : M.map ≠ M.print := fun h => by
  have := M.map_lookup
  rw [h, M.print_lookup, Option.some.injEq] at this
  have hc := M.map_component
  rw [← this, M.print_component] at hc
  simp at hc

lemma reduce_ne_print : M.reduce ≠ M.print := fun h => by
  have := M.reduce_lookup
  rw [h, M.print_lookup, Option.some.injEq] at this
  have hc := M.reduce_component
  rw [← this, M.print_component] at hc
  simp at hc

variable {M}

lemma decl_of_mem (hk : (D.topology.bolts.map (·.1)).Nodup) {e : String × BoltDecl} (he : e ∈ D.topology.bolts) :
    (e.1 = M.map ∧ e.2 = M.mapDecl) ∨ (e.1 = M.reduce ∧ e.2 = M.reduceDecl) ∨
      (e.1 = M.print ∧ e.2 = M.printDecl) := by
  have hl : D.topology.bolts.lookup e.1 = some e.2 := lookup_eq_some_of_mem hk he
  rcases M.bolts e.1 e.2 hl with h | h | h
  · rw [h, M.map_lookup, Option.some.injEq] at hl
    exact .inl ⟨h, hl.symm⟩
  · rw [h, M.reduce_lookup, Option.some.injEq] at hl
    exact .inr (.inl ⟨h, hl.symm⟩)
  · rw [h, M.print_lookup, Option.some.injEq] at hl
    exact .inr (.inr ⟨h, hl.symm⟩)

lemma depths (hv : D.topology.Valid) :
    D.topology.depth M.map = D.topology.depth M.spout + 1 ∧
      D.topology.depth M.reduce = D.topology.depth M.spout + 2 ∧
      D.topology.depth M.print = D.topology.depth M.spout + 3 := by
  have hm := hv.depth_input _ _ M.map_lookup
  have hr := hv.depth_input _ _ M.reduce_lookup
  have hp := hv.depth_input _ _ M.print_lookup
  rw [M.map_input] at hm
  rw [M.reduce_input] at hr
  rw [M.print_input] at hp
  omega

lemma subscribers_single {n c : String} (hk : (D.topology.bolts.map (·.1)).Nodup) {d : BoltDecl}
    (hc : D.topology.bolts.lookup c = some d) (h : ∀ e ∈ D.topology.bolts, e.2.input = n ↔ e.1 = c) :
    D.topology.subscribers n = [c] := by
  have hf : D.topology.bolts.filter (·.2.input = n) = D.topology.bolts.filter fun e => e.1 = c :=
    List.filter_congr fun e he => by simp [h e he]
  simp [Topology.subscribers, hf, Keyed.filter_key hk, hc]

variable (hk : (D.topology.bolts.map (·.1)).Nodup) (hv : D.topology.Valid)
include hk hv

lemma subscribers_spout : D.topology.subscribers M.spout = [M.map] := by
  obtain ⟨hm, hr, hp⟩ := M.depths hv
  refine subscribers_single hk M.map_lookup fun e he => ?_
  rcases decl_of_mem hk he with ⟨h1, h2⟩ | ⟨h1, h2⟩ | ⟨h1, h2⟩ <;> rw [h1, h2]
  · exact ⟨fun _ => rfl, fun _ => M.map_input⟩
  · rw [M.reduce_input]
    exact ⟨fun h => absurd (h ▸ hm) (by omega), fun h => absurd h (M.map_ne_reduce).symm⟩
  · rw [M.print_input]
    exact ⟨fun h => absurd (h ▸ hr) (by omega), fun h => absurd h (M.map_ne_print).symm⟩

lemma subscribers_map : D.topology.subscribers M.map = [M.reduce] := by
  obtain ⟨hm, hr, hp⟩ := M.depths hv
  refine subscribers_single hk M.reduce_lookup fun e he => ?_
  rcases decl_of_mem hk he with ⟨h1, h2⟩ | ⟨h1, h2⟩ | ⟨h1, h2⟩ <;> rw [h1, h2]
  · rw [M.map_input]
    exact ⟨fun h => absurd (h ▸ hm) (by omega), fun h => absurd h M.map_ne_reduce⟩
  · exact ⟨fun _ => rfl, fun _ => M.reduce_input⟩
  · rw [M.print_input]
    exact ⟨fun h => absurd (h ▸ hr) (by omega), fun h => absurd h (M.reduce_ne_print).symm⟩

lemma subscribers_reduce : D.topology.subscribers M.reduce = [M.print] := by
  obtain ⟨hm, hr, hp⟩ := M.depths hv
  refine subscribers_single hk M.print_lookup fun e he => ?_
  rcases decl_of_mem hk he with ⟨h1, h2⟩ | ⟨h1, h2⟩ | ⟨h1, h2⟩ <;> rw [h1, h2]
  · rw [M.map_input]
    exact ⟨fun h => absurd (h ▸ hr) (by omega), fun h => absurd h M.map_ne_print⟩
  · rw [M.reduce_input]
    exact ⟨fun h => absurd (h ▸ hr) (by omega), fun h => absurd h M.reduce_ne_print⟩
  · exact ⟨fun _ => rfl, fun _ => M.print_input⟩

lemma subscribers_print : D.topology.subscribers M.print = [] := by
  obtain ⟨hm, hr, hp⟩ := M.depths hv
  unfold Topology.subscribers
  rw [List.map_eq_nil_iff, List.filter_eq_nil_iff]
  intro e he hin
  simp only [decide_eq_true_eq] at hin
  rcases decl_of_mem hk he with ⟨h1, h2⟩ | ⟨h1, h2⟩ | ⟨h1, h2⟩ <;> rw [h2] at hin
  · rw [M.map_input] at hin
    rw [hin] at hp
    omega
  · exact M.map_ne_print (by rwa [M.reduce_input] at hin)
  · exact M.reduce_ne_print (by rwa [M.print_input] at hin)

/-! ### The staging invariant -/

variable (M) (J : Reducer)

/-- A bolt executor runs the component of its node: the map with the job's reducer, a reduce
buffer with ordered keys and no empty entry, or a print. -/
def LogicFits (b : BoltExecutor) : Prop :=
  (b.node = M.map → b.logic = .map J) ∧
    (b.node = M.reduce → ∃ job held, b.logic = .reduce job held ∧ Keyed.Ordered held ∧ ∀ e ∈ held, e.2 ≠ []) ∧
    (b.node = M.print → ∃ results dir, b.logic = .print results dir)

structure JobStaged (j : Job) : Prop where
  nodes : j.bolts.map (·.node) = D.boltNodes
  fits : ∀ b ∈ j.bolts, M.LogicFits J b
  pending : j.context.pending = j.unsent
  course : j.context.phase ∈ Phase.course
  idle : j.context.phase = .idle → j.context.pending = 0

def MapsClosed (s : World) : Prop :=
  ∀ w i b, s.boltAt D.job w i = some b → b.node = M.map → b.finalized = true

/-- The staging of the job across the cluster: every worker's job is staged, and reduces only once
every map executor has finished. -/
structure Staged (s : World) : Prop where
  jobs : ∀ w j, s.job? ⟨w, D.job⟩ = some j → M.JobStaged J j
  reducing : ∀ w j, s.job? ⟨w, D.job⟩ = some j → j.context.phase = .reducing → M.MapsClosed s

end MapReduce

variable (D)

def PhaseFwd (s s' : World) : Prop :=
  ∀ w j j', s.job? ⟨w, D.job⟩ = some j → s'.job? ⟨w, D.job⟩ = some j' →
    j.context.phase.rank ≤ j'.context.phase.rank

def PhaseData (s s' : World) : Prop :=
  ∀ w j j', s.job? ⟨w, D.job⟩ = some j → s'.job? ⟨w, D.job⟩ = some j' →
    j'.context.phase = j.context.phase ∨ (j.context.phase = .init ∧ j'.context.phase = .mapping)

variable {D} {s s' s'' : World}

lemma PhaseFwd.refl (s : World) : D.PhaseFwd s s := fun w j j' hj hj' => by
  rw [hj, Option.some.injEq] at hj'
  rw [hj']

lemma PhaseFwd.trans (h : D.PhaseFwd s s') (h' : D.PhaseFwd s' s'') (hex : ∀ w j'', s''.job? ⟨w, D.job⟩ = some j'' →
    ∃ j', s'.job? ⟨w, D.job⟩ = some j') : D.PhaseFwd s s'' := fun w j j'' hj hj'' => by
  obtain ⟨j', hj'⟩ := hex w j'' hj''
  exact (h w j j' hj hj').trans (h' w j' j'' hj' hj'')

lemma PhaseData.refl (s : World) : D.PhaseData s s := fun w j j' hj hj' => by
  rw [hj, Option.some.injEq] at hj'
  exact .inl (by rw [hj'])

lemma PhaseData.trans (h : D.PhaseData s s') (h' : D.PhaseData s' s'') (hex : ∀ w j'', s''.job? ⟨w, D.job⟩ = some j'' →
    ∃ j', s'.job? ⟨w, D.job⟩ = some j') : D.PhaseData s s'' := fun w j j'' hj hj'' => by
  obtain ⟨j', hj'⟩ := hex w j'' hj''
  rcases h w j j' hj hj' with h1 | ⟨h1, h2⟩ <;> rcases h' w j' j'' hj' hj'' with h3 | ⟨h3, h4⟩
  · exact .inl (h3.trans h1)
  · rw [h1] at h3
    exact .inr ⟨h3, h4⟩
  · exact .inr ⟨h1, h3.trans h2⟩
  · rw [h2] at h3
    cases h3

lemma PhaseData.fwd (h : D.PhaseData s s') : D.PhaseFwd s s' := fun w j j' hj hj' => by
  rcases h w j j' hj hj' with h1 | ⟨h1, h2⟩
  · rw [h1]
  · rw [h1, h2]
    decide

lemma PhaseData.of_phase (h : ∀ w, (s'.job? ⟨w, D.job⟩).map (·.context.phase) = (s.job? ⟨w, D.job⟩).map (·.context.phase)) :
    D.PhaseData s s' := fun w j j' hj hj' => by
  have := h w
  rw [hj, hj', Option.map_some, Option.map_some, Option.some.injEq] at this
  exact .inl this

lemma PhaseData.phase_eq (h : D.PhaseData s s') {w : Nat} {j j' : Job} (hj : s.job? ⟨w, D.job⟩ = some j)
    (hj' : s'.job? ⟨w, D.job⟩ = some j') (hi : j.context.phase ≠ .init) : j'.context.phase = j.context.phase :=
  (h w j j' hj hj').resolve_right fun h => hi h.1

end Deployment

end Dataflow
