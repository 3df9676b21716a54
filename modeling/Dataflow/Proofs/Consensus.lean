import Dataflow.Proofs.Lifecycle
import Mathlib.Data.Nat.Find
/-!
Consensus over a sequence of votes. A tally expecting `n` votes, fed the votes `vs` in turn,
answers `true` exactly at the first vote at which the votes so far come from `max n 1` distinct
voters, so at most once. It has consensus after `i` votes exactly when that vote is among them,
and counts the distinct voters heard until then, at most `max n 1` of them.

`Tally.Counts` says what a tally is after a prefix of the votes; one vote keeps it
(`Counts.vote`), and so does every run of votes (`counts_castAll`). The main statement is
`consensus_reported_once`.
-/
namespace Dataflow

namespace Tally

def castAll (t : Tally) (vs : List String) : Tally := vs.foldl (fun t v => (t.vote v).2) t

@[simp] lemma castAll_nil (t : Tally) : t.castAll [] = t := rfl

@[simp] lemma castAll_append_singleton (t : Tally) (vs : List String) (v : String) :
    t.castAll (vs ++ [v]) = ((t.castAll vs).vote v).2 := by
  simp [castAll]

/-- Vote `i` (counted from 1) is the first at which the votes `vs` come from `m` distinct voters. -/
def FirstReaches (m : Nat) (vs : List String) (i : Nat) : Prop :=
  m ≤ (vs.take i).toFinset.card ∧ ∀ j < i, (vs.take j).toFinset.card < m

lemma card_take_mono {vs : List String} {i j : Nat} (h : j ≤ i) :
    (vs.take j).toFinset.card ≤ (vs.take i).toFinset.card :=
  Finset.card_le_card fun _ hx =>
    List.mem_toFinset.mpr ((List.take_prefix_take_left h).subset (List.mem_toFinset.mp hx))

lemma firstReaches_succ_iff {m : Nat} {vs : List String} {i : Nat} :
    FirstReaches m vs (i + 1) ↔
      (vs.take i).toFinset.card < m ∧ m ≤ (vs.take (i + 1)).toFinset.card := by
  constructor
  · rintro ⟨hreach, hbefore⟩
    exact ⟨hbefore i (Nat.lt_succ_self i), hreach⟩
  · rintro ⟨hbelow, hreach⟩
    exact ⟨hreach, fun j hj => (card_take_mono (Nat.le_of_lt_succ hj)).trans_lt hbelow⟩

lemma FirstReaches.unique {m : Nat} {vs : List String} {i j : Nat} (hi : FirstReaches m vs i)
    (hj : FirstReaches m vs j) : i = j := by
  rcases Nat.lt_trichotomy i j with hlt | heq | hgt
  · exact absurd hi.1 (Nat.not_le.mpr (hj.2 i hlt))
  · exact heq
  · exact absurd hj.1 (Nat.not_le.mpr (hi.2 j hgt))

lemma exists_firstReaches_iff {m : Nat} {vs : List String} {i : Nat} :
    (∃ j ≤ i, FirstReaches m vs j) ↔ m ≤ (vs.take i).toFinset.card := by
  constructor
  · rintro ⟨j, hji, hreach, -⟩
    exact hreach.trans (card_take_mono hji)
  · intro hreach
    have hex : ∃ j, m ≤ (vs.take j).toFinset.card := ⟨i, hreach⟩
    refine ⟨Nat.find hex, Nat.find_min' hex hreach, Nat.find_spec hex, fun j hj => ?_⟩
    exact Nat.lt_of_not_le (Nat.find_min hex hj)

/-- What a tally expecting `n` votes is after the votes `pre`: it has consensus exactly when they
come from `max n 1` distinct voters, and it holds as many voters as there are distinct ones among
them, up to that number; before consensus its voters are those distinct voters, once each. -/
structure Counts (n : Nat) (pre : List String) (t : Tally) : Prop where
  expected : t.expected = n
  reached : t.reached = decide (max n 1 ≤ pre.toFinset.card)
  votes : t.votes = min pre.toFinset.card (max n 1)
  voters : t.reached = false → t.voters.Nodup ∧ t.voters.toFinset = pre.toFinset

lemma counts_init (n : Nat) : Counts n [] { expected := n } where
  expected := rfl
  reached := by simp
  votes := by simp [votes]
  voters _ := by simp

section Step

variable {n : Nat} {pre : List String} {t : Tally} (v : String)

lemma Counts.reaches (ht : Counts n pre t) (hr : t.reached = true) : max n 1 ≤ pre.toFinset.card :=
  of_decide_eq_true (hr ▸ ht.reached).symm

lemma Counts.below (ht : Counts n pre t) (hr : t.reached = false) : pre.toFinset.card < max n 1 :=
  Nat.lt_of_not_le (of_decide_eq_false (hr ▸ ht.reached).symm)

lemma card_le_card_append (pre : List String) (v : String) :
    pre.toFinset.card ≤ (pre ++ [v]).toFinset.card :=
  Finset.card_le_card (by rw [List.toFinset_append]; exact Finset.subset_union_left)

lemma Counts.vote_of_reached (ht : Counts n pre t) (hr : t.reached = true) :
    Counts n (pre ++ [v]) (t.vote v).2 ∧
      (t.vote v).1 = decide (pre.toFinset.card < max n 1 ∧ max n 1 ≤ (pre ++ [v]).toFinset.card) := by
  have hreach := ht.reaches hr
  have hmono := card_le_card_append pre v
  rw [Tally.vote_of_reached hr]
  refine ⟨⟨ht.expected, ?_, ?_, fun h => absurd (hr.symm.trans h) Bool.noConfusion⟩, ?_⟩
  · rw [hr]
    exact (decide_eq_true (hreach.trans hmono)).symm
  · rw [ht.votes]
    omega
  · exact (decide_eq_false (by omega)).symm

lemma Counts.vote_of_heard (ht : Counts n pre t) (hr : t.reached = false) (hv : v ∈ t.voters) :
    Counts n (pre ++ [v]) (t.vote v).2 ∧
      (t.vote v).1 = decide (pre.toFinset.card < max n 1 ∧ max n 1 ≤ (pre ++ [v]).toFinset.card) := by
  have hset : (pre ++ [v]).toFinset = pre.toFinset := by
    rw [List.toFinset_append, ← (ht.voters hr).2]
    simpa using hv
  have hbelow := ht.below hr
  rw [Tally.vote_of_contains (List.contains_iff_mem.mpr hv)]
  refine ⟨⟨ht.expected, by rw [hset]; exact ht.reached, by rw [hset]; exact ht.votes,
    fun h => hset ▸ ht.voters h⟩, ?_⟩
  rw [hset]
  exact (decide_eq_false (by omega)).symm

lemma Counts.vote_of_new (ht : Counts n pre t) (hr : t.reached = false) (hv : v ∉ t.voters) :
    Counts n (pre ++ [v]) (t.vote v).2 ∧
      (t.vote v).1 = decide (pre.toFinset.card < max n 1 ∧ max n 1 ≤ (pre ++ [v]).toFinset.card) := by
  obtain ⟨hnd, hset⟩ := ht.voters hr
  have hbelow := ht.below hr
  have hlen : t.voters.length = pre.toFinset.card := by rw [← hset, List.toFinset_card_of_nodup hnd]
  have hcard : (pre ++ [v]).toFinset.card = pre.toFinset.card + 1 := by
    rw [List.toFinset_append, ← hset]
    simpa using Finset.card_insert_of_notMem (List.mem_toFinset.not.mpr hv)
  -- `n ≤ k + 1` and `max n 1 ≤ k + 1` agree, the count being at least one
  have hwon : decide (n ≤ t.voters.length + 1) =
      decide (pre.toFinset.card < max n 1 ∧ max n 1 ≤ (pre ++ [v]).toFinset.card) := by
    rw [hcard, hlen, decide_eq_decide]
    omega
  rw [Tally.vote_of_not_reached hr, if_neg hv]
  dsimp only
  rw [ht.expected, hwon]
  refine ⟨⟨rfl, ?_, ?_, fun _ => ⟨hnd.append (List.nodup_singleton v) (by simpa using hv), ?_⟩⟩, rfl⟩
  · rw [decide_eq_decide]
    omega
  · simp only [Tally.votes, List.length_append, List.length_singleton, hlen, hcard]
    omega
  · rw [List.toFinset_append, List.toFinset_append, hset]

lemma Counts.vote (ht : Counts n pre t) :
    Counts n (pre ++ [v]) (t.vote v).2 ∧
      (t.vote v).1 = decide (pre.toFinset.card < max n 1 ∧ max n 1 ≤ (pre ++ [v]).toFinset.card) := by
  -- the three branches of a vote: after consensus, a voter heard before, a new voter
  cases hr : t.reached
  case true => exact ht.vote_of_reached v hr
  case false =>
    by_cases hv : v ∈ t.voters
    · exact ht.vote_of_heard v hr hv
    · exact ht.vote_of_new v hr hv

end Step

theorem counts_castAll (n : Nat) (vs : List String) : Counts n vs (({ expected := n } : Tally).castAll vs) := by
  -- the votes grow at their end, one vote at a time
  induction vs using List.reverseRecOn with
  | nil => exact counts_init n
  | append_singleton vs v ih =>
    rw [castAll_append_singleton]
    exact (ih.vote v).1

/-- A tally expecting `n` votes, fed the votes `vs` in turn: the vote at position `i` is answered
`true` exactly when it is the first at which the votes come from `max n 1` distinct voters, so at
most one vote is; after `i` votes the tally has consensus exactly when that vote is among them,
and it counts the distinct voters among them, up to `max n 1`. -/
theorem consensus_reported_once (n : Nat) (vs : List String) :
    (∀ i (hi : i < vs.length),
      ((({ expected := n } : Tally).castAll (vs.take i)).vote vs[i]).1 = true ↔
        FirstReaches (max n 1) vs (i + 1)) ∧
    (∀ i j (hi : i < vs.length) (hj : j < vs.length),
      ((({ expected := n } : Tally).castAll (vs.take i)).vote vs[i]).1 = true →
      ((({ expected := n } : Tally).castAll (vs.take j)).vote vs[j]).1 = true → i = j) ∧
    (∀ i, (({ expected := n } : Tally).castAll (vs.take i)).reached = true ↔
      ∃ j ≤ i, FirstReaches (max n 1) vs j) ∧
    (∀ i, (({ expected := n } : Tally).castAll (vs.take i)).votes =
      min (vs.take i).toFinset.card (max n 1)) := by
  have hanswer : ∀ i (hi : i < vs.length),
      ((({ expected := n } : Tally).castAll (vs.take i)).vote vs[i]).1 = true ↔
        FirstReaches (max n 1) vs (i + 1) := by
    intro i hi
    rw [((counts_castAll n (vs.take i)).vote vs[i]).2, firstReaches_succ_iff,
      List.take_succ_eq_append_getElem hi, decide_eq_true_iff]
  refine ⟨hanswer, fun i j hi hj h₁ h₂ => ?_, fun i => ?_, fun i => (counts_castAll n _).votes⟩
  · exact Nat.succ_injective (((hanswer i hi).mp h₁).unique ((hanswer j hj).mp h₂))
  · rw [(counts_castAll n _).reached, exists_firstReaches_iff, decide_eq_true_iff]

/-- The interleaved duplicates of four voters `e0`..`e3`, as the tally's own test feeds them:
only the seventh vote, the first from `e3`, is answered `true`. -/
example : (List.range 9).map (fun i =>
    ((({ expected := 4 } : Tally).castAll (["e0", "e1", "e0", "e2", "e1", "e1", "e3", "e2", "e3"].take i)).vote
      (["e0", "e1", "e0", "e2", "e1", "e1", "e3", "e2", "e3"].getD i "")).1) =
    [false, false, false, false, false, false, true, false, false] := by decide

end Tally

end Dataflow
