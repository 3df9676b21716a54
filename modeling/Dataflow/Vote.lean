/-!
End-of-stream votes. A tally counts distinct voters until the expected number is reached; the
vote that reaches it is the only one answered `true`. Repeated votes and votes after consensus
are answered `false` and leave the tally as it was.
-/
namespace Dataflow

structure Tally where
  expected : Nat
  voters : List String := []
  reached : Bool := false
  deriving DecidableEq, Repr, Inhabited

namespace Tally

def vote (t : Tally) (voter : String) : Bool × Tally :=
  if t.reached then (false, t)
  else if t.voters.contains voter then (false, t)
  else
    let voters := t.voters ++ [voter]
    if t.expected ≤ voters.length then (true, { t with voters, reached := true })
    else (false, { t with voters })

def votes (t : Tally) : Nat := t.voters.length

@[simp] theorem vote_of_reached {t : Tally} (h : t.reached = true) (voter : String) :
    t.vote voter = (false, t) := by
  simp [vote, h]

theorem vote_of_contains {t : Tally} {voter : String} (h : t.voters.contains voter = true) :
    t.vote voter = (false, t) := by
  unfold vote
  split <;> simp_all

@[simp] theorem vote_expected (t : Tally) (voter : String) : (t.vote voter).2.expected = t.expected := by
  unfold vote
  split
  · rfl
  · split
    · rfl
    · dsimp only
      split <;> rfl

theorem vote_reached_of_true {t : Tally} {voter : String} (h : (t.vote voter).1 = true) :
    t.reached = false ∧ (t.vote voter).2.reached = true := by
  cases hr : t.reached
  · refine ⟨rfl, ?_⟩
    by_cases hc : voter ∈ t.voters
    · simp [vote, hr, hc] at h
    · by_cases he : t.expected ≤ t.voters.length + 1
      · simp [vote, hr, hc, he]
      · simp [vote, hr, hc, he] at h
  · simp [vote, hr] at h

/-- Before consensus, a vote from a new voter is counted, and it is answered `true` when it brings
the count to the expected number. -/
theorem vote_of_not_reached {t : Tally} (h : t.reached = false) (voter : String) :
    t.vote voter = if voter ∈ t.voters then (false, t) else
      (decide (t.expected ≤ t.voters.length + 1),
        { t with voters := t.voters ++ [voter], reached := decide (t.expected ≤ t.voters.length + 1) }) := by
  obtain ⟨e, v, r⟩ := t
  subst h
  by_cases hc : voter ∈ v
  · simp [vote, hc]
  · by_cases he : e ≤ v.length + 1 <;> simp [vote, hc, he]

end Tally

end Dataflow
