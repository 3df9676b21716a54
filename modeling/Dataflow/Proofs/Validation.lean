import Dataflow.Topology.Builder
import Dataflow.Proofs.Ledger
import Mathlib.Logic.Relation
import Mathlib.Data.String.Basic
import Mathlib.Data.List.Perm.Subperm
import Mathlib.Tactic.SplitIfs
/-!
Validation of topologies. A topology is well formed when it has a spout, every parallelism is
positive, no spout is also a bolt, every bolt reads from a declared node, through a fields
grouping only if it names a field, and following input nodes from every bolt reaches a spout. The
checks accept exactly the well-formed topologies, and refuse any other for its first defect in the
order they are made: no spout; then the spouts in order, parallelism before name; then the bolts
in order, parallelism, input, fields, and last the walk along input nodes. The walk is bounded by
the number of bolts, and the bound never decides: the walk fails exactly when the input nodes from
the bolt lead round a cycle.

A builder makes a topology exactly when its spouts are named once, each bolt has one grouping and
a name that no spout and no earlier bolt has, and the topology so assembled passes the checks; that
topology holds the declared nodes, each list in name order.
-/
namespace Dataflow

namespace Topology

variable (t : Topology)

def Upstream (n m : String) : Prop := ∃ d, t.bolts.lookup n = some d ∧ d.input = m

inductive Exits : String → Prop
  | stop {n : String} : t.bolts.lookup n = none → Exits n
  | step {n : String} {d : BoltDecl} : t.bolts.lookup n = some d → Exits d.input → Exits n

inductive ReachesSpout : String → Prop
  | spout {n : String} {s : SpoutDecl} : t.spouts.lookup n = some s → t.bolts.lookup n = none → ReachesSpout n
  | bolt {n : String} {d : BoltDecl} : t.bolts.lookup n = some d → ReachesSpout d.input → ReachesSpout n

def Declared (n : String) : Prop := n ∈ t.spouts.map (·.1) ∨ n ∈ t.bolts.map (·.1)

instance : DecidablePred t.Declared := fun _ => inferInstanceAs (Decidable (_ ∨ _))

structure WellFormed : Prop where
  hasSpout : t.spouts ≠ []
  spout : ∀ n s, (n, s) ∈ t.spouts → 0 < s.parallelism ∧ n ∉ t.bolts.map (·.1)
  bolt : ∀ n d, (n, d) ∈ t.bolts → 0 < d.parallelism ∧ t.Declared d.input ∧
    (∀ fs, d.grouping = .fields fs → fs.names ≠ []) ∧ t.ReachesSpout n

variable {t}

/-! ### The walk along input nodes -/

lemma Exits.not_cycle {n : String} (h : t.Exits n) : ¬ Relation.TransGen t.Upstream n n := by
  induction h with
  | stop hl =>
    intro hc
    obtain ⟨_, ⟨d, hd, -⟩, -⟩ := Relation.TransGen.head'_iff.mp hc
    simp [hl] at hd
  | @step n d hl _ ih =>
    intro hc
    obtain ⟨_, ⟨d', hd', rfl⟩, hy⟩ := Relation.TransGen.head'_iff.mp hc
    obtain rfl : d' = d := Option.some.inj (hd'.symm.trans hl)
    exact ih (Relation.TransGen.tail' hy ⟨d', hl, rfl⟩)

lemma ReachesSpout.exits {n : String} (h : t.ReachesSpout n) : t.Exits n := by
  induction h with
  | spout _ hb => exact .stop hb
  | bolt hd _ ih => exact .step hd ih

lemma Exits.reachesSpout {m : String} (h : t.Exits m) (hin : ∀ n d, (n, d) ∈ t.bolts → t.Declared d.input)
    (hm : t.Declared m) : t.ReachesSpout m := by
  induction h with
  | @stop n hl =>
    rcases hm with hs | hb
    · obtain ⟨s, hs⟩ := lookup_isSome_of_mem_keys hs
      exact .spout hs hl
    · obtain ⟨d, hd⟩ := lookup_isSome_of_mem_keys hb
      simp [hl] at hd
  | @step n d hl _ ih => exact .bolt hl (ih (hin n d (mem_of_lookup_eq_some hl)))

lemma go_cases (bolt : String) : ∀ fuel current seen, reachesSpout.go t bolt fuel current seen = .ok () ∨
    reachesSpout.go t bolt fuel current seen = .error (.config s!"bolt '{bolt}' is part of a cycle")
  | 0, _, _ => .inr rfl
  | fuel + 1, current, seen => by
    unfold reachesSpout.go
    split
    · exact .inl rfl
    · split
      · exact .inr rfl
      · exact go_cases bolt fuel _ _

lemma exits_of_go {bolt : String} :
    ∀ {fuel current seen}, reachesSpout.go t bolt fuel current seen = .ok () → t.Exits current
  | 0, _, _, h => by simp [reachesSpout.go] at h
  | fuel + 1, current, seen, h => by
    unfold reachesSpout.go at h
    cases hl : t.bolts.lookup current with
    | none => exact .stop hl
    | some d =>
      simp only [hl] at h
      split at h
      · cases h
      · exact .step hl (exits_of_go h)

lemma go_of_exits {bolt current : String} (h : t.Exits current) :
    ∀ {fuel : Nat} {seen : List String}, (∀ x ∈ seen, Relation.TransGen t.Upstream x current) → seen.Nodup →
      (∀ x ∈ seen, x ∈ t.bolts.map (·.1)) → t.bolts.length + 1 ≤ fuel + seen.length →
      reachesSpout.go t bolt fuel current seen = .ok () := by
  induction h with
  | stop hl =>
    intro fuel seen _ hnd hkeys hfuel
    have hlen := (List.subperm_of_subset hnd hkeys).length_le
    rw [List.length_map] at hlen
    obtain ⟨f, rfl⟩ : ∃ f, fuel = f + 1 := ⟨fuel - 1, by omega⟩
    simp [reachesSpout.go, hl]
  | @step n d hl he ih =>
    intro fuel seen hreach hnd hkeys hfuel
    have hlen := (List.subperm_of_subset hnd hkeys).length_le
    rw [List.length_map] at hlen
    obtain ⟨f, rfl⟩ : ∃ f, fuel = f + 1 := ⟨fuel - 1, by omega⟩
    -- a bolt seen before leads to `n`, so seeing `n` again would be a cycle through it
    have hn : n ∉ seen := fun hn => (Exits.step hl he).not_cycle (hreach n hn)
    have hup : t.Upstream n d.input := ⟨d, hl, rfl⟩
    unfold reachesSpout.go
    simp only [hl, List.contains_iff_mem, hn, if_false]
    refine ih (fun x hx => ?_) (List.nodup_cons.mpr ⟨hn, hnd⟩) (fun x hx => ?_) (by simp only [List.length_cons]; omega)
    · rcases List.mem_cons.mp hx with rfl | hx
      · exact .single hup
      · exact .tail (hreach x hx) hup
    · rcases List.mem_cons.mp hx with rfl | hx
      · exact Keyed.mem_keys_of_lookup hl
      · exact hkeys x hx

lemma isOk_reachesSpout_iff {n : String} : (t.reachesSpout n).isOk = true ↔ t.Exits n := by
  refine ⟨fun h => ?_, fun h => ?_⟩
  · rcases go_cases n (t.bolts.length + 1) n [] with hok | herr
    · exact exits_of_go hok
    · simp [reachesSpout, herr, Except.isOk, Except.toBool] at h
  · have hok : t.reachesSpout n = .ok () := go_of_exits h (by simp) List.nodup_nil (by simp) (by simp)
    rw [hok]
    rfl

instance (t : Topology) : DecidablePred t.Exits := fun _ => decidable_of_iff _ isOk_reachesSpout_iff

/-- The walk along input nodes ends normally exactly when they leave the bolts, and otherwise
with the cycle fault: its bound never decides. -/
theorem reachesSpout_eq (bolt : String) :
    t.reachesSpout bolt = if t.Exits bolt then .ok () else .error (.config s!"bolt '{bolt}' is part of a cycle") := by
  split_ifs with h
  · exact go_of_exits h (by simp) List.nodup_nil (by simp) (by simp)
  · rcases go_cases bolt (t.bolts.length + 1) bolt [] with hok | herr
    · exact absurd (exits_of_go hok) h
    · exact herr

/-! ### The first defect -/

/-- The outcome of checks that found `defects`: the first of them, as a configuration fault. -/
def firstDefect : List String → Except Fault Unit
  | [] => .ok ()
  | m :: _ => .error (.config m)

lemma firstDefect_append (ms ns : List String) :
    firstDefect (ms ++ ns) = (firstDefect ms >>= fun _ => firstDefect ns) := by
  cases ms <;> rfl

lemma firstDefect_eq_ok {ms : List String} : firstDefect ms = .ok () ↔ ms = [] := by
  cases ms <;> simp [firstDefect]

lemma forM_firstDefect {α : Type} (l : List α) (g : α → List String) :
    l.forM (fun a => firstDefect (g a)) = firstDefect (l.flatMap g) := by
  induction l with
  | nil => rfl
  | cons a l ih =>
    show (firstDefect (g a) >>= fun _ => l.forM fun a => firstDefect (g a)) = _
    rw [ih, List.flatMap_cons, firstDefect_append]

variable (t)

def spoutDefects (n : String) (s : SpoutDecl) : List String :=
  (if s.parallelism = 0 then [s!"spout '{n}' has parallelism 0"] else []) ++
  (if n ∈ t.bolts.map (·.1) then [s!"node '{n}' declared as both spout and bolt"] else [])

def boltDefects (n : String) (d : BoltDecl) : List String :=
  (if d.parallelism = 0 then [s!"bolt '{n}' has parallelism 0"] else []) ++
  (if t.Declared d.input then [] else [s!"bolt '{n}' subscribes to undeclared node '{d.input}'"]) ++
  (if d.grouping = .fields ⟨[]⟩ then [s!"bolt '{n}' has an empty fields grouping"] else []) ++
  (if t.Exits n then [] else [s!"bolt '{n}' is part of a cycle"])

def defects : List String :=
  (if t.spouts = [] then ["topology declares no spouts"] else []) ++
  t.spouts.flatMap (fun e => t.spoutDefects e.1 e.2) ++ t.bolts.flatMap (fun e => t.boltDefects e.1 e.2)

variable {t}

lemma isSome_lookup_iff {α : Type} {k : String} {l : List (String × α)} :
    (l.lookup k).isSome ↔ k ∈ l.map (·.1) := by
  refine ⟨fun h => ?_, fun h => ?_⟩
  · obtain ⟨v, hv⟩ := Option.isSome_iff_exists.mp h
    exact Keyed.mem_keys_of_lookup hv
  · obtain ⟨v, hv⟩ := lookup_isSome_of_mem_keys h
    simp [hv]

lemma isNone_parallelism_iff {n : String} : (t.parallelism n).isNone ↔ ¬ t.Declared n := by
  simp only [parallelism, Declared, not_or, ← isSome_lookup_iff]
  cases t.spouts.lookup n <;> cases t.bolts.lookup n <;> simp

lemma checkSpout_eq (n : String) (s : SpoutDecl) : t.checkSpout n s = firstDefect (t.spoutDefects n s) := by
  have hb : (t.bolts.lookup n).isSome ↔ n ∈ t.bolts.map (·.1) := isSome_lookup_iff
  by_cases hp : s.parallelism = 0 <;> by_cases hn : n ∈ t.bolts.map (·.1) <;>
    simp_all [checkSpout, spoutDefects, firstDefect, throw, throwThe, MonadExceptOf.throw, bind, Except.bind,
      pure, Except.pure]

lemma checkBolt_eq (n : String) (d : BoltDecl) : t.checkBolt n d = firstDefect (t.boltDefects n d) := by
  have hi := isNone_parallelism_iff (t := t) (n := d.input)
  rw [checkBolt, reachesSpout_eq]
  by_cases hp : d.parallelism = 0 <;> by_cases hd : t.Declared d.input <;>
    by_cases hg : d.grouping = .fields ⟨[]⟩ <;> by_cases he : t.Exits n <;>
    simp_all [boltDefects, firstDefect, throw, throwThe, MonadExceptOf.throw, bind, Except.bind]

theorem validate_eq : t.validate = firstDefect t.defects := by
  have hs := forM_firstDefect t.spouts fun e => t.spoutDefects e.1 e.2
  have hb := forM_firstDefect t.bolts fun e => t.boltDefects e.1 e.2
  unfold validate
  by_cases he : t.spouts = []
  · simp [he, defects, firstDefect, throw, throwThe, MonadExceptOf.throw, bind, Except.bind]
  · have hne : t.spouts.isEmpty = false := List.isEmpty_eq_false_iff.mpr he
    simp only [hne, Bool.false_eq_true, if_false, checkSpout_eq, checkBolt_eq]
    rw [hs, hb, defects, if_neg he, List.nil_append, firstDefect_append]

lemma spoutDefects_eq_nil {n : String} {s : SpoutDecl} :
    t.spoutDefects n s = [] ↔ 0 < s.parallelism ∧ n ∉ t.bolts.map (·.1) := by
  simp [spoutDefects, Nat.pos_iff_ne_zero]

lemma grouping_ne_iff {g : Grouping} : g ≠ .fields ⟨[]⟩ ↔ ∀ fs, g = .fields fs → fs.names ≠ [] := by
  refine ⟨fun h fs hfs hnil => h (hfs.trans (congrArg Grouping.fields (Fields.mk.injEq _ _ ▸ hnil))), fun h heq => ?_⟩
  exact h _ heq rfl

lemma boltDefects_eq_nil {n : String} {d : BoltDecl} :
    t.boltDefects n d = [] ↔ 0 < d.parallelism ∧ t.Declared d.input ∧
      (∀ fs, d.grouping = .fields fs → fs.names ≠ []) ∧ t.Exits n := by
  rw [← grouping_ne_iff]
  simp [boltDefects, Nat.pos_iff_ne_zero]

theorem defects_eq_nil_iff : t.defects = [] ↔ t.WellFormed := by
  have h0 : ((if t.spouts = [] then ["topology declares no spouts"] else []) = []) ↔ t.spouts ≠ [] := by
    by_cases h : t.spouts = [] <;> simp [h]
  simp only [defects, List.append_eq_nil_iff, List.flatMap_eq_nil_iff, Prod.forall, h0, spoutDefects_eq_nil,
    boltDefects_eq_nil]
  constructor
  · rintro ⟨⟨hne, hsp⟩, hbo⟩
    have hin : ∀ n d, (n, d) ∈ t.bolts → t.Declared d.input := fun n d h => (hbo n d h).2.1
    refine ⟨hne, hsp, fun n d h => ?_⟩
    obtain ⟨hp, hdecl, hg, hex⟩ := hbo n d h
    exact ⟨hp, hdecl, hg, hex.reachesSpout hin (.inr (List.mem_map.mpr ⟨(n, d), h, rfl⟩))⟩
  · rintro ⟨hne, hsp, hbo⟩
    refine ⟨⟨hne, hsp⟩, fun n d h => ?_⟩
    obtain ⟨hp, hdecl, hg, hr⟩ := hbo n d h
    exact ⟨hp, hdecl, hg, hr.exits⟩

theorem validate_eq_ok_iff : t.validate = .ok () ↔ t.WellFormed := by
  rw [validate_eq, firstDefect_eq_ok, defects_eq_nil_iff]

lemma eq_of_spouts_bolts {t t' : Topology} (hs : t.spouts = t'.spouts) (hb : t.bolts = t'.bolts) :
    t = t' := by
  cases t
  cases t'
  simp_all

end Topology

/-! ### Assembling a topology -/

namespace Keyed

variable {α : Type}

theorem insert_perm {k : String} {v : α} :
    ∀ {xs : List (String × α)}, xs.lookup k = none → (insert k v xs).Perm ((k, v) :: xs)
  | [], _ => by simp [insert]
  | (k', v') :: rest, h => by
    have hb : (k == k') = false := by
      cases hkk : k == k'
      · rfl
      · simp [List.lookup_cons, hkk] at h
    have hk : k ≠ k' := by simpa using hb
    have hrest : rest.lookup k = none := by simpa [List.lookup_cons, hb] using h
    unfold insert
    simp only [hk, if_false]
    split
    · exact List.Perm.refl _
    · exact ((insert_perm hrest).cons (k', v')).trans (List.Perm.swap _ _ _)

theorem Ordered.eq_of_perm {xs ys : List (String × α)} (hx : Ordered xs) (hy : Ordered ys)
    (h : xs.Perm ys) : xs = ys :=
  h.eq_of_pairwise (fun _ _ _ _ hab hba => absurd (lt_trans hab hba) (lt_irrefl _)) hx hy

end Keyed

def BoltDraft.entry? (d : BoltDraft) : Option (String × BoltDecl) :=
  match d.groupings with
  | [(input, g)] => some (d.name, ⟨d.component, d.parallelism, input, g⟩)
  | _ => none

namespace TopologyBuilder

open Keyed (Ordered)

variable {t₀ t : Topology}

theorem addSpouts_eq_ok (ho : Ordered t₀.spouts) {l : List (String × SpoutDecl)} :
    addSpouts t₀ l = .ok t ↔ ((t₀.spouts ++ l).map (·.1)).Nodup ∧ t.bolts = t₀.bolts ∧
      Ordered t.spouts ∧ t.spouts.Perm (t₀.spouts ++ l) := by
  induction l generalizing t₀ with
  | nil =>
    simp only [addSpouts, Except.ok.injEq, List.append_nil]
    constructor
    · rintro rfl
      exact ⟨ho.nodup, rfl, ho, List.Perm.refl _⟩
    · rintro ⟨-, hb, hot, hp⟩
      exact (Topology.eq_of_spouts_bolts (hot.eq_of_perm ho hp) hb).symm
  | cons e rest ih =>
    obtain ⟨n, s⟩ := e
    unfold addSpouts
    by_cases h : (t₀.spouts.lookup n).isSome
    · -- the name is taken: neither side holds
      have hn : n ∈ t₀.spouts.map (·.1) := Topology.isSome_lookup_iff.mp h
      simp only [h, if_true, reduceCtorEq, false_iff, not_and]
      intro hnd
      simp only [List.map_append, List.map_cons] at hnd
      exact ((List.nodup_append.mp hnd).2.2 n hn n (List.mem_cons_self ..) rfl).elim
    · have hnone : t₀.spouts.lookup n = none := Option.not_isSome_iff_eq_none.mp h
      have P : (Keyed.insert n s t₀.spouts ++ rest).Perm (t₀.spouts ++ (n, s) :: rest) :=
        ((Keyed.insert_perm hnone).append_right rest).trans List.perm_middle.symm
      rw [if_neg h, ih (Keyed.insert_ordered ho).1, (P.map _).nodup_iff]
      exact and_congr_right fun _ => and_congr_right fun _ => and_congr_right fun _ => P.congr_right _

/-- Adding bolts succeeds when each has one grouping and a name that no spout and no other bolt
has, and adds each bolt at its place in name order. -/
theorem addBolts_eq_ok (ho : Ordered t₀.bolts) {l : List BoltDraft} :
    addBolts t₀ l = .ok t ↔ (∀ d ∈ l, d.groupings.length = 1) ∧
      (t₀.bolts.map (·.1) ++ l.map (·.name)).Nodup ∧ (∀ d ∈ l, d.name ∉ t₀.spouts.map (·.1)) ∧
      t.spouts = t₀.spouts ∧ Ordered t.bolts ∧ t.bolts.Perm (t₀.bolts ++ l.filterMap BoltDraft.entry?) := by
  induction l generalizing t₀ with
  | nil =>
    simp only [addBolts, Except.ok.injEq, List.not_mem_nil, IsEmpty.forall_iff, implies_true, List.map_nil,
      List.append_nil, List.filterMap_nil, true_and]
    constructor
    · rintro rfl
      exact ⟨ho.nodup, rfl, ho, List.Perm.refl _⟩
    · rintro ⟨-, hs, hot, hp⟩
      exact (Topology.eq_of_spouts_bolts hs (hot.eq_of_perm ho hp)).symm
  | cons d rest ih =>
    unfold addBolts
    rcases hg : d.groupings with _ | ⟨⟨input, g⟩, _ | ⟨e, more⟩⟩
    · simp only [reduceCtorEq, false_iff, not_and]
      intro h
      simpa [hg] using h d (List.mem_cons_self ..)
    · by_cases hdup : (t₀.spouts.lookup d.name).isSome ∨ (t₀.bolts.lookup d.name).isSome
      · -- the name is taken: neither side holds
        simp only [if_pos hdup, reduceCtorEq, false_iff, not_and]
        intro _ hnd hsp
        rcases hdup with h | h
        · exact (hsp d (List.mem_cons_self ..) (Topology.isSome_lookup_iff.mp h)).elim
        · exact ((List.nodup_append.mp hnd).2.2 _ (Topology.isSome_lookup_iff.mp h) _
            (List.mem_map_of_mem (List.mem_cons_self ..)) rfl).elim
      · simp only [if_neg hdup]
        obtain ⟨hs, hb⟩ := not_or.mp hdup
        have hnone : t₀.bolts.lookup d.name = none := Option.not_isSome_iff_eq_none.mp hb
        have hentry : d.entry? = some (d.name, ⟨d.component, d.parallelism, input, g⟩) := by
          simp [BoltDraft.entry?, hg]
        have P : (Keyed.insert d.name ⟨d.component, d.parallelism, input, g⟩ t₀.bolts ++
            rest.filterMap BoltDraft.entry?).Perm (t₀.bolts ++ (d :: rest).filterMap BoltDraft.entry?) := by
          rw [List.filterMap_cons, hentry]
          exact ((Keyed.insert_perm hnone).append_right _).trans List.perm_middle.symm
        have K : ((Keyed.insert d.name ⟨d.component, d.parallelism, input, g⟩ t₀.bolts).map (·.1) ++
            rest.map (·.name)).Perm (t₀.bolts.map (·.1) ++ (d :: rest).map (·.name)) :=
          ((Keyed.keys_insert_perm hnone).append_right _).trans List.perm_middle.symm
        have hfree : d.name ∉ t₀.spouts.map (·.1) := fun h => hs (Topology.isSome_lookup_iff.mpr h)
        rw [ih (Keyed.insert_ordered ho).1, K.nodup_iff, P.congr_right]
        simp only [List.forall_mem_cons, hg, List.length_singleton, hfree, not_false_eq_true, true_and]
    · simp only [reduceCtorEq, false_iff, not_and]
      intro h
      simpa [hg] using h d (List.mem_cons_self ..)

lemma create_eq_ok_iff {b : TopologyBuilder} :
    b.create = .ok t ↔ ∃ t₁, addSpouts {} b.spouts = .ok t₁ ∧ addBolts t₁ b.bolts = .ok t ∧ t.validate = .ok () := by
  unfold create
  cases h1 : addSpouts {} b.spouts with
  | error e => simp [bind, Except.bind]
  | ok t₁ =>
    cases h2 : addBolts t₁ b.bolts with
    | error e => simp [bind, Except.bind, h2]
    | ok t₂ =>
      cases h3 : t₂.validate with
      | error e =>
        simp only [bind, Except.bind, h2, h3, reduceCtorEq, false_iff]
        rintro ⟨t₁', h1', h2', hv⟩
        obtain rfl : t₁' = t₁ := by simpa [h1] using h1'.symm
        obtain rfl : t = t₂ := by simpa [h2] using h2'.symm
        simp [h3] at hv
      | ok u =>
        simp only [bind, Except.bind, h2, h3, pure, Except.pure, Except.ok.injEq]
        refine ⟨fun h => ⟨t₁, rfl, h ▸ h2, h ▸ h3⟩, fun ⟨t₁', h1', h2', _⟩ => ?_⟩
        obtain rfl : t₁' = t₁ := by simpa [h1] using h1'.symm
        simpa [h2] using h2'

/-- A builder makes a topology exactly when its spouts are named once, each bolt has one grouping
and a name that no spout and no other bolt has, and the topology assembled passes the checks. The
topology then holds the declared spouts and bolts, each list in name order. -/
theorem create_eq_ok {b : TopologyBuilder} :
    b.create = .ok t ↔ (b.spouts.map (·.1)).Nodup ∧ (∀ d ∈ b.bolts, d.groupings.length = 1) ∧
      (b.bolts.map (·.name)).Nodup ∧ (∀ d ∈ b.bolts, d.name ∉ b.spouts.map (·.1)) ∧
      Ordered t.spouts ∧ t.spouts.Perm b.spouts ∧
      Ordered t.bolts ∧ t.bolts.Perm (b.bolts.filterMap BoltDraft.entry?) ∧ t.validate = .ok () := by
  have hnil : Ordered ([] : List (String × BoltDecl)) := List.Pairwise.nil
  have hempty : Ordered ({} : Topology).spouts := List.Pairwise.nil
  rw [create_eq_ok_iff]
  constructor
  · rintro ⟨t₁, h1, h2, hv⟩
    obtain ⟨hsn, hb₁, hos, hps⟩ := (addSpouts_eq_ok hempty).mp h1
    obtain ⟨hg, hbn, hsp, hs, hob, hpb⟩ := (addBolts_eq_ok (hb₁ ▸ hnil)).mp h2
    rw [hb₁] at hbn hpb
    have hkeys : t₁.spouts.map (·.1) = t.spouts.map (·.1) := by rw [hs]
    refine ⟨hsn, hg, by simpa using hbn, fun d hd hn => hsp d hd ?_, hs ▸ hos, hs ▸ hps, hob,
      by simpa using hpb, hv⟩
    exact hkeys ▸ (((hs ▸ hps).map Prod.fst).mem_iff.mpr hn)
  · rintro ⟨hsn, hg, hbn, hsp, hos, hps, hob, hpb, hv⟩
    refine ⟨{ spouts := t.spouts }, (addSpouts_eq_ok hempty).mpr ⟨hsn, rfl, hos, hps⟩,
      (addBolts_eq_ok hnil).mpr ⟨hg, by simpa using hbn, fun d hd hn => hsp d hd ?_, rfl, hob, by simpa using hpb⟩,
      hv⟩
    exact (hps.map Prod.fst).mem_iff.mp hn

end TopologyBuilder

/-- The checks accept exactly the well-formed topologies, and refuse any other for its first defect
in the order the checks are made; the walk along input nodes decides by whether it leaves the
bolts, never by its bound; and a builder makes exactly the well-formed topologies that hold its
declarations in name order, provided its names are distinct and each bolt has one grouping. -/
theorem checks_accept_wellFormed :
    (∀ t : Topology, (t.validate = .ok () ↔ t.WellFormed) ∧ t.validate = Topology.firstDefect t.defects ∧
      ∀ n, t.reachesSpout n = if t.Exits n then .ok () else .error (.config s!"bolt '{n}' is part of a cycle")) ∧
    ∀ (b : TopologyBuilder) (t : Topology), b.create = .ok t ↔ (b.spouts.map (·.1)).Nodup ∧
      (∀ d ∈ b.bolts, d.groupings.length = 1) ∧ (b.bolts.map (·.name)).Nodup ∧
      (∀ d ∈ b.bolts, d.name ∉ b.spouts.map (·.1)) ∧
      Keyed.Ordered t.spouts ∧ t.spouts.Perm b.spouts ∧ Keyed.Ordered t.bolts ∧
      t.bolts.Perm (b.bolts.filterMap BoltDraft.entry?) ∧ t.WellFormed := by
  refine ⟨fun t => ⟨Topology.validate_eq_ok_iff, Topology.validate_eq, Topology.reachesSpout_eq⟩, fun b t => ?_⟩
  rw [TopologyBuilder.create_eq_ok, Topology.validate_eq_ok_iff]

/-- A chain of bolts that ends at an undeclared node passes the walk; the input check of its
first bolt refuses it. -/
example : (Topology.mk [("s", ⟨"file", 1⟩)]
    [("a", ⟨"map", 1, "x", .broadcast⟩), ("b", ⟨"map", 1, "a", .broadcast⟩)]).validate =
      .error (.config "bolt 'a' subscribes to undeclared node 'x'") := by
  rfl

end Dataflow
