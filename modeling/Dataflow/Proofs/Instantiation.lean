import Dataflow.Job
import Mathlib.Data.List.Basic
/-!
What instantiating a topology makes.

A topology that passes validation has positive parallelisms, no node that is both spout and bolt,
declared input nodes, and a depth for every node (the number of bolts between it and a spout
along input nodes) that grows by one from a bolt's input node to the bolt.

A job instantiated from it holds, node by node, as many executors as the node's parallelism, each
fresh and feeding the node's subscribers, every bolt executor expecting one vote from every
executor of its input node on every worker; and one router per bolt node, wired for the worker's
position among the workers.
-/
namespace Dataflow

variable {α β ε : Type}

lemma mem_of_lookup_eq_some {k : String} {v : α} :
    ∀ {l : List (String × α)}, l.lookup k = some v → (k, v) ∈ l
  | [], h => by simp [List.lookup_nil] at h
  | (k', v') :: rest, h => by
    by_cases hk : k = k'
    · subst hk
      simp only [List.lookup_cons, beq_self_eq_true, Option.some.injEq] at h
      simp [h]
    · have hb : (k == k') = false := by simp [hk]
      simp only [List.lookup_cons, hb] at h
      exact List.mem_cons_of_mem _ (mem_of_lookup_eq_some h)

lemma lookup_eq_some_of_mem {k : String} {v : α} :
    ∀ {l : List (String × α)}, (l.map (·.1)).Nodup → (k, v) ∈ l → l.lookup k = some v
  | [], _, h => by simp at h
  | (k', v') :: rest, hnd, h => by
    simp only [List.map_cons, List.nodup_cons, List.mem_map] at hnd
    rcases List.mem_cons.mp h with h | h
    · obtain ⟨rfl, rfl⟩ := Prod.mk.inj h
      simp
    · have hk : k ≠ k' := fun hk => hnd.1 ⟨(k, v), h, hk⟩
      have hb : (k == k') = false := by simp [hk]
      simp only [List.lookup_cons, hb]
      exact lookup_eq_some_of_mem hnd.2 h

lemma lookup_isSome_of_mem_keys {k : String} :
    ∀ {l : List (String × α)}, k ∈ l.map (·.1) → ∃ v, l.lookup k = some v
  | [], h => by simp at h
  | (k', v') :: rest, h => by
    by_cases hk : k = k'
    · subst hk
      exact ⟨v', by simp⟩
    · have hb : (k == k') = false := by simp [hk]
      simp only [List.lookup_cons, hb]
      simp only [List.map_cons, List.mem_cons, hk, false_or] at h
      exact lookup_isSome_of_mem_keys h

lemma getD_map_apply [Inhabited α] (g : α → β) (l : List α) (i : Nat) :
    g (l.getD i default) = (l.map g).getD i (g default) := by
  simp only [List.getD_eq_getElem?_getD, List.getElem?_map]
  cases l[i]? <;> rfl

lemma forM_eq_ok {γ : Type} {l : List γ} {f : γ → Except Fault Unit} :
    l.forM f = .ok () ↔ ∀ a ∈ l, f a = .ok () := by
  induction l with
  | nil => simp [List.forM, pure, Except.pure]
  | cons a rest ih =>
    simp only [List.mem_cons, forall_eq_or_imp]
    cases h : f a with
    | error e => simp [bind, Except.bind, h]
    | ok u => simpa [bind, Except.bind, h] using ih

namespace Topology

variable (T : Topology)

/-- The number of bolts from a node back to a spout along input nodes, walking at most `fuel`
steps. -/
def depthWithin : Nat → String → Nat
  | 0, _ => 0
  | fuel + 1, n =>
    match T.bolts.lookup n with
    | none => 0
    | some d => depthWithin fuel d.input + 1

/-- The depth of a node: a spout (or an undeclared node) is at depth zero, a bolt one deeper than
its input node. -/
def depth (n : String) : Nat := T.depthWithin (T.bolts.length + 1) n

structure Valid : Prop where
  spoutParallelism : ∀ n s, T.spouts.lookup n = some s → 0 < s.parallelism
  boltParallelism : ∀ n d, T.bolts.lookup n = some d → 0 < d.parallelism
  disjoint : ∀ n s, T.spouts.lookup n = some s → T.bolts.lookup n = none
  inputDeclared : ∀ n d, T.bolts.lookup n = some d → (T.parallelism d.input).isSome
  depth_input : ∀ n d, T.bolts.lookup n = some d → T.depth n = T.depth d.input + 1

variable {T}

lemma depthWithin_stable {bolt : String} : ∀ {fuel : Nat} {n : String} {seen : List String},
    reachesSpout.go T bolt fuel n seen = .ok () → ∀ f, fuel ≤ f → T.depthWithin f n = T.depthWithin fuel n
  | 0, n, seen, h => by simp [reachesSpout.go] at h
  | fuel + 1, n, seen, h => by
    intro f hf
    obtain ⟨f, rfl⟩ : ∃ g, f = g + 1 := ⟨f - 1, by omega⟩
    unfold reachesSpout.go at h
    simp only [depthWithin]
    cases hl : T.bolts.lookup n with
    | none => rfl
    | some d =>
      simp only [hl] at h ⊢
      split at h
      · simp at h
      · rw [depthWithin_stable h f (by omega)]

lemma checkSpout_ok {n : String} {s : SpoutDecl} (h : T.checkSpout n s = .ok ()) :
    0 < s.parallelism ∧ T.bolts.lookup n = none := by
  unfold checkSpout at h
  by_cases hp : s.parallelism = 0
  · simp [hp, throw, throwThe, MonadExceptOf.throw, bind, Except.bind] at h
  · by_cases hb : (T.bolts.lookup n).isSome
    · simp [hp, hb, throw, throwThe, MonadExceptOf.throw] at h
    · exact ⟨Nat.pos_of_ne_zero hp, Option.not_isSome_iff_eq_none.mp hb⟩

lemma checkBolt_ok {n : String} {d : BoltDecl} (h : T.checkBolt n d = .ok ()) :
    0 < d.parallelism ∧ (T.parallelism d.input).isSome ∧ T.reachesSpout n = .ok () := by
  unfold checkBolt at h
  by_cases hp : d.parallelism = 0
  · simp [hp, throw, throwThe, MonadExceptOf.throw, bind, Except.bind] at h
  · by_cases hi : (T.parallelism d.input).isNone
    · simp [hp, hi, throw, throwThe, MonadExceptOf.throw, bind, Except.bind] at h
    · refine ⟨Nat.pos_of_ne_zero hp, by cases hx : T.parallelism d.input <;> simp_all, ?_⟩
      by_cases hg : d.grouping = .fields ⟨[]⟩
      · simp [hp, hi, hg, throw, throwThe, MonadExceptOf.throw, bind, Except.bind] at h
      · simpa [hp, hi, hg, bind, Except.bind, pure, Except.pure] using h

lemma validate_ok (h : T.validate = .ok ()) :
    (∀ e ∈ T.spouts, T.checkSpout e.1 e.2 = .ok ()) ∧ ∀ e ∈ T.bolts, T.checkBolt e.1 e.2 = .ok () := by
  unfold validate at h
  by_cases he : T.spouts.isEmpty
  · simp [he, throw, throwThe, MonadExceptOf.throw, bind, Except.bind] at h
  · simp only [he, Bool.false_eq_true, if_false, bind, Except.bind] at h
    split at h
    · simp at h
    · rename_i hs
      exact ⟨fun e he => forM_eq_ok.mp hs e he, fun e he => forM_eq_ok.mp h e he⟩

theorem Valid.of_validate (h : T.validate = .ok ()) : T.Valid := by
  obtain ⟨hs, hb⟩ := validate_ok h
  have hbolt : ∀ n d, T.bolts.lookup n = some d → T.checkBolt n d = .ok () :=
    fun n d hd => hb (n, d) (mem_of_lookup_eq_some hd)
  refine ⟨fun n s hn => (checkSpout_ok (hs (n, s) (mem_of_lookup_eq_some hn))).1,
    fun n d hd => (checkBolt_ok (hbolt n d hd)).1,
    fun n s hn => (checkSpout_ok (hs (n, s) (mem_of_lookup_eq_some hn))).2,
    fun n d hd => (checkBolt_ok (hbolt n d hd)).2.1, fun n d hd => ?_⟩
  -- the walk from `n` steps to its input node, from which it reaches a spout with one step less
  have hwalk := (checkBolt_ok (hbolt n d hd)).2.2
  unfold reachesSpout reachesSpout.go at hwalk
  simp only [hd, List.contains_nil, Bool.false_eq_true, if_false] at hwalk
  unfold depth
  rw [depthWithin_stable hwalk (T.bolts.length + 1) (by omega)]
  simp only [depthWithin, hd]

lemma mem_subscribers_of_lookup {n : String} {d : BoltDecl} (hd : T.bolts.lookup n = some d) :
    n ∈ T.subscribers d.input :=
  List.mem_map.mpr ⟨(n, d), List.mem_filter.mpr ⟨mem_of_lookup_eq_some hd, by simp⟩, rfl⟩

lemma lookup_of_mem_subscribers (hnd : (T.bolts.map (·.1)).Nodup) {n c : String}
    (h : c ∈ T.subscribers n) : ∃ d, T.bolts.lookup c = some d ∧ d.input = n := by
  obtain ⟨e, he, rfl⟩ := List.mem_map.mp h
  obtain ⟨hmem, hin⟩ := List.mem_filter.mp he
  exact ⟨e.2, lookup_eq_some_of_mem hnd hmem, by simpa using hin⟩

end Topology

namespace Job

lemma buildEach_none {f : α → Except ε β} :
    ∀ {l : List α} {bs : List β}, buildEach f l = (bs, none) →
      bs.length = l.length ∧ ∀ b ∈ bs, ∃ a, f a = .ok b
  | [], bs, h => by
    simp only [buildEach, Prod.mk.injEq] at h
    simp [← h.1]
  | a :: rest, bs, h => by
    unfold buildEach at h
    split at h
    · simp at h
    · rename_i b hb
      have hrest : buildEach f rest = ((buildEach f rest).1, none) := by
        simp only [Prod.mk.injEq] at h
        rw [← h.2]
      obtain ⟨hl, hm⟩ := buildEach_none hrest
      simp only [Prod.mk.injEq] at h
      rw [← h.1]
      refine ⟨by simp [hl], fun b' hb' => ?_⟩
      rcases List.mem_cons.mp hb' with rfl | hb'
      · exact ⟨a, hb⟩
      · exact hm b' hb'

lemma buildTasks_none {f : Nat → Except ε β} {count : Nat} {bs : List β}
    (h : buildTasks f count = (bs, none)) : bs.length = count ∧ ∀ b ∈ bs, ∃ t, f t = .ok b := by
  cases count with
  | zero =>
    simp only [buildTasks, Prod.mk.injEq] at h
    simp [← h.1]
  | succ rest =>
    simp only [buildTasks] at h
    split at h
    · simp at h
    · rename_i b hb
      have hrest : buildEach f ((List.range rest).map (· + 1)) =
          ((buildEach f ((List.range rest).map (· + 1))).1, none) := by
        simp only [Prod.mk.injEq] at h
        rw [← h.2]
      obtain ⟨hl, hm⟩ := buildEach_none hrest
      simp only [Prod.mk.injEq] at h
      rw [← h.1]
      refine ⟨by simp [hl], fun b' hb' => ?_⟩
      rcases List.mem_cons.mp hb' with rfl | hb'
      · exact ⟨0, hb⟩
      · obtain ⟨t, ht⟩ := hm b' hb'
        exact ⟨t, ht⟩

lemma buildNodes_none {δ : Type} {parallelism : δ → Nat} {f : Nat → String → δ → Nat → Except ε β}
    (node : β → String) (fresh : β → Prop)
    (hf : ∀ before n d t b, f before n d t = .ok b → node b = n ∧ fresh b) :
    ∀ {nodes : List (String × δ)} {made bs : List β}, buildNodes parallelism f nodes made = (bs, none) →
      bs.map node = made.map node ++ nodes.flatMap (fun e => List.replicate (parallelism e.2) e.1) ∧
      ∀ b ∈ bs, b ∈ made ∨ fresh b
  | [], made, bs, h => by
    simp only [buildNodes, Prod.mk.injEq] at h
    simp only [← h.1, List.flatMap_nil, List.append_nil, true_and]
    exact fun b hb => .inl hb
  | (n, d) :: rest, made, bs, h => by
    unfold buildNodes at h
    split at h
    · simp at h
    · rename_i part hpart
      obtain ⟨hl, hm⟩ := buildTasks_none hpart
      obtain ⟨hmap, hmem⟩ := buildNodes_none node fresh hf h
      have hnode : part.map node = List.replicate (parallelism d) n := by
        refine List.eq_replicate_iff.mpr ⟨by simp [hl], fun x hx => ?_⟩
        obtain ⟨b, hb, rfl⟩ := List.mem_map.mp hx
        obtain ⟨t, ht⟩ := hm b hb
        exact (hf _ _ _ _ _ ht).1
      refine ⟨by simp [hmap, hnode], fun b hb => ?_⟩
      rcases hmem b hb with hb | hb
      · rcases List.mem_append.mp hb with hb | hb
        · exact .inl hb
        · obtain ⟨t, ht⟩ := hm b hb
          exact .inr (hf _ _ _ _ _ ht).2
      · exact .inr hb

lemma spoutExecutor_ok {disk : Storage} {name : Nat → String} {j : Job} {before : Nat} {node : String}
    {d : SpoutDecl} {task : Nat} {sp : SpoutExecutor} (h : spoutExecutor disk name j before node d task = .ok sp) :
    sp.node = node ∧ sp.done = false ∧ sp.sentEos = false ∧ sp.routes = [] := by
  unfold spoutExecutor at h
  simp only [bind, Except.bind] at h
  split at h
  · simp at h
  · split at h
    · simp at h
    · simp only [pure, Except.pure, Except.ok.injEq] at h
      subst h
      exact ⟨rfl, rfl, rfl, rfl⟩

lemma boltExecutor_ok {name : Nat → String} {j : Job} {before : Nat} {node : String} {d : BoltDecl}
    {expected task : Nat} {b : BoltExecutor} (h : boltExecutor name j before node d expected task = .ok b) :
    b.node = node ∧ b.tally = { expected } ∧ b.finalized = false ∧ b.sentEos = false ∧ b.routes = [] ∧
      Registry.makeBolt d.component j.context.config = .ok b.logic := by
  unfold boltExecutor at h
  simp only [bind, Except.bind] at h
  cases hm : Registry.makeBolt d.component j.context.config with
  | error f => rw [hm] at h; cases h
  | ok logic =>
    rw [hm] at h
    simp only [pure, Except.pure, Except.ok.injEq] at h
    subst h
    exact ⟨rfl, rfl, rfl, rfl, rfl, rfl⟩

lemma buildBolts_done {workers : Nat} {name : Nat → String} :
    ∀ {j : Job} {nodes : List (String × BoltDecl)} {j' : Job}, buildBolts workers name j nodes = .done j' →
      j'.topology = j.topology ∧ j'.context = j.context ∧ j'.spouts = j.spouts ∧ j'.routers = j.routers ∧
      j'.bolts.map (·.node) = j.bolts.map (·.node) ++ nodes.flatMap (fun e => List.replicate e.2.parallelism e.1) ∧
      ∀ b ∈ j'.bolts, b ∈ j.bolts ∨ ∃ d, (b.node, d) ∈ nodes ∧
        b.tally = { expected := (j.topology.parallelism d.input).getD 0 * workers } ∧
        b.finalized = false ∧ b.sentEos = false ∧ b.routes = [] ∧
        Registry.makeBolt d.component j.context.config = .ok b.logic
  | j, [], j', h => by
    simp only [buildBolts, Built.done.injEq] at h
    subst h
    simp only [List.flatMap_nil, List.append_nil, true_and]
    exact fun b hb => .inl hb
  | j, (n, d) :: rest, j', h => by
    unfold buildBolts at h
    dsimp only at h
    split at h
    · simp at h
    · split at h
      · simp at h
      · rename_i part hpart
        obtain ⟨hl, hm⟩ := buildTasks_none hpart
        obtain ⟨ht, hc, hs, hr, hmap, hmem⟩ := buildBolts_done h
        have hnode : part.map (·.node) = List.replicate d.parallelism n := by
          refine List.eq_replicate_iff.mpr ⟨by simp [hl], fun x hx => ?_⟩
          obtain ⟨b, hb, rfl⟩ := List.mem_map.mp hx
          obtain ⟨t, hbt⟩ := hm b hb
          exact (boltExecutor_ok hbt).1
        refine ⟨ht, hc, hs, hr, by simp [hmap, hnode], fun b hb => ?_⟩
        rcases hmem b hb with hb | ⟨d', hd', hrest⟩
        · rcases List.mem_append.mp hb with hb | hb
          · exact .inl hb
          · obtain ⟨t, hbt⟩ := hm b hb
            obtain ⟨hbn, hbt, hbf, hbs, hbr, hbl⟩ := boltExecutor_ok hbt
            exact .inr ⟨d, by simp [hbn], hbt, hbf, hbs, hbr, hbl⟩
        · exact .inr ⟨d', List.mem_cons_of_mem _ hd', hrest⟩

def wireOne (addresses : List String) (position batch : Nat) (j : Job) (e : String × BoltDecl) : Job :=
  let r := streamRouter addresses position batch j.context.job e.1 e.2.grouping (j.boltsOf e.1)
  ({ j with routers := j.routers ++ [(e.1, r)] }).feed e.2.input e.1

lemma wire_eq_foldl (addresses : List String) (position batch : Nat) (j : Job) :
    wire addresses position batch j = j.topology.bolts.foldl (wireOne addresses position batch) j := rfl

lemma boltsOf_eq_of_nodes {j j' : Job} (h : j'.bolts.map (·.node) = j.bolts.map (·.node)) (node : String) :
    j'.boltsOf node = j.boltsOf node := by
  have hl : j'.bolts.length = j.bolts.length := by simpa using congrArg List.length h
  simp only [boltsOf, hl, getD_map_apply BoltExecutor.node, h]

lemma boltsOf_feed (j : Job) (input stream node : String) :
    (j.feed input stream).boltsOf node = j.boltsOf node := by
  refine boltsOf_eq_of_nodes ?_ node
  simp only [feed, List.map_map]
  refine List.map_congr_left fun b _ => ?_
  simp only [Function.comp_apply]
  split <;> rfl

lemma foldl_wireOne (addresses : List String) (position batch : Nat) :
    ∀ (bs : List (String × BoltDecl)) (j : Job), bs.foldl (wireOne addresses position batch) j =
      { j with
        spouts := j.spouts.map fun sp => { sp with routes := sp.routes ++ (bs.filter (·.2.input = sp.node)).map (·.1) }
        bolts := j.bolts.map fun b => { b with routes := b.routes ++ (bs.filter (·.2.input = b.node)).map (·.1) }
        routers := j.routers ++ bs.map fun e =>
          (e.1, streamRouter addresses position batch j.context.job e.1 e.2.grouping (j.boltsOf e.1)) }
  | [], j => by simp
  | (c, d) :: rest, j => by
    rw [List.foldl_cons, foldl_wireOne addresses position batch rest]
    have hof : ∀ n, (wireOne addresses position batch j (c, d)).boltsOf n = j.boltsOf n := fun n => by
      simp only [wireOne, boltsOf_feed]
      rfl
    simp only [hof]
    simp only [wireOne, feed, List.map_map, List.append_assoc, List.map_cons, List.singleton_append]
    congr 1
    · refine List.map_congr_left fun sp _ => ?_
      by_cases h : d.input = sp.node
      · simp [h]
      · simp [h, Ne.symm h]
    · refine List.map_congr_left fun b _ => ?_
      by_cases h : d.input = b.node
      · simp [h]
      · simp [h, Ne.symm h]

/-- What a job instantiated from a topology looks like on the worker at `position` of a list of
workers, its senders batching `batch` tuples. -/
structure Instance (T : Topology) (id : String) (addresses : List String) (position batch : Nat)
    (j : Job) : Prop where
  topology : j.topology = T
  errors : j.context.errors = []
  spoutNodes : j.spouts.map (·.node) = T.spouts.flatMap fun e => List.replicate e.2.parallelism e.1
  boltNodes : j.bolts.map (·.node) = T.bolts.flatMap fun e => List.replicate e.2.parallelism e.1
  spout : ∀ sp ∈ j.spouts, sp.done = false ∧ sp.sentEos = false ∧ sp.routes = T.subscribers sp.node
  bolt : ∀ b ∈ j.bolts, ∃ d, (b.node, d) ∈ T.bolts ∧
    b.tally = { expected := (T.parallelism d.input).getD 0 * addresses.length } ∧
    b.finalized = false ∧ b.sentEos = false ∧ b.routes = T.subscribers b.node
  routers : j.routers = T.bolts.map fun e =>
    (e.1, streamRouter addresses position batch id e.1 e.2.grouping (j.boltsOf e.1))

theorem Instance.of_instantiate {disk : Storage} {name : Nat → String} {id : String}
    {config : JobConfig} {T : Topology} {j : Job} (h : instantiate disk name id config T = .done j) :
    ∃ addresses position batch, T.validate = .ok () ∧ config.workers = .ok addresses ∧
      config.workerIndex = .ok position ∧ config.batchSize = .ok batch ∧
      Instance T id addresses position batch j := by
  unfold instantiate at h
  dsimp only at h
  split at h
  · simp at h
  · rename_i addresses position batch hchecked
    simp only [bind, Except.bind, pure, Except.pure] at hchecked
    split at hchecked
    · simp at hchecked
    split at hchecked
    · simp at hchecked
    rename_i hv _ addresses' hw
    split at hchecked
    · simp at hchecked
    rename_i position' hi
    split at hchecked
    · simp at hchecked
    rename_i batch' hb
    simp only [Except.ok.injEq, Prod.mk.injEq] at hchecked
    obtain ⟨rfl, rfl, rfl⟩ := hchecked
    refine ⟨addresses', position', batch', ?_, hw, hi, hb, ?_⟩
    · cases hv' : T.validate
      · simp_all
      · rfl
    split at h
    · simp at h
    rename_i spouts hspouts
    obtain ⟨hsmap, hsmem⟩ := buildNodes_none (·.node)
      (fun sp : SpoutExecutor => sp.done = false ∧ sp.sentEos = false ∧ sp.routes = [])
      (fun _ _ _ _ _ hsp => ⟨(spoutExecutor_ok hsp).1, (spoutExecutor_ok hsp).2⟩) hspouts
    split at h
    · rename_i j₁ hbolts
      simp only [Built.done.injEq] at h
      subst h
      obtain ⟨ht, hc, hs, hr, hbmap, hbmem⟩ := buildBolts_done hbolts
      simp only at ht hc hs hr hbmap hbmem
      rw [wire_eq_foldl, ht, foldl_wireOne]
      refine ⟨ht, by rw [hc]; rfl, ?_, ?_, ?_, ?_, ?_⟩
      · simpa [Function.comp_def, hs] using hsmap
      · simpa [Function.comp_def] using hbmap
      · intro sp hsp
        obtain ⟨sp₀, hsp₀, rfl⟩ := List.mem_map.mp hsp
        rcases hsmem sp₀ (hs ▸ hsp₀) with hnil | ⟨hd, hse, hro⟩
        · simp at hnil
        · exact ⟨hd, hse, by simp [hro, Topology.subscribers]⟩
      · intro b hb
        obtain ⟨b₀, hb₀, rfl⟩ := List.mem_map.mp hb
        rcases hbmem b₀ hb₀ with hnil | ⟨d, hd, hta, hfi, hse, hro, -⟩
        · simp at hnil
        · exact ⟨d, hd, hta, hfi, hse, by simp [hro, Topology.subscribers]⟩
      · simp only [hr, List.nil_append, hc]
        refine List.map_congr_left fun e _ => ?_
        congr 2
        exact (boltsOf_eq_of_nodes (by simp [Function.comp_def]) _).symm
    · rename_i hother
      exact (hother j h).elim

/-- A job made from a topology has the fresh context of its id and configuration, expecting some
number of executors to finish. -/
theorem context_eq_of_instantiate {disk : Storage} {name : Nat → String} {id : String}
    {config : JobConfig} {T : Topology} {j : Job} (h : instantiate disk name id config T = .done j) :
    ∃ n, j.context = ({ job := id, config } : JobContext).expect n := by
  unfold instantiate at h
  dsimp only at h
  split at h
  · simp at h
  split at h
  · simp at h
  split at h
  · rename_i j₁ hbolts
    simp only [Built.done.injEq] at h
    subst h
    obtain ⟨-, hc, -⟩ := buildBolts_done hbolts
    rw [wire_eq_foldl, foldl_wireOne]
    simp only at hc
    exact ⟨_, by rw [hc]⟩
  · rename_i hother
    exact (hother _ h).elim

/-- Every bolt executor of a job made from a topology runs the component its node's declaration
names, made from the job's configuration. -/
theorem logic_of_instantiate {disk : Storage} {name : Nat → String} {id : String}
    {config : JobConfig} {T : Topology} {j : Job} (h : instantiate disk name id config T = .done j) :
    ∀ b ∈ j.bolts, ∃ d, (b.node, d) ∈ T.bolts ∧ Registry.makeBolt d.component config = .ok b.logic := by
  unfold instantiate at h
  dsimp only at h
  split at h
  · simp at h
  split at h
  · simp at h
  split at h
  · rename_i j₁ hbolts
    simp only [Built.done.injEq] at h
    subst h
    obtain ⟨-, -, -, -, -, hmem⟩ := buildBolts_done hbolts
    rw [wire_eq_foldl, foldl_wireOne]
    intro b hb
    obtain ⟨b₀, hb₀, rfl⟩ := List.mem_map.mp hb
    rcases hmem b₀ hb₀ with hnil | ⟨d, hd, -, -, -, -, hl⟩
    · simp at hnil
    · exact ⟨d, hd, hl⟩
  · rename_i hother
    exact (hother _ h).elim

theorem context_of_instantiate {disk : Storage} {name : Nat → String} {id : String}
    {config : JobConfig} {T : Topology} {j : Job} (h : instantiate disk name id config T = .done j) :
    j.context.failed = false ∧ j.context.errors = [] := by
  obtain ⟨n, hn⟩ := context_eq_of_instantiate h
  simp [hn, JobContext.expect]

end Job

end Dataflow
