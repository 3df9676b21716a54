import Dataflow.Proofs.Completion
import Dataflow.Proofs.Validation
/-!
Defining a job on a worker is all or nothing. A definition that fails leaves the worker's jobs,
its last job and its end-of-stream marks as they were, and takes down again every component it
made: the spouts it opened and the bolts it prepared, each once, bolts first. It fails for one of
a fixed list of reasons: the worker is shutting down or has the id already, the topology has a
defect, the worker list, worker index or batch size is bad, or a spout cannot be made or opened or
a bolt cannot be made. What it made by then is a prefix of the executors of the topology in the
order they are made, every spout before any bolt.

A definition that succeeds adds the job under its id as the worker's last job, not started, with
one executor per task of every node, all of them pending, one router per bolt with a slot per
executor of the bolt on every worker, and every bolt executor expecting an end of stream from
every executor of its input node on every worker.
-/
namespace Dataflow

namespace Topology

variable (T : Topology)

/-- The node of every spout executor made from the topology, in the order they are made. -/
def spoutTasks : List String := T.spouts.flatMap fun e => List.replicate e.2.parallelism e.1

/-- The node of every bolt executor made from the topology, in the order they are made. -/
def boltTasks : List String := T.bolts.flatMap fun e => List.replicate e.2.parallelism e.1

lemma WellFormed.parallelism_input {T : Topology} (hw : T.WellFormed) {n : String} {d : BoltDecl}
    (h : (n, d) ∈ T.bolts) : ∃ p, T.parallelism d.input = some p := by
  have hdecl := (hw.bolt n d h).2.1
  cases hp : T.parallelism d.input with
  | none => exact absurd hdecl (isNone_parallelism_iff.mp (by simp [hp]))
  | some p => exact ⟨p, rfl⟩

end Topology

lemma JobConfig.workerIndex_lt {c : JobConfig} {addresses : List String} {i : Nat}
    (hw : c.workers = .ok addresses) (hi : c.workerIndex = .ok i) : i < addresses.length := by
  unfold JobConfig.workerIndex at hi
  simp only [bind, Except.bind, hw, pure, Except.pure] at hi
  split at hi
  · cases hi
  · split at hi
    · cases hi
    · cases hi
      omega

namespace Job

variable {α β ε : Type}

/-! ### Making executors until one fails -/

lemma buildEach_some {f : α → Except ε β} :
    ∀ {l : List α} {bs : List β} {e : ε}, buildEach f l = (bs, some e) →
      bs.length < l.length ∧ (∀ b ∈ bs, ∃ a, f a = .ok b) ∧ ∃ a, f a = .error e
  | [], bs, e, h => by simp [buildEach] at h
  | a :: rest, bs, e, h => by
    unfold buildEach at h
    split at h
    · rename_i e' he
      simp only [Prod.mk.injEq, Option.some.injEq] at h
      obtain ⟨rfl, rfl⟩ := h
      exact ⟨by simp, by simp, a, he⟩
    · rename_i b hb
      rcases hrest : buildEach f rest with ⟨bs', e'⟩
      rw [hrest] at h
      simp only [Prod.mk.injEq] at h
      obtain ⟨rfl, rfl⟩ := h
      obtain ⟨hl, hm, he⟩ := buildEach_some hrest
      refine ⟨by simp [hl], fun b' hb' => ?_, he⟩
      rcases List.mem_cons.mp hb' with rfl | hb'
      · exact ⟨a, hb⟩
      · exact hm b' hb'

lemma buildTasks_some {f : Nat → Except ε β} {count : Nat} {bs : List β} {e : ε}
    (h : buildTasks f count = (bs, some e)) :
    bs.length < count ∧ (∀ b ∈ bs, ∃ t, f t = .ok b) ∧ ∃ t, f t = .error e := by
  cases count with
  | zero => simp [buildTasks] at h
  | succ rest =>
    simp only [buildTasks] at h
    split at h
    · rename_i e' he
      simp only [Prod.mk.injEq, Option.some.injEq] at h
      obtain ⟨rfl, rfl⟩ := h
      exact ⟨by simp, by simp, 0, he⟩
    · rename_i b hb
      rcases hrest : buildEach f ((List.range rest).map (· + 1)) with ⟨bs', e'⟩
      rw [hrest] at h
      simp only [Prod.mk.injEq] at h
      obtain ⟨rfl, rfl⟩ := h
      obtain ⟨hl, hm, he⟩ := buildEach_some hrest
      refine ⟨by simpa using hl, fun b' hb' => ?_, he⟩
      rcases List.mem_cons.mp hb' with rfl | hb'
      · exact ⟨0, hb⟩
      · exact hm b' hb'

lemma map_node_of_buildTasks {node : β → String} {n : String} {f : Nat → Except ε β}
    (hf : ∀ t b, f t = .ok b → node b = n) {count : Nat} {bs : List β} {e : ε}
    (h : buildTasks f count = (bs, some e)) :
    ∃ k < count, bs.map node = List.replicate k n := by
  obtain ⟨hl, hm, -⟩ := buildTasks_some h
  refine ⟨bs.length, hl, List.eq_replicate_iff.mpr ⟨by simp, fun x hx => ?_⟩⟩
  obtain ⟨b, hb, rfl⟩ := List.mem_map.mp hx
  obtain ⟨t, ht⟩ := hm b hb
  exact hf t b ht

lemma map_node_of_buildTasks_none {node : β → String} {n : String} {f : Nat → Except ε β}
    (hf : ∀ t b, f t = .ok b → node b = n) {count : Nat} {bs : List β}
    (h : buildTasks f count = (bs, none)) : bs.map node = List.replicate count n := by
  obtain ⟨hl, hm⟩ := buildTasks_none h
  refine List.eq_replicate_iff.mpr ⟨by simp [hl], fun x hx => ?_⟩
  obtain ⟨b, hb, rfl⟩ := List.mem_map.mp hx
  obtain ⟨t, ht⟩ := hm b hb
  exact hf t b ht

lemma buildNodes_some {δ : Type} {parallelism : δ → Nat} {f : Nat → String → δ → Nat → Except ε β}
    (node : β → String) (hf : ∀ before n d t b, f before n d t = .ok b → node b = n) :
    ∀ {nodes : List (String × δ)} {made bs : List β} {e : ε}, buildNodes parallelism f nodes made = (bs, some e) →
      bs.map node <+: made.map node ++ nodes.flatMap (fun e => List.replicate (parallelism e.2) e.1) ∧
      ∃ before n d t, (n, d) ∈ nodes ∧ f before n d t = .error e
  | [], made, bs, e, h => by simp [buildNodes] at h
  | (n, d) :: rest, made, bs, e, h => by
    unfold buildNodes at h
    split at h
    · -- the node's own tasks failed: what was made is a prefix of its tasks
      rename_i part e' hpart
      simp only [Prod.mk.injEq, Option.some.injEq] at h
      obtain ⟨rfl, rfl⟩ := h
      obtain ⟨k, hk, hmap⟩ := map_node_of_buildTasks (fun t b => hf _ n d t b) hpart
      obtain ⟨t, ht⟩ := (buildTasks_some hpart).2.2
      refine ⟨?_, made.length, n, d, t, List.mem_cons_self .., ht⟩
      rw [List.map_append, hmap, List.flatMap_cons, List.prefix_append_right_inj]
      dsimp only
      refine List.IsPrefix.trans ?_ (List.prefix_append _ _)
      rw [show parallelism d = k + (parallelism d - k) by omega, List.replicate_add]
      exact List.prefix_append _ _
    · -- the node is complete; the failure comes later
      rename_i part hpart
      obtain ⟨hpre, before, n', d', t, hmem, ht⟩ := buildNodes_some node hf h
      have hnode := map_node_of_buildTasks_none (fun t b => hf _ n d t b) hpart
      refine ⟨?_, before, n', d', t, List.mem_cons_of_mem _ hmem, ht⟩
      rw [List.flatMap_cons]
      rwa [List.map_append, hnode, List.append_assoc] at hpre

lemma spoutExecutor_error {disk : Storage} {name : Nat → String} {j : Job} {before : Nat} {node : String}
    {d : SpoutDecl} {task : Nat} {f : Fault} (h : spoutExecutor disk name j before node d task = .error f) :
    Registry.makeSpout d.component j.context.config = .error f ∨ ∃ plan,
      Registry.makeSpout d.component j.context.config = .ok plan ∧
      Registry.openSpout plan j.context.config j.context.job task d.parallelism disk = .error f := by
  unfold spoutExecutor at h
  simp only [bind, Except.bind] at h
  split at h
  · rename_i f' hf
    cases h
    exact .inl hf
  · rename_i plan hplan
    split at h
    · rename_i f' hopen
      cases h
      exact .inr ⟨plan, hplan, hopen⟩
    · simp [pure, Except.pure] at h

lemma boltExecutor_error {name : Nat → String} {j : Job} {before : Nat} {node : String} {d : BoltDecl}
    {expected task : Nat} {f : Fault} (h : boltExecutor name j before node d expected task = .error f) :
    Registry.makeBolt d.component j.context.config = .error f := by
  unfold boltExecutor at h
  simp only [bind, Except.bind] at h
  split at h
  · rename_i f' hf
    cases h
    exact hf
  · simp [pure, Except.pure] at h

lemma buildBolts_failed {workers : Nat} {name : Nat → String} :
    ∀ {j : Job} {nodes : List (String × BoltDecl)} {f : Fault} {j' : Job},
      buildBolts workers name j nodes = .failed f j' →
      j'.spouts = j.spouts ∧
      j'.bolts.map (·.node) <+: j.bolts.map (·.node) ++ nodes.flatMap (fun e => List.replicate e.2.parallelism e.1) ∧
      ∃ n d, (n, d) ∈ nodes ∧ Registry.makeBolt d.component j.context.config = .error f
  | j, [], f, j', h => by simp [buildBolts] at h
  | j, (n, d) :: rest, f, j', h => by
    unfold buildBolts at h
    dsimp only at h
    split at h
    · simp at h
    · split at h
      · -- the node's own tasks failed
        rename_i part f' hpart
        simp only [Built.failed.injEq] at h
        obtain ⟨rfl, rfl⟩ := h
        obtain ⟨k, hk, hmap⟩ := map_node_of_buildTasks (fun t b hb => (boltExecutor_ok hb).1) hpart
        obtain ⟨t, ht⟩ := (buildTasks_some hpart).2.2
        refine ⟨rfl, ?_, n, d, List.mem_cons_self .., boltExecutor_error ht⟩
        rw [List.map_append, hmap, List.flatMap_cons, List.prefix_append_right_inj]
        dsimp only
        refine List.IsPrefix.trans ?_ (List.prefix_append _ _)
        rw [show d.parallelism = k + (d.parallelism - k) by omega, List.replicate_add]
        exact List.prefix_append _ _
      · -- the node is complete; the failure comes later
        rename_i part hpart
        obtain ⟨hs, hpre, n', d', hmem, hf⟩ := buildBolts_failed h
        have hnode := map_node_of_buildTasks_none (fun t b hb => (boltExecutor_ok hb).1) hpart
        refine ⟨hs, ?_, n', d', List.mem_cons_of_mem _ hmem, hf⟩
        rw [List.flatMap_cons]
        rwa [List.map_append, hnode, List.append_assoc] at hpre

/-! ### Why instantiating stops -/

/-- Why making the executors of a job from a topology stopped, with the nodes of the spouts and of
the bolts made by then. -/
inductive Stopped (disk : Storage) (id : String) (config : JobConfig) (T : Topology) :
    Fault → List String → List String → Prop
  /-- A check before anything is made: a defect of the topology, or a bad worker list, worker
  index or batch size. -/
  | checks {f : Fault} : T.validate = .error f ∨ config.workers = .error f ∨ config.workerIndex = .error f ∨
      config.batchSize = .error f → Stopped disk id config T f [] []
  /-- A spout that cannot be made or opened, after a prefix of the spout tasks. -/
  | spout {f : Fault} {spouts : List String} {n : String} {sd : SpoutDecl} : (n, sd) ∈ T.spouts →
      (Registry.makeSpout sd.component config = .error f ∨ ∃ plan task,
        Registry.makeSpout sd.component config = .ok plan ∧
        Registry.openSpout plan config id task sd.parallelism disk = .error f) →
      spouts <+: T.spoutTasks → Stopped disk id config T f spouts []
  /-- A bolt that cannot be made, after every spout task and a prefix of the bolt tasks. -/
  | bolt {f : Fault} {bolts : List String} {n : String} {bd : BoltDecl} : (n, bd) ∈ T.bolts →
      Registry.makeBolt bd.component config = .error f → bolts <+: T.boltTasks →
      Stopped disk id config T f T.spoutTasks bolts

lemma checks_error {T : Topology} {config : JobConfig} {f : Fault}
    (h : (do T.validate; return (← config.workers, ← config.workerIndex, ← config.batchSize) :
      Except Fault (List String × Nat × Nat)) = .error f) :
    T.validate = .error f ∨ config.workers = .error f ∨ config.workerIndex = .error f ∨
      config.batchSize = .error f := by
  simp only [bind, Except.bind, pure, Except.pure] at h
  split at h
  · rename_i hv
    cases h
    exact .inl hv
  split at h
  · rename_i hw
    cases h
    exact .inr (.inl hw)
  split at h
  · rename_i hi
    cases h
    exact .inr (.inr (.inl hi))
  split at h
  · rename_i hb
    cases h
    exact .inr (.inr (.inr hb))
  · cases h

/-- An instantiation that fails stops for one of the reasons of `Stopped`, having made a prefix of
the executors of the topology. -/
theorem stopped_of_instantiate {disk : Storage} {name : Nat → String} {id : String} {config : JobConfig}
    {T : Topology} {f : Fault} {made : Job} (h : instantiate disk name id config T = .failed f made) :
    Stopped disk id config T f (made.spouts.map (·.node)) (made.bolts.map (·.node)) := by
  unfold instantiate at h
  dsimp only at h
  split at h
  · rename_i f' hchecked
    simp only [Built.failed.injEq] at h
    obtain ⟨rfl, rfl⟩ := h
    exact .checks (checks_error hchecked)
  split at h
  · -- a spout task failed
    rename_i spouts f' hspouts
    simp only [Built.failed.injEq] at h
    obtain ⟨rfl, rfl⟩ := h
    obtain ⟨hpre, before, n, sd, t, hmem, ht⟩ := buildNodes_some (·.node)
      (fun _ _ _ _ _ hsp => (spoutExecutor_ok hsp).1) hspouts
    exact .spout hmem (spoutExecutor_error ht |>.imp_right fun ⟨plan, hp, ho⟩ => ⟨plan, t, hp, ho⟩)
      (by simpa [Topology.spoutTasks] using hpre)
  split at h
  · simp at h
  · -- a bolt task failed, after every spout task
    rename_i spouts hspouts _ _
    obtain ⟨hsmap, -⟩ := buildNodes_none (·.node) (fun _ => True)
      (fun _ _ _ _ _ hsp => ⟨(spoutExecutor_ok hsp).1, trivial⟩) hspouts
    obtain ⟨hs, hpre, n, bd, hmem, hbd⟩ := buildBolts_failed h
    have hall : made.spouts.map (·.node) = T.spoutTasks := by
      rw [hs]
      simpa [Topology.spoutTasks] using hsmap
    rw [hall]
    exact .bolt hmem hbd (by simpa [Topology.boltTasks] using hpre)

/-! ### A job made without failure -/

/-- A job just made from a topology for a list of `workers` workers: not started and not failed,
one executor per task of every node, all of them pending, one router per bolt node with a slot for
every executor of the node on every worker, and every bolt executor expecting an end of stream
from every executor of its input node on every worker. -/
structure Defined (T : Topology) (workers : Nat) (j : Job) : Prop where
  notStarted : j.context.started = false
  notFailed : j.context.failed = false
  spouts : j.spouts.length = (T.spouts.map (·.2.parallelism)).sum
  bolts : j.bolts.length = (T.bolts.map (·.2.parallelism)).sum
  pending : j.context.pending = j.spouts.length + j.bolts.length
  routers : j.routers.map (·.1) = T.bolts.map (·.1)
  slots : ∀ n r, (n, r) ∈ j.routers → ∃ bd, (n, bd) ∈ T.bolts ∧ r.slots.length = bd.parallelism * workers
  votes : ∀ b ∈ j.bolts, ∃ bd p, (b.node, bd) ∈ T.bolts ∧ T.parallelism bd.input = some p ∧
    b.tally.expected = p * workers

lemma pending_of_instantiate {disk : Storage} {name : Nat → String} {id : String}
    {config : JobConfig} {T : Topology} {j : Job} (h : instantiate disk name id config T = .done j) :
    j.context.pending = j.spouts.length + j.bolts.length ∧ j.context.started = false := by
  unfold instantiate at h
  dsimp only at h
  split at h
  · simp at h
  split at h
  · simp at h
  split at h
  · rename_i j₁ hbolts
    simp only [Built.done.injEq] at h
    subst h
    obtain ⟨-, hc, -⟩ := buildBolts_done hbolts
    rw [wire_eq_foldl, foldl_wireOne]
    simp only at hc
    simp [JobContext.expect, hc]
  · rename_i hother
    exact (hother _ h).elim

lemma length_boltsOf (j : Job) (n : String) : (j.boltsOf n).length = (j.bolts.map (·.node)).count n := by
  have hr : (List.range j.bolts.length).map (fun i => j.bolts.getD i default) = j.bolts :=
    List.ext_getElem (by simp) fun i _ h => by simp [List.getElem?_eq_getElem h]
  rw [Deployment.count_map_eq_length_filter, boltsOf]
  conv_rhs => rw [← hr]
  rw [List.filter_map, List.length_map]
  rfl

lemma length_slots_streamRouter {addresses : List String} {position : Nat} (hp : position < addresses.length)
    (batch : Nat) (job node : String) (grouping : Grouping) (locals : List Nat) :
    (streamRouter addresses position batch job node grouping locals).slots.length =
      locals.length * addresses.length := by
  show (Router.layout _ (peerSenders addresses position batch job node).length position).length = _
  rw [length_peerSenders _ _ _ _ hp, Router.length_layout _ _ _ (by omega), Nat.sub_add_cancel (by omega)]

/-- A job instantiated without failure from a topology whose bolts are named once is defined as
`Defined` says, for the workers of its list. -/
theorem defined_of_instantiate {disk : Storage} {name : Nat → String} {id : String} {config : JobConfig}
    {T : Topology} {j : Job} (hkeys : (T.bolts.map (·.1)).Nodup) (h : instantiate disk name id config T = .done j) :
    ∃ addresses, config.workers = .ok addresses ∧ Defined T addresses.length j := by
  obtain ⟨addresses, position, batch, hv, hw, hi, -, hinst⟩ := Instance.of_instantiate h
  have hpos := JobConfig.workerIndex_lt hw hi
  have hwf := Topology.validate_eq_ok_iff.mp hv
  obtain ⟨hpend, hstart⟩ := pending_of_instantiate h
  refine ⟨addresses, hw, hstart, (context_of_instantiate h).1, ?_, ?_, hpend, ?_, ?_, ?_⟩
  · simpa [List.length_flatMap, Function.comp_def] using congrArg List.length hinst.spoutNodes
  · simpa [List.length_flatMap, Function.comp_def] using congrArg List.length hinst.boltNodes
  · rw [hinst.routers, List.map_map]
    rfl
  · -- a router's local executors are the tasks of its node: as many as its parallelism
    intro n r hr
    rw [hinst.routers] at hr
    obtain ⟨⟨n', bd⟩, hbd, heq⟩ := List.mem_map.mp hr
    simp only [Prod.mk.injEq] at heq
    obtain ⟨rfl, rfl⟩ := heq
    refine ⟨bd, hbd, ?_⟩
    rw [length_slots_streamRouter hpos, length_boltsOf, hinst.boltNodes,
      Deployment.count_flatMap_replicate _ _ hkeys, lookup_eq_some_of_mem hkeys hbd]
    rfl
  · intro b hb
    obtain ⟨bd, hbd, hta, -⟩ := hinst.bolt b hb
    obtain ⟨p, hp⟩ := hwf.parallelism_input hbd
    exact ⟨bd, p, hbd, hp, by rw [hta, hp]; rfl⟩

end Job

/-! ### Defining a job on a worker -/

namespace Worker

lemma allowsJob_cases (wk : Worker) (id : String) :
    (wk.accepting = false ∧ wk.allowsJob id = .error .shuttingDown) ∨
    (wk.accepting = true ∧ (wk.job? id).isSome ∧ wk.allowsJob id = .error (.config s!"job '{id}' is already defined")) ∨
    (wk.accepting = true ∧ wk.job? id = none ∧ wk.allowsJob id = .ok ()) := by
  unfold allowsJob
  cases ha : wk.accepting <;> cases hj : wk.job? id <;>
    simp [throw, throwThe, MonadExceptOf.throw, bind, Except.bind, pure, Except.pure]

/-- Why defining a job on a worker failed, with the nodes of the spouts and of the bolts the
definition made by then. -/
inductive Refused (wk : Worker) (disk : Storage) (id : String) (config : JobConfig) (T : Topology) :
    Fault → List String → List String → Prop
  | shuttingDown : wk.accepting = false → Refused wk disk id config T .shuttingDown [] []
  | duplicate : wk.accepting = true → (wk.job? id).isSome →
      Refused wk disk id config T (.config s!"job '{id}' is already defined") [] []
  | stopped {f : Fault} {spouts bolts : List String} : wk.accepting = true → wk.job? id = none →
      Job.Stopped disk id config T f spouts bolts → Refused wk disk id config T f spouts bolts

lemma refused_of_allowsJob {wk : Worker} {id : String} {f : Fault} (h : wk.allowsJob id = .error f)
    (disk : Storage) (config : JobConfig) (T : Topology) : Refused wk disk id config T f [] [] := by
  rcases allowsJob_cases wk id with ⟨ha, he⟩ | ⟨ha, hj, he⟩ | ⟨-, -, he⟩
  · rw [he] at h
    cases h
    exact .shuttingDown ha
  · rw [he] at h
    cases h
    exact .duplicate ha hj
  · rw [he] at h
    cases h

lemma allowsJob_eq_ok {wk : Worker} {id : String} (h : wk.allowsJob id = .ok ()) :
    wk.accepting = true ∧ wk.job? id = none := by
  rcases allowsJob_cases wk id with ⟨-, he⟩ | ⟨-, -, he⟩ | ⟨ha, hj, -⟩
  · rw [he] at h
    cases h
  · rw [he] at h
    cases h
  · exact ⟨ha, hj⟩

lemma discard_eq (wk : Worker) (made : Job) :
    wk.discard made = { wk with
      lifecycle := wk.lifecycle ++ made.spouts.map (.opened ·.id) ++ made.bolts.map (.prepared ·.id) ++
        made.bolts.map (.cleanedUp ·.id) ++ made.spouts.map (.closed ·.id) } := by
  simp [discard, Job.opening, Job.closing]

end Worker

namespace Run

variable {s : World}

lemma eq_ok_of_ne_error {x : Except Fault Unit} (h : ∀ f, x = .error f → False) : x = .ok () := by
  cases x with
  | error f => exact (h f rfl).elim
  | ok u => rfl

lemma spec_defineJob_cases (w : Nat) (d : JobDefinition) :
    Spec (defineJob w d) s fun r s' => ∃ wk, s.workers[w]? = some wk ∧ ∃ id,
      (∃ f, wk.allowsJob id = .error f ∧ r = .error f ∧ s' = s) ∨
      (wk.allowsJob id = .ok () ∧ ∃ f made, Job.instantiate s.disk (fun n => Uuid.executor (s.made + n + 1)) id
        (wk.jobConfig d.config) d.topology = .failed f made ∧ r = .error f ∧
        s'.workers = s.workers.modify w (·.discard made)) ∨
      (wk.allowsJob id = .ok () ∧ ∃ j, Job.instantiate s.disk (fun n => Uuid.executor (s.made + n + 1)) id
        (wk.jobConfig d.config) d.topology = .done j ∧ r = .ok id ∧
        s'.workers = s.workers.modify w (·.install id j)) := by
  simp only [defineJob, spec_bind, spec_get, spec_worker]
  intro wk hwk
  split
  · rename_i f hf
    rw [spec_bind]
    exact ⟨wk, hwk, _, .inl ⟨f, hf, rfl, rfl⟩⟩
  · rename_i hallow
    have hok := eq_ok_of_ne_error hallow
    split
    · rename_i _ j hinst
      simp only [spec_bind, spec_modifyWorker, spec_modify]
      split_ifs <;> simp only [spec_bind, spec_modify, spec_pure] <;>
        exact ⟨wk, hwk, _, .inr (.inr ⟨hok, j, hinst, rfl, rfl⟩)⟩
    · rename_i _ f made hinst
      simp only [spec_bind, spec_modifyWorker, spec_modify, spec_throw]
      exact ⟨wk, hwk, _, .inr (.inl ⟨hok, f, made, hinst, rfl, rfl⟩)⟩
    · exact spec_crash _

lemma modify_frame {ws : List Worker} {w : Nat} {wk : Worker} (hwk : ws[w]? = some wk) (f : Worker → Worker) :
    (ws.modify w f).length = ws.length ∧ (∀ v ≠ w, (ws.modify w f)[v]? = ws[v]?) ∧
      (ws.modify w f)[w]? = some (f wk) := by
  refine ⟨List.length_modify .., fun v hv => List.getElem?_modify_ne _ _ (Ne.symm hv), ?_⟩
  rw [List.getElem?_modify_eq, hwk]
  rfl

/-- Defining a job on a worker is all or nothing, and touches no other worker. If it fails, the
worker keeps its jobs and everything else but its lifecycle, the failure has a cause that
`Refused` lists, and every spout the definition opened is closed and every bolt it prepared is
cleaned up, once each and bolts first, the executors made being a prefix of the topology's. If it
succeeds, the worker accepted a new id and holds the job under it as its last job, defined as
`Defined` says for the workers of its list, its other jobs as they were. -/
theorem define_job_all_or_nothing {s s' : World} {w : Nat} {d : JobDefinition} {r : Except Fault String}
    (hkeys : (d.topology.bolts.map (·.1)).Nodup) (hrun : (defineJob w d).run.run s = .ok (r, s')) :
    s'.workers.length = s.workers.length ∧ (∀ v ≠ w, s'.workers[v]? = s.workers[v]?) ∧
    ∃ wk wk', s.workers[w]? = some wk ∧ s'.workers[w]? = some wk' ∧
      (∀ f, r = .error f → ∃ id, ∃ sps : List SpoutExecutor, ∃ bos : List BoltExecutor,
        Worker.Refused wk s.disk id (wk.jobConfig d.config) d.topology f (sps.map (·.node)) (bos.map (·.node)) ∧
        wk' = { wk with
          lifecycle := wk.lifecycle ++ sps.map (.opened ·.id) ++ bos.map (.prepared ·.id) ++
            bos.map (.cleanedUp ·.id) ++ sps.map (.closed ·.id) }) ∧
      (∀ id, r = .ok id → wk.accepting = true ∧ wk.job? id = none ∧ wk'.lastJob = some id ∧
        (∀ other, other ≠ id → wk'.job? other = wk.job? other) ∧
        ∃ j addresses, wk'.job? id = some j ∧ (wk.jobConfig d.config).workers = .ok addresses ∧
          Job.Defined d.topology addresses.length j) := by
  obtain ⟨wk, hwk, id, hcase⟩ := (spec_defineJob_cases w d).of_run hrun
  rcases hcase with ⟨f, hf, rfl, rfl⟩ | ⟨hok, f, made, hinst, rfl, hws⟩ | ⟨hok, j, hinst, rfl, hws⟩
  · -- the worker refuses the id: nothing changes
    refine ⟨rfl, fun _ _ => rfl, wk, wk, hwk, hwk, fun f' hf' => ?_, fun _ h => by cases h⟩
    cases hf'
    exact ⟨id, [], [], Worker.refused_of_allowsJob hf .., by simp⟩
  · -- the instantiation fails: what it made is taken down again
    obtain ⟨hlen, hother, hw⟩ := modify_frame hwk (·.discard made)
    rw [hws]
    refine ⟨hlen, hother, wk, wk.discard made, hwk, hw, fun f' hf' => ?_, fun _ h => by cases h⟩
    cases hf'
    obtain ⟨ha, hj⟩ := Worker.allowsJob_eq_ok hok
    exact ⟨id, made.spouts, made.bolts, .stopped ha hj (Job.stopped_of_instantiate hinst),
      Worker.discard_eq wk made⟩
  · -- the job is installed under its id
    obtain ⟨hlen, hother, hw⟩ := modify_frame hwk (·.install id j)
    rw [hws]
    refine ⟨hlen, hother, wk, wk.install id j, hwk, hw, (fun _ h => by cases h), fun id' h => ?_⟩
    cases h
    obtain ⟨ha, hj⟩ := Worker.allowsJob_eq_ok hok
    obtain ⟨addresses, haddr, hdef⟩ := Job.defined_of_instantiate hkeys hinst
    refine ⟨ha, hj, rfl, fun other hne => ?_, j, addresses, ?_, haddr, hdef⟩
    · simp [Worker.install, Worker.job?, Keyed.lookup_insert_of_ne hne]
    · simp [Worker.install, Worker.job?]

/-- The sink topology defined on a lone worker that lists itself: the job it installs is defined
for one worker. -/
theorem sink_definition_defined :
    ∃ s' wk j, (defineJob 0 ⟨Deployment.sinkTopology, Deployment.sinkConfig⟩).run.run
        { workers := [{ port := 0, address := "http://a" }], link := .loopback false } =
        .ok (.ok ("job-" ++ Uuid.fresh 1), s') ∧
      s'.workers[0]? = some wk ∧ wk.job? ("job-" ++ Uuid.fresh 1) = some j ∧ Job.Defined Deployment.sinkTopology 1 j := by
  obtain ⟨s', hrun⟩ : ∃ s', (defineJob 0 ⟨Deployment.sinkTopology, Deployment.sinkConfig⟩).run.run
      { workers := [{ port := 0, address := "http://a" }], link := .loopback false } =
      .ok (.ok ("job-" ++ Uuid.fresh 1), s') := ⟨_, rfl⟩
  obtain ⟨-, -, wk, wk', hwk, hwk', -, hok⟩ := define_job_all_or_nothing (by decide) hrun
  obtain ⟨-, -, -, -, j, addresses, hj, haddr, hdef⟩ := hok _ rfl
  obtain rfl : wk = { port := 0, address := "http://a" } := by simpa using hwk.symm
  have hone : addresses = ["http://a"] := by
    have h : (({ port := 0, address := "http://a" } : Worker).jobConfig Deployment.sinkConfig).workers = .ok ["http://a"] := rfl
    rw [h] at haddr
    cases haddr
    rfl
  subst hone
  exact ⟨s', wk', j, hrun, hwk', hj, hdef⟩

end Run

end Dataflow
