import Dataflow.Proofs.Spec
import Dataflow.Proofs.Instantiation
/-!
Views of one job across the workers of a world: its bolt and spout executors by worker and
position, its routers by worker and stream, and the ends of stream each worker has taken for it.
Every primitive operation of the network changes these views in one place at most, and the lemmas
here say how, so that later proofs never unfold the world again.

The fixed part of a job is what instantiating and wiring it decided: executor ids, nodes and
routes, the number of votes each bolt executor expects, and its routers' layouts and
destinations. The flows of the network never change it.
-/
namespace Dataflow

variable {α β : Type}

lemma map_modify_of_comp (f : α → α) (g : α → β) (h : ∀ a, g (f a) = g a) (l : List α) (i : Nat) :
    (l.modify i f).map g = l.map g := by
  refine List.ext_getElem? fun k => ?_
  simp only [List.getElem?_map, List.getElem?_modify]
  rcases l[k]? with _ | a
  · rfl
  · by_cases hik : i = k <;> simp [hik, h]

lemma lookup_map_pair (g : String → α → β) (k : String) (l : List (String × α)) :
    (l.map fun e => (e.1, g e.1 e.2)).lookup k = (l.lookup k).map (g k) := by
  induction l with
  | nil => rfl
  | cons e rest ih =>
    obtain ⟨k', v⟩ := e
    simp only [List.map_cons, List.lookup_cons]
    split <;> simp_all

namespace Worker

lemma job?_modifyJob (w : Worker) (id id' : String) (f : Job → Job) :
    (w.modifyJob id f).job? id' = if id' = id then (w.job? id).map f else w.job? id' :=
  Keyed.lookup_modify id id' f w.jobs

@[simp] lemma address_modifyJob (w : Worker) (id : String) (f : Job → Job) :
    (w.modifyJob id f).address = w.address := rfl

@[simp] lemma eosSeen_modifyJob (w : Worker) (id : String) (f : Job → Job) :
    (w.modifyJob id f).eosSeen = w.eosSeen := rfl

@[simp] lemma job?_markEos (w : Worker) (id stream source id' : String) :
    (w.markEos id stream source).job? id' = w.job? id' := rfl

@[simp] lemma address_markEos (w : Worker) (id stream source : String) :
    (w.markEos id stream source).address = w.address := rfl

end Worker

namespace World

variable (s : World) (job : String)

def boltAt (w i : Nat) : Option BoltExecutor := (s.job? ⟨w, job⟩).bind (·.bolts[i]?)

def spoutAt (w i : Nat) : Option SpoutExecutor := (s.job? ⟨w, job⟩).bind (·.spouts[i]?)

def routerAt (w : Nat) (stream : String) : Option Router := (s.job? ⟨w, job⟩).bind (·.router? stream)

def seenAt (w : Nat) : List (String × String) :=
  ((s.workers[w]?).bind (·.eosSeen.lookup job)).getD []

variable {s job}

lemma boltAt_of_job? {w : Nat} {j : Job} (h : s.job? ⟨w, job⟩ = some j) (i : Nat) :
    s.boltAt job w i = j.bolts[i]? := by
  simp [boltAt, h]

lemma spoutAt_of_job? {w : Nat} {j : Job} (h : s.job? ⟨w, job⟩ = some j) (i : Nat) :
    s.spoutAt job w i = j.spouts[i]? := by
  simp [spoutAt, h]

lemma routerAt_of_job? {w : Nat} {j : Job} (h : s.job? ⟨w, job⟩ = some j) (stream : String) :
    s.routerAt job w stream = j.router? stream := by
  simp [routerAt, h]

lemma job?_of_worker {w : Nat} {wk : Worker} (h : s.workers[w]? = some wk) (id : String) :
    s.job? ⟨w, id⟩ = wk.job? id := by
  simp [World.job?, h]

lemma seenAt_of_worker {w : Nat} {wk : Worker} (h : s.workers[w]? = some wk) :
    s.seenAt job w = (wk.eosSeen.lookup job).getD [] := by
  simp [seenAt, h]

lemma eosDelivered_iff {w : Nat} {wk : Worker} (h : s.workers[w]? = some wk) (stream source : String) :
    wk.eosDelivered job stream source = true ↔ (stream, source) ∈ s.seenAt job w := by
  simp [Worker.eosDelivered, seenAt_of_worker h]

/-! ### Changing one job -/

section updJob

variable {p : Place} {f : Job → Job}

lemma updJob_updJob (s : World) (p : Place) (f g : Job → Job) :
    (s.updJob p f).updJob p g = s.updJob p (g ∘ f) := by
  simp only [World.updJob, List.modify_modify_eq]
  congr
  funext wk
  simp [Function.comp_def, Worker.modifyJob, Keyed.modify_modify]

lemma updJob_congr {g : Job → Job} (h : ∀ j, s.job? p = some j → f j = g j) : s.updJob p f = s.updJob p g := by
  simp only [updJob, World.mk.injEq, and_true]
  refine List.ext_getElem? fun w => ?_
  simp only [List.getElem?_modify]
  rcases hw : s.workers[w]? with _ | wk
  · rfl
  · by_cases hpw : p.worker = w
    · subst hpw
      simp only [if_true, Worker.modifyJob]
      exact congrArg (fun js => some { wk with jobs := js })
        (Keyed.modify_congr fun j (hj : wk.jobs.lookup p.job = some j) => h j (by simp [job?, hw, Worker.job?, hj]))
    · simp [hpw]

lemma getElem?_workers_updJob (w : Nat) :
    (s.updJob p f).workers[w]? = (s.workers[w]?).map fun wk =>
      if p.worker = w then wk.modifyJob p.job f else wk := by
  simp [updJob, List.getElem?_modify]

@[simp] lemma length_workers_updJob : (s.updJob p f).workers.length = s.workers.length := by
  simp [updJob]

@[simp] lemma link_updJob : (s.updJob p f).link = s.link := rfl

lemma job?_updJob (q : Place) :
    (s.updJob p f).job? q = if q = p then (s.job? p).map f else s.job? q := by
  obtain ⟨w, id⟩ := p
  obtain ⟨w', id'⟩ := q
  simp only [job?, getElem?_workers_updJob, Place.mk.injEq]
  by_cases hw : w = w'
  · subst hw
    rcases s.workers[w]? with _ | wk
    · simp
    · by_cases hid : id' = id <;> simp [hid, Worker.job?_modifyJob]
  · have : ¬w' = w := fun h => hw h.symm
    rcases s.workers[w']? with _ | wk <;> simp [hw, this]

@[simp] lemma seenAt_updJob (w : Nat) : (s.updJob p f).seenAt job w = s.seenAt job w := by
  simp only [seenAt, getElem?_workers_updJob]
  rcases s.workers[w]? with _ | wk
  · rfl
  · by_cases h : p.worker = w <;> simp [h]

@[simp] lemma workerAt?_updJob (address : String) :
    (s.updJob p f).workerAt? address = s.workerAt? address := by
  have h : (s.updJob p f).workers.map (·.address) = s.workers.map (·.address) := by
    simp only [updJob]
    exact map_modify_of_comp (·.modifyJob p.job f) (fun wk : Worker => wk.address) (fun _ => rfl) _ _
  simp only [workerAt?, length_workers_updJob, getD_map_apply Worker.address, h]

lemma boltAt_updJob_of_bolts (hf : ∀ j, (f j).bolts = j.bolts) (w i : Nat) :
    (s.updJob p f).boltAt job w i = s.boltAt job w i := by
  simp only [boltAt, job?_updJob]
  split
  · rename_i h
    rw [← h]
    cases s.job? ⟨w, job⟩ <;> simp [hf]
  · rfl

lemma spoutAt_updJob_of_spouts (hf : ∀ j, (f j).spouts = j.spouts) (w i : Nat) :
    (s.updJob p f).spoutAt job w i = s.spoutAt job w i := by
  simp only [spoutAt, job?_updJob]
  split
  · rename_i h
    rw [← h]
    cases s.job? ⟨w, job⟩ <;> simp [hf]
  · rfl

lemma routerAt_updJob_of_routers (hf : ∀ j, (f j).routers = j.routers) (w : Nat) (c : String) :
    (s.updJob p f).routerAt job w c = s.routerAt job w c := by
  simp only [routerAt, job?_updJob]
  split
  · rename_i h
    rw [← h]
    cases s.job? ⟨w, job⟩ <;> simp [hf, Job.router?]
  · rfl

end updJob

lemma boltAt_modifyBolt {w i : Nat} {g : BoltExecutor → BoltExecutor} (w' i' : Nat) :
    (s.updJob ⟨w, job⟩ fun j => { j with bolts := j.bolts.modify i g }).boltAt job w' i' =
      if w' = w ∧ i' = i then (s.boltAt job w i).map g else s.boltAt job w' i' := by
  simp only [boltAt, job?_updJob, Place.mk.injEq, and_true]
  by_cases hw : w' = w
  · subst hw
    rcases s.job? ⟨w', job⟩ with _ | j
    · simp
    · by_cases hi : i' = i
      · subst hi
        simp
      · simp [hi, Ne.symm hi]
  · simp [hw]

lemma spoutAt_modifySpout {w i : Nat} {g : SpoutExecutor → SpoutExecutor} (w' i' : Nat) :
    (s.updJob ⟨w, job⟩ fun j => { j with spouts := j.spouts.modify i g }).spoutAt job w' i' =
      if w' = w ∧ i' = i then (s.spoutAt job w i).map g else s.spoutAt job w' i' := by
  simp only [spoutAt, job?_updJob, Place.mk.injEq, and_true]
  by_cases hw : w' = w
  · subst hw
    rcases s.job? ⟨w', job⟩ with _ | j
    · simp
    · by_cases hi : i' = i
      · subst hi
        simp
      · simp [hi, Ne.symm hi]
  · simp [hw]

lemma Job.router?_setRouter (j : Job) (c c' : String) (r : Router) :
    (j.setRouter c r).router? c' = if c' = c then (j.router? c).map fun _ => r else j.router? c' := by
  simp only [Job.setRouter, Job.router?]
  induction j.routers with
  | nil => by_cases h : c' = c <;> simp [h]
  | cons e rest ih =>
    obtain ⟨k, r'⟩ := e
    by_cases hk : k = c
    · subst hk
      by_cases h : c' = k
      · subst h
        simp
      · have hb : (c' == k) = false := by simp [h]
        simp [List.lookup_cons, hb, h, ih]
    · by_cases h : c' = c
      · subst h
        have hb : (c' == k) = false := by simp [Ne.symm hk]
        simp [hk, List.lookup_cons, hb, ih]
      · simp only [List.map_cons, hk, if_false, List.lookup_cons, ih, h]

lemma routerAt_setRouter {w : Nat} {c : String} {r : Router} (w' : Nat) (c' : String) :
    (s.updJob ⟨w, job⟩ (·.setRouter c r)).routerAt job w' c' =
      if w' = w ∧ c' = c then (s.routerAt job w c).map fun _ => r else s.routerAt job w' c' := by
  simp only [routerAt, job?_updJob, Place.mk.injEq, and_true]
  by_cases hw : w' = w
  · subst hw
    rcases s.job? ⟨w', job⟩ with _ | j
    · simp
    · by_cases hc : c' = c
      · subst hc
        simp [Job.router?_setRouter]
      · simp [hc, Job.router?_setRouter]
  · simp [hw]

/-! The views an update leaves alone. -/

section Frame

variable {p : Place} {i : Nat} {c : String} {r : Router}

@[simp] lemma spoutAt_modifyBolts {g : BoltExecutor → BoltExecutor} (w i' : Nat) :
    (s.updJob p fun j => { j with bolts := j.bolts.modify i g }).spoutAt job w i' = s.spoutAt job w i' := by
  rw [spoutAt_updJob_of_spouts]
  intro _
  rfl

@[simp] lemma routerAt_modifyBolts {g : BoltExecutor → BoltExecutor} (w : Nat) (c' : String) :
    (s.updJob p fun j => { j with bolts := j.bolts.modify i g }).routerAt job w c' = s.routerAt job w c' := by
  rw [routerAt_updJob_of_routers]
  intro _
  rfl

@[simp] lemma boltAt_modifySpouts {g : SpoutExecutor → SpoutExecutor} (w i' : Nat) :
    (s.updJob p fun j => { j with spouts := j.spouts.modify i g }).boltAt job w i' = s.boltAt job w i' := by
  rw [boltAt_updJob_of_bolts]
  intro _
  rfl

@[simp] lemma routerAt_modifySpouts {g : SpoutExecutor → SpoutExecutor} (w : Nat) (c' : String) :
    (s.updJob p fun j => { j with spouts := j.spouts.modify i g }).routerAt job w c' = s.routerAt job w c' := by
  rw [routerAt_updJob_of_routers]
  intro _
  rfl

@[simp] lemma boltAt_setRouter (w i' : Nat) : (s.updJob p (·.setRouter c r)).boltAt job w i' = s.boltAt job w i' := by
  rw [boltAt_updJob_of_bolts]
  intro _
  rfl

@[simp] lemma spoutAt_setRouter (w i' : Nat) :
    (s.updJob p (·.setRouter c r)).spoutAt job w i' = s.spoutAt job w i' := by
  rw [spoutAt_updJob_of_spouts]
  intro _
  rfl

@[simp] lemma boltAt_context {f : JobContext → JobContext} (w i' : Nat) :
    (s.updJob p fun j => { j with context := f j.context }).boltAt job w i' = s.boltAt job w i' := by
  rw [boltAt_updJob_of_bolts]
  intro _
  rfl

@[simp] lemma spoutAt_context {f : JobContext → JobContext} (w i' : Nat) :
    (s.updJob p fun j => { j with context := f j.context }).spoutAt job w i' = s.spoutAt job w i' := by
  rw [spoutAt_updJob_of_spouts]
  intro _
  rfl

@[simp] lemma routerAt_context {f : JobContext → JobContext} (w : Nat) (c' : String) :
    (s.updJob p fun j => { j with context := f j.context }).routerAt job w c' = s.routerAt job w c' := by
  rw [routerAt_updJob_of_routers]
  intro _
  rfl

end Frame

/-! ### Marking an end of stream taken -/

section markEos

variable {q : Nat} {stream source : String}

abbrev markEos (s : World) (q : Nat) (job stream source : String) : World :=
  { s with workers := s.workers.modify q (·.markEos job stream source) }

@[simp] lemma job?_markEos (p : Place) : (s.markEos q job stream source).job? p = s.job? p := by
  simp only [job?, List.getElem?_modify]
  rcases s.workers[p.worker]? with _ | wk
  · rfl
  · by_cases h : q = p.worker <;> simp [h]

@[simp] lemma boltAt_markEos (w i : Nat) : (s.markEos q job stream source).boltAt job w i = s.boltAt job w i := by
  simp [boltAt]

@[simp] lemma spoutAt_markEos (w i : Nat) :
    (s.markEos q job stream source).spoutAt job w i = s.spoutAt job w i := by
  simp [spoutAt]

@[simp] lemma routerAt_markEos (w : Nat) (c : String) :
    (s.markEos q job stream source).routerAt job w c = s.routerAt job w c := by
  simp [routerAt]

lemma seenAt_markEos (hq : q < s.workers.length) (w : Nat) :
    (s.markEos q job stream source).seenAt job w =
      if w = q then s.seenAt job q ++ [(stream, source)] else s.seenAt job w := by
  simp only [seenAt, List.getElem?_modify]
  by_cases hw : w = q
  · subst hw
    simp [List.getElem?_eq_getElem hq, Worker.markEos, Keyed.lookup_insert_self]
  · simp [Ne.symm hw, hw]

end markEos

end World

/-! ### The fixed part of a job -/

/-- What instantiating decided of a bolt executor: id, node, routes and expected votes. -/
def BoltExecutor.fixed (b : BoltExecutor) : BoltExecutor :=
  { b with logic := default, tally := { expected := b.tally.expected }, finalized := false, sentEos := false }

def SpoutExecutor.fixed (sp : SpoutExecutor) : SpoutExecutor :=
  { sp with logic := default, done := false, sentEos := false }

def Sender.fixed (d : Sender) : Sender := { d with held := [] }

/-- What wiring decided of a router: stream, grouping, executors, layout and destinations. -/
def Router.fixed (r : Router) : Router := { r with senders := r.senders.map Sender.fixed, next := 0 }

def Job.fixed (j : Job) : Job :=
  { j with context := default, spouts := j.spouts.map SpoutExecutor.fixed,
           bolts := j.bolts.map BoltExecutor.fixed, routers := j.routers.map fun e => (e.1, e.2.fixed) }

lemma BoltExecutor.fixed_eq_iff {b b' : BoltExecutor} : b.fixed = b'.fixed ↔
    b.id = b'.id ∧ b.node = b'.node ∧ b.routes = b'.routes ∧ b.tally.expected = b'.tally.expected := by
  obtain ⟨id, node, logic, ⟨e, v, r⟩, f, se, routes⟩ := b
  obtain ⟨id', node', logic', ⟨e', v', r'⟩, f', se', routes'⟩ := b'
  simp only [fixed, mk.injEq, Tally.mk.injEq]
  tauto

lemma SpoutExecutor.fixed_eq_iff {sp sp' : SpoutExecutor} : sp.fixed = sp'.fixed ↔
    sp.id = sp'.id ∧ sp.node = sp'.node ∧ sp.routes = sp'.routes := by
  obtain ⟨id, node, logic, d, se, routes⟩ := sp
  obtain ⟨id', node', logic', d', se', routes'⟩ := sp'
  simp only [fixed, mk.injEq]
  tauto

/-- The fixed part of a job across a world: the link, and every worker's address and fixed part of
the job. -/
def World.fixedOf (s : World) (job : String) : Link × List (String × Option Job) :=
  (s.link, s.workers.map fun wk => (wk.address, (wk.job? job).map Job.fixed))

namespace World

variable {s s' : World} {job : String}

lemma job?_map_fixed (w : Nat) :
    (s.job? ⟨w, job⟩).map Job.fixed = ((s.fixedOf job).2[w]?).bind (·.2) := by
  simp only [job?, fixedOf, List.getElem?_map]
  cases s.workers[w]? <;> simp

lemma boltAt_map_fixed (w i : Nat) :
    (s.boltAt job w i).map BoltExecutor.fixed = ((s.job? ⟨w, job⟩).map Job.fixed).bind (·.bolts[i]?) := by
  simp only [boltAt]
  cases s.job? ⟨w, job⟩ <;> simp [Job.fixed]

lemma spoutAt_map_fixed (w i : Nat) :
    (s.spoutAt job w i).map SpoutExecutor.fixed =
      ((s.job? ⟨w, job⟩).map Job.fixed).bind (·.spouts[i]?) := by
  simp only [spoutAt]
  cases s.job? ⟨w, job⟩ <;> simp [Job.fixed]

lemma routerAt_map_fixed (w : Nat) (c : String) :
    (s.routerAt job w c).map Router.fixed = ((s.job? ⟨w, job⟩).map Job.fixed).bind (·.router? c) := by
  simp only [routerAt]
  cases s.job? ⟨w, job⟩ <;> simp [Job.fixed, Job.router?, lookup_map_pair fun _ (r : Router) => r.fixed]

variable (h : s'.fixedOf job = s.fixedOf job)
include h

lemma job?_fixed_eq (w : Nat) : (s'.job? ⟨w, job⟩).map Job.fixed = (s.job? ⟨w, job⟩).map Job.fixed := by
  rw [job?_map_fixed, job?_map_fixed, h]

lemma boltAt_fixed_eq (w i : Nat) :
    (s'.boltAt job w i).map BoltExecutor.fixed = (s.boltAt job w i).map BoltExecutor.fixed := by
  rw [boltAt_map_fixed, boltAt_map_fixed, job?_fixed_eq h]

lemma spoutAt_fixed_eq (w i : Nat) :
    (s'.spoutAt job w i).map SpoutExecutor.fixed = (s.spoutAt job w i).map SpoutExecutor.fixed := by
  rw [spoutAt_map_fixed, spoutAt_map_fixed, job?_fixed_eq h]

lemma routerAt_fixed_eq (w : Nat) (c : String) :
    (s'.routerAt job w c).map Router.fixed = (s.routerAt job w c).map Router.fixed := by
  rw [routerAt_map_fixed, routerAt_map_fixed, job?_fixed_eq h]

lemma boltAt_fixed_some {w i : Nat} {b' : BoltExecutor} (hb : s'.boltAt job w i = some b') :
    ∃ b, s.boltAt job w i = some b ∧ b'.fixed = b.fixed := by
  have := boltAt_fixed_eq h w i
  rw [hb, Option.map_some, eq_comm, Option.map_eq_some_iff] at this
  obtain ⟨b, hb, he⟩ := this
  exact ⟨b, hb, he.symm⟩

lemma spoutAt_fixed_some {w i : Nat} {sp' : SpoutExecutor} (hsp : s'.spoutAt job w i = some sp') :
    ∃ sp, s.spoutAt job w i = some sp ∧ sp'.fixed = sp.fixed := by
  have := spoutAt_fixed_eq h w i
  rw [hsp, Option.map_some, eq_comm, Option.map_eq_some_iff] at this
  obtain ⟨sp, hsp, he⟩ := this
  exact ⟨sp, hsp, he.symm⟩

lemma routerAt_fixed_some {w : Nat} {c : String} {r' : Router} (hr : s'.routerAt job w c = some r') :
    ∃ r, s.routerAt job w c = some r ∧ r'.fixed = r.fixed := by
  have := routerAt_fixed_eq h w c
  rw [hr, Option.map_some, eq_comm, Option.map_eq_some_iff] at this
  obtain ⟨r, hr, he⟩ := this
  exact ⟨r, hr, he.symm⟩

lemma link_fixed_eq : s'.link = s.link := congrArg Prod.fst h

lemma workerAt?_fixed_eq (address : String) : s'.workerAt? address = s.workerAt? address := by
  have hw := congrArg (fun x => x.2.map Prod.fst) h
  simp only [fixedOf, List.map_map] at hw
  have hl : s'.workers.length = s.workers.length := by
    simpa using congrArg List.length hw
  simp only [workerAt?, hl, getD_map_apply Worker.address, Function.comp_def] at hw ⊢
  rw [hw]

end World

namespace Job

@[simp] lemma fixed_context (j : Job) (c : JobContext) : ({ j with context := c } : Job).fixed = j.fixed :=
  rfl

lemma fixed_modifyBolts {j : Job} {i : Nat} {g : BoltExecutor → BoltExecutor}
    (hg : ∀ b, j.bolts[i]? = some b → (g b).fixed = b.fixed) :
    ({ j with bolts := j.bolts.modify i g } : Job).fixed = j.fixed := by
  simp only [fixed, mk.injEq, true_and, and_true]
  refine List.ext_getElem? fun k => ?_
  simp only [List.getElem?_map, List.getElem?_modify]
  by_cases hik : i = k
  · subst hik
    cases hb : j.bolts[i]? with
    | none => rfl
    | some b => simp [hg b hb]
  · simp [hik]

lemma fixed_modifySpouts {j : Job} {i : Nat} {g : SpoutExecutor → SpoutExecutor}
    (hg : ∀ sp, j.spouts[i]? = some sp → (g sp).fixed = sp.fixed) :
    ({ j with spouts := j.spouts.modify i g } : Job).fixed = j.fixed := by
  simp only [fixed, mk.injEq, true_and, and_true]
  refine List.ext_getElem? fun k => ?_
  simp only [List.getElem?_map, List.getElem?_modify]
  by_cases hik : i = k
  · subst hik
    cases hsp : j.spouts[i]? with
    | none => rfl
    | some sp => simp [hg sp hsp]
  · simp [hik]

lemma fixed_setRouter {j : Job} {c : String} {r : Router}
    (hr : ∀ r₀, (c, r₀) ∈ j.routers → r.fixed = r₀.fixed) : (j.setRouter c r).fixed = j.fixed := by
  simp only [fixed, setRouter, List.map_map, mk.injEq, true_and]
  refine List.map_congr_left fun e he => ?_
  obtain ⟨k, r'⟩ := e
  by_cases h : k = c
  · subst h
    simp [hr r' he]
  · simp [h]

end Job

namespace World

variable {s : World} {job : String}

lemma fixedOf_eq_of {s' : World} (hl : s'.link = s.link)
    (ha : s'.workers.map (·.address) = s.workers.map (·.address))
    (hj : ∀ w, (s'.job? ⟨w, job⟩).map Job.fixed = (s.job? ⟨w, job⟩).map Job.fixed) :
    s'.fixedOf job = s.fixedOf job := by
  simp only [fixedOf, hl, Prod.mk.injEq, true_and]
  refine List.ext_getElem? fun w => ?_
  have haw := congrArg (·[w]?) ha
  have hjw := hj w
  simp only [List.getElem?_map, job?] at haw hjw ⊢
  rcases h1 : s'.workers[w]? with _ | wk' <;> rcases h2 : s.workers[w]? with _ | wk <;> simp_all

lemma fixedOf_updJob {p : Place} {f : Job → Job} (hf : ∀ j, s.job? p = some j → (f j).fixed = j.fixed) :
    (s.updJob p f).fixedOf job = s.fixedOf job := by
  refine fixedOf_eq_of rfl
    (map_modify_of_comp (fun wk : Worker => wk.modifyJob p.job f) Worker.address (fun _ => rfl) _ _)
    fun w => ?_
  rw [job?_updJob]
  split
  · rename_i h
    rw [← h] at hf ⊢
    cases hj : s.job? ⟨w, job⟩ with
    | none => rfl
    | some j => simp [hf j hj]
  · rfl

@[simp] lemma fixedOf_markEos (q : Nat) (job' stream source : String) :
    (s.markEos q job' stream source).fixedOf job = s.fixedOf job :=
  fixedOf_eq_of rfl
    (map_modify_of_comp (fun wk : Worker => wk.markEos job' stream source) Worker.address (fun _ => rfl) _ _)
    fun w => by simp

end World

end Dataflow
