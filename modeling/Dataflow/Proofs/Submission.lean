import Dataflow.Cluster
import Dataflow.Proofs.Spec
import Dataflow.Proofs.Instantiation
import Mathlib.Data.List.TakeWhile
/-!
Submitting a job: what the master sends every worker and what the workers build from it.

The master plans one definition per address of the worker list, in list order, each with the
topology and the configuration naming the job and the address's position. Every worker then reads
from its configuration the same worker list, its own position and the same job id, which is the id
the submission returns and the one each worker registers the job under; a worker adds only its
storage directory, which none of these read.

The worker list the master offers when a submission names none is written from its status board
as `[a,b,...]`; read back by a job configuration it gives the same addresses, in board order, each
with the `http://` scheme.
-/
namespace Dataflow

/-! ### Texts -/

namespace Text

lemma splitOn_eq (sep : Char) (cs : List Char) : splitOn sep cs = cs.splitOn sep := by
  induction cs with
  | nil => rfl
  | cons c cs ih =>
    rw [splitOn, ih, List.splitOn_cons_eq_if_modifyHead]
    obtain ⟨p, ps, hp⟩ := List.exists_cons_of_ne_nil (List.splitOn_ne_nil sep cs)
    by_cases h : c = sep <;> simp [h, hp]

lemma trim_of_forall {s : String} (h : ∀ c ∈ s.toList, isBlank c = false) : trim s = s := by
  have hd : ∀ l : List Char, (∀ c ∈ l, isBlank c = false) → l.dropWhile isBlank = l :=
    fun l hl => List.dropWhile_eq_self_iff.mpr fun hl' => by simp [hl _ (List.getElem_mem hl')]
  unfold trim
  rw [hd _ h, hd _ (by simpa using h), List.reverse_reverse, String.ofList_toList]

lemma parseUnsigned_toString {n bound : Nat} (h : n ≤ bound) :
    parseUnsigned bound (trim (toString n)) = some n := by
  have hdig : ∀ c ∈ Nat.toDigits 10 n, 48 ≤ c.toNat ∧ c.toNat ≤ 57 := by
    intro c hc
    have := Nat.isDigit_of_mem_toDigits (by decide) (by decide) hc
    simp only [Char.isDigit, Bool.and_eq_true, decide_eq_true_eq, ge_iff_le, UInt32.le_iff_toNat_le] at this
    exact this
  have hval : digitsValue (Nat.toDigits 10 n) = n := by
    simpa only [digitsValue, Nat.ofDigitChars, Nat.mul_comm] using Nat.ofDigitChars_ten_toDigits (n := n)
  have hblank : ∀ c ∈ (toString n).toList, isBlank c = false := by
    intro c hc
    have := hdig c (by simpa using hc)
    simp only [isBlank, Bool.decide_or, Bool.decide_and, Bool.or_eq_false_iff, Bool.and_eq_false_iff,
      decide_eq_false_iff_not]
    omega
  rw [trim_of_forall hblank]
  obtain ⟨c, cs, hcs⟩ := List.exists_cons_of_ne_nil (Nat.toDigits_ne_nil (n := n) (b := 10))
  have hc : c ≠ '+' := fun h => by have := hdig c (by simp [hcs, h]); simp_all
  have hall : allDigits (c :: cs) = true := by
    simp only [allDigits, List.isEmpty_cons, Bool.not_false, Bool.true_and, List.all_eq_true, decide_eq_true_eq]
    intro x hx
    have := hdig x (by rw [hcs]; exact hx)
    simp only [Char.le_def, UInt32.le_iff_toNat_le]
    exact this
  simp only [parseUnsigned, Nat.toString_eq_repr, Nat.toList_repr, hcs]
  split
  · simp_all
  · rw [← hcs] at hall ⊢
    simp [hall, hval, h]

/-- A character of a `host:port` address as the master writes it: a digit, a lowercase hex
letter, a dot or a colon. -/
def hostChar (c : Char) : Bool := c.isDigit || ('a' ≤ c && c ≤ 'f') || c == '.' || c == ':'

/-- An address as the master's status board records it: an IP address in dotted or hexadecimal
form, a colon and a port. -/
def HostPort (a : String) : Prop := a.toList ≠ [] ∧ a.toList.all hostChar = true

instance (a : String) : Decidable (HostPort a) := inferInstanceAs (Decidable (_ ∧ _))

lemma hostChar_facts {c : Char} (h : hostChar c = true) :
    isBlank c = false ∧ c ≠ ',' ∧ c ≠ '[' ∧ c ≠ ']' ∧ c ≠ 'h' := by
  have hn : (48 ≤ c.toNat ∧ c.toNat ≤ 57) ∨ (97 ≤ c.toNat ∧ c.toNat ≤ 102) ∨ c.toNat = 46 ∨
      c.toNat = 58 := by
    simp only [hostChar, Char.isDigit, Bool.or_eq_true, Bool.and_eq_true, decide_eq_true_eq, beq_iff_eq,
      ge_iff_le, UInt32.le_iff_toNat_le, Char.le_def] at h
    rcases h with ((h | h) | rfl) | rfl
    · exact .inl h
    · exact .inr (.inl h)
    · exact .inr (.inr (.inl rfl))
    · exact .inr (.inr (.inr rfl))
  have hne : ∀ d : Char, c.toNat ≠ d.toNat → c ≠ d := fun d h e => h (e ▸ rfl)
  refine ⟨?_, hne ',' ?_, hne '[' ?_, hne ']' ?_, hne 'h' ?_⟩
  · simp only [isBlank, Bool.decide_or, Bool.decide_and, Bool.or_eq_false_iff, Bool.and_eq_false_iff,
      decide_eq_false_iff_not]
    omega
  all_goals simp only [Char.reduceToNat]; omega

lemma HostPort.reads {a : String} (h : HostPort a) : trim (String.ofList a.toList) = a ∧ a ≠ "" ∧
    ¬(a.startsWith "http://" = true ∨ a.startsWith "https://" = true) := by
  obtain ⟨hne, hall⟩ := h
  rw [List.all_eq_true] at hall
  obtain ⟨x, xs, hx⟩ := List.exists_cons_of_ne_nil hne
  have hxh : x ≠ 'h' := (hostChar_facts (hall x (by simp [hx]))).2.2.2.2
  refine ⟨by rw [String.ofList_toList]; exact trim_of_forall fun y hy => (hostChar_facts (hall y hy)).1,
    fun h => hne (by simp [h]), ?_⟩
  simp only [String.startsWith_string_iff, hx, show "http://".toList = 'h' :: "ttp://".toList from rfl,
    show "https://".toList = 'h' :: "ttps://".toList from rfl, List.cons_prefix_cons, Ne.symm hxh, false_and,
    or_self, not_false_eq_true]

end Text

lemma mem_intercalate {α : Type} {sep : List α} {c : α} :
    ∀ {ls : List (List α)}, c ∈ sep.intercalate ls → c ∈ sep ∨ ∃ l ∈ ls, c ∈ l
  | [], h => by simp at h
  | [l], h => .inr ⟨l, by simp, by simpa using h⟩
  | l :: l' :: rest, h => by
    rw [List.intercalate_cons_cons] at h
    rcases List.mem_append.mp h with h | h
    · rcases List.mem_append.mp h with h | h
      · exact .inr ⟨l, by simp, h⟩
      · exact .inl h
    · rcases mem_intercalate h with h | ⟨l'', hl, hc⟩
      · exact .inl h
      · exact .inr ⟨l'', List.mem_cons_of_mem _ hl, hc⟩

/-! ### Job configurations -/

namespace JobConfig

lemma insert_go (k v : String) : ∀ l, insert.go k v l = Keyed.insert k v l
  | [] => rfl
  | (k', v') :: rest => by simp only [insert.go, Keyed.insert, insert_go k v rest]

lemma get?_insert (c : JobConfig) (k v j : String) :
    (c.insert k v).get? j = if j = k then some v else c.get? j := by
  simp only [get?, insert, insert_go]
  split
  · subst_vars
    exact Keyed.lookup_insert_self _ _ _
  · exact Keyed.lookup_insert_of_ne ‹_› _ _

lemma workers_congr {c c' : JobConfig} (h : c'.get? workerListKey = c.get? workerListKey) :
    c'.workers = c.workers := by
  simp only [workers, require, h]

lemma workerIndex_congr {c c' : JobConfig} (hl : c'.get? workerListKey = c.get? workerListKey)
    (hi : c'.get? workerIndexKey = c.get? workerIndexKey) : c'.workerIndex = c.workerIndex := by
  simp only [workerIndex, requireCount, require, hi, workers_congr hl]

lemma jobId?_congr {c c' : JobConfig} (hi : c'.get? jobIdKey = c.get? jobIdKey)
    (hj : c'.get? jobKey = c.get? jobKey) : c'.jobId? = c.jobId? := by
  simp only [jobId?, hi, hj]

lemma workerIndex_of_get? {c : JobConfig} {i : Nat} {addrs : List String}
    (hi : c.get? workerIndexKey = some (toString i)) (hw : c.workers = .ok addrs)
    (hlt : i < addrs.length) (hb : i ≤ Text.wordMax 64) : c.workerIndex = .ok i := by
  have hn : ¬ addrs.length ≤ i := by omega
  simp only [workerIndex, requireCount, require, hi, hw, bind, Except.bind, Text.parseUnsigned_toString hb,
    pure, Except.pure, hn, if_false]

lemma unbracket {l : List Char} (h : ∀ x ∈ l, x ≠ '[' ∧ x ≠ ']') :
    ((('[' :: (l ++ [']'])).dropWhile (· = '[')).reverse.dropWhile (· = ']')).reverse = l := by
  have hopen : (l ++ [']']).dropWhile (· = '[') = l ++ [']'] := by
    rw [List.dropWhile_eq_self_iff]
    intro hl
    rcases l with _ | ⟨x, l'⟩
    · simp
    · simpa using (h x (by simp)).1
  rw [List.dropWhile_cons_of_pos (by simp), hopen, List.reverse_append, List.reverse_singleton,
    List.singleton_append, List.dropWhile_cons_of_pos (by simp), List.dropWhile_eq_self_iff.mpr,
    List.reverse_reverse]
  intro hl
  simpa using (h _ (List.mem_reverse.mp (List.getElem_mem hl))).2

open Text in
/-- A written worker list reads back: `[a,b,...]` of `host:port` addresses gives the same
addresses, in order, each with the `http://` scheme. -/
theorem workers_insert_written (c : JobConfig) {as : List String} (hne : as ≠ [])
    (has : ∀ a ∈ as, HostPort a) :
    (c.insert workerListKey ("[" ++ ",".intercalate as ++ "]")).workers =
      .ok (as.map ("http://" ++ ·)) := by
  obtain ⟨Y, hY⟩ : ∃ Y, Y = [','].intercalate (as.map String.toList) := ⟨_, rfl⟩
  have hchar : ∀ x ∈ Y, x = ',' ∨ hostChar x = true := by
    intro x hx
    rw [hY] at hx
    rcases mem_intercalate hx with h | ⟨l, hl, hx⟩
    · exact .inl (by simpa using h)
    · obtain ⟨a, ha, rfl⟩ := List.mem_map.mp hl
      exact .inr (List.all_eq_true.mp (has a ha).2 x hx)
  have hsplit : Text.splitOn ',' Y = as.map String.toList := by
    rw [Text.splitOn_eq, hY]
    refine List.splitOn_intercalate ',' ?_ (by simpa using hne)
    intro l hl hc
    obtain ⟨a, ha, rfl⟩ := List.mem_map.mp hl
    exact (hostChar_facts (List.all_eq_true.mp (has a ha).2 ',' hc)).2.1 rfl
  have htext : ("[" ++ ",".intercalate as ++ "]").toList = '[' :: (Y ++ [']']) := by
    simp [hY, String.toList_intercalate]
  have hfacts : ∀ x ∈ Y, isBlank x = false ∧ x ≠ '[' ∧ x ≠ ']' := by
    intro x hx
    rcases hchar x hx with rfl | h
    · decide
    · obtain ⟨h1, -, h2, h3, -⟩ := hostChar_facts h
      exact ⟨h1, h2, h3⟩
  have htrim : trim ("[" ++ ",".intercalate as ++ "]") = "[" ++ ",".intercalate as ++ "]" := by
    refine trim_of_forall fun x hx => ?_
    rw [htext] at hx
    simp only [List.mem_cons, List.mem_append, List.not_mem_nil, or_false] at hx
    rcases hx with rfl | hx | rfl
    · decide
    · exact (hfacts x hx).1
    · decide
  have hentry : (as.map String.toList).map (fun piece => trim (String.ofList piece)) = as := by
    rw [List.map_map, List.map_congr_left (g := id) fun a ha => by exact (has a ha).reads.1, List.map_id]
  have hfilter : as.filter (fun x => decide (x ≠ "")) = as :=
    List.filter_eq_self.mpr fun a ha => by simpa using (has a ha).reads.2.1
  have hscheme : as.map (fun w => if w.startsWith "http://" = true ∨ w.startsWith "https://" = true then w
      else "http://" ++ w) = as.map ("http://" ++ ·) :=
    List.map_congr_left fun a ha => if_neg (has a ha).reads.2.2
  have hempty : (as.map ("http://" ++ ·)).isEmpty = false := by
    simpa using hne
  simp only [workers, require, get?_insert, if_true, bind, Except.bind, htrim, htext,
    unbracket fun x hx => (hfacts x hx).2, hsplit, hentry, hfilter, hscheme, hempty]
  rfl

end JobConfig

lemma Worker.get?_jobConfig (wk : Worker) (c : JobConfig) {k : String} (hk : k ≠ JobConfig.storageKey) :
    (wk.jobConfig c).get? k = c.get? k := by
  unfold Worker.jobConfig
  split
  · split
    · rfl
    · rw [JobConfig.get?_insert, if_neg hk]
  · rfl

lemma Worker.jobConfig_reads (wk : Worker) (c : JobConfig) :
    (wk.jobConfig c).workers = c.workers ∧ (wk.jobConfig c).workerIndex = c.workerIndex ∧
      (wk.jobConfig c).jobId? = c.jobId? :=
  ⟨JobConfig.workers_congr (wk.get?_jobConfig c (by decide)),
    JobConfig.workerIndex_congr (wk.get?_jobConfig c (by decide)) (wk.get?_jobConfig c (by decide)),
    JobConfig.jobId?_congr (wk.get?_jobConfig c (by decide)) (wk.get?_jobConfig c (by decide))⟩

lemma StatusBoard.workerList?_of_ne_nil {b : StatusBoard} (h : b.reports ≠ []) :
    b.workerList? = some ("[" ++ ",".intercalate (b.reports.map (·.1)) ++ "]") := by
  simp [StatusBoard.workerList?, h]

/-! ### Defining and submitting -/

namespace Run

variable {s : World}

lemma spec_submitJob {topology : Topology} {config : JobConfig} {P : Submission}
    (hP : Submission.plan topology config ("job-" ++ Uuid.fresh (s.serial + 1)) = .ok P) :
    Spec (submitJob topology config) s fun r _ => ∀ id, r = .ok id → id = P.job := by
  simp only [submitJob, spec_bind, spec_get, spec_ofExcept, hP]
  have herr : ∀ (e : Fault) (_ : World) (id : String), (.error e : Except Fault String) = .ok id → id = P.job :=
    fun _ _ _ h => by cases h
  -- whatever the two rounds of requests do, a normal end returns the planned id
  have hend : ∀ (y z : Run PUnit) s', Spec (y >>= fun _ => z >>= fun _ => pure P.job) s'
      fun r _ => ∀ id, r = .ok id → id = P.job :=
    fun _ _ _ => spec_bind_of (fun _ _ => spec_bind_of (fun _ _ id h => by cases h; rfl) herr) herr
  split
  · exact spec_bind_of (fun _ _ => hend _ _ _) herr
  · exact hend _ _ s

lemma spec_defineJob {w : Nat} {d : JobDefinition} {job : String}
    (hj : ∀ wk : Worker, (wk.jobConfig d.config).jobId? = some job) :
    Spec (defineJob w d) s fun r s' => ∀ id, r = .ok id → id = job ∧ ∃ wk j, s.workers[w]? = some wk ∧
      Job.instantiate s.disk (fun n => Uuid.executor (s.made + n + 1)) job (wk.jobConfig d.config) d.topology =
        .done j ∧ s'.job? ⟨w, job⟩ = some j := by
  simp only [defineJob, spec_bind, spec_get, spec_worker]
  intro wk hwk
  simp only [hj]
  split
  · simp only [spec_bind, spec_throw]
    intro id h
    cases h
  · split
    · rename_i j hinst
      simp only [spec_bind, spec_modifyWorker, spec_modify, Bool.false_eq_true, if_false, spec_pure]
      intro id h
      cases h
      refine ⟨rfl, wk, j, hwk, hinst, ?_⟩
      simp [World.job?, hwk, Worker.install, Worker.job?]
    · simp only [spec_bind, spec_modifyWorker, spec_modify, spec_throw]
      intro id h
      cases h
    · exact spec_crash _

end Run

namespace Submission

variable {topology : Topology} {config : JobConfig} {addrs : List String}

/-- The configuration the worker at position `i` is sent: the job id under `job` and the position
under `workerIndex`. -/
def configAt (config : JobConfig) (job : String) (i : Nat) : JobConfig :=
  (config.insert JobConfig.jobKey job).insert JobConfig.workerIndexKey (toString i)

lemma plan_spec (hv : topology.validate = .ok ()) (hw : config.workers = .ok addrs) (fresh : String) :
    ∃ P, plan topology config fresh = .ok P ∧ P.job = config.jobId?.getD fresh ∧
      ∀ i, P.definitions[i]? =
        addrs[i]?.map fun a => (a, ({ topology, config := configAt config P.job i } : JobDefinition)) := by
  refine ⟨_, by simp only [plan, hv, hw, bind, Except.bind, pure, Except.pure]; exact rfl, rfl, fun i => ?_⟩
  simp only [List.getElem?_map]
  rcases Nat.lt_or_ge i addrs.length with hi | hi
  · have hz : ((List.range addrs.length).zip addrs)[i]? = some (i, addrs[i]) :=
      List.getElem?_zip_eq_some.mpr ⟨by simp [hi], List.getElem?_eq_getElem hi⟩
    rw [hz, List.getElem?_eq_getElem hi]
    rfl
  · rw [List.getElem?_eq_none (by simpa using hi), List.getElem?_eq_none hi]
    rfl

lemma configAt_get?_of_ne (config : JobConfig) (job : String) (i : Nat) {k : String}
    (hj : k ≠ JobConfig.jobKey) (hi : k ≠ JobConfig.workerIndexKey) :
    (configAt config job i).get? k = config.get? k := by
  rw [configAt, JobConfig.get?_insert, if_neg hi, JobConfig.get?_insert, if_neg hj]

lemma jobId?_configAt (config : JobConfig) (fresh : String) (i : Nat) :
    (configAt config (config.jobId?.getD fresh) i).jobId? = some (config.jobId?.getD fresh) := by
  have hid := configAt_get?_of_ne config (config.jobId?.getD fresh) i (k := JobConfig.jobIdKey)
    (by decide) (by decide)
  have hjob : (configAt config (config.jobId?.getD fresh) i).get? JobConfig.jobKey =
      some (config.jobId?.getD fresh) := by
    rw [configAt, JobConfig.get?_insert, if_neg (by decide), JobConfig.get?_insert, if_pos rfl]
  -- `jobID` is kept when present; otherwise `job` now holds the id
  rw [show ∀ c : JobConfig, c.jobId? = (c.get? JobConfig.jobIdKey).orElse fun _ => c.get? JobConfig.jobKey
    from fun _ => rfl, hid, hjob]
  cases h : config.get? JobConfig.jobIdKey <;> simp [JobConfig.jobId?, h]

lemma configAt_reads (hw : config.workers = .ok addrs) (fresh : String) {i : Nat}
    (hi : i < addrs.length) (hb : i ≤ Text.wordMax 64) :
    (configAt config (config.jobId?.getD fresh) i).workers = .ok addrs ∧
      (configAt config (config.jobId?.getD fresh) i).workerIndex = .ok i ∧
      (configAt config (config.jobId?.getD fresh) i).jobId? = some (config.jobId?.getD fresh) := by
  have hws : (configAt config (config.jobId?.getD fresh) i).workers = .ok addrs :=
    (JobConfig.workers_congr (configAt_get?_of_ne _ _ _ (by decide) (by decide))).trans hw
  refine ⟨hws, JobConfig.workerIndex_of_get? ?_ hws hi hb, jobId?_configAt config fresh i⟩
  rw [configAt, JobConfig.get?_insert, if_pos rfl]

end Submission

/-- Master and workers agree on a submitted job. For a valid topology and a configuration whose
worker list reads as `addrs` (a list of positions that fit a machine word), the master plans one
definition per address, in list order, and the job id it returns is the planned one; the
configuration sent to position `i` reads as position `i` of the same worker list, under the planned
job id, and a worker that defines it registers the job under that id, wired for that worker list
and position. The worker list the status board writes reads back as its addresses with the
`http://` scheme. -/
theorem submitted_job_agrees {topology : Topology} {config : JobConfig} {addrs : List String} (s : World)
    (hv : topology.validate = .ok ()) (hw : config.workers = .ok addrs)
    (hcount : addrs.length ≤ Nat.pow 2 64) :
    (∃ P, Submission.plan topology config ("job-" ++ Uuid.fresh (s.serial + 1)) = .ok P ∧
      (∀ id s', (Run.submitJob topology config).run.run s = .ok (.ok id, s') → id = P.job) ∧
      P.definitions.map (·.1) = addrs ∧
      ∀ i a d, P.definitions[i]? = some (a, d) → d.topology = topology ∧
        d.config.workerIndex = .ok i ∧ d.config.workers = .ok addrs ∧ d.config.jobId? = some P.job ∧
        ∀ w s₁ id s₂, (Run.defineJob w d).run.run s₁ = .ok (.ok id, s₂) →
          id = P.job ∧ ∃ j batch, s₂.job? ⟨w, P.job⟩ = some j ∧ Job.Instance topology P.job addrs i batch j) ∧
    ∀ (b : StatusBoard) (c : JobConfig), b.reports ≠ [] → (∀ r ∈ b.reports, Text.HostPort r.1) →
      ∃ l, b.workerList? = some l ∧
        (c.insert JobConfig.workerListKey l).workers = .ok (b.reports.map fun r => "http://" ++ r.1) := by
  refine ⟨?_, fun b c hne has => ⟨_, StatusBoard.workerList?_of_ne_nil hne, ?_⟩⟩
  · obtain ⟨P, hP, hjob, hdefs⟩ := Submission.plan_spec hv hw ("job-" ++ Uuid.fresh (s.serial + 1))
    refine ⟨P, hP, fun id s' hrun => (Run.spec_submitJob hP).of_run hrun id rfl, ?_, fun i a d hd => ?_⟩
    · refine List.ext_getElem? fun i => ?_
      rw [List.getElem?_map, hdefs i]
      cases addrs[i]? <;> rfl
    · rw [hdefs i, Option.map_eq_some_iff] at hd
      obtain ⟨a', ha, he⟩ := hd
      obtain ⟨rfl, rfl⟩ := Prod.mk.inj he
      have hi : i < addrs.length := (List.getElem?_eq_some_iff.mp ha).1
      have hb : i ≤ Text.wordMax 64 := by
        unfold Text.wordMax
        omega
      obtain ⟨hws, hidx, hid⟩ := Submission.configAt_reads hw ("job-" ++ Uuid.fresh (s.serial + 1)) hi hb
      rw [← hjob] at hws hidx hid
      refine ⟨rfl, hidx, hws, hid, fun w s₁ id s₂ hrun => ?_⟩
      have hj : ∀ wk : Worker, (wk.jobConfig (Submission.configAt config P.job i)).jobId? = some P.job :=
        fun wk => (wk.jobConfig_reads _).2.2.trans hid
      obtain ⟨rfl, wk, j, -, hinst, hj'⟩ :=
        (Run.spec_defineJob (s := s₁) (d := ⟨topology, Submission.configAt config P.job i⟩) hj).of_run hrun id rfl
      -- the worker instantiated the job from the list and position it reads
      obtain ⟨addresses, position, batch, -, hwa, hpa, -, hinstance⟩ := Job.Instance.of_instantiate hinst
      obtain ⟨hww, hwi, -⟩ := wk.jobConfig_reads (Submission.configAt config P.job i)
      rw [hww, hws, Except.ok.injEq] at hwa
      rw [hwi, hidx, Except.ok.injEq] at hpa
      subst hwa hpa
      exact ⟨rfl, j, batch, hj', hinstance⟩
  · rw [JobConfig.workers_insert_written c (by simpa using hne) (by simpa using has), List.map_map]
    rfl

def pairTopology : Topology :=
  { spouts := [("records", ⟨"records", 1⟩)], bolts := [("map", ⟨"map", 2, "records", .shuffle⟩)] }

def pairHosts : List String := ["10.0.0.1:8001", "10.0.0.2:8002"]

def pairConfig : JobConfig :=
  ({} : JobConfig).insert JobConfig.workerListKey ("[" ++ ",".intercalate pairHosts ++ "]")

/-- Submitted to two workers, the second is sent its own position in the shared list. -/
theorem submitted_pair_agrees : pairTopology.validate = .ok () ∧
    pairConfig.workers = .ok (pairHosts.map ("http://" ++ ·)) ∧
    (pairHosts.map ("http://" ++ ·)).length ≤ Nat.pow 2 64 ∧
    ∃ P, Submission.plan pairTopology pairConfig ("job-" ++ Uuid.fresh 1) = .ok P ∧
      ∀ d, P.definitions[1]? = some ("http://10.0.0.2:8002", d) →
        d.config.workerIndex = .ok 1 ∧ d.config.workers = .ok (pairHosts.map ("http://" ++ ·)) := by
  have hv : pairTopology.validate = .ok () := rfl
  have hw : pairConfig.workers = .ok (pairHosts.map ("http://" ++ ·)) :=
    JobConfig.workers_insert_written {} (by decide) (by decide)
  have hc : (pairHosts.map ("http://" ++ ·)).length ≤ Nat.pow 2 64 := by decide
  obtain ⟨⟨P, hP, -, -, hdefs⟩, -⟩ := submitted_job_agrees default hv hw hc
  exact ⟨hv, hw, hc, P, hP, fun d hd => ⟨(hdefs 1 _ d hd).2.1, (hdefs 1 _ d hd).2.2.1⟩⟩

end Dataflow
