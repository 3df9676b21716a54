import Mathlib
import Dataflow.Definition
import Dataflow.Proofs.Ledger
import Dataflow.Proofs.Submission
/-!
The wire forms read back. Reading a parsed value against the shape of a library type and then
building the value gives back what was written, for every tuple, grouping, topology, job
configuration and job definition the library can hold: field names without repeats, nodes and
configuration keys in increasing order, one entry per name, and executor counts that fit a
machine word. Texts are parsed and printed by the JSON layer, which is taken to keep values as
they are.

Field names keep the first occurrence of every name, in order, so they have no repeats and
building them again from their own list changes nothing. A tuple slot is written as a string or
as an array of strings and read back as the same kind. For tuples and groupings the round trip
holds exactly when the field names have no repeats: repeats are dropped on reading.
-/
namespace Dataflow

namespace Json

/-- A value that reading against `s` gives back unchanged, with any fuel from `n` on. -/
def ReadsBack (s : Shape) (n : Nat) (j : Json) : Prop := ∀ fuel, n ≤ fuel → read fuel s j = .ok j

namespace ReadsBack

lemma mono {s : Shape} {n m : Nat} {j : Json} (h : ReadsBack s n j) (hle : n ≤ m) : ReadsBack s m j :=
  fun fuel hf => h fuel (hle.trans hf)

lemma string (x : String) : ReadsBack .string 1 (.str x) := by
  rintro (_ | fuel) hf
  · omega
  · rw [read]

lemma boolean (b : Bool) : ReadsBack .boolean 1 (.bool b) := by
  rintro (_ | fuel) hf
  · omega
  · rw [read]

lemma unsigned {name : String} {bound n : Nat} (h : n ≤ bound) :
    ReadsBack (.unsigned name bound) 1 (.nat n) := by
  rintro (_ | fuel) hf
  · omega
  · rw [read, checkUnsigned, if_pos h]

lemma slot {j : Json} (h : readSlot j = .ok j) : ReadsBack .slot 1 j := by
  rintro (_ | fuel) hf
  · omega
  · rw [read]
    exact h

lemma readValue {s : Shape} {n : Nat} {j : Json} (h : ReadsBack s n j) (hn : n ≤ shapeFuel) :
    s.readValue j = .ok j :=
  h shapeFuel hn

end ReadsBack

lemma readItems_of_forall {fuel : Nat} {item : Shape} :
    ∀ {items : List Json}, (∀ x ∈ items, read fuel item x = .ok x) → readItems fuel item items = .ok items
  | [], _ => by rw [readItems]
  | x :: rest, h => by
    rw [readItems, h x List.mem_cons_self,
      readItems_of_forall fun y hy => h y (List.mem_cons_of_mem _ hy)]
    rfl

lemma ReadsBack.seq {item : Shape} {n : Nat} {items : List Json} (h : ∀ x ∈ items, ReadsBack item n x) :
    ReadsBack (.seq item) (n + 1) (.arr items) := by
  rintro (_ | fuel) hf
  · omega
  · rw [read, readItems_of_forall fun x hx => h x hx fuel (by omega)]
    rfl

lemma readMap_of_forall {fuel : Nat} {item : Shape} :
    ∀ {ms : List (String × Json)}, (∀ m ∈ ms, read fuel item m.2 = .ok m.2) → readMap fuel item ms = .ok ms
  | [], _ => by rw [readMap]
  | (k, x) :: rest, h => by
    rw [readMap, h (k, x) List.mem_cons_self,
      readMap_of_forall fun m hm => h m (List.mem_cons_of_mem _ hm)]
    rfl

lemma insertMember_eq (k : String) (v : Json) : ∀ ms, insertMember k v ms = Keyed.insert k v ms
  | [] => rfl
  | (k', v') :: rest => by simp only [insertMember, Keyed.insert, insertMember_eq k v rest]

end Json

namespace Keyed

variable {α : Type}

lemma insert_of_lt {k : String} {v : α} :
    ∀ {xs : List (String × α)}, (∀ e ∈ xs, e.1 < k) → insert k v xs = xs ++ [(k, v)]
  | [], _ => rfl
  | (k', v') :: rest, h => by
    have hlt : k' < k := h _ List.mem_cons_self
    rw [insert, if_neg (ne_of_gt hlt), if_neg (not_lt_of_gt hlt),
      insert_of_lt fun e he => h e (List.mem_cons_of_mem _ he)]
    rfl

lemma foldl_insert_of_ordered :
    ∀ (acc : List (String × α)) {xs : List (String × α)}, Ordered (acc ++ xs) →
      xs.foldl (fun acc e => insert e.1 e.2 acc) acc = acc ++ xs
  | acc, [], _ => by simp
  | acc, (k, v) :: rest, h => by
    have hlt : ∀ e ∈ acc, e.1 < k := fun e he =>
      (List.pairwise_append.mp h).2.2 e he (k, v) List.mem_cons_self
    have hrest : Ordered ((acc ++ [(k, v)]) ++ rest) := by simpa using h
    rw [List.foldl_cons, insert_of_lt hlt, foldl_insert_of_ordered _ hrest]
    simp

end Keyed

namespace Json

lemma asMap_of_ordered {ms : List (String × Json)} (h : Keyed.Ordered ms) : asMap ms = ms := by
  unfold asMap
  simp only [insertMember_eq]
  exact Keyed.foldl_insert_of_ordered [] (by simpa using h)

lemma ReadsBack.map {item : Shape} {n : Nat} {ms : List (String × Json)}
    (h : ∀ m ∈ ms, ReadsBack item n m.2) (ho : Keyed.Ordered ms) :
    ReadsBack (.map item) (n + 1) (.obj ms) := by
  rintro (_ | fuel) hf
  · omega
  · rw [read, readMap_of_forall fun m hm => h m hm fuel (by omega)]
    simp [Except.map, asMap_of_ordered ho]

variable {fuel n : Nat} {fields : List (String × Shape × Option Json)}

lemma readFields_of_named :
    ∀ {ms : List (String × Json)} (found : List (String × Json)),
      (∀ m ∈ ms, ∃ s, fieldShape fields m.1 = some s ∧ read fuel s m.2 = .ok m.2) →
      (ms.map (·.1)).Nodup → (∀ m ∈ ms, found.lookup m.1 = none) →
      readFields fuel fields ms found = .ok (found ++ ms)
  | [], found, _, _, _ => by rw [readFields]; simp
  | (k, x) :: rest, found, h, hnd, hfresh => by
    obtain ⟨s, hs, hx⟩ := h (k, x) List.mem_cons_self
    have hk : found.lookup k = none := hfresh (k, x) List.mem_cons_self
    simp only [List.map_cons, List.nodup_cons, List.mem_map] at hnd
    have hrest : ∀ m ∈ rest, (found ++ [(k, x)]).lookup m.1 = none := by
      intro m hm
      have hne : (m.1 == k) = false := by simpa using fun he => hnd.1 ⟨m, hm, he⟩
      simp [List.lookup_append, hfresh m (List.mem_cons_of_mem _ hm), List.lookup_cons, hne]
    rw [readFields, hs]
    simp only [hk, Option.isSome_none, Bool.false_eq_true, if_false, hx, bind, Except.bind]
    rw [readFields_of_named _ (fun m hm => h m (List.mem_cons_of_mem _ hm)) hnd.2 hrest]
    simp

lemma fieldShape_isSome {name : String} :
    ∀ {fields : List (String × Shape × Option Json)}, name ∈ fields.map (·.1) →
      ∃ s, fieldShape fields name = some s
  | [], h => by simp at h
  | f :: rest, h => by
    by_cases hf : f.1 = name
    · exact ⟨f.2.1, by simp [fieldShape, hf]⟩
    · have hrest : name ∈ rest.map (·.1) := by
        simp only [List.map_cons, List.mem_cons] at h
        exact h.resolve_left (Ne.symm hf)
      obtain ⟨s, hs⟩ := fieldShape_isSome hrest
      refine ⟨s, ?_⟩
      simp only [fieldShape, List.find?_cons, hf, decide_false] at hs ⊢
      exact hs

lemma assemble_of_lookup {found : List (String × Json)} :
    ∀ {fields : List (String × Shape × Option Json)} {ms : List (String × Json)},
      ms.map (·.1) = fields.map (·.1) → (∀ m ∈ ms, found.lookup m.1 = some m.2) →
      assemble fields found = .ok ms
  | [], [], _, _ => rfl
  | [], _ :: _, h, _ => by simp at h
  | _ :: _, [], h, _ => by simp at h
  | f :: fs, m :: ms, hnames, hfound => by
    simp only [List.map_cons, List.cons.injEq] at hnames
    have hm : found.lookup f.1 = some m.2 := hnames.1 ▸ hfound m List.mem_cons_self
    have hrest := assemble_of_lookup hnames.2 fun m' hm' => hfound m' (List.mem_cons_of_mem _ hm')
    unfold assemble at hrest ⊢
    rw [List.mapM_cons, hrest]
    obtain ⟨name, s, d⟩ := f
    obtain ⟨k, v⟩ := m
    simp only at hm hnames
    obtain ⟨rfl, -⟩ := hnames
    simp [hm, bind, Except.bind, pure, Except.pure]

lemma ReadsBack.record {e : String} {ms : List (String × Json)}
    (hnames : ms.map (·.1) = fields.map (·.1)) (hnd : (fields.map (·.1)).Nodup)
    (h : ∀ m ∈ ms, ∀ s, fieldShape fields m.1 = some s → ReadsBack s n m.2) :
    ReadsBack (.record e fields) (n + 1) (.obj ms) := by
  rintro (_ | fuel) hf
  · omega
  have hnd' : (ms.map (·.1)).Nodup := hnames ▸ hnd
  have hnamed : ∀ m ∈ ms, ∃ s, fieldShape fields m.1 = some s ∧ read fuel s m.2 = .ok m.2 := by
    intro m hm
    obtain ⟨s, hs⟩ := fieldShape_isSome (hnames ▸ List.mem_map_of_mem hm : m.1 ∈ fields.map (·.1))
    exact ⟨s, hs, h m hm s hs fuel (by omega)⟩
  have hfound := readFields_of_named [] hnamed hnd' (by simp)
  rw [read]
  simp only [hfound, List.nil_append, bind, Except.bind,
    assemble_of_lookup hnames fun m hm => lookup_eq_some_of_mem hnd' hm]
  rfl

lemma ReadsBack.strs (xs : List String) : ReadsBack (.seq .string) 2 (.strs xs) :=
  ReadsBack.seq fun x hx => by
    obtain ⟨s, -, rfl⟩ := List.mem_map.mp hx
    exact ReadsBack.string s

end Json

namespace Fields

lemma foldl_keepFirst (names : List String) : ∀ acc : List String,
    names.foldl (fun acc n => if acc.contains n then acc else acc ++ [n]) acc =
      acc ++ (names.removeAll acc).eraseDups := by
  induction names with
  | nil => intro acc; simp [List.removeAll]
  | cons n rest ih =>
    intro acc
    rw [List.foldl_cons]
    by_cases hn : n ∈ acc
    · have hc : acc.contains n = true := by simpa using hn
      rw [if_pos hc, ih]
      simp [List.removeAll, hn]
    · rw [if_neg (by simp [hn]), ih, List.append_assoc]
      -- a new name is kept, and its later repeats are dropped along with the names before it
      have hfilter : (rest.removeAll acc).filter (fun b => !b == n) = rest.removeAll (acc ++ [n]) := by
        simp only [List.removeAll, List.filter_filter, List.elem_eq_mem, List.mem_append,
          List.mem_singleton]
        congr 1
        funext x
        by_cases hx : x ∈ acc <;> by_cases hxn : x = n <;> simp [hx, hxn]
      have hkeep : (n :: rest).removeAll acc = n :: rest.removeAll acc := by
        simp [List.removeAll, hn]
      rw [hkeep, List.eraseDups_cons, hfilter]
      rfl

lemma names_ofList (names : List String) : (ofList names).names = names.eraseDups := by
  have h := foldl_keepFirst names []
  simp only [List.removeAll, List.elem_nil, Bool.not_false, List.filter_true, List.nil_append] at h
  exact h

lemma nodup_foldl (names : List String) : ∀ acc : List String, acc.Nodup →
    (names.foldl (fun acc n => if acc.contains n then acc else acc ++ [n]) acc).Nodup := by
  induction names with
  | nil => exact fun _ h => h
  | cons n rest ih =>
    intro acc hacc
    rw [List.foldl_cons]
    apply ih
    split
    · exact hacc
    · rename_i hn
      refine List.nodup_append.mpr ⟨hacc, List.nodup_singleton n, ?_⟩
      simp only [List.mem_singleton]
      rintro a ha b rfl rfl
      simp_all

lemma nodup_ofList (names : List String) : (ofList names).names.Nodup :=
  nodup_foldl names [] List.nodup_nil

lemma foldl_of_nodup (names : List String) : ∀ acc : List String, (acc ++ names).Nodup →
    names.foldl (fun acc n => if acc.contains n then acc else acc ++ [n]) acc = acc ++ names := by
  induction names with
  | nil => intro acc _; simp
  | cons n rest ih =>
    intro acc h
    have hn : n ∉ acc := fun hn => (List.nodup_append.mp h).2.2 n hn n List.mem_cons_self rfl
    rw [List.foldl_cons, if_neg (by simp [hn]), ih (acc ++ [n]) (by simpa using h)]
    simp

lemma ofList_of_nodup {names : List String} (h : names.Nodup) : ofList names = ⟨names⟩ := by
  rw [ofList, foldl_of_nodup names [] (by simpa using h), List.nil_append]

lemma ofForm_strs (names : List String) : ofForm (.strs names) = ofList names := by
  simp [ofForm, Json.strs, List.filterMap_map]

end Fields

namespace Datum

lemma readSlot_toJson (d : Datum) : Json.readSlot d.toJson = .ok d.toJson := by
  cases d with
  | text s => rfl
  | list items => simp [toJson, Json.strs, Json.readSlot]

lemma ofJson_toJson (d : Datum) : ofJson d.toJson = d := by
  cases d with
  | text s => rfl
  | list items => simp [toJson, ofJson, Json.strs, List.filterMap_map]

end Datum

namespace Tuple

lemma make_eq_ok_iff {fields : Fields} {values : List Datum} {source : String} {t : Tuple} :
    make fields values source = .ok t ↔
      fields.names.length = values.length ∧ t = { fields, values, source } := by
  unfold make Fields.size
  split
  · simp_all [eq_comm]
  · simp_all

lemma get?_field {t : Tuple} (h : t.fields.names.Nodup) {i : Nat} (hi : i < t.fields.names.length) :
    t.get? t.fields.names[i] = t.values[i]? := by
  have hidx : t.fields.indexOf? t.fields.names[i] = some i := by
    rw [Fields.indexOf?, List.findIdx?_eq_some_iff_getElem]
    refine ⟨hi, by simp, fun j hj => ?_⟩
    simp only [beq_iff_eq, h.getElem_inj_iff]
    omega
  rw [get?, hidx, Option.bind_some]

lemma readsBack (t : Tuple) : Json.ReadsBack shape 3 t.toJson := by
  apply Json.ReadsBack.record rfl (by decide)
  simp only [List.mem_cons, List.not_mem_nil, or_false]
  rintro m (rfl | rfl | rfl | rfl) s hs <;> simp [Json.fieldShape] at hs <;> subst hs
  · exact Json.ReadsBack.strs _
  · exact Json.ReadsBack.seq fun x hx => by
      obtain ⟨d, -, rfl⟩ := List.mem_map.mp hx
      exact (Json.ReadsBack.slot (Datum.readSlot_toJson d)).mono (by omega)
  · exact (Json.ReadsBack.string _).mono (by omega)
  · exact (Json.ReadsBack.boolean _).mono (by omega)

lemma ofForm_toJson (t : Tuple) : ofForm t.toJson = { t with fields := Fields.ofList t.fields.names } := by
  simp [ofForm, toJson, Json.field?, Fields.ofForm_strs, List.lookup_cons, Function.comp_def,
    Datum.ofJson_toJson]

lemma readJson_toJson_iff (t : Tuple) : readJson t.toJson = .ok t ↔ t.fields.names.Nodup := by
  rw [readJson, t.readsBack.readValue (by decide)]
  simp only [Except.map, ofForm_toJson, Except.ok.injEq]
  constructor
  · intro h
    rw [← h]
    exact Fields.nodup_ofList _
  · intro h
    rw [Fields.ofList_of_nodup h]

end Tuple

namespace Grouping

/-- The field names a grouping keys on: those of a fields grouping, none for the others. -/
def keyNames : Grouping → List String
  | fields names => names.names
  | _ => []

lemma readsBack (g : Grouping) : Json.ReadsBack shape 4 g.toJson := by
  rintro (_ | fuel) hf
  · omega
  cases g with
  | fields names =>
    -- the tag names the variant, and the other members are read as the variant's record
    have hpayload : Json.ReadsBack (.record "struct variant Grouping::Fields" [("fields", Fields.shape, none)])
        3 (.obj [("fields", .strs names.names)]) := by
      apply Json.ReadsBack.record rfl (by decide)
      simp only [List.mem_singleton]
      rintro m rfl s hs
      simp only [Json.fieldShape, List.find?_cons, decide_true, Option.map_some, Option.some.injEq] at hs
      exact hs ▸ Json.ReadsBack.strs names.names
    simp only [shape, toJson]
    rw [Json.read]
    simp [Json.readTag, Json.variantNamed, bind, Except.bind, hpayload fuel (by omega)]
    rfl
  | broadcast | shuffle =>
    simp only [shape, toJson]
    rw [Json.read]
    simp [Json.readTag, Json.variantNamed, List.lookup_cons, bind, Except.bind]
    rfl

lemma ofForm_toJson (g : Grouping) (h : g.keyNames.Nodup) : ofForm g.toJson = g := by
  cases g with
  | fields names =>
    simp [ofForm, toJson, Json.field?, List.lookup_cons, Fields.ofForm_strs,
      Fields.ofList_of_nodup (show names.names.Nodup from h)]
  | broadcast => rfl
  | shuffle => rfl

lemma readJson_toJson_iff (g : Grouping) : readJson g.toJson = .ok g ↔ g.keyNames.Nodup := by
  rw [readJson, g.readsBack.readValue (by decide)]
  constructor
  · intro h
    cases g with
    | fields names =>
      simp [Except.map, ofForm, toJson, Json.field?, List.lookup_cons, Fields.ofForm_strs] at h
      rw [keyNames, ← h]
      exact Fields.nodup_ofList _
    | broadcast | shuffle => exact List.nodup_nil
  · intro h
    simp [Except.map, g.ofForm_toJson h]

end Grouping

namespace Topology

/-- A topology as the library holds it: spouts and bolts each in increasing name order, one per
name (they are maps), executor counts that fit a machine word, and fields groupings whose names
have no repeats. -/
structure Stored (t : Topology) : Prop where
  spouts_ordered : Keyed.Ordered t.spouts
  bolts_ordered : Keyed.Ordered t.bolts
  spout_counts : ∀ s ∈ t.spouts, s.2.parallelism ≤ Text.wordMax 64
  bolt_counts : ∀ b ∈ t.bolts, b.2.parallelism ≤ Text.wordMax 64
  groupings : ∀ b ∈ t.bolts, b.2.grouping.keyNames.Nodup

lemma readsBack_spout {s : SpoutDecl} (h : s.parallelism ≤ Text.wordMax 64) :
    Json.ReadsBack (.record "struct SpoutDecl" [("component", .string, none),
      ("parallelism", .unsigned "usize" (Nat.pow 2 64 - 1), none)]) 2
      (.obj [("component", .str s.component), ("parallelism", .nat s.parallelism)]) := by
  apply Json.ReadsBack.record rfl (by decide)
  simp only [List.mem_cons, List.not_mem_nil, or_false]
  rintro m (rfl | rfl) sh hs <;> simp [Json.fieldShape] at hs <;> subst hs
  · exact Json.ReadsBack.string _
  · exact Json.ReadsBack.unsigned h

lemma readsBack_bolt {b : BoltDecl} (h : b.parallelism ≤ Text.wordMax 64) :
    Json.ReadsBack (.record "struct BoltDecl" [("component", .string, none),
      ("parallelism", .unsigned "usize" (Nat.pow 2 64 - 1), none), ("upstream", .string, none),
      ("grouping", Grouping.shape, none)]) 5
      (.obj [("component", .str b.component), ("parallelism", .nat b.parallelism),
        ("upstream", .str b.input), ("grouping", b.grouping.toJson)]) := by
  apply Json.ReadsBack.record rfl (by decide)
  simp only [List.mem_cons, List.not_mem_nil, or_false]
  rintro m (rfl | rfl | rfl | rfl) sh hs <;> simp [Json.fieldShape] at hs <;> subst hs
  · exact (Json.ReadsBack.string _).mono (by omega)
  · exact (Json.ReadsBack.unsigned h).mono (by omega)
  · exact (Json.ReadsBack.string _).mono (by omega)
  · exact b.grouping.readsBack

lemma readsBack {t : Topology} (h : t.Stored) : Json.ReadsBack shape 7 t.toJson := by
  apply Json.ReadsBack.record rfl (by decide)
  simp only [List.mem_cons, List.not_mem_nil, or_false]
  rintro m (rfl | rfl) sh hs <;> simp [Json.fieldShape] at hs <;> subst hs
  · refine (Json.ReadsBack.map (n := 2) (fun m hm => ?_) ?_).mono (by omega)
    · obtain ⟨⟨n, s⟩, hs, rfl⟩ := List.mem_map.mp hm
      exact readsBack_spout (h.spout_counts _ hs)
    · exact List.pairwise_map.mpr h.spouts_ordered
  · refine Json.ReadsBack.map (fun m hm => ?_) ?_
    · obtain ⟨⟨n, b⟩, hb, rfl⟩ := List.mem_map.mp hm
      exact readsBack_bolt (h.bolt_counts _ hb)
    · exact List.pairwise_map.mpr h.bolts_ordered

lemma ofForm_toJson {t : Topology} (h : ∀ b ∈ t.bolts, b.2.grouping.keyNames.Nodup) :
    ofForm t.toJson = t := by
  simp only [ofForm, toJson, membersOf, Json.field?, List.lookup_cons]
  simp
  congr 1
  · apply (List.map_congr_left ?_).trans (List.map_id _)
    rintro ⟨n, s⟩ -
    simp [textOf, countOf, Json.field?, List.lookup_cons]
  · apply (List.map_congr_left ?_).trans (List.map_id _)
    rintro ⟨n, b⟩ hb
    simp [textOf, countOf, Json.field?, List.lookup_cons, b.grouping.ofForm_toJson (h _ hb)]

lemma readJson_toJson {t : Topology} (h : t.Stored) : readJson t.toJson = .ok t := by
  rw [readJson, (readsBack h).readValue (by decide)]
  simp [Except.map, ofForm_toJson h.groupings]

end Topology

namespace JobConfig

lemma entries_foldl_insert (ps : List (String × String)) :
    ∀ c : JobConfig, (ps.foldl (fun c (k, v) => c.insert k v) c).entries =
      ps.foldl (fun acc e => Keyed.insert e.1 e.2 acc) c.entries := by
  induction ps with
  | nil => intro c; rfl
  | cons p rest ih =>
    intro c
    rw [List.foldl_cons, List.foldl_cons, ih]
    simp only [insert, insert_go]

lemma ofPairs_of_ordered {ps : List (String × String)} (h : Keyed.Ordered ps) : ofPairs ps = ⟨ps⟩ := by
  have he : (ofPairs ps).entries = ps := by
    rw [ofPairs, entries_foldl_insert]
    exact Keyed.foldl_insert_of_ordered [] (by simpa using h)
  calc ofPairs ps = ⟨(ofPairs ps).entries⟩ := rfl
    _ = ⟨ps⟩ := by rw [he]

lemma readsBack {c : JobConfig} (h : Keyed.Ordered c.entries) : Json.ReadsBack shape 2 c.toJson := by
  refine Json.ReadsBack.map (fun m hm => ?_) (List.pairwise_map.mpr h)
  obtain ⟨⟨k, v⟩, -, rfl⟩ := List.mem_map.mp hm
  exact Json.ReadsBack.string v

lemma ofForm_toJson {c : JobConfig} (h : Keyed.Ordered c.entries) : ofForm c.toJson = c := by
  simp [ofForm, toJson, List.filterMap_map]
  exact ofPairs_of_ordered h

lemma readJson_toJson {c : JobConfig} (h : Keyed.Ordered c.entries) : readJson c.toJson = .ok c := by
  rw [readJson, (readsBack h).readValue (by decide)]
  simp [Except.map, ofForm_toJson h]

end JobConfig

namespace JobDefinition

def readJson (j : Json) : Except ReadError JobDefinition := (shape.readValue j).map ofForm

lemma readsBack {d : JobDefinition} (ht : d.topology.Stored) (hc : Keyed.Ordered d.config.entries) :
    Json.ReadsBack shape 8 d.toJson := by
  apply Json.ReadsBack.record rfl (by decide)
  simp only [List.mem_cons, List.not_mem_nil, or_false]
  rintro m (rfl | rfl) sh hs <;> simp [Json.fieldShape] at hs <;> subst hs
  · exact Topology.readsBack ht
  · exact (JobConfig.readsBack hc).mono (by omega)

lemma readJson_toJson {d : JobDefinition} (ht : d.topology.Stored) (hc : Keyed.Ordered d.config.entries) :
    readJson d.toJson = .ok d := by
  rw [readJson, (readsBack ht hc).readValue (by decide)]
  simp [Except.map, ofForm, toJson, Json.field?, List.lookup_cons, Topology.ofForm_toJson ht.groupings,
    JobConfig.ofForm_toJson hc]

end JobDefinition

/-- The wire forms read back. Field names keep the first occurrence of every name, so they have
no repeats and building them again changes nothing; a slot keeps its kind. A tuple built from
field names and values, or an end-of-stream tuple, reads back as itself, and each of its fields
gives the value at its position; any tuple or grouping reads back exactly when its field names
have no repeats. Every topology, job configuration and job definition the library holds reads
back as itself. -/
theorem wire_forms_round_trip :
    (∀ names : List String, (Fields.ofList names).names = names.eraseDups ∧
      (Fields.ofList names).names.Nodup ∧ Fields.ofList (Fields.ofList names).names = Fields.ofList names) ∧
    (∀ d : Datum, Json.readSlot d.toJson = .ok d.toJson ∧ Datum.ofJson d.toJson = d) ∧
    (∀ (names : List String) (values : List Datum) (source : String) (t : Tuple),
      Tuple.make (Fields.ofList names) values source = .ok t →
      Tuple.readJson t.toJson = .ok t ∧ t.values.length = t.fields.names.length ∧
      ∀ i (hi : i < t.fields.names.length), t.get? t.fields.names[i] = t.values[i]?) ∧
    (∀ source : String, Tuple.readJson (Tuple.eos source).toJson = .ok (Tuple.eos source)) ∧
    (∀ t : Tuple, Tuple.readJson t.toJson = .ok t ↔ t.fields.names.Nodup) ∧
    (∀ g : Grouping, Grouping.readJson g.toJson = .ok g ↔ g.keyNames.Nodup) ∧
    (∀ t : Topology, t.Stored → Topology.readJson t.toJson = .ok t) ∧
    (∀ c : JobConfig, Keyed.Ordered c.entries → JobConfig.readJson c.toJson = .ok c) ∧
    (∀ d : JobDefinition, d.topology.Stored → Keyed.Ordered d.config.entries →
      JobDefinition.readJson d.toJson = .ok d) := by
  refine ⟨fun names => ⟨Fields.names_ofList names, Fields.nodup_ofList names,
      Fields.ofList_of_nodup (Fields.nodup_ofList names)⟩,
    fun d => ⟨d.readSlot_toJson, d.ofJson_toJson⟩, fun names values source t ht => ?_,
    fun source => (Tuple.readJson_toJson_iff _).mpr List.nodup_nil, Tuple.readJson_toJson_iff,
    Grouping.readJson_toJson_iff, fun t => Topology.readJson_toJson, fun c => JobConfig.readJson_toJson,
    fun d => JobDefinition.readJson_toJson⟩
  obtain ⟨hlen, rfl⟩ := Tuple.make_eq_ok_iff.mp ht
  have hnd := Fields.nodup_ofList names
  exact ⟨(Tuple.readJson_toJson_iff _).mpr hnd, hlen.symm, fun i hi => Tuple.get?_field hnd hi⟩

def sampleDefinition : JobDefinition :=
  { topology :=
      { spouts := [("spout", ⟨"file", 1⟩)]
        bolts := [("map", ⟨"map", 2, "spout", .shuffle⟩),
          ("print", ⟨"print", 1, "reduce", .broadcast⟩),
          ("reduce", ⟨"reduce", 2, "map", .fields (Fields.ofList ["key"])⟩)] }
    config := ⟨[("batchSize", "2"), ("workerIndex", "0"), ("workerList", "[a:1,b:2]")]⟩ }

/-- The sample definition and a tuple with a list value read back as themselves. -/
theorem sample_wire_forms_round_trip :
    sampleDefinition.topology.Stored ∧ Keyed.Ordered sampleDefinition.config.entries ∧
      JobDefinition.readJson sampleDefinition.toJson = .ok sampleDefinition ∧
      ∃ t, Tuple.make (Fields.ofList ["key", "value", "key"]) [.text "a", .list ["x", "y"]] "exec" = .ok t ∧
        Tuple.readJson t.toJson = .ok t := by
  have ht : sampleDefinition.topology.Stored :=
    ⟨by unfold Keyed.Ordered; decide, by unfold Keyed.Ordered; decide, by decide, by decide, by decide⟩
  have hc : Keyed.Ordered sampleDefinition.config.entries := by
    unfold Keyed.Ordered
    decide
  have hmake : Tuple.make (Fields.ofList ["key", "value", "key"]) [.text "a", .list ["x", "y"]] "exec" =
      .ok ⟨Fields.ofList ["key", "value", "key"], [.text "a", .list ["x", "y"]], "exec", false⟩ :=
    rfl
  exact ⟨ht, hc, wire_forms_round_trip.2.2.2.2.2.2.2.2 _ ht hc, _, hmake,
    (wire_forms_round_trip.2.2.1 _ _ _ _ hmake).1⟩

end Dataflow
