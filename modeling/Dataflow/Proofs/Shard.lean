import Dataflow.Registry
import Mathlib.Algebra.BigOperators.Group.List.Basic
import Mathlib.Data.List.Perm.Basic
import Mathlib.Tactic.Lemma
/-!
File spouts share a shard by line number. A shard is a sequence of lines of UTF-8 text, each
ended by a line feed or by a carriage return and a line feed, the last one possibly unended. The
executors of a file spout opened on it, one per task index below the parallelism `p`, read it
line by line: executor `k` emits, one per call, the lines whose number is `k` modulo `p`, in
order, as the pair of the decimal line number and the line, and says whether it emitted one;
it says that nothing more follows only once the shard is read to its end. Together the
executors emit every numbered line exactly once.

The reading of a shard is stated once, as the lines a reader gives (`Yields`); the spout is then
followed call by call over those lines (`iterate_file`).
-/
namespace Dataflow

/-! ### Decoding line by line -/

namespace Text

lemma continuation_append {acc need lo hi : Nat} {l m r : List UInt8} {c : Char}
    (h : continuation acc need lo hi l = .char c r) : continuation acc need lo hi (l ++ m) = .char c (r ++ m) := by
  induction l generalizing acc need lo hi with
  | nil => simp [continuation] at h
  | cons b rest ih =>
    simp only [continuation, List.cons_append] at h ⊢
    by_cases hb : lo ≤ b.toNat ∧ b.toNat ≤ hi
    · rw [if_pos hb] at h ⊢
      by_cases hn : need ≤ 1
      · rw [if_pos hn] at h ⊢
        obtain ⟨rfl, rfl⟩ := Decoded.char.inj h
        rfl
      · rw [if_neg hn] at h ⊢
        exact ih h
    · rw [if_neg hb] at h
      cases h

lemma continuation_consumed {acc need lo hi : Nat} {l r : List UInt8} {c : Char} (hlo : 0x80 ≤ lo)
    (h : continuation acc need lo hi l = .char c r) : ∃ pre, l = pre ++ r ∧ ∀ b ∈ pre, 0x80 ≤ b.toNat := by
  induction l generalizing acc need lo hi with
  | nil => simp [continuation] at h
  | cons b rest ih =>
    simp only [continuation] at h
    by_cases hb : lo ≤ b.toNat ∧ b.toNat ≤ hi
    · rw [if_pos hb] at h
      by_cases hn : need ≤ 1
      · rw [if_pos hn] at h
        obtain ⟨-, rfl⟩ := Decoded.char.inj h
        exact ⟨[b], rfl, by simpa using Nat.le_trans hlo hb.1⟩
      · rw [if_neg hn] at h
        obtain ⟨pre, rfl, hpre⟩ := ih (Nat.le_refl _) h
        refine ⟨b :: pre, rfl, fun x hx => ?_⟩
        rcases List.mem_cons.mp hx with rfl | hx
        · exact Nat.le_trans hlo hb.1
        · exact hpre x hx
    · rw [if_neg hb] at h
      cases h

lemma leadOf_lo {n need lo hi bits : Nat} (h : leadOf n = some (need, lo, hi, bits)) : 0x80 ≤ lo := by
  unfold leadOf at h
  split_ifs at h <;> cases h <;> decide

lemma decodeOne_append {b : UInt8} {rest m r : List UInt8} {c : Char}
    (h : decodeOne b rest = .char c r) : decodeOne b (rest ++ m) = .char c (r ++ m) := by
  unfold decodeOne at h ⊢
  by_cases hb : b.toNat < 0x80
  · rw [if_pos hb] at h ⊢
    obtain ⟨rfl, rfl⟩ := Decoded.char.inj h
    rfl
  · rw [if_neg hb] at h ⊢
    cases hl : leadOf b.toNat with
    | none => simp [hl] at h
    | some q =>
      obtain ⟨need, lo, hi, bits⟩ := q
      simp only [hl] at h ⊢
      exact continuation_append h

lemma decodeOne_consumed {b : UInt8} {rest r : List UInt8} {c : Char} (h : decodeOne b rest = .char c r) :
    (b.toNat < 0x80 ∧ r = rest ∧ c = Char.ofNat b.toNat) ∨
      0x80 ≤ b.toNat ∧ ∃ pre, rest = pre ++ r ∧ ∀ x ∈ pre, 0x80 ≤ x.toNat := by
  unfold decodeOne at h
  by_cases hb : b.toNat < 0x80
  · rw [if_pos hb] at h
    obtain ⟨rfl, rfl⟩ := Decoded.char.inj h
    exact .inl ⟨hb, rfl, rfl⟩
  · rw [if_neg hb] at h
    cases hl : leadOf b.toNat with
    | none => simp [hl] at h
    | some q =>
      obtain ⟨need, lo, hi, bits⟩ := q
      simp only [hl] at h
      exact .inr ⟨by omega, continuation_consumed (leadOf_lo hl) h⟩

lemma decodeStrict_cons {b : UInt8} {rest r : List UInt8} {c : Char} (h : decodeOne b rest = .char c r) :
    decodeStrict (b :: rest) = (decodeStrict r).map (c :: ·) := by
  rw [decodeStrict, h]
  rfl

lemma decodeStrict_append (m : List UInt8) :
    ∀ {l : List UInt8} {cs : List Char}, decodeStrict l = some cs → decodeStrict (l ++ m) = (decodeStrict m).map (cs ++ ·) := by
  intro l
  induction l using decodeStrict.induct with
  | case1 =>
    intro cs h
    rw [decodeStrict] at h
    cases h
    simp
  | case2 b rest c hc ih =>
    intro cs h
    obtain ⟨r, hr⟩ : ∃ r, decodeOne b rest = .char c r := by
      cases hd : decodeOne b rest with
      | char c' r => simp only [hd, Decoded.char?, Option.some.injEq] at hc; exact ⟨r, by rw [hc]⟩
      | bad r => simp [hd, Decoded.char?] at hc
    rw [decodeStrict_cons hr] at h
    obtain ⟨cs', hcs', rfl⟩ := Option.map_eq_some_iff.mp h
    have hr' : (decodeOne b rest).rest = r := by rw [hr]; rfl
    have ih' := @ih cs' (by rw [hr']; exact hcs')
    rw [hr'] at ih'
    rw [List.cons_append, decodeStrict_cons (decodeOne_append hr), ih', Option.map_map]
    rfl
  | case3 b rest hc =>
    intro cs h
    rw [decodeStrict, hc] at h
    cases h

lemma newline_of_decodeStrict : ∀ {l : List UInt8} {cs : List Char}, decodeStrict l = some cs → 10 ∈ l → '\n' ∈ cs := by
  intro l
  induction l using decodeStrict.induct with
  | case1 => intro cs _ h; cases h
  | case2 b rest c hc ih =>
    intro cs h h10
    obtain ⟨r, hr⟩ : ∃ r, decodeOne b rest = .char c r := by
      cases hd : decodeOne b rest with
      | char c' r => simp only [hd, Decoded.char?, Option.some.injEq] at hc; exact ⟨r, by rw [hc]⟩
      | bad r => simp [hd, Decoded.char?] at hc
    rw [decodeStrict_cons hr] at h
    obtain ⟨cs', hcs', rfl⟩ := Option.map_eq_some_iff.mp h
    have hr' : (decodeOne b rest).rest = r := by rw [hr]; rfl
    rcases List.mem_cons.mp h10 with h10 | h10
    · -- the line feed is this octet, a character of its own
      subst h10
      rcases decodeOne_consumed hr with ⟨-, -, rfl⟩ | ⟨h80, -⟩
      · exact List.mem_cons_self
      · exact absurd h80 (by decide)
    · -- the line feed is further on, past what this character consumed
      have h10r : (10 : UInt8) ∈ r := by
        rcases decodeOne_consumed hr with ⟨-, rfl, -⟩ | ⟨-, pre, rfl, hpre⟩
        · exact h10
        · rcases List.mem_append.mp h10 with h10 | h10
          · exact absurd (hpre _ h10) (by decide)
          · exact h10
      exact List.mem_cons_of_mem _ (ih (hr' ▸ hcs') (hr' ▸ h10r))
  | case3 b rest hc =>
    intro cs h
    rw [decodeStrict, hc] at h
    cases h

end Text

/-! ### Lines as a shard stores them -/

/-- How a stored line ends: with a line feed, with a carriage return and a line feed, or not at
all, which only the last line of a shard may do. -/
inductive LineEnd where
  | lf
  | crlf
  | eof
  deriving DecidableEq

def LineEnd.octets : LineEnd → List UInt8
  | lf => [10]
  | crlf => [13, 10]
  | eof => []

def LineEnd.chars : LineEnd → List Char
  | lf => ['\n']
  | crlf => ['\r', '\n']
  | eof => []

/-- A line as a shard stores it: UTF-8 octets of a text without a line feed, and its ending. A
line ended by a lone line feed does not end in a carriage return, which would read as part of its
ending, and an unended line is not empty. -/
structure StoredLine where
  octets : List UInt8
  text : String
  ending : LineEnd
  decodes : Text.decodeStrict octets = some text.toList
  noFeed : '\n' ∉ text.toList
  lfAlone : ending = .lf → text.toList.getLast? ≠ some '\r'
  unended : ending = .eof → octets ≠ []

/-- A shard: its lines in order, only the last of them possibly unended. -/
structure Shard where
  lines : List StoredLine
  endedButLast : ∀ l ∈ lines.dropLast, l.ending ≠ .eof

namespace Shard

def octets (s : Shard) : List UInt8 := s.lines.flatMap fun l => l.octets ++ l.ending.octets

def texts (s : Shard) : List String := s.lines.map (·.text)

end Shard

namespace LineReader

/-- A reader that gives the lines `xs`, in order, and is then at the end of its file. -/
inductive Yields : LineReader → List String → Prop
  | done {r : LineReader} : r.source = .file [] → Yields r []
  | line {r r' : LineReader} {x : String} {xs : List String} :
      r.next = (some (.ok x), r') → Yields r' xs → Yields r (x :: xs)

lemma next_of_end {r : LineReader} (h : r.source = .file []) : r.next = (none, r) := by
  simp [next, h]

lemma splitLine_length {bytes : List UInt8} (h : bytes ≠ []) : (splitLine bytes).2.length < bytes.length := by
  unfold splitLine
  split
  · simp only [List.length_drop]
    have := List.length_pos_of_ne_nil h
    omega
  · simpa using List.length_pos_of_ne_nil h

lemma readerBound_next {r r' : LineReader} {x : String} (h : r.next = (some (.ok x), r')) :
    SpoutLogic.readerBound r' < SpoutLogic.readerBound r := by
  obtain ⟨source⟩ := r
  cases source with
  | directory => simp [next] at h
  | file bytes =>
    cases bytes with
    | nil => simp [next] at h
    | cons b rest =>
      simp only [next] at h
      split at h <;> simp only [Prod.mk.injEq, reduceCtorEq, false_and, Option.some.injEq] at h
      obtain ⟨-, rfl⟩ := h
      simpa [SpoutLogic.readerBound] using splitLine_length (List.cons_ne_nil b rest)

lemma Yields.length_lt {r : LineReader} {xs : List String} (h : Yields r xs) :
    xs.length < SpoutLogic.readerBound r := by
  induction h with
  | done hr => simp [SpoutLogic.readerBound, hr]
  | line hn _ ih =>
    have := readerBound_next hn
    simp only [List.length_cons]
    omega

lemma splitLine_append {pre : List UInt8} (rest : List UInt8) (h : ∀ b ∈ pre, b ≠ 10) :
    splitLine (pre ++ 10 :: rest) = (pre ++ [10], rest) := by
  have hnone : pre.findIdx? (· = 10) = none := by
    simpa [List.findIdx?_eq_none_iff] using h
  have hidx : (pre ++ 10 :: rest).findIdx? (· = 10) = some pre.length := by
    rw [List.findIdx?_append, hnone, List.findIdx?_cons]
    simp
  simp [splitLine, hidx, List.take_append, List.drop_append, List.take_of_length_le]

lemma stripEnd_ending {cs : List Char} {e : LineEnd} (hn : '\n' ∉ cs) (h : e = .lf → cs.getLast? ≠ some '\r') :
    stripEnd (cs ++ e.chars) = cs := by
  cases e with
  | lf => simp [stripEnd, LineEnd.chars, h rfl]
  | crlf => simp [stripEnd, LineEnd.chars]
  | eof =>
    have hl : cs.getLast? ≠ some '\n' := fun hl => hn (List.mem_of_getLast? hl)
    simp [stripEnd, LineEnd.chars, hl]

lemma next_of_splitLine {bytes line rest : List UInt8} {cs : List Char} (hb : bytes ≠ [])
    (hs : splitLine bytes = (line, rest)) (hd : Text.decodeStrict line = some cs) :
    (⟨.file bytes⟩ : LineReader).next = (some (.ok (String.ofList (stripEnd cs))), ⟨.file rest⟩) := by
  cases bytes with
  | nil => exact absurd rfl hb
  | cons b bs => simp [next, hs, hd]

lemma next_storedLine (l : StoredLine) (rest : List UInt8) (hrest : l.ending = .eof → rest = []) :
    (⟨.file (l.octets ++ l.ending.octets ++ rest)⟩ : LineReader).next = (some (.ok l.text), ⟨.file rest⟩) := by
  have hfeed : ∀ b ∈ l.octets, b ≠ 10 := fun b hb h10 =>
    l.noFeed (Text.newline_of_decodeStrict l.decodes (h10 ▸ hb))
  have hdec : Text.decodeStrict (l.octets ++ l.ending.octets) = some (l.text.toList ++ l.ending.chars) := by
    rw [Text.decodeStrict_append _ l.decodes]
    cases he : l.ending <;> simp [LineEnd.octets, LineEnd.chars, Text.decodeStrict, Text.decodeOne,
      Text.Decoded.char?, Text.Decoded.rest]
  -- the line ends at its line feed, or at the end of the shard
  have hsplit : splitLine (l.octets ++ l.ending.octets ++ rest) = (l.octets ++ l.ending.octets, rest) := by
    cases he : l.ending with
    | lf => simpa [LineEnd.octets] using splitLine_append rest hfeed
    | crlf =>
      have h := @splitLine_append (l.octets ++ [13]) rest fun b hb => by
        rcases List.mem_append.mp hb with hb | hb
        · exact hfeed b hb
        · rw [List.mem_singleton.mp hb]
          decide
      simpa [LineEnd.octets] using h
    | eof =>
      rw [hrest he]
      have hnone : l.octets.findIdx? (· = 10) = none := by simpa [List.findIdx?_eq_none_iff] using hfeed
      simp [splitLine, LineEnd.octets, hnone]
  have hne : l.octets ++ l.ending.octets ++ rest ≠ [] := by
    cases he : l.ending with
    | eof =>
      simp only [LineEnd.octets, List.append_nil, ne_eq, List.append_eq_nil_iff, not_and]
      exact fun h => absurd h (l.unended he)
    | _ => simp [LineEnd.octets]
  rw [next_of_splitLine hne hsplit hdec, stripEnd_ending l.noFeed l.lfAlone, String.ofList_toList]

end LineReader

lemma Shard.yields (s : Shard) : LineReader.Yields ⟨.file s.octets⟩ s.texts := by
  obtain ⟨lines, hended⟩ := s
  simp only [Shard.octets, Shard.texts]
  induction lines with
  | nil => exact .done rfl
  | cons l ls ih =>
    -- only the last line may be unended, so an unended line has nothing after it
    have hrest : l.ending = .eof → ls.flatMap (fun l => l.octets ++ l.ending.octets) = [] := by
      intro he
      cases ls with
      | nil => rfl
      | cons l' ls' => exact absurd he (hended l (by simp))
    have hended' : ∀ l' ∈ ls.dropLast, l'.ending ≠ .eof := by
      intro l' hl'
      cases ls with
      | nil => simp at hl'
      | cons l'' ls'' =>
        exact hended l' (by rw [List.dropLast_cons_of_ne_nil (List.cons_ne_nil _ _)]; exact List.mem_cons_of_mem _ hl')
    rw [List.flatMap_cons, List.map_cons]
    exact .line (LineReader.next_storedLine l _ hrest) (ih hended')

/-! ### The file spout, call by call -/

namespace SpoutLogic

variable {task p : Nat}

lemma nextLine_fuel {r : LineReader} {xs : List String} (h : LineReader.Yields r xs) :
    ∀ {f f' n : Nat}, xs.length < f → xs.length < f' → nextLine task p f r n = nextLine task p f' r n := by
  induction h with
  | done hr =>
    intro f f' n hf hf'
    obtain ⟨g, rfl⟩ : ∃ g, f = g + 1 := ⟨f - 1, by omega⟩
    obtain ⟨g', rfl⟩ : ∃ g', f' = g' + 1 := ⟨f' - 1, by omega⟩
    simp [nextLine, LineReader.next_of_end hr]
  | line hn _ ih =>
    intro f f' n hf hf'
    obtain ⟨g, rfl⟩ : ∃ g, f = g + 1 := ⟨f - 1, by omega⟩
    obtain ⟨g', rfl⟩ : ∃ g', f' = g' + 1 := ⟨f' - 1, by omega⟩
    simp only [List.length_cons] at hf hf'
    simp only [nextLine, hn]
    split_ifs
    · rfl
    · exact ih (by omega) (by omega)

lemma next_file_end {r : LineReader} {n : Nat} (hr : r.source = .file []) :
    next (.file r n task p) = ([], false, .file r n task p) := by
  simp [next, readerBound, hr, nextLine, LineReader.next_of_end hr]

lemma next_file_line {r r' : LineReader} {x : String} {xs : List String} {n : Nat}
    (hn : r.next = (some (.ok x), r')) (hy : LineReader.Yields r' xs) :
    next (.file r n task p) =
      if n % p = task then ([.emit [.text (toString n), .text x]], true, .file r' (n + 1) task p)
      else next (.file r' (n + 1) task p) := by
  have hlen := (LineReader.Yields.line hn hy).length_lt
  obtain ⟨g, hg⟩ : ∃ g, readerBound r = g + 1 := ⟨readerBound r - 1, by omega⟩
  simp only [List.length_cons, hg] at hlen
  simp only [next, hg, nextLine, hn]
  split_ifs
  · rfl
  · rw [nextLine_fuel hy (by omega) hy.length_lt]

/-- The first `c` calls of a spout: what each emitted and whether it said more may follow, and
the spout after them. -/
def iterate : Nat → SpoutLogic → List (List Effect × Bool) × SpoutLogic
  | 0, s => ([], s)
  | c + 1, s =>
    let (effects, more, s) := s.next
    let (calls, s) := iterate c s
    ((effects, more) :: calls, s)

lemma iterate_succ {s s' : SpoutLogic} {effects : List Effect} {more : Bool} (c : Nat)
    (h : s.next = (effects, more, s')) :
    iterate (c + 1) s = ((effects, more) :: (iterate c s').1, (iterate c s').2) := by
  simp [iterate, h]

lemma iterate_congr {s s' : SpoutLogic} (c : Nat) (h : s.next = s'.next) : iterate (c + 1) s = iterate (c + 1) s' := by
  simp [iterate, h]

lemma take_iterate (c d : Nat) (s : SpoutLogic) : (iterate (c + d) s).1.take c = (iterate c s).1 := by
  induction c generalizing s with
  | zero => simp [iterate]
  | succ c ih =>
    rw [Nat.add_right_comm, iterate_succ _ rfl, iterate_succ _ rfl, List.take_succ_cons, ih]

/-- The lines among `xs`, numbered from `n`, whose number is `task` modulo `p`, in order. -/
def share (task p n : Nat) (xs : List String) : List (String × Nat) :=
  (xs.zipIdx n).filter fun e => e.2 % p = task

/-- A call that emits a numbered line, as its decimal number and its text, and says more may
follow. -/
def emitting (e : String × Nat) : List Effect × Bool := ([.emit [.text (toString e.2), .text e.1]], true)

lemma share_cons (n : Nat) (x : String) (xs : List String) :
    share task p n (x :: xs) = if n % p = task then (x, n) :: share task p (n + 1) xs else share task p (n + 1) xs := by
  by_cases h : n % p = task <;> simp [share, List.zipIdx_cons, h]

lemma iterate_end {r : LineReader} {n : Nat} (hr : r.source = .file []) (c : Nat) :
    iterate c (.file r n task p) = (List.replicate c ([], false), .file r n task p) := by
  induction c with
  | zero => rfl
  | succ c ih => rw [iterate_succ c (next_file_end hr), ih, List.replicate_succ]

lemma iterate_file {r : LineReader} {xs : List String} (h : LineReader.Yields r xs) (n extra : Nat) :
    ∃ r', r'.source = .file [] ∧
      iterate ((share task p n xs).length + 1 + extra) (.file r n task p) =
        ((share task p n xs).map emitting ++ List.replicate (extra + 1) ([], false),
          .file r' (n + xs.length) task p) := by
  induction h generalizing n with
  | done hr => exact ⟨_, hr, by simp [share, iterate_end hr, Nat.add_comm]⟩
  | @line r r' x xs hn hy ih =>
    obtain ⟨r'', hr'', hrun⟩ := ih (n + 1)
    refine ⟨r'', hr'', ?_⟩
    have hstep : next (.file r n task p) = _ := next_file_line hn hy
    rw [share_cons]
    by_cases hk : n % p = task
    · -- the line is this executor's: the call emits it
      rw [if_pos hk] at hstep ⊢
      rw [List.length_cons, Nat.add_right_comm _ 1 1, Nat.add_right_comm _ 1 extra, iterate_succ _ hstep, hrun]
      simp [emitting, List.length_cons, Nat.add_comm, Nat.add_left_comm]
    · -- another executor's line: the call reads past it
      rw [if_neg hk] at hstep ⊢
      rw [Nat.add_right_comm _ 1 extra, iterate_congr _ hstep, Nat.add_right_comm _ extra 1, hrun]
      simp [Nat.add_comm, Nat.add_left_comm]

lemma shares_perm (hp : 0 < p) (n : Nat) (xs : List String) :
    ((List.range p).flatMap fun k => share k p n xs).Perm (xs.zipIdx n) := by
  rw [List.perm_iff_count]
  intro e
  -- each line counts in the share of its own executor only
  have hterm : ∀ k, ((xs.zipIdx n).filter fun e => e.2 % p = k).count e =
      if k = e.2 % p then (xs.zipIdx n).count e else 0 := by
    intro k
    split_ifs with hk
    · exact List.count_filter (by simp [hk])
    · exact List.count_eq_zero_of_not_mem fun hm => hk (of_decide_eq_true (List.mem_filter.mp hm).2).symm
  have hmod : e.2 % p < p := Nat.mod_lt _ hp
  rw [List.count_flatMap]
  calc ((List.range p).map (List.count e ∘ fun k => share k p n xs)).sum
      = ((List.range p).map fun k => if k = e.2 % p then (xs.zipIdx n).count e else 0).sum := by
        simp only [Function.comp_def, share, hterm]
    _ = (xs.zipIdx n).count e := by
        rw [List.sum_map_eq_nsmul_single (e.2 % p) _ fun k hk _ => if_neg hk]
        simp [hmod]

end SpoutLogic

lemma Registry.openSpout_file {inputFile : Option String} {c : JobConfig} {job : String} {task p : Nat}
    {disk : Storage} {path : String} {e : Entry} (hpath : Registry.inputPath inputFile c disk = .ok path)
    (hopen : disk.openRead path = .ok e) :
    Registry.openSpout (.file inputFile) c job task p disk = .ok (.file ⟨e⟩ 0 task (max p 1)) := by
  simp [Registry.openSpout, hpath, hopen, bind, Except.bind, Except.mapError, pure, Except.pure]

/-- Executors of a file spout share a shard by line number. With parallelism `p ≥ 1`, executor
`k` opens on the shard at its first line; it then emits, one per call, the lines whose number is
`k` modulo `p` in increasing order, each as its decimal number and its text, each such call
saying more may follow, and every later call emits nothing and says nothing more follows; by the
first of those the shard is read to its end. Together the executors emit every numbered line
exactly once. -/
theorem file_spout_shares_shard (sh : Shard) {p : Nat} (hp : 0 < p) :
    (∀ {inputFile : Option String} {c : JobConfig} {job : String} {disk : Storage} {path : String} (k : Nat),
      Registry.inputPath inputFile c disk = .ok path → disk.openRead path = .ok (.file sh.octets) →
        Registry.openSpout (.file inputFile) c job k p disk = .ok (.file ⟨.file sh.octets⟩ 0 k p)) ∧
    (∀ k < p,
      (∀ calls, (SpoutLogic.iterate calls (.file ⟨.file sh.octets⟩ 0 k p)).1 =
        ((SpoutLogic.share k p 0 sh.texts).map SpoutLogic.emitting ++ List.replicate calls ([], false)).take calls) ∧
      ∃ r : LineReader, r.source = .file [] ∧
        (SpoutLogic.iterate ((SpoutLogic.share k p 0 sh.texts).length + 1) (.file ⟨.file sh.octets⟩ 0 k p)).2 =
          .file r sh.texts.length k p) ∧
    ((List.range p).flatMap fun k => SpoutLogic.share k p 0 sh.texts).Perm (sh.texts.zipIdx 0) := by
  have hmax : max p 1 = p := by omega
  refine ⟨fun k hpath hopen => by rw [Registry.openSpout_file hpath hopen, hmax], fun k _ => ⟨fun calls => ?_, ?_⟩,
    SpoutLogic.shares_perm hp 0 sh.texts⟩
  · -- run long enough for the whole share and one call more, then keep the first calls
    obtain ⟨r, -, hrun⟩ := @SpoutLogic.iterate_file k p _ _ sh.yields 0
      (calls - ((SpoutLogic.share k p 0 sh.texts).length + 1))
    have hlong : calls ≤ (SpoutLogic.share k p 0 sh.texts).length + 1 +
        (calls - ((SpoutLogic.share k p 0 sh.texts).length + 1)) := by omega
    rw [← SpoutLogic.take_iterate calls, Nat.add_sub_of_le hlong, hrun]
    simp only [List.take_append, List.take_replicate, List.length_map]
    congr 2
    omega
  · obtain ⟨r, hr, hrun⟩ := @SpoutLogic.iterate_file k p _ _ sh.yields 0 0
    exact ⟨r, hr, by simpa using congrArg Prod.snd hrun⟩

def Shard.sample : Shard where
  lines :=
    [{ octets := [97, 98], text := "ab", ending := .lf
       decodes := by simp [Text.decodeStrict, Text.decodeOne, Text.Decoded.char?, Text.Decoded.rest]
       noFeed := by decide
       lfAlone := fun _ => by decide
       unended := fun h => by cases h },
     { octets := [99], text := "c", ending := .crlf
       decodes := by simp [Text.decodeStrict, Text.decodeOne, Text.Decoded.char?, Text.Decoded.rest]
       noFeed := by decide
       lfAlone := fun h => by cases h
       unended := fun h => by cases h },
     { octets := [100], text := "d", ending := .eof
       decodes := by simp [Text.decodeStrict, Text.decodeOne, Text.Decoded.char?, Text.Decoded.rest]
       noFeed := by decide
       lfAlone := fun h => by cases h
       unended := fun _ => by simp }]
  endedButLast := by simp

theorem file_spout_shares_sample :
    0 < 2 ∧
    (∀ {inputFile : Option String} {c : JobConfig} {job : String} {disk : Storage} {path : String} (k : Nat),
      Registry.inputPath inputFile c disk = .ok path → disk.openRead path = .ok (.file Shard.sample.octets) →
        Registry.openSpout (.file inputFile) c job k 2 disk = .ok (.file ⟨.file Shard.sample.octets⟩ 0 k 2)) ∧
    (∀ k < 2,
      (∀ calls, (SpoutLogic.iterate calls (.file ⟨.file Shard.sample.octets⟩ 0 k 2)).1 =
        ((SpoutLogic.share k 2 0 Shard.sample.texts).map SpoutLogic.emitting ++
          List.replicate calls ([], false)).take calls) ∧
      ∃ r : LineReader, r.source = .file [] ∧
        (SpoutLogic.iterate ((SpoutLogic.share k 2 0 Shard.sample.texts).length + 1)
          (.file ⟨.file Shard.sample.octets⟩ 0 k 2)).2 = .file r Shard.sample.texts.length k 2) ∧
    ((List.range 2).flatMap fun k => SpoutLogic.share k 2 0 Shard.sample.texts).Perm (Shard.sample.texts.zipIdx 0) :=
  ⟨by decide, file_spout_shares_shard Shard.sample (by decide)⟩

end Dataflow
