/-!
Lists of entries kept in key order, one entry per key: the maps of this library whose order
shows in its output.
-/
namespace Dataflow.Keyed

variable {α : Type}

def insert (k : String) (v : α) : List (String × α) → List (String × α)
  | [] => [(k, v)]
  | (k', v') :: rest =>
    if k = k' then (k, v) :: rest
    else if k < k' then (k, v) :: (k', v') :: rest
    else (k', v') :: insert k v rest

def erase (k : String) : List (String × α) → List (String × α)
  | [] => []
  | (k', v') :: rest => if k = k' then rest else (k', v') :: erase k rest

def modify (k : String) (f : α → α) : List (String × α) → List (String × α)
  | [] => []
  | (k', v') :: rest => if k = k' then (k', f v') :: rest else (k', v') :: modify k f rest

@[simp] theorem lookup_insert_self (k : String) (v : α) (xs : List (String × α)) :
    (insert k v xs).lookup k = some v := by
  induction xs with
  | nil => simp [insert]
  | cons x rest ih =>
    obtain ⟨k', v'⟩ := x
    unfold insert
    by_cases h : k = k'
    · simp [h]
    · by_cases hl : k < k'
      · simp [h, hl]
      · have hne : (k == k') = false := by simp [h]
        simp [h, hl, List.lookup_cons, hne, ih]

theorem lookup_insert_of_ne {k j : String} (hne : j ≠ k) (v : α) (xs : List (String × α)) :
    (insert k v xs).lookup j = xs.lookup j := by
  induction xs with
  | nil =>
    have : (j == k) = false := by simp [hne]
    simp [insert, List.lookup_cons, List.lookup_nil, this]
  | cons x rest ih =>
    obtain ⟨k', v'⟩ := x
    have hjk : (j == k) = false := by simp [hne]
    unfold insert
    by_cases h : k = k'
    · subst h
      simp [List.lookup_cons, hjk]
    · by_cases hl : k < k'
      · simp [h, hl, List.lookup_cons, hjk]
      · simp only [h, hl, if_false, List.lookup_cons]
        split <;> simp_all

theorem lookup_modify (k j : String) (f : α → α) (xs : List (String × α)) :
    (modify k f xs).lookup j = if j = k then (xs.lookup k).map f else xs.lookup j := by
  induction xs with
  | nil => by_cases h : j = k <;> simp [modify, List.lookup_nil, h]
  | cons x rest ih =>
    obtain ⟨k', v'⟩ := x
    unfold modify
    by_cases hk : k = k'
    · subst hk
      by_cases h : j = k
      · simp [h]
      · have hb : (j == k) = false := by simp [h]
        simp [List.lookup_cons, h, hb]
    · have hb : (k == k') = false := by simp [hk]
      by_cases h : j = k
      · subst h
        simp [List.lookup_cons, hk, hb, ih]
      · simp only [hk, if_false, List.lookup_cons, ih, h]

theorem modify_modify (k : String) (f g : α → α) (xs : List (String × α)) :
    modify k g (modify k f xs) = modify k (g ∘ f) xs := by
  induction xs with
  | nil => rfl
  | cons x rest ih =>
    obtain ⟨k', v'⟩ := x
    by_cases h : k = k' <;> simp [modify, h, ih]

theorem modify_congr {k : String} {f g : α → α} :
    ∀ {xs : List (String × α)}, (∀ v, xs.lookup k = some v → f v = g v) → modify k f xs = modify k g xs
  | [], _ => rfl
  | (k', v') :: rest, h => by
    by_cases hk : k = k'
    · subst hk
      simp [modify, h v' (by simp)]
    · have hb : (k == k') = false := by simp [hk]
      simp only [modify, hk, if_false, List.cons.injEq, true_and]
      exact modify_congr fun v hv => h v (by simp [List.lookup_cons, hb, hv])

@[simp] theorem keys_modify (k : String) (f : α → α) (xs : List (String × α)) :
    (modify k f xs).map (·.1) = xs.map (·.1) := by
  induction xs with
  | nil => rfl
  | cons x rest ih =>
    obtain ⟨k', v'⟩ := x
    by_cases h : k = k' <;> simp [modify, h, ih]

theorem keys_insert_perm {k : String} {v : α} :
    ∀ {xs : List (String × α)}, xs.lookup k = none → ((insert k v xs).map (·.1)).Perm (k :: xs.map (·.1))
  | [], _ => by simp [insert]
  | (k', v') :: rest, h => by
    have hb : (k == k') = false := by
      cases hkk : k == k'
      · rfl
      · simp [List.lookup_cons, hkk] at h
    have hk : k ≠ k' := by simpa using hb
    have hrest : rest.lookup k = none := by simpa [List.lookup_cons, hb] using h
    unfold insert
    simp only [hk, if_false]
    split
    · exact List.Perm.refl _
    · simp only [List.map_cons]
      exact ((keys_insert_perm hrest).cons k').trans (List.Perm.swap k k' _)

theorem mem_keys_of_lookup {k : String} {v : α} :
    ∀ {xs : List (String × α)}, xs.lookup k = some v → k ∈ xs.map (·.1)
  | [], h => by simp [List.lookup_nil] at h
  | (k', v') :: rest, h => by
    by_cases hk : k = k'
    · simp [hk]
    · have hb : (k == k') = false := by simp [hk]
      simp only [List.lookup_cons, hb] at h
      exact List.mem_cons_of_mem _ (mem_keys_of_lookup h)

theorem lookup_erase_self (k : String) (xs : List (String × α)) (h : (xs.map (·.1)).Nodup) :
    (erase k xs).lookup k = none := by
  induction xs with
  | nil => rfl
  | cons x rest ih =>
    obtain ⟨k', v'⟩ := x
    simp only [List.map_cons, List.nodup_cons] at h
    unfold erase
    by_cases hk : k = k'
    · subst hk
      simp only [if_true]
      cases hl : rest.lookup k with
      | none => rfl
      | some w => exact absurd (mem_keys_of_lookup hl) h.1
    · have : (k == k') = false := by simp [hk]
      simp [hk, List.lookup_cons, this, ih h.2]

end Dataflow.Keyed
