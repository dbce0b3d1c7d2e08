/-
Hash tables as association lists with distinct keys: what an assignment, an erasure, an in-place
rewrite of every value and an erasure by value do to a lookup and to a sum over the values.
The order of the entries belongs to the table, since an iteration sees it.
-/
import Mathlib.Data.List.AList
import Mathlib.Algebra.Order.BigOperators.Group.List
import Mathlib.Algebra.Order.Ring.Nat

/-- A hash table: its entries in iteration order, no key twice. -/
abbrev Table (K V : Type) := AList (fun _ : K => V)

namespace Table

open List

variable {K V W : Type} [DecidableEq K]

/-! ## Lookups -/

theorem lookup_erase_eq (k j : K) (m : Table K V) :
    (m.erase k).lookup j = if j = k then none else m.lookup j := by
  split
  · rename_i h; subst h; exact AList.lookup_erase j m
  · rename_i h; exact AList.lookup_erase_ne h

theorem mem_entries {k : K} {v : V} {m : Table K V} :
    (⟨k, v⟩ : Sigma fun _ : K => V) ∈ m.entries ↔ m.lookup k = some v :=
  AList.mem_lookup_iff.symm

theorem key_mem {k : K} {v : V} {m : Table K V} (h : m.lookup k = some v) : k ∈ m.keys :=
  List.mem_keys.2 ⟨v, mem_entries.2 h⟩

theorem lookup_perm {m n : Table K V} (h : m.entries.Perm n.entries) (k : K) : m.lookup k = n.lookup k :=
  AList.perm_lookup h

/-! ## Rewriting every value in place -/

/-- Every value rewritten in place, as a loop over the table does. -/
def mapVals (f : K → V → W) (m : Table K V) : Table K W :=
  ⟨m.entries.map fun e => ⟨e.1, f e.1 e.2⟩, List.NodupKeys.map₂ f m.entries m.nodupKeys⟩

theorem lookup_mapVals (f : K → V → W) (m : Table K V) (k : K) :
    (mapVals f m).lookup k = (m.lookup k).map (f k) :=
  List.dlookup_map₂ k

/-! ## Assignment -/

/-- `m[k] = v`: in place when the key is present, else as a new entry. -/
def put (k : K) (v : V) (m : Table K V) : Table K V :=
  if (m.lookup k).isSome then mapVals (fun j w => if j = k then v else w) m else m.insert k v

theorem lookup_put (k j : K) (v : V) (m : Table K V) :
    (put k v m).lookup j = if j = k then some v else m.lookup j := by
  unfold put
  by_cases hj : j = k
  · subst hj
    split
    · rename_i h
      obtain ⟨w, hw⟩ := Option.isSome_iff_exists.1 h
      simp [lookup_mapVals, hw]
    · simp
  · split
    · simp [lookup_mapVals, hj]
    · simp [AList.lookup_insert_ne hj]

theorem lookup_put_self (k : K) (v : V) (m : Table K V) : (put k v m).lookup k = some v := by
  rw [lookup_put, if_pos rfl]

/-- What is there after an assignment is what was assigned, or was there before. -/
theorem lookup_put_some {k j : K} {v w : V} {m : Table K V} (h : (put k v m).lookup j = some w) :
    (j = k ∧ w = v) ∨ (j ≠ k ∧ m.lookup j = some w) := by
  rw [lookup_put] at h
  split at h
  · exact .inl ⟨‹_›, (Option.some.inj h).symm⟩
  · exact .inr ⟨‹_›, h⟩

/-- Assigning the value that is there changes nothing. -/
theorem put_of_lookup {k : K} {v : V} {m : Table K V} (h : m.lookup k = some v) : put k v m = m := by
  unfold put
  rw [if_pos (by rw [h]; rfl)]
  apply AList.ext
  show m.entries.map (fun e => (⟨e.1, if e.1 = k then v else e.2⟩ : Sigma fun _ : K => V)) = m.entries
  refine (List.map_congr_left fun e he => ?_).trans (List.map_id _)
  split
  · rename_i hk
    have hv := mem_entries.1 (show (⟨e.1, e.2⟩ : Sigma fun _ : K => V) ∈ m.entries from he)
    rw [hk, h] at hv
    rw [Option.some.inj hv]
    rfl
  · rfl

theorem put_perm_insert (k : K) (v : V) (m : Table K V) : (put k v m).entries.Perm (m.insert k v).entries := by
  refine List.lookup_ext (put k v m).nodupKeys (m.insert k v).nodupKeys fun j w => ?_
  show w ∈ (put k v m).lookup j ↔ w ∈ (m.insert k v).lookup j
  rw [lookup_put]
  split
  · rename_i h; subst h; rw [AList.lookup_insert]
  · rename_i h; rw [AList.lookup_insert_ne h]

theorem lookup_put_update (k : K) (v : V) (m : Table K V) :
    (fun j => (put k v m).lookup j) = Function.update (fun j => m.lookup j) k (some v) := by
  funext j
  rw [lookup_put, Function.update_apply]

/-- An assignment seen through a function of the values. -/
theorem map_lookup_put (f : V → W) (k : K) (v : V) (m : Table K V) :
    (fun j => ((put k v m).lookup j).map f) = Function.update (fun j => (m.lookup j).map f) k (some (f v)) := by
  funext j
  rw [lookup_put, Function.update_apply]
  split <;> rfl

theorem map_lookup_erase (f : V → W) (k : K) (m : Table K V) :
    (fun j => ((m.erase k).lookup j).map f) = Function.update (fun j => (m.lookup j).map f) k none := by
  funext j
  rw [lookup_erase_eq, Function.update_apply]
  split <;> rfl

/-! ## Keys that are not there -/

/-- The elements of a list whose keys the table does not have. -/
def absent {A : Type} (key : A → K) (as : List A) (m : Table K V) : List A :=
  as.filter fun a => (m.lookup (key a)).isNone

section

variable {A : Type} (key : A → K) {a : A} {as : List A} {m : Table K V}

theorem absent_cons_of_present (h : (m.lookup (key a)).isSome = true) : absent key (a :: as) m = absent key as m := by
  rw [absent, List.filter_cons_of_neg (by rw [Option.isNone_iff_eq_none]; rintro hn; rw [hn] at h; cases h), absent]

/-- An absent key is not absent once it is assigned, and no other key of a list without duplicates is its equal. -/
theorem absent_cons_of_absent (h : m.lookup (key a) = none) (v : V) (hnd : ((a :: as).map key).Nodup) :
    absent key (a :: as) m = a :: absent key as (put (key a) v m) := by
  rw [absent, List.filter_cons_of_pos (by rw [h]; rfl), absent]
  congr 1
  refine List.filter_congr fun b hb => ?_
  have hne : key b ≠ key a := by
    rintro he
    rw [List.map_cons, List.nodup_cons] at hnd
    exact hnd.1 (List.mem_map.2 ⟨b, hb, he⟩)
  rw [lookup_put, if_neg hne]

end

/-! ## Erasing by a predicate -/

/-- Every entry that satisfies `p` erased. -/
def eraseIf (p : K → V → Bool) (m : Table K V) : Table K V :=
  ⟨m.entries.filter fun e => !p e.1 e.2, m.nodupKeys.sublist List.filter_sublist⟩

theorem lookup_eraseIf (p : K → V → Bool) (m : Table K V) (k : K) :
    (eraseIf p m).lookup k = (m.lookup k).filter fun v => !p k v := by
  apply Option.ext
  intro v
  rw [← mem_entries, Option.filter_eq_some_iff, ← mem_entries]
  simp [eraseIf]

/-! ## Sums over the values -/

/-- The sum of `f` over the values. -/
def total (f : V → Nat) (m : Table K V) : Nat :=
  (m.entries.map fun e => f e.2).sum

omit [DecidableEq K] in
theorem total_perm (f : V → Nat) {m n : Table K V} (h : m.entries.Perm n.entries) :
    total f m = total f n :=
  (h.map _).sum_eq

theorem le_total {f : V → Nat} {m : Table K V} {k : K} {v : V} (h : m.lookup k = some v) : f v ≤ total f m :=
  List.single_le_sum (fun _ _ => Nat.zero_le _) _ (List.mem_map.2 ⟨⟨k, v⟩, mem_entries.2 h, rfl⟩)

theorem erase_entries (m : Table K V) (k : K) : (m.erase k).entries = m.entries.kerase k := rfl

theorem total_erase {f : V → Nat} {m : Table K V} {k : K} {v : V} (h : m.lookup k = some v) :
    total f (m.erase k) + f v = total f m := by
  obtain ⟨w, l₁, l₂, -, he, hk⟩ := List.exists_of_kerase (List.mem_keys.2 ⟨v, mem_entries.2 h⟩)
  have hw : w = v := m.nodupKeys.eq_of_mk_mem (he ▸ by simp) (mem_entries.2 h)
  unfold total
  rw [erase_entries, hk, he, hw]
  simp only [List.map_append, List.map_cons, List.sum_append, List.sum_cons]
  omega

theorem total_erase_none {f : V → Nat} {m : Table K V} {k : K} (h : m.lookup k = none) :
    total f (m.erase k) = total f m := by
  unfold total
  rw [erase_entries, List.kerase_of_notMem_keys (AList.lookup_eq_none.1 h)]

theorem total_put (f : V → Nat) (m : Table K V) (k : K) (v : V) :
    total f (put k v m) = f v + total f (m.erase k) := by
  rw [total_perm f (put_perm_insert k v m)]
  simp [total, AList.entries_insert, erase_entries]

theorem total_erase_le (f : V → Nat) (m : Table K V) (k : K) : total f (m.erase k) ≤ total f m := by
  rcases h : m.lookup k with _ | v
  · exact (total_erase_none h).le
  · have := total_erase (f := f) h
    omega

/-- An assignment adds at most its value. -/
theorem total_put_le (f : V → Nat) (m : Table K V) (k : K) (v : V) : total f (put k v m) ≤ total f m + f v := by
  have := total_erase_le f m k
  rw [total_put]; omega

omit [DecidableEq K] in
theorem total_mono {f g : V → Nat} (h : ∀ v, f v ≤ g v) (m : Table K V) : total f m ≤ total g m :=
  List.sum_le_sum fun e _ => h e.2

/-- A new key adds its value to the sum. -/
theorem total_put_new {f : V → Nat} {m : Table K V} {k : K} (v : V) (h : m.lookup k = none) :
    total f (put k v m) = total f m + f v := by
  rw [total_put, total_erase_none h]; omega

/-- An overwritten key exchanges its old value for the new one. -/
theorem total_put_old {f : V → Nat} {m : Table K V} {k : K} (v : V) {w : V} (h : m.lookup k = some w) :
    total f (put k v m) + f w = total f m + f v := by
  have := total_erase (f := f) h
  rw [total_put]; omega

omit [DecidableEq K] in
theorem total_mapVals (f : W → Nat) (g : K → V → W) (m : Table K V) :
    total f (mapVals g m) = (m.entries.map fun e => f (g e.1 e.2)).sum := by
  simp [total, mapVals, Function.comp_def]

omit [DecidableEq K] in
theorem total_eraseIf (f : V → Nat) (p : V → Bool) (m : Table K V) :
    total f (eraseIf (fun _ v => p v) m) = total (fun v => if p v then 0 else f v) m := by
  show ((m.entries.filter fun e => !p e.2).map fun e => f e.2).sum =
    (m.entries.map fun e => if p e.2 then 0 else f e.2).sum
  induction m.entries with
  | nil => rfl
  | cons e l ih =>
    cases hp : p e.2 with
    | true => simpa [hp] using ih
    | false => simpa [hp] using ih

omit [DecidableEq K] in
/-- The sum falls by what the erased values had. -/
theorem total_eraseIf_sub {f d : V → Nat} {p : V → Bool} (h : ∀ v, (if p v then 0 else f v) + d v = f v)
    (m : Table K V) : total f (eraseIf (fun _ v => p v) m) + total d m = total f m := by
  rw [total_eraseIf, total, total, total, ← List.sum_map_add]
  simp only [h]

omit [DecidableEq K] in
theorem total_eq_zero {f : V → Nat} {m : Table K V} : total f m = 0 ↔ ∀ e ∈ m.entries, f e.2 = 0 := by
  rw [total, List.sum_eq_zero_iff]
  simp only [List.mem_map, forall_exists_index, and_imp, forall_apply_eq_imp_iff₂]

omit [DecidableEq K] in
theorem total_le_length {f : V → Nat} (h : ∀ v, f v ≤ 1) (m : Table K V) : total f m ≤ m.entries.length := by
  have hle : ∀ n ∈ m.entries.map fun e => f e.2, n ≤ 1 := by
    intro n hn
    obtain ⟨e, -, rfl⟩ := List.mem_map.1 hn
    exact h e.2
  simpa [total] using List.sum_le_card_nsmul _ 1 hle

omit [DecidableEq K] in
/-- The number of entries as a sum. -/
theorem total_one (m : Table K V) : total (fun _ => 1) m = m.entries.length := by
  simp [total]

theorem length_put_le (m : Table K V) (k : K) (v : V) : (put k v m).entries.length ≤ m.entries.length + 1 := by
  rw [← total_one, ← total_one]
  exact total_put_le _ m k v

theorem length_put_old {m : Table K V} {k : K} (v : V) {w : V} (h : m.lookup k = some w) :
    (put k v m).entries.length = m.entries.length := by
  rw [← total_one, ← total_one]
  exact Nat.add_right_cancel (total_put_old v h)

/-- A table whose keys are numbered below `n` has at most `n` entries. -/
theorem length_le {number : K → Nat} (hinj : Function.Injective number) {n : Nat} {m : Table K V}
    (h : ∀ k v, m.lookup k = some v → number k < n) : m.entries.length ≤ n := by
  have hnd : (m.entries.map fun e => number e.1).Nodup := by
    have := List.Nodup.map hinj m.nodupKeys
    rwa [List.keys, List.map_map] at this
  have hsub : (m.entries.map fun e => number e.1) ⊆ List.range n := by
    intro i hi
    obtain ⟨e, he, rfl⟩ := List.mem_map.1 hi
    exact List.mem_range.2 (h e.1 e.2 (mem_entries.1 he))
  simpa using (List.subperm_of_subset hnd hsub).length_le

/-- A table has at most as many entries as there are keys for it. -/
theorem length_le_of_keys {m : Table K V} (ks : List K) (h : ∀ k v, m.lookup k = some v → k ∈ ks) :
    m.entries.length ≤ ks.length := by
  have hnd : (m.entries.map fun e => e.1).Nodup := m.nodupKeys
  have hsub : (m.entries.map fun e => e.1) ⊆ ks := by
    intro k hk
    obtain ⟨e, he, rfl⟩ := List.mem_map.1 hk
    exact h e.1 e.2 (mem_entries.1 he)
  simpa using (List.subperm_of_subset hnd hsub).length_le

/-- Tables with the same lookups have the same sums. -/
theorem total_congr {f : V → Nat} {m n : Table K V} (h : ∀ k, m.lookup k = n.lookup k) : total f m = total f n :=
  total_perm f (List.lookup_ext m.nodupKeys n.nodupKeys fun k v => by
    show v ∈ m.lookup k ↔ v ∈ n.lookup k
    rw [h k])

/-- The sum falls by what the rewritten values lose. -/
theorem total_mapVals_sub {f d : V → Nat} {g : K → V → V} (m : Table K V)
    (h : ∀ k v, m.lookup k = some v → f (g k v) + d v = f v) :
    total f (mapVals g m) + total d m = total f m := by
  rw [total_mapVals, total, total]
  have key : ∀ l : List (Sigma fun _ : K => V), (∀ e ∈ l, f (g e.1 e.2) + d e.2 = f e.2) →
      (l.map fun e => f (g e.1 e.2)).sum + (l.map fun e => d e.2).sum = (l.map fun e => f e.2).sum := by
    intro l
    induction l with
    | nil => simp
    | cons e l ih =>
      intro hl
      have h₁ := hl e (by simp)
      have h₂ := ih fun e' he' => hl e' (by simp [he'])
      simp only [List.map_cons, List.sum_cons]
      omega
  exact key m.entries fun e he => h e.1 e.2 (mem_entries.1 he)

/-! ## Iteration order -/

/-- The same entries in another order. -/
def reorder (m : Table K V) (l : List (Sigma fun _ : K => V)) (h : m.entries.Perm l) : Table K V :=
  ⟨l, (List.perm_nodupKeys h).1 m.nodupKeys⟩

section Order

variable {A B : Type*} {f : A → B} {l l' : List A}

/-- Where all elements look alike the order is not seen. -/
theorem map_eq_of_perm (h : l.Perm l') (ha : ∀ a ∈ l, ∀ b ∈ l, f a = f b) : l.map f = l'.map f := by
  cases l with
  | nil => rw [h.nil_eq]
  | cons a l =>
    have hconst : ∀ l'' : List A, (∀ b ∈ l'', b ∈ a :: l) → l''.map f = List.replicate l''.length (f a) := by
      intro l'' hsub
      rw [List.eq_replicate_iff, List.length_map]
      refine ⟨rfl, ?_⟩
      intro y hy
      obtain ⟨b, hb, rfl⟩ := List.mem_map.1 hy
      exact ha b (hsub b hb) a (List.mem_cons_self ..)
    rw [hconst _ fun b hb => hb, hconst l' fun b hb => h.mem_iff.2 hb, h.length_eq]

/-- Where every reordering begins alike all elements look alike. -/
theorem alike_of_heads (h : ∀ x xs a as, l = x :: xs → l.Perm (a :: as) → f x = f a) :
    ∀ a ∈ l, ∀ b ∈ l, f a = f b := by
  cases l with
  | nil => simp
  | cons x xs =>
    have hx : ∀ a ∈ x :: xs, f x = f a := by
      intro a ha
      obtain ⟨l₁, l₂, hl⟩ := List.append_of_mem ha
      refine h x xs a (l₁ ++ l₂) rfl ?_
      rw [hl]
      exact List.perm_middle
    intro a ha b hb
    rw [← hx a ha, hx b hb]

omit [DecidableEq K] in
theorem length_le_one_of_alike {m : Table K V} (h : ∀ e ∈ m.entries, ∀ e' ∈ m.entries, e.1 = e'.1) :
    m.entries.length ≤ 1 := by
  have hnd : (m.entries.map fun e => e.1).Nodup := m.nodupKeys
  rcases hm : m.entries with _ | ⟨e, _ | ⟨e', l⟩⟩
  · simp
  · simp
  · rw [hm] at hnd h
    have he := h e (by simp) e' (by simp)
    simp [he] at hnd

theorem alike_of_length_le_one (h : l.length ≤ 1) : ∀ a ∈ l, ∀ b ∈ l, f a = f b := by
  rcases l with _ | ⟨a, _ | ⟨b, l⟩⟩
  · simp
  · simp
  · simp at h

end Order

end Table
