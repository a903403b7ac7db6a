import Mathlib.Data.List.Nodup

/-!
# Tables with a primary key

A table of the durable store is a list of rows whose primary keys are pairwise
distinct. The key constraint is a field of the structure, so a table that breaks
it cannot be built, and an `INSERT` that would break it fails, as it does in
PostgreSQL. Rows stay in insertion order, which stands for the heap order that
unordered queries return.
-/

namespace FlashSale

/-- A table whose rows have pairwise distinct primary keys `key`. -/
structure Table (α : Type) {κ : Type} (key : α → κ) where
  rows : List α
  pk : (rows.map key).Nodup

namespace Table

variable {α κ : Type} {key : α → κ}

instance [DecidableEq α] : DecidableEq (Table α key) := fun a b =>
  decidable_of_iff (a.rows = b.rows) <| by
    cases a; cases b; simp

/-- The empty table. -/
def empty : Table α key := ⟨[], List.nodup_nil⟩

/-- `UPDATE`, by a function that keeps every row's key. -/
def update (t : Table α key) (f : α → α) (hf : ∀ r, key (f r) = key r) : Table α key :=
  ⟨t.rows.map f, by rw [List.map_map, show key ∘ f = key from funext hf]; exact t.pk⟩

/-- `DELETE ... WHERE p`. -/
def delete (t : Table α key) (p : α → Bool) : Table α key :=
  ⟨t.rows.filter (fun r => !p r), ((List.filter_sublist _).map key).nodup t.pk⟩

@[simp] theorem rows_empty : (empty : Table α key).rows = [] := rfl

@[simp] theorem rows_update (t : Table α key) (f : α → α) (hf) :
    (t.update f hf).rows = t.rows.map f := rfl

@[simp] theorem rows_delete (t : Table α key) (p : α → Bool) :
    (t.delete p).rows = t.rows.filter (fun r => !p r) := rfl

theorem ext {t u : Table α key} (h : t.rows = u.rows) : t = u := by
  cases t; cases u; simp_all

/-- The key of a row determines the row. -/
theorem eq_of_key_eq (t : Table α key) {r s : α} (hr : r ∈ t.rows) (hs : s ∈ t.rows)
    (h : key r = key s) : r = s :=
  List.inj_on_of_nodup_map t.pk hr hs h

variable [DecidableEq κ]

/-- The row with primary key `k`. -/
def find (t : Table α key) (k : κ) : Option α := t.rows.find? (key · = k)

/-- `INSERT`: fails on a duplicate primary key. -/
def insert (t : Table α key) (r : α) : Option (Table α key) :=
  if h : key r ∈ t.rows.map key then none
  else some ⟨t.rows ++ [r], by
    rw [List.map_append, List.nodup_append]
    exact ⟨t.pk, List.nodup_singleton _, by simpa using h⟩⟩

/-- Several `INSERT`s in one transaction: all rows or none. -/
def insertAll (t : Table α key) (rs : List α) : Option (Table α key) := rs.foldlM insert t

/-! ## Lemmas -/

/-- A successful insert appends the row and says its key was new. -/
theorem insert_eq_some {t u : Table α key} {r : α} (h : t.insert r = some u) :
    u.rows = t.rows ++ [r] ∧ ∀ s ∈ t.rows, key s ≠ key r := by
  unfold insert at h
  split at h
  · cases h
  · rename_i hn
    cases h
    exact ⟨rfl, fun s hs he => hn (List.mem_map.2 ⟨s, hs, he⟩)⟩

theorem insert_eq_some_of {t : Table α key} {r : α} (h : ∀ s ∈ t.rows, key s ≠ key r) :
    ∃ u, t.insert r = some u := by
  unfold insert
  rw [dif_neg]
  · exact ⟨_, rfl⟩
  · simpa using fun s hs => h s hs

/-- A successful `insertAll` appends all the rows. -/
theorem insertAll_eq_some {t u : Table α key} {rs : List α} (h : t.insertAll rs = some u) :
    u.rows = t.rows ++ rs := by
  induction rs generalizing t with
  | nil => simp only [insertAll, List.foldlM_nil] at h; cases h; simp
  | cons r rs ih =>
    simp only [insertAll, List.foldlM_cons, Option.bind_eq_bind, Option.bind_eq_some] at h
    obtain ⟨t', ht', h⟩ := h
    rw [ih h, (insert_eq_some ht').1, List.append_assoc, List.singleton_append]

theorem find_eq_some {t : Table α key} {k : κ} {r : α} :
    t.find k = some r ↔ r ∈ t.rows ∧ key r = k := by
  constructor
  · intro h
    exact ⟨List.mem_of_find?_eq_some h, by simpa using List.find?_some h⟩
  · rintro ⟨hr, rfl⟩
    -- The lookup finds some row with the key, and the key is primary, so it is r.
    obtain ⟨s, hs⟩ : ∃ s, t.find (key r) = some s := by
      cases h : t.find (key r) with
      | none => simp [find, List.find?_eq_none] at h; exact absurd rfl (h r hr)
      | some s => exact ⟨s, rfl⟩
    have hs' := List.mem_of_find?_eq_some hs
    rw [hs, t.eq_of_key_eq hs' hr (by simpa using List.find?_some hs)]

/-- Counting the rows whose key is in a duplicate-free list of keys of the table. -/
theorem countP_key_mem (t : Table α key) {ks : List κ} (hks : ks.Nodup)
    (hsub : ks ⊆ t.rows.map key) : t.rows.countP (fun r => decide (key r ∈ ks)) = ks.length := by
  -- The table's keys that are in ks are ks itself, both lists being duplicate-free.
  have hp : List.Perm ((t.rows.map key).filter (fun k => decide (k ∈ ks))) ks :=
    (List.perm_ext_iff_of_nodup (t.pk.filter _) hks).2 fun k => by
      simpa using fun hk => hsub hk
  rw [← hp.length_eq, ← List.countP_eq_length_filter, List.countP_map]
  rfl

theorem find_eq_none {t : Table α key} {k : κ} :
    t.find k = none ↔ ∀ r ∈ t.rows, key r ≠ k := by
  simp [find, List.find?_eq_none]

end Table

end FlashSale
