import FlashSale.Store.Repository

/-!
# The marks of a purchase transaction

The marking loop of `attemptPurchase` runs `MarkItemAsSold` on its private view
once per item. `markAll` is the view after the successful marks `ids`, in order;
the lemmas say what it does to a row and how it counts the sold items of a sale.
They are used by the invariant of `FlashSale.Spec.Invariant` at `CommitTx`, where
the view becomes the committed store.
-/

namespace FlashSale

namespace Store

/-- A row after `MarkItemAsSold` of each id of `ids` in turn. -/
def markAllRow (ids : List ItemId) (u : UserId) (t : Time) (r : Item) : Item :=
  ids.foldl (fun r id => markRow id u t r) r

variable {ids : List ItemId} {u : UserId} {t : Time} {r : Item}

theorem markRow_of_sold (id : ItemId) (h : r.sold = true) : markRow id u t r = r := by
  simp [markRow, h]

theorem markRow_of_ne {id : ItemId} (h : r.id ≠ id) : markRow id u t r = r := by
  simp [markRow, h]

theorem markAllRow_id (ids : List ItemId) (u : UserId) (t : Time) (r : Item) :
    (markAllRow ids u t r).id = r.id := by
  induction ids generalizing r with
  | nil => rfl
  | cons id ids ih => exact (ih _).trans (markRow_id id u t r)

theorem markAllRow_saleId : (markAllRow ids u t r).saleId = r.saleId := by
  induction ids generalizing r with
  | nil => rfl
  | cons id ids ih =>
    rw [markAllRow, List.foldl_cons, ← markAllRow, ih]
    unfold markRow; split <;> rfl

/-- A sold row is left alone. -/
theorem markAllRow_of_sold (h : r.sold = true) : markAllRow ids u t r = r := by
  induction ids with
  | nil => rfl
  | cons id ids ih => rw [markAllRow, List.foldl_cons, markRow_of_sold id h]; exact ih

/-- A row none of the ids names is left alone. -/
theorem markAllRow_of_not_mem (h : r.id ∉ ids) : markAllRow ids u t r = r := by
  induction ids with
  | nil => rfl
  | cons id ids ih =>
    simp only [List.mem_cons, not_or] at h
    rw [markAllRow, List.foldl_cons, markRow_of_ne h.1]; exact ih h.2

/-- An unsold row one of the ids names is sold to `u` at `t`. -/
theorem markAllRow_of_mem (h : r.sold = false) (hr : r.id ∈ ids) :
    markAllRow ids u t r = { r with sold := true, soldToUserId := some u, soldAt := some t } := by
  induction ids generalizing r with
  | nil => simp at hr
  | cons id ids ih =>
    rw [markAllRow, List.foldl_cons]
    -- The first id names the row: it is sold now, and the later ids leave it.
    by_cases he : r.id = id
    · rw [show markRow id u t r = { r with sold := true, soldToUserId := some u, soldAt := some t }
        by simp [markRow, he, h]]
      exact markAllRow_of_sold rfl
    · rw [markRow_of_ne he]
      exact ih h (by simpa [he] using hr)

@[simp] theorem markAllRow_sold : (markAllRow ids u t r).sold = (r.sold || decide (r.id ∈ ids)) := by
  -- An unsold row is sold after exactly when an id names it; a sold row stays sold.
  cases h : r.sold
  · by_cases hr : r.id ∈ ids
    · simp [markAllRow_of_mem h hr, hr]
    · simp [markAllRow_of_not_mem hr, h, hr]
  · simp [markAllRow_of_sold h, h]

/-- The store after `MarkItemAsSold` of each id of `ids` in turn. -/
def markAll (s : Store) (ids : List ItemId) (u : UserId) (t : Time) : Store :=
  { s with items := s.items.update (markAllRow ids u t) (markAllRow_id ids u t) }

variable {s : Store}

@[simp] theorem markAll_sales : (s.markAll ids u t).sales = s.sales := rfl
@[simp] theorem markAll_results : (s.markAll ids u t).results = s.results := rfl
@[simp] theorem markAll_items : (s.markAll ids u t).items.rows = s.items.rows.map (markAllRow ids u t) :=
  rfl

@[simp] theorem markAll_nil : s.markAll [] u t = s := by
  obtain ⟨sales, items, results⟩ := s
  simp only [markAll, Store.mk.injEq, true_and, and_true]
  exact Table.ext (List.map_id' _)

/-- One more successful mark extends the list of marks. -/
theorem markItemAsSold_markAll (x : ItemId) :
    ((s.markAll ids u t).markItemAsSold x u t).1 = s.markAll (ids ++ [x]) u t := by
  simp only [markItemAsSold, markAll, Store.mk.injEq, true_and, and_true]
  exact Table.ext (by simp [markAllRow, List.foldl_append, Function.comp_def])

/-- A mark that affects a row names an id not marked yet, of a row unsold in the base. -/
theorem markItemAsSold_markAll_true {x : ItemId}
    (h : ((s.markAll ids u t).markItemAsSold x u t).2 = true) :
    x ∉ ids ∧ ∃ r ∈ s.items.rows, r.id = x ∧ r.sold = false := by
  simp only [markItemAsSold, markAll_items, List.any_map, List.any_eq_true, Function.comp_apply,
    Bool.and_eq_true, decide_eq_true_eq, Bool.not_eq_true', markAllRow_id, markAllRow_sold,
    Bool.or_eq_false_iff, decide_eq_false_iff_not] at h
  obtain ⟨r, hr, rfl, h1, h2⟩ := h
  exact ⟨h2, r, hr, rfl, h1⟩

/-- Marking leaves every sold row as it was. -/
theorem mem_markAll_of_sold (hr : r ∈ s.items.rows) (h : r.sold = true) :
    r ∈ (s.markAll ids u t).items.rows := by
  rw [markAll_items]
  exact List.mem_map.2 ⟨r, hr, markAllRow_of_sold h⟩

/-- `UpdateSale` with a row the table already holds changes nothing. -/
theorem updateSale_of_mem {sale : Sale} (h : sale ∈ s.sales.rows) : s.updateSale sale = s := by
  obtain ⟨sales, items, results⟩ := s
  simp only [updateSale, Store.mk.injEq, true_and, and_true]
  refine Table.ext ?_
  conv_rhs => rw [← List.map_id sales.rows]
  -- The row with the sale's id is the sale itself, by the primary key.
  refine List.map_congr_left fun x hx => ?_
  unfold saleRow; split
  · exact (sales.eq_of_key_eq hx h ‹_›).symm
  · rfl

/-! ### Counting the items of a sale -/

/-- The number of items of sale `id`. -/
def itemCount (s : Store) (id : SaleId) : Nat := s.items.rows.countP fun i => decide (i.saleId = id)

/-- The number of sold items of sale `id`. -/
def soldCount (s : Store) (id : SaleId) : Nat :=
  s.items.rows.countP fun i => decide (i.saleId = id) && i.sold

theorem soldCount_le_itemCount (id : SaleId) : s.soldCount id ≤ s.itemCount id :=
  List.countP_mono_left fun i _ h => by simp_all

@[simp] theorem itemCount_markAll (id : SaleId) : (s.markAll ids u t).itemCount id = s.itemCount id := by
  simp only [itemCount, markAll_items, List.countP_map]
  exact List.countP_congr fun r _ => by simp [markAllRow_saleId]

private theorem countP_or {α : Type} {l : List α} {p q : α → Bool}
    (h : ∀ a ∈ l, p a = true → q a = false) :
    l.countP (fun a => p a || q a) = l.countP p + l.countP q := by
  induction l with
  | nil => rfl
  | cons a l ih =>
    simp only [List.countP_cons, ih fun b hb => h b (List.mem_cons_of_mem a hb)]
    -- `p` and `q` never hold together, so each row counts once.
    have := h a (List.mem_cons_self a l)
    cases hp : p a <;> cases hq : q a <;> simp_all <;> omega

/-- Marking a duplicate-free list of ids of unsold items of sale `saleId` adds its
    length to that sale's sold count and leaves the other sales' counts alone. -/
theorem soldCount_markAll {saleId : SaleId} (hn : ids.Nodup) (hsub : ids ⊆ s.items.rows.map Item.id)
    (hu : ∀ r ∈ s.items.rows, r.id ∈ ids → r.sold = false ∧ r.saleId = saleId) (id : SaleId) :
    (s.markAll ids u t).soldCount id = s.soldCount id + if id = saleId then ids.length else 0 := by
  have hpt : ∀ r ∈ s.items.rows,
      (decide ((markAllRow ids u t r).saleId = id) && (markAllRow ids u t r).sold) =
      ((decide (r.saleId = id) && r.sold) || (decide (id = saleId) && decide (r.id ∈ ids))) := by
    -- A marked row is an unsold row of `saleId`; any other row keeps its flag.
    intro r hr
    rw [markAllRow_saleId, markAllRow_sold]
    by_cases hi : r.id ∈ ids
    · obtain ⟨h1, h2⟩ := hu r hr hi
      subst h2; simp [h1, hi, eq_comm]
    · simp [hi]
  simp only [soldCount, markAll_items, List.countP_map]
  rw [List.countP_congr (q := fun r => (decide (r.saleId = id) && r.sold) ||
      (decide (id = saleId) && decide (r.id ∈ ids))) fun r hr => by
        simpa using congrArg (· = true) (hpt r hr)]
  -- The rows sold before and the rows the marks name are disjoint.
  rw [countP_or fun r hr h => by
    obtain ⟨h1, h2⟩ : r.saleId = id ∧ r.sold = true := by simpa using h
    by_contra hc
    simp only [Bool.not_eq_false, Bool.and_eq_true, decide_eq_true_eq] at hc
    simp [(hu r hr hc.2).1] at h2]
  -- The rows the marks name are exactly `ids.length` rows, by the primary key.
  split
  · rename_i he; simpa [he] using s.items.countP_key_mem hn hsub
  · simp [*]

end Store

end FlashSale
