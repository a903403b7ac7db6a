import FlashSale.System
import FlashSale.Spec.Marking

/-!
# The invariant of the service

`Inv` is what holds in every reachable world (`FlashSale.Spec.Reachable` proves it).
It has three parts.

* `StoreInv`: facts of the committed store and of the ghost history. The sold
  rows are exactly the items the committed purchases marked, each marked once,
  sold to the user of the purchase's checkout; `purchase_results` holds one row per
  committed purchase; every sale's `items_sold` is its count of sold items, and no
  sale has more items than `total_items`; every id ever added to the sold-items
  filter is sold or was marked by some transaction.
* `ProcInv`: what each running request knows at its program counter. For a
  purchase attempt this is the relation between its transaction's snapshot, its
  private view and the committed store.
* `PendingInv`: the sale creators between `CreateSale` and `CreateItems`.

This module proves that each kind of change of the committed store keeps
`StoreInv`: a commit of a purchase (`StoreInv.commit`), `CreateSale`,
`CreateItems`, and the changes that leave the store alone (`StoreInv.of_quiet`).
-/

namespace FlashSale

namespace Store

/-- Item `x` has a sold row. -/
def IsSold (s : Store) (x : ItemId) : Prop := ∃ r ∈ s.items.rows, r.id = x ∧ r.sold = true

instance (s : Store) (x : ItemId) : Decidable (s.IsSold x) :=
  inferInstanceAs (Decidable (∃ r ∈ s.items.rows, r.id = x ∧ r.sold = true))

/-- The store a purchase transaction commits: its marks, `UpdateSale` with the
    sale it loaded and `items_sold` raised by the marks, and `SavePurchaseResult`. -/
def purchased (s : Store) (ch : Checkout) (t : Time) (sale : Sale) (items : List Item)
    (succ : List ItemId) : Store :=
  ((s.markAll succ ch.userId t).updateSale { sale with itemsSold := sale.itemsSold + succ.length })
    |>.savePurchaseResult ch.code (calculatePurchaseResult items succ)

end Store

/-- The columns of a sale row that only its creation writes. -/
def Sale.fixed (sl : Sale) : SaleId × Time × Time × Nat :=
  (sl.id, sl.startedAt, sl.endedAt, sl.totalItems)

/-- What a committed purchase read, marked and saved. -/
structure Commit.Ok (cm : Commit) : Prop where
  code : cm.checkout.code = cm.code
  result : cm.result = calculatePurchaseResult cm.items cm.successful
  successful : ∀ x ∈ cm.successful, x ∈ cm.items.map Item.id
  items : ∀ i ∈ cm.items, i.id ∈ cm.checkout.itemIds ∧ i.saleId = cm.checkout.saleId
  length : cm.items.length ≤ maxItemsPerUser

/-- The facts of the committed store and the ghost history. -/
structure StoreInv (s : Shared) : Prop where
  /-- `items.sale_id REFERENCES sales(id)`. -/
  fk : ∀ i ∈ s.db.store.items.rows, ∃ sl ∈ s.db.store.sales.rows, sl.id = i.saleId
  /-- Every id a committed purchase marked is sold to that purchase's user, in its sale. -/
  sold : ∀ cm ∈ s.commits, ∀ x ∈ cm.successful, ∃ r ∈ s.db.store.items.rows, r.id = x ∧
    r.sold = true ∧ r.soldToUserId = some cm.checkout.userId ∧ r.soldAt.isSome ∧
    r.saleId = cm.checkout.saleId
  /-- Every sold item was marked by a committed purchase. -/
  soldBy : ∀ r ∈ s.db.store.items.rows, r.sold = true → ∃ cm ∈ s.commits, r.id ∈ cm.successful
  /-- No id was marked by two committed purchases. -/
  once : (s.commits.flatMap (·.successful)).Nodup
  /-- `purchase_results` holds the results of the committed purchases, in order. -/
  results : s.db.store.results.rows = s.commits.map fun cm => ⟨cm.code, cm.result⟩
  commitOk : ∀ cm ∈ s.commits, cm.Ok
  /-- `items_sold` counts the sold items, and a sale has at most `total_items` items. -/
  sales : ∀ sl ∈ s.db.store.sales.rows,
    sl.itemsSold = s.db.store.soldCount sl.id ∧ s.db.store.itemCount sl.id ≤ sl.totalItems
  /-- Every id ever added to the sold-items filter is sold, or some transaction marked it. -/
  bloom : ∀ x ∈ s.bloomAdded, s.db.store.IsSold x ∨ x ∈ s.marked
  /-- `sold_to_user_id` is written only together with `sold`. -/
  buyer : ∀ r ∈ s.db.store.items.rows, r.sold = false → r.soldToUserId = none

/-- How the shared state can change under a process that is not running: sold rows
    stay, and the ghost histories only grow. -/
structure Grows (s s' : Shared) : Prop where
  sold : ∀ r ∈ s.db.store.items.rows, r.sold = true → r ∈ s'.db.store.items.rows
  commits : ∀ cm ∈ s.commits, cm ∈ s'.commits
  marked : ∀ x ∈ s.marked, x ∈ s'.marked

theorem Grows.isSold {s s' : Shared} (hg : Grows s s') {x : ItemId} (h : s.db.store.IsSold x) :
    s'.db.store.IsSold x :=
  let ⟨r, hr, hx, hs⟩ := h; ⟨r, hg.sold r hr hs, hx, hs⟩

/-! ### What a purchase attempt knows -/

/-- The snapshot of a transaction past the idempotency probe: the code has no result
    in it, and its sold rows are still committed. -/
structure Fresh (s : Shared) (ch : Checkout) (base : Store) : Prop where
  noResult : base.getPurchaseResult ch.code = none
  sold : ∀ r ∈ base.items.rows, r.sold = true → r ∈ s.db.store.items.rows

/-- The sale an attempt loaded: the snapshot's row of the checkout's sale. -/
def SaleOf (ch : Checkout) (base : Store) (sale : Sale) : Prop :=
  sale ∈ base.sales.rows ∧ sale.id = ch.saleId

/-- An attempt after `ValidatePurchase` and its marks so far: the items it read are
    snapshot rows of the checkout and its sale, at most `maxItemsPerUser`; the marks
    are distinct ids of items it read that were unsold in the snapshot. -/
structure Marks (s : Shared) (ch : Checkout) (base : Store) (items : List Item) (succ : List ItemId)
    extends Fresh s ch base : Prop where
  read : ∀ i ∈ items, i ∈ base.items.rows ∧ i.id ∈ ch.itemIds ∧ i.saleId = ch.saleId
  length : items.length ≤ maxItemsPerUser
  nodup : succ.Nodup
  successful : ∀ x ∈ succ, x ∈ s.marked ∧ x ∈ items.map Item.id ∧
    ∃ r ∈ base.items.rows, r.id = x ∧ r.sold = false

/-- The marking loop: `Marks`, the loaded sale, and the view is the snapshot with the
    marks applied. -/
def Marking (s : Shared) (ch : Checkout) (tx : Tx) (sale : Sale) (items : List Item)
    (succ : List ItemId) : Prop :=
  Marks s ch tx.base items succ ∧ SaleOf ch tx.base sale ∧
    tx.view = tx.base.markAll succ ch.userId tx.startedAt

/-- What an attempt knows at each of its program points. -/
def AttemptInv (s : Shared) (ch : Checkout) : AttemptPc → Prop
  | .log _ | .userCount | .saleCount _ | .begin => True
  | .probe tx => tx.view = tx.base ∧ ∀ r ∈ tx.base.items.rows, r.sold = true → r ∈ s.db.store.items.rows
  | .getSale tx => tx.view = tx.base ∧ Fresh s ch tx.base
  | .getItems tx sale rest items => tx.view = tx.base ∧ Fresh s ch tx.base ∧ SaleOf ch tx.base sale ∧
      (∀ x ∈ rest, x ∈ ch.itemIds) ∧ ∀ i ∈ items, i ∈ tx.base.items.rows ∧ i.id ∈ ch.itemIds
  | .bloomCheck tx sale items rest succ => Marking s ch tx sale items succ ∧ ∀ i ∈ rest, i ∈ items
  | .mark tx sale items item rest succ =>
      Marking s ch tx sale items succ ∧ item ∈ items ∧ ∀ i ∈ rest, i ∈ items
  | .bloomAdd tx sale items item rest succ => Marking s ch tx sale items succ ∧
      (item.id ∈ s.marked ∨ s.db.store.IsSold item.id) ∧ ∀ i ∈ rest, i ∈ items
  | .increment tx sale items succ | .updateSale tx sale items succ => Marking s ch tx sale items succ
  | .save tx sale items succ => Marks s ch tx.base items succ ∧ ∃ sale₀, SaleOf ch tx.base sale₀ ∧
      sale = { sale₀ with itemsSold := sale₀.itemsSold + succ.length } ∧
      tx.view = (tx.base.markAll succ ch.userId tx.startedAt).updateSale sale
  | .commit tx _ items succ => Marks s ch tx.base items succ ∧ ∃ sale₀, SaleOf ch tx.base sale₀ ∧
      tx.view = tx.base.purchased ch tx.startedAt sale₀ items succ

/-- Process `pid` committed a purchase of `code` whose saved result is `r`. -/
def Committed (s : Shared) (pid : Nat) (code : Code) (r : PurchaseResult) : Prop :=
  ∃ cm ∈ s.commits, cm.pid = pid ∧ cm.code = code ∧ cm.result = r

/-- What `ExecutePurchase` knows at each of its program points: the checkout it
    loaded carries its code, and cleanup and a successful return come after a commit
    whose result is a success. -/
def PurchaseInv (s : Shared) (pid : Nat) (p : PurchaseProc) : Prop :=
  match p.pc with
  | .getCheckoutItems _ row => row.checkoutCode = p.code
  | .restoreCode ch | .lock ch => ch.code = p.code
  | .attempt ch _ a => ch.code = p.code ∧ AttemptInv s ch a
  | .removeUserCode _ r | .removeCode _ r | .deleteCheckout _ r =>
      Committed s pid p.code r ∧ r.success = true
  | .release out | .done out => ∀ r, out = .ok r → Committed s pid p.code r ∧ r.success = true
  | _ => True

/-- What each running request knows. -/
def ProcInv (s : Shared) (pid : Nat) : Proc → Prop
  | .checkout p => p.pc = .addSoldToBloom → s.db.store.IsSold p.itemId
  | .purchase p => PurchaseInv s pid p
  | .create p => ∀ sale, p.pc = .createSale sale → sale.itemsSold = 0

/-- The sale a creator is about to fill with items. -/
def Proc.pendingSale : Proc → Option Sale
  | .create ⟨_, .createItems sale⟩ => some sale
  | _ => none

/-- The sale process `i` is about to fill with items. -/
def pendingAt (procs : List Proc) (i : Nat) : Option Sale := procs[i]?.bind Proc.pendingSale

/-- The creators between `CreateSale` and `CreateItems`: each has its own sale, whose
    row is committed and which has no items yet. -/
structure PendingInv (s : Shared) (procs : List Proc) : Prop where
  unique : ∀ (i j : Nat) (a b : Sale), pendingAt procs i = some a → pendingAt procs j = some b →
    a.id = b.id → i = j
  fresh : ∀ (i : Nat) (a : Sale), pendingAt procs i = some a →
    a.fixed ∈ s.db.store.sales.rows.map Sale.fixed ∧ s.db.store.itemCount a.id = 0

/-- The invariant of a world. -/
structure Inv (w : World) : Prop where
  store : StoreInv w.shared
  pending : PendingInv w.shared w.procs
  procs : ∀ pid p, w.procs[pid]? = some p → ProcInv w.shared pid p

/-! ### Monotonicity under other processes' steps -/

section Mono

variable {s s' : Shared} (hg : Grows s s')
include hg

theorem Fresh.mono {ch : Checkout} {base : Store} (h : Fresh s ch base) : Fresh s' ch base :=
  ⟨h.noResult, fun r hr hs => hg.sold r (h.sold r hr hs) hs⟩

theorem Marks.mono {ch : Checkout} {base : Store} {items : List Item} {succ : List ItemId}
    (h : Marks s ch base items succ) : Marks s' ch base items succ :=
  { h.toFresh.mono hg with
    read := h.read, length := h.length, nodup := h.nodup
    successful := fun x hx => let ⟨h₁, h₂⟩ := h.successful x hx; ⟨hg.marked x h₁, h₂⟩ }

theorem Marking.mono {ch : Checkout} {tx : Tx} {sale : Sale} {items : List Item}
    {succ : List ItemId} (h : Marking s ch tx sale items succ) : Marking s' ch tx sale items succ :=
  ⟨h.1.mono hg, h.2⟩

theorem AttemptInv.mono {ch : Checkout} : ∀ {a : AttemptPc}, AttemptInv s ch a → AttemptInv s' ch a
  | .log _, h | .userCount, h | .saleCount _, h | .begin, h => h
  | .probe _, h => ⟨h.1, fun r hr hs => hg.sold r (h.2 r hr hs) hs⟩
  | .getSale _, h => ⟨h.1, h.2.mono hg⟩
  | .getItems .., h => ⟨h.1, h.2.1.mono hg, h.2.2⟩
  | .bloomCheck .., h => ⟨h.1.mono hg, h.2⟩
  | .mark .., h => ⟨h.1.mono hg, h.2⟩
  | .bloomAdd .., h => ⟨h.1.mono hg, h.2.1.imp (hg.marked _) hg.isSold, h.2.2⟩
  | .increment .., h | .updateSale .., h => ⟨h.1.mono hg, h.2⟩
  | .save .., h => ⟨h.1.mono hg, h.2⟩
  | .commit .., h => ⟨h.1.mono hg, h.2⟩

theorem Committed.mono {pid : Nat} {code : Code} {r : PurchaseResult} (h : Committed s pid code r) :
    Committed s' pid code r :=
  let ⟨cm, hm, h⟩ := h; ⟨cm, hg.commits cm hm, h⟩

theorem PurchaseInv.mono {pid : Nat} {p : PurchaseProc} (h : PurchaseInv s pid p) :
    PurchaseInv s' pid p := by
  obtain ⟨code, pc⟩ := p
  cases pc <;> simp only [PurchaseInv] at h ⊢
  all_goals first
    | exact h
    | exact ⟨h.1.mono hg, h.2⟩
    | exact ⟨h.1, h.2.mono hg⟩
    | exact fun r hr => ⟨(h r hr).1.mono hg, (h r hr).2⟩

theorem ProcInv.mono {pid : Nat} : ∀ {p : Proc}, ProcInv s pid p → ProcInv s' pid p
  | .checkout _, h => fun hpc => hg.isSold (h hpc)
  | .create _, h => h
  | .purchase _, h => PurchaseInv.mono hg h

end Mono

/-! ### The store a purchase commits -/

namespace Store

variable {s : Store} {ch : Checkout} {t : Time} {sale : Sale} {items : List Item}
  {succ : List ItemId}

@[simp] theorem purchased_items :
    (s.purchased ch t sale items succ).items = (s.markAll succ ch.userId t).items := by
  simp [purchased]

@[simp] theorem purchased_sales : (s.purchased ch t sale items succ).sales.rows =
    s.sales.rows.map (saleRow { sale with itemsSold := sale.itemsSold + succ.length }) := by
  simp [purchased]

theorem purchased_results (h : s.getPurchaseResult ch.code = none) :
    (s.purchased ch t sale items succ).results.rows =
      s.results.rows ++ [⟨ch.code, calculatePurchaseResult items succ⟩] :=
  savePurchaseResult_rows (by simpa [getPurchaseResult] using h)

@[simp] theorem purchased_soldCount (id : SaleId) :
    (s.purchased ch t sale items succ).soldCount id = (s.markAll succ ch.userId t).soldCount id := by
  simp only [soldCount, purchased_items]

@[simp] theorem purchased_itemCount (id : SaleId) :
    (s.purchased ch t sale items succ).itemCount id = s.itemCount id := by
  simp only [itemCount, purchased_items]; exact itemCount_markAll id

/-- A purchase leaves every sold row as it was. -/
theorem mem_purchased_of_sold {r : Item} (hr : r ∈ s.items.rows) (h : r.sold = true) :
    r ∈ (s.purchased ch t sale items succ).items.rows := by
  rw [purchased_items]; exact mem_markAll_of_sold hr h

theorem IsSold.purchased {x : ItemId} (h : s.IsSold x) : (s.purchased ch t sale items succ).IsSold x :=
  let ⟨r, hr, hx, hs⟩ := h; ⟨r, mem_purchased_of_sold hr hs, hx, hs⟩

/-- Every row of the committed store is a snapshot row, sold now exactly when it was
    sold before or its id was marked. -/
theorem mem_purchased {r' : Item} (h : r' ∈ (s.purchased ch t sale items succ).items.rows) :
    ∃ r ∈ s.items.rows, r' = markAllRow succ ch.userId t r := by
  simpa [eq_comm] using h

end Store

/-- A mark of an attempt is the id of a snapshot row unsold there, of the checkout's sale. -/
theorem Marks.unsold {s : Shared} {ch : Checkout} {base : Store} {items : List Item}
    {succ : List ItemId} (hm : Marks s ch base items succ) {r : Item} (hr : r ∈ base.items.rows)
    (hx : r.id ∈ succ) : r.sold = false ∧ r.saleId = ch.saleId := by
  -- The mark names a snapshot row `r₀`, unsold there, and an item `i` the attempt read;
  -- both are `r` by the primary key.
  obtain ⟨-, hi, r₀, hr₀, hid, hs⟩ := hm.successful _ hx
  obtain ⟨i, hi, hid'⟩ := List.mem_map.1 hi
  obtain ⟨hib, -, hsale⟩ := hm.read i hi
  have h₀ : r₀ = r := base.items.eq_of_key_eq hr₀ hr hid
  have h₁ : i = r := base.items.eq_of_key_eq hib hr hid'
  exact ⟨h₀ ▸ hs, h₁ ▸ hsale⟩

theorem Marks.subset {s : Shared} {ch : Checkout} {base : Store} {items : List Item}
    {succ : List ItemId} (hm : Marks s ch base items succ) : succ ⊆ base.items.rows.map Item.id :=
  fun x hx => let ⟨_, _, r, hr, hid, _⟩ := hm.successful x hx; List.mem_map.2 ⟨r, hr, hid⟩

section Commit

variable {s : Shared} {pid : Nat} {ch : Checkout} {tx : Tx} {sale : Sale} {items : List Item}
  {succ : List ItemId}

/-- The shared state after a purchase commits. -/
def Shared.commitPurchase (s : Shared) (pid : Nat) (ch : Checkout) (tx : Tx) (sale : Sale)
    (items : List Item) (succ : List ItemId) : Shared :=
  { s with
    db := { s.db with store := tx.base.purchased ch tx.startedAt sale items succ }
    commits := s.commits ++ [⟨pid, ch.code, ch, items, succ, calculatePurchaseResult items succ⟩] }

/-- A purchase that commits keeps the invariant of the store: it runs as if alone,
    on the committed store, marks unsold items of its sale, raises `items_sold` by as
    many, and saves the only result of its code. -/
theorem StoreInv.commit (hs : StoreInv s) (hm : Marks s ch tx.base items succ)
    (hsale : SaleOf ch tx.base sale)
    (hb : s.db.store = tx.base) : StoreInv (s.commitPurchase pid ch tx sale items succ) := by
  obtain ⟨fk, sold, soldBy, once, results, commitOk, sales, bloom, buyer⟩ := hs
  -- The attempt ran on the committed store: its snapshot is that store.
  rw [hb] at fk sold soldBy results sales bloom buyer
  -- The marks raise each sale's sold count by its marked ids, all unsold before.
  have hcount := fun id => Store.soldCount_markAll (u := ch.userId) (t := tx.startedAt) hm.nodup
    hm.subset (fun r hr hx => hm.unsold hr hx) id
  refine ⟨?fk, ?sold, ?soldBy, ?once, ?results, ?commitOk, ?sales, ?bloom, ?buyer⟩
  -- Marking changes no `sale_id`, and `UpdateSale` keeps every sale id.
  case fk =>
    intro i' hi'
    obtain ⟨i, hi, rfl⟩ := Store.mem_purchased hi'
    obtain ⟨sl, hsl, hid⟩ := fk i hi
    refine ⟨Store.saleRow { sale with itemsSold := sale.itemsSold + succ.length } sl, ?_, ?_⟩
    · simp only [Shared.commitPurchase, Store.purchased_sales]
      exact List.mem_map_of_mem _ hsl
    · rw [Store.saleRow_id, Store.markAllRow_saleId, hid]
  case sold =>
    simp only [Shared.commitPurchase, List.mem_append, List.mem_singleton]
    -- An earlier commit's marks are sold rows, which the marks leave alone; the new
    -- commit's marks are the rows it just updated.
    rintro cm (hcm | rfl) x hx
    · obtain ⟨r, hr, hrx, hrs, h⟩ := sold cm hcm x hx
      exact ⟨r, Store.mem_purchased_of_sold hr hrs, hrx, hrs, h⟩
    · obtain ⟨-, -, r, hr, rfl, hrs⟩ := hm.successful x hx
      refine ⟨{ r with sold := true, soldToUserId := some ch.userId, soldAt := some tx.startedAt },
        ?_, rfl, rfl, rfl, rfl, (hm.unsold hr hx).2⟩
      have := List.mem_map_of_mem (Store.markAllRow succ ch.userId tx.startedAt) hr
      rw [Store.markAllRow_of_mem hrs hx] at this
      simpa only [Shared.commitPurchase, Store.purchased_items, Store.markAll_items]
  -- A sold row was sold before, by an earlier commit, or is one of the new marks.
  case soldBy =>
    intro r' hr' hs'
    obtain ⟨r, hr, rfl⟩ := Store.mem_purchased hr'
    simp only [Store.markAllRow_sold, Bool.or_eq_true, decide_eq_true_eq] at hs'
    simp only [Shared.commitPurchase, List.mem_append, List.mem_singleton, Store.markAllRow_id]
    rcases hs' with hs' | hx
    · obtain ⟨cm, hcm, h⟩ := soldBy r hr hs'
      exact ⟨cm, .inl hcm, h⟩
    · exact ⟨_, .inr rfl, hx⟩
  -- The new marks were unsold in the snapshot, so no earlier commit marked them.
  case once =>
    simp only [Shared.commitPurchase, List.flatMap_append, List.flatMap_singleton]
    refine List.nodup_append.2 ⟨once, hm.nodup, fun x hx hx' => ?_⟩
    obtain ⟨cm, hcm, hx⟩ := List.mem_flatMap.1 hx
    obtain ⟨r, hr, rfl, hrs, -⟩ := sold cm hcm x hx
    simp [(hm.unsold hr hx').1] at hrs
  -- The code had no result in the snapshot; `SavePurchaseResult` appends it.
  case results =>
    simp [Shared.commitPurchase, Store.purchased_results hm.noResult, results]
  -- The new commit read its checkout's items of its sale, at most `maxItemsPerUser`.
  case commitOk =>
    simp only [Shared.commitPurchase, List.mem_append, List.mem_singleton]
    rintro cm (hcm | rfl)
    · exact commitOk cm hcm
    · exact ⟨rfl, rfl, fun x hx => (hm.successful x hx).2.1,
        fun i hi => ⟨(hm.read i hi).2.1, (hm.read i hi).2.2⟩, hm.length⟩
  -- Only the loaded sale's row changes: its `items_sold` grows by the marks, and so
  -- does its sold count.
  case sales =>
    intro sl' hsl'
    simp only [Shared.commitPurchase, Store.purchased_sales, List.mem_map] at hsl'
    obtain ⟨sl, hsl, rfl⟩ := hsl'
    simp only [Shared.commitPurchase, Store.purchased_soldCount, Store.purchased_itemCount, hcount,
      Store.saleRow_id]
    unfold Store.saleRow
    split
    -- The loaded sale, which is `sl` by the primary key.
    · rename_i he
      obtain rfl : sl = sale := tx.base.sales.eq_of_key_eq hsl hsale.1 he
      obtain ⟨h₁, h₂⟩ := sales sl hsl
      rw [hsale.2] at h₁ h₂
      simp [hsale.2, h₁, h₂]
    · rename_i hne
      simp [show sl.id ≠ ch.saleId from hsale.2 ▸ hne, sales sl hsl]
  -- Sold items stay sold, and the marks stay marked.
  case bloom =>
    intro x hx
    exact (bloom x hx).imp_left Store.IsSold.purchased
  -- An unsold row after the commit was unsold before and is not a mark.
  case buyer =>
    intro r' hr' hs'
    obtain ⟨r, hr, rfl⟩ := Store.mem_purchased hr'
    simp only [Store.markAllRow_sold, Bool.or_eq_false_iff, decide_eq_false_iff_not] at hs'
    rw [Store.markAllRow_of_not_mem hs'.2]
    exact buyer r hr hs'.1

/-- A commit only adds sold rows and history. -/
theorem Grows.commit (hb : s.db.store = tx.base) :
    Grows s (s.commitPurchase pid ch tx sale items succ) where
  sold _ hr hs := Store.mem_purchased_of_sold (hb ▸ hr) hs
  commits _ hcm := List.mem_append_left _ hcm
  marked _ h := h

end Commit

/-- A purchase never writes `started_at`, `ended_at` or `total_items`: the sale row
    it updates is the snapshot's, with only `items_sold` changed. -/
theorem Store.purchased_fixed {st : Store} {ch : Checkout} {t : Time} {sale : Sale}
    {items : List Item} {succ : List ItemId} (hsale : sale ∈ st.sales.rows) :
    (st.purchased ch t sale items succ).sales.rows.map Sale.fixed = st.sales.rows.map Sale.fixed := by
  rw [Store.purchased_sales, List.map_map]
  refine List.map_congr_left fun sl hsl => ?_
  simp only [Function.comp_apply, Store.saleRow]
  -- The updated row is the loaded sale with another `items_sold`.
  split
  · rename_i he
    obtain rfl : sl = sale := st.sales.eq_of_key_eq hsl hsale he
    rfl
  · rfl

/-! ### Steps that leave the committed store alone, and sale creation -/

/-- A step that leaves the committed store and the commits alone: it may mark ids in
    a transaction, and add to the filter ids that are sold or marked. -/
structure Quiet (s s' : Shared) : Prop where
  store : s'.db.store = s.db.store
  commits : s'.commits = s.commits
  marked : ∀ x ∈ s.marked, x ∈ s'.marked
  bloom : ∀ x ∈ s'.bloomAdded, x ∈ s.bloomAdded ∨ s.db.store.IsSold x ∨ x ∈ s'.marked

namespace Quiet

variable {s s' : Shared}

theorem refl (s : Shared) : Quiet s s := ⟨rfl, rfl, fun _ h => h, fun _ h => .inl h⟩

theorem setCache (s : Shared) (c : Cache) : Quiet s (s.setCache c) :=
  ⟨rfl, rfl, fun _ h => h, fun _ h => .inl h⟩

theorem setDb {db : Db} (h : db.store = s.db.store) : Quiet s (s.setDb db) :=
  ⟨h, rfl, fun _ h => h, fun _ h => .inl h⟩

theorem addToBloom {x : ItemId} (h : x ∈ s.marked ∨ s.db.store.IsSold x) :
    Quiet s (s.addToBloom x) := by
  refine ⟨rfl, rfl, fun _ h => h, fun y hy => ?_⟩
  rcases List.mem_append.1 hy with hy | hy
  · exact .inl hy
  · rw [List.mem_singleton.1 hy]; exact h.elim (.inr ∘ .inr) (.inr ∘ .inl)

theorem mark (x : ItemId) : Quiet s { s with marked := s.marked ++ [x] } :=
  ⟨rfl, rfl, fun _ h => List.mem_append_left _ h, fun _ h => .inl h⟩

theorem leaveOpen (hq : Quiet s s') (pid : Nat) (l : List ItemId) : Quiet s (s'.leaveOpen pid l) :=
  ⟨hq.store, hq.commits, hq.marked, hq.bloom⟩

theorem endRequest (hq : Quiet s s') (pid : Nat) : Quiet s (s'.endRequest pid) :=
  ⟨hq.store, hq.commits, hq.marked, hq.bloom⟩

theorem ite {s₁ : Shared} (c : Bool) (hq : Quiet s s₁) : Quiet s (if c then s₁ else s) := by
  cases c
  · exact refl s
  · exact hq

theorem grows (hq : Quiet s s') : Grows s s' :=
  ⟨fun _ hr _ => hq.store ▸ hr, fun _ hcm => hq.commits ▸ hcm, hq.marked⟩

end Quiet

/-- A quiet step keeps `StoreInv`. -/
theorem StoreInv.of_quiet {s s' : Shared} (hs : StoreInv s) (hq : Quiet s s') : StoreInv s' := by
  obtain ⟨fk, sold, soldBy, once, results, commitOk, sales, bloom, buyer⟩ := hs
  obtain ⟨h₁, h₂, h₃, h₄⟩ := hq
  -- Every field but `bloom` reads only the store and the commits, which a quiet
  -- step keeps.
  refine ⟨h₁ ▸ fk, h₁ ▸ h₂ ▸ sold, h₁ ▸ h₂ ▸ soldBy, h₂ ▸ once, h₁ ▸ h₂ ▸ results, h₂ ▸ commitOk,
    h₁ ▸ sales, fun x hx => ?_, h₁ ▸ buyer⟩
  rw [h₁]
  -- A filter id was added before, is sold, or is marked now.
  rcases h₄ x hx with hx | hx | hx
  · exact (bloom x hx).imp_right (h₃ x)
  · exact .inl hx
  · exact .inr hx

namespace Store

variable {st : Store}

/-- A sale id no row has owns no item. -/
theorem itemCount_eq_zero (hfk : ∀ i ∈ st.items.rows, ∃ sl ∈ st.sales.rows, sl.id = i.saleId)
    {id : SaleId} (h : ∀ x ∈ st.sales.rows, x.id ≠ id) : st.itemCount id = 0 := by
  refine List.countP_eq_zero.2 fun i hi he => ?_
  obtain ⟨sl, hsl, hid⟩ := hfk i hi
  exact h sl hsl (hid.trans (of_decide_eq_true he))

end Store

section Create

variable {s : Shared} {sale : Sale} {st : Store}

/-- `CreateSale` keeps `StoreInv`: the new sale has no items yet, so its `items_sold`
    of 0 is its count. -/
theorem StoreInv.createSale (hs : StoreInv s) (h : s.db.store.createSale sale = some st)
    (h0 : sale.itemsSold = 0) : StoreInv (s.setDb { s.db with store := st }) := by
  obtain ⟨hsales, hfresh, hitems, hresults⟩ := Store.createSale_eq_some h
  obtain ⟨fk, sold, soldBy, once, results, commitOk, sales, bloom, buyer⟩ := hs
  -- `CreateSale` leaves the items, and so every count and sold flag, alone.
  have hic : ∀ id, st.itemCount id = s.db.store.itemCount id := by simp [Store.itemCount, hitems]
  have hsc : ∀ id, st.soldCount id = s.db.store.soldCount id := by simp [Store.soldCount, hitems]
  have hsold : ∀ x, st.IsSold x ↔ s.db.store.IsSold x := by simp [Store.IsSold, hitems]
  refine ⟨?_, ?_, ?_, once, ?_, commitOk, ?_, ?_, ?_⟩
  · simpa [hitems, hsales] using fun i hi => (fk i hi).imp fun sl h => ⟨.inl h.1, h.2⟩
  · simpa [hitems] using sold
  · simpa [hitems] using soldBy
  · simpa [hresults] using results
  · simp only [Shared.setDb_db, hsales, List.mem_append, List.mem_singleton]
    rintro sl (hsl | rfl)
    · simpa [hic, hsc] using sales sl hsl
    -- The new sale: no item refers to its fresh id, so both counts are 0.
    · have := Store.itemCount_eq_zero fk hfresh
      simp [hic, hsc, h0, this,
        Nat.le_zero.1 (this ▸ Store.soldCount_le_itemCount (s := s.db.store) sl.id)]
  · simpa [hsold] using bloom
  · simpa [hitems] using buyer

/-- `CreateItems` of a pending creator keeps `StoreInv`: its items are unsold, and
    there are `total_items` of them for a sale that had none. -/
theorem StoreInv.createItems (hs : StoreInv s) {fresh : Nat}
    (h : s.db.store.createItems (newItems sale fresh) = some st)
    (hp : sale.fixed ∈ s.db.store.sales.rows.map Sale.fixed) (h0 : s.db.store.itemCount sale.id = 0) :
    StoreInv (s.setDb { s.db with store := st }) := by
  obtain ⟨hitems, hfk, hsales, hresults⟩ := Store.createItems_eq_some h
  obtain ⟨fk, sold, soldBy, once, results, commitOk, sales, bloom, buyer⟩ := hs
  -- The new items belong to the pending sale and are unsold.
  have hnew : ∀ i ∈ newItems sale fresh, i.saleId = sale.id ∧ i.sold = false ∧ i.soldToUserId = none :=
    fun _ hi => mem_newItems hi
  have hsc : ∀ id, st.soldCount id = s.db.store.soldCount id := fun id => by
    -- Unsold new items add nothing to any sold count ...
    simp only [Store.soldCount, hitems, List.countP_append]
    rw [(List.countP_eq_zero (l := newItems sale fresh)).2 fun i hi => by simp [(hnew i hi).2.1],
      Nat.add_zero]
  have hic : ∀ id, st.itemCount id = s.db.store.itemCount id +
      if id = sale.id then sale.totalItems else 0 := fun id => by
    -- ... and `total_items` items to the pending sale's item count only.
    simp only [Store.itemCount, hitems, List.countP_append]
    split
    · subst id
      rw [(List.countP_eq_length (l := newItems sale fresh)).2 fun i hi => by simp [(hnew i hi).1],
        length_newItems]
    · rw [(List.countP_eq_zero (l := newItems sale fresh)).2 fun i hi => by
        simp [(hnew i hi).1, Ne.symm ‹_›]]
  refine ⟨?_, ?_, ?_, once, ?_, commitOk, ?_, ?_, ?_⟩
  -- The new items refer to the pending sale, whose row is committed.
  · simp only [Shared.setDb_db, hitems, hsales, List.mem_append]
    rintro i (hi | hi)
    · exact fk i hi
    · exact hfk i hi
  · simp only [Shared.setDb_db, hitems, List.mem_append]
    -- Old rows stay, so committed marks stay sold; no new item is sold.
    intro cm hcm x hx
    obtain ⟨r, hr, h⟩ := sold cm hcm x hx
    exact ⟨r, .inl hr, h⟩
  · simp only [Shared.setDb_db, hitems, List.mem_append]
    rintro r (hr | hr) hs
    · exact soldBy r hr hs
    · simp [(hnew r hr).2.1] at hs
  · simpa [hresults] using results
  · simp only [Shared.setDb_db, hsales, hsc, hic]
    intro sl hsl
    -- `items_sold` is unchanged; the pending sale goes from no items to
    -- `total_items`.
    refine ⟨(sales sl hsl).1, ?_⟩
    split
    -- The pending sale: its committed row is `sl`, by the fixed columns.
    · rename_i he
      obtain ⟨sl₀, hsl₀, hfix⟩ := List.mem_map.1 hp
      have htot : sl₀.totalItems = sale.totalItems := congrArg (·.2.2.2) hfix
      obtain rfl : sl₀ = sl := s.db.store.sales.eq_of_key_eq hsl₀ hsl
        ((congrArg Prod.fst hfix).trans he.symm)
      rw [he, h0, htot, Nat.zero_add]
    · simpa using (sales sl hsl).2
  · intro x hx
    -- Old rows stay, so sold filter ids stay sold.
    refine (bloom x hx).imp_left fun ⟨r, hr, h⟩ => ⟨r, ?_, h⟩
    simp [hitems, hr]
  · simp only [Shared.setDb_db, hitems, List.mem_append]
    rintro r (hr | hr) hs
    · exact buyer r hr hs
    · exact (hnew r hr).2.2

theorem Grows.createSale (h : s.db.store.createSale sale = some st) :
    Grows s (s.setDb { s.db with store := st }) :=
  ⟨fun _ hr _ => by simpa [(Store.createSale_eq_some h).2.2.1] using hr, fun _ h => h, fun _ h => h⟩

theorem Grows.createItems {items : List Item} (h : s.db.store.createItems items = some st) :
    Grows s (s.setDb { s.db with store := st }) :=
  ⟨fun _ hr _ => by simp [(Store.createItems_eq_some h).1, hr], fun _ h => h, fun _ h => h⟩

end Create

end FlashSale
