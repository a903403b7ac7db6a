import FlashSale.Domain
import FlashSale.Store.Table

/-!
# The durable store (C1) and its repositories

The PostgreSQL schema of `migrations/001_initial_schema.up.sql` as tables with
their primary keys, and the statements of `SaleRepository`
(`postgres/sale_repository.go`) and `CheckoutRepository` (`unnamed/part_004`).

`Store` holds the three tables the purchase transaction reads and writes; the
statements on it are used both on the committed store and on a transaction's
private view. The checkout tables are only touched by single statements or
short transactions of their own. A statement that fails returns `none` where a
constraint is what makes it fail; a failure of the database itself is the
caller's oracle (see `FlashSale.Purchase`).
-/

namespace FlashSale

/-- A row of `purchase_results`: the idempotency record of a checkout code. -/
structure PurchaseRow where
  checkoutCode : Code
  result : PurchaseResult
  deriving DecidableEq, Repr

/-- A row of `checkout_attempts`. -/
structure CheckoutAttempt where
  id : Nat
  checkoutCode : Code
  saleId : SaleId
  userId : UserId
  createdAt : Time
  deriving DecidableEq, Repr

/-- A row of `checkout_items`; `UNIQUE(checkout_attempt_id, item_id)` is checked on insert. -/
structure CheckoutItem where
  id : Nat
  attemptId : Nat
  itemId : ItemId
  addedAt : Time
  deriving DecidableEq, Repr

/-- The tables of the purchase transaction: `sales`, `items`, `purchase_results`. -/
structure Store where
  sales : Table Sale Sale.id
  items : Table Item Item.id
  results : Table PurchaseRow PurchaseRow.checkoutCode
  deriving DecidableEq

/-- The durable store: the purchase tables and the two checkout tables. -/
structure Db where
  store : Store
  attempts : Table CheckoutAttempt CheckoutAttempt.id
  checkoutItems : Table CheckoutItem CheckoutItem.id

namespace Store

/-- The store of a fresh database. -/
def empty : Store := ⟨.empty, .empty, .empty⟩

/-- `GetActiveSale`: `WHERE started_at <= NOW() AND ended_at > NOW()
    ORDER BY started_at DESC LIMIT 1`; among equal start times the first row wins. -/
def getActiveSale (s : Store) (now : Time) : Option Sale :=
  (s.sales.rows.filter fun x => decide (x.startedAt ≤ now) && decide (now < x.endedAt)).foldl
    (fun best x => match best with
      | none => some x
      | some b => if b.startedAt < x.startedAt then some x else some b) none

/-- `GetSaleByID`. -/
def getSaleByID (s : Store) (id : SaleId) : Option Sale := s.sales.find id

/-- `GetItemByID`. -/
def getItemByID (s : Store) (id : ItemId) : Option Item := s.items.find id

/-- The row update of `MarkItemAsSold`:
    `SET sold = TRUE, sold_to_user_id = $2, sold_at = NOW() WHERE id = $1 AND sold = FALSE`. -/
def markRow (id : ItemId) (userId : UserId) (now : Time) (i : Item) : Item :=
  if i.id = id ∧ i.sold = false then
    { i with sold := true, soldToUserId := some userId, soldAt := some now }
  else i

theorem markRow_id (id : ItemId) (userId : UserId) (now : Time) (i : Item) :
    (markRow id userId now i).id = i.id := by
  unfold markRow; split <;> rfl

/-- `MarkItemAsSold`: the updated store and whether a row was affected. -/
def markItemAsSold (s : Store) (id : ItemId) (userId : UserId) (now : Time) : Store × Bool :=
  ({ s with items := s.items.update (markRow id userId now) (markRow_id id userId now) },
    s.items.rows.any fun i => decide (i.id = id) && !i.sold)

/-- The row update of `UpdateSale`: `SET started_at, ended_at, total_items, items_sold
    WHERE id = $1`. -/
def saleRow (sale : Sale) (x : Sale) : Sale := if x.id = sale.id then sale else x

theorem saleRow_id (sale x : Sale) : (saleRow sale x).id = x.id := by
  unfold saleRow; split <;> simp_all

/-- `UpdateSale`. -/
def updateSale (s : Store) (sale : Sale) : Store :=
  { s with sales := s.sales.update (saleRow sale) (saleRow_id sale) }

/-- `SavePurchaseResult`: `INSERT ... ON CONFLICT (checkout_code) DO NOTHING`. -/
def savePurchaseResult (s : Store) (code : Code) (result : PurchaseResult) : Store :=
  match s.results.insert ⟨code, result⟩ with
  | some t => { s with results := t }
  | none => s

/-- `GetPurchaseResult`: `none` stands for `sql.ErrNoRows`. -/
def getPurchaseResult (s : Store) (code : Code) : Option PurchaseResult :=
  (s.results.find code).map (·.result)

/-- `CreateSale`: the insert fails on a duplicate id. -/
def createSale (s : Store) (sale : Sale) : Option Store :=
  (s.sales.insert sale).map fun t => { s with sales := t }

/-- `CreateItems`: one transaction of inserts, all or none; `items.sale_id` references
    `sales(id)`. -/
def createItems (s : Store) (items : List Item) : Option Store :=
  if items.all fun i => (s.sales.find i.saleId).isSome then
    (s.items.insertAll items).map fun t => { s with items := t }
  else none

/-! ### Frame lemmas -/

@[simp] theorem markItemAsSold_sales (s : Store) (id u t) :
    (s.markItemAsSold id u t).1.sales = s.sales := rfl

@[simp] theorem markItemAsSold_results (s : Store) (id u t) :
    (s.markItemAsSold id u t).1.results = s.results := rfl

@[simp] theorem markItemAsSold_items (s : Store) (id u t) :
    (s.markItemAsSold id u t).1.items.rows = s.items.rows.map (markRow id u t) := rfl

@[simp] theorem updateSale_items (s : Store) (sale : Sale) : (s.updateSale sale).items = s.items :=
  rfl

@[simp] theorem updateSale_results (s : Store) (sale : Sale) :
    (s.updateSale sale).results = s.results := rfl

@[simp] theorem updateSale_sales (s : Store) (sale : Sale) :
    (s.updateSale sale).sales.rows = s.sales.rows.map (saleRow sale) := rfl

@[simp] theorem savePurchaseResult_items (s : Store) (c r) :
    (s.savePurchaseResult c r).items = s.items := by
  unfold savePurchaseResult; split <;> rfl

@[simp] theorem savePurchaseResult_sales (s : Store) (c r) :
    (s.savePurchaseResult c r).sales = s.sales := by
  unfold savePurchaseResult; split <;> rfl

/-- `MarkItemAsSold` changes nothing when it affects no row. -/
theorem markItemAsSold_false {s : Store} {id u t} (h : (s.markItemAsSold id u t).2 = false) :
    (s.markItemAsSold id u t).1 = s := by
  obtain ⟨sales, items, results⟩ := s
  simp only [markItemAsSold, List.any_eq_false, Bool.and_eq_true, decide_eq_true_eq,
    Bool.not_eq_true'] at h
  simp only [markItemAsSold, Store.mk.injEq, and_true, true_and]
  -- No row matches the WHERE clause, so every row maps to itself.
  refine Table.ext ?_
  conv_rhs => rw [← List.map_id items.rows]
  refine List.map_congr_left fun i hi => ?_
  simp only [markRow, id_eq, ite_eq_right_iff, and_imp]
  intro h1 h2; exact absurd ⟨h1, h2⟩ (h i hi)

/-- What `CreateSale` does when it succeeds. -/
theorem createSale_eq_some {s s' : Store} {sale : Sale} (h : s.createSale sale = some s') :
    s'.sales.rows = s.sales.rows ++ [sale] ∧ (∀ x ∈ s.sales.rows, x.id ≠ sale.id) ∧
      s'.items = s.items ∧ s'.results = s.results := by
  simp only [createSale, Option.map_eq_some'] at h
  obtain ⟨t, ht, rfl⟩ := h
  exact ⟨(Table.insert_eq_some ht).1, (Table.insert_eq_some ht).2, rfl, rfl⟩

/-- What `CreateItems` does when it succeeds. -/
theorem createItems_eq_some {s s' : Store} {items : List Item} (h : s.createItems items = some s') :
    s'.items.rows = s.items.rows ++ items ∧ (∀ i ∈ items, ∃ x ∈ s.sales.rows, x.id = i.saleId) ∧
      s'.sales = s.sales ∧ s'.results = s.results := by
  simp only [createItems] at h
  split at h
  -- Every item's sale was found: the rows were inserted.
  · rename_i hall
    simp only [Option.map_eq_some'] at h
    obtain ⟨t, ht, rfl⟩ := h
    refine ⟨Table.insertAll_eq_some ht, fun i hi => ?_, rfl, rfl⟩
    obtain ⟨x, hx⟩ := Option.isSome_iff_exists.1 (List.all_eq_true.1 hall i hi)
    exact ⟨x, (Table.find_eq_some.1 hx).1, (Table.find_eq_some.1 hx).2⟩
  -- A missing sale fails the call.
  · cases h

/-- A result saved where the code had none is in the table afterwards. -/
theorem savePurchaseResult_rows {s : Store} {c r} (h : s.getPurchaseResult c = none) :
    (s.savePurchaseResult c r).results.rows = s.results.rows ++ [⟨c, r⟩] := by
  simp only [getPurchaseResult, Option.map_eq_none', Table.find_eq_none] at h
  obtain ⟨t, ht⟩ := Table.insert_eq_some_of (r := (⟨c, r⟩ : PurchaseRow)) h
  simp only [savePurchaseResult, ht, (Table.insert_eq_some ht).1]

end Store

namespace Db

/-- A fresh database. -/
def empty : Db := ⟨.empty, .empty, .empty⟩

/-- The first query of `GetCheckoutByCode`: `WHERE checkout_code = $1
    ORDER BY created_at DESC LIMIT 1`; among equal times the later row wins. -/
def getCheckoutAttempt (db : Db) (code : Code) : Option CheckoutAttempt :=
  (db.attempts.rows.filter (·.checkoutCode = code)).foldl
    (fun best x => match best with
      | none => some x
      | some b => if b.createdAt ≤ x.createdAt then some x else some b) none

/-- Whether the `checkout_items` row belongs to an attempt with this code (the join). -/
def itemOfCode (db : Db) (code : Code) (ci : CheckoutItem) : Bool :=
  db.attempts.rows.any fun ca => decide (ca.id = ci.attemptId) && decide (ca.checkoutCode = code)

/-- The second query of `GetCheckoutByCode`: the item ids of every attempt with the
    code, `ORDER BY ci.added_at` (insertion order). -/
def getCheckoutItemIds (db : Db) (code : Code) : List ItemId :=
  (db.checkoutItems.rows.filter (db.itemOfCode code)).map (·.itemId)

/-- `GetCheckoutByCode`, both queries read from one state. -/
def getCheckoutByCode (db : Db) (code : Code) : Option Checkout :=
  (db.getCheckoutAttempt code).map fun a =>
    { code := a.checkoutCode, saleId := a.saleId, userId := a.userId,
      itemIds := db.getCheckoutItemIds code, createdAt := a.createdAt }

/-- `INSERT INTO checkout_attempts`, with `sale_id REFERENCES sales(id)`. -/
def insertAttempt (db : Db) (a : CheckoutAttempt) : Option Db :=
  if (db.store.sales.find a.saleId).isSome then
    (db.attempts.insert a).map fun t => { db with attempts := t }
  else none

/-- `INSERT INTO checkout_items`, with its two references and
    `UNIQUE(checkout_attempt_id, item_id)`. -/
def insertCheckoutItem (db : Db) (ci : CheckoutItem) : Option Db :=
  if (db.attempts.find ci.attemptId).isSome && (db.store.items.find ci.itemId).isSome &&
      !(db.checkoutItems.rows.any fun x => decide (x.attemptId = ci.attemptId) &&
        decide (x.itemId = ci.itemId)) then
    (db.checkoutItems.insert ci).map fun t => { db with checkoutItems := t }
  else none

/-- `CreateCheckout`: one transaction inserting the attempt row `id` and a
    `checkout_items` row per item, the `k`-th with id `id + 1 + k`. -/
def createCheckout (db : Db) (c : Checkout) (id : Nat) : Option Db := do
  let db ← db.insertAttempt ⟨id, c.code, c.saleId, c.userId, c.createdAt⟩
  c.itemIds.enum.foldlM (fun db (k, itemId) =>
    db.insertCheckoutItem ⟨id + 1 + k, id, itemId, c.createdAt⟩) db

/-- The first statement of `AddItemToCheckout`: `SELECT id FROM checkout_attempts
    WHERE checkout_code = $1`, read with `QueryRow`, so the first row. -/
def findAttemptId (db : Db) (code : Code) : Option Nat :=
  (db.attempts.rows.find? (·.checkoutCode = code)).map (·.id)

/-- The second statement of `AddItemToCheckout`: `SELECT COUNT(*) FROM checkout_items
    WHERE checkout_attempt_id = $1 AND item_id = $2`. -/
def countCheckoutItem (db : Db) (attemptId : Nat) (itemId : ItemId) : Nat :=
  db.checkoutItems.rows.countP fun x => decide (x.attemptId = attemptId) && decide (x.itemId = itemId)

/-- `LogCheckoutAttempt`: one transaction inserting a new `checkout_attempts` row with
    the code and a `checkout_items` row for the item. -/
def logCheckoutAttempt (db : Db) (saleId : SaleId) (userId : UserId) (code : Code)
    (itemId : ItemId) (id : Nat) (now : Time) : Option Db := do
  let db ← db.insertAttempt ⟨id, code, saleId, userId, now⟩
  db.insertCheckoutItem ⟨id + 1, id, itemId, now⟩

/-- `DeleteCheckout`: `DELETE FROM checkout_attempts WHERE checkout_code = $1`; the
    `checkout_items` rows of those attempts go with them (`ON DELETE CASCADE`). -/
def deleteCheckout (db : Db) (code : Code) : Db :=
  { db with
    attempts := db.attempts.delete (·.checkoutCode = code),
    checkoutItems := db.checkoutItems.delete (db.itemOfCode code) }

/-! ### The checkout statements leave the purchase tables alone -/

variable {db db' : Db}

theorem insertAttempt_store {a : CheckoutAttempt} (h : db.insertAttempt a = some db') :
    db'.store = db.store := by
  simp only [insertAttempt] at h
  split at h
  · simp only [Option.map_eq_some'] at h
    obtain ⟨t, -, rfl⟩ := h; rfl
  · cases h

theorem insertCheckoutItem_store {ci : CheckoutItem} (h : db.insertCheckoutItem ci = some db') :
    db'.store = db.store := by
  simp only [insertCheckoutItem] at h
  split at h
  · simp only [Option.map_eq_some'] at h
    obtain ⟨t, -, rfl⟩ := h; rfl
  · cases h

private theorem foldlM_insertCheckoutItem_store {f : Db → Nat × ItemId → CheckoutItem} :
    ∀ {l : List (Nat × ItemId)} {db db' : Db},
      l.foldlM (fun db x => db.insertCheckoutItem (f db x)) db = some db' → db'.store = db.store
  | [], _, _, h => by cases h; rfl
  | x :: l, db, db', h => by
    simp only [List.foldlM_cons, Option.bind_eq_bind, Option.bind_eq_some] at h
    obtain ⟨db₁, h₁, h⟩ := h
    exact (foldlM_insertCheckoutItem_store h).trans (insertCheckoutItem_store h₁)

theorem createCheckout_store {c : Checkout} {id : Nat} (h : db.createCheckout c id = some db') :
    db'.store = db.store := by
  simp only [createCheckout, Option.bind_eq_bind, Option.bind_eq_some] at h
  obtain ⟨db₁, h₁, h⟩ := h
  exact (foldlM_insertCheckoutItem_store (f := fun _ x => ⟨id + 1 + x.1, id, x.2, c.createdAt⟩)
    h).trans (insertAttempt_store h₁)

theorem logCheckoutAttempt_store {saleId userId code itemId id now}
    (h : db.logCheckoutAttempt saleId userId code itemId id now = some db') : db'.store = db.store := by
  simp only [logCheckoutAttempt, Option.bind_eq_bind, Option.bind_eq_some] at h
  obtain ⟨db₁, h₁, h⟩ := h
  exact (insertCheckoutItem_store h).trans (insertAttempt_store h₁)

@[simp] theorem deleteCheckout_store (code : Code) : (db.deleteCheckout code).store = db.store := rfl

/-- The attempt row `GetCheckoutByCode` reads carries the code it was asked for. -/
theorem getCheckoutAttempt_code {code : Code} {row : CheckoutAttempt}
    (h : db.getCheckoutAttempt code = some row) : row.checkoutCode = code := by
  -- The ORDER BY created_at DESC fold keeps a row of the filtered list.
  have key : ∀ (l : List CheckoutAttempt) (acc : Option CheckoutAttempt),
      (∀ b, acc = some b → b.checkoutCode = code) → (∀ x ∈ l, x.checkoutCode = code) →
      ∀ r, l.foldl (fun best x => match best with
        | none => some x
        | some b => if b.createdAt ≤ x.createdAt then some x else some b) acc = some r →
        r.checkoutCode = code := by
    intro l
    induction l with
    | nil => intro acc hacc _ r h; exact hacc r h
    | cons x l ih =>
      intro acc hacc hl r h
      refine ih _ ?_ (fun y hy => hl y (List.mem_cons_of_mem x hy)) r h
      have hx := hl x (List.mem_cons_self x l)
      intro b hb
      -- The accumulator after the head is the head or the old one.
      cases acc with
      | none => cases hb; exact hx
      | some a =>
        simp only at hb; split at hb <;> cases hb
        · exact hx
        · exact hacc _ rfl
  -- Every row the WHERE clause keeps has the code.
  exact key _ none (by simp) (fun x hx => by simpa using (List.mem_filter.1 hx).2) row h

end Db

end FlashSale
