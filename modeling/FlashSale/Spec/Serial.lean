import FlashSale.Spec.Checkouts

/-!
# The committed store is a serial run

`attemptPurchase` runs in one `SERIALIZABLE` transaction, and `CreateSale` and
`CreateItems` each commit on their own. Whatever the interleaving of requests, the
committed C1 store is therefore the store after a serial run of whole operations, each
run alone on the store the previous ones left: a purchase, a sale creation, an item
creation. A purchase in that run may only do what a transaction that sees its own
snapshot can do: its code has no result yet, it reads rows of its checkout's items in
its checkout's sale, and it marks items it read that are unsold.

This is the abstract level of the store. `StoreOp.apply` says what one operation does
when it runs alone; `serialRun` runs a list of them. `store_serializable` connects it
to the model of the code: the committed store of every reachable world is a serial run
from the empty store, and the purchases of that run are the committed purchases, in
the order they committed.

## Key results

- `StoreOp.apply_purchase`: a commit applies the purchase operation to the store it
  commits on.
- `store_serializable`: every reachable committed store is a serial run of the
  committed purchases and the sale and item creations.
-/

namespace FlashSale

/-- An operation on the committed store that runs alone. -/
inductive StoreOp where
  /-- A purchase transaction of checkout `ch` begun at `t`, which read `items` and marked
      `successful`. -/
  | purchase (ch : Checkout) (t : Time) (items : List Item) (successful : List ItemId)
  /-- `CreateSale`. -/
  | createSale (sale : Sale)
  /-- `CreateItems`. -/
  | createItems (items : List Item)

/-- What a purchase may do on the store it runs on: its code has no result yet; it read
    at most `maxItemsPerUser` rows, each of an item of its checkout in its checkout's
    sale; and it marked distinct ids of items it read that are unsold. -/
def PurchaseAllowed (st : Store) (ch : Checkout) (items : List Item) (succ : List ItemId) : Prop :=
  st.getPurchaseResult ch.code = none ∧
  (∀ i ∈ items, i ∈ st.items.rows ∧ i.id ∈ ch.itemIds ∧ i.saleId = ch.saleId) ∧
  items.length ≤ maxItemsPerUser ∧ succ.Nodup ∧
  ∀ x ∈ succ, x ∈ items.map Item.id ∧ ∃ r ∈ st.items.rows, r.id = x ∧ r.sold = false

instance (st : Store) (ch : Checkout) (items : List Item) (succ : List ItemId) :
    Decidable (PurchaseAllowed st ch items succ) :=
  inferInstanceAs (Decidable (_ ∧ _ ∧ _ ∧ _ ∧ _))

/-- The store after an operation that runs alone, `none` where it may not run. A
    purchase updates the row of its checkout's sale. -/
def StoreOp.apply (st : Store) : StoreOp → Option Store
  | .purchase ch t items succ =>
    match st.getSaleByID ch.saleId with
    | some sale =>
      if PurchaseAllowed st ch items succ then some (st.purchased ch t sale items succ) else none
    | none => none
  | .createSale sale => st.createSale sale
  | .createItems items => st.createItems items

/-- The checkout, the items read and the ids marked of a purchase operation. -/
def StoreOp.purchaseOf : StoreOp → Option (Checkout × List Item × List ItemId)
  | .purchase ch _ items succ => some (ch, items, succ)
  | _ => none

/-- The store after a serial run of operations. -/
def serialRun (st : Store) (ops : List StoreOp) : Option Store := ops.foldlM StoreOp.apply st

theorem serialRun_append (st : Store) (ops : List StoreOp) (op : StoreOp) :
    serialRun st (ops ++ [op]) = (serialRun st ops).bind (StoreOp.apply · op) := by
  simp only [serialRun, List.foldlM_append, List.foldlM_cons, List.foldlM_nil]
  cases serialRun st ops <;> simp [serialRun] at *

/-- What the committed purchases read and marked, in commit order. -/
def Shared.purchases (s : Shared) : List (Checkout × List Item × List ItemId) :=
  s.commits.map fun cm => (cm.checkout, cm.items, cm.successful)

/-- A purchase that commits on the store its transaction began from applies the purchase
    operation to it: what the attempt knows of its snapshot is what the operation may
    do. -/
theorem StoreOp.apply_purchase {s : Shared} {ch : Checkout} {base : Store} {items : List Item}
    {succ : List ItemId} {sale : Sale} (hm : Marks s ch base items succ) (hs : SaleOf ch base sale)
    (t : Time) :
    StoreOp.apply base (.purchase ch t items succ) =
      some (base.purchased ch t sale items succ) := by
  have hsale : base.getSaleByID ch.saleId = some sale := Table.find_eq_some.2 hs
  -- The marks of the attempt are exactly what the operation requires of its snapshot.
  have hallowed : PurchaseAllowed base ch items succ :=
    ⟨hm.noResult, hm.read, hm.length, hm.nodup, fun x hx => (hm.successful x hx).2⟩
  simp [StoreOp.apply, hsale, hallowed]

/-- One step of a reachable world extends the serial run of its committed store: by
    nothing, by the commit of the stepping purchase, or by the stepping creator's
    `CreateSale` or `CreateItems`. -/
theorem StoreStep.serial {w w' : World} {e : Event} (h : StoreStep w e w') {ops : List StoreOp}
    (hrun : serialRun .empty ops = some w.shared.db.store)
    (hp : ops.filterMap StoreOp.purchaseOf = w.shared.purchases) :
    ∃ ops' : List StoreOp, serialRun .empty ops' = some w'.shared.db.store ∧
      ops'.filterMap StoreOp.purchaseOf = w'.shared.purchases := by
  rcases h with hq | ⟨pid, ok, fresh, p, ch, -, -, -, hc⟩ | ⟨pid, ok, fresh, c, -, -, hc⟩
  -- A step that leaves the store and the commits alone: the same run.
  · exact ⟨ops, hq.store ▸ hrun, by rw [hp, Shared.purchases, Shared.purchases, hq.commits]⟩
  -- A commit, on the store its transaction began from: append the purchase.
  · obtain ⟨tx, sale, items, succ, hm, hs, hb, hw⟩ := hc
    refine ⟨ops ++ [.purchase ch tx.startedAt items succ], ?_, ?_⟩
    · rw [serialRun_append, hrun, Option.some_bind, hb, StoreOp.apply_purchase hm hs, hw]
      rfl
    -- The run's purchases grow by the new commit.
    · simp [List.filterMap_append, hp, StoreOp.purchaseOf, Shared.purchases, Shared.commitPurchase,
        hw]
  -- A creator's CreateSale or CreateItems: append that operation, which is no purchase.
  · have creation : ∀ op st, StoreOp.apply w.shared.db.store op = some st → op.purchaseOf = none →
        w'.shared = w.shared.setDb { w.shared.db with store := st } →
        ∃ ops' : List StoreOp, serialRun .empty ops' = some w'.shared.db.store ∧
          ops'.filterMap StoreOp.purchaseOf = w'.shared.purchases := fun op st hst hop hw =>
      ⟨ops ++ [op], by rw [serialRun_append, hrun, Option.some_bind, hw]; exact hst,
        by simp [List.filterMap_append, hp, hop, Shared.purchases, hw]⟩
    rcases hc with ⟨sale, st, hst, hw⟩ | ⟨sale, st, hst, hw⟩
    exacts [creation (.createSale sale) st hst rfl hw,
      creation (.createItems (newItems sale fresh)) st hst rfl hw]

/-- Serializability of the committed store. In every reachable world the committed C1
    store is the store after a serial run, from the empty store, of operations that each
    run alone: purchases, each allowed on the store before it, and sale and item
    creations. The purchases of the run are the committed purchases, in commit order,
    with the items each read and the ids each marked. -/
theorem store_serializable {bf : RedisBloomFilter ItemId} {w : World} (hw : Reachable bf w) :
    ∃ ops : List StoreOp, serialRun .empty ops = some w.shared.db.store ∧
      ops.filterMap StoreOp.purchaseOf = w.shared.purchases := by
  induction hw with
  | init => exact ⟨[], rfl, rfl⟩
  | step e hw h ih =>
    obtain ⟨ops, hrun, hp⟩ := ih
    -- Every step of a reachable world is one of the three kinds of StoreStep.
    exact (reachable_storeStep hw h).serial hrun hp

/-- `store_serializable` after `soldRun`: a sale and its items are created, and one
    purchase commits. -/
theorem store_serializable_sold : ∃ w, Reachable sampleFilter w ∧ w.shared.commits.length = 1 ∧
    ∃ ops : List StoreOp, serialRun .empty ops = some w.shared.db.store ∧
      ops.filterMap StoreOp.purchaseOf = w.shared.purchases := by
  obtain ⟨w, hw, h⟩ : ∃ w, Reachable sampleFilter w ∧ w.shared.commits.length = 1 :=
    exists_reachable_of_run soldRun (by decide)
  exact ⟨w, hw, h, store_serializable hw⟩

end FlashSale
