import Mathlib.Data.List.Nodup
import FlashSale.Spec.Idempotency

/-!
# The purchase counters

The cache keeps two counters of purchases: `sale:{S}:items_sold` and
`user:{U}:sale:{S}:count`. `ExecutePurchase` reads them before it opens its
transaction, to refuse a purchase that would pass `maxItemsPerSale` or
`maxItemsPerUser`, and `IncrementCounters` raises both inside the attempt, after
the marks and before `UpdateSale` and `CommitTx`. `ValidatePurchase` checks the
user bound again, with a count of 0.

The rows keep their own count. The items of a sale sold to a user are exactly the
ids that user's committed purchases in the sale marked, and each purchase marked at
most `maxItemsPerUser` of them (`userSoldCount_committed`). The per-user limit over
several purchases therefore rests on the user counter alone, and the counter does
not follow the rows: an `IncrementCounters` that fails leaves it behind
(`user_cap_exceeded`), and one whose transaction then fails to commit leaves it
ahead (`counters_drift`).

## Key results

- `userSoldCount_committed`: in every reachable world the items of sale `S` sold to
  `U` are the marks of `U`'s committed purchases in `S`, each id marked once, at most
  `maxItemsPerUser` per purchase.
- `user_cap_exceeded`: a history in which a user buys eleven items of one sale.
- `counters_drift`: a history after which no purchase runs and both counters read 1
  while nothing is sold.
-/

namespace FlashSale

/-- The number of items of sale `saleId` sold to `userId`: the rows with
    `sale_id = S` and `sold_to_user_id = U`. -/
def Store.userSoldCount (s : Store) (saleId : SaleId) (userId : UserId) : Nat :=
  s.items.rows.countP fun i => decide (i.saleId = saleId) && decide (i.soldToUserId = some userId)

/-- The ids of the items of sale `saleId` sold to `userId`. -/
def Store.userSoldIds (s : Store) (saleId : SaleId) (userId : UserId) : List ItemId :=
  (s.items.rows.filter fun i => decide (i.saleId = saleId) && decide (i.soldToUserId = some userId)).map
    Item.id

theorem Store.userSoldCount_eq_length (s : Store) (saleId : SaleId) (userId : UserId) :
    s.userSoldCount saleId userId = (s.userSoldIds saleId userId).length := by
  rw [userSoldCount, List.countP_eq_length_filter, userSoldIds, List.length_map]

/-- The committed purchase was of a checkout of user `userId` in sale `saleId`. -/
def Commit.byUser (saleId : SaleId) (userId : UserId) (cm : Commit) : Bool :=
  decide (cm.checkout.userId = userId) && decide (cm.checkout.saleId = saleId)

/-! ### The rows count what the committed purchases marked -/

section Rows

variable {s : Shared} (hs : StoreInv s)
include hs

/-- Every committed purchase marked at most `maxItemsPerUser` ids: they are distinct ids
    of the items it read, and it read at most that many. -/
theorem StoreInv.successful_length_le {cm : Commit} (hcm : cm ∈ s.commits) :
    cm.successful.length ≤ maxItemsPerUser := by
  -- Distinct marks among the ids of the items read, at most `maxItemsPerUser` of them.
  have hnd : cm.successful.Nodup := (List.nodup_flatMap.1 hs.once).1 cm hcm
  have hok := hs.commitOk cm hcm
  calc cm.successful.length
      ≤ (cm.items.map Item.id).length := (List.subperm_of_subset hnd hok.successful).length_le
    _ = cm.items.length := List.length_map _ _
    _ ≤ maxItemsPerUser := hok.length

/-- A row of sale `S` is sold to `U` exactly when a committed purchase of `U`'s checkout
    in `S` marked its id. -/
theorem StoreInv.soldTo_iff {r : Item} (hr : r ∈ s.db.store.items.rows) (saleId : SaleId)
    (userId : UserId) : (r.saleId = saleId ∧ r.soldToUserId = some userId) ↔
      ∃ cm ∈ s.commits, cm.byUser saleId userId ∧ r.id ∈ cm.successful := by
  simp only [Commit.byUser, Bool.and_eq_true, decide_eq_true_eq]
  constructor
  -- A row with a buyer is sold, so a commit marked it, and wrote that commit's user.
  · rintro ⟨hsale, hbuyer⟩
    have hsold : r.sold = true := by
      cases h : r.sold
      · simp [hs.buyer r hr h] at hbuyer
      · rfl
    obtain ⟨cm, hcm, hx⟩ := hs.soldBy r hr hsold
    obtain ⟨r', hr', hid, -, hu, -, hsl⟩ := hs.sold cm hcm _ hx
    obtain rfl : r' = r := s.db.store.items.eq_of_key_eq hr' hr hid
    exact ⟨cm, hcm, ⟨Option.some.inj (hu.symm.trans hbuyer), hsl.symm.trans hsale⟩, hx⟩
  -- A row a commit of `U` in `S` marked is sold to `U`, in `S`.
  · rintro ⟨cm, hcm, hby, hx⟩
    obtain ⟨r', hr', hid, -, hu, -, hsl⟩ := hs.sold cm hcm _ hx
    obtain rfl : r' = r := s.db.store.items.eq_of_key_eq hr' hr hid
    exact ⟨hsl.trans hby.2, hu.trans (congrArg some hby.1)⟩

/-- The items of sale `S` sold to `U` are the ids the committed purchases of `U`'s
    checkouts in `S` marked, each id marked by one of them. -/
theorem StoreInv.userSoldIds_perm (saleId : SaleId) (userId : UserId) :
    (s.db.store.userSoldIds saleId userId).Perm
      ((s.commits.filter (Commit.byUser saleId userId)).flatMap (·.successful)) := by
  obtain ⟨hnd, hdisj⟩ := List.nodup_flatMap.1 hs.once
  -- Both lists are free of duplicates: the rows by their key, the marks by `once`.
  have hl : (s.db.store.userSoldIds saleId userId).Nodup :=
    ((List.filter_sublist _).map _).nodup s.db.store.items.pk
  have hr : ((s.commits.filter (Commit.byUser saleId userId)).flatMap (·.successful)).Nodup :=
    List.nodup_flatMap.2 ⟨fun cm hcm => hnd cm (List.mem_of_mem_filter hcm),
      hdisj.sublist (List.filter_sublist _)⟩
  refine (List.perm_ext_iff_of_nodup hl hr).2 fun x => ?_
  simp only [Store.userSoldIds, List.mem_map, List.mem_filter, List.mem_flatMap, Bool.and_eq_true,
    decide_eq_true_eq]
  -- Membership on both sides is `soldTo_iff`.
  constructor
  · rintro ⟨r, ⟨hr, hsale, hbuyer⟩, rfl⟩
    obtain ⟨cm, hcm, hby, hx⟩ := (hs.soldTo_iff hr saleId userId).1 ⟨hsale, hbuyer⟩
    exact ⟨cm, ⟨hcm, hby⟩, hx⟩
  · rintro ⟨cm, ⟨hcm, hby⟩, hx⟩
    obtain ⟨r, hr, rfl, -⟩ := hs.sold cm hcm x hx
    exact ⟨r, ⟨hr, (hs.soldTo_iff hr saleId userId).2 ⟨cm, hcm, hby, hx⟩⟩, rfl⟩

end Rows

/-- The per-user count in every reachable world. The ids of the items of sale `S` sold to
    `U` are, up to order, the ids marked by the committed purchases of `U`'s checkouts in
    `S`: the same ids, each marked by one purchase. So their number is the total of those
    marks, and each committed purchase marked at most `maxItemsPerUser`. -/
theorem userSoldCount_committed {bf : RedisBloomFilter ItemId} {w : World} (hw : Reachable bf w)
    (saleId : SaleId) (userId : UserId) :
    (w.shared.db.store.userSoldIds saleId userId).Perm
      ((w.shared.commits.filter (Commit.byUser saleId userId)).flatMap (·.successful)) ∧
    w.shared.db.store.userSoldCount saleId userId =
      ((w.shared.commits.filter (Commit.byUser saleId userId)).flatMap (·.successful)).length ∧
    ∀ cm ∈ w.shared.commits, cm.successful.length ≤ maxItemsPerUser :=
  have hs := (reachable_inv hw).store
  have hperm := hs.userSoldIds_perm saleId userId
  ⟨hperm, (Store.userSoldCount_eq_length _ _ _).trans hperm.length_eq,
    fun _ hcm => hs.successful_length_le hcm⟩

set_option maxRecDepth 100000 in
/-- `userSoldCount_committed` for sale 1 and user 7 after `cleanedRun`, where user 7 has
    bought item 100. -/
theorem userSoldCount_committed_cleaned : ∃ w, Reachable sampleFilter w ∧
    w.shared.db.store.userSoldIds 1 7 = [100] ∧
    (w.shared.db.store.userSoldIds 1 7).Perm
      ((w.shared.commits.filter (Commit.byUser 1 7)).flatMap (·.successful)) ∧
    w.shared.db.store.userSoldCount 1 7 =
      ((w.shared.commits.filter (Commit.byUser 1 7)).flatMap (·.successful)).length ∧
    ∀ cm ∈ w.shared.commits, cm.successful.length ≤ maxItemsPerUser := by
  obtain ⟨w, hw, h⟩ : ∃ w, Reachable sampleFilter w ∧ w.shared.db.store.userSoldIds 1 7 = [100] :=
    exists_reachable_of_run cleanedRun (by decide)
  exact ⟨w, hw, h, userSoldCount_committed hw 1 7⟩

/-! ### Histories where the counters leave the rows -/

/-- Process `pid`, a checkout of item `i` by user `u` who already has a code: it adds the
    item to that code, with `checkout_items` row `row`. `bloomOk` is the outcome of the
    filter read; every other call succeeds. -/
def Event.nextCheckout (pid u i row : Nat) (bloomOk : Bool) : List Event :=
  [.request (.checkout u i), .step pid true 0, .step pid true 0, .step pid bloomOk 0] ++
    Event.steps pid 9 ++
    [.step pid true row] ++ Event.steps pid 2

/-- User 7 buys item 100 with code 500, and the `IncrementCounters` of that purchase
    fails, so the user counter stays 0. User 7 then checks out items 101 to 110 under a
    new code 501 and buys all ten: both limit checks read the counter as 0. The filter
    reads after the first purchase fail, so that no answer depends on the hash functions. -/
def capRun : List Event :=
  openSale ++ Event.firstCheckout 1 7 100 500 900 true ++
    [.request (.purchase 500)] ++ Event.steps 2 4 ++ [.step 2 true 1000] ++ Event.steps 2 12 ++
    [.step 2 false 0] ++ Event.steps 2 7 ++
    Event.firstCheckout 3 7 101 501 910 false ++
    (List.range 9).flatMap (fun k => Event.nextCheckout (4 + k) 7 (102 + k) (920 + k) false) ++
    [.request (.purchase 501)] ++ Event.steps 13 4 ++
    (List.range 10).map (fun k => .step 13 true (2000 + 2 * k)) ++ Event.steps 13 17 ++
    (List.range 10).flatMap (fun _ => [.step 13 false 0, .step 13 true 0, .step 13 true 0]) ++
    Event.steps 13 9

set_option maxRecDepth 100000 in
/-- The per-user limit does not hold: after `capRun` user 7 has bought eleven items of
    sale 1. -/
theorem user_cap_exceeded : ∃ w, Reachable sampleFilter w ∧
    maxItemsPerUser < w.shared.db.store.userSoldCount 1 7 :=
  exists_reachable_of_run capRun (by decide)

/-- A purchase that has started and not returned. -/
def Proc.purchaseRunning : Proc → Bool
  | .purchase ⟨_, .done _⟩ => false
  | .purchase _ => true
  | _ => false

set_option maxRecDepth 100000 in
/-- The counters drift from the rows: after `retriedPurchase`, where every call to the
    cache succeeded and only the two commits failed, no purchase runs, nothing of sale 1
    is sold, and both counters of the purchase read 1. -/
theorem counters_drift : ∃ w, Reachable sampleFilter w ∧
    (w.procs.all fun p => !p.purchaseRunning) ∧
    w.shared.cache.getSaleItemCount 1 = 1 ∧
    (w.shared.db.store.getSaleByID 1).map Sale.itemsSold = some 0 ∧
    w.shared.cache.getUserItemCount 1 7 = 1 ∧ w.shared.db.store.userSoldCount 1 7 = 0 :=
  exists_reachable_of_run retriedPurchase (by decide)

end FlashSale
