import FlashSale.Spec.Checkouts

/-!
# What a purchase or a checkout returns

The answers of `ExecutePurchase` and `CheckoutHandler.Handle` after histories shaped by
the retry loop, the cleanup and the sold-items filter.

A result that `ExecutePurchase` returns is the one its committing attempt saved, built
by `CalculatePurchaseResult` from the items the attempt read and the ids it marked. Its
entries are right, and so are its counts when the items have distinct ids
(`returned_result_consistent`). `LogCheckoutAttempt` makes a checkout list an id again
at every attempt, and `FailedCount = len(attempted) - len(successful)` then disagrees
with the entries (`purchase_result_miscounts`).

An attempt that commits a purchase that marked nothing returns `ErrAllItemsSold`, which
the retry loop retries; the next attempt finds the result row and returns
`ErrCheckoutAlreadyProcessed` (`already_processed_own_commit`). After a purchase that
sold something, `cleanupCheckout` deletes the checkout rows, and a repeated
`ExecutePurchase` of the code answers `ErrCheckoutNotFound` from `GetCheckoutByCode`
before any attempt reads `purchase_results` (`repeat_purchase_not_found`). The checkout
handler returns `ErrItemAlreadySold` on the filter's answer alone
(`checkout_rejects_unsold`).

## Key results

- `returned_result_consistent`: in every reachable world a returned result reports the
  purchase that saved it; its counts agree with its entries when the ids are distinct.
- `purchase_result_miscounts`, `already_processed_own_commit`,
  `repeat_purchase_not_found`, `checkout_rejects_unsold`: histories.
-/

namespace FlashSale

/-- A checkout that returned an error, with its user and item. -/
def Proc.checkoutError : Proc → Option (UserId × ItemId × Error)
  | .checkout ⟨u, i, .done (.error e)⟩ => some (u, i, e)
  | _ => none

/-! ### The result a purchase reports -/

/-- With distinct attempted ids, and distinct successful ids among them, the counts of
    `CalculatePurchaseResult` agree with its entries. -/
theorem calculatePurchaseResult_counts {attempted : List Item} {successful : List ItemId}
    (hnd : (attempted.map Item.id).Nodup) (hs : successful.Nodup)
    (hsub : ∀ x ∈ successful, x ∈ attempted.map Item.id) :
    (calculatePurchaseResult attempted successful).totalPurchased =
        (calculatePurchaseResult attempted successful).items.countP (·.sold) ∧
      (calculatePurchaseResult attempted successful).failedCount =
        (calculatePurchaseResult attempted successful).items.countP (!·.sold) := by
  -- The sold entries are the attempted ids that were marked: the marks, reordered.
  have hperm : ((attempted.map Item.id).filter (successful.contains ·)).Perm successful :=
    (List.perm_ext_iff_of_nodup (hnd.filter _) hs).2 fun x => by
      simp only [List.mem_filter, List.elem_eq_mem, decide_eq_true_eq]
      exact ⟨fun h => h.2, fun h => ⟨hsub x h, h⟩⟩
  have hsold : (calculatePurchaseResult attempted successful).items.countP (·.sold) =
      successful.length := by
    rw [← hperm.length_eq, ← List.countP_eq_length_filter]
    simp [calculatePurchaseResult, List.countP_map, Function.comp_def]
  -- The unsold entries are the rest.
  have hlen := List.length_eq_countP_add_countP (·.sold)
    (calculatePurchaseResult attempted successful).items
  refine ⟨hsold.symm, ?_⟩
  simp only [calculatePurchaseResult, List.length_map, decide_not, Bool.decide_eq_true]
    at hlen hsold ⊢
  omega

/-- What a saved result says of the purchase that saved it: one entry per item it read,
    in order; an entry sold exactly for the ids it marked; `Success` exactly when it
    bought something; and, when the items have distinct ids, `TotalPurchased` and
    `FailedCount` count the sold and the unsold entries. -/
structure Commit.Reports (cm : Commit) (r : PurchaseResult) : Prop where
  ids : r.items.map PurchaseItemResult.id = cm.items.map Item.id
  sold : ∀ x, ⟨x, true⟩ ∈ r.items ↔ x ∈ cm.successful
  success : r.success = true ↔ 0 < r.totalPurchased
  counts : (cm.items.map Item.id).Nodup →
    r.totalPurchased = r.items.countP (·.sold) ∧ r.failedCount = r.items.countP (!·.sold)

/-- Every committed purchase saved a result that reports it. -/
theorem StoreInv.reports {s : Shared} (hs : StoreInv s) {cm : Commit} (hcm : cm ∈ s.commits) :
    cm.Reports cm.result := by
  -- The saved result is `CalculatePurchaseResult` of what the purchase read and marked,
  -- and its marks are distinct ids of the items it read.
  have hok := hs.commitOk cm hcm
  have hnd : cm.successful.Nodup := (List.nodup_flatMap.1 hs.once).1 cm hcm
  rw [hok.result]
  refine ⟨by simp [calculatePurchaseResult, Function.comp_def], fun x => ?_,
    by simp [calculatePurchaseResult], fun h => calculatePurchaseResult_counts h hnd hok.successful⟩
  rw [sold_mem_calculatePurchaseResult]
  exact ⟨And.right, fun h => ⟨hok.successful x h, h⟩⟩

/-- Result consistency. In every reachable world, a result that `ExecutePurchase(code)`
    returned is the one its own committed purchase of `code` saved, and it reports that
    purchase: its entries, their sold flags and `Success` are right, and its counts are
    right when the items read have distinct ids. -/
theorem returned_result_consistent {bf : RedisBloomFilter ItemId} {w : World}
    (hw : Reachable bf w) {pid : Nat} {code : Code} {r : PurchaseResult}
    (hp : w.procs[pid]? = some (.purchase ⟨code, .done (.ok r)⟩)) :
    ∃ cm ∈ w.shared.commits, cm.pid = pid ∧ cm.code = code ∧ cm.result = r ∧ cm.Reports r := by
  -- A returned result is, by the invariant, the saved result of the call's commit.
  have hi := reachable_inv hw
  obtain ⟨cm, hcm, hpid, hcode, rfl⟩ := (hi.procs pid _ hp r rfl).1
  exact ⟨cm, hcm, hpid, hcode, rfl, hi.store.reports hcm⟩

set_option maxRecDepth 100000 in
/-- `returned_result_consistent` for the result `ExecutePurchase(500)` returns after
    `cleanedRun`. -/
theorem returned_result_consistent_cleaned : ∃ w r, Reachable sampleFilter w ∧
    w.procs[2]? = some (.purchase ⟨500, .done (.ok r)⟩) ∧
    ∃ cm ∈ w.shared.commits, cm.pid = 2 ∧ cm.code = 500 ∧ cm.result = r ∧ cm.Reports r := by
  obtain ⟨w, hw, h⟩ : ∃ w, Reachable sampleFilter w ∧
      ((w.procs[2]?.bind Proc.purchaseResult).map Prod.fst) = some 500 :=
    exists_reachable_of_run cleanedRun (by decide)
  -- Read process 2 and its result back from the evaluated projection.
  obtain ⟨⟨c, r⟩, hr, rfl⟩ := Option.map_eq_some'.1 h
  obtain ⟨q, hq, hq'⟩ := Option.bind_eq_some.1 hr
  obtain rfl := Proc.eq_of_purchaseResult hq'
  exact ⟨w, r, hw, hq, returned_result_consistent hw hq⟩

/-- User 7 checks out item 100 with code 500. `ExecutePurchase(500)` runs two attempts
    whose `BeginTx` fails, each after logging item 100 under the code again. A second
    `ExecutePurchase(500)` then loads the checkout with item 100 three times and buys it. -/
def duplicateRun : List Event :=
  openSale ++ Event.firstCheckout 1 7 100 500 900 true ++
    [.request (.purchase 500)] ++ Event.steps 2 4 ++ [.step 2 true 1000] ++ Event.steps 2 3 ++
    [.step 2 false 0, .step 2 true 1002] ++ Event.steps 2 3 ++ [.step 2 false 0] ++
    Event.steps 2 1 ++
    [.request (.purchase 500)] ++ Event.steps 3 4 ++
    [.step 3 true 1004, .step 3 true 1006, .step 3 true 1008] ++ Event.steps 3 24

set_option maxRecDepth 100000 in
/-- The counts disagree with the entries: after `duplicateRun` the second
    `ExecutePurchase(500)` returns three entries for item 100, all sold, with
    `TotalPurchased = 1` and `FailedCount = 2`. -/
theorem purchase_result_miscounts : ∃ w, Reachable sampleFilter w ∧
    w.procs[3]?.bind Proc.purchaseResult =
      some (500, ⟨true, [⟨100, true⟩, ⟨100, true⟩, ⟨100, true⟩], 1, 2⟩) :=
  exists_reachable_of_run duplicateRun (by decide)

/-! ### The retry loop and repeated purchases -/

set_option maxRecDepth 100000 in
/-- A call answers `ErrCheckoutAlreadyProcessed` to its own commit: after `allSoldRun`
    the purchase of code 500 by process 4 committed a purchase that marked nothing, and
    returned `ErrCheckoutAlreadyProcessed` from its second attempt. -/
theorem already_processed_own_commit : ∃ w, Reachable sampleFilter w ∧
    w.procs[4]?.bind Proc.purchaseError = some (500, .checkoutAlreadyProcessed) ∧
    ∃ cm ∈ w.shared.commits, cm.pid = 4 ∧ cm.code = 500 ∧ cm.successful = [] :=
  exists_reachable_of_run allSoldRun (by decide)

set_option maxRecDepth 100000 in
/-- A repeated purchase finds no checkout: after `cleanedRun`, where `ExecutePurchase(500)`
    bought item 100 and cleaned up, a second `ExecutePurchase(500)` returns
    `ErrCheckoutNotFound` while the result row of code 500 is committed. -/
theorem repeat_purchase_not_found : ∃ w, Reachable sampleFilter w ∧
    (w.procs[2]?.bind Proc.purchaseResult).map Prod.fst = some 500 ∧
    (w.shared.db.store.getPurchaseResult 500).isSome ∧
    w.procs[3]?.bind Proc.purchaseError = some (500, .checkoutNotFound) :=
  exists_reachable_of_run (cleanedRun ++ [.request (.purchase 500)] ++ Event.steps 3 2) (by decide)

/-! ### The checkout and the filter -/

set_option maxRecDepth 100000 in
/-- The checkout refuses an unsold item: after `retriedPurchase`, whose first attempt
    added item 100 to the filter and did not commit, a checkout of item 100 by user 8
    returns `ErrItemAlreadySold` while item 100 is unsold in C1. -/
theorem checkout_rejects_unsold : ∃ w, Reachable sampleFilter w ∧
    w.procs[3]?.bind Proc.checkoutError = some (8, 100, .itemAlreadySold) ∧
    (w.shared.db.store.getItemByID 100).map Item.sold = some false :=
  exists_reachable_of_run (retriedPurchase ++ [.request (.checkout 8 100)] ++ Event.steps 3 3)
    (by decide)

end FlashSale
