import FlashSale.Engine.Shared

/-!
# The purchase engine

`PurchaseUseCase.ExecutePurchase`, `attemptPurchase` and `cleanupCheckout` of
`application/use_cases/purchase_use_case.go` as a process, in the style of
`FlashSale.Engine.Checkout`: one step per call to C1 or C2, plus local steps at the
heads of the loops.

The serializable transaction of `attemptPurchase` reads and writes a private
view of the store, taken at `BeginTx`. `CommitTx` installs the view only if the
committed store is still the one the transaction started from, so a
transaction that commits behaves as if it ran alone at its commit; otherwise,
or when the oracle says so, the commit fails. A rolled back or abandoned
transaction leaves the committed store as it was.

The deferred `RollbackTx` runs only when the function's `err` is set, which only
the failures of `GetPurchaseResult` and `GetSaleByID` do: the later errors are
returned from `if err := ...` statements or built in the `return`. Those returns
leave the transaction open (`Shared.leaveOpen`) until the request ends.
-/

namespace FlashSale

/-- `maxItemsPerSale`, as `NewPurchaseUseCase` sets it. -/
def maxItemsPerSale : Nat := 10000

/-- `maxItemsPerUser`, as `NewPurchaseUseCase` sets it. -/
def maxItemsPerUser : Nat := 10

/-- `retryAttempts`, as `NewPurchaseUseCase` sets it. -/
def retryAttempts : Nat := 2

/-- `sale.NewPurchaseService(10000, 10)`. -/
def purchaseSvc : PurchaseService := ⟨maxItemsPerSale, maxItemsPerUser⟩

/-- An open transaction: the committed store it began from, its private view, and
    its start time (`NOW()` inside it). -/
structure Tx where
  base : Store
  view : Store
  startedAt : Time

/-- Program points of `attemptPurchase`. -/
inductive AttemptPc where
  /-- The `LogCheckoutAttempt` loop over the remaining ids. -/
  | log (rest : List ItemId)
  /-- `GetUserItemCount`. -/
  | userCount
  /-- `GetSaleItemCount` and the two advisory limit checks. -/
  | saleCount (userCount : Int)
  /-- `BeginTx`. -/
  | begin
  /-- `GetPurchaseResult`. -/
  | probe (tx : Tx)
  /-- `GetSaleByID`. -/
  | getSale (tx : Tx)
  /-- The `GetItemByID` loop over the remaining ids; at its end the emptiness check and
      `ValidatePurchase`. -/
  | getItems (tx : Tx) (sale : Sale) (rest : List ItemId) (items : List Item)
  /-- The marking loop: `ItemExistsInBloomFilter` for the next item; at its end
      `CalculatePurchaseResult`. -/
  | bloomCheck (tx : Tx) (sale : Sale) (items rest : List Item) (successful : List ItemId)
  /-- `MarkItemAsSold`. -/
  | mark (tx : Tx) (sale : Sale) (items : List Item) (item : Item) (rest : List Item)
      (successful : List ItemId)
  /-- `AddItemToBloomFilter`, on both outcomes of the mark. -/
  | bloomAdd (tx : Tx) (sale : Sale) (items : List Item) (item : Item) (rest : List Item)
      (successful : List ItemId)
  /-- `IncrementCounters`. -/
  | increment (tx : Tx) (sale : Sale) (items : List Item) (successful : List ItemId)
  /-- `UpdateSale`. -/
  | updateSale (tx : Tx) (sale : Sale) (items : List Item) (successful : List ItemId)
  /-- `SavePurchaseResult`. -/
  | save (tx : Tx) (sale : Sale) (items : List Item) (successful : List ItemId)
  /-- `CommitTx`. -/
  | commit (tx : Tx) (sale : Sale) (items : List Item) (successful : List ItemId)

/-- Program points of `ExecutePurchase`. -/
inductive PurchasePc where
  /-- `CheckoutCodeExists`. -/
  | codeExists
  /-- `GetCheckoutByCode`, its attempt query. -/
  | getCheckout (found : Bool)
  /-- `GetCheckoutByCode`, its items query. -/
  | getCheckoutItems (found : Bool) (row : CheckoutAttempt)
  /-- `SetCheckoutCode`, when the code was not in the cache. -/
  | restoreCode (checkout : Checkout)
  /-- `DistributedLock`. -/
  | lock (checkout : Checkout)
  /-- Inside attempt `n` of the retry loop. -/
  | attempt (checkout : Checkout) (n : Nat) (a : AttemptPc)
  /-- `cleanupCheckout`: `RemoveUserCheckoutCode`. -/
  | removeUserCode (checkout : Checkout) (result : PurchaseResult)
  /-- `cleanupCheckout`: `RemoveCheckoutCode`. -/
  | removeCode (checkout : Checkout) (result : PurchaseResult)
  /-- `cleanupCheckout`: `DeleteCheckout`. -/
  | deleteCheckout (checkout : Checkout) (result : PurchaseResult)
  /-- The deferred `ReleaseLock`, with the value being returned; the request then ends.
      Every return that can follow an attempt passes here. -/
  | release (out : Except Error PurchaseResult)
  /-- `ExecutePurchase` has returned. -/
  | done (out : Except Error PurchaseResult)

/-- A running `ExecutePurchase(code)`. -/
structure PurchaseProc where
  code : Code
  pc : PurchasePc

/-- The retry loop after an attempt returned: stop on success, on a business
    error, or after the last attempt; otherwise sleep and try again. -/
def afterAttempt (checkout : Checkout) (n : Nat) : Except Error PurchaseResult → PurchasePc
  | .ok r => .removeUserCode checkout r
  | .error e =>
    if isBusinessLogicError e then .release (.error e)
    else if n + 1 < retryAttempts then .attempt checkout (n + 1) (.log checkout.itemIds)
    else .release (.error e)

/-- After a failed attempt the loop either returns the error or starts the next attempt. -/
theorem afterAttempt_error (checkout : Checkout) (n : Nat) (e : Error) :
    afterAttempt checkout n (.error e) = .release (.error e) ∨
      afterAttempt checkout n (.error e) = .attempt checkout (n + 1) (.log checkout.itemIds) := by
  unfold afterAttempt
  split_ifs <;> simp

/-- The checkout `GetCheckoutByCode` returns from its two queries. -/
def checkoutOfRow (row : CheckoutAttempt) (itemIds : List ItemId) : Checkout :=
  ⟨row.checkoutCode, row.saleId, row.userId, itemIds, row.createdAt⟩

/-- One step of `attemptPurchase` for process `pid`: the next program point, or the
    value the attempt returns. -/
def attemptStep (s : Shared) (pid : Nat) (checkout : Checkout) (ok : Bool) (fresh : Nat) :
    AttemptPc → Shared × (AttemptPc ⊕ Except Error PurchaseResult)
  | .log [] => (s, .inl .userCount)
  -- A failed `LogCheckoutAttempt` is logged, and the loop goes on.
  | .log (id :: rest) =>
    let db := if ok then s.db.logCheckoutAttempt checkout.saleId checkout.userId checkout.code
      id fresh s.clock else none
    (match db with | some db => s.setDb db | none => s, .inl (.log rest))
  -- The two counts are read with their errors dropped: a failed read is 0.
  | .userCount => (s, .inl (.saleCount (if ok then s.cache.getUserItemCount checkout.saleId
      checkout.userId else 0)))
  | .saleCount uc =>
    let sc := if ok then s.cache.getSaleItemCount checkout.saleId else 0
    if (maxItemsPerSale : Int) < sc + checkout.itemIds.length then (s, .inr (.error .saleLimitExceeded))
    else if (maxItemsPerUser : Int) < uc + checkout.itemIds.length then
      (s, .inr (.error .userLimitExceeded))
    else (s, .inl .begin)
  | .begin =>
    if ok then (s, .inl (.probe ⟨s.db.store, s.db.store, s.clock⟩)) else (s, .inr (.error .beginFailed))
  -- From here the reads go through the transaction's view.
  | .probe tx =>
    if !ok then (s, .inr (.error .backend))
    else match tx.view.getPurchaseResult checkout.code with
      | some _ => (s.leaveOpen pid [], .inr (.error .checkoutAlreadyProcessed))
      | none => (s, .inl (.getSale tx))
  | .getSale tx =>
    if !ok then (s, .inr (.error (.getSaleFailed .backend)))
    else match tx.view.getSaleByID checkout.saleId with
      | none => (s, .inr (.error (.getSaleFailed .saleNotFound)))
      | some sale => (s, .inl (.getItems tx sale checkout.itemIds []))
  -- `ValidatePurchase` is given a user count of 0: the limit is "checked atomically".
  | .getItems tx sale [] items =>
    if items.isEmpty then (s.leaveOpen pid [], .inr (.error .noValidItems))
    else match purchaseSvc.validatePurchase sale 0 items s.clock with
      | .error e => (s.leaveOpen pid [], .inr (.error (.validationFailed e)))
      | .ok () => (s, .inl (.bloomCheck tx sale items items []))
  -- An item whose read fails is skipped.
  | .getItems tx sale (id :: rest) items =>
    match if ok then tx.view.getItemByID id else none with
    | none => (s, .inl (.getItems tx sale rest items))
    | some item => (s, .inl (.getItems tx sale rest (items ++ [item])))
  | .bloomCheck tx sale items [] succ =>
    if succ.isEmpty then (s, .inl (.save tx sale items succ))
    else (s, .inl (.increment tx sale items succ))
  -- A failed filter read answers false, and the item is marked.
  | .bloomCheck tx sale items (item :: rest) succ =>
    if ok && s.cache.itemExistsInBloomFilter item.id then
      (s, .inl (.bloomCheck tx sale items rest succ))
    else (s, .inl (.mark tx sale items item rest succ))
  -- A failed `MarkItemAsSold` skips the item.
  | .mark tx sale items item rest succ =>
    if !ok then (s, .inl (.bloomCheck tx sale items rest succ))
    else
      let (view, sold) := tx.view.markItemAsSold item.id checkout.userId tx.startedAt
      if sold then
        ({ s with marked := s.marked ++ [item.id] },
          .inl (.bloomAdd { tx with view } sale items item rest (succ ++ [item.id])))
      else (s, .inl (.bloomAdd tx sale items item rest succ))
  | .bloomAdd tx sale items item rest succ =>
    (if ok then s.addToBloom item.id else s, .inl (.bloomCheck tx sale items rest succ))
  -- A failed `IncrementCounters` is logged and ignored.
  | .increment tx sale items succ =>
    (if ok then s.setCache (s.cache.incrementCounters checkout.saleId checkout.userId succ.length)
      else s, .inl (.updateSale tx sale items succ))
  | .updateSale tx sale items succ =>
    let sale := { sale with itemsSold := sale.itemsSold + succ.length }
    if ok then (s, .inl (.save { tx with view := tx.view.updateSale sale } sale items succ))
    else (s.leaveOpen pid succ, .inr (.error .updateSaleFailed))
  | .save tx sale items succ =>
    if ok then
      let view := tx.view.savePurchaseResult checkout.code (calculatePurchaseResult items succ)
      (s, .inl (.commit { tx with view } sale items succ))
    else (s.leaveOpen pid succ, .inr (.error .saveResultFailed))
  -- The commit installs the view only over the store the transaction began from.
  | .commit tx _ items succ =>
    if ok && s.db.store = tx.base then
      let result := calculatePurchaseResult items succ
      ({ s with db := { s.db with store := tx.view },
                commits := s.commits ++ [⟨pid, checkout.code, checkout, items, succ, result⟩] },
        .inr (if succ.isEmpty then .error .allItemsSold else .ok result))
    else (s, .inr (.error .commitFailed))

namespace PurchaseProc

/-- One step of `ExecutePurchase` for process `pid`, `none` once it returned. -/
def step (s : Shared) (pid : Nat) (p : PurchaseProc) (ok : Bool) (fresh : Nat) :
    Option (Shared × PurchaseProc) :=
  let go (s : Shared) (pc : PurchasePc) := some (s, { p with pc })
  match p.pc with
  | .codeExists =>
    if ok then go s (.getCheckout (s.cache.checkoutCodeExists p.code))
    else go s (.done (.error .backend))
  | .getCheckout found =>
    match if ok then s.db.getCheckoutAttempt p.code else none with
    | none => go s (.done (.error .checkoutNotFound))
    | some row => go s (.getCheckoutItems found row)
  | .getCheckoutItems found row =>
    if !ok then go s (.done (.error .checkoutNotFound))
    else
      let checkout := checkoutOfRow row (s.db.getCheckoutItemIds p.code)
      go s (if found then .lock checkout else .restoreCode checkout)
  | .restoreCode checkout =>
    go (if ok then s.setCache (s.cache.setCheckoutCode p.code) else s) (.lock checkout)
  | .lock checkout =>
    if !ok then go s (.done (.error .lockFailed))
    else
      let (cache, locked) := s.cache.distributedLock p.code
      if locked then go (s.setCache cache) (.attempt checkout 0 (.log checkout.itemIds))
      else go s (.done (.error .lockHeld))
  | .attempt checkout n a =>
    match attemptStep s pid checkout ok fresh a with
    | (s, .inl a) => go s (.attempt checkout n a)
    | (s, .inr r) => go s (afterAttempt checkout n r)
  | .removeUserCode checkout r =>
    go (if ok then s.setCache (s.cache.removeUserCheckoutCode checkout.saleId checkout.userId)
      else s) (.removeCode checkout r)
  | .removeCode checkout r =>
    go (if ok then s.setCache (s.cache.removeCheckoutCode p.code) else s) (.deleteCheckout checkout r)
  | .deleteCheckout _ r =>
    go (if ok then s.setDb (s.db.deleteCheckout p.code) else s) (.release (.ok r))
  | .release out =>
    go ((if ok then s.setCache (s.cache.releaseLock p.code) else s).endRequest pid) (.done out)
  | .done _ => none

end PurchaseProc

end FlashSale
