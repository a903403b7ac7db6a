import Mathlib.Data.List.Basic

/-!
# Domain model

The entities of `internal/domain/sale`, the error values of
`internal/domain/errors`, and the two pure services the purchase engine calls:
`PurchaseService.ValidatePurchase` and `PurchaseService.CalculatePurchaseResult`.

Identifiers are strings in the service. They are only compared for equality,
hashed by the sold-items filter, or formatted into cache keys, so we model them
as `Nat`. Instants are `Nat` as well; `time.Time.After` and `Before` become `<`.
-/

namespace FlashSale

abbrev SaleId := Nat
abbrev ItemId := Nat
abbrev UserId := Nat
abbrev Code := Nat
abbrev Time := Nat

/-- The errors the engine returns. The sentinels of `domain/errors` come first;
    the rest are built at their call sites with `errors.New` or `fmt.Errorf`, and
    a wrapper keeps the error it wraps only where that error can be a sentinel. -/
inductive Error where
  | saleNotFound
  | saleNotActive
  | saleOutOfStock
  | saleLimitExceeded
  | noItemsToPurchase
  | itemNotFound
  | itemAlreadySold
  | itemNotInSale
  | allItemsSold
  | checkoutNotFound
  | checkoutExpired
  | itemAlreadyInCheckout
  | userAlreadyCheckedOutItem
  | userLimitExceeded
  | checkoutAlreadyProcessed
  | transactionFailed
  /-- An error of the durable store or of the cache, returned as it is. -/
  | backend
  /-- `"failed to acquire lock: %w"` -/
  | lockFailed
  /-- `"another purchase is in progress for this user"` -/
  | lockHeld
  /-- `"failed to begin transaction: %w"` -/
  | beginFailed
  /-- `"failed to get sale: %w"` -/
  | getSaleFailed (e : Error)
  /-- `"no valid items found"` -/
  | noValidItems
  /-- `"purchase validation failed: %w"` -/
  | validationFailed (e : Error)
  /-- `"failed to update sale: %w"` -/
  | updateSaleFailed
  /-- `"failed to save purchase result: %w"` -/
  | saveResultFailed
  /-- `"failed to commit transaction: %w"` -/
  | commitFailed
  deriving DecidableEq, Repr

/-- `isBusinessLogicError`: the retry loop stops on exactly these four values.
    The Go code compares with `==`, so a wrapped sentinel does not count. -/
def isBusinessLogicError : Error → Bool
  | .checkoutNotFound | .saleNotFound | .userLimitExceeded | .checkoutAlreadyProcessed => true
  | _ => false

/-- A row of `sales` (`sale.Sale`; `CreatedAt` is never read and is left out). -/
structure Sale where
  id : SaleId
  startedAt : Time
  endedAt : Time
  totalItems : Nat
  itemsSold : Nat
  deriving DecidableEq, Repr

/-- `Sale.IsActive`: `now.After(StartedAt) && now.Before(EndedAt)`. -/
def Sale.isActive (s : Sale) (now : Time) : Bool :=
  decide (s.startedAt < now) && decide (now < s.endedAt)

/-- A row of `items`. The nullable columns `sold_to_user_id` and `sold_at` are
    options; `Name`, `ImageURL` and `CreatedAt` are display data nothing decides on. -/
structure Item where
  id : ItemId
  saleId : SaleId
  sold : Bool
  soldToUserId : Option UserId
  soldAt : Option Time
  deriving DecidableEq, Repr

/-- `sale.NewItem`: an unsold item of a sale. -/
def Item.new (id : ItemId) (saleId : SaleId) : Item :=
  { id, saleId, sold := false, soldToUserId := none, soldAt := none }

/-- `Item.BelongsToSale`. -/
def Item.belongsToSale (i : Item) (saleId : SaleId) : Bool := i.saleId == saleId

/-- `sale.Checkout`, as `GetCheckoutByCode` assembles it from the checkout tables. -/
structure Checkout where
  code : Code
  saleId : SaleId
  userId : UserId
  itemIds : List ItemId
  createdAt : Time
  deriving DecidableEq, Repr

/-- `sale.NewCheckout`. The emptiness checks on the three string identifiers
    cannot fail on `Nat` identifiers; the check on the item list stays. -/
def Checkout.new (code : Code) (saleId : SaleId) (userId : UserId) (itemIds : List ItemId)
    (now : Time) : Option Checkout :=
  if itemIds.isEmpty then none else some { code, saleId, userId, itemIds, createdAt := now }

/-- `Checkout.AddItem`: refuses an item already in the list, else appends it. -/
def Checkout.addItem (c : Checkout) (itemId : ItemId) : Option Checkout :=
  if itemId ∈ c.itemIds then none else some { c with itemIds := c.itemIds ++ [itemId] }

/-- `Checkout.ItemCount`. -/
def Checkout.itemCount (c : Checkout) : Nat := c.itemIds.length

/-- `sale.PurchaseItemResult` (its `Name` is copied display data and left out). -/
structure PurchaseItemResult where
  id : ItemId
  sold : Bool
  deriving DecidableEq, Repr

/-- `sale.PurchaseResult`, the value stored in `purchase_results`. -/
structure PurchaseResult where
  success : Bool
  items : List PurchaseItemResult
  totalPurchased : Nat
  failedCount : Int
  deriving DecidableEq, Repr

/-- `PurchaseService` with its two limits. -/
structure PurchaseService where
  maxItemsPerSale : Nat
  maxItemsPerUser : Nat

/-- `PurchaseService.ValidatePurchase`, with its checks in the source's order.
    Only `CurrentItemCount` of `UserLimits` is read; the user bound is the
    service's own `maxItemsPerUser`. -/
def PurchaseService.validatePurchase (svc : PurchaseService) (sale : Sale)
    (currentItemCount : Int) (items : List Item) (now : Time) : Except Error Unit :=
  if !sale.isActive now then .error .saleNotActive
  else if items.isEmpty then .error .noItemsToPurchase
  else if svc.maxItemsPerSale < sale.itemsSold + items.length then .error .saleLimitExceeded
  else if (svc.maxItemsPerUser : Int) < currentItemCount + items.length then
    .error .userLimitExceeded
  else if items.all (·.belongsToSale sale.id) then .ok ()
  else .error .itemNotInSale

/-- `PurchaseService.CalculatePurchaseResult`. `successMap[item.ID]` is
    membership in `successful`. -/
def calculatePurchaseResult (attempted : List Item) (successful : List ItemId) :
    PurchaseResult where
  success := decide (0 < successful.length)
  items := attempted.map fun i => { id := i.id, sold := successful.contains i.id }
  totalPurchased := successful.length
  failedCount := (attempted.length : Int) - successful.length

/-! ## Small lemmas -/

@[simp] theorem isActive_iff (s : Sale) (now : Time) :
    s.isActive now = true ↔ s.startedAt < now ∧ now < s.endedAt := by
  simp [Sale.isActive]

/-- A purchase that passes validation with no items counted yet buys at most
    `maxItemsPerUser` items, all of the validated sale. -/
theorem validatePurchase_ok {svc : PurchaseService} {sale : Sale} {items : List Item}
    {now : Time} (h : svc.validatePurchase sale 0 items now = .ok ()) :
    items ≠ [] ∧ items.length ≤ svc.maxItemsPerUser ∧ ∀ i ∈ items, i.saleId = sale.id := by
  unfold PurchaseService.validatePurchase at h
  split_ifs at h with h1 h2 h3 h4 h5
  · refine ⟨by simpa using h2, by omega, fun i hi => ?_⟩
    simpa [Item.belongsToSale] using List.all_eq_true.1 h5 i hi

/-- The result lists an item as sold exactly when it was attempted and is among the
    successful ids. -/
theorem sold_mem_calculatePurchaseResult {attempted : List Item} {successful : List ItemId}
    {x : ItemId} : ⟨x, true⟩ ∈ (calculatePurchaseResult attempted successful).items ↔
      x ∈ attempted.map Item.id ∧ x ∈ successful := by
  simp only [calculatePurchaseResult, List.mem_map, PurchaseItemResult.mk.injEq]
  constructor
  · rintro ⟨i, hi, rfl, hs⟩; exact ⟨⟨i, hi, rfl⟩, by simpa using hs⟩
  · rintro ⟨⟨i, hi, rfl⟩, hs⟩; exact ⟨i, hi, rfl, by simpa using hs⟩

end FlashSale
