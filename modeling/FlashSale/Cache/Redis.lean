import FlashSale.Domain
import FlashSale.Cache.Bloom

/-!
# The coordination store (C2)

The keys the service keeps in Redis and the `Cache` methods of
`monitoring/middleware.go` that the checkout handler and the purchase engine call.
Every method is one command, one pipeline or one script, and runs as one step;
a missing integer key reads as 0 (`redis.Nil`), a missing string key as the empty
code.

Keys are formatted with `fmt.Sprintf` from identifiers the service generates; one
field per key family stands for that formatting.
-/

namespace FlashSale

/-- The keys of C2 that the engine reads or writes. -/
structure Cache where
  /-- `sale:{S}:items_sold` -/
  saleItemsSold : SaleId → Int
  /-- `user:{U}:sale:{S}:count` -/
  userItemCount : UserId → SaleId → Int
  /-- `user:{U}:sale:{S}:checkout_count` -/
  userCheckoutCount : UserId → SaleId → Int
  /-- `user:{U}:sale:{S}:checkout` -/
  userCheckoutCode : UserId → SaleId → Option Code
  /-- `checkout:{code}` -/
  checkoutCode : Code → Bool
  /-- `user:{U}:sale:{S}:checked_items` -/
  checkedItems : UserId → SaleId → List ItemId
  /-- `lock:purchase:{code}` -/
  lock : Code → Bool
  /-- The filter object and the bits of `bloom:sold_items`. -/
  bloomFilter : RedisBloomFilter ItemId
  bloomBits : List UInt64

/-- The keys that carry a TTL and can therefore vanish at any moment. -/
inductive Key where
  | userItemCount (userId : UserId) (saleId : SaleId)
  | userCheckoutCode (userId : UserId) (saleId : SaleId)
  | checkoutCode (code : Code)
  | checkedItems (userId : UserId) (saleId : SaleId)
  | lock (code : Code)
  deriving DecidableEq, Repr

namespace Cache

/-- Overwrite one entry of a key family indexed by user and sale. -/
def set2 {β : Type} (f : UserId → SaleId → β) (u : UserId) (s : SaleId) (v : β) :
    UserId → SaleId → β :=
  fun u' s' => if u' = u ∧ s' = s then v else f u' s'

/-- Overwrite one entry of a key family indexed by one identifier. -/
def set1 {β : Type} (f : Nat → β) (k : Nat) (v : β) : Nat → β :=
  fun k' => if k' = k then v else f k'

@[simp] theorem set2_same {β : Type} (f : UserId → SaleId → β) (u s v) : set2 f u s v u s = v := by
  simp [set2]

@[simp] theorem set1_same {β : Type} (f : Nat → β) (k v) : set1 f k v k = v := by simp [set1]

/-- An empty Redis with the given filter object. -/
def empty (bf : RedisBloomFilter ItemId) : Cache :=
  ⟨fun _ => 0, fun _ _ => 0, fun _ _ => 0, fun _ _ => none, fun _ => false, fun _ _ => [],
    fun _ => false, bf, []⟩

variable (c : Cache)

/-- `GetUserItemCount`. -/
def getUserItemCount (saleId : SaleId) (userId : UserId) : Int := c.userItemCount userId saleId

/-- `GetSaleItemCount`. -/
def getSaleItemCount (saleId : SaleId) : Int := c.saleItemsSold saleId

/-- `GetUserCheckoutCount`. -/
def getUserCheckoutCount (saleId : SaleId) (userId : UserId) : Int :=
  c.userCheckoutCount userId saleId

/-- `IncrementUserCheckoutCount`: `INCR`. -/
def incrementUserCheckoutCount (saleId : SaleId) (userId : UserId) : Cache :=
  let n := c.userCheckoutCount userId saleId + 1
  { c with userCheckoutCount := set2 c.userCheckoutCount userId saleId n }

/-- `GetUserCheckoutCode`: `none` for the empty string of a missing key. -/
def getUserCheckoutCode (saleId : SaleId) (userId : UserId) : Option Code :=
  c.userCheckoutCode userId saleId

/-- `SetUserCheckoutCode`. -/
def setUserCheckoutCode (saleId : SaleId) (userId : UserId) (code : Code) : Cache :=
  { c with userCheckoutCode := set2 c.userCheckoutCode userId saleId (some code) }

/-- `RemoveUserCheckoutCode`: one pipeline deleting the code and the checkout count. -/
def removeUserCheckoutCode (saleId : SaleId) (userId : UserId) : Cache :=
  { c with
    userCheckoutCode := set2 c.userCheckoutCode userId saleId none,
    userCheckoutCount := set2 c.userCheckoutCount userId saleId 0 }

/-- `SetCheckoutCode`. -/
def setCheckoutCode (code : Code) : Cache :=
  { c with checkoutCode := set1 c.checkoutCode code true }

/-- `CheckoutCodeExists`. -/
def checkoutCodeExists (code : Code) : Bool := c.checkoutCode code

/-- `RemoveCheckoutCode`. -/
def removeCheckoutCode (code : Code) : Cache :=
  { c with checkoutCode := set1 c.checkoutCode code false }

/-- `HasUserCheckedOutItem`: `SISMEMBER`. -/
def hasUserCheckedOutItem (saleId : SaleId) (userId : UserId) (itemId : ItemId) : Bool :=
  (c.checkedItems userId saleId).contains itemId

/-- `AddUserCheckedOutItem`: one pipeline of `SADD` and `EXPIRE`. -/
def addUserCheckedOutItem (saleId : SaleId) (userId : UserId) (itemId : ItemId) : Cache :=
  let items := c.checkedItems userId saleId ++ [itemId]
  { c with checkedItems := set2 c.checkedItems userId saleId items }

/-- `IncrementCounters`: one script, `INCRBY` on both counters. -/
def incrementCounters (saleId : SaleId) (userId : UserId) (itemCount : Nat) : Cache :=
  { c with
    saleItemsSold := set1 c.saleItemsSold saleId (c.saleItemsSold saleId + itemCount),
    userItemCount := set2 c.userItemCount userId saleId (c.userItemCount userId saleId + itemCount) }

/-- `DistributedLock` on `purchase:{code}`: `SETNX`, with whether it was set. -/
def distributedLock (code : Code) : Cache × Bool :=
  if c.lock code then (c, false) else ({ c with lock := set1 c.lock code true }, true)

/-- `ReleaseLock`: `DEL`, whoever set the key. -/
def releaseLock (code : Code) : Cache := { c with lock := set1 c.lock code false }

/-- `AddItemToBloomFilter`. -/
def addItemToBloomFilter (itemId : ItemId) : Cache :=
  { c with bloomBits := c.bloomFilter.add c.bloomBits itemId }

/-- `ItemExistsInBloomFilter`. -/
def itemExistsInBloomFilter (itemId : ItemId) : Bool :=
  c.bloomFilter.contains c.bloomBits itemId

/-- A key reaching the end of its TTL. -/
def expire : Key → Cache
  | .userItemCount u s => { c with userItemCount := set2 c.userItemCount u s 0 }
  | .userCheckoutCode u s => { c with userCheckoutCode := set2 c.userCheckoutCode u s none }
  | .checkoutCode code => c.removeCheckoutCode code
  | .checkedItems u s => { c with checkedItems := set2 c.checkedItems u s [] }
  | .lock code => c.releaseLock code

end Cache

end FlashSale
