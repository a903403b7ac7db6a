import FlashSale.Store.Repository
import FlashSale.Cache.Redis

/-!
# State shared by all requests

Every request of the service runs as its own process; what the processes share is
the clock, the durable store (C1) and the coordination store (C2), and the
purchase transactions the database still holds open after `attemptPurchase`
returned from them. Three ghost fields record history that the service does not
keep: the purchases that committed, the ids passed to `AddItemToBloomFilter`, and
the ids `MarkItemAsSold` reported as updated in any transaction. No step branches on
them; they let a property of the store be stated against what happened before.
-/

namespace FlashSale

/-- A purchase transaction that committed (ghost): the process that ran it, the
    checkout code and the checkout it loaded, the items it read, the ids it marked
    sold and the result it saved. -/
structure Commit where
  pid : Nat
  code : Code
  checkout : Checkout
  items : List Item
  successful : List ItemId
  result : PurchaseResult

/-- A C1 transaction that `attemptPurchase` returned from without committing or rolling
    it back: process `pid` began it, and it keeps locked the `items` rows its
    `MarkItemAsSold` updated. -/
structure OpenTx where
  pid : Nat
  locked : List ItemId
  deriving DecidableEq, Repr

/-- The state the processes share. -/
structure Shared where
  clock : Time
  db : Db
  cache : Cache
  commits : List Commit
  bloomAdded : List ItemId
  marked : List ItemId
  openTxs : List OpenTx

namespace Shared

/-- The shared state of a fresh deployment. -/
def init (bf : RedisBloomFilter ItemId) : Shared :=
  ⟨0, .empty, .empty bf, [], [], [], []⟩

/-- Replace the cache. -/
def setCache (s : Shared) (c : Cache) : Shared := { s with cache := c }

/-- Replace the durable store. -/
def setDb (s : Shared) (db : Db) : Shared := { s with db := db }

/-- `AddItemToBloomFilter`, recorded in the ghost list. -/
def addToBloom (s : Shared) (itemId : ItemId) : Shared :=
  { s with cache := s.cache.addItemToBloomFilter itemId, bloomAdded := s.bloomAdded ++ [itemId] }

/-- `attemptPurchase` returns and its transaction stays open: the deferred `RollbackTx`
    tests the function's `err`, which this return path left `nil`. -/
def leaveOpen (s : Shared) (pid : Nat) (locked : List ItemId) : Shared :=
  { s with openTxs := s.openTxs ++ [⟨pid, locked⟩] }

/-- The request of process `pid` returns and its context ends: `database/sql` rolls back
    every transaction it began with that context (`BeginTx(ctx)`) and left open. -/
def endRequest (s : Shared) (pid : Nat) : Shared :=
  { s with openTxs := s.openTxs.filter (·.pid != pid) }

@[simp] theorem setCache_db (s : Shared) (c) : (s.setCache c).db = s.db := rfl
@[simp] theorem setCache_commits (s : Shared) (c) : (s.setCache c).commits = s.commits := rfl
@[simp] theorem setCache_bloomAdded (s : Shared) (c) : (s.setCache c).bloomAdded = s.bloomAdded :=
  rfl
@[simp] theorem setCache_marked (s : Shared) (c) : (s.setCache c).marked = s.marked := rfl
@[simp] theorem setCache_clock (s : Shared) (c) : (s.setCache c).clock = s.clock := rfl
@[simp] theorem setCache_cache (s : Shared) (c) : (s.setCache c).cache = c := rfl
@[simp] theorem setDb_db (s : Shared) (db) : (s.setDb db).db = db := rfl
@[simp] theorem setDb_commits (s : Shared) (db) : (s.setDb db).commits = s.commits := rfl
@[simp] theorem setDb_bloomAdded (s : Shared) (db) : (s.setDb db).bloomAdded = s.bloomAdded := rfl
@[simp] theorem setDb_marked (s : Shared) (db) : (s.setDb db).marked = s.marked := rfl
@[simp] theorem setDb_clock (s : Shared) (db) : (s.setDb db).clock = s.clock := rfl
@[simp] theorem setDb_cache (s : Shared) (db) : (s.setDb db).cache = s.cache := rfl
@[simp] theorem addToBloom_db (s : Shared) (i) : (s.addToBloom i).db = s.db := rfl
@[simp] theorem addToBloom_commits (s : Shared) (i) : (s.addToBloom i).commits = s.commits := rfl
@[simp] theorem addToBloom_bloomAdded (s : Shared) (i) :
    (s.addToBloom i).bloomAdded = s.bloomAdded ++ [i] := rfl
@[simp] theorem addToBloom_marked (s : Shared) (i) : (s.addToBloom i).marked = s.marked := rfl
@[simp] theorem addToBloom_clock (s : Shared) (i) : (s.addToBloom i).clock = s.clock := rfl
@[simp] theorem setCache_openTxs (s : Shared) (c) : (s.setCache c).openTxs = s.openTxs := rfl
@[simp] theorem setDb_openTxs (s : Shared) (db) : (s.setDb db).openTxs = s.openTxs := rfl
@[simp] theorem addToBloom_openTxs (s : Shared) (i) : (s.addToBloom i).openTxs = s.openTxs := rfl
@[simp] theorem leaveOpen_openTxs (s : Shared) (pid l) :
    (s.leaveOpen pid l).openTxs = s.openTxs ++ [⟨pid, l⟩] := rfl
@[simp] theorem endRequest_openTxs (s : Shared) (pid) :
    (s.endRequest pid).openTxs = s.openTxs.filter (·.pid != pid) := rfl

end Shared

end FlashSale
