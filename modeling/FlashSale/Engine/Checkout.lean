import FlashSale.Engine.Shared

/-!
# The checkout handler

`CheckoutHandler.Handle` of `application/commands/checkout_command.go` as a
process. Its program counter stops before every call to C1 or C2 and carries
the locals live there; one step makes that call and moves on. The step's `ok`
says whether the call succeeds; `fresh` is the value of the random generator
(`GenerateCheckoutCode`, `GenerateCheckoutID`) when the step draws one.
Errors of the calls the handler only logs do not change its path.

The handler reads the time twice: `GetActiveSale` compares with the database's `NOW()`,
and `IsActive` then with `time.Now()`. The two readings are two steps, so the clock may
move between them.
-/

namespace FlashSale

/-- `maxItemsLimit`, as `handlers.CheckoutHandler.HandleCheckout` builds the command
    handler (`NewCheckoutHandler(..., 10, ...)`). -/
def maxItemsLimit : Int := 10

/-- `CheckoutResponse`. -/
structure CheckoutResponse where
  code : Code
  itemsCount : Nat
  saleEndsAt : Time
  deriving DecidableEq, Repr

/-- Program points of `Handle`. -/
inductive CheckoutPc where
  /-- `GetActiveSale`, which compares with the database's `NOW()`. -/
  | getActiveSale
  /-- `IsActive(time.Now().UTC())` on the sale `GetActiveSale` returned: a second reading
      of the clock, which may come later than the database's. -/
  | isActive (sale : Sale)
  /-- `ItemExistsInBloomFilter`. -/
  | bloom (sale : Sale)
  /-- `GetAvailableCheckoutSlots`, its first read: the purchased count. -/
  | purchasedCount (sale : Sale)
  /-- `GetAvailableCheckoutSlots`, its second read: the checkout count. -/
  | checkoutCount (sale : Sale) (purchased : Int)
  /-- `HasUserCheckedOutItem`. -/
  | hasCheckedOut (sale : Sale)
  /-- `GetItemByID`. -/
  | getItem (sale : Sale)
  /-- `AddItemToBloomFilter` for an item found sold. -/
  | addSoldToBloom
  /-- `GetUserCheckoutCode`. -/
  | getCode (sale : Sale)
  /-- `GenerateCheckoutCode`. -/
  | generate (sale : Sale)
  /-- `SetUserCheckoutCode`. -/
  | setUserCode (sale : Sale) (code : Code)
  /-- `SetCheckoutCode`. -/
  | setCode (sale : Sale) (code : Code)
  /-- `GetCheckoutByCode`, its attempt query. -/
  | getCheckout (sale : Sale) (code : Code)
  /-- `GetCheckoutByCode`, its items query. -/
  | getCheckoutItems (sale : Sale) (code : Code) (row : CheckoutAttempt)
  /-- `NewCheckout` and `CreateCheckout`. -/
  | create (sale : Sale) (code : Code)
  /-- `AddItemToCheckout`, its attempt lookup. -/
  | addItemFind (sale : Sale) (code : Code) (checkout : Checkout)
  /-- `AddItemToCheckout`, its duplicate count. -/
  | addItemCount (sale : Sale) (code : Code) (checkout : Checkout) (attemptId : Nat)
  /-- `AddItemToCheckout`, its insert. -/
  | addItemInsert (sale : Sale) (code : Code) (checkout : Checkout) (attemptId : Nat)
  /-- `IncrementUserCheckoutCount`. -/
  | incrementCount (sale : Sale) (code : Code) (checkout : Checkout)
  /-- `AddUserCheckedOutItem`. -/
  | addChecked (sale : Sale) (code : Code) (checkout : Checkout)
  /-- `Handle` has returned. -/
  | done (out : Except Error CheckoutResponse)

/-- A running `Handle(CheckoutCommand{UserID, ItemID})`. -/
structure CheckoutProc where
  userId : UserId
  itemId : ItemId
  pc : CheckoutPc

namespace CheckoutProc

/-- One step of `Handle`: the call at the program counter, `none` once it returned. -/
def step (s : Shared) (p : CheckoutProc) (ok : Bool) (fresh : Nat) :
    Option (Shared × CheckoutProc) :=
  let u := p.userId
  let i := p.itemId
  let go (s : Shared) (pc : CheckoutPc) := some (s, { p with pc })
  let fail (e : Error) := go s (.done (.error e))
  match p.pc with
  | .getActiveSale =>
    match if ok then s.db.store.getActiveSale s.clock else none with
    | none => fail .saleNotFound
    | some sale => go s (.isActive sale)
  | .isActive sale => if sale.isActive s.clock then go s (.bloom sale) else fail .saleNotActive
  -- The three reads of C2 that follow are advisory: a failed read is logged and skipped.
  | .bloom sale =>
    if ok && s.cache.itemExistsInBloomFilter i then fail .itemAlreadySold
    else go s (.purchasedCount sale)
  -- `GetAvailableCheckoutSlots` reads the purchased count, then the checkout count.
  | .purchasedCount sale =>
    if ok then go s (.checkoutCount sale (s.cache.getUserItemCount sale.id u))
    else go s (.hasCheckedOut sale)
  | .checkoutCount sale purchased =>
    if ok && maxItemsLimit - purchased - s.cache.getUserCheckoutCount sale.id u ≤ 0 then
      fail .userLimitExceeded
    else go s (.hasCheckedOut sale)
  | .hasCheckedOut sale =>
    if ok && s.cache.hasUserCheckedOutItem sale.id u i then fail .userAlreadyCheckedOutItem
    else go s (.getItem sale)
  -- A failed query returns its own error; a missing row returns `ErrItemNotFound`.
  | .getItem sale =>
    if !ok then fail .backend
    else match s.db.store.getItemByID i with
      | none => fail .itemNotFound
      | some item =>
        if item.saleId ≠ sale.id then fail .itemNotInSale
        else if item.sold then go s .addSoldToBloom
        else go s (.getCode sale)
  -- `_ = h.cache.AddItemToBloomFilter(...)`: its error is dropped.
  | .addSoldToBloom => go (if ok then s.addToBloom i else s) (.done (.error .itemAlreadySold))
  -- A failed read counts as no code, and a new one is generated.
  | .getCode sale =>
    match if ok then s.cache.getUserCheckoutCode sale.id u else none with
    | some code => go s (.getCheckout sale code)
    | none => go s (.generate sale)
  | .generate sale => if ok then go s (.setUserCode sale fresh) else fail .transactionFailed
  -- The failures of the two `SET`s are logged and ignored.
  | .setUserCode sale code =>
    go (if ok then s.setCache (s.cache.setUserCheckoutCode sale.id u code) else s)
      (.setCode sale code)
  | .setCode sale code =>
    go (if ok then s.setCache (s.cache.setCheckoutCode code) else s) (.getCheckout sale code)
  -- Any error of `GetCheckoutByCode`, not only a missing row, creates a new checkout.
  | .getCheckout sale code =>
    match if ok then s.db.getCheckoutAttempt code else none with
    | none => go s (.create sale code)
    | some row => go s (.getCheckoutItems sale code row)
  | .getCheckoutItems sale code row =>
    if !ok then go s (.create sale code)
    else
      let checkout : Checkout :=
        ⟨row.checkoutCode, row.saleId, row.userId, s.db.getCheckoutItemIds code, row.createdAt⟩
      match checkout.addItem i with
      | none => fail .userAlreadyCheckedOutItem
      | some checkout => go s (.addItemFind sale code checkout)
  | .create sale code =>
    match Checkout.new code sale.id u [i] s.clock with
    | none => fail .backend
    | some checkout =>
      match if ok then s.db.createCheckout checkout fresh else none with
      | none => fail .backend
      | some db => go (s.setDb db) (.incrementCount sale code checkout)
  | .addItemFind sale code checkout =>
    if !ok then fail .backend
    else match s.db.findAttemptId code with
      | none => fail .checkoutNotFound
      | some aid => go s (.addItemCount sale code checkout aid)
  | .addItemCount sale code checkout aid =>
    if !ok then fail .backend
    else if 0 < s.db.countCheckoutItem aid i then fail .itemAlreadyInCheckout
    else go s (.addItemInsert sale code checkout aid)
  | .addItemInsert sale code checkout aid =>
    match if ok then s.db.insertCheckoutItem ⟨fresh, aid, i, s.clock⟩ else none with
    | none => fail .backend
    | some db => go (s.setDb db) (.incrementCount sale code checkout)
  -- The failures of the last two writes to C2 are logged and ignored.
  | .incrementCount sale code checkout =>
    go (if ok then s.setCache (s.cache.incrementUserCheckoutCount sale.id u) else s)
      (.addChecked sale code checkout)
  | .addChecked sale code checkout =>
    go (if ok then s.setCache (s.cache.addUserCheckedOutItem sale.id u i) else s)
      (.done (.ok ⟨code, checkout.itemCount, sale.endedAt⟩))
  | .done _ => none

end CheckoutProc

end FlashSale
