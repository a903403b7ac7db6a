import FlashSale.Spec.Counters

/-!
# Checkout codes

A checkout code lives in three places: the user's key `user:{U}:sale:{S}:checkout`,
the key `checkout:{code}`, and the rows of `checkout_attempts` and `checkout_items`.
The checkout handler reads the user's key and writes it when it finds no code; the
purchase engine reads the rows, logs every item again in each attempt
(`LogCheckoutAttempt`), and deletes all three in `cleanupCheckout`, which runs only
after an attempt that returned success.

A committed purchase that marked nothing returns `ErrAllItemsSold` to the retry loop,
which is not one of the errors that stop it; the next attempt finds the result row
and returns `ErrCheckoutAlreadyProcessed`. So the code of a purchase whose items had
all been sold is never cleaned up (`empty_commit_not_cleaned`).

## Key results

- `cleanup_only_after_sale`: in every reachable world a purchase in `cleanupCheckout`
  has committed a purchase of its code that sold at least one item; `soldRun` reaches
  such a point.
- `empty_commit_not_cleaned`: no purchase of a code whose committed purchase sold
  nothing is ever in `cleanupCheckout`.
- `processed_code_kept`, `checkout_items_duplicated`, `two_checkout_codes`,
  `checkout_limit_exceeded`: histories showing what the checkout keys and rows can hold.
-/

namespace FlashSale

/-- The point of `cleanupCheckout` a purchase is at, with the result it will return. -/
def PurchasePc.cleaning : PurchasePc → Option PurchaseResult
  | .removeUserCode _ r | .removeCode _ r | .deleteCheckout _ r => some r
  | _ => none

/-- The response of a checkout that returned successfully. -/
def Proc.checkoutResponse : Proc → Option CheckoutResponse
  | .checkout ⟨_, _, .done (.ok r)⟩ => some r
  | _ => none

/-- The result a request in `cleanupCheckout` will return. -/
def Proc.cleaning : Proc → Option PurchaseResult
  | .purchase p => p.pc.cleaning
  | _ => none

/-! ### Cleanup follows a sale -/

/-- A purchase in `cleanupCheckout` has committed a purchase of its code whose saved
    result is the one it will return, and that purchase sold at least one item. -/
theorem Inv.cleanup_committed {w : World} (hi : Inv w) {pid : Nat} {p : PurchaseProc}
    {r : PurchaseResult} (hp : w.procs[pid]? = some (.purchase p)) (hc : p.pc.cleaning = some r) :
    ∃ cm ∈ w.shared.commits, cm.pid = pid ∧ cm.code = p.code ∧ cm.result = r ∧
      cm.successful ≠ [] := by
  -- At a cleanup point the invariant holds the commit and a successful result.
  have hinv := hi.procs pid _ hp
  obtain ⟨code, pc⟩ := p
  obtain ⟨⟨cm, hcm, hpid, hcode, hres⟩, hsucc⟩ :
      Committed w.shared pid code r ∧ r.success = true := by
    cases pc <;> simp only [PurchasePc.cleaning, reduceCtorEq] at hc <;> cases hc <;> exact hinv
  -- A result is a success only when its purchase marked an item.
  refine ⟨cm, hcm, hpid, hcode, hres, fun he => ?_⟩
  rw [← hres, (hi.store.commitOk cm hcm).result, he] at hsucc
  simp [calculatePurchaseResult] at hsucc

/-- In every reachable world a purchase in `cleanupCheckout` has committed a purchase of
    its code whose saved result is the one it will return, and that purchase sold at
    least one item. -/
theorem cleanup_only_after_sale {bf : RedisBloomFilter ItemId} {w : World} (hw : Reachable bf w)
    {pid : Nat} {p : PurchaseProc} {r : PurchaseResult}
    (hp : w.procs[pid]? = some (.purchase p)) (hc : p.pc.cleaning = some r) :
    ∃ cm ∈ w.shared.commits, cm.pid = pid ∧ cm.code = p.code ∧ cm.result = r ∧
      cm.successful ≠ [] :=
  (reachable_inv hw).cleanup_committed hp hc

set_option maxRecDepth 100000 in
/-- `cleanup_only_after_sale` for the purchase of code 500 after `soldRun`. -/
theorem cleanup_only_after_sale_sold : ∃ w p r, Reachable sampleFilter w ∧
    w.procs[2]? = some (.purchase p) ∧ p.pc.cleaning = some r ∧
    ∃ cm ∈ w.shared.commits, cm.pid = 2 ∧ cm.code = p.code ∧ cm.result = r ∧
      cm.successful ≠ [] := by
  obtain ⟨w, hw, h⟩ : ∃ w, Reachable sampleFilter w ∧ (w.procs[2]?.bind Proc.cleaning).isSome :=
    exists_reachable_of_run soldRun (by decide)
  -- Read process 2 and its cleanup point back from the evaluated projection.
  obtain ⟨r, hr⟩ := Option.isSome_iff_exists.1 h
  obtain ⟨q, hq, hc⟩ := Option.bind_eq_some.1 hr
  cases q with
  | purchase p => exact ⟨w, p, r, hw, hq, hc, cleanup_only_after_sale hw hq hc⟩
  | checkout _ | create _ => cases hc

/-- Users 7 and 8 both check out item 100, with codes 500 and 501. User 8 buys it. The
    purchase of code 500 then finds item 100 in the filter, commits a purchase that
    marked nothing, retries on `ErrAllItemsSold`, and returns
    `ErrCheckoutAlreadyProcessed`. Every call succeeds. -/
def allSoldRun : List Event :=
  openSale ++ Event.firstCheckout 1 7 100 500 900 true ++ Event.firstCheckout 2 8 100 501 910 true ++
    [.request (.purchase 501)] ++ Event.steps 3 4 ++ [.step 3 true 1000] ++ Event.steps 3 20 ++
    [.request (.purchase 500)] ++ Event.steps 4 4 ++ [.step 4 true 1002] ++ Event.steps 4 12 ++
    [.step 4 true 1004] ++ Event.steps 4 6

/-- A code whose committed purchase sold nothing is never cleaned up: no purchase of
    that code is, in any reachable world, in `cleanupCheckout`. -/
theorem empty_commit_not_cleaned {bf : RedisBloomFilter ItemId} {w : World} (hw : Reachable bf w)
    {cm : Commit} (hcm : cm ∈ w.shared.commits) (he : cm.successful = []) {pid : Nat}
    {p : PurchaseProc} (hp : w.procs[pid]? = some (.purchase p)) (hcode : p.code = cm.code) :
    p.pc.cleaning = none := by
  have hi := reachable_inv hw
  cases hc : p.pc.cleaning with
  | none => rfl
  -- A cleanup would rest on a commit of the code that sold something, which is `cm`,
  -- the only commit of its code.
  | some r =>
    obtain ⟨cm', hcm', -, hcode', -, hne⟩ := hi.cleanup_committed hp hc
    have : cm' = cm := List.inj_on_of_nodup_map hi.store.codes_nodup hcm' hcm (hcode'.trans hcode)
    exact absurd (this ▸ he) hne

set_option maxRecDepth 100000 in
/-- `empty_commit_not_cleaned` for code 500 after `allSoldRun`. -/
theorem empty_commit_not_cleaned_allSold : ∃ w cm p, Reachable sampleFilter w ∧
    cm ∈ w.shared.commits ∧ cm.successful = [] ∧ w.procs[4]? = some (.purchase p) ∧
    p.code = cm.code ∧ p.pc.cleaning = none := by
  obtain ⟨w, hw, ⟨cm, hcm, hc, he⟩, hp⟩ : ∃ w, Reachable sampleFilter w ∧
      (∃ cm ∈ w.shared.commits, cm.code = 500 ∧ cm.successful = []) ∧
      w.procs[4]?.bind Proc.purchaseError = some (500, .checkoutAlreadyProcessed) :=
    exists_reachable_of_run allSoldRun (by decide)
  -- Read process 4 back from the evaluated projection.
  obtain ⟨q, hq, hq'⟩ := Option.bind_eq_some.1 hp
  obtain rfl := Proc.eq_of_purchaseError hq'
  exact ⟨w, cm, _, hw, hcm, he, hq, hc.symm, empty_commit_not_cleaned hw hcm he hq hc.symm⟩

set_option maxRecDepth 100000 in
/-- A processed code is not retired: after `allSoldRun` code 500 has its result row,
    is still user 7's code in sale 1, and still has its checkout rows, and its purchase
    returned `ErrCheckoutAlreadyProcessed`. -/
theorem processed_code_kept : ∃ w, Reachable sampleFilter w ∧
    (w.shared.db.store.getPurchaseResult 500).isSome ∧
    w.shared.cache.getUserCheckoutCode 1 7 = some 500 ∧
    (w.shared.db.getCheckoutByCode 500).isSome ∧
    w.procs[4]?.bind Proc.purchaseError = some (500, .checkoutAlreadyProcessed) :=
  exists_reachable_of_run allSoldRun (by decide)

/-! ### Checkout rows and codes -/

set_option maxRecDepth 100000 in
/-- A checkout lists an item three times: after `retriedPurchase` the two attempts have
    logged item 100 under code 500 again, and a later checkout of item 101 by user 7,
    whose filter read fails, reports four items for two distinct ones. -/
theorem checkout_items_duplicated : ∃ w, Reachable sampleFilter w ∧
    (w.shared.db.getCheckoutByCode 500).map Checkout.itemIds = some [100, 100, 100, 101] ∧
    w.procs[3]?.bind Proc.checkoutResponse = some ⟨500, 4, 7200⟩ :=
  exists_reachable_of_run (retriedPurchase ++ Event.nextCheckout 3 7 101 950 false) (by decide)

/-- Two checkouts of user 7, of items 100 and 101, both read the user's code before
    either writes it; each draws its own code, 500 and 501, and writes its rows. -/
def twoCodesRun : List Event :=
  openSale ++ [.request (.checkout 7 100), .request (.checkout 7 101)] ++
    Event.steps 1 8 ++ Event.steps 2 8 ++
    [.step 1 true 500] ++ Event.steps 1 3 ++ [.step 1 true 900] ++ Event.steps 1 2 ++
    [.step 2 true 501] ++ Event.steps 2 3 ++ [.step 2 true 910] ++ Event.steps 2 2

set_option maxRecDepth 100000 in
/-- One user holds two codes in one sale: after `twoCodesRun` both checkouts returned
    success, with codes 500 and 501, and both codes have checkout rows of user 7 in
    sale 1. -/
theorem two_checkout_codes : ∃ w, Reachable sampleFilter w ∧
    w.procs[1]?.bind Proc.checkoutResponse = some ⟨500, 1, 7200⟩ ∧
    w.procs[2]?.bind Proc.checkoutResponse = some ⟨501, 1, 7200⟩ ∧
    (w.shared.db.getCheckoutByCode 500).map (fun c => (c.userId, c.saleId)) = some (7, 1) ∧
    (w.shared.db.getCheckoutByCode 501).map (fun c => (c.userId, c.saleId)) = some (7, 1) :=
  exists_reachable_of_run twoCodesRun (by decide)

/-- Eleven checkouts of user 7, of items 100 to 110, all pass the slot check before any
    of them raises the checkout count; then they finish one after the other, the first
    drawing code 500 and the others adding their item to it. -/
def elevenRun : List Event :=
  openSale ++ (List.range 11).map (fun k => .request (.checkout 7 (100 + k))) ++
    (List.range 11).flatMap (fun k => Event.steps (k + 1) 5) ++
    Event.steps 1 3 ++ [.step 1 true 500] ++ Event.steps 1 3 ++ [.step 1 true 900] ++
    Event.steps 1 2 ++
    (List.range 10).flatMap (fun k =>
      Event.steps (k + 2) 7 ++ [.step (k + 2) true (910 + k)] ++ Event.steps (k + 2) 2)

set_option maxRecDepth 100000 in
/-- The admission bound does not hold: after `elevenRun` the checkout that added the
    eleventh item returned success with eleven items, and code 500 holds eleven distinct
    items. -/
theorem checkout_limit_exceeded : ∃ w, Reachable sampleFilter w ∧
    w.procs[11]?.bind Proc.checkoutResponse = some ⟨500, 11, 7200⟩ ∧
    (w.shared.db.getCheckoutByCode 500).map Checkout.itemIds = some (List.range' 100 11) :=
  exists_reachable_of_run elevenRun (by decide)

end FlashSale
