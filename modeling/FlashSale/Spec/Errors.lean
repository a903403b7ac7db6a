import FlashSale.Spec.Outcomes
import FlashSale.Http.Response

/-!
# The errors each endpoint answers with

`errorMappings` gives a status to each of the sixteen errors of `domain/errors`. The two
command endpoints return only some of them. Every error
`CheckoutHandler.Handle` returns is one of `checkoutErrors`, and every error
`ExecutePurchase` returns ends its `%w` chain in one of `purchaseErrors`
(`request_error_roots`), in every reachable world.

Neither list holds `ErrCheckoutExpired` or `ErrSaleOutOfStock`, which no function of the
service returns: the TTL of `checkout:{code}` only decides whether `ExecutePurchase`
restores the key. Nor does either hold `ErrNoItemsToPurchase`: `ValidatePurchase` returns
it only for an empty item list, and `attemptPurchase` returns "no valid items found"
before it validates one. So three rows of `errorMappings` are never used.

Both lists also hold errors that `errorMappings` does not know and that `MapDomainError`
answers with 500: the failures of C1 and C2 calls, the lock contention of a purchase
("another purchase is in progress for this user") and "no valid items found".

## Key results

- `attemptStep_error`: the errors an attempt of `attemptPurchase` returns.
- `CheckoutProc.step_error`, `PurchaseProc.step_error`: a step of a request answers only
  with an error of its endpoint's list.
- `request_error_roots`: in every reachable world, a request that returned an error
  returned one of its endpoint's list, and none of `unusedErrors`.
-/

namespace FlashSale

/-- The errors `CheckoutHandler.Handle` returns, none of which wraps another. -/
def checkoutErrors : List Error :=
  [.saleNotFound, .saleNotActive, .itemAlreadySold, .userLimitExceeded,
    .userAlreadyCheckedOutItem, .backend, .itemNotFound, .itemNotInSale, .transactionFailed,
    .checkoutNotFound, .itemAlreadyInCheckout]

/-- The ends of the `%w` chains of the errors `ExecutePurchase` returns. -/
def purchaseErrors : List Error :=
  [.backend, .checkoutNotFound, .lockFailed, .lockHeld, .saleLimitExceeded,
    .userLimitExceeded, .beginFailed, .checkoutAlreadyProcessed, .saleNotFound, .noValidItems,
    .saleNotActive, .itemNotInSale, .updateSaleFailed, .saveResultFailed, .allItemsSold,
    .commitFailed]

/-- The errors of `domain/errors` that no function of the service returns, whose rows of
    `errorMappings` are never used. -/
def unusedErrors : List Error := [.checkoutExpired, .saleOutOfStock, .noItemsToPurchase]

theorem not_mem_unusedErrors_of_mem {e : Error} (h : e ∈ checkoutErrors ∨ e ∈ purchaseErrors) :
    e ∉ unusedErrors := by
  have : ∀ e ∈ unusedErrors, e ∉ checkoutErrors ∧ e ∉ purchaseErrors := by decide
  exact fun hu => h.elim (this e hu).1 (this e hu).2

/-! ### One step -/

variable {s s' : Shared} {pid : Nat} {ok : Bool} {fresh : Nat}

/-- `ValidatePurchase` of a non-empty item list fails only on the sale's window, the sale
    limit, the user limit or an item of another sale. -/
theorem validatePurchase_error {svc : PurchaseService} {sale : Sale} {count : Int}
    {items : List Item} {now : Time} {e : Error} (hne : items ≠ [])
    (h : svc.validatePurchase sale count items now = .error e) :
    e ∈ [.saleNotActive, .saleLimitExceeded, .userLimitExceeded, .itemNotInSale] := by
  unfold PurchaseService.validatePurchase at h
  -- one goal per check of ValidatePurchase, the first one that fails
  split_ifs at h with h₁ h₂
  all_goals cases h
  all_goals simp_all

/-- An attempt returns only errors whose chains end in `purchaseErrors`. -/
theorem attemptStep_error {ch : Checkout} {a : AttemptPc} {e : Error}
    (h : attemptStep s pid ch ok fresh a = (s', .inr (.error e))) : e.root ∈ purchaseErrors := by
  unfold attemptStep at h
  dsimp only at h
  -- one goal per branch of the attempt that returns an error
  repeat' split at h
  all_goals obtain ⟨-, h⟩ := Prod.mk.inj h
  all_goals cases h
  -- each error the attempt names itself is listed
  all_goals first | decide | skip
  -- what is left wraps the error of ValidatePurchase, on the non-empty list of valid items
  rename_i hne _ e hv
  have hroots : ∀ x ∈ [Error.saleNotActive, .saleLimitExceeded, .userLimitExceeded, .itemNotInSale],
      (Error.validationFailed x).root ∈ purchaseErrors := by decide
  exact hroots e (validatePurchase_error (by simpa using hne) hv)

/-- The error a checkout has returned. -/
def CheckoutPc.error? : CheckoutPc → Option Error
  | .done (.error e) => some e
  | _ => none

/-- The error a purchase has returned, or returns after the deferred `ReleaseLock`. -/
def PurchasePc.error? : PurchasePc → Option Error
  | .release (.error e) | .done (.error e) => some e
  | _ => none

/-- A step of a checkout returns only errors of `checkoutErrors`. -/
theorem CheckoutProc.step_error {p q : CheckoutProc}
    (h : p.step s ok fresh = some (s', q)) {e : Error} (he : q.pc.error? = some e) :
    e ∈ checkoutErrors := by
  obtain ⟨u, i, pc⟩ := p
  -- one goal per branch of Handle's step; only those that return an error remain after he
  cases pc <;> dsimp only [step] at h <;> repeat' split at h
  all_goals cases h
  all_goals simp only [CheckoutPc.error?, reduceCtorEq, Option.some.injEq] at he
  all_goals subst he; decide

/-- The retry loop holds an error only when the attempt returned it. -/
theorem afterAttempt_error? {ch : Checkout} {n : Nat} {r : Except Error PurchaseResult} {e : Error}
    (h : (afterAttempt ch n r).error? = some e) : r = .error e := by
  unfold afterAttempt at h
  split at h
  -- a successful attempt goes on to RemoveUserCheckoutCode and holds no error
  · cases h
  -- a failed one holds its own error, or none while it retries
  · split_ifs at h <;> simp_all [PurchasePc.error?]

/-- A step of a purchase holds only errors whose chains end in `purchaseErrors`, if the
    purchase held only such errors before it. -/
theorem PurchaseProc.step_error {p q : PurchaseProc} (h : p.step s pid ok fresh = some (s', q))
    (hp : ∀ e, p.pc.error? = some e → e.root ∈ purchaseErrors) {e : Error}
    (he : q.pc.error? = some e) : e.root ∈ purchaseErrors := by
  obtain ⟨code, pc⟩ := p
  cases pc with
  | attempt ch n a =>
    dsimp only [step] at h
    split at h
    -- the attempt goes on and holds no error
    · cases h; cases he
    -- the attempt returned, and the loop holds its error if any
    · next r hr =>
      cases h
      obtain rfl := afterAttempt_error? he
      exact attemptStep_error hr
  -- ReleaseLock returns the error the purchase held
  | release out => cases h; cases out <;> exact hp e he
  | done out => cases h
  -- the steps before the loop and after it, each returning a listed error if any
  | _ =>
    dsimp only [step] at h
    repeat' split at h
    all_goals cases h
    all_goals simp only [PurchasePc.error?, reduceCtorEq, Option.some.injEq] at he
    all_goals subst he; decide

/-! ### Every reachable world -/

/-- The errors a request holds are of its endpoint's list. -/
def Proc.ErrorsListed : Proc → Prop
  | .checkout p => ∀ e, p.pc.error? = some e → e ∈ checkoutErrors
  | .purchase p => ∀ e, p.pc.error? = some e → e.root ∈ purchaseErrors
  | .create _ => True

theorem Request.errorsListed_start (r : Request) : r.start.ErrorsListed := by
  cases r <;> simp [Request.start, Proc.ErrorsListed, CheckoutPc.error?, PurchasePc.error?]

/-- A step of a request keeps its errors in its endpoint's list. -/
theorem Proc.ErrorsListed.step {p q : Proc} (hp : p.ErrorsListed)
    (h : p.step s pid ok fresh = some (s', q)) : q.ErrorsListed := by
  cases p with
  | checkout c =>
    obtain ⟨⟨s₁, c'⟩, hc, ⟨⟩⟩ := Option.map_eq_some'.1 h
    exact fun e he => CheckoutProc.step_error hc he
  | purchase c =>
    obtain ⟨⟨s₁, c'⟩, hc, ⟨⟩⟩ := Option.map_eq_some'.1 h
    exact fun e he => PurchaseProc.step_error hc hp he
  | create c =>
    obtain ⟨⟨s₁, c'⟩, -, ⟨⟩⟩ := Option.map_eq_some'.1 h
    trivial

/-- The errors of the command endpoints. In every reachable world, a checkout that
    returned an error returned one of `checkoutErrors`, and a purchase that returned an
    error returned one whose `%w` chain ends in `purchaseErrors`. Neither is, or ends in,
    `ErrCheckoutExpired`, `ErrSaleOutOfStock` or `ErrNoItemsToPurchase`. -/
theorem request_error_roots {bf : RedisBloomFilter ItemId} {w : World} (hw : Reachable bf w) :
    (∀ (pid : Nat) (u : UserId) (i : ItemId) (e : Error),
      w.procs[pid]? = some (.checkout ⟨u, i, .done (.error e)⟩) →
        e ∈ checkoutErrors ∧ e ∉ unusedErrors) ∧
    ∀ (pid : Nat) (code : Code) (e : Error),
      w.procs[pid]? = some (.purchase ⟨code, .done (.error e)⟩) →
        e.root ∈ purchaseErrors ∧ e.root ∉ unusedErrors :=
  -- every process of a reachable world holds only the errors of its endpoint's list
  have h := Reachable.procs Request.errorsListed_start (fun hp h => hp.step h) hw
  have hc := fun pid u i e hp => h pid (.checkout ⟨u, i, .done (.error e)⟩) hp e rfl
  have hp := fun pid code e hp => h pid (.purchase ⟨code, .done (.error e)⟩) hp e rfl
  ⟨fun pid u i e he => ⟨hc pid u i e he, not_mem_unusedErrors_of_mem (.inl (hc pid u i e he))⟩,
    fun pid code e he => ⟨hp pid code e he, not_mem_unusedErrors_of_mem (.inr (hp pid code e he))⟩⟩

set_option maxRecDepth 100000 in
/-- `request_error_roots` after `allSoldRun` and a checkout of item 100 by user 7: the
    purchase of code 500 returned `ErrCheckoutAlreadyProcessed`, and the checkout, whose
    filter read finds item 100, returned `ErrItemAlreadySold`. -/
theorem request_error_roots_allSold : ∃ w, Reachable sampleFilter w ∧
    w.procs[4]? = some (.purchase ⟨500, .done (.error .checkoutAlreadyProcessed)⟩) ∧
    w.procs[5]? = some (.checkout ⟨7, 100, .done (.error .itemAlreadySold)⟩) ∧
    (Error.checkoutAlreadyProcessed.root ∈ purchaseErrors ∧
      Error.checkoutAlreadyProcessed.root ∉ unusedErrors) ∧
    (Error.itemAlreadySold ∈ checkoutErrors ∧ Error.itemAlreadySold ∉ unusedErrors) := by
  obtain ⟨w, hw, h₄, h₅⟩ : ∃ w, Reachable sampleFilter w ∧
      w.procs[4]?.bind Proc.purchaseError = some (500, .checkoutAlreadyProcessed) ∧
      w.procs[5]?.bind Proc.checkoutError = some (7, 100, .itemAlreadySold) :=
    exists_reachable_of_run (allSoldRun ++ [.request (.checkout 7 100)] ++ Event.steps 5 3)
      (by decide)
  -- read the two processes back from their projections
  obtain ⟨q₄, hq₄, hr₄⟩ := Option.bind_eq_some.1 h₄
  obtain ⟨q₅, hq₅, hr₅⟩ := Option.bind_eq_some.1 h₅
  obtain rfl := Proc.eq_of_purchaseError hr₄
  obtain rfl := Proc.eq_of_checkoutError hr₅
  exact ⟨w, hw, hq₄, hq₅, (request_error_roots hw).2 4 500 _ hq₄,
    (request_error_roots hw).1 5 7 100 _ hq₅⟩

end FlashSale
