import FlashSale.System

/-!
# Every request returns

No request runs forever, whatever the other requests do between its steps and whatever
its calls to C1 and C2 answer. `CheckoutHandler.Handle`, `AdminHandler.HandleCreateSale`
and `SaleScheduler.createSaleIfNeeded` are straight-line code. `ExecutePurchase` has the
retry loop, which starts at most `retryAttempts` attempts, and inside an attempt three
loops over lists that only shrink: `LogCheckoutAttempt` and `GetItemByID` over the
checkout's ids, and the marking loop over the items read.

Each program point gets a rank in the lexicographic order of `Nat × Nat × Nat`: the
phase of `ExecutePurchase` (before its lock, in the retry loop, in the cleanup), the
attempts left, and a bound on the steps left in the attempt or the phase. Every step
lowers the rank. The checkout items are read from C1 before the lock, so the phase
comes first: no bound on the number of steps of a purchase holds before it has read
its checkout.

## Key results

- `attemptStep_rank`: a step of `attemptPurchase` that does not return lowers the
  bound on its steps left, `12 + 5 * L` at its start for a checkout of `L` ids.
- `PurchaseProc.step_rank`, `CheckoutProc.step_rank`, `CreateProc.step_rank`: every
  step of a request lowers its rank.
- `requests_return`: a process that has not returned can always step, and no process
  takes infinitely many steps.
-/

namespace FlashSale

/-! ### Ranks -/

/-- The lexicographic order the ranks decrease in. -/
def RankLt : Nat × Nat × Nat → Nat × Nat × Nat → Prop :=
  Prod.Lex (· < ·) (Prod.Lex (· < ·) (· < ·))

theorem rankLt_wf : WellFounded RankLt :=
  (Prod.lex Nat.lt_wfRel (Prod.lex Nat.lt_wfRel Nat.lt_wfRel)).wf

theorem RankLt.phase {a b : Nat} {x y : Nat × Nat} (h : a < b) : RankLt (a, x) (b, y) :=
  Prod.Lex.left _ _ h

theorem RankLt.round {a b c x y : Nat} (h : b < c) : RankLt (a, b, x) (a, c, y) :=
  Prod.Lex.right _ (Prod.Lex.left _ _ h)

theorem RankLt.steps {a b x y : Nat} (h : x < y) : RankLt (a, b, x) (a, b, y) :=
  Prod.Lex.right _ (Prod.Lex.right _ h)

/-- A bound on the steps left in an attempt on checkout `ch`: one per id still to log or
    read, three per item still to mark (the filter check, the mark, the filter add). -/
def AttemptPc.rank (ch : Checkout) : AttemptPc → Nat
  | .log rest => 12 + 4 * ch.itemIds.length + rest.length
  | .userCount => 11 + 4 * ch.itemIds.length
  | .saleCount _ => 10 + 4 * ch.itemIds.length
  | .begin => 9 + 4 * ch.itemIds.length
  | .probe _ => 8 + 4 * ch.itemIds.length
  | .getSale _ => 7 + 4 * ch.itemIds.length
  | .getItems _ _ rest items => 6 + 3 * items.length + 4 * rest.length
  | .mark _ _ _ _ rest _ => 7 + 3 * rest.length
  | .bloomAdd _ _ _ _ rest _ => 6 + 3 * rest.length
  | .bloomCheck _ _ _ rest _ => 5 + 3 * rest.length
  | .increment .. => 4
  | .updateSale .. => 3
  | .save .. => 2
  | .commit .. => 1

/-- The rank of a point of `ExecutePurchase`: its phase, the attempts left, and the
    steps left in the attempt or the cleanup. -/
def PurchasePc.rank : PurchasePc → Nat × Nat × Nat
  | .codeExists => (6, 0, 0)
  | .getCheckout _ => (5, 0, 0)
  | .getCheckoutItems .. => (4, 0, 0)
  | .restoreCode _ => (3, 0, 0)
  | .lock _ => (2, 0, 0)
  | .attempt ch n a => (1, retryAttempts - n, a.rank ch)
  | .removeUserCode .. => (0, 0, 4)
  | .removeCode .. => (0, 0, 3)
  | .deleteCheckout .. => (0, 0, 2)
  | .release _ => (0, 0, 1)
  | .done _ => (0, 0, 0)

/-- The longest path from a point of `Handle` to its return. -/
def CheckoutPc.rank : CheckoutPc → Nat
  | .getActiveSale => 18
  | .isActive _ => 17
  | .bloom _ => 16
  | .purchasedCount _ => 15
  | .checkoutCount .. => 14
  | .hasCheckedOut _ => 13
  | .getItem _ => 12
  | .getCode _ => 11
  | .generate _ => 10
  | .setUserCode .. => 9
  | .setCode .. => 8
  | .getCheckout .. => 7
  | .getCheckoutItems .. => 6
  | .addItemFind .. => 5
  | .addItemCount .. => 4
  | .addItemInsert .. => 3
  | .create .. => 3
  | .incrementCount .. => 2
  | .addChecked .. => 1
  | .addSoldToBloom => 1
  | .done _ => 0

/-- The longest path from a point of a sale creator to its return. -/
def CreatePc.rank : CreatePc → Nat
  | .getActiveSale => 3
  | .createSale _ => 2
  | .createItems _ => 1
  | .done _ => 0

/-- The rank of a running request. -/
def Proc.rank : Proc → Nat × Nat × Nat
  | .checkout p => (0, 0, p.pc.rank)
  | .purchase p => p.pc.rank
  | .create p => (0, 0, p.pc.rank)

/-- The request has returned. -/
def Proc.returned : Proc → Bool
  | .checkout ⟨_, _, .done _⟩ | .purchase ⟨_, .done _⟩ | .create ⟨_, .done _⟩ => true
  | _ => false

/-! ### Every step lowers the rank -/

section Steps

variable {s s' : Shared} {pid : Nat} {ok : Bool} {fresh : Nat}

/-- A step of `attemptPurchase` that does not return lowers the bound on its steps left. -/
theorem attemptStep_rank {ch : Checkout} {a a' : AttemptPc}
    (h : attemptStep s pid ch ok fresh a = (s', .inl a')) : a'.rank ch < a.rank ch := by
  unfold attemptStep at h
  dsimp only at h
  repeat' split at h
  all_goals obtain ⟨-, h⟩ := Prod.mk.inj h
  -- Each loop step shortens the list it walks; a step out of a loop trades the whole
  -- list's bound for a smaller constant.
  all_goals (cases h <;> simp only [AttemptPc.rank, List.length_nil, List.length_cons,
    List.length_append, List.length_singleton] <;> omega)

/-- The retry loop leaves the attempts: to the cleanup, to the return, or to an attempt
    with fewer left. -/
theorem afterAttempt_rank (ch : Checkout) (n k : Nat) (out : Except Error PurchaseResult) :
    RankLt (afterAttempt ch n out).rank (1, retryAttempts - n, k) := by
  unfold afterAttempt
  split
  -- A result goes on to the cleanup.
  · exact RankLt.phase Nat.zero_lt_one
  -- An error returns, or starts the next attempt while attempts are left.
  · split_ifs with _ hn
    · exact RankLt.phase Nat.zero_lt_one
    · exact RankLt.round (by omega)
    · exact RankLt.phase Nat.zero_lt_one

/-- Every step of `ExecutePurchase` lowers its rank. -/
theorem PurchaseProc.step_rank {p q : PurchaseProc} (h : p.step s pid ok fresh = some (s', q)) :
    RankLt q.pc.rank p.pc.rank := by
  obtain ⟨code, pc⟩ := p
  cases pc with
  -- Within an attempt the steps left fall; when it returns, the retry loop moves on.
  | attempt ch n a =>
    simp only [step] at h
    rcases hst : attemptStep s pid ch ok fresh a with ⟨s₁, a' | out⟩ <;> rw [hst] at h <;>
      obtain ⟨-, rfl⟩ := Prod.mk.inj (Option.some.inj h)
    · exact RankLt.steps (attemptStep_rank hst)
    · exact afterAttempt_rank ch n _ out
  | done _ => cases h
  -- Before the lock and in the cleanup, each step lowers the phase or the steps left.
  | _ =>
    simp only [step] at h
    repeat' split at h
    all_goals obtain ⟨-, rfl⟩ := Prod.mk.inj (Option.some.inj h)
    all_goals first
      | exact RankLt.phase (by decide)
      | exact RankLt.steps (by decide)

/-- Every step of `Handle` lowers its rank. -/
theorem CheckoutProc.step_rank {p q : CheckoutProc} (h : p.step s ok fresh = some (s', q)) :
    q.pc.rank < p.pc.rank := by
  unfold CheckoutProc.step at h
  dsimp only at h
  repeat' split at h
  all_goals (cases h <;> simp only [*, CheckoutPc.rank] <;> decide)

/-- Every step of a sale creator lowers its rank. -/
theorem CreateProc.step_rank {p q : CreateProc} (h : p.step s ok fresh = some (s', q)) :
    q.pc.rank < p.pc.rank := by
  unfold CreateProc.step at h
  dsimp only at h
  repeat' split at h
  all_goals (cases h <;> simp only [*, CreatePc.rank] <;> decide)

/-- Every step of a request lowers its rank. -/
theorem Proc.step_rank {p q : Proc} (h : p.step s pid ok fresh = some (s', q)) :
    RankLt q.rank p.rank := by
  cases p with
  | checkout c =>
    obtain ⟨⟨s₁, c'⟩, hc, ⟨⟩⟩ := Option.map_eq_some'.1 h
    exact RankLt.steps (CheckoutProc.step_rank hc)
  | purchase c =>
    obtain ⟨⟨s₁, c'⟩, hc, ⟨⟩⟩ := Option.map_eq_some'.1 h
    exact PurchaseProc.step_rank hc
  | create c =>
    obtain ⟨⟨s₁, c'⟩, hc, ⟨⟩⟩ := Option.map_eq_some'.1 h
    exact RankLt.steps (CreateProc.step_rank hc)

/-- A request that has not returned can always make its next call. -/
theorem Proc.step_eq_none {p : Proc} : p.step s pid ok fresh = none ↔ p.returned = true := by
  -- Every point but `done` has a step on every outcome of its call.
  rcases p with ⟨u, i, pc⟩ | ⟨code, pc⟩ | ⟨cr, pc⟩ <;> cases pc <;>
    simp only [Proc.step, Proc.returned, Option.map_eq_none', CheckoutProc.step,
      PurchaseProc.step, CreateProc.step] <;> (repeat' split) <;> simp

end Steps

/-- Every request returns. Whatever the other requests do between its steps and whatever
    its calls answer, a process that has not returned can make its next call, and
    process `pid` takes finitely many steps: its steps form no infinite chain. -/
theorem requests_return (pid : Nat) :
    (∀ (p : Proc) (s : Shared) (ok : Bool) (fresh : Nat),
      p.step s pid ok fresh = none ↔ p.returned = true) ∧
    WellFounded fun q p : Proc => ∃ s ok fresh s', p.step s pid ok fresh = some (s', q) :=
  ⟨fun _ _ _ _ => Proc.step_eq_none,
    -- The step relation lies inside the rank order, which is well founded.
    Subrelation.wf (fun ⟨_, _, _, _, h⟩ => Proc.step_rank h) (InvImage.wf Proc.rank rankLt_wf)⟩

end FlashSale
