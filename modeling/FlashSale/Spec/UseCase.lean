import FlashSale.Spec.Completion
import FlashSale.Spec.Sales

/-!
# Checking out an item and buying it

The service exists for one use case: during an active sale a user checks out items,
gets a checkout code, and buys the items with that code. This module follows a user
through it when the requests run one after the other and every call succeeds.

`CheckoutHandler.Handle` first runs its checks: the active sale, the sold-items filter,
the user's room, the user's checked-out set, and the item (`CheckoutChecks`). For a
user with no code in the sale it then takes the new-code path: it draws a code, files
it in C2 under the user and as a checkout key, creates the checkout with one item in
C1, and counts the checkout (`checkout_alone_succeeds`). For a user whose code has a
checkout it takes the existing-code path and adds the item to that checkout
(`checkout_adds_item`). `ExecutePurchase` of a new checkout's code then meets every
precondition of `runs_purchase`, so it sells the item to the user
(`checkout_then_purchase_sells`).

Each path is proved once for its process (`runCalls_firstCheckout`,
`runCalls_addCheckout`, `runs_checkout_purchase`) and lifted to the world by
`World.run_request_stepsOf` and `PurchaseProc.RunsAlone.world`.

## Key results

- `World.run_stepsOf`: a run of one process through given call outcomes is a run of the
  world.
- `checkout_alone_succeeds`: the new-code path of `Handle`.
- `checkout_adds_item`: the existing-code path of `Handle`.
- `checkout_then_purchase_sells`: a checkout followed by the purchase of its code sells
  the item to the user.
-/

namespace FlashSale

/-! ### Running one process through given outcomes -/

/-- The step events of process `pid`, one per call outcome and drawn value. -/
def Event.stepsOf (pid : Nat) (calls : List (Bool × Nat)) : List Event :=
  calls.map fun c => .step pid c.1 c.2

/-- Process `pid` through the given call outcomes and drawn values, `none` if it returns
    before their end. -/
def Proc.runCalls (pid : Nat) : List (Bool × Nat) → Shared × Proc → Option (Shared × Proc)
  | [], x => some x
  | (ok, fresh) :: calls, (s, p) => (p.step s pid ok fresh).bind (Proc.runCalls pid calls)

/-- A run of one process through given outcomes is a run of the world: the other
    processes keep their places. -/
theorem World.run_stepsOf {pid : Nat} :
    ∀ (calls : List (Bool × Nat)) {s s' : Shared} {p q : Proc} {procs : List Proc},
      procs[pid]? = some p → Proc.runCalls pid calls (s, p) = some (s', q) →
      World.run ⟨s, procs⟩ (Event.stepsOf pid calls) = some ⟨s', procs.set pid q⟩
  | [], s, s', p, q, procs, hp, h => by
    obtain ⟨rfl, rfl⟩ := Prod.mk.inj (Option.some.inj h)
    rw [set_of_getElem?_eq hp]
    rfl
  | (ok, fresh) :: calls, s, s', p, q, procs, hp, h => by
    -- The first call is one world step; the rest runs from the process's new place.
    obtain ⟨⟨s₁, p₁⟩, h₁, h⟩ := Option.bind_eq_some.1 h
    have hl := (List.getElem?_eq_some_iff.1 hp).1
    have ih := World.run_stepsOf calls (List.getElem?_set_self hl) h
    rw [List.set_set] at ih
    simp only [Event.stepsOf, List.map_cons, World.run, World.step, hp, h₁, Option.bind_eq_bind,
      Option.some_bind]
    exact ih

/-! ### The checkout tables after a new checkout -/

namespace Db

variable {db : Db} {code : Code} {saleId : SaleId} {u : UserId} {i : ItemId} {t : Time} {row : Nat}

/-- `CreateCheckout` of a one-item checkout, with ids no row holds, in a sale and of an
    item that exist: it inserts the attempt row `row` and the item row `row + 1`. -/
theorem createCheckout_one (hsale : (db.store.sales.find saleId).isSome)
    (hitem : (db.store.items.find i).isSome) (hrow : ∀ a ∈ db.attempts.rows, a.id ≠ row)
    (hrow' : ∀ ci ∈ db.checkoutItems.rows, ci.id ≠ row + 1 ∧ ci.attemptId ≠ row) :
    ∃ db', db.createCheckout ⟨code, saleId, u, [i], t⟩ row = some db' ∧ db'.store = db.store ∧
      db'.attempts.rows = db.attempts.rows ++ [⟨row, code, saleId, u, t⟩] ∧
      db'.checkoutItems.rows = db.checkoutItems.rows ++ [⟨row + 1, row, i, t⟩] := by
  -- Both inserts succeed on fresh ids, and the item's insert finds the new attempt.
  obtain ⟨as, has⟩ : ∃ as, db.attempts.insert ⟨row, code, saleId, u, t⟩ = some as :=
    Table.insert_eq_some_of hrow
  obtain ⟨cis, hcis⟩ : ∃ cis, db.checkoutItems.insert ⟨row + 1, row, i, t⟩ = some cis :=
    Table.insert_eq_some_of fun ci hci => (hrow' ci hci).1
  have hfind : (as.find row).isSome := Option.isSome_iff_exists.2
    ⟨⟨row, code, saleId, u, t⟩, Table.find_eq_some.2 ⟨by simp [(Table.insert_eq_some has).1], rfl⟩⟩
  have hnew : ∀ x ∈ db.checkoutItems.rows, x.attemptId = row → x.itemId ≠ i :=
    fun ci hci h => absurd h (hrow' ci hci).2
  refine ⟨⟨db.store, as, cis⟩, ?_, rfl, (Table.insert_eq_some has).1, (Table.insert_eq_some hcis).1⟩
  simpa [createCheckout, insertAttempt, insertCheckoutItem, hsale, has, hfind, hitem, hcis] using hnew

/-- `GetCheckoutByCode` finds no attempt exactly when no attempt row holds the code. -/
theorem getCheckoutAttempt_eq_none :
    db.getCheckoutAttempt code = none ↔ ∀ a ∈ db.attempts.rows, a.checkoutCode ≠ code := by
  have key : ∀ (l : List CheckoutAttempt) (b : CheckoutAttempt), l.foldl (fun best x =>
      match best with
      | none => some x
      | some b => if b.createdAt ≤ x.createdAt then some x else some b) (some b) ≠ none := by
    intro l
    induction l with
    | nil => exact fun _ => Option.some_ne_none _
    | cons x l ih => intro b; simp only [List.foldl_cons]; split <;> exact ih _
  unfold getCheckoutAttempt
  -- The fold over the code's rows is `none` only on no rows.
  cases h : db.attempts.rows.filter (·.checkoutCode = code) with
  | nil => simpa [List.filter_eq_nil_iff] using h
  | cons x l =>
    have hx : x ∈ db.attempts.rows.filter (·.checkoutCode = code) := by
      rw [h]; exact List.mem_cons_self x l
    rw [List.mem_filter, decide_eq_true_eq] at hx
    exact iff_of_false (key l x) fun hall => hall x hx.1 hx.2

/-- After a new checkout of a code no attempt row held, `GetCheckoutByCode` finds the new
    attempt and its one item. -/
theorem getCheckoutByCode_new {db' : Db} (hfresh : db.getCheckoutAttempt code = none)
    (hrow' : ∀ ci ∈ db.checkoutItems.rows, ci.attemptId ≠ row)
    (ha : db'.attempts.rows = db.attempts.rows ++ [⟨row, code, saleId, u, t⟩])
    (hc : db'.checkoutItems.rows = db.checkoutItems.rows ++ [⟨row + 1, row, i, t⟩]) :
    db'.getCheckoutAttempt code = some ⟨row, code, saleId, u, t⟩ ∧
      db'.getCheckoutItemIds code = [i] := by
  have hold := getCheckoutAttempt_eq_none.1 hfresh
  -- The only attempt row of the code is the new one.
  have hof : ∀ ci : CheckoutItem, db'.itemOfCode code ci = decide (row = ci.attemptId) := by
    intro ci
    have hany : (db.attempts.rows.any fun ca => decide (ca.id = ci.attemptId) &&
        decide (ca.checkoutCode = code)) = false :=
      List.any_eq_false.2 fun a h => by simp [hold a h]
    simp [itemOfCode, ha, hany]
  constructor
  -- The new attempt is the code's only row, and the new item its only item.
  · have hnil : db.attempts.rows.filter (·.checkoutCode = code) = [] :=
      List.filter_eq_nil_iff.2 fun a h => by simpa using hold a h
    simp [getCheckoutAttempt, ha, hnil]
  · have hnil : db.checkoutItems.rows.filter (db'.itemOfCode code) = [] :=
      List.filter_eq_nil_iff.2 fun ci h => by simpa [hof, eq_comm] using hrow' ci h
    simp [getCheckoutItemIds, hc, hnil, hof]


variable {db' : Db} {a : CheckoutAttempt}

/-- `AddItemToCheckout` finds an attempt row for every code `GetCheckoutByCode` finds. -/
theorem findAttemptId_of_getCheckoutAttempt {row : CheckoutAttempt}
    (h : db.getCheckoutAttempt code = some row) :
    ∃ a ∈ db.attempts.rows, a.checkoutCode = code ∧ db.findAttemptId code = some a.id := by
  -- `GetCheckoutByCode` found a row of the code, so the lookup finds one too.
  cases hf : db.attempts.rows.find? (·.checkoutCode = code) with
  | none =>
    have hnone : db.getCheckoutAttempt code = none :=
      getCheckoutAttempt_eq_none.2 fun a ha hc => by simpa [hc] using List.find?_eq_none.1 hf a ha
    rw [hnone] at h
    cases h
  | some a =>
    exact ⟨a, List.mem_of_find?_eq_some hf, by simpa using List.find?_some hf,
      by simp [findAttemptId, hf]⟩

/-- An item the checkout of a code does not list has no row under an attempt of the
    code. -/
theorem countCheckoutItem_eq_zero (ha : a ∈ db.attempts.rows) (hc : a.checkoutCode = code)
    (hi : i ∉ db.getCheckoutItemIds code) : db.countCheckoutItem a.id i = 0 := by
  refine List.countP_eq_zero.2 fun ci hci h => hi ?_
  simp only [Bool.and_eq_true, decide_eq_true_eq] at h
  refine List.mem_map.2 ⟨ci, List.mem_filter.2 ⟨hci, List.any_eq_true.2 ⟨a, ha, ?_⟩⟩, h.2⟩
  simp [h.1, hc]

/-- The insert of `AddItemToCheckout`, of an item that exists, under an attempt row that
    does not list it yet, with a row id no row holds: it appends the row. -/
theorem insertCheckoutItem_new {row : Nat} {t : Time} (ha : a ∈ db.attempts.rows)
    (hitem : (db.store.items.find i).isSome) (hdup : db.countCheckoutItem a.id i = 0)
    (hrow : ∀ ci ∈ db.checkoutItems.rows, ci.id ≠ row) :
    ∃ db', db.insertCheckoutItem ⟨row, a.id, i, t⟩ = some db' ∧ db'.store = db.store ∧
      db'.attempts = db.attempts ∧
      db'.checkoutItems.rows = db.checkoutItems.rows ++ [⟨row, a.id, i, t⟩] := by
  -- The insert's foreign keys hold and its duplicate check finds nothing.
  obtain ⟨cis, hcis⟩ : ∃ cis, db.checkoutItems.insert ⟨row, a.id, i, t⟩ = some cis :=
    Table.insert_eq_some_of hrow
  have hfind : (db.attempts.find a.id).isSome :=
    Option.isSome_iff_exists.2 ⟨a, Table.find_eq_some.2 ⟨ha, rfl⟩⟩
  have hany : (db.checkoutItems.rows.any fun x => decide (x.attemptId = a.id) &&
      decide (x.itemId = i)) = false :=
    List.any_eq_false.2 fun ci hci h => List.countP_eq_zero.1 hdup ci hci (by simpa using h)
  refine ⟨{ db with checkoutItems := cis }, ?_, rfl, rfl, (Table.insert_eq_some hcis).1⟩
  simp [insertCheckoutItem, hfind, hitem, hany, hcis]

/-- After a row is added under an attempt of the code, `GetCheckoutByCode` finds the same
    attempt and the item after the others. -/
theorem getCheckoutByCode_added {row : Nat} {t : Time} (ha : a ∈ db.attempts.rows)
    (hc : a.checkoutCode = code) (hatt : db'.attempts = db.attempts)
    (hci : db'.checkoutItems.rows = db.checkoutItems.rows ++ [⟨row, a.id, i, t⟩]) :
    db'.getCheckoutAttempt code = db.getCheckoutAttempt code ∧
      db'.getCheckoutItemIds code = db.getCheckoutItemIds code ++ [i] := by
  -- The attempts are unchanged, and the new row is under an attempt of the code.
  have hof : db'.itemOfCode code = db.itemOfCode code := by unfold itemOfCode; rw [hatt]
  have hnew : db.itemOfCode code ⟨row, a.id, i, t⟩ = true :=
    List.any_eq_true.2 ⟨a, ha, by simp [hc]⟩
  refine ⟨by unfold getCheckoutAttempt; rw [hatt], ?_⟩
  simp [getCheckoutItemIds, hci, hof, hnew]

end Db

/-! ### Replays of one request -/

/-- A replay of two lists of events is the replay of the second from where the first
    ends. -/
theorem World.run_append (w : World) (es es' : List Event) :
    w.run (es ++ es') = (w.run es).bind fun w => w.run es' := by
  induction es generalizing w with
  | nil => rfl
  | cons e es ih =>
    rw [List.cons_append, World.run, World.run, Option.bind_assoc]
    simp only [ih]

/-- A request starts its process after the running ones. -/
theorem World.run_request (w : World) (r : Request) (es : List Event) :
    w.run (.request r :: es) = World.run ⟨w.shared, w.procs ++ [r.start]⟩ es := rfl

/-- A new request whose process then runs alone through `calls`. -/
theorem World.run_request_stepsOf {w : World} {r : Request} {calls : List (Bool × Nat)}
    {s' : Shared} {q : Proc} (h : Proc.runCalls w.procs.length calls (w.shared, r.start) = some (s', q)) :
    w.run (.request r :: Event.stepsOf w.procs.length calls) = some ⟨s', w.procs ++ [q]⟩ := by
  have hp : (w.procs ++ [r.start])[w.procs.length]? = some r.start := by simp
  rw [World.run_request, World.run_stepsOf calls hp h, List.set_append_right _ _ le_rfl]
  simp

theorem Proc.runCalls_append (pid : Nat) (c₁ c₂ : List (Bool × Nat)) (x : Shared × Proc) :
    Proc.runCalls pid (c₁ ++ c₂) x = (Proc.runCalls pid c₁ x).bind (Proc.runCalls pid c₂) := by
  induction c₁ generalizing x with
  | nil => rfl
  | cons c c₁ ih =>
    obtain ⟨ok, fresh⟩ := c
    obtain ⟨s, p⟩ := x
    rw [List.cons_append, Proc.runCalls, Proc.runCalls, Option.bind_assoc]
    simp only [ih]

/-! ### The checks at the start of `Handle` -/

/-- The checks at the start of `Handle` that let it go on for item `i` and user `u`:
    `GetActiveSale` finds a sale that `IsActive`, the filter does not hold the item, the
    user has room left and has not checked the item out, and the item is an unsold item
    of the sale. -/
structure CheckoutChecks (s : Shared) (u i : Nat) (sale : Sale) (item : Item) : Prop where
  activeSale : s.db.store.getActiveSale s.clock = some sale
  isActive : sale.isActive s.clock = true
  notInFilter : s.cache.itemExistsInBloomFilter i = false
  room : 0 < maxItemsLimit - s.cache.getUserItemCount sale.id u -
    s.cache.getUserCheckoutCount sale.id u
  notChecked : s.cache.hasUserCheckedOutItem sale.id u i = false
  getItem : s.db.store.getItemByID i = some item
  inSale : item.saleId = sale.id
  unsold : item.sold = false

/-- Seven successful steps take `Handle` through its checks to `GetUserCheckoutCode` and
    change nothing. -/
theorem runCalls_checks {s : Shared} {pid u i : Nat} {sale : Sale} {item : Item}
    (hc : CheckoutChecks s u i sale item) :
    Proc.runCalls pid (List.replicate 7 (true, 0)) (s, .checkout ⟨u, i, .getActiveSale⟩) =
      some (s, .checkout ⟨u, i, .getCode sale⟩) := by
  have hlim : decide (maxItemsLimit - s.cache.getUserItemCount sale.id u -
      s.cache.getUserCheckoutCount sale.id u ≤ 0) = false := decide_eq_false (not_le.2 hc.room)
  -- `GetActiveSale`, `IsActive`, the filter, the two counter reads, the checked-out set
  -- and `GetItemByID`, one call each.
  iterate 7
    rw [List.replicate_succ, Proc.runCalls]
    dsimp only [Proc.step, CheckoutProc.step, Option.map, Option.bind]
    try simp only [hc.activeSale, hc.isActive, hc.notInFilter, hlim, hc.notChecked, hc.getItem,
      hc.inSale, hc.unsold, ↓reduceIte, Bool.true_and, Bool.false_eq_true, Bool.not_true, ne_eq,
      not_true_eq_false]
  rfl

/-- The row of the active sale. -/
theorem CheckoutChecks.sale_mem {s : Shared} {u i : Nat} {sale : Sale} {item : Item}
    (hc : CheckoutChecks s u i sale item) : sale ∈ s.db.store.sales.rows :=
  (List.mem_filter.1 (Store.getActiveSale_mem hc.activeSale)).1

/-! ### The new-code path of `Handle` -/

/-- C2 after the new-code path of `Handle`: `SetUserCheckoutCode`, `SetCheckoutCode`,
    `IncrementUserCheckoutCount` and `AddUserCheckedOutItem`, in the handler's order. -/
def Cache.afterCheckout (c : Cache) (saleId : SaleId) (u : UserId) (i : ItemId) (code : Code) :
    Cache :=
  (((c.setUserCheckoutCode saleId u code).setCheckoutCode code).incrementUserCheckoutCount
    saleId u).addUserCheckedOutItem saleId u i

section AfterCheckout

variable (c : Cache) (saleId : SaleId) (u : UserId) (i : ItemId) (code : Code)

/-- What the new-code path files in C2: the code under the user and as a checkout key,
    one more checkout, and the item among the user's checked-out items. -/
theorem Cache.afterCheckout_spec :
    (c.afterCheckout saleId u i code).getUserCheckoutCode saleId u = some code ∧
      (c.afterCheckout saleId u i code).checkoutCodeExists code = true ∧
      (c.afterCheckout saleId u i code).getUserCheckoutCount saleId u =
        c.getUserCheckoutCount saleId u + 1 ∧
      (c.afterCheckout saleId u i code).hasUserCheckedOutItem saleId u i = true := by
  simp [Cache.afterCheckout, Cache.getUserCheckoutCode, Cache.setUserCheckoutCode,
    Cache.checkoutCodeExists, Cache.setCheckoutCode, Cache.incrementUserCheckoutCount,
    Cache.getUserCheckoutCount, Cache.hasUserCheckedOutItem, Cache.addUserCheckedOutItem]

end AfterCheckout

/-- The call outcomes of a first checkout in which every call succeeds: after the checks,
    the second call draws the code and the sixth the attempt row id. -/
def firstCheckoutCalls (code row : Nat) : List (Bool × Nat) :=
  List.replicate 7 (true, 0) ++
    [(true, 0), (true, code), (true, 0), (true, 0), (true, 0), (true, row), (true, 0), (true, 0)]

theorem Event.firstCheckout_eq (pid u i code row : Nat) :
    Event.firstCheckout pid u i code row true =
      .request (.checkout u i) :: Event.stepsOf pid (firstCheckoutCalls code row) := rfl

/-- The new-code path of `Handle`, at the level of its process: after the checks, a user
    with no code in the sale draws `code`, files it in C2, and creates the one-item
    checkout in C1 under the attempt row `row`. -/
theorem runCalls_firstCheckout {s : Shared} {pid u i code row : Nat} {sale : Sale} {item : Item}
    (hc : CheckoutChecks s u i sale item)
    (hcode : s.cache.getUserCheckoutCode sale.id u = none)
    (hfresh : s.db.getCheckoutAttempt code = none)
    (hrow : ∀ a ∈ s.db.attempts.rows, a.id ≠ row)
    (hrow' : ∀ ci ∈ s.db.checkoutItems.rows, ci.id ≠ row + 1 ∧ ci.attemptId ≠ row) :
    ∃ db' : Db, Proc.runCalls pid (firstCheckoutCalls code row)
        (s, .checkout ⟨u, i, .getActiveSale⟩) =
        some ((s.setDb db').setCache (s.cache.afterCheckout sale.id u i code),
          .checkout ⟨u, i, .done (.ok ⟨code, 1, sale.endedAt⟩)⟩) ∧
      db'.store = s.db.store ∧
      db'.attempts.rows = s.db.attempts.rows ++ [⟨row, code, sale.id, u, s.clock⟩] ∧
      db'.checkoutItems.rows = s.db.checkoutItems.rows ++ [⟨row + 1, row, i, s.clock⟩] := by
  have hsaleRow : (s.db.store.sales.find sale.id).isSome :=
    Option.isSome_iff_exists.2 ⟨sale, Table.find_eq_some.2 ⟨hc.sale_mem, rfl⟩⟩
  have hitemRow : (s.db.store.items.find i).isSome := Option.isSome_iff_exists.2 ⟨item, hc.getItem⟩
  obtain ⟨db', hdb, hstore, ha, hci⟩ :=
    @Db.createCheckout_one s.db code sale.id u i s.clock row hsaleRow hitemRow hrow hrow'
  have hnew : Checkout.new code sale.id u [i] s.clock = some ⟨code, sale.id, u, [i], s.clock⟩ :=
    rfl
  refine ⟨db', ?_, hstore, ha, hci⟩
  rw [firstCheckoutCalls, Proc.runCalls_append, runCalls_checks hc, Option.some_bind]
  -- No code: draw one, file it twice in C2, find no attempt, create the checkout, and
  -- count it.
  iterate 8
    rw [Proc.runCalls]
    dsimp only [Proc.step, CheckoutProc.step, Option.map, Option.bind]
    try simp only [hcode, hfresh, hnew, hdb, ↓reduceIte, Shared.setCache_db, Shared.setCache_clock,
      Shared.setCache_cache]
  rfl

/-- `Handle` of item `i` by user `u`, when every call succeeds, takes the new-code path in
    a state where the sale is active, the filter does not hold the item, the user has
    room left and has not checked the item out, the item is an unsold item of the sale,
    the user has no code in the sale, the drawn code has no attempt row, and the drawn
    row id is new to both checkout tables. The handler files the code in C2, creates the
    one-item checkout in C1, leaves the store of sales and items alone, and returns the
    code with one item and the sale's end. -/
theorem checkout_alone_succeeds {w : World} {u i code row : Nat} {sale : Sale} {item : Item}
    (hsale : w.shared.db.store.getActiveSale w.shared.clock = some sale)
    (hactive : sale.isActive w.shared.clock = true)
    (hbloom : w.shared.cache.itemExistsInBloomFilter i = false)
    (hlimit : 0 < maxItemsLimit - w.shared.cache.getUserItemCount sale.id u -
      w.shared.cache.getUserCheckoutCount sale.id u)
    (hchecked : w.shared.cache.hasUserCheckedOutItem sale.id u i = false)
    (hitem : w.shared.db.store.getItemByID i = some item) (hin : item.saleId = sale.id)
    (hunsold : item.sold = false)
    (hcode : w.shared.cache.getUserCheckoutCode sale.id u = none)
    (hfresh : w.shared.db.getCheckoutAttempt code = none)
    (hrow : ∀ a ∈ w.shared.db.attempts.rows, a.id ≠ row)
    (hrow' : ∀ ci ∈ w.shared.db.checkoutItems.rows, ci.id ≠ row + 1 ∧ ci.attemptId ≠ row) :
    ∃ db' : Db, w.run (Event.firstCheckout w.procs.length u i code row true) =
        some ⟨(w.shared.setDb db').setCache (w.shared.cache.afterCheckout sale.id u i code),
          w.procs ++ [.checkout ⟨u, i, .done (.ok ⟨code, 1, sale.endedAt⟩)⟩]⟩ ∧
      db'.store = w.shared.db.store ∧
      db'.getCheckoutByCode code = some ⟨code, sale.id, u, [i], w.shared.clock⟩ := by
  obtain ⟨db', hrun, hstore, ha, hc⟩ := @runCalls_firstCheckout w.shared w.procs.length u i code
    row sale item ⟨hsale, hactive, hbloom, hlimit, hchecked, hitem, hin, hunsold⟩ hcode hfresh hrow
    hrow'
  obtain ⟨h₁, h₂⟩ := Db.getCheckoutByCode_new hfresh (fun ci h => (hrow' ci h).2) ha hc
  refine ⟨db', ?_, hstore, by simp [Db.getCheckoutByCode, h₁, h₂]⟩
  -- The process-level run is the world's run after the request.
  rw [Event.firstCheckout_eq]
  exact World.run_request_stepsOf hrun

/-- `checkout_alone_succeeds` after `openSale`: user 7 checks out item 100 of sale 1 and
    gets code 500. -/
theorem checkout_alone_succeeds_open : ∃ w : World,
    (World.init sampleFilter).run openSale = some w ∧
    ∃ db' : Db, w.run (Event.firstCheckout 1 7 100 500 900 true) =
        some ⟨(w.shared.setDb db').setCache (w.shared.cache.afterCheckout 1 7 100 500),
          w.procs ++ [.checkout ⟨7, 100, .done (.ok ⟨500, 1, 7200⟩)⟩]⟩ ∧
      db'.store = w.shared.db.store ∧ db'.getCheckoutByCode 500 = some ⟨500, 1, 7, [100], 3605⟩ := by
  -- Every precondition is evaluated on the world `openSale` reaches.
  refine ⟨_, (Option.some_get (by decide)).symm, ?_⟩
  exact @checkout_alone_succeeds (((World.init sampleFilter).run openSale).get (by decide))
    7 100 500 900 ⟨1, 3600, 7200, 11, 0⟩ ⟨100, 1, false, none, none⟩ rfl (by decide) (by decide)
    (by decide) (by decide) rfl rfl rfl rfl rfl (by decide) (by decide)

/-! ### The existing-code path of `Handle` -/

/-- Process `pid`, a checkout of item `i` by user `u` who has a code: it adds the item to
    the code's checkout under the row id `row`; every call succeeds. -/
def Event.addCheckout (pid u i row : Nat) : List Event :=
  [.request (.checkout u i)] ++ Event.steps pid 12 ++ [.step pid true row] ++ Event.steps pid 2

/-- The call outcomes of `Event.addCheckout`: after the checks, the sixth call draws the
    row id. -/
def addCheckoutCalls (row : Nat) : List (Bool × Nat) :=
  List.replicate 7 (true, 0) ++
    [(true, 0), (true, 0), (true, 0), (true, 0), (true, 0), (true, row), (true, 0), (true, 0)]

theorem Event.addCheckout_eq (pid u i row : Nat) :
    Event.addCheckout pid u i row =
      .request (.checkout u i) :: Event.stepsOf pid (addCheckoutCalls row) := rfl

/-- The existing-code path of `Handle`, at the level of its process: after the checks, a
    user whose code has a checkout in C1 that does not list the item adds the item to it
    (`AddItemToCheckout`) under the row id `ciRow`. -/
theorem runCalls_addCheckout {s : Shared} {pid u i code ciRow : Nat} {sale : Sale} {item : Item}
    {row : CheckoutAttempt} (hc : CheckoutChecks s u i sale item)
    (hcode : s.cache.getUserCheckoutCode sale.id u = some code)
    (hrow : s.db.getCheckoutAttempt code = some row)
    (hnotin : i ∉ s.db.getCheckoutItemIds code)
    (hci : ∀ ci ∈ s.db.checkoutItems.rows, ci.id ≠ ciRow) :
    ∃ db' : Db, Proc.runCalls pid (addCheckoutCalls ciRow) (s, .checkout ⟨u, i, .getActiveSale⟩) =
        some ((s.setDb db').setCache
            ((s.cache.incrementUserCheckoutCount sale.id u).addUserCheckedOutItem sale.id u i),
          .checkout ⟨u, i, .done (.ok ⟨code, (s.db.getCheckoutItemIds code).length + 1,
            sale.endedAt⟩)⟩) ∧
      db'.store = s.db.store ∧ db'.getCheckoutAttempt code = some row ∧
      db'.getCheckoutItemIds code = s.db.getCheckoutItemIds code ++ [i] := by
  -- The code's attempt row, the duplicate count of 0 and the insert.
  have hcode' : row.checkoutCode = code := Db.getCheckoutAttempt_code hrow
  obtain ⟨a, ha, hac, haid⟩ := Db.findAttemptId_of_getCheckoutAttempt hrow
  have hdup := Db.countCheckoutItem_eq_zero ha hac hnotin
  have hitemRow : (s.db.store.items.find i).isSome := Option.isSome_iff_exists.2 ⟨item, hc.getItem⟩
  obtain ⟨db', hdb, hstore, hatt, hci'⟩ :=
    @Db.insertCheckoutItem_new s.db i a ciRow s.clock ha hitemRow hdup hci
  obtain ⟨h₁, h₂⟩ := Db.getCheckoutByCode_added ha hac hatt hci'
  have hadd : Checkout.addItem ⟨code, row.saleId, row.userId, s.db.getCheckoutItemIds code,
      row.createdAt⟩ i = some ⟨code, row.saleId, row.userId, s.db.getCheckoutItemIds code ++ [i],
        row.createdAt⟩ := by simp [Checkout.addItem, hnotin]
  refine ⟨db', ?_, hstore, h₁.trans hrow, h₂⟩
  rw [addCheckoutCalls, Proc.runCalls_append, runCalls_checks hc, Option.some_bind]
  -- The user's code: `GetCheckoutByCode`, `AddItem`, `AddItemToCheckout`'s lookup, count
  -- and insert, then the two C2 writes.
  iterate 8
    rw [Proc.runCalls]
    dsimp only [Proc.step, CheckoutProc.step, Option.map, Option.bind]
    try simp only [hcode, hrow, hcode', hadd, haid, hdup, hdb, ↓reduceIte, Bool.not_true,
      Bool.false_eq_true, lt_self_iff_false, Shared.setDb_cache, Shared.setDb_clock]
  rw [Proc.runCalls]
  simp only [Checkout.itemCount, List.length_append, List.length_singleton]
  rfl

/-- `Handle` of item `i` by user `u` who already has a code in the sale, when every call
    succeeds, takes the existing-code path in a state where the checks of
    `checkout_alone_succeeds` pass, `GetCheckoutByCode` finds the code's checkout, which
    does not list the item, and the drawn row id is new to `checkout_items`. The handler
    adds the item to the code's checkout in C1 (`AddItemToCheckout`), counts the
    checkout and the item in C2, leaves the store of sales and items alone, and returns
    the same code with one item more. -/
theorem checkout_adds_item {w : World} {u i code ciRow : Nat} {sale : Sale} {item : Item}
    {row : CheckoutAttempt}
    (hsale : w.shared.db.store.getActiveSale w.shared.clock = some sale)
    (hactive : sale.isActive w.shared.clock = true)
    (hbloom : w.shared.cache.itemExistsInBloomFilter i = false)
    (hlimit : 0 < maxItemsLimit - w.shared.cache.getUserItemCount sale.id u -
      w.shared.cache.getUserCheckoutCount sale.id u)
    (hchecked : w.shared.cache.hasUserCheckedOutItem sale.id u i = false)
    (hitem : w.shared.db.store.getItemByID i = some item) (hin : item.saleId = sale.id)
    (hunsold : item.sold = false)
    (hcode : w.shared.cache.getUserCheckoutCode sale.id u = some code)
    (hrow : w.shared.db.getCheckoutAttempt code = some row)
    (hnotin : i ∉ w.shared.db.getCheckoutItemIds code)
    (hci : ∀ ci ∈ w.shared.db.checkoutItems.rows, ci.id ≠ ciRow) :
    ∃ db' : Db, w.run (Event.addCheckout w.procs.length u i ciRow) =
        some ⟨(w.shared.setDb db').setCache
            ((w.shared.cache.incrementUserCheckoutCount sale.id u).addUserCheckedOutItem
              sale.id u i),
          w.procs ++ [.checkout ⟨u, i, .done (.ok ⟨code,
            (w.shared.db.getCheckoutItemIds code).length + 1, sale.endedAt⟩)⟩]⟩ ∧
      db'.store = w.shared.db.store ∧
      db'.getCheckoutByCode code = some ⟨code, row.saleId, row.userId,
        w.shared.db.getCheckoutItemIds code ++ [i], row.createdAt⟩ := by
  obtain ⟨db', hrun, hstore, h₁, h₂⟩ := @runCalls_addCheckout w.shared w.procs.length u i code
    ciRow sale item row ⟨hsale, hactive, hbloom, hlimit, hchecked, hitem, hin, hunsold⟩ hcode hrow
    hnotin hci
  refine ⟨db', ?_, hstore, by simp [Db.getCheckoutByCode, h₁, h₂, Db.getCheckoutAttempt_code hrow]⟩
  -- The process-level run is the world's run after the request.
  rw [Event.addCheckout_eq]
  exact World.run_request_stepsOf hrun

/-- `checkout_adds_item` after `openSale` and user 7's first checkout of item 100 under
    code 500: user 7 checks out item 101 as well, and code 500 then lists both items. -/
theorem checkout_adds_item_second : ∃ w : World,
    (World.init sampleFilter).run (openSale ++ Event.firstCheckout 1 7 100 500 900 true) =
      some w ∧
    ∃ db' : Db, (w.run (Event.addCheckout 2 7 101 910)).map (·.procs) =
        some (w.procs ++ [.checkout ⟨7, 101, .done (.ok ⟨500, 2, 7200⟩)⟩]) ∧
      db'.getCheckoutByCode 500 = some ⟨500, 1, 7, [100, 101], 3605⟩ := by
  -- Every precondition is evaluated on the world after the first checkout.
  refine ⟨_, (Option.some_get (by decide)).symm, ?_⟩
  obtain ⟨db', hrun, -, hget⟩ := @checkout_adds_item
    (((World.init sampleFilter).run (openSale ++ Event.firstCheckout 1 7 100 500 900 true)).get
      (by decide)) 7 101 500 910 ⟨1, 3600, 7200, 11, 0⟩ ⟨101, 1, false, none, none⟩
    ⟨900, 500, 1, 7, 3605⟩ rfl (by decide) (by decide) (by decide) (by decide) rfl rfl rfl rfl rfl
    (by decide) (by decide)
  exact ⟨db', congrArg (Option.map (·.procs)) hrun, hget⟩

/-! ### The purchase of the code -/

/-- With one item read and unsold, the purchase marks exactly that item. -/
theorem UnsoldIds.eq_singleton {i : Item} {succ : List ItemId} (hs : UnsoldIds [i] succ)
    (hi : i.sold = false) : succ = [i.id] :=
  List.perm_singleton.1 <| (List.perm_ext_iff_of_nodup hs.1 (List.nodup_singleton _)).2 fun x => by
    rw [hs.2 x]
    simp only [List.mem_singleton, exists_eq_left, hi, and_true]
    exact eq_comm

namespace Store

variable {s : Store} {ch : Checkout} {t : Time} {sale : Sale} {items : List Item}
  {succ : List ItemId}

/-- A row the purchase marked is sold to the checkout's user at the transaction's
    start. -/
theorem getItemByID_purchased {r : Item} (hr : r ∈ s.items.rows) (hs : r.sold = false)
    (hx : r.id ∈ succ) : (s.purchased ch t sale items succ).getItemByID r.id =
      some { r with sold := true, soldToUserId := some ch.userId, soldAt := some t } := by
  -- The marked row is the snapshot row with the sale's columns set.
  refine Table.find_eq_some.2 ⟨?_, rfl⟩
  rw [purchased_items, markAll_items, ← markAllRow_of_mem hs hx]
  exact List.mem_map_of_mem _ hr

/-- The row of the purchase's sale counts the marked items. -/
theorem getSaleByID_purchased (hs : sale ∈ s.sales.rows) :
    (s.purchased ch t sale items succ).getSaleByID sale.id =
      some { sale with itemsSold := sale.itemsSold + succ.length } := by
  refine Table.find_eq_some.2 ⟨?_, rfl⟩
  rw [purchased_sales]
  exact List.mem_map.2 ⟨sale, hs, by simp [saleRow]⟩

/-- The purchase saves its result under the code. -/
theorem getPurchaseResult_purchased (h : s.getPurchaseResult ch.code = none) :
    (s.purchased ch t sale items succ).getPurchaseResult ch.code =
      some (calculatePurchaseResult items succ) := by
  have hfind : (s.purchased ch t sale items succ).results.find ch.code =
      some ⟨ch.code, calculatePurchaseResult items succ⟩ :=
    Table.find_eq_some.2 ⟨by simp [purchased_results h], rfl⟩
  simp [getPurchaseResult, hfind]

end Store

/-- A first checkout of item `i` by user `u`, then the purchase of its code, at the level
    of the two processes: the checkout takes the new-code path, and the purchase, run
    alone, sells the item. -/
theorem runs_checkout_purchase {s : Shared} {pidC pidP u i code row : Nat} {sale : Sale}
    {item : Item} (hc : CheckoutChecks s u i sale item)
    (hcode : s.cache.getUserCheckoutCode sale.id u = none)
    (hfresh : s.db.getCheckoutAttempt code = none)
    (hrow : ∀ a ∈ s.db.attempts.rows, a.id ≠ row)
    (hrow' : ∀ ci ∈ s.db.checkoutItems.rows, ci.id ≠ row + 1 ∧ ci.attemptId ≠ row)
    (hlock : s.cache.lock code = false) (hres : s.db.store.getPurchaseResult code = none)
    (hsaleCount : s.cache.getSaleItemCount sale.id + 1 ≤ (maxItemsPerSale : Int))
    (huserCount : s.cache.getUserItemCount sale.id u + 1 ≤ (maxItemsPerUser : Int))
    (hsold : sale.itemsSold + 1 ≤ maxItemsPerSale) :
    ∃ s₁ s' : Shared,
      Proc.runCalls pidC (firstCheckoutCalls code row) (s, .checkout ⟨u, i, .getActiveSale⟩) =
        some (s₁, .checkout ⟨u, i, .done (.ok ⟨code, 1, sale.endedAt⟩)⟩) ∧
      PurchaseProc.RunsAlone pidP (s₁, ⟨code, .codeExists⟩)
        (s', ⟨code, .done (.ok ⟨true, [⟨i, true⟩], 1, 0⟩)⟩) ∧
      s'.db.store.getItemByID i =
        some { item with sold := true, soldToUserId := some u, soldAt := some s.clock } ∧
      s'.db.store.getSaleByID sale.id = some { sale with itemsSold := sale.itemsSold + 1 } ∧
      s'.db.store.getPurchaseResult code = some ⟨true, [⟨i, true⟩], 1, 0⟩ ∧
      s'.cache.getSaleItemCount sale.id = s.cache.getSaleItemCount sale.id + 1 ∧
      s'.cache.getUserItemCount sale.id u = s.cache.getUserItemCount sale.id u + 1 := by
  -- The checkout: its run, and the checkout `GetCheckoutByCode` then finds.
  obtain ⟨db', hrun₁, hstore, ha, hci⟩ := @runCalls_firstCheckout s pidC u i code row sale item hc
    hcode hfresh hrow hrow'
  obtain ⟨h₁, h₂⟩ := Db.getCheckoutByCode_new hfresh (fun ci h => (hrow' ci h).2) ha hci
  have hid : item.id = i := (Table.find_eq_some.1 hc.getItem).2
  set s₁ := (s.setDb db').setCache (s.cache.afterCheckout sale.id u i code)
  have hstore₁ : s₁.db.store = s.db.store := hstore
  -- `ValidatePurchase` passes: the sale is active, has room, and holds the item.
  have hvalid : purchaseSvc.validatePurchase sale 0 [item] s.clock = .ok () := by
    simp only [PurchaseService.validatePurchase, purchaseSvc, hc.isActive, Item.belongsToSale,
      hc.inSale]
    simp [Nat.not_lt.2 hsold, maxItemsPerUser, hc.inSale]
  -- The purchase, run alone, meets every precondition of `runs_purchase`.
  obtain ⟨s', succ, hsucc, hrun₂, hstore', -, hsaleC, huserC, -⟩ :=
    @runs_purchase s₁ pidP code ⟨row, code, sale.id, u, s.clock⟩ ⟨code, sale.id, u, [i], s.clock⟩
      sale [item] h₁ (by rw [show s₁.db = db' from rfl, h₂]; rfl) hlock
      (by simpa using hsaleCount) (by simpa using huserCount) (by rwa [hstore₁])
      (by rw [hstore₁]; exact Table.find_eq_some.2 ⟨hc.sale_mem, rfl⟩)
      (by simp [hstore₁, hc.getItem]) hvalid ⟨item, List.mem_singleton_self _, hc.unsold⟩
      (by simpa [hid] using hc.notInFilter)
  -- It marks the one unsold item it read.
  obtain rfl := hsucc.eq_singleton hc.unsold
  subst hid
  have hresult : calculatePurchaseResult [item] [item.id] = ⟨true, [⟨item.id, true⟩], 1, 0⟩ := by
    simp [calculatePurchaseResult]
  refine ⟨s₁, s', hrun₁, hresult ▸ hrun₂, ?_, ?_, ?_, hsaleC, huserC⟩
  -- The item's row, the sale's row and the saved result after the commit.
  · rw [hstore', hstore₁]
    exact Store.getItemByID_purchased (List.mem_of_find?_eq_some hc.getItem) hc.unsold
      (List.mem_singleton_self _)
  · rw [hstore', hstore₁]
    exact Store.getSaleByID_purchased hc.sale_mem
  · rw [hstore', hstore₁, ← hresult]
    exact Store.getPurchaseResult_purchased hres

/-- A checkout request that runs alone through `firstCheckoutCalls`, then a purchase
    request that runs alone, as one replay of the world. -/
theorem World.run_checkout_purchase {w : World} {u i code row : Nat} {s₁ s' : Shared}
    {out₁ : Except Error CheckoutResponse} {out₂ : Except Error PurchaseResult}
    (h₁ : Proc.runCalls w.procs.length (firstCheckoutCalls code row)
      (w.shared, .checkout ⟨u, i, .getActiveSale⟩) = some (s₁, .checkout ⟨u, i, .done out₁⟩))
    (h₂ : PurchaseProc.RunsAlone (w.procs.length + 1) (s₁, ⟨code, .codeExists⟩)
      (s', ⟨code, .done out₂⟩)) :
    ∃ k, w.run (Event.firstCheckout w.procs.length u i code row true ++
        .request (.purchase code) :: Event.steps (w.procs.length + 1) k) =
      some ⟨s', w.procs ++ [.checkout ⟨u, i, .done out₁⟩, .purchase ⟨code, .done out₂⟩]⟩ := by
  set procs₂ := w.procs ++ [.checkout ⟨u, i, .done out₁⟩] ++ [Request.start (.purchase code)]
  have hp : procs₂[w.procs.length + 1]? = some (.purchase ⟨code, .codeExists⟩) := by
    rw [List.getElem?_append_right (by simp)]
    simp [Request.start]
  -- The purchase runs alone from its place after the returned checkout.
  obtain ⟨k, hk⟩ := h₂.world hp
  refine ⟨k, ?_⟩
  rw [World.run_append, Event.firstCheckout_eq, World.run_request_stepsOf h₁, Option.some_bind,
    World.run_request]
  refine hk.trans ?_
  simp [procs₂]

/-- The use case, end to end. A first checkout of item `i` by user `u` that takes the
    new-code path (the preconditions of `checkout_alone_succeeds`), then
    `ExecutePurchase` of the code it returned, each request running alone with every
    call succeeding. When the purchase lock of the code is free, the code has no
    purchase result, and C2's counters and the sale row leave room for one more item,
    the purchase succeeds with the one item sold: the item's row is sold to `u` at the
    current instant, the sale's `items_sold` and both C2 counters grow by one, and the
    result is saved under the code. -/
theorem checkout_then_purchase_sells {w : World} {u i code row : Nat} {sale : Sale} {item : Item}
    (hsale : w.shared.db.store.getActiveSale w.shared.clock = some sale)
    (hactive : sale.isActive w.shared.clock = true)
    (hbloom : w.shared.cache.itemExistsInBloomFilter i = false)
    (hlimit : 0 < maxItemsLimit - w.shared.cache.getUserItemCount sale.id u -
      w.shared.cache.getUserCheckoutCount sale.id u)
    (hchecked : w.shared.cache.hasUserCheckedOutItem sale.id u i = false)
    (hitem : w.shared.db.store.getItemByID i = some item) (hin : item.saleId = sale.id)
    (hunsold : item.sold = false)
    (hcode : w.shared.cache.getUserCheckoutCode sale.id u = none)
    (hfresh : w.shared.db.getCheckoutAttempt code = none)
    (hrow : ∀ a ∈ w.shared.db.attempts.rows, a.id ≠ row)
    (hrow' : ∀ ci ∈ w.shared.db.checkoutItems.rows, ci.id ≠ row + 1 ∧ ci.attemptId ≠ row)
    (hlock : w.shared.cache.lock code = false)
    (hres : w.shared.db.store.getPurchaseResult code = none)
    (hsaleCount : w.shared.cache.getSaleItemCount sale.id + 1 ≤ (maxItemsPerSale : Int))
    (huserCount : w.shared.cache.getUserItemCount sale.id u + 1 ≤ (maxItemsPerUser : Int))
    (hsold : sale.itemsSold + 1 ≤ maxItemsPerSale) :
    ∃ (k : Nat) (w' : World), w.run (Event.firstCheckout w.procs.length u i code row true ++
        .request (.purchase code) :: Event.steps (w.procs.length + 1) k) = some w' ∧
      w'.procs = w.procs ++ [.checkout ⟨u, i, .done (.ok ⟨code, 1, sale.endedAt⟩)⟩,
        .purchase ⟨code, .done (.ok ⟨true, [⟨i, true⟩], 1, 0⟩)⟩] ∧
      w'.shared.db.store.getItemByID i =
        some { item with sold := true, soldToUserId := some u, soldAt := some w.shared.clock } ∧
      w'.shared.db.store.getSaleByID sale.id = some { sale with itemsSold := sale.itemsSold + 1 } ∧
      w'.shared.db.store.getPurchaseResult code = some ⟨true, [⟨i, true⟩], 1, 0⟩ ∧
      w'.shared.cache.getSaleItemCount sale.id = w.shared.cache.getSaleItemCount sale.id + 1 ∧
      w'.shared.cache.getUserItemCount sale.id u = w.shared.cache.getUserItemCount sale.id u + 1 := by
  obtain ⟨s₁, s', h₁, h₂, hitem', hsale', hres', hsaleC, huserC⟩ :=
    @runs_checkout_purchase w.shared w.procs.length (w.procs.length + 1) u i code row sale item
      ⟨hsale, hactive, hbloom, hlimit, hchecked, hitem, hin, hunsold⟩ hcode hfresh hrow hrow' hlock
      hres hsaleCount huserCount hsold
  -- The two process-level runs, one after the other, are one replay of the world.
  obtain ⟨k, hk⟩ := World.run_checkout_purchase h₁ h₂
  exact ⟨k, _, hk, rfl, hitem', hsale', hres', hsaleC, huserC⟩

/-- `checkout_then_purchase_sells` after `openSale`: user 7 checks out item 100 and buys
    it with code 500. -/
theorem checkout_then_purchase_sells_open : ∃ w : World,
    (World.init sampleFilter).run openSale = some w ∧
    ∃ (k : Nat) (w' : World), w.run (Event.firstCheckout 1 7 100 500 900 true ++
        .request (.purchase 500) :: Event.steps 2 k) = some w' ∧
      w'.shared.db.store.getItemByID 100 = some ⟨100, 1, true, some 7, some 3605⟩ ∧
      w'.shared.db.store.getPurchaseResult 500 = some ⟨true, [⟨100, true⟩], 1, 0⟩ := by
  -- Every precondition is evaluated on the world `openSale` reaches.
  refine ⟨_, (Option.some_get (by decide)).symm, ?_⟩
  obtain ⟨k, w', hrun, -, hitem, -, hres, -⟩ :=
    @checkout_then_purchase_sells (((World.init sampleFilter).run openSale).get (by decide))
      7 100 500 900 ⟨1, 3600, 7200, 11, 0⟩ ⟨100, 1, false, none, none⟩ rfl (by decide) (by decide)
      (by decide) (by decide) rfl rfl rfl rfl rfl (by decide) (by decide) rfl rfl (by decide)
      (by decide) (by decide)
  exact ⟨k, w', hrun, hitem, hres⟩

end FlashSale
