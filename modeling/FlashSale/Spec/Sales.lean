import FlashSale.Spec.Responses

/-!
# Sale windows and the active sale

Two predicates say when a sale is on. `GetActiveSale` selects the rows with
`started_at <= NOW() AND ended_at > NOW()`, the half-open window
`[started_at, ended_at)`, and returns the one that started last. `Sale.IsActive` is
`now.After(StartedAt) && now.Before(EndedAt)`, the open window. The checkout handler
asks both, the second with its own later reading of the clock. So at the start instant
of a sale it gets the sale and then refuses it with `ErrSaleNotActive`, and it also
refuses a sale whose window closes between the two readings
(`checkout_refuses_at_start`, `sale_not_active_at_start`). The scheduler starts every
sale on the hour, at such an instant.

Both creators guard their insert only by asking for the sale active now, and the admin
handler's validation rejects `started_at > ended_at` but not equality. Stored windows
may therefore be empty, and may overlap (`sale_windows_overlap`). Both creators do
refuse a sale without items, and a purchase keeps `total_items`
(`stored_sales_have_items`).

## Key results

- `checkout_refuses_at_start`: a checkout refuses the sale `GetActiveSale` returned
  exactly when its own later reading of the clock is the sale's start instant or past
  the window.
- `stored_sales_have_items`: in every reachable world every stored sale has
  `total_items > 0`.
- `sale_not_active_at_start`, `sale_windows_overlap`: histories.
-/

namespace FlashSale

/-! ### The active sale -/

/-- The rows the `WHERE` clause of `GetActiveSale` selects at `now`: the sales whose
    half-open window `[started_at, ended_at)` holds `now`. -/
def Store.salesActiveAt (st : Store) (now : Time) : List Sale :=
  st.sales.rows.filter fun x => decide (x.startedAt ≤ now) && decide (now < x.endedAt)

/-- The `ORDER BY started_at DESC LIMIT 1` of `GetActiveSale` returns one of the rows it
    ranks. -/
private theorem foldl_latest_mem {l : List Sale} {acc : Option Sale} {sl : Sale}
    (h : l.foldl (fun best x => match best with
      | none => some x
      | some b => if b.startedAt < x.startedAt then some x else some b) acc = some sl) :
    acc = some sl ∨ sl ∈ l := by
  induction l generalizing acc with
  | nil => exact .inl h
  | cons x xs ih =>
    rcases ih h with h' | h'
    -- The result is the accumulator after the head: the head itself, or the old best.
    · cases acc with
      | none => cases h'; exact .inr (List.mem_cons_self _ _)
      | some b =>
        simp only at h'
        split at h' <;> cases h'
        · exact .inr (List.mem_cons_self _ _)
        · exact .inl rfl
    -- The result is a row of the tail.
    · exact .inr (List.mem_cons_of_mem _ h')

/-- `GetActiveSale` returns a sale whose window holds the instant. -/
theorem Store.getActiveSale_mem {st : Store} {now : Time} {sl : Sale}
    (h : st.getActiveSale now = some sl) : sl ∈ st.salesActiveAt now :=
  (foldl_latest_mem h).resolve_left (by simp)

/-- The refusal step of `Handle` returns `ErrSaleNotActive` exactly when the sale is not
    active at its own reading of the clock. -/
theorem CheckoutProc.step_isActive (s : Shared) (u i : Nat) (sl : Sale) (ok : Bool) (fresh : Nat) :
    ((⟨u, i, .isActive sl⟩ : CheckoutProc).step s ok fresh).map (·.2.pc) =
        some (.done (.error .saleNotActive)) ↔ sl.isActive s.clock = false := by
  cases ha : sl.isActive s.clock <;> simp [CheckoutProc.step, ha]

/-- The checkout refuses the sale it found at the start of its window and once the window
    has closed. `Handle` reads the clock twice: `GetActiveSale` at the database's `NOW()`,
    then `IsActive` at `time.Now()`, no earlier. The first step goes on to `IsActive` only
    with the sale the query returned, whose window `[started_at, ended_at)` holds the
    first reading. The second step then returns `ErrSaleNotActive` exactly when the second
    reading is the sale's start instant, which `IsActive` leaves out, or has reached the
    end of the window. When no time passes between the two readings, the refusal comes
    exactly at the start instant. -/
theorem checkout_refuses_at_start {s₀ s' s₁ : Shared} {u i : Nat} {ok : Bool} {fresh : Nat}
    {sl : Sale} (h₀ : (⟨u, i, .getActiveSale⟩ : CheckoutProc).step s₀ ok fresh =
      some (s', ⟨u, i, .isActive sl⟩))
    (hclock : s₀.clock ≤ s₁.clock) (ok' : Bool) (fresh' : Nat) :
    ok = true ∧ s₀.db.store.getActiveSale s₀.clock = some sl ∧
    (((⟨u, i, .isActive sl⟩ : CheckoutProc).step s₁ ok' fresh').map (·.2.pc) =
        some (.done (.error .saleNotActive)) ↔ sl.startedAt = s₁.clock ∨ sl.endedAt ≤ s₁.clock) ∧
    (s₁.clock = s₀.clock → (((⟨u, i, .isActive sl⟩ : CheckoutProc).step s₁ ok' fresh').map
      (·.2.pc) = some (.done (.error .saleNotActive)) ↔ sl.startedAt = s₀.clock)) := by
  -- The first step reaches `IsActive` only through a query that returned `sl`.
  obtain ⟨rfl, hget⟩ : ok = true ∧ s₀.db.store.getActiveSale s₀.clock = some sl := by
    cases ok
    · simp [CheckoutProc.step] at h₀
    · cases h : s₀.db.store.getActiveSale s₀.clock <;> simp [CheckoutProc.step, h] at h₀
      exact ⟨rfl, congrArg some h₀.2⟩
  -- Its window holds the first reading.
  obtain ⟨-, h₁, h₂⟩ : sl ∈ s₀.db.store.sales.rows ∧ sl.startedAt ≤ s₀.clock ∧
      s₀.clock < sl.endedAt := by
    simpa [Store.salesActiveAt] using Store.getActiveSale_mem hget
  have hiff := CheckoutProc.step_isActive s₁ u i sl ok' fresh'
  rw [Bool.eq_false_iff, ne_eq, isActive_iff] at hiff
  -- The rest is arithmetic on the two readings.
  unfold Time at *
  exact ⟨rfl, hget, by rw [hiff]; omega, fun he => by rw [hiff]; omega⟩

set_option maxRecDepth 100000 in
/-- A checkout whose two readings straddle the end of the window: the admin creates sale 1
    for `[3600, 7200)` at instant 0; at instant 7199 `GetActiveSale` returns it, and one
    second later `IsActive` refuses it. -/
theorem checkout_refuses_at_end : ∃ (w : World) (sl : Sale), Reachable sampleFilter w ∧
    (⟨7, 100, .getActiveSale⟩ : CheckoutProc).step w.shared true 0 =
      some (w.shared, ⟨7, 100, .isActive sl⟩) ∧
    w.shared.clock ≤ w.shared.clock + 1 ∧ sl.endedAt = w.shared.clock + 1 ∧
    ((⟨7, 100, .isActive sl⟩ : CheckoutProc).step { w.shared with clock := w.shared.clock + 1 }
      true 0).map (·.2.pc) = some (.done (.error .saleNotActive)) := by
  -- At instant 7199 the active sale ends one second later.
  obtain ⟨w, hw, hend⟩ : ∃ w, Reachable sampleFilter w ∧
      (w.shared.db.store.getActiveSale w.shared.clock).map Sale.endedAt =
        some (w.shared.clock + 1) :=
    exists_reachable_of_run [.request (.createSale ⟨some 3600, some 7200, 11⟩), .step 0 true 1,
      .step 0 true 0, .step 0 true 100, .tick 7199] (by decide)
  obtain ⟨sl, hget, hsl⟩ := Option.map_eq_some'.1 hend
  -- The first step finds it; the second runs after a tick of one second.
  have hstep : (⟨7, 100, .getActiveSale⟩ : CheckoutProc).step w.shared true 0 =
      some (w.shared, ⟨7, 100, .isActive sl⟩) := by
    simp [CheckoutProc.step, hget]
  have hclock : w.shared.clock ≤ ({ w.shared with clock := w.shared.clock + 1 } : Shared).clock :=
    Nat.le_succ _
  exact ⟨w, sl, hw, hstep, hclock, hsl,
    (checkout_refuses_at_start hstep hclock true 0).2.2.1.2 (.inr hsl.le)⟩

/-- The admin creates sale 1 for `[3600, 7200)` at instant 0, and at instant 3600 user 7
    checks out item 100. -/
def startInstantRun : List Event :=
  [.request (.createSale ⟨some 3600, some 7200, 11⟩), .step 0 true 1, .step 0 true 0,
    .step 0 true 100, .tick 3600, .request (.checkout 7 100), .step 1 true 0, .step 1 true 0]

set_option maxRecDepth 100000 in
/-- The two predicates disagree in a history: after `startInstantRun`, `GetActiveSale`
    returns sale 1 at the current instant, and the checkout was refused with
    `ErrSaleNotActive`. -/
theorem sale_not_active_at_start : ∃ w, Reachable sampleFilter w ∧
    (w.shared.db.store.getActiveSale w.shared.clock).map Sale.id = some 1 ∧
    w.procs[1]?.bind Proc.checkoutError = some (7, 100, .saleNotActive) :=
  exists_reachable_of_run startInstantRun (by decide)

/-! ### Stored windows -/

/-- At instant 0, with no sale active, the admin creates three sales of one item each:
    sale 1 for `[7200, 7200)`, sale 2 for `[7200, 10800)` and sale 3 for `[9000, 12600)`. -/
def overlapRun : List Event :=
  [.request (.createSale ⟨some 7200, some 7200, 1⟩), .step 0 true 1, .step 0 true 0,
    .step 0 true 100,
    .request (.createSale ⟨some 7200, some 10800, 1⟩), .step 1 true 2, .step 1 true 0,
    .step 1 true 101,
    .request (.createSale ⟨some 9000, some 12600, 1⟩), .step 2 true 3, .step 2 true 0,
    .step 2 true 102]

set_option maxRecDepth 100000 in
/-- Stored windows may be empty and may overlap: after `overlapRun` sale 1 has
    `started_at = ended_at`, and at instant 9000 sales 2 and 3 are both in their window. -/
theorem sale_windows_overlap : ∃ w, Reachable sampleFilter w ∧
    (w.shared.db.store.getSaleByID 1).map (fun sl => (sl.startedAt, sl.endedAt)) =
      some (7200, 7200) ∧
    (w.shared.db.store.salesActiveAt 9000).map Sale.id = [2, 3] :=
  exists_reachable_of_run overlapRun (by decide)

/-! ### Every stored sale has items -/

/-- `HandleCreateSale` goes on only with a positive `total_items`. -/
theorem CreateSaleRequest.validate_totalItems {req : CreateSaleRequest} {now : Time}
    {v : Time × Time × Nat} (h : req.validate now = some v) : 0 < v.2.2 := by
  simp only [CreateSaleRequest.validate] at h
  -- Every accepting branch has checked total_items > 0, so its toNat is positive.
  have := Int.self_le_toNat req.totalItems
  split_ifs at h <;> cases h <;> dsimp only <;> omega

/-- A creator reaches `CreateSale` only with a sale that has items: the scheduler's
    10000, or the admin request's validated `total_items`. -/
theorem CreateProc.totalItems_of_step {s s' : Shared} {ok : Bool} {fresh : Nat}
    {p p' : CreateProc} {sale : Sale} (h : p.step s ok fresh = some (s', p'))
    (hpc : p'.pc = .createSale sale) : 0 < sale.totalItems := by
  obtain ⟨creator, pc⟩ := p
  cases pc with
  -- Only the first step goes on to CreateSale.
  | getActiveSale =>
    simp only [CreateProc.step] at h
    cases creator with
    -- The scheduler's fixed count.
    | scheduler =>
      split_ifs at h <;> obtain ⟨rfl, rfl⟩ := Prod.mk.inj (Option.some.inj h) <;> cases hpc <;>
        exact (by decide : 0 < schedulerTotalItems)
    -- The admin's request, once validated.
    | admin req =>
      simp only at h
      split at h
      · obtain ⟨rfl, rfl⟩ := Prod.mk.inj (Option.some.inj h); cases hpc
      · next v hv =>
        split_ifs at h <;> obtain ⟨rfl, rfl⟩ := Prod.mk.inj (Option.some.inj h) <;> cases hpc <;>
          exact CreateSaleRequest.validate_totalItems hv
  -- The later steps go on to CreateItems or return.
  | createSale _ | createItems _ =>
    simp only [CreateProc.step] at h
    split at h <;> obtain ⟨rfl, rfl⟩ := Prod.mk.inj (Option.some.inj h) <;> cases hpc
  | done _ => cases h

/-- Every stored sale has items, and so has every sale a creator is about to insert. -/
def SalesHaveItems (w : World) : Prop :=
  (∀ sl ∈ w.shared.db.store.sales.rows, 0 < sl.totalItems) ∧
  ∀ (pid : Nat) (c : CreateProc) (sale : Sale), w.procs[pid]? = some (.create c) →
    c.pc = .createSale sale → 0 < sale.totalItems

/-- Rows that keep their fixed columns keep their item counts. -/
private theorem totalItems_pos_of_fixed {l l' : List Sale}
    (h : l'.map Sale.fixed = l.map Sale.fixed) (hl : ∀ sl ∈ l, 0 < sl.totalItems) :
    ∀ sl ∈ l', 0 < sl.totalItems := by
  intro sl hsl
  obtain ⟨sl₀, hsl₀, he⟩ := List.mem_map.1 (h ▸ List.mem_map_of_mem Sale.fixed hsl)
  exact (congrArg (·.2.2.2) he : sl₀.totalItems = sl.totalItems) ▸ hl sl₀ hsl₀

/-- Every event keeps `SalesHaveItems`: a purchase keeps `total_items` of every row, and
    `CreateSale` inserts the sale its creator validated. -/
theorem SalesHaveItems.step {w w' : World} {e : Event} (hi : Inv w) (ht : SalesHaveItems w)
    (h : w.step e = some w') : SalesHaveItems w' := by
  cases e with
  -- A new request starts at GetActiveSale, about to insert nothing.
  | request r =>
    obtain rfl := Option.some.inj h
    refine ⟨ht.1, fun pid c sale hp hpc => ?_⟩
    rcases World.procs_request hp with hp | he
    · exact ht.2 pid c sale hp hpc
    · cases r <;> cases he <;> cases hpc
  | tick d => obtain rfl := Option.some.inj h; exact ht
  | expire k => obtain rfl := Option.some.inj h; exact ht
  | step pid ok fresh =>
    obtain ⟨p, s', q, hp, hstep, rfl⟩ := World.step_step h
    have hpi := hi.procs pid p hp
    -- What the stepping process does to the rows, and the sale it is about to insert.
    obtain ⟨hrows, hq⟩ : (∀ sl ∈ s'.db.store.sales.rows, 0 < sl.totalItems) ∧
        ∀ c sale, q = .create c → c.pc = .createSale sale → 0 < sale.totalItems := by
      cases p with
      -- A checkout writes no sale row.
      | checkout c =>
        obtain ⟨⟨s₁, c'⟩, hc, ⟨⟩⟩ := Option.map_eq_some'.1 hstep
        exact ⟨(CheckoutProc.step_inv hpi hc).1.store ▸ ht.1, fun _ _ h => nomatch h⟩
      -- A purchase's commit changes items_sold only.
      | purchase c =>
        obtain ⟨⟨s₁, c'⟩, hc, ⟨⟩⟩ := Option.map_eq_some'.1 hstep
        refine ⟨?_, fun _ _ h => nomatch h⟩
        rcases (PurchaseProc.step_inv hpi hc).1 with hq |
          ⟨ch, -, tx, sale, items, succ, -, hsale, hb, rfl⟩
        · exact hq.store ▸ ht.1
        · refine totalItems_pos_of_fixed ?_ ht.1
          rw [Shared.commitPurchase, hb]
          exact Store.purchased_fixed hsale.1
      -- A creator inserts the sale it validated, or items.
      | create c =>
        obtain ⟨⟨s₁, c'⟩, hc, ⟨⟩⟩ := Option.map_eq_some'.1 hstep
        refine ⟨?_, fun _ _ h => by cases h; exact CreateProc.totalItems_of_step hc⟩
        rcases CreateProc.step_cases hc with ⟨rfl, -⟩ | ⟨sale, st, hpc, hst, rfl, -⟩ |
          ⟨sale, st, -, hst, rfl, -⟩
        · exact ht.1
        -- CreateSale appends the sale of the process's pc.
        · simp only [Shared.setDb_db, (Store.createSale_eq_some hst).1, List.mem_append,
            List.mem_singleton]
          rintro sl (hsl | rfl)
          exacts [ht.1 sl hsl, ht.2 pid c _ hp hpc]
        · simpa only [Shared.setDb_db, (Store.createItems_eq_some hst).2.2.1] using ht.1
    -- The stepping process holds the new pc; every other process is unchanged.
    refine ⟨hrows, fun j c sale hj hpc => ?_⟩
    by_cases hjp : j = pid
    · subst hjp
      rw [List.getElem?_set_self (List.getElem?_eq_some_iff.1 hp).1] at hj
      exact hq c sale (Option.some.inj hj) hpc
    · rw [List.getElem?_set_ne (Ne.symm hjp)] at hj
      exact ht.2 j c sale hj hpc

/-- Every stored sale has items. In every reachable world each row of `sales` has
    `total_items > 0`: the admin handler refuses a request with `total_items <= 0`, the
    scheduler creates sales of 10000 items, and a purchase's `UpdateSale` keeps
    `total_items`. -/
theorem stored_sales_have_items {bf : RedisBloomFilter ItemId} {w : World} (hw : Reachable bf w) :
    ∀ sl ∈ w.shared.db.store.sales.rows, 0 < sl.totalItems := by
  suffices SalesHaveItems w from this.1
  induction hw with
  | init => exact ⟨by simp [World.init, Shared.init, Db.empty, Store.empty], by simp [World.init]⟩
  | step e hw h ih => exact ih.step (reachable_inv hw) h

set_option maxRecDepth 100000 in
/-- `stored_sales_have_items` after `overlapRun`, which stores three sales. -/
theorem stored_sales_have_items_overlap : ∃ w, Reachable sampleFilter w ∧
    w.shared.db.store.sales.rows.length = 3 ∧
    ∀ sl ∈ w.shared.db.store.sales.rows, 0 < sl.totalItems := by
  obtain ⟨w, hw, h⟩ : ∃ w, Reachable sampleFilter w ∧ w.shared.db.store.sales.rows.length = 3 :=
    exists_reachable_of_run overlapRun (by decide)
  exact ⟨w, hw, h, stored_sales_have_items hw⟩

end FlashSale
