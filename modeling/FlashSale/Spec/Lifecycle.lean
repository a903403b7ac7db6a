import FlashSale.Spec.UseCase

/-!
# A sale's life from a fresh deployment

`AdminHandler.HandleCreateSale` with a valid request, while no sale is active and with
ids no row holds, creates the sale with the window and item count it validated and its
items, all unsold (`admin_creates_sale`).

The pieces proved at the level of one process compose into one history of the whole
service: from a fresh deployment, the admin creates a sale, the clock moves into the
sale's window, a user checks out one of its items and buys it with the code. Whatever
the filter's hash functions, the admin's valid request, the item, the user and the
values the generators draw, the item ends sold to the user (`fresh_sale_item_sold`).

## Key results

- `admin_creates_sale`: the success path of `HandleCreateSale`.
- `fresh_sale_item_sold`: every item of every sale the admin creates in a fresh
  deployment can be sold.
-/

namespace FlashSale

/-! ### Inserting rows -/

/-- `insertAll` of rows with distinct keys that no row of the table holds succeeds. -/
theorem Table.insertAll_eq_some_of {α κ : Type} {key : α → κ} [DecidableEq κ]
    {t : Table α key} {rs : List α} (hnd : (rs.map key).Nodup)
    (hnew : ∀ r ∈ rs, ∀ x ∈ t.rows, key x ≠ key r) : ∃ u, t.insertAll rs = some u := by
  induction rs generalizing t with
  | nil => exact ⟨t, rfl⟩
  | cons r rs ih =>
    -- the head's key is new: insert it, then the rest into the grown table
    obtain ⟨t', ht'⟩ := Table.insert_eq_some_of (hnew r (List.mem_cons_self _ _))
    rw [List.map_cons, List.nodup_cons] at hnd
    -- no later row collides with a row of the grown table
    obtain ⟨u, hu⟩ := @ih t' hnd.2 fun r' hr' x hx => by
      rcases List.mem_append.1 ((Table.insert_eq_some ht').1 ▸ hx) with hx | hx
      -- a row the table had
      · exact hnew r' (List.mem_cons_of_mem _ hr') x hx
      -- the head just inserted: the keys of the list are distinct
      · rw [List.mem_singleton.1 hx]
        exact fun h => hnd.1 (List.mem_map.2 ⟨r', hr', h.symm⟩)
    exact ⟨u, by simpa [Table.insertAll, ht'] using hu⟩

namespace Store

variable {s : Store}

/-- `CreateSale` of a sale whose id no row holds succeeds and appends the row. -/
theorem createSale_eq_some_of {sale : Sale} (h : ∀ x ∈ s.sales.rows, x.id ≠ sale.id) :
    ∃ s', s.createSale sale = some s' ∧ s'.sales.rows = s.sales.rows ++ [sale] ∧
      s'.items = s.items ∧ s'.results = s.results := by
  obtain ⟨t, ht⟩ := Table.insert_eq_some_of h
  exact ⟨{ s with sales := t }, by simp [createSale, ht], (Table.insert_eq_some ht).1, rfl, rfl⟩

/-- `CreateItems` of items of existing sales, with distinct ids that no row holds,
    succeeds and appends the rows. -/
theorem createItems_eq_some_of {items : List Item}
    (hsale : ∀ i ∈ items, (s.sales.find i.saleId).isSome) (hnd : (items.map Item.id).Nodup)
    (hnew : ∀ i ∈ items, ∀ x ∈ s.items.rows, x.id ≠ i.id) :
    ∃ s', s.createItems items = some s' ∧ s'.items.rows = s.items.rows ++ items ∧
      s'.sales = s.sales ∧ s'.results = s.results := by
  obtain ⟨t, ht⟩ := Table.insertAll_eq_some_of hnd hnew
  refine ⟨{ s with items := t }, ?_, Table.insertAll_eq_some ht, rfl, rfl⟩
  simp [createItems, List.all_eq_true.2 hsale, ht]

end Store

/-- The items of a new sale have distinct ids. -/
theorem nodup_newItems (sale : Sale) (fresh : Nat) : ((newItems sale fresh).map Item.id).Nodup := by
  rw [newItems, List.map_map]
  exact (List.nodup_range _).map fun a b h => by simpa [Item.new] using h

theorem mem_newItems_of_lt {sale : Sale} {fresh k : Nat} (hk : k < sale.totalItems) :
    Item.new (fresh + k) sale.id ∈ newItems sale fresh :=
  List.mem_map.2 ⟨k, List.mem_range.2 hk, rfl⟩

/-! ### The admin creates a sale -/

/-- The success path of `HandleCreateSale`, at the level of its process: a request that
    validates to a window and an item count, while `GetActiveSale` finds nothing, with a
    drawn sale id and drawn item ids no row holds, creates the sale and its items. -/
theorem runCalls_adminCreate {s : Shared} {pid : Nat} {req : CreateSaleRequest}
    {start stop total sid iid : Nat} (hv : req.validate s.clock = some (start, stop, total))
    (hnone : s.db.store.getActiveSale s.clock = none)
    (hsid : ∀ x ∈ s.db.store.sales.rows, x.id ≠ sid)
    (hiid : ∀ x ∈ s.db.store.items.rows, ∀ k < total, x.id ≠ iid + k) :
    ∃ st : Store, Proc.runCalls pid [(true, sid), (true, 0), (true, iid)]
        (s, .create ⟨.admin req, .getActiveSale⟩) =
        some (s.setDb { s.db with store := st }, .create ⟨.admin req, .done true⟩) ∧
      st.sales.rows = s.db.store.sales.rows ++ [⟨sid, start, stop, total, 0⟩] ∧
      st.items.rows = s.db.store.items.rows ++ newItems ⟨sid, start, stop, total, 0⟩ iid ∧
      st.results = s.db.store.results := by
  set sale : Sale := ⟨sid, start, stop, total, 0⟩
  -- CreateSale appends the sale row
  obtain ⟨st₁, h₁, hsales₁, hitems₁, hres₁⟩ := @Store.createSale_eq_some_of s.db.store sale hsid
  -- so CreateItems finds the sale of every new item
  have hfind : (st₁.sales.find sid).isSome :=
    Option.isSome_iff_exists.2 ⟨sale, Table.find_eq_some.2 ⟨by simp [hsales₁], rfl⟩⟩
  -- CreateItems appends the items, whose drawn ids are new
  obtain ⟨st₂, h₂, hitems₂, hsales₂, hres₂⟩ := @Store.createItems_eq_some_of st₁
    (newItems sale iid) (fun i hi => (mem_newItems hi).1 ▸ hfind) (nodup_newItems sale iid)
    fun i hi x hx => by
      obtain ⟨k, hk, rfl⟩ := List.mem_map.1 hi
      exact hiid x (hitems₁ ▸ hx) k (List.mem_range.1 hk)
  refine ⟨st₂, ?_, hsales₂ ▸ hsales₁, by rw [hitems₂, hitems₁], hres₂.trans hres₁⟩
  -- the three steps: GetActiveSale with the sale id drawn, CreateSale, CreateItems with
  -- the item ids drawn
  iterate 3
    rw [Proc.runCalls]
    dsimp only [Proc.step, CreateProc.step, Option.map, Option.bind]
    try simp only [hv, hnone, h₁, h₂, ↓reduceIte, Option.isSome_none, Bool.not_true,
      Bool.false_or, Bool.false_eq_true, Shared.setDb_db]
  rfl

/-- `HandleCreateSale` succeeds. Process `pid` runs the admin's request alone, every call
    succeeding, in a state where the request validates to a window and an item count,
    `GetActiveSale` finds no sale, the drawn sale id is new to `sales`, and the drawn item
    ids are new to `items`. It inserts the sale row with that window and count and no item
    sold, and `total_items` new unsold items of the sale; it leaves `purchase_results` and
    every other process alone, and returns success. -/
theorem admin_creates_sale {w : World} {req : CreateSaleRequest} {start stop total sid iid : Nat}
    (hv : req.validate w.shared.clock = some (start, stop, total))
    (hnone : w.shared.db.store.getActiveSale w.shared.clock = none)
    (hsid : ∀ x ∈ w.shared.db.store.sales.rows, x.id ≠ sid)
    (hiid : ∀ x ∈ w.shared.db.store.items.rows, ∀ k < total, x.id ≠ iid + k) :
    ∃ st : Store, w.run [.request (.createSale req), .step w.procs.length true sid,
        .step w.procs.length true 0, .step w.procs.length true iid] =
        some ⟨w.shared.setDb { w.shared.db with store := st },
          w.procs ++ [.create ⟨.admin req, .done true⟩]⟩ ∧
      st.sales.rows = w.shared.db.store.sales.rows ++ [⟨sid, start, stop, total, 0⟩] ∧
      st.items.rows = w.shared.db.store.items.rows ++ newItems ⟨sid, start, stop, total, 0⟩ iid ∧
      st.results = w.shared.db.store.results := by
  obtain ⟨st, hrun, h⟩ := @runCalls_adminCreate w.shared w.procs.length req start stop total sid iid
    hv hnone hsid hiid
  exact ⟨st, (World.run_request_stepsOf hrun : w.run (.request (.createSale req) ::
    Event.stepsOf w.procs.length [(true, sid), (true, 0), (true, iid)]) = _), h⟩

/-- `admin_creates_sale` in a fresh deployment: the admin creates sale 1 for
    `[3600, 7200)` with the eleven items `100, ..., 110`. -/
theorem admin_creates_sale_fresh : ∃ st : Store,
    (World.init sampleFilter).run [.request (.createSale ⟨some 3600, some 7200, 11⟩),
      .step 0 true 1, .step 0 true 0, .step 0 true 100] =
      some ⟨(Shared.init sampleFilter).setDb { (Shared.init sampleFilter).db with store := st },
        [.create ⟨.admin ⟨some 3600, some 7200, 11⟩, .done true⟩]⟩ ∧
    st.sales.rows = [⟨1, 3600, 7200, 11, 0⟩] := by
  obtain ⟨st, hrun, hsales, -⟩ := @admin_creates_sale (World.init sampleFilter)
    ⟨some 3600, some 7200, 11⟩ 3600 7200 11 1 100 rfl rfl
    (by simp [World.init, Shared.init, Db.empty, Store.empty])
    (by simp [World.init, Shared.init, Db.empty, Store.empty])
  exact ⟨st, hrun, hsales⟩

/-! ### A sale's life -/

/-- The life of a sale in a fresh deployment, whatever the filter's hash functions. The
    admin creates a sale with a request that validates to the window `[start, stop)` and
    `total` items, drawing the sale id `sid` and the item ids from `iid` on; the clock
    moves to an instant `d` inside the window, after its start; user `u` checks out the
    item `iid + k` of the sale, drawing `code` and the row id `row`; and
    `ExecutePurchase(code)` runs; each request runs alone and every call succeeds. Then
    each request returns success, the item is sold to `u` at `d`, and the sale row counts
    one item sold. -/
theorem fresh_sale_item_sold (hash1 hash2 : ItemId → UInt64) {req : CreateSaleRequest}
    {start stop total sid iid k d u code row : Nat} (hv : req.validate 0 = some (start, stop, total))
    (hk : k < total) (hstart : start < d) (hstop : d < stop) :
    ∃ (n : Nat) (w : World), (World.init (soldItemsFilter hash1 hash2)).run
        ([.request (.createSale req), .step 0 true sid, .step 0 true 0, .step 0 true iid,
          .tick d] ++ Event.firstCheckout 1 u (iid + k) code row true ++
          .request (.purchase code) :: Event.steps 2 n) = some w ∧
      w.procs = [.create ⟨.admin req, .done true⟩,
        .checkout ⟨u, iid + k, .done (.ok ⟨code, 1, stop⟩)⟩,
        .purchase ⟨code, .done (.ok ⟨true, [⟨iid + k, true⟩], 1, 0⟩)⟩] ∧
      w.shared.db.store.getItemByID (iid + k) = some ⟨iid + k, sid, true, some u, some d⟩ ∧
      w.shared.db.store.getSaleByID sid = some ⟨sid, start, stop, total, 1⟩ := by
  set bf := soldItemsFilter hash1 hash2
  set sale : Sale := ⟨sid, start, stop, total, 0⟩
  -- the admin's request succeeds in the empty store
  obtain ⟨st, hrun₁, hsales, hitems, hres⟩ := @runCalls_adminCreate (Shared.init bf) 0 req start
    stop total sid iid hv rfl (by simp [Shared.init, Db.empty, Store.empty])
    (by simp [Shared.init, Db.empty, Store.empty])
  -- the admin's process created the sale; the tick moves the clock inside its window
  set w₁ : World := ⟨{ (Shared.init bf).setDb { (Shared.init bf).db with store := st } with
    clock := (Shared.init bf).clock + d }, [.create ⟨.admin req, .done true⟩]⟩
  have hrun : (World.init bf).run [.request (.createSale req), .step 0 true sid, .step 0 true 0,
      .step 0 true iid, .tick d] = some w₁ := by
    rw [show [.request (.createSale req), .step 0 true sid, .step 0 true 0, .step 0 true iid,
        .tick d] = (.request (.createSale req) :: Event.stepsOf (World.init bf).procs.length
          [(true, sid), (true, 0), (true, iid)]) ++ [.tick d] from rfl, World.run_append,
      @World.run_request_stepsOf (World.init bf) (.createSale req) _ _ _ hrun₁]
    rfl
  have hclock : w₁.shared.clock = d := Nat.zero_add d
  have hst : w₁.shared.db.store = st := rfl
  -- at d the new sale is the active one, the only row of sales
  have hactive : st.getActiveSale d = some sale := by
    simp [Store.getActiveSale, hsales, Shared.init, Db.empty, Store.empty, Nat.le_of_lt hstart,
      hstop, sale]
  -- the item is one of the new unsold items
  have hitem : st.getItemByID (iid + k) = some (Item.new (iid + k) sid) :=
    Table.find_eq_some.2 ⟨by rw [hitems]; exact List.mem_append_right _ (mem_newItems_of_lt hk), rfl⟩
  -- every check of Handle passes: an empty filter, no attempt logged, no checkout held
  have hc : CheckoutChecks w₁.shared u (iid + k) sale (Item.new (iid + k) sid) :=
    ⟨by rw [hst, hclock]; exact hactive, by rw [isActive_iff, hclock]; exact ⟨hstart, hstop⟩,
      RedisBloomFilter.contains_nil bf (by show 0 < 7; decide) _,
      by show (0 : Int) < 10 - 0 - 0; decide, rfl, hitem, rfl, rfl⟩
  -- the checkout and the purchase of its code succeed, within both limits
  obtain ⟨s₁, s', h₁, h₂, hitem', hsale', -⟩ := @runs_checkout_purchase w₁.shared 1 2 u (iid + k)
    code row sale (Item.new (iid + k) sid) hc rfl rfl (fun a ha => (List.not_mem_nil a ha).elim)
    (fun ci hci => (List.not_mem_nil ci hci).elim) rfl
    (by rw [hst, Store.getPurchaseResult, hres]; rfl)
    (by show (0 : Int) + 1 ≤ (maxItemsPerSale : Int); decide)
    (by show (0 : Int) + 1 ≤ (maxItemsPerUser : Int); decide)
    (by show 0 + 1 ≤ maxItemsPerSale; decide)
  -- as events of the world, after the admin's process
  obtain ⟨n, hn⟩ := @World.run_checkout_purchase w₁ u (iid + k) code row s₁ s' _ _ h₁ h₂
  have hsold : s'.db.store.getItemByID (iid + k) = some ⟨iid + k, sid, true, some u, some d⟩ := by
    rw [hitem', hclock]
    rfl
  refine ⟨n, ⟨s', _⟩, ?_, rfl, hsold, hsale'⟩
  -- the run is the admin's part followed by the user's
  rw [List.append_assoc, World.run_append, hrun, Option.some_bind]
  exact hn

/-- `fresh_sale_item_sold` with the hash functions of `sampleFilter`: the admin creates sale
    1 for `[3600, 7200)` with the items `100, ..., 110`, and at instant 3605 user 7 checks
    out item 100 and buys it. -/
theorem fresh_sale_item_sold_sample : ∃ (n : Nat) (w : World), (World.init sampleFilter).run
    ([.request (.createSale ⟨some 3600, some 7200, 11⟩), .step 0 true 1, .step 0 true 0,
      .step 0 true 100, .tick 3605] ++ Event.firstCheckout 1 7 100 500 900 true ++
      .request (.purchase 500) :: Event.steps 2 n) = some w ∧
    w.shared.db.store.getItemByID 100 = some ⟨100, 1, true, some 7, some 3605⟩ := by
  obtain ⟨n, w, hrun, -, hitem, -⟩ := @fresh_sale_item_sold (fun x => x.toUInt64) (fun _ => 1)
    ⟨some 3600, some 7200, 11⟩ 3600 7200 11 1 100 0 3605 7 500 900 rfl (by decide) (by decide)
    (by decide)
  exact ⟨n, w, hrun, hitem⟩

end FlashSale
