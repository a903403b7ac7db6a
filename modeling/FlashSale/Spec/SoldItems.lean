import Mathlib.Data.List.Pairwise
import FlashSale.Spec.Reachable

/-!
# Sold items

What the committed store says about sold items, in every world some interleaving
of checkouts, purchases and sale creations reaches, with any call failing and any
commit refused.

## Key results

- `no_double_sale`: every sold item has one buyer, the user of the one code whose
  committed result lists it as sold; a sold row never changes again, and an item
  becomes sold only when a purchase that marked it commits.
- `sale_counters_consistent`: `items_sold` is each sale's number of sold items, at
  most `total_items`, and a purchase never writes the other columns of a sale.
- `bloom_added_sold_or_marked`: an id added to the sold-items filter is sold, or a
  purchase transaction marked it; `bloom_holds_unsold_item` is a history where
  that transaction then failed to commit, leaving an unsold item in the filter.
-/

namespace FlashSale

/-! ### Histories -/

/-- The admin creates sale 1 for `[3600, 7200)` with the eleven items `100, ..., 110`,
    and the clock moves into the sale. -/
def openSale : List Event :=
  [.request (.createSale ⟨some 3600, some 7200, 11⟩), .tick 3605,
    .step 0 true 1, .step 0 true 0, .step 0 true 100]

/-- Process `pid`, a checkout of item `i` by user `u` with no code yet: it generates
    `code` and writes the checkout rows from `row` on. `bloomOk` is the outcome of the
    filter read; every other call succeeds. -/
def Event.firstCheckout (pid u i code row : Nat) (bloomOk : Bool) : List Event :=
  [.request (.checkout u i), .step pid true 0, .step pid true 0, .step pid bloomOk 0] ++
    Event.steps pid 5 ++
    [.step pid true code] ++ Event.steps pid 3 ++ [.step pid true row] ++ Event.steps pid 2

/-- User 7 checks out item 100 and gets code 500; `ExecutePurchase(500)` then runs two
    attempts. The first marks item 100, adds it to the filter, increments the counters,
    and fails to commit; the second finds item 100 in the filter, skips it, and fails to
    commit as well; the call returns the commit error. -/
def retriedPurchase : List Event :=
  openSale ++ Event.firstCheckout 1 7 100 500 900 true ++
    [.request (.purchase 500)] ++ Event.steps 2 4 ++ [.step 2 true 1000] ++ Event.steps 2 15 ++
    [.step 2 false 0, .step 2 true 1002] ++ Event.steps 2 11 ++ [.step 2 false 0, .step 2 true 0]

/-- User 7 checks out item 100, and `ExecutePurchase(500)` commits its purchase; the call
    is then at its first cleanup command. -/
def soldRun : List Event :=
  openSale ++ Event.firstCheckout 1 7 100 500 900 true ++
    [.request (.purchase 500)] ++ Event.steps 2 4 ++ [.step 2 true 1000] ++ Event.steps 2 16

/-- `soldRun` up to the return of `ExecutePurchase(500)`: it cleans up and releases. -/
def cleanedRun : List Event := soldRun ++ Event.steps 2 4

/-! ### One buyer per item -/

/-- Two committed purchases that marked the same id are the same purchase. -/
private theorem commit_eq_of_marked {l : List Commit} (h : (l.flatMap (·.successful)).Nodup)
    {a b : Commit} (ha : a ∈ l) (hb : b ∈ l) {x : ItemId} (hxa : x ∈ a.successful)
    (hxb : x ∈ b.successful) : a = b := by
  -- Distinct commits have disjoint marks.
  by_contra hne
  exact (List.nodup_flatMap.1 h).2.forall (by intro a b h x h₁ h₂; exact h h₂ h₁) ha hb hne hxa hxb

/-- Every sold item has one buyer: the user of the checkout of a committed purchase
    that marked it, whose saved result lists it as sold, and no other code's result
    lists it as sold. -/
def SoldOnce (w : World) : Prop :=
  ∀ r ∈ w.shared.db.store.items.rows, r.sold = true → ∃ cm ∈ w.shared.commits,
    r.soldToUserId = some cm.checkout.userId ∧ r.soldAt.isSome ∧ r.id ∈ cm.checkout.itemIds ∧
    r.saleId = cm.checkout.saleId ∧ ⟨cm.code, cm.result⟩ ∈ w.shared.db.store.results.rows ∧
    ⟨r.id, true⟩ ∈ cm.result.items ∧
    ∀ row ∈ w.shared.db.store.results.rows, ⟨r.id, true⟩ ∈ row.result.items → row.checkoutCode = cm.code

/-- A step keeps every sold row as it is, and an item becomes sold only from an unsold
    row, marked by `MarkItemAsSold` in the transaction of the purchase process that
    commits in this step. -/
def SoldStep (w : World) (e : Event) (w' : World) : Prop :=
  (∀ r ∈ w.shared.db.store.items.rows, r.sold = true → r ∈ w'.shared.db.store.items.rows) ∧
  ∀ x, ¬ w.shared.db.store.IsSold x → w'.shared.db.store.IsSold x →
    (∃ r ∈ w.shared.db.store.items.rows, r.id = x ∧ r.sold = false) ∧ x ∈ w.shared.marked ∧
    ∃ pid ok fresh p cm, e = .step pid ok fresh ∧ w.procs[pid]? = some (.purchase p) ∧
      cm.pid = pid ∧ cm.code = p.code ∧ w'.shared.commits = w.shared.commits ++ [cm] ∧
      x ∈ cm.successful

theorem StoreInv.soldOnce {s : Shared} (hs : StoreInv s) {r : Item} (hr : r ∈ s.db.store.items.rows)
    (hsold : r.sold = true) : ∃ cm ∈ s.commits,
      r.soldToUserId = some cm.checkout.userId ∧ r.soldAt.isSome ∧ r.id ∈ cm.checkout.itemIds ∧
      r.saleId = cm.checkout.saleId ∧ ⟨cm.code, cm.result⟩ ∈ s.db.store.results.rows ∧
      ⟨r.id, true⟩ ∈ cm.result.items ∧
      ∀ row ∈ s.db.store.results.rows, ⟨r.id, true⟩ ∈ row.result.items → row.checkoutCode = cm.code := by
  -- The commit that marked the row, and what it wrote to the row.
  obtain ⟨cm, hcm, hx⟩ := hs.soldBy r hr hsold
  obtain ⟨r₁, hr₁, hid, -, huser, hat, hsale⟩ := hs.sold cm hcm r.id hx
  obtain rfl : r₁ = r := s.db.store.items.eq_of_key_eq hr₁ hr hid
  have hok := hs.commitOk cm hcm
  obtain ⟨i, hi, hii⟩ := List.mem_map.1 (hok.successful _ hx)
  refine ⟨cm, hcm, huser, hat, hii ▸ (hok.items i hi).1, hsale, ?_, ?_, fun row hrow hlist => ?_⟩
  -- Its result row is saved, and lists the item as sold.
  · rw [hs.results]; exact List.mem_map_of_mem _ hcm
  · rw [hok.result, sold_mem_calculatePurchaseResult]; exact ⟨hok.successful _ hx, hx⟩
  -- Any result row listing the item as sold is of a commit that marked it: `cm`.
  · rw [hs.results] at hrow
    obtain ⟨cm', hcm', rfl⟩ := List.mem_map.1 hrow
    rw [(hs.commitOk cm' hcm').result, sold_mem_calculatePurchaseResult] at hlist
    exact congrArg Commit.code (commit_eq_of_marked hs.once hcm' hcm hlist.2 hx)

/-- An item sold after a step and not before was marked by the purchase that
    committed in the step. -/
theorem StoreStep.newly_sold {w w' : World} {e : Event} (h : StoreStep w e w') {x : ItemId}
    (h₀ : ¬ w.shared.db.store.IsSold x) (h₁ : w'.shared.db.store.IsSold x) :
    (∃ r ∈ w.shared.db.store.items.rows, r.id = x ∧ r.sold = false) ∧ x ∈ w.shared.marked ∧
    ∃ pid ok fresh p cm, e = .step pid ok fresh ∧ w.procs[pid]? = some (.purchase p) ∧
      cm.pid = pid ∧ cm.code = p.code ∧ w'.shared.commits = w.shared.commits ++ [cm] ∧
      x ∈ cm.successful := by
  obtain ⟨r', hr', hx', hs'⟩ := h₁
  rcases h with hq | ⟨pid, ok, fresh, p, ch, rfl, hp, hcode, tx, sale, items, succ, hm, -, hb, he⟩ |
    ⟨_, _, _, _, _, _, ⟨sale, st, hst, he⟩ | ⟨sale, st, hst, he⟩⟩
  -- A quiet step sells nothing.
  · exact absurd ⟨r', hq.store ▸ hr', hx', hs'⟩ h₀
  -- A commit: the row was sold before, or the commit's marks name it.
  · rw [he] at hr'
    obtain ⟨r, hr, rfl⟩ := Store.mem_purchased hr'
    rw [Store.markAllRow_id] at hx'
    subst hx'
    rw [hb] at h₀
    simp only [Store.markAllRow_sold, Bool.or_eq_true, decide_eq_true_eq] at hs'
    rcases hs' with hs' | hx
    · exact absurd ⟨r, hr, rfl, hs'⟩ h₀
    · refine ⟨⟨r, hb ▸ hr, rfl, (hm.unsold hr hx).1⟩, (hm.successful _ hx).1, pid, ok, fresh, p,
        ⟨pid, ch.code, ch, items, succ, calculatePurchaseResult items succ⟩, rfl, hp, rfl, hcode,
        by rw [he]; rfl, hx⟩
  -- `CreateSale` leaves the items alone; `CreateItems` adds unsold ones.
  · rw [he] at hr'
    exact absurd ⟨r', by simpa [(Store.createSale_eq_some hst).2.2.1] using hr', hx', hs'⟩ h₀
  · rw [he] at hr'
    simp only [Shared.setDb_db, (Store.createItems_eq_some hst).1, List.mem_append] at hr'
    rcases hr' with hr' | hr'
    · exact absurd ⟨r', hr', hx', hs'⟩ h₀
    · simp [(mem_newItems hr').2.1] at hs'

/-- No double sale. In every reachable world every sold item has exactly one buyer:
    the user of the one code whose committed result lists it as sold. And every step
    from such a world keeps sold rows as they are, and sells an item only from an
    unsold row that `MarkItemAsSold` updated in the transaction committing in that step. -/
theorem no_double_sale {bf : RedisBloomFilter ItemId} {w : World} (hw : Reachable bf w) :
    SoldOnce w ∧ ∀ e w', w.step e = some w' → SoldStep w e w' := by
  -- The first half is the store invariant; the second the inversion of the step.
  have hi := reachable_inv hw
  refine ⟨fun r hr hs => hi.store.soldOnce hr hs, fun e w' h => ?_⟩
  have hstep := (hi.step h).2
  exact ⟨hstep.grows.sold, fun x h₀ h₁ => hstep.newly_sold h₀ h₁⟩

set_option maxRecDepth 100000 in
/-- `no_double_sale` after `cleanedRun`, where user 7 has bought item 100. -/
theorem no_double_sale_cleaned : ∃ w, Reachable sampleFilter w ∧
    (w.shared.db.store.getItemByID 100).map (fun r => (r.sold, r.soldToUserId)) =
      some (true, some 7) ∧
    SoldOnce w ∧ ∀ e w', w.step e = some w' → SoldStep w e w' := by
  obtain ⟨w, hw, h⟩ : ∃ w, Reachable sampleFilter w ∧
      (w.shared.db.store.getItemByID 100).map (fun r => (r.sold, r.soldToUserId)) =
        some (true, some 7) :=
    exists_reachable_of_run cleanedRun (by decide)
  exact ⟨w, hw, h, no_double_sale hw⟩

/-! ### The sale counters -/

/-- Sale counter consistency. In every reachable world each sale's `items_sold` is its
    number of sold items, which is at most `total_items`; and a step of a purchase
    leaves `id`, `started_at`, `ended_at` and `total_items` of every sale row as they were. -/
theorem sale_counters_consistent {bf : RedisBloomFilter ItemId} {w : World} (hw : Reachable bf w) :
    (∀ sl ∈ w.shared.db.store.sales.rows, sl.itemsSold = w.shared.db.store.soldCount sl.id ∧
      w.shared.db.store.soldCount sl.id ≤ sl.totalItems) ∧
    ∀ pid ok fresh p w', w.procs[pid]? = some (.purchase p) →
      w.step (.step pid ok fresh) = some w' →
      w'.shared.db.store.sales.rows.map Sale.fixed = w.shared.db.store.sales.rows.map Sale.fixed := by
  have hi := reachable_inv hw
  refine ⟨fun sl hsl => ?_, fun pid ok fresh p w' hp h => ?_⟩
  -- The counts are fields of the store invariant.
  · obtain ⟨h₁, h₂⟩ := hi.store.sales sl hsl
    exact ⟨h₁, (Store.soldCount_le_itemCount sl.id).trans h₂⟩
  -- A purchase step is quiet or commits, and a commit writes back the sale it read.
  · rcases (hi.step h).2 with hq | ⟨_, _, _, _, _, he, _, _, tx, sale, _, _, _, hsale, hb, hw'⟩ |
      ⟨_, _, _, c, he, hc, _⟩
    · rw [hq.store]
    · cases he
      rw [hw', Shared.commitPurchase, hb]
      exact Store.purchased_fixed hsale.1
    · cases he
      rw [hp] at hc; cases hc

set_option maxRecDepth 100000 in
/-- `sale_counters_consistent` after `soldRun`, whose purchase has committed the sale of
    item 100 and is still cleaning up. -/
theorem sale_counters_consistent_sold : ∃ w, Reachable sampleFilter w ∧
    (w.shared.db.store.getSaleByID 1).map (fun sl => (sl.itemsSold, sl.totalItems)) =
      some (1, 11) ∧
    (∀ sl ∈ w.shared.db.store.sales.rows, sl.itemsSold = w.shared.db.store.soldCount sl.id ∧
      w.shared.db.store.soldCount sl.id ≤ sl.totalItems) ∧
    ∀ pid ok fresh p w', w.procs[pid]? = some (.purchase p) →
      w.step (.step pid ok fresh) = some w' →
      w'.shared.db.store.sales.rows.map Sale.fixed = w.shared.db.store.sales.rows.map Sale.fixed := by
  obtain ⟨w, hw, h⟩ : ∃ w, Reachable sampleFilter w ∧
      (w.shared.db.store.getSaleByID 1).map (fun sl => (sl.itemsSold, sl.totalItems)) =
        some (1, 11) :=
    exists_reachable_of_run soldRun (by decide)
  exact ⟨w, hw, h, sale_counters_consistent hw⟩

/-! ### The sold-items filter -/

/-- What the filter holds. Every id ever passed to `AddItemToBloomFilter` is sold in the
    committed store, or was marked sold by `MarkItemAsSold` in some purchase
    transaction, which may since have failed to commit. -/
theorem bloom_added_sold_or_marked {bf : RedisBloomFilter ItemId} {w : World}
    (hw : Reachable bf w) : ∀ x ∈ w.shared.bloomAdded, w.shared.db.store.IsSold x ∨ x ∈ w.shared.marked :=
  (reachable_inv hw).store.bloom

set_option maxRecDepth 100000 in
/-- `bloom_added_sold_or_marked` for item 100 after `retriedPurchase`. -/
theorem bloom_added_sold_or_marked_retry : ∃ w, Reachable sampleFilter w ∧
    100 ∈ w.shared.bloomAdded ∧ (w.shared.db.store.IsSold 100 ∨ 100 ∈ w.shared.marked) :=
  let ⟨w, hw, h⟩ := exists_reachable_of_run (P := fun w => 100 ∈ w.shared.bloomAdded)
    retriedPurchase (by decide)
  ⟨w, hw, h, bloom_added_sold_or_marked hw 100 h⟩

set_option maxRecDepth 100000 in
/-- The filter holds an unsold item: after `retriedPurchase` item 100 was added to the
    filter and is unsold in the committed store. -/
theorem bloom_holds_unsold_item : ∃ w, Reachable sampleFilter w ∧ 100 ∈ w.shared.bloomAdded ∧
    (w.shared.db.store.getItemByID 100).map Item.sold = some false :=
  exists_reachable_of_run retriedPurchase (by decide)

end FlashSale
