import FlashSale.Spec.Sales

/-!
# A stored sale is served for its whole window

No request deletes a sale row or moves its window. `CreateSale` appends a row, and the
only other write to `sales`, the `UpdateSale` of a purchase, writes back the row its
transaction read with `items_sold` raised (`Store.purchased_fixed`). So over any events
after a reachable world, the id, the window and the item count of every sale row stay
as they were, and new rows come after the old ones (`Reachable.run_sales_grow`).

`GetActiveSale` returns, among the rows whose window holds the instant, one that started
last, and it finds none only when no window holds the instant
(`Store.getActiveSale_spec`). Together: once a sale is stored, `GetActiveSale` at any
instant of its window, in every later world, returns a sale, and one that started no
earlier (`stored_window_served`). A stored sale is never lost; a sale that starts later
inside its window hides it from `GetActiveSale`, and so from the checkout, which compares
an item's sale with the one `GetActiveSale` returned.

## Key results

- `Store.getActiveSale_spec`: what `GetActiveSale` returns.
- `StoreStep.sales_grow`, `Reachable.run_sales_grow`: the fixed columns of the sales
  rows only grow, at the end, along any events from a reachable world.
- `stored_window_served`: every instant of a stored window is served by a sale in every
  later world.
-/

namespace FlashSale

/-! ### `GetActiveSale` -/

/-- The step of the fold of `GetActiveSale`: keep the row that started last, the earlier
    one among equal starts. -/
private def latest (best : Option Sale) (x : Sale) : Option Sale :=
  match best with
  | none => some x
  | some b => if b.startedAt < x.startedAt then some x else some b

private theorem getActiveSale_eq_foldl (st : Store) (now : Time) :
    st.getActiveSale now =
      (st.sales.rows.filter fun x => decide (x.startedAt ≤ now) && decide (now < x.endedAt)).foldl
        latest none :=
  rfl

/-- One step of the fold keeps a row it was given, one that started no earlier than both. -/
private theorem latest_spec (acc : Option Sale) (x : Sale) :
    ∃ m, latest acc x = some m ∧ m ∈ acc.toList ++ [x] ∧
      ∀ y ∈ acc.toList ++ [x], y.startedAt ≤ m.startedAt := by
  cases acc with
  | none => exact ⟨x, rfl, by simp, by simp⟩
  | some b =>
    -- The later start wins; on a tie the row kept so far stays.
    by_cases h : b.startedAt < x.startedAt
    · refine ⟨x, if_pos h, by simp, ?_⟩
      simp only [Option.toList_some, List.singleton_append, List.mem_cons, List.not_mem_nil,
        or_false]
      rintro y (rfl | rfl)
      exacts [Nat.le_of_lt h, Nat.le_refl _]
    · refine ⟨b, if_neg h, by simp, ?_⟩
      simp only [Option.toList_some, List.singleton_append, List.mem_cons, List.not_mem_nil,
        or_false]
      rintro y (rfl | rfl)
      exacts [Nat.le_refl _, Nat.le_of_not_lt h]

/-- The fold keeps a row it was given, one that started no earlier than all of them. -/
private theorem foldl_latest_spec {l : List Sale} {acc : Option Sale} {r : Sale}
    (h : l.foldl latest acc = some r) :
    r ∈ acc.toList ++ l ∧ ∀ y ∈ acc.toList ++ l, y.startedAt ≤ r.startedAt := by
  induction l generalizing acc with
  | nil => cases h; simp
  | cons x xs ih =>
    obtain ⟨m, hm, hmem, hge⟩ := latest_spec acc x
    rw [List.foldl_cons, hm] at h
    obtain ⟨hr, hle⟩ := ih h
    simp only [Option.toList_some, List.singleton_append, List.mem_cons] at hr hle
    refine ⟨?_, fun y hy => ?_⟩
    -- The row kept is the step's choice, or one of the rest.
    · rcases hr with rfl | hr
      · rcases List.mem_append.1 hmem with h | h
        · exact List.mem_append_left _ h
        · exact List.mem_append_right _ (by simp [List.mem_singleton.1 h])
      · exact List.mem_append_right _ (List.mem_cons_of_mem _ hr)
    -- Every row visited started no later than the step's choice, or than the rest's.
    · rw [List.mem_append, List.mem_cons] at hy
      rcases hy with hy | rfl | hy
      · exact (hge y (List.mem_append_left _ hy)).trans (hle m (.inl rfl))
      · exact (hge y (by simp)).trans (hle m (.inl rfl))
      · exact hle y (.inr hy)

/-- The fold ends with a row when it has one to visit. -/
private theorem foldl_latest_isSome {l : List Sale} (acc : Option Sale) (h : l ≠ []) :
    (l.foldl latest acc).isSome := by
  induction l generalizing acc with
  | nil => exact absurd rfl h
  | cons x xs ih =>
    obtain ⟨m, hm, -⟩ := latest_spec acc x
    rw [List.foldl_cons, hm]
    cases xs with
    | nil => rfl
    | cons y ys => exact ih _ (List.cons_ne_nil y ys)

/-- `GetActiveSale` at `now` finds no sale exactly when no row's window holds `now`; a sale
    it finds is a row whose window holds `now`, and no such row started later. -/
theorem Store.getActiveSale_spec (st : Store) (now : Time) :
    (st.getActiveSale now = none ↔
      ∀ sl ∈ st.sales.rows, ¬(sl.startedAt ≤ now ∧ now < sl.endedAt)) ∧
    ∀ sl, st.getActiveSale now = some sl → sl ∈ st.sales.rows ∧ sl.startedAt ≤ now ∧
      now < sl.endedAt ∧
      ∀ x ∈ st.sales.rows, x.startedAt ≤ now → now < x.endedAt → x.startedAt ≤ sl.startedAt := by
  rw [getActiveSale_eq_foldl]
  refine ⟨⟨fun h sl hsl hw => ?_, fun h => ?_⟩, fun sl h => ?_⟩
  -- A row in its window makes the filtered list non-empty, and the fold then finds one.
  · have hne : st.sales.rows.filter (fun x => decide (x.startedAt ≤ now) && decide (now < x.endedAt))
        ≠ [] := List.ne_nil_of_mem (List.mem_filter.2 ⟨hsl, by simpa using hw⟩)
    simpa [h] using foldl_latest_isSome none hne
  · rw [List.filter_eq_nil_iff.2 fun sl hsl => by simpa using h sl hsl]
    rfl
  -- The row found is one of the filtered rows, and started last among them.
  · obtain ⟨hmem, hle⟩ := foldl_latest_spec h
    simp only [Option.toList_none, List.nil_append, List.mem_filter, Bool.and_eq_true,
      decide_eq_true_eq] at hmem hle
    exact ⟨hmem.1, hmem.2.1, hmem.2.2, fun x hx h₁ h₂ => hle x ⟨hx, h₁, h₂⟩⟩

/-! ### The sales rows only grow -/

/-- A step of a reachable world keeps the fixed columns of the sales rows and may append
    a row: a purchase writes back the rows it read, and `CreateSale` appends one. -/
theorem StoreStep.sales_grow {w w' : World} {e : Event} (h : StoreStep w e w') :
    w.shared.db.store.sales.rows.map Sale.fixed <+: w'.shared.db.store.sales.rows.map Sale.fixed := by
  rcases h with hq | ⟨_, _, _, _, _, _, _, _, tx, sale, _, _, _, hsale, hb, he⟩ |
    ⟨_, _, _, _, _, _, ⟨sale, st, hst, he⟩ | ⟨sale, st, hst, he⟩⟩
  -- Quiet steps keep the store; a commit writes back the rows it read with only
  -- `items_sold` changed.
  · exact ⟨[], by rw [List.append_nil, hq.store]⟩
  · exact ⟨[], by rw [List.append_nil, he, Shared.commitPurchase, hb, Store.purchased_fixed hsale.1]⟩
  -- `CreateSale` appends its row; `CreateItems` leaves the sales alone.
  · exact ⟨[sale.fixed], by
      rw [he, Shared.setDb_db, (Store.createSale_eq_some hst).1, List.map_append, List.map_cons,
        List.map_nil]⟩
  · exact ⟨[], by rw [List.append_nil, he, Shared.setDb_db, (Store.createItems_eq_some hst).2.2.1]⟩

/-- Along any events from a reachable world, the fixed columns of the sales rows only grow,
    at the end. -/
theorem Reachable.run_sales_grow {bf : RedisBloomFilter ItemId} {w w' : World}
    {es : List Event} (hw : Reachable bf w) (h : w.run es = some w') :
    w.shared.db.store.sales.rows.map Sale.fixed <+: w'.shared.db.store.sales.rows.map Sale.fixed := by
  induction es generalizing w with
  | nil => cases h; exact List.prefix_refl _
  | cons e es ih =>
    simp only [World.run, Option.bind_eq_some] at h
    obtain ⟨w₁, h₁, h⟩ := h
    exact (reachable_storeStep hw h₁).sales_grow.trans (ih (.step e hw h₁) h)

/-- A stored sale is served for its whole window. After any events that follow a
    reachable world in which a sale row is stored, a row with the same id, window and item
    count is still stored; and at every instant of that window `GetActiveSale` returns a
    stored sale whose window holds the instant and which started no earlier. -/
theorem stored_window_served {bf : RedisBloomFilter ItemId} {w w' : World} {es : List Event}
    (hw : Reachable bf w) (hrun : w.run es = some w') {sl : Sale}
    (hsl : sl ∈ w.shared.db.store.sales.rows) {t : Time} (ht : sl.startedAt ≤ t ∧ t < sl.endedAt) :
    (∃ sl₀ ∈ w'.shared.db.store.sales.rows, sl₀.fixed = sl.fixed) ∧
    ∃ sl' ∈ w'.shared.db.store.sales.rows, w'.shared.db.store.getActiveSale t = some sl' ∧
      sl'.startedAt ≤ t ∧ t < sl'.endedAt ∧ sl.startedAt ≤ sl'.startedAt := by
  -- The row is still stored, with the same window.
  obtain ⟨sl₀, hsl₀, hfix⟩ :=
    List.mem_map.1 ((Reachable.run_sales_grow hw hrun).subset (List.mem_map_of_mem _ hsl))
  have hstart : sl₀.startedAt = sl.startedAt := congrArg (·.2.1) hfix
  have hend : sl₀.endedAt = sl.endedAt := congrArg (·.2.2.1) hfix
  obtain ⟨hnone, hsome⟩ := Store.getActiveSale_spec w'.shared.db.store t
  refine ⟨⟨sl₀, hsl₀, hfix⟩, ?_⟩
  -- So `GetActiveSale` finds a row at `t`, one that started no earlier than it.
  cases hget : w'.shared.db.store.getActiveSale t with
  | none => exact absurd ⟨hstart ▸ ht.1, hend ▸ ht.2⟩ (hnone.1 hget sl₀ hsl₀)
  | some sl' =>
    obtain ⟨hmem, h₁, h₂, hmax⟩ := hsome sl' hget
    exact ⟨sl', hmem, rfl, h₁, h₂, hstart ▸ hmax sl₀ hsl₀ (hstart ▸ ht.1) (hend ▸ ht.2)⟩

set_option maxRecDepth 100000 in
/-- `stored_window_served` after `overlapRun`, for sale 2 with window `[7200, 10800)` and
    the instant 9500: sale 3, which starts at 9000, is the one served, and sale 2 is
    hidden. -/
theorem stored_window_served_overlap : ∃ (w w' : World) (sl : Sale), Reachable sampleFilter w ∧
    w.run [.tick 9500] = some w' ∧ sl ∈ w.shared.db.store.sales.rows ∧
    (sl.startedAt ≤ 9500 ∧ 9500 < sl.endedAt) ∧ sl.id = 2 ∧
    ((w'.shared.db.store.getActiveSale 9500).map Sale.id = some 3) ∧
    ((∃ sl₀ ∈ w'.shared.db.store.sales.rows, sl₀.fixed = sl.fixed) ∧
      ∃ sl' ∈ w'.shared.db.store.sales.rows, w'.shared.db.store.getActiveSale 9500 = some sl' ∧
        sl'.startedAt ≤ 9500 ∧ 9500 < sl'.endedAt ∧ sl.startedAt ≤ sl'.startedAt) := by
  obtain ⟨w, hw, hsl, hget⟩ : ∃ w, Reachable sampleFilter w ∧
      (⟨2, 7200, 10800, 1, 0⟩ : Sale) ∈ w.shared.db.store.sales.rows ∧
      (w.shared.db.store.getActiveSale 9500).map Sale.id = some 3 :=
    exists_reachable_of_run overlapRun (by decide)
  -- A tick changes only the clock.
  have hrun : w.run [.tick 9500] = some ⟨{ w.shared with clock := w.shared.clock + 9500 }, w.procs⟩ :=
    rfl
  exact ⟨w, _, _, hw, hrun, hsl, by decide, rfl, hget, stored_window_served hw hrun hsl (by decide)⟩

end FlashSale
