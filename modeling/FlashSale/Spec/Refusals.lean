import FlashSale.Spec.Outcomes

/-!
# The filter never forgets

Nothing in the service removes an item from the sold-items filter: `AddItemToBloomFilter`
only sets bits, `bloom:sold_items` has no TTL, and `RedisBloomFilter.Clear` is never
called. So the filter contains, after any events, every item it contained before
(`World.run_filter`), whether or not the world is reachable.

The checkout's filter read and the purchase's filter check act on that answer alone: a
checkout whose read succeeds returns `ErrItemAlreadySold`, and a purchase attempt whose
check succeeds skips the item without `MarkItemAsSold`. An item that entered the filter
unsold (an attempt adds the item it marked, and its commit may then fail) can therefore
never again be checked out or bought while C2 answers these reads
(`filter_refusal_permanent`). `ErrItemAlreadySold` from a checkout therefore rests on the
filter's answer or on C1's sold flag, whichever the handler read first
(`checkout_refusal_filtered_or_sold`).

## Key results

- `World.step_filter`, `World.run_filter`: every event, and so every list of events, keeps
  the filter object and only extends its bits.
- `filter_refusal_permanent`: an item in the filter stays there, and every later checkout
  and purchase attempt that reads the filter successfully refuses or skips it.
- `checkout_refusal_filtered_or_sold`: a checkout returns `ErrItemAlreadySold` on a
  positive filter read, or after `GetItemByID` found the item sold in C1.
-/

namespace FlashSale

/-- Every event keeps the filter object and only extends its bits: requests and ticks do
    not touch C2, a TTL never ends on `bloom:sold_items`, and a step writes it only by
    `AddItemToBloomFilter`. -/
theorem World.step_filter {w w' : World} {e : Event} (h : w.step e = some w') :
    FilterGrows w.shared w'.shared := by
  cases e with
  -- Requests, ticks and expiries leave C2's filter alone.
  | request r => obtain rfl := Option.some.inj h; exact .refl _
  | tick d => obtain rfl := Option.some.inj h; exact .refl _
  | expire k => obtain rfl := Option.some.inj h; cases k <;> exact .refl _
  -- A step of a process writes the filter only by adding an item.
  | step pid ok fresh =>
    obtain ⟨p, s', q, -, hstep, rfl⟩ := World.step_step h
    exact (Proc.step_writes hstep).1

/-- Any list of events keeps the filter object and only extends its bits. -/
theorem World.run_filter {w w' : World} {es : List Event} (h : w.run es = some w') :
    FilterGrows w.shared w'.shared := by
  induction es generalizing w with
  | nil => cases h; exact .refl _
  | cons e es ih =>
    simp only [World.run, Option.bind_eq_some] at h
    obtain ⟨w₁, h₁, h⟩ := h
    exact (World.step_filter h₁).trans (ih h)

/-- An item in the filter is refused for good. After any events that follow a world in
    which the filter contains item `x`, the filter still contains it; a checkout of `x`
    at its filter read then returns `ErrItemAlreadySold` when the read succeeds; and a
    purchase attempt at its filter check of `x` skips the item, writing nothing, when the
    check succeeds. -/
theorem filter_refusal_permanent {w w' : World} {es : List Event} (hrun : w.run es = some w')
    {x : ItemId} (hx : w.shared.cache.itemExistsInBloomFilter x = true) :
    w'.shared.cache.itemExistsInBloomFilter x = true ∧
    (∀ pid u sale fresh, w'.procs[pid]? = some (.checkout ⟨u, x, .bloom sale⟩) →
      w'.step (.step pid true fresh) =
        some ⟨w'.shared, w'.procs.set pid (.checkout ⟨u, x, .done (.error .itemAlreadySold)⟩)⟩) ∧
    (∀ pid code ch n tx sale items (item : Item) rest succ fresh, item.id = x →
      w'.procs[pid]? =
        some (.purchase ⟨code, .attempt ch n (.bloomCheck tx sale items (item :: rest) succ)⟩) →
      w'.step (.step pid true fresh) = some ⟨w'.shared,
        w'.procs.set pid (.purchase ⟨code, .attempt ch n (.bloomCheck tx sale items rest succ)⟩)⟩) := by
  -- The item is still in the filter after the events.
  have hx' := (World.run_filter hrun).contains hx
  refine ⟨hx', fun pid u sale fresh hp => ?_, fun pid code ch n tx sale items item rest succ fresh
    hid hp => ?_⟩
  -- The checkout's filter read refuses.
  · simp [World.step, hp, Proc.step, CheckoutProc.step, hx']
  -- The attempt's filter check skips the item.
  · subst hid
    simp [World.step, hp, Proc.step, PurchaseProc.step, attemptStep, hx']

/-! ### What a refusal of a sold item rests on -/

/-- A step of `Handle` returns `ErrItemAlreadySold` only at the filter read, when the read
    succeeds and the filter contains the item, or at `AddItemToBloomFilter`, which follows
    `GetItemByID` finding the item sold. -/
theorem CheckoutProc.step_itemAlreadySold {s s' : Shared} {ok : Bool} {fresh : Nat}
    {p q : CheckoutProc} (h : p.step s ok fresh = some (s', q))
    (hq : q.pc = .done (.error .itemAlreadySold)) :
    (ok = true ∧ s.cache.itemExistsInBloomFilter p.itemId = true) ∨ p.pc = .addSoldToBloom := by
  obtain ⟨u, i, pc⟩ := p
  -- One goal per branch of the step; those at `AddItemToBloomFilter` are the second case,
  -- and every other branch but the filter read returns another outcome.
  cases pc <;> dsimp only [step] at h <;> repeat' split at h
  all_goals cases h
  all_goals first | exact .inr rfl | cases hq
  -- The filter read, on a positive answer.
  next hb => exact .inl (by simpa using hb)

/-- A checkout refuses an item as sold on the filter's answer or on C1's. In every
    reachable world, a step of a checkout that returns `ErrItemAlreadySold` is either the
    filter read, which succeeded and found the item in the filter, or comes after
    `GetItemByID` found the item sold in C1, where it is still sold. Nothing checks a
    positive filter answer against C1. -/
theorem checkout_refusal_filtered_or_sold {bf : RedisBloomFilter ItemId} {w w' : World}
    (hw : Reachable bf w) {pid : Nat} {ok : Bool} {fresh : Nat} {p : CheckoutProc}
    (hp : w.procs[pid]? = some (.checkout p)) (h : w.step (.step pid ok fresh) = some w')
    (hq : w'.procs[pid]? = some (.checkout ⟨p.userId, p.itemId, .done (.error .itemAlreadySold)⟩)) :
    (ok = true ∧ w.shared.cache.itemExistsInBloomFilter p.itemId = true) ∨
      w.shared.db.store.IsSold p.itemId := by
  -- The event is a step of the checkout at `pid`, which now holds the refusal.
  obtain ⟨p₀, s', q, hp₀, hstep, rfl⟩ := World.step_step h
  obtain rfl := Option.some.inj (hp₀.symm.trans hp)
  obtain ⟨⟨s₁, c⟩, hc, ⟨⟩⟩ := Option.map_eq_some'.1 hstep
  rw [List.getElem?_set_self (List.getElem?_eq_some_iff.1 hp).1] at hq
  obtain rfl := Proc.checkout.inj (Option.some.inj hq)
  -- At `AddItemToBloomFilter` the reachable invariant has the item sold.
  exact (CheckoutProc.step_itemAlreadySold hc rfl).imp_right ((reachable_inv hw).procs pid _ hp)

/-- The user, item and sale of a checkout at its filter read. -/
def Proc.atBloom : Proc → Option (UserId × ItemId × Sale)
  | .checkout ⟨u, i, .bloom sale⟩ => some (u, i, sale)
  | _ => none

theorem Proc.eq_of_atBloom {q : Proc} {u : UserId} {i : ItemId} {sale : Sale}
    (h : q.atBloom = some (u, i, sale)) : q = .checkout ⟨u, i, .bloom sale⟩ := by
  unfold Proc.atBloom at h
  split at h
  · cases h; rfl
  · cases h

set_option maxRecDepth 100000 in
/-- `checkout_refusal_filtered_or_sold` at the filter read of a checkout of item 100 by
    user 8 after `retriedPurchase`: the item is unsold in C1, and the refusal rests on the
    filter's answer. -/
theorem checkout_refusal_filtered_or_sold_retried : ∃ (w : World) (sl : Sale),
    Reachable sampleFilter w ∧ w.procs[3]? = some (.checkout ⟨8, 100, .bloom sl⟩) ∧
    (w.shared.db.store.getItemByID 100).map Item.sold = some false ∧
    w.step (.step 3 true 0) =
      some ⟨w.shared, w.procs.set 3 (.checkout ⟨8, 100, .done (.error .itemAlreadySold)⟩)⟩ ∧
    ((true = true ∧ w.shared.cache.itemExistsInBloomFilter 100 = true) ∨
      w.shared.db.store.IsSold 100) := by
  obtain ⟨w, hw, hb, hsold, hx⟩ : ∃ w, Reachable sampleFilter w ∧
      (w.procs[3]?.bind Proc.atBloom).map (fun b => (b.1, b.2.1)) = some (8, 100) ∧
      (w.shared.db.store.getItemByID 100).map Item.sold = some false ∧
      w.shared.cache.itemExistsInBloomFilter 100 = true :=
    exists_reachable_of_run
      (retriedPurchase ++ [.request (.checkout 8 100), .step 3 true 0, .step 3 true 0])
      (by decide)
  -- Read the checkout at its filter read back from the projection.
  obtain ⟨⟨u, i, sl⟩, hq, hui⟩ := Option.map_eq_some'.1 hb
  obtain ⟨rfl, rfl⟩ := Prod.mk.inj hui
  obtain ⟨q, hq₃, hat⟩ := Option.bind_eq_some.1 hq
  obtain rfl := Proc.eq_of_atBloom hat
  -- The filter, which holds item 100 from the abandoned attempt, refuses it.
  have hstep : w.step (.step 3 true 0) =
      some ⟨w.shared, w.procs.set 3 (.checkout ⟨8, 100, .done (.error .itemAlreadySold)⟩)⟩ := by
    simp only [World.step, hq₃, Proc.step, CheckoutProc.step, hx, Bool.true_and, ↓reduceIte,
      Option.bind_eq_bind, Option.some_bind, Option.map_some']
  have hset : (w.procs.set 3 (.checkout ⟨8, 100, .done (.error .itemAlreadySold)⟩))[3]? =
      some (.checkout ⟨8, 100, .done (.error .itemAlreadySold)⟩) :=
    List.getElem?_set_self (List.getElem?_eq_some_iff.1 hq₃).1
  exact ⟨w, sl, hw, hq₃, hsold, hstep, (checkout_refusal_filtered_or_sold hw hq₃ hstep hset :)⟩

/-- A replay from a given world that ends in a world satisfying `P` exhibits it; `P` is
    checked by evaluation. -/
theorem World.exists_of_run {w : World} {P : World → Prop} [DecidablePred P] (es : List Event)
    (h : (w.run es).elim false (fun w => decide (P w)) = true) : ∃ w', w.run es = some w' ∧ P w' := by
  cases hr : w.run es with
  | none => simp [hr] at h
  | some w' => exact ⟨w', rfl, by simpa [hr] using h⟩

set_option maxRecDepth 100000 in
/-- `filter_refusal_permanent` after `retriedPurchase`, whose first attempt added item 100
    to the filter and did not commit: item 100 is unsold in C1 and in the filter, and a
    checkout of it by user 8 then starts. -/
theorem filter_refusal_permanent_retried : ∃ w w' : World,
    (World.init sampleFilter).run retriedPurchase = some w ∧
    (w.shared.db.store.getItemByID 100).map Item.sold = some false ∧
    w.shared.cache.itemExistsInBloomFilter 100 = true ∧
    w.run [.request (.checkout 8 100), .step 3 true 0, .step 3 true 0] = some w' ∧
    w'.shared.cache.itemExistsInBloomFilter 100 = true ∧
    (∀ pid u sale fresh, w'.procs[pid]? = some (.checkout ⟨u, 100, .bloom sale⟩) →
      w'.step (.step pid true fresh) =
        some ⟨w'.shared, w'.procs.set pid (.checkout ⟨u, 100, .done (.error .itemAlreadySold)⟩)⟩) ∧
    (∀ pid code ch n tx sale items (item : Item) rest succ fresh, item.id = 100 →
      w'.procs[pid]? =
        some (.purchase ⟨code, .attempt ch n (.bloomCheck tx sale items (item :: rest) succ)⟩) →
      w'.step (.step pid true fresh) = some ⟨w'.shared,
        w'.procs.set pid (.purchase ⟨code, .attempt ch n (.bloomCheck tx sale items rest succ)⟩)⟩) := by
  obtain ⟨w, hw, hsold, hx, hrun⟩ : ∃ w, (World.init sampleFilter).run retriedPurchase = some w ∧
      (w.shared.db.store.getItemByID 100).map Item.sold = some false ∧
      w.shared.cache.itemExistsInBloomFilter 100 = true ∧
      (w.run [.request (.checkout 8 100), .step 3 true 0, .step 3 true 0]).isSome :=
    World.exists_of_run retriedPurchase (by decide)
  obtain ⟨w', hw'⟩ := Option.isSome_iff_exists.1 hrun
  exact ⟨w, w', hw, hsold, hx, hw', filter_refusal_permanent hw' hx⟩

end FlashSale
