import FlashSale.Spec.Invariant

/-!
# Every reachable world satisfies the invariant

One lemma per kind of process says what a step can do to the committed store:
nothing (`Quiet`), commit a purchase (`Commits`), or create a sale or its items.
From these, `Inv.step` and `reachable_inv`: `Inv` holds in every world that some
interleaving of requests, failures and expiries reaches.

`Inv.step` also says of every step which of these it is (`StoreStep`), and
`reachable_storeStep` gives that inversion for every step of a reachable world: the
results about the committed store are read off it.
-/

namespace FlashSale

/-- A step of process `pid` commits a purchase of checkout `ch`, with what the
    attempt knew of its snapshot, which is the committed store. -/
def Commits (s s' : Shared) (pid : Nat) (ch : Checkout) : Prop :=
  ∃ tx sale items succ, Marks s ch tx.base items succ ∧ SaleOf ch tx.base sale ∧
    s.db.store = tx.base ∧ s' = s.commitPurchase pid ch tx sale items succ

/-- What an attempt's next step carries: the invariant of its next point, or, when
    it returns success, its commit. -/
def AttemptOut (s : Shared) (pid : Nat) (ch : Checkout) :
    AttemptPc ⊕ Except Error PurchaseResult → Prop
  | .inl a => AttemptInv s ch a
  | .inr out => ∀ r, out = .ok r → Committed s pid ch.code r ∧ r.success = true

/-! ### The marking loop -/

section Marking

variable {s : Shared} {ch : Checkout} {base : Store} {items : List Item} {succ : List ItemId}
  {item : Item} {t : Time}

/-- A mark that affects a row extends the marks. -/
theorem Marks.snoc (hm : Marks s ch base items succ) (hi : item ∈ items)
    (h : ((base.markAll succ ch.userId t).markItemAsSold item.id ch.userId t).2 = true) :
    Marks { s with marked := s.marked ++ [item.id] } ch base items (succ ++ [item.id]) := by
  -- The update found the row unsold in the view, hence unsold in the snapshot and not
  -- marked yet.
  obtain ⟨hx, r, hr, hid, hs⟩ := Store.markItemAsSold_markAll_true h
  refine { hm.toFresh.mono (Quiet.mark item.id).grows with
    read := hm.read, length := hm.length
    nodup := List.nodup_append.2 ⟨hm.nodup, List.nodup_singleton _, by simpa using hx⟩
    successful := fun x hx' => ?_ }
  -- An old mark, or the new one.
  rcases List.mem_append.1 hx' with hx' | hx'
  · obtain ⟨h₁, h₂⟩ := hm.successful x hx'
    exact ⟨List.mem_append_left _ h₁, h₂⟩
  · obtain rfl := List.mem_singleton.1 hx'
    exact ⟨List.mem_append_right _ (List.mem_singleton_self _), List.mem_map_of_mem _ hi, r, hr, hid, hs⟩

/-- A mark that affects no row finds the item sold in the view: sold in the snapshot,
    hence in the committed store, or marked by this transaction. -/
theorem Marks.of_mark_false (hm : Marks s ch base items succ) (hi : item ∈ items)
    (h : ((base.markAll succ ch.userId t).markItemAsSold item.id ch.userId t).2 = false) :
    item.id ∈ s.marked ∨ s.db.store.IsSold item.id := by
  have hib := (hm.read item hi).1
  simp only [Store.markItemAsSold, Store.markAll_items, List.any_map, List.any_eq_false,
    Function.comp_apply, Store.markAllRow_id, Store.markAllRow_sold, Bool.and_eq_true,
    decide_eq_true_eq, Bool.not_eq_true', Bool.or_eq_false_iff, decide_eq_false_iff_not,
    not_and, not_not] at h
  -- The row the attempt read was sold in the snapshot, or unsold there and so marked
  -- by this transaction.
  rcases Bool.eq_false_or_eq_true item.sold with hs | hs
  · exact .inr ⟨item, hm.sold item hib hs, rfl, hs⟩
  · exact .inl (hm.successful _ (h item hib rfl hs)).1

end Marking

/-! ### One step of an attempt -/

section Attempt

variable {s s' : Shared} {pid : Nat} {ch : Checkout} {ok : Bool} {fresh : Nat}

theorem AttemptOut.error {e : Error} : AttemptOut s pid ch (.inr (.error e)) := fun _ h => nomatch h

theorem AttemptOut.mono (hg : Grows s s') :
    ∀ {r : AttemptPc ⊕ Except Error PurchaseResult}, AttemptOut s pid ch r → AttemptOut s' pid ch r
  | .inl _, h => AttemptInv.mono hg h
  | .inr _, h => fun r hr => ⟨(h r hr).1.mono hg, (h r hr).2⟩

/-- One step of `attemptPurchase` is quiet or commits, and reaches a point whose
    invariant holds. -/
theorem attemptStep_inv {a : AttemptPc} {r : AttemptPc ⊕ Except Error PurchaseResult}
    (ha : AttemptInv s ch a) (h : attemptStep s pid ch ok fresh a = (s', r)) :
    (Quiet s s' ∨ Commits s s' pid ch) ∧ AttemptOut s' pid ch r := by
  cases a with
  -- `LogCheckoutAttempt` for each item: it writes only the checkout tables.
  | log rest =>
    cases rest with
    | nil =>
      obtain ⟨rfl, rfl⟩ := Prod.mk.inj h
      exact ⟨.inl (.refl s), trivial⟩
    | cons id rest =>
      obtain ⟨rfl, rfl⟩ := Prod.mk.inj h
      refine ⟨.inl ?_, trivial⟩
      split
      · next db hdb =>
        split at hdb
        · exact Quiet.setDb (Db.logCheckoutAttempt_store hdb)
        · cases hdb
      · exact .refl s
  -- The counter reads of the limit checks change nothing.
  | userCount =>
    obtain ⟨rfl, rfl⟩ := Prod.mk.inj h
    exact ⟨.inl (.refl s), trivial⟩
  | saleCount uc =>
    simp only [attemptStep] at h
    split_ifs at h <;> obtain ⟨rfl, rfl⟩ := Prod.mk.inj h <;>
      first | exact ⟨.inl (.refl s), .error⟩ | exact ⟨.inl (.refl s), trivial⟩
  -- `BeginTx`: the snapshot is the committed store, which the view starts as.
  | begin =>
    simp only [attemptStep] at h
    split at h
    · obtain ⟨rfl, rfl⟩ := Prod.mk.inj h
      exact ⟨.inl (.refl s), rfl, fun _ hr _ => hr⟩
    · obtain ⟨rfl, rfl⟩ := Prod.mk.inj h; exact ⟨.inl (.refl s), .error⟩
  -- `GetPurchaseResult`: a found result leaves the transaction open; none makes the
  -- snapshot fresh.
  | probe tx =>
    obtain ⟨hv, hsold⟩ := ha
    simp only [attemptStep] at h
    split at h
    · obtain ⟨rfl, rfl⟩ := Prod.mk.inj h; exact ⟨.inl (.refl s), .error⟩
    split at h
    · obtain ⟨rfl, rfl⟩ := Prod.mk.inj h; exact ⟨.inl ((Quiet.refl s).leaveOpen _ _), .error⟩
    · next hnone =>
      obtain ⟨rfl, rfl⟩ := Prod.mk.inj h
      exact ⟨.inl (.refl s), hv, hv ▸ hnone, hsold⟩
  -- `GetSaleByID`: the loaded sale is the snapshot's row of the checkout's sale.
  | getSale tx =>
    obtain ⟨hv, hf⟩ := ha
    simp only [attemptStep] at h
    split at h
    · obtain ⟨rfl, rfl⟩ := Prod.mk.inj h; exact ⟨.inl (.refl s), .error⟩
    split at h
    · obtain ⟨rfl, rfl⟩ := Prod.mk.inj h; exact ⟨.inl (.refl s), .error⟩
    · next sale hsale =>
      obtain ⟨rfl, rfl⟩ := Prod.mk.inj h
      rw [hv, Store.getSaleByID, Table.find_eq_some] at hsale
      exact ⟨.inl (.refl s), hv, hf, hsale, fun _ hx => hx, by simp⟩
  -- `GetItemByID` for each id, then `ValidatePurchase`, which bounds the items and
  -- checks their sale.
  | getItems tx sale rest items =>
    obtain ⟨hv, hf, hsale, hrest, hitems⟩ := ha
    cases rest with
    | nil =>
      simp only [attemptStep] at h
      split at h
      · obtain ⟨rfl, rfl⟩ := Prod.mk.inj h; exact ⟨.inl ((Quiet.refl s).leaveOpen _ _), .error⟩
      split at h
      · obtain ⟨rfl, rfl⟩ := Prod.mk.inj h; exact ⟨.inl ((Quiet.refl s).leaveOpen _ _), .error⟩
      · next hval =>
        obtain ⟨rfl, rfl⟩ := Prod.mk.inj h
        obtain ⟨-, hlen, hsid⟩ := validatePurchase_ok hval
        refine ⟨.inl (.refl s), ⟨{ hf with
          read := fun i hi => ⟨(hitems i hi).1, (hitems i hi).2, (hsid i hi).trans hsale.2⟩
          length := hlen, nodup := List.nodup_nil, successful := by simp }, hsale, ?_⟩,
          fun _ hi => hi⟩
        rw [Store.markAll_nil, hv]
    | cons id rest =>
      simp only [attemptStep] at h
      have hrest' : ∀ x ∈ rest, x ∈ ch.itemIds := fun x hx => hrest x (List.mem_cons_of_mem _ hx)
      split at h
      · obtain ⟨rfl, rfl⟩ := Prod.mk.inj h
        exact ⟨.inl (.refl s), hv, hf, hsale, hrest', hitems⟩
      · next item hitem =>
        obtain ⟨rfl, rfl⟩ := Prod.mk.inj h
        split at hitem
        · rw [hv, Store.getItemByID, Table.find_eq_some] at hitem
          refine ⟨.inl (.refl s), hv, hf, hsale, hrest', fun i hi => ?_⟩
          rcases List.mem_append.1 hi with hi | hi
          · exact hitems i hi
          · obtain rfl := List.mem_singleton.1 hi
            exact ⟨hitem.1, hitem.2 ▸ hrest id (List.mem_cons_self _ _)⟩
        · cases hitem
  -- The filter check: at the end of the items the attempt goes to `IncrementCounters`
  -- or returns; otherwise it skips the item or goes on to mark it.
  | bloomCheck tx sale items rest succ =>
    obtain ⟨⟨hm, hsale, hv⟩, hrest⟩ := ha
    cases rest with
    | nil =>
      simp only [attemptStep] at h
      split at h
      · next hempty =>
        obtain ⟨rfl, rfl⟩ := Prod.mk.inj h
        obtain rfl := List.isEmpty_iff.1 hempty
        refine ⟨.inl (.refl s), hm, sale, hsale, by simp, ?_⟩
        rw [hv, Store.markAll_nil, Store.updateSale_of_mem hsale.1]
      · obtain ⟨rfl, rfl⟩ := Prod.mk.inj h; exact ⟨.inl (.refl s), hm, hsale, hv⟩
    | cons item rest =>
      simp only [attemptStep] at h
      have hrest' : ∀ i ∈ rest, i ∈ items := fun i hi => hrest i (List.mem_cons_of_mem _ hi)
      split at h
      · obtain ⟨rfl, rfl⟩ := Prod.mk.inj h; exact ⟨.inl (.refl s), ⟨hm, hsale, hv⟩, hrest'⟩
      · obtain ⟨rfl, rfl⟩ := Prod.mk.inj h
        exact ⟨.inl (.refl s), ⟨hm, hsale, hv⟩, hrest item (List.mem_cons_self _ _), hrest'⟩
  -- `MarkItemAsSold` on the view: a row it updates is a new mark; a row it leaves
  -- is sold or already marked.
  | mark tx sale items item rest succ =>
    obtain ⟨⟨hm, hsale, hv⟩, hi, hrest⟩ := ha
    simp only [attemptStep] at h
    split at h
    · obtain ⟨rfl, rfl⟩ := Prod.mk.inj h; exact ⟨.inl (.refl s), ⟨hm, hsale, hv⟩, hrest⟩
    rcases hmk : tx.view.markItemAsSold item.id ch.userId tx.startedAt with ⟨view, sold⟩
    simp only [hmk] at h
    rw [hv] at hmk
    cases sold
    · obtain ⟨rfl, rfl⟩ := Prod.mk.inj h
      refine ⟨.inl (.refl s), ⟨hm, hsale, hv⟩, hm.of_mark_false (t := tx.startedAt) hi ?_, hrest⟩
      rw [hmk]
    · obtain ⟨rfl, rfl⟩ := Prod.mk.inj h
      refine ⟨.inl (.mark item.id), ⟨hm.snoc (t := tx.startedAt) hi (by rw [hmk]), hsale, ?_⟩,
        .inl (List.mem_append_right _ (List.mem_singleton_self _)), hrest⟩
      rw [← Store.markItemAsSold_markAll, hmk]
  -- `AddItemToBloomFilter` of an id that is sold or marked.
  | bloomAdd tx sale items item rest succ =>
    obtain ⟨hmk, hadd, hrest⟩ := ha
    obtain ⟨rfl, rfl⟩ := Prod.mk.inj h
    have hq := Quiet.ite (s := s) ok (.addToBloom hadd)
    exact ⟨.inl hq, Marking.mono hq.grows hmk, hrest⟩
  -- `IncrementCounters` writes only C2.
  | increment tx sale items succ =>
    obtain ⟨rfl, rfl⟩ := Prod.mk.inj h
    have hq := Quiet.ite (s := s) ok
      (.setCache s (s.cache.incrementCounters ch.saleId ch.userId succ.length))
    exact ⟨.inl hq, Marking.mono hq.grows ha⟩
  -- `UpdateSale` in the view: `items_sold` raised by the marks.
  | updateSale tx sale items succ =>
    obtain ⟨hm, hsale, hv⟩ := ha
    simp only [attemptStep] at h
    split at h
    · obtain ⟨rfl, rfl⟩ := Prod.mk.inj h
      exact ⟨.inl (.refl s), hm, sale, hsale, rfl, by rw [hv]⟩
    · obtain ⟨rfl, rfl⟩ := Prod.mk.inj h; exact ⟨.inl ((Quiet.refl s).leaveOpen _ _), .error⟩
  -- `SavePurchaseResult` in the view.
  | save tx sale items succ =>
    obtain ⟨hm, sale₀, hsale, rfl, hv⟩ := ha
    simp only [attemptStep] at h
    split at h
    · obtain ⟨rfl, rfl⟩ := Prod.mk.inj h
      exact ⟨.inl (.refl s), hm, sale₀, hsale, by rw [hv]; rfl⟩
    · obtain ⟨rfl, rfl⟩ := Prod.mk.inj h; exact ⟨.inl ((Quiet.refl s).leaveOpen _ _), .error⟩
  -- `CommitTx` succeeds only on an unchanged committed store: then it commits the
  -- view, and a result with a sold item is a success.
  | commit tx sale items succ =>
    obtain ⟨hm, sale₀, hsale, hv⟩ := ha
    simp only [attemptStep] at h
    split at h
    · next hc =>
      obtain ⟨rfl, rfl⟩ := Prod.mk.inj h
      have hb : s.db.store = tx.base := (Bool.and_eq_true _ _ ▸ hc).2 |> of_decide_eq_true
      refine ⟨.inr ⟨tx, sale₀, items, succ, hm, hsale, hb, by rw [Shared.commitPurchase, ← hv]⟩,
        fun r hr => ?_⟩
      split at hr
      · cases hr
      · next hne =>
        cases hr
        exact ⟨⟨_, List.mem_append_right _ (List.mem_singleton_self _), rfl, rfl, rfl⟩,
          by simpa [calculatePurchaseResult, List.length_pos] using hne⟩
    · obtain ⟨rfl, rfl⟩ := Prod.mk.inj h; exact ⟨.inl (.refl s), .error⟩

end Attempt

/-! ### One step of a purchase -/

section Purchase

variable {s s' : Shared} {pid : Nat} {ok : Bool} {fresh : Nat}

/-- One step of `ExecutePurchase` is quiet or commits a purchase of its own code, and
    reaches a point whose invariant holds. -/
theorem PurchaseProc.step_inv {p p' : PurchaseProc} (hp : PurchaseInv s pid p)
    (h : p.step s pid ok fresh = some (s', p')) :
    (Quiet s s' ∨ ∃ ch, ch.code = p.code ∧ Commits s s' pid ch) ∧ PurchaseInv s' pid p' := by
  obtain ⟨code, pc⟩ := p
  cases pc with
  -- The C2 and C1 reads before the lock change nothing.
  | codeExists =>
    simp only [step] at h
    split at h <;> obtain ⟨rfl, rfl⟩ := Prod.mk.inj (Option.some.inj h)
    · exact ⟨.inl (.refl s), trivial⟩
    · exact ⟨.inl (.refl s), fun _ h => nomatch h⟩
  | getCheckout found =>
    simp only [step] at h
    split at h <;> obtain ⟨rfl, rfl⟩ := Prod.mk.inj (Option.some.inj h)
    · exact ⟨.inl (.refl s), fun _ h => nomatch h⟩
    · next row hrow =>
      split at hrow
      · exact ⟨.inl (.refl s), Db.getCheckoutAttempt_code hrow⟩
      · cases hrow
  | getCheckoutItems found row =>
    simp only [step] at h
    split at h <;> obtain ⟨rfl, rfl⟩ := Prod.mk.inj (Option.some.inj h)
    · exact ⟨.inl (.refl s), fun _ h => nomatch h⟩
    · refine ⟨.inl (.refl s), ?_⟩
      cases found <;> exact hp
  -- `SetCheckoutCode` writes only C2.
  | restoreCode ch =>
    obtain ⟨rfl, rfl⟩ := Prod.mk.inj (Option.some.inj h)
    exact ⟨.inl (.ite ok (.setCache _ _)), hp⟩
  -- `DistributedLock`: a lock taken moves on to the first attempt.
  | lock ch =>
    simp only [step] at h
    split at h
    · obtain ⟨rfl, rfl⟩ := Prod.mk.inj (Option.some.inj h)
      exact ⟨.inl (.refl s), fun _ h => nomatch h⟩
    split at h <;> obtain ⟨rfl, rfl⟩ := Prod.mk.inj (Option.some.inj h)
    · exact ⟨.inl (.setCache _ _), hp, trivial⟩
    · exact ⟨.inl (.refl s), fun _ h => nomatch h⟩
  -- A step of the current attempt, then the retry loop on its outcome.
  | attempt ch n a =>
    obtain ⟨hcode, ha⟩ := hp
    change ch.code = code at hcode
    simp only [step] at h
    rcases hst : attemptStep s pid ch ok fresh a with ⟨s₁, r⟩
    obtain ⟨heff, hout⟩ := attemptStep_inv ha hst
    rw [hst] at h
    have heff' : Quiet s s₁ ∨ ∃ ch', ch'.code = code ∧ Commits s s₁ pid ch' :=
      heff.imp_right fun hc => ⟨ch, hcode, hc⟩
    rcases r with a' | out
    · obtain ⟨rfl, rfl⟩ := Prod.mk.inj (Option.some.inj h)
      exact ⟨heff', hcode, hout⟩
    · obtain ⟨rfl, rfl⟩ := Prod.mk.inj (Option.some.inj h)
      refine ⟨heff', ?_⟩
      rcases out with e | res
      · rcases afterAttempt_error ch n e with he | he <;> simp only [PurchaseInv, he]
        · exact fun _ h => nomatch h
        · exact ⟨hcode, trivial⟩
      · exact ⟨hcode ▸ (hout res rfl).1, (hout res rfl).2⟩
  -- The cleanup writes C2, then deletes the checkout rows; the commit stays.
  | removeUserCode ch res | removeCode ch res =>
    obtain ⟨rfl, rfl⟩ := Prod.mk.inj (Option.some.inj h)
    exact ⟨.inl (.ite ok (.setCache _ _)),
      Committed.mono (Quiet.grows (Quiet.ite ok (Quiet.setCache _ _))) hp.1, hp.2⟩
  | deleteCheckout ch res =>
    obtain ⟨rfl, rfl⟩ := Prod.mk.inj (Option.some.inj h)
    have hq := Quiet.ite (s := s) ok (.setDb (Db.deleteCheckout_store code))
    exact ⟨.inl hq, fun _ hr => by cases hr; exact ⟨Committed.mono hq.grows hp.1, hp.2⟩⟩
  -- `ReleaseLock`, and the return ends the request's open transactions.
  | release out =>
    obtain ⟨rfl, rfl⟩ := Prod.mk.inj (Option.some.inj h)
    have hq := (Quiet.ite (s := s) ok (.setCache _ (s.cache.releaseLock code))).endRequest pid
    exact ⟨.inl hq, fun r hr => ⟨Committed.mono hq.grows (hp r hr).1, (hp r hr).2⟩⟩
  | done out => cases h

end Purchase

/-! ### One step of a checkout -/

section Checkout

variable {s s' : Shared} {ok : Bool} {fresh : Nat}

/-- A checkout never touches the committed store; it adds to the filter only an item
    it found sold there. -/
theorem CheckoutProc.step_inv {p p' : CheckoutProc}
    (hp : p.pc = .addSoldToBloom → s.db.store.IsSold p.itemId)
    (h : p.step s ok fresh = some (s', p')) :
    Quiet s s' ∧ (p'.pc = .addSoldToBloom → s'.db.store.IsSold p'.itemId) := by
  obtain ⟨u, i, pc⟩ := p
  cases pc with
  -- `GetItemByID`: the handler goes on to `AddItemToBloomFilter` only with a sold row.
  | getItem sale =>
    simp only [step] at h
    split at h
    · obtain ⟨rfl, rfl⟩ := Prod.mk.inj (Option.some.inj h); exact ⟨.refl s, fun h => nomatch h⟩
    split at h
    · obtain ⟨rfl, rfl⟩ := Prod.mk.inj (Option.some.inj h); exact ⟨.refl s, fun h => nomatch h⟩
    · next item hitem =>
      rw [Store.getItemByID, Table.find_eq_some] at hitem
      split_ifs at h with h₁ h₂ <;> obtain ⟨rfl, rfl⟩ := Prod.mk.inj (Option.some.inj h)
      · exact ⟨.refl s, fun h => nomatch h⟩
      · exact ⟨.refl s, fun _ => ⟨item, hitem.1, hitem.2, h₂⟩⟩
      · exact ⟨.refl s, fun h => nomatch h⟩
  | addSoldToBloom =>
    obtain ⟨rfl, rfl⟩ := Prod.mk.inj (Option.some.inj h)
    -- `AddItemToBloomFilter` of the item `GetItemByID` found sold.
    exact ⟨.ite ok (.addToBloom (.inr (hp rfl))), fun h => nomatch h⟩
  | create sale code =>
    simp only [step] at h
    split at h
    · obtain ⟨rfl, rfl⟩ := Prod.mk.inj (Option.some.inj h); exact ⟨.refl s, fun h => nomatch h⟩
    split at h
    · obtain ⟨rfl, rfl⟩ := Prod.mk.inj (Option.some.inj h); exact ⟨.refl s, fun h => nomatch h⟩
    · next db hdb =>
      obtain ⟨rfl, rfl⟩ := Prod.mk.inj (Option.some.inj h)
      split at hdb
      -- `CreateCheckout` writes only the checkout tables.
      · exact ⟨.setDb (Db.createCheckout_store hdb), fun h => nomatch h⟩
      · cases hdb
  | addItemInsert sale code checkout aid =>
    simp only [step] at h
    split at h
    · obtain ⟨rfl, rfl⟩ := Prod.mk.inj (Option.some.inj h); exact ⟨.refl s, fun h => nomatch h⟩
    · next db hdb =>
      obtain ⟨rfl, rfl⟩ := Prod.mk.inj (Option.some.inj h)
      split at hdb
      -- So does `AddItemToCheckout`.
      · exact ⟨.setDb (Db.insertCheckoutItem_store hdb), fun h => nomatch h⟩
      · cases hdb
  | setUserCode _ _ | setCode _ _ | incrementCount _ _ _ | addChecked _ _ _ =>
    obtain ⟨rfl, rfl⟩ := Prod.mk.inj (Option.some.inj h)
    -- The C2 writes of the handler.
    exact ⟨.ite ok (.setCache _ _), fun h => nomatch h⟩
  | done out => cases h
  | _ =>
    simp only [step] at h
    repeat' split at h
    all_goals obtain ⟨rfl, rfl⟩ := Prod.mk.inj (Option.some.inj h)
    -- The reads change nothing.
    all_goals exact ⟨.refl s, fun h => nomatch h⟩

end Checkout

/-! ### One step of a sale creator -/

section Create

variable {s s' : Shared} {ok : Bool} {fresh : Nat}

/-- A creator's step leaves the store alone, or runs `CreateSale` of the sale its
    next point names, or runs `CreateItems` of the sale its point names. -/
theorem CreateProc.step_cases {p p' : CreateProc} (h : p.step s ok fresh = some (s', p')) :
    (s' = s ∧ (Proc.create p').pendingSale = none ∧ ∀ sale, p'.pc = .createSale sale → sale.itemsSold = 0) ∨
    (∃ sale st, p.pc = .createSale sale ∧ s.db.store.createSale sale = some st ∧
      s' = s.setDb { s.db with store := st } ∧ p'.pc = .createItems sale) ∨
    (∃ sale st, p.pc = .createItems sale ∧ s.db.store.createItems (newItems sale fresh) = some st ∧
      s' = s.setDb { s.db with store := st } ∧ p'.pc = .done true) := by
  obtain ⟨creator, pc⟩ := p
  cases pc with
  | getActiveSale =>
    simp only [step] at h
    cases creator with
    -- The scheduler goes on to `CreateSale` with a fresh sale, or stops.
    | scheduler =>
      split_ifs at h <;> obtain ⟨rfl, rfl⟩ := Prod.mk.inj (Option.some.inj h) <;>
        exact .inl ⟨rfl, rfl, fun _ h => by cases h <;> rfl⟩
    -- The admin request goes on only with a validated window.
    | admin req =>
      simp only at h
      split at h
      · obtain ⟨rfl, rfl⟩ := Prod.mk.inj (Option.some.inj h)
        exact .inl ⟨rfl, rfl, fun _ h => nomatch h⟩
      · split_ifs at h <;> obtain ⟨rfl, rfl⟩ := Prod.mk.inj (Option.some.inj h) <;>
          exact .inl ⟨rfl, rfl, fun _ h => by cases h <;> rfl⟩
  -- `CreateSale` of the sale the point names, then `CreateItems` of it.
  | createSale sale =>
    simp only [step] at h
    split at h <;> obtain ⟨rfl, rfl⟩ := Prod.mk.inj (Option.some.inj h)
    · exact .inl ⟨rfl, rfl, fun _ h => nomatch h⟩
    · next st hst =>
      split at hst
      · exact .inr (.inl ⟨sale, st, rfl, hst, rfl, rfl⟩)
      · cases hst
  -- `CreateItems` of the pending sale, and the creator returns.
  | createItems sale =>
    simp only [step] at h
    split at h <;> obtain ⟨rfl, rfl⟩ := Prod.mk.inj (Option.some.inj h)
    · exact .inl ⟨rfl, rfl, fun _ h => nomatch h⟩
    · next st hst =>
      split at hst
      · exact .inr (.inr ⟨sale, st, rfl, hst, rfl, rfl⟩)
      · cases hst
  | done _ => cases h

end Create

/-! ### The pending creators -/

section Pending

variable {s s' : Shared} {procs procs' : List Proc}

private theorem getElem?_set_of_some {l : List Proc} {i j : Nat} {a b : Proc} (h : l[i]? = some a) :
    (l.set i b)[j]? = if i = j then some b else l[j]? := by
  rw [List.getElem?_set']
  split
  · subst j; simp [h]
  · rfl

theorem pendingAt_set {pid : Nat} {p q : Proc} (h : procs[pid]? = some p) (i : Nat) :
    pendingAt (procs.set pid q) i = if pid = i then q.pendingSale else pendingAt procs i := by
  unfold pendingAt
  rw [getElem?_set_of_some h]
  split <;> rfl

/-- Setting a process to one that is not pending only removes a pending creator. -/
theorem pendingAt_set_of_none {pid : Nat} {p q : Proc} (h : procs[pid]? = some p)
    (hq : q.pendingSale = none) {i : Nat} {a : Sale} (ha : pendingAt (procs.set pid q) i = some a) :
    pendingAt procs i = some a ∧ pid ≠ i := by
  rw [pendingAt_set h] at ha
  split at ha
  · rw [hq] at ha; cases ha
  · exact ⟨ha, ‹_›⟩

theorem pendingAt_append {q : Proc} (hq : q.pendingSale = none) (i : Nat) :
    pendingAt (procs ++ [q]) i = pendingAt procs i := by
  unfold pendingAt
  rcases Nat.lt_or_ge i procs.length with hi | hi
  · rw [List.getElem?_append_left hi]
  · rw [List.getElem?_append_right hi, List.getElem?_eq_none hi]
    cases i - procs.length <;> simp [hq]

/-- Pending creators may only finish, while the rows and item counts of their sales stay. -/
theorem PendingInv.of_sub (hp : PendingInv s procs)
    (hsub : ∀ i a, pendingAt procs' i = some a → pendingAt procs i = some a)
    (hfix : s'.db.store.sales.rows.map Sale.fixed = s.db.store.sales.rows.map Sale.fixed)
    (hcount : ∀ i a, pendingAt procs' i = some a →
      s'.db.store.itemCount a.id = s.db.store.itemCount a.id) :
    PendingInv s' procs' where
  unique i j a b ha hb := hp.unique i j a b (hsub i a ha) (hsub j b hb)
  fresh i a ha := by
    rw [hfix, hcount i a ha]
    exact hp.fresh i a (hsub i a ha)

/-- `CreateSale` makes its creator pending on a sale id that no row had, so on no
    other creator's sale. -/
theorem PendingInv.createSale (hp : PendingInv s procs) (hs : StoreInv s) {pid : Nat} {sale : Sale}
    {st : Store} (h : s.db.store.createSale sale = some st) (hnew : pendingAt procs' pid = some sale)
    (hother : ∀ i, i ≠ pid → pendingAt procs' i = pendingAt procs i) :
    PendingInv (s.setDb { s.db with store := st }) procs' := by
  obtain ⟨hsales, hfresh, hitems, -⟩ := Store.createSale_eq_some h
  have hic : ∀ id, st.itemCount id = s.db.store.itemCount id := by simp [Store.itemCount, hitems]
  have hold : ∀ i a, i ≠ pid → pendingAt procs' i = some a → a.id ≠ sale.id := by
    intro i a hi ha he
    obtain ⟨x, hx, hfix⟩ := List.mem_map.1 (hp.fresh i a ((hother i hi).symm ▸ ha)).1
    exact hfresh x hx ((congrArg Prod.fst hfix).trans he)
  refine ⟨fun i j a b ha hb he => ?_, fun i a ha => ?_⟩
  -- Two pending creators with the same sale id: the new one has an id no row had.
  · by_cases hi : i = pid <;> by_cases hj : j = pid
    · rw [hi, hj]
    · subst hi; rw [hnew] at ha; cases ha; exact absurd he.symm (hold j b hj hb)
    · subst hj; rw [hnew] at hb; cases hb; exact absurd he (hold i a hi ha)
    · exact hp.unique i j a b ((hother i hi) ▸ ha) ((hother j hj) ▸ hb) he
  -- The new sale's row is the appended one, and it has no items.
  · simp only [Shared.setDb_db, hsales, List.map_append, List.mem_append, hic]
    by_cases hi : i = pid
    · subst hi; rw [hnew] at ha; cases ha
      exact ⟨.inr (List.mem_singleton_self _), Store.itemCount_eq_zero hs.fk hfresh⟩
    · obtain ⟨h₁, h₂⟩ := hp.fresh i a ((hother i hi) ▸ ha)
      exact ⟨.inl h₁, h₂⟩

end Pending

/-! ### One step of the world -/

/-- What a step did to the committed store: nothing, a commit by the stepping purchase
    of a checkout of its own code, or `CreateSale` or `CreateItems` by the stepping
    creator. -/
def StoreStep (w : World) (e : Event) (w' : World) : Prop :=
  Quiet w.shared w'.shared ∨
  (∃ pid ok fresh p ch, e = .step pid ok fresh ∧ w.procs[pid]? = some (.purchase p) ∧
    ch.code = p.code ∧ Commits w.shared w'.shared pid ch) ∨
  (∃ pid ok fresh c, e = .step pid ok fresh ∧ w.procs[pid]? = some (.create c) ∧
    ((∃ sale st, w.shared.db.store.createSale sale = some st ∧
      w'.shared = w.shared.setDb { w.shared.db with store := st }) ∨
    (∃ sale st, w.shared.db.store.createItems (newItems sale fresh) = some st ∧
      w'.shared = w.shared.setDb { w.shared.db with store := st })))

section World

variable {w w' : World}

theorem ProcInv.start (s : Shared) (pid : Nat) : ∀ r : Request, ProcInv s pid r.start
  | .checkout _ _ => fun h => nomatch h
  | .purchase _ => trivial
  | .schedule | .createSale _ => fun _ h => nomatch h

theorem pendingSale_start (r : Request) : r.start.pendingSale = none := by
  cases r <;> rfl

/-- A step of a world whose processes are unchanged. -/
theorem Inv.of_quiet (hi : Inv w) {s' : Shared} (hq : Quiet w.shared s') : Inv ⟨s', w.procs⟩ :=
  ⟨hi.store.of_quiet hq, hi.pending.of_sub (fun _ _ h => h) (by rw [hq.store]) (by simp [hq.store]),
    fun pid p hp => (hi.procs pid p hp).mono hq.grows⟩

/-- Process `pid` stepped from `p` to `q`: the other processes keep their invariant
    under a change that only grows the history. -/
theorem Inv.set (hi : Inv w) {s' : Shared} {pid : Nat} {p q : Proc} (hp : w.procs[pid]? = some p)
    (hs : StoreInv s') (hg : Grows w.shared s') (hq : ProcInv s' pid q)
    (hpend : PendingInv s' (w.procs.set pid q)) : Inv ⟨s', w.procs.set pid q⟩ := by
  refine ⟨hs, hpend, fun j r hr => ?_⟩
  simp only [getElem?_set_of_some hp] at hr
  split at hr
  · cases hr; subst j; exact hq
  · exact (hi.procs j r hr).mono hg

/-- The pending creators are unchanged when a process that is not one steps to a
    point that is not one, and the store keeps its sales and item counts. -/
theorem Inv.pending_set (hi : Inv w) {s' : Shared} {pid : Nat} {p q : Proc}
    (hp : w.procs[pid]? = some p) (hq : q.pendingSale = none)
    (hfix : s'.db.store.sales.rows.map Sale.fixed = w.shared.db.store.sales.rows.map Sale.fixed)
    (hcount : ∀ id, s'.db.store.itemCount id = w.shared.db.store.itemCount id) :
    PendingInv s' (w.procs.set pid q) :=
  hi.pending.of_sub (fun _ _ ha => (pendingAt_set_of_none hp hq ha).1) hfix fun _ a _ => hcount a.id

/-- A step keeps the invariant, and is one of the four kinds of `StoreStep`. -/
theorem Inv.step {e : Event} (hi : Inv w) (h : w.step e = some w') : Inv w' ∧ StoreStep w e w' := by
  cases e with
  -- A new request starts at a point whose invariant holds, and is not pending.
  | request r =>
    obtain rfl := Option.some.inj h
    refine ⟨⟨hi.store, hi.pending.of_sub (fun i a ha => ?_) rfl fun _ _ _ => rfl, fun pid p hp => ?_⟩,
      .inl (.refl _)⟩
    · rwa [pendingAt_append (pendingSale_start r)] at ha
    · rcases World.procs_request hp with hp | rfl
      exacts [hi.procs pid p hp, ProcInv.start _ _ r]
  | tick d =>
    obtain rfl := Option.some.inj h
    -- A tick moves only the clock.
    have hq : Quiet w.shared { w.shared with clock := w.shared.clock + d } :=
      ⟨rfl, rfl, fun _ h => h, fun _ h => .inl h⟩
    exact ⟨hi.of_quiet hq, .inl hq⟩
  | expire k =>
    obtain rfl := Option.some.inj h
    -- An expiry writes only C2.
    exact ⟨hi.of_quiet (.setCache _ _), .inl (.setCache _ _)⟩
  | step pid ok fresh =>
    obtain ⟨p, s', q, hp, hstep, rfl⟩ := World.step_step h
    -- A process step: the stepping process's invariant and its step lemma.
    have hpi := hi.procs pid p hp
    cases p with
    | checkout c =>
      obtain ⟨⟨s₁, c'⟩, hc, ⟨⟩⟩ := Option.map_eq_some'.1 hstep
      obtain ⟨hq, hinv⟩ := CheckoutProc.step_inv hpi hc
      exact ⟨hi.set hp (hi.store.of_quiet hq) hq.grows hinv
        (hi.pending_set hp rfl (by rw [hq.store]) (by simp [hq.store])), .inl hq⟩
    | purchase c =>
      obtain ⟨⟨s₁, c'⟩, hc, ⟨⟩⟩ := Option.map_eq_some'.1 hstep
      -- A purchase step is quiet or commits a purchase of its own code.
      obtain ⟨heff, hinv⟩ := PurchaseProc.step_inv hpi hc
      rcases heff with hq | ⟨ch, hcode, hcom⟩
      · exact ⟨hi.set hp (hi.store.of_quiet hq) hq.grows hinv
          (hi.pending_set hp rfl (by rw [hq.store]) (by simp [hq.store])), .inl hq⟩
      -- The commit keeps `StoreInv`, the sales' fixed columns and the item counts.
      · obtain ⟨tx, sale, items, succ, hm, hsale, hb, rfl⟩ := hcom
        refine ⟨hi.set hp (hi.store.commit hm hsale hb) (Grows.commit hb) hinv
          (hi.pending_set hp rfl ?_ ?_), .inr (.inl ⟨pid, ok, fresh, c, ch, rfl, hp, hcode, tx, sale,
            items, succ, hm, hsale, hb, rfl⟩)⟩
        · simp only [Shared.commitPurchase, hb]; exact Store.purchased_fixed hsale.1
        · simp [Shared.commitPurchase, hb]
    | create c =>
      obtain ⟨⟨s₁, c'⟩, hc, ⟨⟩⟩ := Option.map_eq_some'.1 hstep
      -- A creator's step leaves the store alone, creates the sale, or creates its items.
      rcases CreateProc.step_cases hc with ⟨rfl, hnone, hinv⟩ | ⟨sale, st, hpc, hst, rfl, hpc'⟩ |
        ⟨sale, st, hpc, hst, rfl, hpc'⟩
      · exact ⟨hi.set hp hi.store ⟨fun _ h _ => h, fun _ h => h, fun _ h => h⟩ hinv
          (hi.pending.of_sub (fun _ _ ha => (pendingAt_set_of_none hp hnone ha).1) rfl
            fun _ _ _ => rfl), .inl (.refl _)⟩
      -- `CreateSale`: the creator becomes pending on the new sale.
      · have h0 : sale.itemsSold = 0 := hpi sale hpc
        have hnew : pendingAt (w.procs.set pid (.create c')) pid = some sale := by
          rw [pendingAt_set hp, if_pos rfl]
          obtain ⟨cr, pc⟩ := c'
          subst hpc'; rfl
        refine ⟨hi.set hp (hi.store.createSale hst h0) (Grows.createSale hst) (fun _ h => ?_)
          (hi.pending.createSale hi.store hst hnew fun i hi' => ?_),
          .inr (.inr ⟨pid, ok, fresh, c, rfl, hp, .inl ⟨sale, st, hst, rfl⟩⟩)⟩
        · rw [hpc'] at h; cases h
        · rw [pendingAt_set hp, if_neg (Ne.symm hi')]
      -- `CreateItems`: the creator was pending on the sale, which had no items; the
      -- other pending sales keep their item counts.
      · have hpend : pendingAt w.procs pid = some sale := by
          simp only [pendingAt, hp, Option.some_bind]
          obtain ⟨cr, pc⟩ := c; subst hpc; rfl
        obtain ⟨hfix, h0⟩ := hi.pending.fresh pid sale hpend
        obtain ⟨hitems, -, hsales, -⟩ := Store.createItems_eq_some hst
        have hnone : (Proc.create c').pendingSale = none := by
          obtain ⟨cr, pc⟩ := c'; subst hpc'; rfl
        refine ⟨hi.set hp (hi.store.createItems hst hfix h0) (Grows.createItems hst)
          (fun _ h => by rw [hpc'] at h; cases h)
          (hi.pending.of_sub (fun _ _ ha => (pendingAt_set_of_none hp hnone ha).1)
            (by simp [hsales]) fun i a ha => ?_), .inr (.inr ⟨pid, ok, fresh, c, rfl, hp,
              .inr ⟨sale, st, hst, rfl⟩⟩)⟩
        obtain ⟨ha, hne⟩ := pendingAt_set_of_none hp hnone ha
        have hid : a.id ≠ sale.id := fun he => hne (hi.pending.unique _ _ _ _ hpend ha he.symm)
        simp only [Shared.setDb_db, Store.itemCount, hitems, List.countP_append]
        rw [(List.countP_eq_zero (l := newItems sale _)).2 fun x hx => by
          simp [(mem_newItems hx).1, Ne.symm hid], Nat.add_zero]

/-- Every kind of step keeps the sold rows and grows the history. -/
theorem StoreStep.grows {e : Event} (h : StoreStep w e w') : Grows w.shared w'.shared := by
  rcases h with hq | ⟨_, _, _, _, _, _, _, _, tx, sale, items, succ, _, _, hb, he⟩ |
    ⟨_, _, _, _, _, _, ⟨sale, st, hst, he⟩ | ⟨sale, st, hst, he⟩⟩
  · exact hq.grows
  · rw [he]; exact Grows.commit hb
  · rw [he]; exact Grows.createSale hst
  · rw [he]; exact Grows.createItems hst

/-- The invariant holds in the initial world. -/
theorem inv_init (bf : RedisBloomFilter ItemId) : Inv (World.init bf) where
  store := ⟨by simp [World.init, Shared.init, Db.empty, Store.empty],
    by simp [World.init, Shared.init], by simp [World.init, Shared.init, Db.empty, Store.empty],
    by simp [World.init, Shared.init], by simp [World.init, Shared.init, Db.empty, Store.empty],
    by simp [World.init, Shared.init], by simp [World.init, Shared.init, Db.empty, Store.empty],
    by simp [World.init, Shared.init], by simp [World.init, Shared.init, Db.empty, Store.empty]⟩
  pending := ⟨by simp [World.init, pendingAt], by simp [World.init, pendingAt]⟩
  procs := by simp [World.init]

/-- Every reachable world satisfies the invariant. -/
theorem reachable_inv {bf : RedisBloomFilter ItemId} {w : World} (hw : Reachable bf w) : Inv w := by
  induction hw with
  | init => exact inv_init bf
  | step e _ h ih => exact (ih.step h).1

/-- Every step of a reachable world is one of the four kinds of `StoreStep`. -/
theorem reachable_storeStep {bf : RedisBloomFilter ItemId} {w w' : World} {e : Event}
    (hw : Reachable bf w) (h : w.step e = some w') : StoreStep w e w' :=
  ((reachable_inv hw).step h).2

end World

end FlashSale
