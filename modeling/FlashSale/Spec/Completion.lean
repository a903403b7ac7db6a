import FlashSale.Spec.Lock

/-!
# A purchase that runs alone completes

`requests_return` says that every `ExecutePurchase` returns. This module says what it
returns when nothing gets in its way: process `pid` runs `ExecutePurchase(code)` with no
other event between its steps, and every call it makes succeeds. If the checkout of the
code is in C1, its lock is free, the counters leave room for its items, no result is
saved for the code, its sale exists, `ValidatePurchase` accepts the items read, one of
them is unsold, and the filter reports no item of the checkout before the item's own
offsets are set, then the first attempt commits. The committed store is the store the
call started from with each unsold item marked once, the sale row updated and the
result saved; the counters grow by the number of items sold; the call removes the
checkout, releases its lock and returns the result it saved.

The run is cut at the loops of `attemptPurchase`, and each loop gets a lemma by
induction over what it has left: `LogCheckoutAttempt` writes only the checkout tables,
the `GetItemByID` loop collects the rows of the ids it finds, and the marking loop marks
each unsold item once, skipping by the filter the ids it has seen. The straight-line
code between them is evaluated call by call.

## Key results

- `PurchaseProc.RunsAlone.world`: a run of one purchase alone is a run of the world.
- `runs_log`, `runs_getItems`, `runs_marking`: the three loops of `attemptPurchase`.
- `runs_start`, `runs_begin`, `runs_commit`: the straight-line code around them.
- `purchase_alone_commits`: the whole call, from its start to its return.
-/

namespace FlashSale

/-! ### Running one purchase alone -/

namespace PurchaseProc

/-- A step of `ExecutePurchase` for process `pid` whose call succeeds and draws nothing. -/
def StepOk (pid : Nat) (x y : Shared × PurchaseProc) : Prop := x.2.step x.1 pid true 0 = some y

/-- Process `pid` runs alone: steps of its own whose calls all succeed, with no other
    event between them. -/
def RunsAlone (pid : Nat) : Shared × PurchaseProc → Shared × PurchaseProc → Prop :=
  Relation.ReflTransGen (StepOk pid)

/-- The first `k` steps of process `pid` alone, `none` if it returns before. -/
def runOk (pid : Nat) : Nat → Shared × PurchaseProc → Option (Shared × PurchaseProc)
  | 0, x => some x
  | k + 1, x => (x.2.step x.1 pid true 0).bind (runOk pid k)

/-- Straight-line code is run alone by evaluating its steps. -/
theorem RunsAlone.of_runOk {pid : Nat} :
    ∀ (k : Nat) {x y : Shared × PurchaseProc}, runOk pid k x = some y → RunsAlone pid x y
  | 0, _, _, h => by cases h; exact .refl
  | k + 1, _, _, h => by
    obtain ⟨z, hz, h⟩ := Option.bind_eq_some.1 h
    exact .head hz (of_runOk k h)

end PurchaseProc

open PurchaseProc

/-- Writing back the element a list holds changes nothing. -/
theorem set_of_getElem?_eq {α : Type} {l : List α} {i : Nat} {a : α} (h : l[i]? = some a) :
    l.set i a = l :=
  List.ext_getElem? fun j => by
    rcases eq_or_ne i j with rfl | hne
    · rw [List.getElem?_set_self (List.getElem?_eq_some_iff.1 h).1, h]
    · rw [List.getElem?_set_ne hne]

/-- A step of a purchase alone is a step event of the world. -/
theorem World.step_of_stepOk {pid : Nat} {x y : Shared × PurchaseProc} (h : StepOk pid x y)
    {procs : List Proc} (hp : procs[pid]? = some (.purchase x.2)) :
    World.step ⟨x.1, procs⟩ (.step pid true 0) = some ⟨y.1, procs.set pid (.purchase y.2)⟩ := by
  simp only [World.step, hp, Option.bind_eq_bind, Option.some_bind, Proc.step]
  rw [show x.2.step x.1 pid true 0 = some y from h]
  rfl

/-- A run of one purchase alone is a run of the world: its events are the process's
    steps, and the other processes keep their places. -/
theorem PurchaseProc.RunsAlone.world {pid : Nat} {x y : Shared × PurchaseProc}
    (h : RunsAlone pid x y) {procs : List Proc} (hp : procs[pid]? = some (.purchase x.2)) :
    ∃ n, World.run ⟨x.1, procs⟩ (Event.steps pid n) =
      some ⟨y.1, procs.set pid (.purchase y.2)⟩ := by
  induction h using Relation.ReflTransGen.head_induction_on generalizing procs with
  | refl => exact ⟨0, by rw [set_of_getElem?_eq hp]; rfl⟩
  | head hxy _ ih =>
    -- The first step is a world step; the rest runs from the process's new place.
    obtain ⟨n, hn⟩ := ih (List.getElem?_set_self (List.getElem?_eq_some_iff.1 hp).1)
    refine ⟨n + 1, ?_⟩
    rw [List.set_set] at hn
    rw [Event.steps, List.replicate_succ, World.run, World.step_of_stepOk hxy hp, Option.some_bind]
    exact hn

/-! ### The calls before the retry loop -/

section Phases

variable {pid : Nat} {code : Code} {s s' : Shared}

/-- `SetCheckoutCode` of a cached code changes nothing. -/
theorem Cache.setCheckoutCode_of_exists {c : Cache} (h : c.checkoutCodeExists code = true) :
    c.setCheckoutCode code = c := by
  refine congrArg (fun f => { c with checkoutCode := f }) (funext fun x => ?_)
  by_cases hx : x = code
  · subst hx; simpa [Cache.set1] using h.symm
  · simp [Cache.set1, hx]

/-- `CheckoutCodeExists`, the two queries of `GetCheckoutByCode`, `SetCheckoutCode` when the
    cache had lost the code, and `DistributedLock` on a free key: the first attempt starts,
    with the code cached and locked. -/
theorem runs_start {row : CheckoutAttempt} (h : s.db.getCheckoutAttempt code = some row)
    (hlock : s.cache.lock code = false) :
    RunsAlone pid (s, ⟨code, .codeExists⟩)
      (s.setCache { s.cache.setCheckoutCode code with lock := Cache.set1 s.cache.lock code true },
        ⟨code, .attempt (checkoutOfRow row (s.db.getCheckoutItemIds code)) 0
          (.log (s.db.getCheckoutItemIds code))⟩) := by
  cases hc : s.cache.checkoutCodeExists code
  -- The cache lost the code: `SetCheckoutCode` restores it, one call more.
  · refine .of_runOk 5 ?_
    iterate 5
      rw [runOk]
      dsimp only [PurchaseProc.step, Option.bind, Cache.distributedLock, Shared.setCache_cache,
        Cache.setCheckoutCode]
      try simp only [hc, h, hlock, Bool.not_true, Bool.false_eq_true, ↓reduceIte]
    rfl
  -- The code is cached: straight to the checkout queries and the lock.
  · rw [Cache.setCheckoutCode_of_exists hc]
    refine .of_runOk 4 ?_
    iterate 4
      rw [runOk]
      dsimp only [PurchaseProc.step, Option.bind, Cache.distributedLock]
      try simp only [hc, h, hlock, Bool.not_true, Bool.false_eq_true, ↓reduceIte]
    rfl

variable {ch : Checkout} {n : Nat}

/-- A step of `attemptPurchase` that does not return is a step of `ExecutePurchase`. -/
theorem stepOk_attempt {a a' : AttemptPc} (h : attemptStep s pid ch true 0 a = (s', .inl a')) :
    StepOk pid (s, ⟨code, .attempt ch n a⟩) (s', ⟨code, .attempt ch n a'⟩) := by
  simp [StepOk, PurchaseProc.step, h]

variable (pid code ch n) in
/-- The `LogCheckoutAttempt` loop writes only the checkout tables; a failed insert is
    ignored. -/
theorem runs_log (rest : List ItemId) : ∀ s : Shared, ∃ db : Db,
    RunsAlone pid (s, ⟨code, .attempt ch n (.log rest)⟩)
      (s.setDb { db with store := s.db.store }, ⟨code, .attempt ch n (.log [])⟩) := by
  induction rest with
  | nil => exact fun s => ⟨s.db, .refl⟩
  | cons id rest ih =>
    intro s
    -- A failed insert changes nothing; a successful one writes only the checkout tables.
    cases hdb : s.db.logCheckoutAttempt ch.saleId ch.userId ch.code id 0 s.clock with
    | none =>
      obtain ⟨db, hrun⟩ := ih s
      exact ⟨db, .head (stepOk_attempt (by simp [attemptStep, hdb])) hrun⟩
    | some db₁ =>
      obtain ⟨db, hrun⟩ := ih (s.setDb db₁)
      rw [Shared.setDb_db, Db.logCheckoutAttempt_store hdb] at hrun
      exact ⟨db, .head (stepOk_attempt (by simp [attemptStep, hdb])) hrun⟩

/-- The two counter reads and the advisory limit checks pass when the counters leave room
    for the checkout's items; `BeginTx` then takes the committed store as the snapshot. -/
theorem runs_begin
    (hsale : s.cache.getSaleItemCount ch.saleId + ch.itemIds.length ≤ (maxItemsPerSale : Int))
    (huser : s.cache.getUserItemCount ch.saleId ch.userId + ch.itemIds.length ≤
      (maxItemsPerUser : Int)) :
    RunsAlone pid (s, ⟨code, .attempt ch n (.log [])⟩)
      (s, ⟨code, .attempt ch n (.probe ⟨s.db.store, s.db.store, s.clock⟩)⟩) :=
  .of_runOk 4 <| by
    iterate 4
      rw [runOk]
      dsimp only [PurchaseProc.step, attemptStep, Option.bind]
      try simp only [↓reduceIte, not_lt.2 hsale, not_lt.2 huser]
    rfl

/-- `GetPurchaseResult` finds no result and `GetSaleByID` finds the sale: the `GetItemByID`
    loop starts over the checkout's ids. -/
theorem runs_getSale {tx : Tx} {sale : Sale} (hres : tx.view.getPurchaseResult ch.code = none)
    (hsale : tx.view.getSaleByID ch.saleId = some sale) :
    RunsAlone pid (s, ⟨code, .attempt ch n (.probe tx)⟩)
      (s, ⟨code, .attempt ch n (.getItems tx sale ch.itemIds [])⟩) :=
  .of_runOk 2 <| by
    iterate 2
      rw [runOk]
      dsimp only [PurchaseProc.step, attemptStep, Option.bind]
      try simp only [Bool.not_true, Bool.false_eq_true, ↓reduceIte, hres, hsale]
    rfl

/-- The `GetItemByID` loop appends the rows of the ids it finds, in order. -/
theorem runs_getItems {tx : Tx} {sale : Sale} (rest : List ItemId) :
    ∀ items : List Item, RunsAlone pid (s, ⟨code, .attempt ch n (.getItems tx sale rest items)⟩)
      (s, ⟨code, .attempt ch n
        (.getItems tx sale [] (items ++ rest.filterMap tx.view.getItemByID))⟩) := by
  induction rest with
  | nil => exact fun items => by simpa using .refl
  | cons id rest ih =>
    intro items
    -- An id without a row is skipped; a row found is appended.
    cases hi : tx.view.getItemByID id with
    | none =>
      rw [List.filterMap_cons_none hi]
      exact .head (stepOk_attempt (by simp [attemptStep, hi])) (ih items)
    | some item =>
      rw [List.filterMap_cons_some hi, List.append_cons]
      exact .head (stepOk_attempt (by simp [attemptStep, hi])) (ih (items ++ [item]))

/-- The end of the `GetItemByID` loop: items were found and `ValidatePurchase` accepts
    them; the marking loop starts. -/
theorem stepOk_validate {tx : Tx} {sale : Sale} {items : List Item} (hne : items ≠ [])
    (hv : purchaseSvc.validatePurchase sale 0 items s.clock = .ok ()) :
    StepOk pid (s, ⟨code, .attempt ch n (.getItems tx sale [] items)⟩)
      (s, ⟨code, .attempt ch n (.bloomCheck tx sale items items [])⟩) :=
  stepOk_attempt (by simp [attemptStep, hne, hv])

end Phases

/-! ### The marking loop -/

/-- `succ` lists each id of an unsold item of `items`, once. -/
def UnsoldIds (items : List Item) (succ : List ItemId) : Prop :=
  succ.Nodup ∧ ∀ x, x ∈ succ ↔ ∃ i ∈ items, i.id = x ∧ i.sold = false

namespace UnsoldIds

variable {done : List Item} {succ : List ItemId} {i : Item}

theorem nil : UnsoldIds [] [] := ⟨List.nodup_nil, by simp⟩

/-- A sold item adds no id. -/
theorem sold (hs : UnsoldIds done succ) (hi : i.sold = true) : UnsoldIds (done ++ [i]) succ :=
  ⟨hs.1, fun x => by simp [hs.2 x, or_and_right, exists_or, hi]⟩

/-- An item seen before adds no id: it is the row seen before. -/
theorem seen (hs : UnsoldIds done succ) (hsame : ∀ j ∈ done, j.id = i.id → j = i)
    (hi : i.id ∈ done.map Item.id) : UnsoldIds (done ++ [i]) succ := by
  refine ⟨hs.1, fun x => ?_⟩
  simp only [hs.2 x, List.mem_append, List.mem_singleton, or_and_right, exists_or, exists_eq_left]
  -- The new item is the row seen before, so it is unsold only if that row was.
  refine ⟨.inl, fun h => h.elim id fun ⟨hx, hu⟩ => ?_⟩
  obtain ⟨j, hj, hji⟩ := List.mem_map.1 hi
  exact ⟨j, hj, hji.trans hx, hsame j hj hji ▸ hu⟩

/-- A new unsold item adds its id. -/
theorem unsold (hs : UnsoldIds done succ) (hnew : i.id ∉ done.map Item.id) (hi : i.sold = false) :
    UnsoldIds (done ++ [i]) (succ ++ [i.id]) := by
  -- The id is new, so it is not among the marks yet.
  have hx : i.id ∉ succ := fun h => by
    obtain ⟨j, hj, hji, -⟩ := (hs.2 _).1 h
    exact hnew (hji ▸ List.mem_map_of_mem _ hj)
  refine ⟨List.nodup_append.2 ⟨hs.1, List.nodup_singleton _, by simpa using hx⟩, fun x => ?_⟩
  simp only [List.mem_append, List.mem_singleton, hs.2 x, or_and_right, exists_or, exists_eq_left,
    hi, and_true]
  exact or_congr_right eq_comm

/-- A new item adds its id if it is unsold. -/
theorem new (hs : UnsoldIds done succ) (hnew : i.id ∉ done.map Item.id) :
    UnsoldIds (done ++ [i]) (if i.sold then succ else succ ++ [i.id]) := by
  cases hi : i.sold
  exacts [hs.unsold hnew hi, hs.sold hi]

end UnsoldIds

/-- The mark of a row of the base on a view that marked `ids` affects the row exactly when
    it is unsold and not marked yet. -/
theorem Store.markItemAsSold_markAll_eq {s : Store} {ids : List ItemId} {u : UserId} {t : Time}
    {i : Item} (hi : s.getItemByID i.id = some i) :
    (s.markAll ids u t).markItemAsSold i.id u t =
      (s.markAll (ids ++ [i.id]) u t, !i.sold && !decide (i.id ∈ ids)) := by
  refine Prod.ext (Store.markItemAsSold_markAll _) ?_
  have hmem := (Table.find_eq_some.1 hi).1
  rw [Bool.eq_iff_iff]
  simp only [Store.markItemAsSold, Store.markAll_items, List.any_map, List.any_eq_true,
    Function.comp_apply, Store.markAllRow_id, Store.markAllRow_sold]
  -- The view's row of the id is `i` with the marks so far applied.
  constructor
  · rintro ⟨r, hr, h⟩
    obtain ⟨hid, hu⟩ : r.id = i.id ∧ (r.sold || decide (r.id ∈ ids)) = false := by simpa using h
    obtain rfl := s.items.eq_of_key_eq hr hmem hid
    simpa using hu
  · exact fun h => ⟨i, hmem, by simpa using h⟩

namespace RedisBloomFilter

variable {α : Type} (bf : RedisBloomFilter α)

theorem contains_iff {bits : List UInt64} {x : α} :
    bf.contains bits x = true ↔ ∀ b ∈ bf.bitPositions x, b ∈ bits := by
  simp [contains]

end RedisBloomFilter

/-- The shared state after the marking loop marked `succ` and added the ids `added` to the
    filter. -/
def Shared.afterMarks (s : Shared) (succ added : List ItemId) : Shared :=
  { s with
    cache := { s.cache with
      bloomBits := s.cache.bloomBits ++ added.flatMap s.cache.bloomFilter.bitPositions }
    marked := s.marked ++ succ
    bloomAdded := s.bloomAdded ++ added }

section Marking

variable {pid : Nat} {code : Code} {ch : Checkout} {n : Nat} {s : Shared} {base : Store}
  {t : Time} {sale : Sale} {items : List Item}

@[simp] theorem Shared.afterMarks_nil : s.afterMarks [] [] = s := by
  unfold Shared.afterMarks
  rw [List.flatMap_nil, List.append_nil, List.append_nil, List.append_nil]

/-- A successful `MarkItemAsSold` records one more mark. -/
@[simp] theorem Shared.afterMarks_mark {succ added : List ItemId} (x : ItemId) :
    { s.afterMarks succ added with marked := (s.afterMarks succ added).marked ++ [x] } =
      s.afterMarks (succ ++ [x]) added := by
  simp only [Shared.afterMarks, List.append_assoc]

/-- `AddItemToBloomFilter` sets the offsets of one more id. -/
@[simp] theorem Shared.afterMarks_addToBloom {succ added : List ItemId} (x : ItemId) :
    (s.afterMarks succ added).addToBloom x = s.afterMarks succ (added ++ [x]) := by
  simp only [Shared.afterMarks, Shared.addToBloom, Cache.addItemToBloomFilter, RedisBloomFilter.add,
    List.flatMap_append, List.append_assoc, List.flatMap_singleton]

/-- Whether the filter reports an item of the checkout while the loop runs: exactly when
    the loop added its id, if it reports no item before its own offsets are set. -/
theorem afterMarks_itemExists (succ : List ItemId) {added : List ItemId}
    (hbf : ∀ i ∈ items, s.cache.bloomFilter.contains (s.cache.bloomBits ++
      ((items.map Item.id).filter (· ≠ i.id)).flatMap s.cache.bloomFilter.bitPositions) i.id =
        false)
    (hadded : ∀ x ∈ added, x ∈ items.map Item.id) {i : Item} (hi : i ∈ items) :
    (s.afterMarks succ added).cache.itemExistsInBloomFilter i.id = decide (i.id ∈ added) := by
  have key : (s.afterMarks succ added).cache.itemExistsInBloomFilter i.id =
      s.cache.bloomFilter.contains (s.cache.bloomBits ++
        added.flatMap s.cache.bloomFilter.bitPositions) i.id := rfl
  rw [key]
  -- An added id has its offsets set; any other item's offsets are not all set by the
  -- other ids of the checkout.
  by_cases ha : i.id ∈ added
  · simp only [ha, decide_True, RedisBloomFilter.contains_iff]
    exact fun b hb => List.mem_append_right _ (List.mem_flatMap.2 ⟨i.id, ha, hb⟩)
  · simp only [ha, decide_False, ← Bool.not_eq_true, RedisBloomFilter.contains_iff] at hbf ⊢
    refine fun h => hbf i hi fun b hb => ?_
    rcases List.mem_append.1 (h b hb) with hb | hb
    · exact List.mem_append_left _ hb
    · obtain ⟨x, hx, hbx⟩ := List.mem_flatMap.1 hb
      exact List.mem_append_right _ (List.mem_flatMap.2
        ⟨x, List.mem_filter.2 ⟨hadded x hx, decide_eq_true fun h => ha (h ▸ hx)⟩, hbx⟩)

/-- `ItemExistsInBloomFilter` reports the item: it is skipped. -/
theorem stepOk_skip {tx : Tx} {succ : List ItemId} {i : Item} {rest : List Item}
    (hf : s.cache.itemExistsInBloomFilter i.id = true) :
    StepOk pid (s, ⟨code, .attempt ch n (.bloomCheck tx sale items (i :: rest) succ)⟩)
      (s, ⟨code, .attempt ch n (.bloomCheck tx sale items rest succ)⟩) :=
  stepOk_attempt (by simp [attemptStep, hf])

/-- An item the filter does not report, not marked yet: `MarkItemAsSold` marks it if it
    is unsold, and `AddItemToBloomFilter` adds its id on both outcomes. -/
theorem runs_markNew {succ added : List ItemId} {i : Item} {rest : List Item}
    (hrow : base.getItemByID i.id = some i) (hnot : i.id ∉ succ)
    (hf : (s.afterMarks succ added).cache.itemExistsInBloomFilter i.id = false) :
    RunsAlone pid (s.afterMarks succ added, ⟨code, .attempt ch n
        (.bloomCheck ⟨base, base.markAll succ ch.userId t, t⟩ sale items (i :: rest) succ)⟩)
      (s.afterMarks (if i.sold then succ else succ ++ [i.id]) (added ++ [i.id]),
        ⟨code, .attempt ch n
        (.bloomCheck ⟨base, base.markAll (if i.sold then succ else succ ++ [i.id]) ch.userId t, t⟩
          sale items rest (if i.sold then succ else succ ++ [i.id]))⟩) := by
  -- The filter check, `MarkItemAsSold` (which updates the row exactly when it is unsold),
  -- and `AddItemToBloomFilter`.
  refine .of_runOk 3 ?_
  cases hsold : i.sold <;>
  · iterate 3
      rw [runOk]
      dsimp only [PurchaseProc.step, attemptStep, Option.bind]
      try simp only [hf, Store.markItemAsSold_markAll_eq hrow, hsold, hnot, Bool.true_and,
        Bool.not_true, Bool.not_false, decide_False, Bool.and_self, Bool.false_eq_true,
        Bool.false_and, ↓reduceIte, Shared.afterMarks_mark, Shared.afterMarks_addToBloom]
    rfl

variable (pid code ch n s base t sale) in
/-- The marking loop of a purchase run alone, from the items `done` on. Every item read is
    the base's row of its id (`hrow`), and the filter reports no item before its own
    offsets are set, whichever other items of the checkout were added (`hbf`). The loop
    then marks each unsold item once: the ids it has seen are in the filter and skipped. -/
theorem runs_marking (hrow : ∀ i ∈ items, base.getItemByID i.id = some i)
    (hbf : ∀ i ∈ items, s.cache.bloomFilter.contains (s.cache.bloomBits ++
      ((items.map Item.id).filter (· ≠ i.id)).flatMap s.cache.bloomFilter.bitPositions) i.id =
        false) :
    ∀ (rest done : List Item) (succ added : List ItemId), done ++ rest = items →
      (∀ x, x ∈ added ↔ x ∈ done.map Item.id) → UnsoldIds done succ →
      ∃ succ' added', UnsoldIds items succ' ∧
        RunsAlone pid (s.afterMarks succ added,
            ⟨code, .attempt ch n
              (.bloomCheck ⟨base, base.markAll succ ch.userId t, t⟩ sale items rest succ)⟩)
          (s.afterMarks succ' added',
            ⟨code, .attempt ch n
              (.bloomCheck ⟨base, base.markAll succ' ch.userId t, t⟩ sale items [] succ')⟩) := by
  intro rest
  induction rest with
  -- The loop has read every item.
  | nil =>
    intro done succ added hd _ hs
    rw [List.append_nil] at hd
    exact ⟨succ, added, hd ▸ hs, .refl⟩
  -- One more item: the loop's invariants carry over to `done ++ [i]`.
  | cons i rest ih =>
    intro done succ added hd hadded hs
    have hi : i ∈ items := hd ▸ List.mem_append_right _ (List.mem_cons_self _ _)
    have hd' : (done ++ [i]) ++ rest = items := by rw [List.append_assoc]; exact hd
    have hsub : ∀ x ∈ added, x ∈ items.map Item.id := fun x hx => by
      obtain ⟨j, hj, rfl⟩ := List.mem_map.1 ((hadded x).1 hx)
      exact List.mem_map_of_mem _ (hd ▸ List.mem_append_left _ hj)
    have hfilter := afterMarks_itemExists succ hbf hsub hi
    by_cases hseen : i.id ∈ done.map Item.id
    · -- The filter reports the id: the item is skipped.
      have hf : (s.afterMarks succ added).cache.itemExistsInBloomFilter i.id = true := by
        simpa [hfilter] using (hadded _).2 hseen
      obtain ⟨succ', added', hs', hrun⟩ := ih (done ++ [i]) succ added hd'
        (fun x => by
          rw [hadded x, List.map_append, List.mem_append, List.map_singleton, List.mem_singleton]
          exact ⟨.inl, fun h => h.elim id fun h => h ▸ hseen⟩)
        (hs.seen (fun j hj hji => Option.some.inj
          ((hrow j (hd ▸ List.mem_append_left _ hj)).symm.trans (hji ▸ hrow i hi))) hseen)
      exact ⟨succ', added', hs', .head (stepOk_skip hf) hrun⟩
    · -- A new id: the filter does not report it; it is marked if unsold, then added.
      have hf : (s.afterMarks succ added).cache.itemExistsInBloomFilter i.id = false := by
        simpa [hfilter] using fun h => hseen ((hadded _).1 h)
      have hnot : i.id ∉ succ := fun h => by
        obtain ⟨j, hj, hji, -⟩ := (hs.2 _).1 h
        exact hseen (hji ▸ List.mem_map_of_mem _ hj)
      obtain ⟨succ', added', hs', hrun⟩ := ih (done ++ [i]) _ (added ++ [i.id]) hd'
        (fun x => by simp [hadded x]) (hs.new hseen)
      exact ⟨succ', added', hs', (runs_markNew (hrow i hi) hnot hf).trans hrun⟩

end Marking

/-! ### The commit and the cleanup -/

/-- `DeleteCheckout` removes every attempt of the code. -/
@[simp] theorem Db.getCheckoutAttempt_deleteCheckout (db : Db) (code : Code) :
    (db.deleteCheckout code).getCheckoutAttempt code = none := by
  simp [Db.getCheckoutAttempt, Db.deleteCheckout]

section Commit

variable {pid : Nat} {code : Code} {ch : Checkout} {n : Nat} {s : Shared}

variable (pid code ch n) in
/-- After the marking loop marked some item: `IncrementCounters`, `UpdateSale`,
    `SavePurchaseResult`, and `CommitTx` on the store the transaction began from; then
    `cleanupCheckout` and the deferred `ReleaseLock`, and the call returns the result it
    saved. -/
theorem runs_commit {tx : Tx} (sale : Sale) (items : List Item) {succ : List ItemId}
    (hsucc : succ ≠ []) (hstore : s.db.store = tx.base) :
    ∃ s', RunsAlone pid (s, ⟨code, .attempt ch n (.bloomCheck tx sale items [] succ)⟩)
        (s', ⟨code, .done (.ok (calculatePurchaseResult items succ))⟩) ∧
      s'.db.store = (tx.view.updateSale { sale with itemsSold := sale.itemsSold + succ.length
        }).savePurchaseResult ch.code (calculatePurchaseResult items succ) ∧
      s'.commits =
        s.commits ++ [⟨pid, ch.code, ch, items, succ, calculatePurchaseResult items succ⟩] ∧
      s'.cache.getSaleItemCount ch.saleId = s.cache.getSaleItemCount ch.saleId + succ.length ∧
      s'.cache.getUserItemCount ch.saleId ch.userId =
        s.cache.getUserItemCount ch.saleId ch.userId + succ.length ∧
      s'.cache.lock code = false ∧ s'.cache.checkoutCodeExists code = false ∧
      s'.cache.getUserCheckoutCode ch.saleId ch.userId = none ∧
      s'.db.getCheckoutAttempt code = none := by
  have hE : succ.isEmpty = false := by simpa using hsucc
  apply Exists.intro
  refine ⟨RunsAlone.of_runOk 9 ?_, ?_⟩
  -- `IncrementCounters`, `UpdateSale`, `SavePurchaseResult`, `CommitTx`, the result
  -- check, the three cleanup commands and `ReleaseLock`.
  · iterate 9
      rw [runOk]
      dsimp only [PurchaseProc.step, attemptStep, afterAttempt, Option.bind]
      try simp only [hE, hstore, Shared.setCache_db, decide_True, Bool.true_and, Bool.false_eq_true,
        ↓reduceIte]
    rfl
  -- What those calls wrote.
  · simp [Cache.getSaleItemCount, Cache.getUserItemCount, Cache.incrementCounters,
      Cache.removeUserCheckoutCode, Cache.removeCheckoutCode, Cache.releaseLock,
      Cache.checkoutCodeExists, Cache.getUserCheckoutCode, Shared.setCache, Shared.setDb,
      Shared.endRequest, Cache.set1, Cache.set2]

end Commit

/-! ### The whole call -/

/-- The rows the `GetItemByID` loop collects are the rows of their ids. -/
theorem getItemByID_of_mem_filterMap {base : Store} {ids : List ItemId} {i : Item}
    (h : i ∈ ids.filterMap base.getItemByID) : base.getItemByID i.id = some i := by
  obtain ⟨x, -, hx⟩ := List.mem_filterMap.1 h
  rwa [(Table.find_eq_some.1 hx).2]

/-- `ExecutePurchase` run alone, at the level of its process. Under the preconditions of
    `purchase_alone_commits`, the process goes from its start to its successful return,
    and the state it leaves is the one `purchase_alone_commits` describes. -/
theorem runs_purchase {s : Shared} {pid : Nat} {code : Code} {row : CheckoutAttempt}
    {ch : Checkout} {sale : Sale} {items : List Item}
    (hrow : s.db.getCheckoutAttempt code = some row)
    (hch : ch = checkoutOfRow row (s.db.getCheckoutItemIds code))
    (hlock : s.cache.lock code = false)
    (hsaleCount : s.cache.getSaleItemCount ch.saleId + ch.itemIds.length ≤ (maxItemsPerSale : Int))
    (huserCount : s.cache.getUserItemCount ch.saleId ch.userId + ch.itemIds.length ≤
      (maxItemsPerUser : Int))
    (hres : s.db.store.getPurchaseResult code = none)
    (hsale : s.db.store.getSaleByID ch.saleId = some sale)
    (hitems : items = ch.itemIds.filterMap s.db.store.getItemByID)
    (hvalid : purchaseSvc.validatePurchase sale 0 items s.clock = .ok ())
    (hunsold : ∃ i ∈ items, i.sold = false)
    (hbf : ∀ i ∈ items, s.cache.bloomFilter.contains (s.cache.bloomBits ++
      ((items.map Item.id).filter (· ≠ i.id)).flatMap s.cache.bloomFilter.bitPositions)
        i.id = false) :
    ∃ (s' : Shared) (succ : List ItemId), UnsoldIds items succ ∧
      RunsAlone pid (s, ⟨code, .codeExists⟩)
        (s', ⟨code, .done (.ok (calculatePurchaseResult items succ))⟩) ∧
      s'.db.store = s.db.store.purchased ch s.clock sale items succ ∧
      s'.commits = s.commits ++ [⟨pid, code, ch, items, succ, calculatePurchaseResult items succ⟩] ∧
      s'.cache.getSaleItemCount ch.saleId = s.cache.getSaleItemCount ch.saleId + succ.length ∧
      s'.cache.getUserItemCount ch.saleId ch.userId =
        s.cache.getUserItemCount ch.saleId ch.userId + succ.length ∧
      s'.cache.lock code = false ∧ s'.cache.checkoutCodeExists code = false ∧
      s'.cache.getUserCheckoutCode ch.saleId ch.userId = none ∧
      s'.db.getCheckoutAttempt code = none := by
  subst hch hitems
  set ch := checkoutOfRow row (s.db.getCheckoutItemIds code)
  set items := ch.itemIds.filterMap s.db.store.getItemByID
  set base := s.db.store
  have hcode : ch.code = code := Db.getCheckoutAttempt_code hrow
  -- The call reaches its first attempt; the log loop writes the checkout tables only.
  set s₁ : Shared :=
    s.setCache { s.cache.setCheckoutCode code with lock := Cache.set1 s.cache.lock code true }
  have h₁ : RunsAlone pid (s, ⟨code, .codeExists⟩) (s₁, ⟨code, .attempt ch 0 (.log ch.itemIds)⟩) :=
    runs_start hrow hlock
  obtain ⟨db, h₂⟩ := runs_log pid code ch 0 ch.itemIds s₁
  set s₂ : Shared := s₁.setDb { db with store := base }
  -- The transaction begins on the committed store and reads the sale and the items.
  set tx : Tx := ⟨base, base, s.clock⟩
  have h₃ : RunsAlone pid (s₂, ⟨code, .attempt ch 0 (.log [])⟩)
      (s₂, ⟨code, .attempt ch 0 (.probe tx)⟩) := runs_begin hsaleCount huserCount
  have h₄ : RunsAlone pid (s₂, ⟨code, .attempt ch 0 (.probe tx)⟩)
      (s₂, ⟨code, .attempt ch 0 (.getItems tx sale ch.itemIds [])⟩) :=
    runs_getSale (hcode ▸ hres) hsale
  have h₅ : RunsAlone pid (s₂, ⟨code, .attempt ch 0 (.getItems tx sale ch.itemIds [])⟩)
      (s₂, ⟨code, .attempt ch 0 (.getItems tx sale [] items)⟩) := runs_getItems ch.itemIds []
  obtain ⟨i₀, hi₀, hsold₀⟩ := hunsold
  have h₆ : StepOk pid (s₂, ⟨code, .attempt ch 0 (.getItems tx sale [] items)⟩)
      (s₂, ⟨code, .attempt ch 0 (.bloomCheck tx sale items items [])⟩) :=
    stepOk_validate (List.ne_nil_of_mem hi₀) hvalid
  -- The marking loop.
  obtain ⟨succ, added, hsucc, h₇⟩ := runs_marking pid code ch 0 s₂ base s.clock sale
    (fun i hi => getItemByID_of_mem_filterMap hi) hbf items [] [] [] rfl (by simp) UnsoldIds.nil
  rw [Shared.afterMarks_nil, Store.markAll_nil] at h₇
  -- An unsold item was marked: the transaction commits, and the call cleans up and
  -- returns.
  have hne : succ ≠ [] := fun h => by
    simpa [h] using (hsucc.2 i₀.id).2 ⟨i₀, hi₀, rfl, hsold₀⟩
  obtain ⟨s', h₈, hstore, hcommits, hsaleC, huserC, hlock', hcodeEx, huserCode, hattempt⟩ :=
    runs_commit pid code ch 0 sale items hne (show (s₂.afterMarks succ added).db.store =
      (⟨base, base.markAll succ ch.userId s.clock, s.clock⟩ : Tx).base from rfl)
  have hrun : RunsAlone pid (s, ⟨code, .codeExists⟩)
      (s', ⟨code, .done (.ok (calculatePurchaseResult items succ))⟩) :=
    h₁.trans (h₂.trans (h₃.trans (h₄.trans (h₅.trans (.head h₆ (h₇.trans h₈))))))
  exact ⟨s', succ, hsucc, hrun, hstore, by rw [hcommits, hcode]; rfl, hsaleC, huserC, hlock',
    hcodeEx, huserCode, hattempt⟩

/-- A purchase that runs alone commits. Process `pid` is at the start of
    `ExecutePurchase(code)` and runs alone, every call succeeding. The checkout of the code
    is in C1, its lock is free, the counters leave room for its items, no result is saved
    for the code, its sale exists, `ValidatePurchase` accepts the items read, one of them
    is unsold, and the filter reports no item of the checkout before the item's own offsets
    are set, whichever other items of the checkout were added. Then the call returns the
    result for exactly the unsold items it read, each once: the committed store is the one
    it started from with those items marked, the sale row updated and the result saved;
    both counters grew by their number; the checkout is gone from C1 and C2; and the lock
    is released. -/
theorem purchase_alone_commits {w : World} {pid : Nat} {code : Code} {row : CheckoutAttempt}
    {ch : Checkout} {sale : Sale} {items : List Item}
    (hp : w.procs[pid]? = some (.purchase ⟨code, .codeExists⟩))
    (hrow : w.shared.db.getCheckoutAttempt code = some row)
    (hch : ch = checkoutOfRow row (w.shared.db.getCheckoutItemIds code))
    (hlock : w.shared.cache.lock code = false)
    (hsaleCount : w.shared.cache.getSaleItemCount ch.saleId + ch.itemIds.length ≤
      (maxItemsPerSale : Int))
    (huserCount : w.shared.cache.getUserItemCount ch.saleId ch.userId + ch.itemIds.length ≤
      (maxItemsPerUser : Int))
    (hres : w.shared.db.store.getPurchaseResult code = none)
    (hsale : w.shared.db.store.getSaleByID ch.saleId = some sale)
    (hitems : items = ch.itemIds.filterMap w.shared.db.store.getItemByID)
    (hvalid : purchaseSvc.validatePurchase sale 0 items w.shared.clock = .ok ())
    (hunsold : ∃ i ∈ items, i.sold = false)
    (hbf : ∀ i ∈ items, w.shared.cache.bloomFilter.contains (w.shared.cache.bloomBits ++
      ((items.map Item.id).filter (· ≠ i.id)).flatMap w.shared.cache.bloomFilter.bitPositions)
        i.id = false) :
    ∃ (k : Nat) (w' : World) (succ : List ItemId), UnsoldIds items succ ∧
      w.run (Event.steps pid k) = some w' ∧
      w'.procs =
        w.procs.set pid (.purchase ⟨code, .done (.ok (calculatePurchaseResult items succ))⟩) ∧
      w'.shared.db.store = w.shared.db.store.purchased ch w.shared.clock sale items succ ∧
      w'.shared.commits =
        w.shared.commits ++ [⟨pid, code, ch, items, succ, calculatePurchaseResult items succ⟩] ∧
      w'.shared.cache.getSaleItemCount ch.saleId =
        w.shared.cache.getSaleItemCount ch.saleId + succ.length ∧
      w'.shared.cache.getUserItemCount ch.saleId ch.userId =
        w.shared.cache.getUserItemCount ch.saleId ch.userId + succ.length ∧
      w'.shared.cache.lock code = false ∧ w'.shared.cache.checkoutCodeExists code = false ∧
      w'.shared.cache.getUserCheckoutCode ch.saleId ch.userId = none ∧
      w'.shared.db.getCheckoutAttempt code = none := by
  obtain ⟨s', succ, hsucc, hrun, hstore, hcommits, hsaleC, huserC, hlock', hcodeEx, huserCode,
    hattempt⟩ := runs_purchase hrow hch hlock hsaleCount huserCount hres hsale hitems hvalid
      hunsold hbf
  -- The process-level run is a run of the world.
  obtain ⟨k, hk⟩ := hrun.world hp
  exact ⟨k, _, succ, hsucc, hk, rfl, hstore, hcommits, hsaleC, huserC, hlock', hcodeEx, huserCode,
    hattempt⟩

/-- User 7 checks out item 100 under code 500, and `ExecutePurchase(500)` starts as
    process 2. -/
def purchaseStart : List Event :=
  openSale ++ Event.firstCheckout 1 7 100 500 900 true ++ [.request (.purchase 500)]

/-- `purchase_alone_commits` after `purchaseStart`: run alone, the purchase of code 500 sells
    item 100, returns its result and releases its lock. -/
theorem purchase_alone_commits_start : ∃ w : World,
    (World.init sampleFilter).run purchaseStart = some w ∧
    ∃ (k : Nat) (w' : World) (succ : List ItemId), UnsoldIds [⟨100, 1, false, none, none⟩] succ ∧
      w.run (Event.steps 2 k) = some w' ∧
      w'.procs = w.procs.set 2
        (.purchase ⟨500,
          .done (.ok (calculatePurchaseResult [⟨100, 1, false, none, none⟩] succ))⟩) ∧
      w'.shared.cache.lock 500 = false := by
  -- Every precondition is evaluated on the world `purchaseStart` reaches.
  refine ⟨_, (Option.some_get (by decide)).symm, ?_⟩
  obtain ⟨k, w', succ, hs, hrun, hprocs, -, -, -, -, hlock, -⟩ :=
    @purchase_alone_commits (((World.init sampleFilter).run purchaseStart).get (by decide)) 2 500
      ⟨900, 500, 1, 7, 3605⟩ ⟨500, 1, 7, [100], 3605⟩ ⟨1, 3600, 7200, 11, 0⟩
      [⟨100, 1, false, none, none⟩] rfl rfl rfl rfl (by decide) (by decide) rfl rfl rfl rfl
      ⟨_, List.mem_singleton_self _, rfl⟩ (by decide)
  exact ⟨k, w', succ, hs, hrun, hprocs, hlock⟩

end FlashSale
