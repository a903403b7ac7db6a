import FlashSale.Spec.Sales

/-!
# What a returned outcome says about the request's writes

A client learns what its request did from the answer it gets. This module proves how
far the answer tells it what the request wrote to C1, over every interleaving of
requests.

`ExecutePurchase` commits a purchase only in its attempt's `CommitTx`. An attempt whose
committed purchase marked an item returns its result, and the retry loop stops there;
one whose purchase marked nothing returns `ErrAllItemsSold`. So in every reachable world
a purchase request that returned a result has exactly one committed purchase that marked
an item, and one that returned an error has none (`purchase_outcome_sales`): an error
never hides a sale, and no result stands for two. A committed purchase that marked
nothing may stand behind an error (`ErrAllItemsSold`, then
`ErrCheckoutAlreadyProcessed`).

The other requests write C1 outside any transaction that spans the request, so their
writes are counted along the run of the request's own steps (`StepRun`), each made on
whatever state the other requests left. `CheckoutHandler.Handle` writes C1 once, in
`CreateCheckout` or in the insert of `AddItemToCheckout`; after it, it makes two cache
calls whose failures it only logs, and returns its response. So a checkout that returned
a response changed C1 in exactly one call, and one that returned an error in none
(`checkout_outcome_writes`). A sale creator (`createSaleIfNeeded`, `HandleCreateSale`)
writes twice, `CreateSale` and then `CreateItems`, and returns an error when the second
fails: a creator that succeeded changed C1 twice, and one that failed at most once, which
may be a sale row left without items (`creator_outcome_writes`).

## Key results

- `PurchaseProc.step_writes`, `SalesMatch.step`: one step changes the count of a
  process's committed sales by what it does to the process's program point. The step
  lemmas also say that a step only extends the bits of C2's filter (`FilterGrows`), which
  `Spec/Refusals` uses.
- `purchase_outcome_sales`: in every reachable world, a purchase that returned has one
  committed sale if it returned a result and none if it returned an error.
- `StepRun.inv`: a relation between a request's point and its writes that every step
  keeps holds along its runs; `CheckoutProc.step_written` and `CreateProc.step_wrote`
  give the steps of a checkout and of a creator.
- `checkout_outcome_writes`, `creator_outcome_writes`: in every reachable world, the run
  of a request that returned changed C1 as many times as its outcome says.
-/

namespace FlashSale

/-! ### The sales of a purchase request -/

/-- The committed purchases of process `pid` that marked an item. -/
def Shared.salesOf (s : Shared) (pid : Nat) : Nat :=
  s.commits.countP fun cm => cm.pid == pid && !cm.successful.isEmpty

/-- `1` at the points of `ExecutePurchase` after an attempt returned a result (the
    cleanup, the release and the return of that result), `0` elsewhere. -/
def PurchasePc.sold : PurchasePc → Nat
  | .removeUserCode .. | .removeCode .. | .deleteCheckout .. | .release (.ok _) | .done (.ok _) => 1
  | _ => 0

/-- `1` for an attempt that returned a result, `0` for one that goes on or returned an
    error. -/
def attemptSold : AttemptPc ⊕ Except Error PurchaseResult → Nat
  | .inr (.ok _) => 1
  | _ => 0

/-- `PurchasePc.sold` of a purchase request, `0` for the other requests. -/
def Proc.sold : Proc → Nat
  | .purchase p => p.pc.sold
  | _ => 0

theorem Request.sold_start (r : Request) : r.start.sold = 0 := by
  cases r <;> rfl

/-! ### C2's sold-items filter -/

/-- C2's filter after a step: the same filter object, whose bit list the step may only
    extend. -/
def FilterGrows (s s' : Shared) : Prop :=
  s'.cache.bloomFilter = s.cache.bloomFilter ∧ s.cache.bloomBits <+: s'.cache.bloomBits

namespace FilterGrows

theorem refl (s : Shared) : FilterGrows s s := ⟨rfl, List.prefix_refl _⟩

theorem trans {s₁ s₂ s₃ : Shared} (h₁ : FilterGrows s₁ s₂) (h₂ : FilterGrows s₂ s₃) :
    FilterGrows s₁ s₃ :=
  ⟨h₂.1.trans h₁.1, h₁.2.trans h₂.2⟩

theorem addToBloom (s : Shared) (i : ItemId) : FilterGrows s (s.addToBloom i) :=
  ⟨rfl, List.prefix_append _ _⟩

theorem distributedLock (s : Shared) (code : Code) :
    FilterGrows s (s.setCache (s.cache.distributedLock code).1) := by
  unfold Cache.distributedLock
  split <;> exact .refl _

/-- The filter keeps every item it contains. -/
theorem contains {s s' : Shared} (h : FilterGrows s s') {x : ItemId}
    (hx : s.cache.itemExistsInBloomFilter x = true) : s'.cache.itemExistsInBloomFilter x = true := by
  simp only [Cache.itemExistsInBloomFilter, RedisBloomFilter.contains, List.all_eq_true,
    List.elem_iff] at hx ⊢
  rw [h.1]
  exact fun p hp => h.2.subset (hx p hp)

end FilterGrows

section Steps

variable {s s' : Shared} {pid : Nat} {ok : Bool} {fresh : Nat}

/-- What a step of an attempt writes: it only extends the filter's bits; and only
    `CommitTx` appends a commit, of the stepping process, after which the attempt
    returns a result exactly when the purchase marked an item. -/
theorem attemptStep_writes {ch : Checkout} {a : AttemptPc}
    {r : AttemptPc ⊕ Except Error PurchaseResult} (h : attemptStep s pid ch ok fresh a = (s', r)) :
    FilterGrows s s' ∧ ((s'.commits = s.commits ∧ attemptSold r = 0) ∨
      ∃ cm, s'.commits = s.commits ++ [cm] ∧ cm.pid = pid ∧
        attemptSold r = if cm.successful.isEmpty then 0 else 1) := by
  unfold attemptStep at h
  dsimp only at h
  repeat' split at h
  all_goals obtain ⟨rfl, rfl⟩ := Prod.mk.inj h
  -- Every call but `AddItemToBloomFilter` and `CommitTx` leaves both alone; the commit
  -- returns a result exactly when its result lists a sold item.
  all_goals first
    | exact ⟨.refl _, .inl ⟨rfl, rfl⟩⟩
    | exact ⟨.addToBloom _ _, .inl ⟨rfl, rfl⟩⟩
    | exact ⟨.refl _, .inr ⟨_, rfl, rfl, by simp [attemptSold, *]⟩⟩

/-- A step of an attempt of process `pid` adds to the sales of `pid` what it returns,
    and to no other process's. -/
theorem attemptStep_salesOf {ch : Checkout} {a : AttemptPc}
    {r : AttemptPc ⊕ Except Error PurchaseResult} (h : attemptStep s pid ch ok fresh a = (s', r))
    (j : Nat) : s'.salesOf j = s.salesOf j + if j = pid then attemptSold r else 0 := by
  -- No commit, or a commit of `pid` that sold exactly when the attempt returns a result.
  rcases (attemptStep_writes h).2 with ⟨hc, hr⟩ | ⟨cm, hc, rfl, hr⟩
  · simp [Shared.salesOf, hc, hr]
  · simp only [Shared.salesOf, hc, List.countP_append, List.countP_singleton, hr]
    -- The commit counts for its own process only.
    by_cases hj : j = cm.pid
    · subst hj; cases cm.successful.isEmpty <;> simp
    · simp [hj, Ne.symm hj]

/-- The retry loop passes on what the attempt returned. -/
theorem afterAttempt_sold (ch : Checkout) (n : Nat) (out : Except Error PurchaseResult) :
    (afterAttempt ch n out).sold = attemptSold (.inr out) := by
  unfold afterAttempt
  split <;> (try split_ifs) <;> rfl

/-- What a purchase step writes: it only extends the filter's bits, and it changes the
    sales of its process by what it does to the program point, and no other process's. -/
theorem PurchaseProc.step_writes {p q : PurchaseProc} (h : p.step s pid ok fresh = some (s', q)) :
    FilterGrows s s' ∧ ∀ j, s'.salesOf j + (if j = pid then p.pc.sold else 0) =
      s.salesOf j + if j = pid then q.pc.sold else 0 := by
  obtain ⟨code, pc⟩ := p
  cases pc with
  | attempt ch n a =>
    simp only [step] at h
    rcases hst : attemptStep s pid ch ok fresh a with ⟨s₁, r⟩
    rw [hst] at h
    -- The retry loop passes the attempt's outcome on to the program point.
    obtain ⟨rfl, hq⟩ : s' = s₁ ∧ q.pc.sold = attemptSold r := by
      rcases r with a' | out <;> obtain ⟨rfl, rfl⟩ := Prod.mk.inj (Option.some.inj h)
      exacts [⟨rfl, rfl⟩, ⟨rfl, afterAttempt_sold ch n out⟩]
    refine ⟨(attemptStep_writes hst).1, fun j => ?_⟩
    rw [attemptStep_salesOf hst, hq]
    split <;> rfl
  | release out =>
    obtain ⟨rfl, rfl⟩ := Prod.mk.inj (Option.some.inj h)
    -- `ReleaseLock` returns the outcome it holds.
    cases ok <;> cases out <;> exact ⟨.refl _, fun _ => rfl⟩
  | done out => cases h
  -- The calls outside the attempts write no commit; `DistributedLock` leaves the filter.
  | _ =>
    simp only [step] at h
    repeat' split at h
    all_goals obtain ⟨rfl, rfl⟩ := Prod.mk.inj (Option.some.inj h)
    all_goals first
      | exact ⟨.refl _, fun _ => rfl⟩
      | exact ⟨.distributedLock _ _, fun _ => rfl⟩

end Steps

/-! ### The checkout's writes -/

/-- `1` at the points of `Handle` after `CreateCheckout` or the insert of
    `AddItemToCheckout` wrote, and at its successful return; `0` elsewhere. -/
def CheckoutPc.written : CheckoutPc → Nat
  | .incrementCount .. | .addChecked .. | .done (.ok _) => 1
  | _ => 0

namespace Db

variable {db db' : Db}

theorem insertAttempt_attempts {a : CheckoutAttempt} (h : db.insertAttempt a = some db') :
    db'.attempts.rows = db.attempts.rows ++ [a] := by
  simp only [insertAttempt] at h
  split at h
  · obtain ⟨t, ht, rfl⟩ := Option.map_eq_some'.1 h
    exact (Table.insert_eq_some ht).1
  · cases h

theorem insertCheckoutItem_rows {ci : CheckoutItem} (h : db.insertCheckoutItem ci = some db') :
    db'.attempts = db.attempts ∧ db'.checkoutItems.rows = db.checkoutItems.rows ++ [ci] := by
  simp only [insertCheckoutItem] at h
  split at h
  · obtain ⟨t, ht, rfl⟩ := Option.map_eq_some'.1 h
    exact ⟨rfl, (Table.insert_eq_some ht).1⟩
  · cases h

private theorem foldlM_insertCheckoutItem_attempts {f : Db → Nat × ItemId → CheckoutItem} :
    ∀ {l : List (Nat × ItemId)} {db db' : Db},
      l.foldlM (fun db x => db.insertCheckoutItem (f db x)) db = some db' →
        db'.attempts = db.attempts
  | [], _, _, h => by cases h; rfl
  | x :: l, db, db', h => by
    simp only [List.foldlM_cons, Option.bind_eq_bind, Option.bind_eq_some] at h
    obtain ⟨db₁, h₁, h⟩ := h
    exact (foldlM_insertCheckoutItem_attempts h).trans (insertCheckoutItem_rows h₁).1

/-- `CreateCheckout` changes C1: it adds an attempt row. -/
theorem createCheckout_ne {c : Checkout} {id : Nat} (h : db.createCheckout c id = some db') :
    db' ≠ db := by
  simp only [createCheckout, Option.bind_eq_bind, Option.bind_eq_some] at h
  obtain ⟨db₁, h₁, h⟩ := h
  have hrows : db'.attempts.rows =
      db.attempts.rows ++ [⟨id, c.code, c.saleId, c.userId, c.createdAt⟩] := by
    rw [foldlM_insertCheckoutItem_attempts (f := fun _ x => ⟨id + 1 + x.1, id, x.2, c.createdAt⟩) h,
      insertAttempt_attempts h₁]
  intro he
  simpa [he] using congrArg List.length hrows

/-- The insert of `AddItemToCheckout` changes C1: it adds a `checkout_items` row. -/
theorem insertCheckoutItem_ne {ci : CheckoutItem} (h : db.insertCheckoutItem ci = some db') :
    db' ≠ db := by
  intro he
  simpa [he] using congrArg List.length (insertCheckoutItem_rows h).2

end Db

namespace Store

variable {st st' : Store}

/-- `CreateSale` changes C1: it adds a sale row. -/
theorem createSale_ne {sale : Sale} (h : st.createSale sale = some st') : st' ≠ st := by
  intro he
  simpa [he] using congrArg List.length (createSale_eq_some h).1

/-- `CreateItems` of some items changes C1: it adds their rows. -/
theorem createItems_ne {items : List Item} (h : st.createItems items = some st')
    (hne : items ≠ []) : st' ≠ st := by
  intro he
  exact hne (by simpa [he] using congrArg List.length (createItems_eq_some h).1)

end Store

/-! ### Runs of one request -/

/-- The steps of one request from `p` to `q`, by its step function `step`, each made on
    whatever shared state the other requests left before it; `n` of them changed C1. -/
inductive StepRun {P : Type} (step : Shared → P → Bool → Nat → Option (Shared × P)) :
    P → P → Nat → Prop
  | refl (p : P) : StepRun step p p 0
  | keep {p q r : P} {n : Nat} {s s' : Shared} {ok : Bool} {fresh : Nat} :
      StepRun step p q n → step s q ok fresh = some (s', r) → s'.db = s.db → StepRun step p r n
  | write {p q r : P} {n : Nat} {s s' : Shared} {ok : Bool} {fresh : Nat} :
      StepRun step p q n → step s q ok fresh = some (s', r) → s'.db ≠ s.db →
        StepRun step p r (n + 1)

namespace StepRun

variable {P : Type} {step : Shared → P → Bool → Nat → Option (Shared × P)}

/-- A run extends by any step. -/
theorem snoc {p q r : P} {n : Nat} {s s' : Shared} {ok : Bool} {fresh : Nat}
    (hr : StepRun step p q n) (h : step s q ok fresh = some (s', r)) :
    ∃ n', StepRun step p r n' := by
  by_cases hdb : s'.db = s.db
  exacts [⟨n, hr.keep h hdb⟩, ⟨n + 1, hr.write h hdb⟩]

/-- A relation between a request's point and its writes so far that holds at the start
    of a run, and that every step keeps, counting the step's write, holds at its end. -/
theorem inv {I : P → Nat → Prop}
    (hstep : ∀ {s s' : Shared} {q r : P} {ok : Bool} {fresh n : Nat},
      step s q ok fresh = some (s', r) → I q n →
        (s'.db = s.db → I r n) ∧ (s'.db ≠ s.db → I r (n + 1)))
    {p q : P} {n : Nat} (h : StepRun step p q n) (hp : I p 0) : I q n := by
  induction h with
  | refl => exact hp
  | keep _ hs hdb ih => exact (hstep hs ih).1 hdb
  | write _ hs hdb ih => exact (hstep hs ih).2 hdb

end StepRun

section Requests

variable {s s' : Shared} {ok : Bool} {fresh : Nat}

/-- A call of a checkout keeps its user and item and the commits, only extends the
    filter's bits, and changes C1 exactly when it is the write. -/
theorem CheckoutProc.step_written {p q : CheckoutProc} (h : p.step s ok fresh = some (s', q)) :
    q.userId = p.userId ∧ q.itemId = p.itemId ∧ s'.commits = s.commits ∧ FilterGrows s s' ∧
      ((s'.db = s.db ∧ q.pc.written = p.pc.written) ∨
        (s'.db ≠ s.db ∧ q.pc.written = p.pc.written + 1)) := by
  obtain ⟨u, i, pc⟩ := p
  cases pc <;> dsimp only [step] at h <;> repeat' split at h
  all_goals cases h
  -- Reads and C2 writes keep C1; `CreateCheckout` and the insert of `AddItemToCheckout`
  -- change it and move the point past the write.
  all_goals first
    | exact ⟨rfl, rfl, rfl, .refl _, .inl ⟨rfl, rfl⟩⟩
    | exact ⟨rfl, rfl, rfl, .addToBloom _ _, .inl ⟨rfl, rfl⟩⟩
    | next hdb =>
      rw [Option.ite_none_right_eq_some] at hdb
      first
        | exact ⟨rfl, rfl, rfl, .refl _, .inr ⟨Db.createCheckout_ne hdb.2, rfl⟩⟩
        | exact ⟨rfl, rfl, rfl, .refl _, .inr ⟨Db.insertCheckoutItem_ne hdb.2, rfl⟩⟩

/-- A run of a checkout changes C1 as many times as it moves `CheckoutPc.written` up. -/
theorem CheckoutProc.run_written {p q : CheckoutProc} {n : Nat}
    (h : StepRun CheckoutProc.step p q n) : p.pc.written + n = q.pc.written :=
  h.inv (I := fun q n => p.pc.written + n = q.pc.written) (fun hs hw => by
    -- A step that keeps C1 keeps the count; one that changes it moves it up by one.
    rcases (step_written hs).2.2.2.2 with ⟨hdb, hq⟩ | ⟨hdb, hq⟩
    · exact ⟨fun _ => by omega, fun h => absurd hdb h⟩
    · exact ⟨fun h => absurd h hdb, fun _ => by omega⟩) rfl

/-- The writes a creator's run from its start has made by its program point, with what
    the creator knows of the sale it inserts: none before `CreateSale` succeeded, one
    after it, two after `CreateItems`; at most one when it returned `false`. -/
def CreatePc.Wrote : CreatePc → Nat → Prop
  | .getActiveSale, n => n = 0
  | .createSale sale, n => n = 0 ∧ 0 < sale.totalItems
  | .createItems sale, n => n = 1 ∧ 0 < sale.totalItems
  | .done true, n => n = 2
  | .done false, n => n ≤ 1

/-- A creator's step keeps its creator, and moves `CreatePc.Wrote` on by its write:
    `CreateSale` and `CreateItems` change C1 when they succeed, and nothing else does. -/
theorem CreateProc.step_wrote {p q : CreateProc} (h : p.step s ok fresh = some (s', q)) :
    q.creator = p.creator ∧ ∀ n, p.pc.Wrote n →
      (s'.db = s.db → q.pc.Wrote n) ∧ (s'.db ≠ s.db → q.pc.Wrote (n + 1)) := by
  have htot : ∀ sale, q.pc = .createSale sale → 0 < sale.totalItems :=
    fun _ => CreateProc.totalItems_of_step h
  obtain ⟨creator, pc⟩ := p
  cases pc <;> dsimp only [step] at h <;> repeat' split at h
  all_goals cases h
  -- For each step: what `Wrote` says after it, with and without a change of C1.
  all_goals refine ⟨rfl, fun n hw => ⟨fun hdb => ?_, fun hdb => ?_⟩⟩
  all_goals simp only [CreatePc.Wrote] at hw ⊢
  all_goals first
    | exact absurd rfl hdb
    | omega
    | exact ⟨hw, htot _ rfl⟩
    -- A successful `CreateSale` or `CreateItems` of a sale with items changes C1.
    | next hst =>
      rw [Option.ite_none_right_eq_some] at hst
      first
        | exact absurd (congrArg Db.store hdb) (Store.createSale_ne hst.2)
        | exact absurd (congrArg Db.store hdb) (Store.createItems_ne hst.2
            (List.ne_nil_of_length_pos (by rw [length_newItems]; exact hw.2)))

end Requests

/-! ### Every reachable world -/

section World

variable {s s' : Shared} {pid : Nat} {ok : Bool} {fresh : Nat}

/-- What a step of process `pid` writes: it only extends the filter's bits, and it
    changes the sales of `pid` by what it does to its `Proc.sold`, and no other
    process's. -/
theorem Proc.step_writes {p q : Proc} (h : p.step s pid ok fresh = some (s', q)) :
    FilterGrows s s' ∧ ∀ j, s'.salesOf j + (if j = pid then p.sold else 0) =
      s.salesOf j + if j = pid then q.sold else 0 := by
  cases p with
  | purchase c =>
    obtain ⟨⟨s₁, c'⟩, hc, ⟨⟩⟩ := Option.map_eq_some'.1 h
    exact PurchaseProc.step_writes hc
  -- A checkout commits nothing.
  | checkout c =>
    obtain ⟨⟨s₁, c'⟩, hc, ⟨⟩⟩ := Option.map_eq_some'.1 h
    obtain ⟨-, -, hcm, hf, -⟩ := CheckoutProc.step_written hc
    exact ⟨hf, fun j => by simp only [Shared.salesOf, hcm, Proc.sold]⟩
  -- A creator writes only C1's sales and items.
  | create c =>
    obtain ⟨⟨s₁, c'⟩, hc, ⟨⟩⟩ := Option.map_eq_some'.1 h
    obtain rfl | ⟨db, rfl⟩ : s' = s ∨ ∃ db, s' = s.setDb db := by
      rcases CreateProc.step_cases hc with
        ⟨rfl, -⟩ | ⟨-, -, -, -, rfl, -⟩ | ⟨-, -, -, -, rfl, -⟩
      exacts [.inl rfl, .inr ⟨_, rfl⟩, .inr ⟨_, rfl⟩]
    all_goals exact ⟨.refl _, fun _ => rfl⟩

/-- The sales of every process match its program point: one for a purchase past a
    commit that marked an item, none for any other process, and none past the last
    process. -/
def SalesMatch (w : World) : Prop :=
  ∀ pid, w.shared.salesOf pid = (w.procs[pid]?.map Proc.sold).getD 0

/-- Every event keeps `SalesMatch`. -/
theorem SalesMatch.step {w w' : World} {e : Event} (hw : SalesMatch w) (h : w.step e = some w') :
    SalesMatch w' := by
  cases e with
  -- A new request has sold nothing, and neither has its index before.
  | request r =>
    obtain rfl := Option.some.inj h
    intro j
    rcases Nat.lt_or_ge j w.procs.length with hj | hj
    · rw [List.getElem?_append_left hj]; exact hw j
    · have h0 := hw j
      rw [List.getElem?_eq_none hj] at h0
      rw [h0, List.getElem?_append_right hj]
      cases j - w.procs.length <;> simp [Request.sold_start]
  | tick d => obtain rfl := Option.some.inj h; exact hw
  | expire k => obtain rfl := Option.some.inj h; exact hw
  | step pid ok fresh =>
    obtain ⟨p, s', q, hp, hstep, rfl⟩ := World.step_step h
    have hlt : pid < w.procs.length := (List.getElem?_eq_some_iff.1 hp).1
    intro j
    have hs := (Proc.step_writes hstep).2 j
    have hj := hw j
    -- The stepping process moves its sales with its point; the others keep both.
    by_cases he : j = pid
    · subst he
      rw [hp] at hj
      rw [List.getElem?_set_self hlt]
      simp only [if_true, Option.map_some', Option.getD_some] at hs hj ⊢
      omega
    · rw [List.getElem?_set_ne (Ne.symm he)]
      simp only [he, if_false, add_zero] at hs
      rw [hs]; exact hj

theorem salesMatch {bf : RedisBloomFilter ItemId} {w : World} (hw : Reachable bf w) :
    SalesMatch w := by
  induction hw with
  | init => intro _; rfl
  | step e _ h ih => exact ih.step h

/-- A purchase's outcome matches its sales. In every reachable world, a purchase request
    that returned a result has exactly one committed purchase that marked an item, and
    one that returned an error has none. -/
theorem purchase_outcome_sales {bf : RedisBloomFilter ItemId} {w : World} (hw : Reachable bf w)
    {pid : Nat} {code : Code} {out : Except Error PurchaseResult}
    (hp : w.procs[pid]? = some (.purchase ⟨code, .done out⟩)) :
    w.shared.commits.countP (fun cm => cm.pid == pid && !cm.successful.isEmpty) =
      if out.toBool then 1 else 0 := by
  have h := salesMatch hw pid
  rw [hp] at h
  cases out <;> exact h

set_option maxRecDepth 100000 in
/-- `purchase_outcome_sales` after `allSoldRun`: the purchase of code 501 returned its
    result and sold once; the purchase of code 500, whose committed purchase marked
    nothing, returned `ErrCheckoutAlreadyProcessed` and sold nothing. -/
theorem purchase_outcome_sales_allSold : ∃ w r, Reachable sampleFilter w ∧
    w.procs[3]? = some (.purchase ⟨501, .done (.ok r)⟩) ∧
    w.procs[4]? = some (.purchase ⟨500, .done (.error .checkoutAlreadyProcessed)⟩) ∧
    w.shared.commits.countP (fun cm => cm.pid == 3 && !cm.successful.isEmpty) = 1 ∧
    w.shared.commits.countP (fun cm => cm.pid == 4 && !cm.successful.isEmpty) = 0 := by
  obtain ⟨w, hw, h₃, h₄⟩ : ∃ w, Reachable sampleFilter w ∧
      (w.procs[3]?.bind Proc.purchaseResult).map Prod.fst = some 501 ∧
      w.procs[4]?.bind Proc.purchaseError = some (500, .checkoutAlreadyProcessed) :=
    exists_reachable_of_run allSoldRun (by decide)
  obtain ⟨⟨c, r⟩, hr, rfl⟩ := Option.map_eq_some'.1 h₃
  obtain ⟨q₃, hq₃, hr₃⟩ := Option.bind_eq_some.1 hr
  obtain ⟨q₄, hq₄, hr₄⟩ := Option.bind_eq_some.1 h₄
  obtain rfl := Proc.eq_of_purchaseResult hr₃
  obtain rfl := Proc.eq_of_purchaseError hr₄
  exact ⟨w, r, hw, hq₃, hq₄, purchase_outcome_sales hw hq₃, purchase_outcome_sales hw hq₄⟩

/-- A checkout or a sale creator got to its point by a run of its own steps from the
    start of its request. -/
def Proc.HasRun : Proc → Prop
  | .checkout p => ∃ n, StepRun CheckoutProc.step ⟨p.userId, p.itemId, .getActiveSale⟩ p n
  | .create c => ∃ n, StepRun CreateProc.step ⟨c.creator, .getActiveSale⟩ c n
  | .purchase _ => True

/-- Every checkout and creator of a world has its run. -/
def RunsFromStart (w : World) : Prop := ∀ (pid : Nat) (p : Proc), w.procs[pid]? = some p → p.HasRun

theorem Request.hasRun_start (r : Request) : r.start.HasRun := by
  cases r
  exacts [⟨0, .refl _⟩, trivial, ⟨0, .refl _⟩, ⟨0, .refl _⟩]

/-- A step of a process extends its run. -/
theorem Proc.HasRun.step {p q : Proc} (hp : p.HasRun) (h : p.step s pid ok fresh = some (s', q)) :
    q.HasRun := by
  cases p with
  | checkout c =>
    obtain ⟨⟨s₁, c'⟩, hc, ⟨⟩⟩ := Option.map_eq_some'.1 h
    obtain ⟨n, hr⟩ := hp
    obtain ⟨hu, hi, -⟩ := CheckoutProc.step_written hc
    show ∃ n, StepRun CheckoutProc.step ⟨c'.userId, c'.itemId, .getActiveSale⟩ c' n
    rw [hu, hi]
    exact hr.snoc hc
  | create c =>
    obtain ⟨⟨s₁, c'⟩, hc, ⟨⟩⟩ := Option.map_eq_some'.1 h
    obtain ⟨n, hr⟩ := hp
    show ∃ n, StepRun CreateProc.step ⟨c'.creator, .getActiveSale⟩ c' n
    rw [(CreateProc.step_wrote hc).1]
    exact hr.snoc hc
  | purchase c =>
    obtain ⟨⟨s₁, c'⟩, -, ⟨⟩⟩ := Option.map_eq_some'.1 h
    trivial

/-- A property that every request has at its start and that every step of a process
    keeps holds of every process of every reachable world. -/
theorem Reachable.procs {P : Proc → Prop} (hstart : ∀ r : Request, P r.start)
    (hstep : ∀ {s s' : Shared} {pid : Nat} {ok : Bool} {fresh : Nat} {p q : Proc},
      P p → p.step s pid ok fresh = some (s', q) → P q)
    {bf : RedisBloomFilter ItemId} {w : World} (hw : Reachable bf w) :
    ∀ (pid : Nat) (p : Proc), w.procs[pid]? = some p → P p := by
  induction hw with
  | init => intro _ _ h; simp [World.init] at h
  | step e _ h ih =>
    cases e with
    | request r =>
      obtain rfl := Option.some.inj h
      intro j p hp
      rcases World.procs_request hp with hp | rfl
      exacts [ih j p hp, hstart r]
    | tick d => obtain rfl := Option.some.inj h; exact ih
    | expire k => obtain rfl := Option.some.inj h; exact ih
    | step pid ok fresh =>
      obtain ⟨p, s', q, hp, hstep', rfl⟩ := World.step_step h
      intro j c hc
      by_cases he : j = pid
      · subst he
        rw [List.getElem?_set_self (List.getElem?_eq_some_iff.1 hp).1] at hc
        obtain rfl := Option.some.inj hc
        exact hstep (ih j p hp) hstep'
      · rw [List.getElem?_set_ne (Ne.symm he)] at hc
        exact ih j c hc

theorem runsFromStart {bf : RedisBloomFilter ItemId} {w : World} (hw : Reachable bf w) :
    RunsFromStart w :=
  Reachable.procs Request.hasRun_start (fun hp h => hp.step h) hw

/-- A checkout's outcome matches its writes. In every reachable world, a checkout that
    returned got there by a run of its own calls from the start of `Handle`; and every
    such run, whatever the other requests did between its calls, changed C1 in exactly
    one call if the checkout returned a response and in none if it returned an error. -/
theorem checkout_outcome_writes {bf : RedisBloomFilter ItemId} {w : World} (hw : Reachable bf w)
    {pid : Nat} {u : UserId} {i : ItemId} {out : Except Error CheckoutResponse}
    (hp : w.procs[pid]? = some (.checkout ⟨u, i, .done out⟩)) :
    (∃ n, StepRun CheckoutProc.step ⟨u, i, .getActiveSale⟩ ⟨u, i, .done out⟩ n) ∧
      ∀ n, StepRun CheckoutProc.step ⟨u, i, .getActiveSale⟩ ⟨u, i, .done out⟩ n →
        n = if out.toBool then 1 else 0 := by
  refine ⟨runsFromStart hw pid _ hp, fun n hr => ?_⟩
  have h := CheckoutProc.run_written hr
  -- A response is one write past the start, an error none.
  cases out <;> simpa [CheckoutPc.written, Except.toBool] using h

theorem Proc.eq_of_checkoutResponse {q : Proc} {r : CheckoutResponse}
    (h : q.checkoutResponse = some r) : ∃ u i, q = .checkout ⟨u, i, .done (.ok r)⟩ := by
  unfold Proc.checkoutResponse at h
  split at h
  · cases h; exact ⟨_, _, rfl⟩
  · cases h

theorem Proc.eq_of_checkoutError {q : Proc} {u : UserId} {i : ItemId} {e : Error}
    (h : q.checkoutError = some (u, i, e)) : q = .checkout ⟨u, i, .done (.error e)⟩ := by
  unfold Proc.checkoutError at h
  split at h
  · cases h; rfl
  · cases h

set_option maxRecDepth 100000 in
/-- `checkout_outcome_writes` after user 7 checks out item 100 twice: the first checkout
    returned its response and wrote once, the second returned
    `ErrUserAlreadyCheckedOutItem` and wrote nothing. -/
theorem checkout_outcome_writes_twice : ∃ w u i, Reachable sampleFilter w ∧
    w.procs[1]? = some (.checkout ⟨u, i, .done (.ok ⟨500, 1, 7200⟩)⟩) ∧
    w.procs[2]? = some (.checkout ⟨7, 100, .done (.error .userAlreadyCheckedOutItem)⟩) ∧
    ((∃ n, StepRun CheckoutProc.step ⟨u, i, .getActiveSale⟩ ⟨u, i, .done (.ok ⟨500, 1, 7200⟩)⟩ n) ∧
      ∀ n, StepRun CheckoutProc.step ⟨u, i, .getActiveSale⟩
        ⟨u, i, .done (.ok ⟨500, 1, 7200⟩)⟩ n → n = 1) ∧
    ((∃ n, StepRun CheckoutProc.step ⟨7, 100, .getActiveSale⟩
        ⟨7, 100, .done (.error .userAlreadyCheckedOutItem)⟩ n) ∧
      ∀ n, StepRun CheckoutProc.step ⟨7, 100, .getActiveSale⟩
        ⟨7, 100, .done (.error .userAlreadyCheckedOutItem)⟩ n → n = 0) := by
  obtain ⟨w, hw, h₁, h₂⟩ : ∃ w, Reachable sampleFilter w ∧
      w.procs[1]?.bind Proc.checkoutResponse = some ⟨500, 1, 7200⟩ ∧
      w.procs[2]?.bind Proc.checkoutError = some (7, 100, .userAlreadyCheckedOutItem) :=
    exists_reachable_of_run
      (openSale ++ Event.firstCheckout 1 7 100 500 900 true ++ [.request (.checkout 7 100)] ++
        Event.steps 2 6) (by decide)
  obtain ⟨q₁, hq₁, hr₁⟩ := Option.bind_eq_some.1 h₁
  obtain ⟨q₂, hq₂, hr₂⟩ := Option.bind_eq_some.1 h₂
  obtain ⟨u, i, rfl⟩ := Proc.eq_of_checkoutResponse hr₁
  obtain rfl := Proc.eq_of_checkoutError hr₂
  exact ⟨w, u, i, hw, hq₁, hq₂, checkout_outcome_writes hw hq₁, checkout_outcome_writes hw hq₂⟩

/-- A creator's outcome bounds its writes. In every reachable world, a sale creator (the
    scheduler or the admin handler) that returned got there by a run of its own steps;
    and every such run, whatever the other requests did between its steps, changed C1
    exactly twice (`CreateSale`, then `CreateItems`) if it created the sale and its
    items, and at most once otherwise: a creator whose `CreateItems` failed has left
    the sale row it inserted. -/
theorem creator_outcome_writes {bf : RedisBloomFilter ItemId} {w : World} (hw : Reachable bf w)
    {pid : Nat} {c : Creator} {created : Bool}
    (hp : w.procs[pid]? = some (.create ⟨c, .done created⟩)) :
    (∃ n, StepRun CreateProc.step ⟨c, .getActiveSale⟩ ⟨c, .done created⟩ n) ∧
      ∀ n, StepRun CreateProc.step ⟨c, .getActiveSale⟩ ⟨c, .done created⟩ n →
        if created then n = 2 else n ≤ 1 := by
  refine ⟨runsFromStart hw pid _ hp, fun n hr => ?_⟩
  have h := hr.inv (I := fun q n => q.pc.Wrote n) (fun hs => (CreateProc.step_wrote hs).2 _) rfl
  -- `CreatePc.Wrote` at the returned point is the bound.
  cases created <;> exact h

/-- The outcome of a creator that returned. -/
def Proc.creatorOutcome : Proc → Option Bool
  | .create ⟨_, .done created⟩ => some created
  | _ => none

theorem Proc.eq_of_creatorOutcome {q : Proc} {created : Bool}
    (h : q.creatorOutcome = some created) : ∃ c, q = .create ⟨c, .done created⟩ := by
  unfold Proc.creatorOutcome at h
  split at h
  · cases h; exact ⟨_, rfl⟩
  · cases h

set_option maxRecDepth 100000 in
/-- `creator_outcome_writes` for two admin requests: the first one's `CreateItems` fails,
    so it returns an error after inserting its sale row, which stays without items; the
    second one creates its sale and its items. -/
theorem creator_outcome_writes_partial : ∃ w c₀ c₁, Reachable sampleFilter w ∧
    w.procs[0]? = some (.create ⟨c₀, .done false⟩) ∧ w.procs[1]? = some (.create ⟨c₁, .done true⟩) ∧
    (w.shared.db.store.sales.rows.map Sale.id = [1, 2]) ∧
    (∀ it ∈ w.shared.db.store.items.rows, it.saleId = 2) ∧
    ((∃ n, StepRun CreateProc.step ⟨c₀, .getActiveSale⟩ ⟨c₀, .done false⟩ n) ∧
      ∀ n, StepRun CreateProc.step ⟨c₀, .getActiveSale⟩ ⟨c₀, .done false⟩ n → n ≤ 1) ∧
    ((∃ n, StepRun CreateProc.step ⟨c₁, .getActiveSale⟩ ⟨c₁, .done true⟩ n) ∧
      ∀ n, StepRun CreateProc.step ⟨c₁, .getActiveSale⟩ ⟨c₁, .done true⟩ n → n = 2) := by
  obtain ⟨w, hw, h₀, h₁, hs, hi⟩ : ∃ w, Reachable sampleFilter w ∧
      w.procs[0]?.bind Proc.creatorOutcome = some false ∧
      w.procs[1]?.bind Proc.creatorOutcome = some true ∧
      w.shared.db.store.sales.rows.map Sale.id = [1, 2] ∧
      (∀ it ∈ w.shared.db.store.items.rows, it.saleId = 2) :=
    exists_reachable_of_run
      [.request (.createSale ⟨some 3600, some 7200, 11⟩), .step 0 true 1, .step 0 true 0,
        .step 0 false 100, .request (.createSale ⟨some 7200, some 10800, 3⟩), .step 1 true 2,
        .step 1 true 0, .step 1 true 200] (by decide)
  obtain ⟨q₀, hq₀, hr₀⟩ := Option.bind_eq_some.1 h₀
  obtain ⟨q₁, hq₁, hr₁⟩ := Option.bind_eq_some.1 h₁
  obtain ⟨c₀, rfl⟩ := Proc.eq_of_creatorOutcome hr₀
  obtain ⟨c₁, rfl⟩ := Proc.eq_of_creatorOutcome hr₁
  exact ⟨w, c₀, c₁, hw, hq₀, hq₁, hs, hi, creator_outcome_writes hw hq₀,
    creator_outcome_writes hw hq₁⟩

end World

end FlashSale
