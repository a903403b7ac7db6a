import FlashSale.Spec.Transactions

/-!
# The purchase lock

`ExecutePurchase(c)` takes `lock:purchase:{c}` with `SETNX` and a 3 s TTL before its
retry loop, and its deferred `ReleaseLock` deletes the key with a plain `DEL`, whoever
set it. A call holds the lock of `c` from a `DistributedLock` that set the key to its
return. The key is the token of the lock: a step that takes the lock sets the key,
and no other step sets it; a holder that returns may delete it. So the holders of `c`
never outnumber the key, until the key expires under a holder: each expiry lets one
more call in.

## Key results

- `PurchaseProc.step_lock`: one step of a purchase changes the holders of `c` by at
  most what it does to the key.
- `World.step_lock`: the same for every event, an expiry of the key counting as one.
- `purchase_lock_exclusive`: in every run from a fresh deployment, the calls of code `c`
  between their lock and their return number at most one more than the expiries of
  the key in the run; with no expiry they exclude each other.
-/

namespace FlashSale

/-- The process is `ExecutePurchase(c)` between a `DistributedLock` that set the key and
    its return. -/
def Proc.holdsLock (c : Code) : Proc → Bool
  | .purchase p => p.code == c && p.pc.pastLock
  | _ => false

/-- The event is the end of the TTL of `lock:purchase:{c}`. -/
def Event.expiresLock (c : Code) : Event → Bool
  | .expire (.lock c') => c' == c
  | _ => false

/-- The key `lock:purchase:{c}` is set, as a number. -/
def Shared.lockCount (s : Shared) (c : Code) : Nat := (s.cache.lock c).toNat

theorem Shared.lockCount_le_one (s : Shared) (c : Code) : s.lockCount c ≤ 1 := Bool.toNat_le _

/-! ### The calls that touch the key -/

/-- `DistributedLock` sets the key of its code and no other. -/
@[simp] theorem Cache.distributedLock_lock (cache : Cache) (code c : Code) :
    (cache.distributedLock code).1.lock c = (cache.lock c || c == code) := by
  unfold Cache.distributedLock
  -- `SETNX` on a set key changes nothing; on a free one it sets that key only.
  split <;> by_cases hc : c = code <;> simp_all [Cache.set1]

/-- `DistributedLock` reports that it set the key exactly when the key was free. -/
theorem Cache.distributedLock_locked (cache : Cache) (code : Code) :
    (cache.distributedLock code).2 = !cache.lock code := by
  unfold Cache.distributedLock
  split <;> simp_all

/-- `ReleaseLock` clears the key of its code and no other. -/
@[simp] theorem Cache.releaseLock_lock (cache : Cache) (code c : Code) :
    (cache.releaseLock code).lock c = (cache.lock c && c != code) := by
  by_cases hc : c = code <;> simp [Cache.releaseLock, Cache.set1, hc]

/-! ### The calls that leave the key alone -/

section Frame

variable {s s' : Shared} {pid : Nat} {ok : Bool} {fresh : Nat}

/-- An attempt never touches the lock keys. -/
theorem attemptStep_lock {ch : Checkout} {a : AttemptPc}
    {r : AttemptPc ⊕ Except Error PurchaseResult} (h : attemptStep s pid ch ok fresh a = (s', r)) :
    s'.cache.lock = s.cache.lock := by
  unfold attemptStep at h
  dsimp only at h
  repeat' split at h
  all_goals (obtain ⟨rfl, rfl⟩ := Prod.mk.inj h; rfl)

/-- Nor does a checkout. -/
theorem CheckoutProc.step_lock {p q : CheckoutProc} (h : p.step s ok fresh = some (s', q)) :
    s'.cache.lock = s.cache.lock := by
  unfold CheckoutProc.step at h
  dsimp only at h
  repeat' split at h
  all_goals (cases h <;> rfl)

/-- Nor does a sale creator. -/
theorem CreateProc.step_lock {p q : CreateProc} (h : p.step s ok fresh = some (s', q)) :
    s'.cache.lock = s.cache.lock := by
  rcases CreateProc.step_cases h with ⟨rfl, -⟩ | ⟨-, -, -, -, rfl, -⟩ | ⟨-, -, -, -, rfl, -⟩ <;> rfl

end Frame

/-! ### One step -/

section Steps

variable {s s' : Shared} {pid : Nat} {ok : Bool} {fresh : Nat}

/-- The holders a purchase step adds are paid for by the key: taking the lock sets the
    key of its code, and only a holder's return can clear it. -/
theorem PurchaseProc.step_lock {p q : PurchaseProc} (h : p.step s pid ok fresh = some (s', q))
    (c : Code) :
    (if (Proc.purchase q).holdsLock c then 1 else 0) + s.lockCount c ≤
      (if (Proc.purchase p).holdsLock c then 1 else 0) + s'.lockCount c := by
  obtain ⟨code, pc⟩ := p
  have hle := s.lockCount_le_one c
  cases pc with
  -- An attempt leaves the keys alone, and the retry loop stays past the lock.
  | attempt ch n a =>
    simp only [step] at h
    rcases hst : attemptStep s pid ch ok fresh a with ⟨s₁, a' | out⟩ <;> rw [hst] at h <;>
      obtain ⟨rfl, rfl⟩ := Prod.mk.inj (Option.some.inj h)
    · simp [Proc.holdsLock, PurchasePc.pastLock, Shared.lockCount, attemptStep_lock hst]
    · simp only [Proc.holdsLock, afterAttempt_pastLock, Shared.lockCount, attemptStep_lock hst]
      simp [PurchasePc.pastLock]
  -- `DistributedLock`: the call becomes a holder only by setting a free key.
  | lock ch =>
    simp only [step] at h
    repeat' split at h
    all_goals obtain ⟨rfl, rfl⟩ := Prod.mk.inj (Option.some.inj h)
    case isFalse.isTrue.intro hfree =>
      rw [Cache.distributedLock_locked, Bool.not_eq_true'] at hfree
      simp only [Proc.holdsLock, PurchasePc.pastLock, Shared.lockCount, Shared.setCache_cache,
        Cache.distributedLock_lock, Bool.and_true, Bool.and_false, Bool.toNat_false]
      by_cases hc : code = c
      · subst hc
        simp [hfree]
      · simp [beq_eq_false_iff_ne.2 hc, beq_eq_false_iff_ne.2 (Ne.symm hc)]
    all_goals simp [Proc.holdsLock, PurchasePc.pastLock]
  -- `ReleaseLock`: the holder returns and may clear its key, which makes up for it.
  | release out =>
    obtain ⟨rfl, rfl⟩ := Prod.mk.inj (Option.some.inj h)
    by_cases hc : code = c
    · subst hc
      simp only [Proc.holdsLock, PurchasePc.pastLock, beq_self_eq_true, Bool.and_true,
        Bool.and_false, Bool.false_eq_true, ↓reduceIte]
      omega
    · cases ok <;> simp [Proc.holdsLock, PurchasePc.pastLock, Shared.lockCount, Shared.endRequest,
        Shared.setCache, beq_eq_false_iff_ne.2 hc, bne_iff_ne.2 (Ne.symm hc)]
  | done out => cases h
  -- The other calls neither take the lock nor touch a key.
  | _ =>
    simp only [step] at h
    repeat' split at h
    all_goals obtain ⟨rfl, rfl⟩ := Prod.mk.inj (Option.some.inj h)
    all_goals simp [Proc.holdsLock, PurchasePc.pastLock, Shared.lockCount, Shared.setCache,
      Shared.setDb, Cache.setCheckoutCode, Cache.removeUserCheckoutCode, Cache.removeCheckoutCode]

/-- Every process step: a checkout or a sale creator neither holds a lock nor touches
    a key. -/
theorem Proc.step_lock {p q : Proc} (h : p.step s pid ok fresh = some (s', q)) (c : Code) :
    (if q.holdsLock c then 1 else 0) + s.lockCount c ≤
      (if p.holdsLock c then 1 else 0) + s'.lockCount c := by
  cases p with
  | checkout p =>
    obtain ⟨⟨s₁, p'⟩, hp, ⟨⟩⟩ := Option.map_eq_some'.1 h
    simp [Proc.holdsLock, Shared.lockCount, CheckoutProc.step_lock hp]
  | purchase p =>
    obtain ⟨⟨s₁, p'⟩, hp, ⟨⟩⟩ := Option.map_eq_some'.1 h
    exact PurchaseProc.step_lock hp c
  | create p =>
    obtain ⟨⟨s₁, p'⟩, hp, ⟨⟩⟩ := Option.map_eq_some'.1 h
    simp [Proc.holdsLock, Shared.lockCount, CreateProc.step_lock hp]

end Steps

/-! ### Runs -/

/-- The calls of code `c` that hold its lock. -/
def World.holders (w : World) (c : Code) : Nat := w.procs.countP (Proc.holdsLock c)

/-- Every event: the holders grow by at most what the key grows, plus one for an expiry
    of the key. -/
theorem World.step_lock {w w' : World} {e : Event} (h : w.step e = some w') (c : Code) :
    w'.holders c + w.shared.lockCount c ≤
      w.holders c + w'.shared.lockCount c + (if e.expiresLock c then 1 else 0) := by
  cases e with
  -- A new request holds no lock.
  | request r =>
    obtain rfl := Option.some.inj h
    cases r <;> simp [World.holders, Request.start, Proc.holdsLock, PurchasePc.pastLock]
  | tick d => obtain rfl := Option.some.inj h; simp [World.holders, Shared.lockCount]
  -- An expiry of the key clears it at the cost of the extra one; any other leaves it.
  | expire k =>
    obtain rfl := Option.some.inj h
    have hle := w.shared.lockCount_le_one c
    by_cases hk : k = .lock c
    · subst hk
      simp only [World.holders, Event.expiresLock, beq_self_eq_true, ↓reduceIte]
      omega
    · have : (w.shared.setCache (w.shared.cache.expire k)).lockCount c = w.shared.lockCount c := by
        cases k with
        | lock code =>
          have hc : c ≠ code := fun he => hk (he ▸ rfl)
          simp [Shared.lockCount, Shared.setCache, Cache.expire, bne_iff_ne.2 hc]
        | _ => rfl
      simp only [this, World.holders]
      omega
  | step pid ok fresh =>
    obtain ⟨p, s', q, hp, hstep, rfl⟩ := World.step_step h
    obtain ⟨hlt, rfl⟩ := List.getElem?_eq_some_iff.1 hp
    -- Only the stepping process's term of the count changes.
    have hcount := List.boole_getElem_le_countP (Proc.holdsLock c) w.procs pid hlt
    have hq := Proc.step_lock hstep c
    simp only [World.holders, List.countP_set _ _ _ _ hlt, Event.expiresLock]
    omega

/-- Over a run the holders grow by at most what the key grows plus the expiries of the
    key. -/
theorem World.run_lock (c : Code) :
    ∀ {w w' : World} {es : List Event}, w.run es = some w' →
      w'.holders c + w.shared.lockCount c ≤
        w.holders c + w'.shared.lockCount c + es.countP (Event.expiresLock c)
  | _, _, [], h => by cases h; omega
  | w, w', e :: es, h => by
    simp only [World.run, Option.bind_eq_some] at h
    obtain ⟨w₁, h₁, h⟩ := h
    have := World.step_lock h₁ c
    have := World.run_lock c h
    rw [List.countP_cons]
    omega

/-- The purchase lock excludes while its key lives. In every run from a fresh
    deployment, the `ExecutePurchase(c)` calls between a `DistributedLock` that set
    `lock:purchase:{c}` and their return number at most one more than the expiries of
    that key in the run. With no expiry at most one call is past its lock; each expiry
    admits one more, and the unconditional `DEL` of a returning call may free the key
    under a call that took it after the expiry. -/
theorem purchase_lock_exclusive (bf : RedisBloomFilter ItemId) (c : Code) {es : List Event}
    {w : World} (h : (World.init bf).run es = some w) :
    w.holders c ≤ 1 + es.countP (Event.expiresLock c) := by
  -- A fresh deployment has no holder and no key, and the key is at most one.
  have hrun := World.run_lock c h
  have hle := w.shared.lockCount_le_one c
  have h0 : (World.init bf).holders c = 0 := rfl
  have h0' : (World.init bf).shared.lockCount c = 0 := rfl
  omega

/-- User 7 checks out item 100 with code 500. `ExecutePurchase(500)` takes the lock, the
    key expires while it is in its first attempt, and a second `ExecutePurchase(500)`
    takes the lock as well. -/
def lockExpiryRun : List Event :=
  openSale ++ Event.firstCheckout 1 7 100 500 900 true ++
    [.request (.purchase 500)] ++ Event.steps 2 4 ++
    [.expire (.lock 500), .request (.purchase 500)] ++ Event.steps 3 4

/-- `purchase_lock_exclusive` is reached by `lockExpiryRun`: one expiry, two holders. -/
theorem purchase_lock_exclusive_expiry : ∃ w, (World.init sampleFilter).run lockExpiryRun = some w ∧
    w.holders 500 = 2 ∧ w.holders 500 ≤ 1 + lockExpiryRun.countP (Event.expiresLock 500) := by
  -- Evaluate the run and count its holders.
  have hr : ((World.init sampleFilter).run lockExpiryRun).elim false
      (fun w => decide (w.holders 500 = 2)) = true := by decide
  cases h : (World.init sampleFilter).run lockExpiryRun with
  | none => rw [h] at hr; cases hr
  | some w =>
    rw [h] at hr
    exact ⟨w, rfl, of_decide_eq_true hr, purchase_lock_exclusive sampleFilter 500 h⟩

end FlashSale
