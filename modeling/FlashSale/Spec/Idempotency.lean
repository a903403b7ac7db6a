import FlashSale.Spec.SoldItems

/-!
# Purchase idempotency

`ExecutePurchase(c)` may run many times, concurrently, with the lock on `c` expiring
or released by another call, and with commits refused. The idempotency record in
`purchase_results` and the serializable transaction make at most one transaction of
`c` commit, in every reachable world. A call that returns success is the one whose
transaction committed, so every other call returns an error. That error is not
always a lock denial, `ErrCheckoutNotFound` or `ErrCheckoutAlreadyProcessed`: a call
whose commits all fail returns the commit error (`purchase_returns_commit_error`).

## Key results

- `purchase_idempotent`: at most one commit per code; a call that returned success
  committed; and while only purchases of `c` run, the committed store changes only
  at that commit.
- `purchase_returns_commit_error`: a history where the only call of a code returns
  the commit error and nothing committed.
-/

namespace FlashSale

/-- Event `e` of world `w` starts or runs a purchase of code `c`, advances the clock,
    or expires a key. -/
def PurchaseEvent (c : Code) (w : World) : Event → Prop
  | .request r => r = .purchase c
  | .step pid _ _ => ∃ p, w.procs[pid]? = some (.purchase p) ∧ p.code = c
  | .tick _ | .expire _ => True

/-- `w'` follows `w` by events that only start or run purchases of `c`, advance the
    clock or expire keys. -/
inductive OnlyPurchases (c : Code) : World → World → Prop
  | refl (w : World) : OnlyPurchases c w w
  | step {w w₁ w₂ : World} {e : Event} : OnlyPurchases c w w₁ → PurchaseEvent c w₁ e →
      w₁.step e = some w₂ → OnlyPurchases c w w₂

/-- A purchase that returned a result, with its code. -/
def Proc.purchaseResult : Proc → Option (Code × PurchaseResult)
  | .purchase ⟨c, .done (.ok r)⟩ => some (c, r)
  | _ => none

theorem Proc.eq_of_purchaseResult {q : Proc} {c : Code} {r : PurchaseResult}
    (h : q.purchaseResult = some (c, r)) : q = .purchase ⟨c, .done (.ok r)⟩ := by
  unfold Proc.purchaseResult at h
  split at h
  · cases h; rfl
  · cases h

/-- The code and error of a purchase that returned an error. -/
def Proc.purchaseError : Proc → Option (Code × Error)
  | .purchase ⟨c, .done (.error e)⟩ => some (c, e)
  | _ => none

theorem Proc.eq_of_purchaseError {q : Proc} {c : Code} {e : Error}
    (h : q.purchaseError = some (c, e)) : q = .purchase ⟨c, .done (.error e)⟩ := by
  unfold Proc.purchaseError at h
  split at h
  · cases h; rfl
  · cases h

/-! ### One commit per code -/

/-- The committed purchases have distinct codes: each saved the only result row of
    its code. -/
theorem StoreInv.codes_nodup {s : Shared} (hs : StoreInv s) : (s.commits.map (·.code)).Nodup := by
  have := s.db.store.results.pk
  rwa [hs.results, List.map_map] at this

private theorem length_filter_code_le_one {l : List Commit} (h : (l.map (·.code)).Nodup) (c : Code) :
    (l.filter fun cm => cm.code = c).length ≤ 1 := by
  -- The codes of the filtered commits are all `c`, and distinct: at most one.
  have hc : ∀ b ∈ (l.filter fun cm => cm.code = c).map (·.code), b = c := by
    intro b hb
    obtain ⟨cm, hcm, rfl⟩ := List.mem_map.1 hb
    simpa using (List.mem_filter.1 hcm).2
  have hsub := h.sublist ((List.filter_sublist (p := fun cm => decide (cm.code = c)) l).map (·.code))
  rwa [List.eq_replicate_iff.2 ⟨List.length_map _ _, hc⟩, List.nodup_replicate] at hsub

theorem OnlyPurchases.reachable {bf : RedisBloomFilter ItemId} {c : Code} {w w' : World}
    (hw : Reachable bf w) (h : OnlyPurchases c w w') : Reachable bf w' := by
  induction h with
  | refl => exact hw
  | step _ _ hs ih => exact .step _ ih hs

theorem OnlyPurchases.commits_mem {bf : RedisBloomFilter ItemId} {c : Code} {w w' : World}
    (hw : Reachable bf w) (h : OnlyPurchases c w w') {cm : Commit} (hcm : cm ∈ w.shared.commits) :
    cm ∈ w'.shared.commits := by
  induction h with
  | refl => exact hcm
  | step h₁ _ hs ih => exact (reachable_storeStep (h₁.reachable hw) hs).grows.commits _ ih

/-- A purchase event of `c` leaves the committed store as it is, or commits a
    purchase of `c`. -/
theorem PurchaseEvent.store {c : Code} {w w' : World} {e : Event} (hi : Inv w)
    (he : PurchaseEvent c w e) (h : w.step e = some w') :
    w'.shared.db.store = w.shared.db.store ∨
      ∃ cm, cm.code = c ∧ w'.shared.commits = w.shared.commits ++ [cm] := by
  rcases (hi.step h).2 with hq | ⟨pid, _, _, p, ch, rfl, hp, hcode, tx, sale, items, succ, _, _, _, hw'⟩ |
    ⟨pid, _, _, c', rfl, hp, _⟩
  -- Quiet steps keep the store; a commit is by a purchase of `c`; a creator does not
  -- step in such a run.
  · exact .inl hq.store
  · obtain ⟨p', hp', rfl⟩ := he
    rw [hp] at hp'; cases hp'
    exact .inr ⟨_, hcode, by rw [hw']; rfl⟩
  · obtain ⟨p', hp', -⟩ := he
    rw [hp] at hp'; cases hp'

/-- Purchase idempotency. In every reachable world at most one transaction of code `c`
    has committed; a call of `c` that returned success is the one that committed, and
    returned the result it saved; and from any reachable world, while only purchases of
    `c` run (with the lock expiring and commits failing at will), the committed store
    stays as it is until the single commit of `c`, and as that commit left it afterwards. -/
theorem purchase_idempotent {bf : RedisBloomFilter ItemId} {w : World} (hw : Reachable bf w)
    (c : Code) :
    (w.shared.commits.filter fun cm => cm.code = c).length ≤ 1 ∧
    (∀ pid p r, w.procs[pid]? = some (.purchase p) → p.code = c → p.pc = .done (.ok r) →
      ∃ cm ∈ w.shared.commits, cm.pid = pid ∧ cm.code = c ∧ cm.result = r) ∧
    ∀ w', OnlyPurchases c w w' → w'.shared.db.store = w.shared.db.store ∨
      ∃ w₁ e w₂, OnlyPurchases c w w₁ ∧ w₁.shared.db.store = w.shared.db.store ∧
        w₁.step e = some w₂ ∧
        (∃ cm, cm.code = c ∧ w₂.shared.commits = w₁.shared.commits ++ [cm]) ∧
        OnlyPurchases c w₂ w' ∧ w'.shared.db.store = w₂.shared.db.store := by
  have hi := reachable_inv hw
  refine ⟨length_filter_code_le_one hi.store.codes_nodup c, fun pid p r hp hc hpc => ?_,
    fun w' h => ?_⟩
  -- A returned result is the saved result of the call's own commit.
  · have := hi.procs pid _ hp
    simp only [ProcInv, PurchaseInv, hpc] at this
    exact hc ▸ (this r rfl).1
  -- Along the run: before the commit of `c` the store is the first one, after it the
  -- store that commit left.
  · induction h with
    | refl => exact .inl rfl
    | @step w₁ w₂ e h₁ he hs ih =>
      have hw₁ := h₁.reachable hw
      rcases PurchaseEvent.store (reachable_inv hw₁) he hs with hst | ⟨cm, hcm, hcommits⟩
      -- The event leaves the store as it is.
      · rcases ih with ih | ⟨v₁, f, v₂, hv₁, hv₁s, hf, hcm', hv₂, hst'⟩
        · exact .inl (hst.trans ih)
        · exact .inr ⟨v₁, f, v₂, hv₁, hv₁s, hf, hcm', .step hv₂ he hs, hst.trans hst'⟩
      -- The event commits a purchase of `c`: the first such commit, since a second one
      -- would break the uniqueness of codes.
      · rcases ih with ih | ⟨v₁, f, v₂, hv₁, -, hf, ⟨cm', hcm', hv⟩, hv₂, -⟩
        · exact .inr ⟨w₁, e, w₂, h₁, ih, hs, ⟨cm, hcm, hcommits⟩, .refl _, rfl⟩
        · exfalso
          have hmem : cm' ∈ w₁.shared.commits :=
            hv₂.commits_mem ((hv₁.reachable hw).step _ hf) (by simp [hv])
          have hle := length_filter_code_le_one (reachable_inv (hw₁.step _ hs)).store.codes_nodup c
          rw [hcommits, List.filter_append, List.length_append] at hle
          have : 0 < (w₁.shared.commits.filter fun cm => cm.code = c).length :=
            List.length_pos_of_mem (List.mem_filter.2 ⟨hmem, by simpa using hcm'⟩)
          have h1 : ([cm].filter fun cm => cm.code = c).length = 1 := by simp [hcm]
          omega

set_option maxRecDepth 100000 in
/-- `purchase_idempotent` for code 500 after `cleanedRun`, where the call of code 500
    committed once and returned its result. -/
theorem purchase_idempotent_cleaned : ∃ w r, Reachable sampleFilter w ∧
    w.procs[2]? = some (.purchase ⟨500, .done (.ok r)⟩) ∧
    (w.shared.commits.filter fun cm => cm.code = 500).length = 1 ∧
    (w.shared.commits.filter fun cm => cm.code = 500).length ≤ 1 ∧
    (∀ pid p r, w.procs[pid]? = some (.purchase p) → p.code = 500 → p.pc = .done (.ok r) →
      ∃ cm ∈ w.shared.commits, cm.pid = pid ∧ cm.code = 500 ∧ cm.result = r) ∧
    ∀ w', OnlyPurchases 500 w w' → w'.shared.db.store = w.shared.db.store ∨
      ∃ w₁ e w₂, OnlyPurchases 500 w w₁ ∧ w₁.shared.db.store = w.shared.db.store ∧
        w₁.step e = some w₂ ∧
        (∃ cm, cm.code = 500 ∧ w₂.shared.commits = w₁.shared.commits ++ [cm]) ∧
        OnlyPurchases 500 w₂ w' ∧ w'.shared.db.store = w₂.shared.db.store := by
  obtain ⟨w, hw, h₂, hone⟩ : ∃ w, Reachable sampleFilter w ∧
      (w.procs[2]?.bind Proc.purchaseResult).map Prod.fst = some 500 ∧
      (w.shared.commits.filter fun cm => cm.code = 500).length = 1 :=
    exists_reachable_of_run cleanedRun (by decide)
  obtain ⟨⟨c, r⟩, hr, hc⟩ := Option.map_eq_some'.1 h₂
  obtain ⟨q, hq, hres⟩ := Option.bind_eq_some.1 hr
  cases hc
  obtain rfl := Proc.eq_of_purchaseResult hres
  exact ⟨w, r, hw, hq, hone, purchase_idempotent hw 500⟩

set_option maxRecDepth 100000 in
/-- A call that does not commit returns an error other than a lock denial,
    `ErrCheckoutNotFound` or `ErrCheckoutAlreadyProcessed`: in `retriedPurchase` both
    attempts of the only call of code 500 fail to commit, nothing commits, and the call
    returns the commit error. -/
theorem purchase_returns_commit_error : ∃ w, Reachable sampleFilter w ∧
    w.procs[2]?.bind Proc.purchaseError = some (500, .commitFailed) ∧ w.shared.commits.length = 0 :=
  exists_reachable_of_run retriedPurchase (by decide)

end FlashSale
