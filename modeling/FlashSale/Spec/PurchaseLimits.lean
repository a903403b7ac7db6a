import FlashSale.Cache.PurchaseScript

/-!
# What the purchase script guarantees

While every value it reads stays below `2^53`, a Lua number is the integer itself and
the script is exact: with limits below `2^53`, counters that are not negative and any
`n ≥ 0`, one call of `AtomicPurchaseCheck` either raises both counters by exactly `n`
and returns true, when both stay within their limits, or changes nothing and returns
false; so calls from any number of clients keep counters that start within the limits
within them (`purchase_check_within_limits`). From `2^53` on, doubles skip integers:
with a sale limit of `2^53` and the sale counter at it, a call for one item passes the
check and leaves the counter above the limit (`purchase_check_exceeds_limit`).
-/

namespace FlashSale

/-! ### Lua numbers -/

namespace Lua

/-- Below `2^53` every integer is a double. -/
theorem ulpExp_of_lt {a : Nat} (h : a < 2 ^ 53) : ∀ n, ulpExp a n = 0
  | 0 => rfl
  | _ + 1 => if_pos h

/-- From `2^53` on, a double keeps its 53 leading bits: `a` has at least `52 + e` of them. -/
theorem ulpExp_spec : ∀ (n a : Nat), a ≤ n → 2 ^ 53 ≤ a →
    1 ≤ ulpExp a n ∧ 2 ^ 52 * 2 ^ ulpExp a n ≤ a
  | 0, a, h, h' => by omega
  | n + 1, a, h, h' => by
    rw [ulpExp, if_neg (by omega)]
    -- Halving keeps `a` at or above `2^53`, or stops the count at 1.
    by_cases h2 : 2 ^ 53 ≤ a / 2
    · obtain ⟨-, ih⟩ := ulpExp_spec n (a / 2) (by omega) h2
      refine ⟨by omega, ?_⟩
      calc 2 ^ 52 * 2 ^ (ulpExp (a / 2) n + 1) = 2 ^ 52 * 2 ^ ulpExp (a / 2) n * 2 := by
            rw [Nat.pow_succ 2 (ulpExp (a / 2) n), Nat.mul_assoc]
        _ ≤ a / 2 * 2 := Nat.mul_le_mul_right _ ih
        _ ≤ a := Nat.div_mul_le_self a 2
    · rw [ulpExp_of_lt (by omega)]
      omega

/-- Integers below `2^53` are their own double. -/
theorem roundNat_of_lt {a : Nat} (h : a < 2 ^ 53) : roundNat a = a := by
  simp [roundNat, ulpExp_of_lt h, Nat.mod_one]

/-- Rounding keeps an integer of `2^53` or more at `2^53` or more. -/
theorem le_roundNat {a : Nat} (h : 2 ^ 53 ≤ a) : 2 ^ 53 ≤ roundNat a := by
  obtain ⟨he, hle⟩ := ulpExp_spec a a le_rfl h
  have hu : 2 ≤ 2 ^ ulpExp a a := by
    calc 2 = 2 ^ 1 := rfl
      _ ≤ 2 ^ ulpExp a a := Nat.pow_le_pow_right (by decide) he
  have hq : 2 ^ 52 ≤ a / 2 ^ ulpExp a a := (Nat.le_div_iff_mul_le (Nat.two_pow_pos _)).2 hle
  unfold roundNat
  -- The rounded value is at least the truncation, `2^52` units of at least 2 each.
  calc 2 ^ 53 = 2 ^ 52 * 2 := rfl
    _ ≤ a / 2 ^ ulpExp a a * 2 ^ ulpExp a a := Nat.mul_le_mul hq hu
    _ ≤ _ := Nat.mul_le_mul_right _ (by split <;> omega)

/-- Rounding keeps a positive integer positive. -/
theorem roundNat_pos {a : Nat} (h : 0 < a) : 0 < roundNat a := by
  rcases Nat.lt_or_ge a (2 ^ 53) with h' | h'
  · rw [roundNat_of_lt h']; exact h
  · exact lt_of_lt_of_le (Nat.two_pow_pos 53) (le_roundNat h')

/-- `tonumber` is exact from 0 up to `2^53`. -/
theorem toNumber_of_lt {x : Int} (h₀ : 0 ≤ x) (h : x < 2 ^ 53) : toNumber x = x := by
  rw [toNumber, if_pos h₀, roundNat_of_lt (by omega), Int.toNat_of_nonneg h₀]

/-- `tonumber` of an integer of `2^53` or more is `2^53` or more. -/
theorem le_toNumber {x : Int} (h : 2 ^ 53 ≤ x) : 2 ^ 53 ≤ toNumber x := by
  rw [toNumber, if_pos (by omega)]
  exact_mod_cast le_roundNat (by omega)

/-- `tonumber` keeps a negative integer negative. -/
theorem toNumber_neg {x : Int} (h : x < 0) : toNumber x < 0 := by
  rw [toNumber, if_neg (by omega)]
  have := roundNat_pos (a := x.natAbs) (by omega)
  omega

/-- `tonumber` keeps a non-negative integer non-negative. -/
theorem toNumber_nonneg {x : Int} (h : 0 ≤ x) : 0 ≤ toNumber x := by
  rw [toNumber, if_pos h]; exact Int.ofNat_zero_le _

/-- A non-negative integer is exact, or it and its number are at least `2^53`. -/
theorem toNumber_cases {x : Int} (hx : 0 ≤ x) :
    (x < 2 ^ 53 ∧ toNumber x = x) ∨ (2 ^ 53 ≤ x ∧ 2 ^ 53 ≤ toNumber x) := by
  by_cases h : x < 2 ^ 53
  · exact .inl ⟨h, toNumber_of_lt hx h⟩
  · exact .inr ⟨by omega, le_toNumber (by omega)⟩

/-- An integer below `2^53` is exact, or it and its number are negative. -/
theorem toNumber_sign {x : Int} (hx : x < 2 ^ 53) :
    (x < 0 ∧ toNumber x < 0) ∨ (0 ≤ x ∧ toNumber x = x) := by
  by_cases h : x < 0
  · exact .inl ⟨h, toNumber_neg h⟩
  · exact .inr ⟨by omega, toNumber_of_lt (by omega) hx⟩

/-- `INCRBY` does not overflow on a result from 0 up to `2^53`. -/
theorem incrBy_of_lt {v n : Int} (h₀ : 0 ≤ v + n) (h : v + n < 2 ^ 53) :
    incrBy v n = some (v + n) :=
  if_pos ⟨by omega, by omega⟩

end Lua

/-! ### One call -/

namespace Cache

section Script

variable {c : Cache} {saleId : SaleId} {userId : UserId} {n maxS maxU : Int}

/-- The sale check of the script refuses exactly the calls that would pass the sale limit. -/
theorem saleCheck_iff (hS : maxS < 2 ^ 53) (hn : 0 ≤ n) (hcs : 0 ≤ c.saleItemsSold saleId) :
    Lua.toNumber maxS < Lua.toNumber (Lua.toNumber (c.saleItemsSold saleId) + Lua.toNumber n) ↔
      ¬ c.saleItemsSold saleId + n ≤ maxS := by
  have h₁ := Lua.toNumber_nonneg hcs
  have h₂ := Lua.toNumber_nonneg hn
  -- Each number read is exact or at least `2^53`, past the limit either way.
  rcases Lua.toNumber_cases hcs with ⟨a₁, b₁⟩ | ⟨a₁, b₁⟩ <;>
  rcases Lua.toNumber_cases hn with ⟨a₂, b₂⟩ | ⟨a₂, b₂⟩ <;>
  rcases Lua.toNumber_cases (Int.add_nonneg h₁ h₂) with ⟨a₃, b₃⟩ | ⟨a₃, b₃⟩ <;>
  rcases Lua.toNumber_sign hS with ⟨a₄, b₄⟩ | ⟨a₄, b₄⟩ <;> omega

/-- The user check refuses exactly the calls that would pass the user limit, once the item
    count is below `2^53`. -/
theorem userCheck_iff (hU : maxU < 2 ^ 53) (hn : 0 ≤ n) (hn' : n < 2 ^ 53)
    (hcu : 0 ≤ c.userItemCount userId saleId) :
    Lua.toNumber (Lua.toNumber maxU - Lua.toNumber (c.userItemCount userId saleId)) <
        Lua.toNumber n ↔
      ¬ c.userItemCount userId saleId + n ≤ maxU := by
  rw [Lua.toNumber_of_lt hn hn']
  have h₁ := Lua.toNumber_nonneg hcu
  -- The count is exact or at least `2^53`; the room left is exact or negative.
  rcases Lua.toNumber_cases hcu with ⟨a₁, b₁⟩ | ⟨a₁, b₁⟩ <;>
  rcases Lua.toNumber_sign hU with ⟨a₂, b₂⟩ | ⟨a₂, b₂⟩ <;>
  rcases Lua.toNumber_sign (x := Lua.toNumber maxU - Lua.toNumber (c.userItemCount userId saleId))
    (by omega) with ⟨a₃, b₃⟩ | ⟨a₃, b₃⟩ <;> omega

/-- The script is an atomic check-and-increment. -/
theorem purchaseLuaScript_eq (hS : maxS < 2 ^ 53) (hU : maxU < 2 ^ 53) (hn : 0 ≤ n)
    (hcs : 0 ≤ c.saleItemsSold saleId) (hcu : 0 ≤ c.userItemCount userId saleId) :
    c.purchaseLuaScript saleId userId n maxS maxU =
      if c.saleItemsSold saleId + n ≤ maxS ∧ c.userItemCount userId saleId + n ≤ maxU then
        (c.incrementCounters saleId userId n.toNat, some 1)
      else (c, some 0) := by
  unfold purchaseLuaScript
  dsimp only
  by_cases hs : c.saleItemsSold saleId + n ≤ maxS
  -- The sale check passes; `n` is then exact.
  · have hn' : n < 2 ^ 53 := by omega
    rw [if_neg fun h => (saleCheck_iff hS hn hcs).1 h hs]
    by_cases hu : c.userItemCount userId saleId + n ≤ maxU
    -- Both checks pass: the two `INCRBY`s do not overflow.
    · rw [if_neg fun h => (userCheck_iff hU hn hn' hcu).1 h hu, if_pos ⟨hs, hu⟩,
        Lua.toNumber_of_lt hn hn', Lua.incrBy_of_lt (by omega) (by omega)]
      dsimp only
      rw [Lua.incrBy_of_lt (by omega) (by omega)]
      simp [incrementCounters, Int.toNat_of_nonneg hn]
    -- The user check refuses.
    · rw [if_pos ((userCheck_iff hU hn hn' hcu).2 hu), if_neg fun h => hu h.2]
  -- The sale check refuses.
  · rw [if_pos ((saleCheck_iff hS hn hcs).2 hs), if_neg fun h => hs h.1]

/-- `AtomicPurchaseCheck` is the same check-and-increment, answering with a boolean. -/
theorem atomicPurchaseCheck_eq (hS : maxS < 2 ^ 53) (hU : maxU < 2 ^ 53) (hn : 0 ≤ n)
    (hcs : 0 ≤ c.saleItemsSold saleId) (hcu : 0 ≤ c.userItemCount userId saleId) :
    c.atomicPurchaseCheck saleId userId n maxS maxU =
      if c.saleItemsSold saleId + n ≤ maxS ∧ c.userItemCount userId saleId + n ≤ maxU then
        (c.incrementCounters saleId userId n.toNat, some true)
      else (c, some false) := by
  unfold atomicPurchaseCheck
  rw [purchaseLuaScript_eq hS hU hn hcs hcu]
  split_ifs <;> rfl

/-! ### Calls from many clients -/

/-- Every sale counter is between 0 and `maxS`, every user counter between 0 and `maxU`. -/
def CountersWithin (c : Cache) (maxS maxU : Int) : Prop :=
  (∀ s, 0 ≤ c.saleItemsSold s ∧ c.saleItemsSold s ≤ maxS) ∧
  ∀ u s, 0 ≤ c.userItemCount u s ∧ c.userItemCount u s ≤ maxU

/-- `AtomicPurchaseCheck` calls with the limits `maxS` and `maxU`, one after another. Each
    is one atomic script run, so these are all interleavings of the calls of any number of
    clients. -/
def runPurchaseChecks (maxS maxU : Int) : Cache → List (SaleId × UserId × Int) → Cache
  | c, [] => c
  | c, (s, u, n) :: rest =>
    runPurchaseChecks maxS maxU (c.atomicPurchaseCheck s u n maxS maxU).1 rest

/-- One call keeps the counters within the limits. -/
theorem CountersWithin.check (hS : maxS < 2 ^ 53) (hU : maxU < 2 ^ 53)
    (h : c.CountersWithin maxS maxU) (hn : 0 ≤ n) :
    (c.atomicPurchaseCheck saleId userId n maxS maxU).1.CountersWithin maxS maxU := by
  rw [atomicPurchaseCheck_eq hS hU hn (h.1 saleId).1 (h.2 userId saleId).1]
  split
  -- The call passed: only the two counters it checked grow, and they stay within.
  · next hok =>
    refine ⟨fun s => ?_, fun u s => ?_⟩
    · have := h.1 s
      simp only [incrementCounters, set1, Int.toNat_of_nonneg hn]
      split <;> [subst s; skip] <;> omega
    · have := h.2 u s
      simp only [incrementCounters, set2, Int.toNat_of_nonneg hn]
      split <;> [obtain ⟨rfl, rfl⟩ := ‹_ ∧ _›; skip] <;> omega
  · exact h

end Script

end Cache

/-- Purchase script atomicity and bounds, for limits below `2^53`. A call of
    `AtomicPurchaseCheck` on counters that are not negative, with any `n ≥ 0`, raises both
    counters by exactly `n` and returns true when both stay within their limits, and
    otherwise changes nothing and returns false. Hence calls from any number of clients,
    each with `n ≥ 0`, keep counters that start within the limits within them. -/
theorem purchase_check_within_limits {maxS maxU : Int} (hS : maxS < 2 ^ 53) (hU : maxU < 2 ^ 53) :
    (∀ (c : Cache) (saleId : SaleId) (userId : UserId) (n : Int), 0 ≤ n →
      0 ≤ c.saleItemsSold saleId → 0 ≤ c.userItemCount userId saleId →
      c.atomicPurchaseCheck saleId userId n maxS maxU =
        if c.saleItemsSold saleId + n ≤ maxS ∧ c.userItemCount userId saleId + n ≤ maxU then
          (c.incrementCounters saleId userId n.toNat, some true)
        else (c, some false)) ∧
    ∀ (c : Cache) (calls : List (SaleId × UserId × Int)), (∀ call ∈ calls, 0 ≤ call.2.2) →
      c.CountersWithin maxS maxU →
        (c.runPurchaseChecks maxS maxU calls).CountersWithin maxS maxU := by
  refine ⟨fun c _ _ _ hn hcs hcu => Cache.atomicPurchaseCheck_eq hS hU hn hcs hcu,
    fun c calls => ?_⟩
  -- The calls one after another, each keeping the counters within the limits.
  induction calls generalizing c with
  | nil => exact fun _ h => h
  | cons call rest ih =>
    obtain ⟨s, u, n⟩ := call
    intro hn h
    exact ih _ (fun call hc => hn call (List.mem_cons_of_mem _ hc))
      (h.check hS hU (hn _ (List.mem_cons_self _ _)))

/-- `purchase_check_within_limits` with the limits of the service, 10000 per sale and 10 per
    user. -/
theorem purchase_check_within_limits_service : (10000 : Int) < 2 ^ 53 ∧ (10 : Int) < 2 ^ 53 ∧
    (∀ (c : Cache) (saleId : SaleId) (userId : UserId) (n : Int), 0 ≤ n →
      0 ≤ c.saleItemsSold saleId → 0 ≤ c.userItemCount userId saleId →
      c.atomicPurchaseCheck saleId userId n 10000 10 =
        if c.saleItemsSold saleId + n ≤ 10000 ∧ c.userItemCount userId saleId + n ≤ 10 then
          (c.incrementCounters saleId userId n.toNat, some true)
        else (c, some false)) ∧
    ∀ (c : Cache) (calls : List (SaleId × UserId × Int)), (∀ call ∈ calls, 0 ≤ call.2.2) →
      c.CountersWithin 10000 10 → (c.runPurchaseChecks 10000 10 calls).CountersWithin 10000 10 :=
  ⟨by decide, by decide, purchase_check_within_limits (by decide) (by decide)⟩

/-- A sale counter at `2^53`. -/
def saleAtLimit : Cache := { Cache.empty sampleFilter with saleItemsSold := fun _ => 2 ^ 53 }

/-- With the sale limit `2^53` and sale 1's counter at it, a call for one item of user 7
    returns true and leaves the counter at `2^53 + 1`: `tonumber` rounds `2^53 + 1` to
    `2^53`, which does not pass the limit. -/
theorem purchase_check_exceeds_limit :
    (saleAtLimit.atomicPurchaseCheck 1 7 1 (2 ^ 53) 10).2 = some true ∧
    (saleAtLimit.atomicPurchaseCheck 1 7 1 (2 ^ 53) 10).1.saleItemsSold 1 = 2 ^ 53 + 1 := by
  decide

end FlashSale
