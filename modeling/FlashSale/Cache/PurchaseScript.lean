import FlashSale.Cache.Redis

/-!
# The purchase script

`Cache.AtomicPurchaseCheck` runs `purchaseLuaScript` on the keys
`sale:{S}:items_sold` and `user:{U}:sale:{S}:count` with the arguments
`itemCount, maxSaleItems, maxUserItems`. Redis runs a script as one atomic step.
The purchase engine does not call it.

Lua 5.1 has one number type, the IEEE double. `tonumber` of a counter's decimal text
or of an argument gives the double nearest to it, and `+` and `-` round their exact
result the same way; all the values here are integers, so a double is an integer
with at most 53 significant bits. A number passed to `redis.call` is sent back as
the integer it holds, and `INCRBY` adds it in 64-bit arithmetic and fails on
overflow. A failing `redis.call` aborts the script with an error; writes made before
it stay. The `redis.log` lines change nothing.
-/

namespace FlashSale

namespace Lua

/-- The exponent `e` of the last significant bit of a double near `a`: the least `e`
    with `a / 2^e < 2^53`, within `n` halvings. -/
def ulpExp (a : Nat) : Nat → Nat
  | 0 => 0
  | n + 1 => if a < 2 ^ 53 then 0 else ulpExp (a / 2) n + 1

/-- The double nearest to `a`, ties to even: `a` rounded to a multiple of
    `2^(ulpExp a a)`. -/
def roundNat (a : Nat) : Nat :=
  let u := 2 ^ ulpExp a a
  let q := a / u
  let r := a % u
  (if u < 2 * r ∨ (2 * r = u ∧ q % 2 = 1) then q + 1 else q) * u

/-- The Lua number of an integer: `tonumber` of its decimal text, and the result of
    `+` or `-` on numbers whose exact result is the integer. -/
def toNumber (x : Int) : Int :=
  if 0 ≤ x then roundNat x.toNat else -(roundNat x.natAbs : Int)

/-- `INCRBY` of `n` on a counter holding `v`, `none` for the overflow error. -/
def incrBy (v n : Int) : Option Int :=
  if -2 ^ 63 ≤ v + n ∧ v + n < 2 ^ 63 then some (v + n) else none

end Lua

namespace Cache

/-- `purchaseLuaScript`: the cache after it, and its reply (1 or 0), `none` when a
    `redis.call` fails and the script aborts. -/
def purchaseLuaScript (c : Cache) (saleId : SaleId) (userId : UserId)
    (itemCount maxSaleItems maxUserItems : Int) : Cache × Option Int :=
  let itemCount := Lua.toNumber itemCount
  let maxSaleItems := Lua.toNumber maxSaleItems
  let maxUserItems := Lua.toNumber maxUserItems
  let currentSaleCount := Lua.toNumber (c.saleItemsSold saleId)
  let currentUserCount := Lua.toNumber (c.userItemCount userId saleId)
  if maxSaleItems < Lua.toNumber (currentSaleCount + itemCount) then (c, some 0)
  else
    let remainingUserCapacity := Lua.toNumber (maxUserItems - currentUserCount)
    if remainingUserCapacity < itemCount then (c, some 0)
    else
      match Lua.incrBy (c.saleItemsSold saleId) itemCount with
      | none => (c, none)
      | some sold =>
        let c := { c with saleItemsSold := set1 c.saleItemsSold saleId sold }
        match Lua.incrBy (c.userItemCount userId saleId) itemCount with
        | none => (c, none)
        | some count =>
          ({ c with userItemCount := set2 c.userItemCount userId saleId count }, some 1)

/-- `AtomicPurchaseCheck`: whether the script returned 1, `none` for its error. -/
def atomicPurchaseCheck (c : Cache) (saleId : SaleId) (userId : UserId)
    (itemCount maxSaleItems maxUserItems : Int) : Cache × Option Bool :=
  let (c, reply) := c.purchaseLuaScript saleId userId itemCount maxSaleItems maxUserItems
  (c, reply.map (· == 1))

end Cache

end FlashSale
