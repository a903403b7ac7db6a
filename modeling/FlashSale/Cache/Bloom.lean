import Mathlib.Data.List.Basic
import Mathlib.Algebra.Group.Int

/-!
# The sold-items filter

`bloom.RedisBloomFilter` of `postgres/connection.go`: a bit array stored under one
Redis key, with `k` bit offsets per element obtained by double hashing,
`hashes[i] = h1 + i * h2` in `uint64` arithmetic, reduced modulo `m`.

The two base hashes are library functions (`hash/fnv` FNV-1a and the first eight
bytes of `crypto/sha256`); they are parameters of the filter, and `newRedisBloomFilter`
fixes the first to FNV-1a for string elements. The bit array is the list of offsets
set to 1; `SETBIT` is idempotent, so repetitions do not matter. Both commands take the
offset as `int64(bitPos)`.
-/

namespace FlashSale

/-- `RedisBloomFilter`, with its size `m`, hash count `k` and base hashes. -/
structure RedisBloomFilter (α : Type) where
  m : UInt64
  k : UInt64
  hash1 : α → UInt64
  hash2 : α → UInt64

namespace RedisBloomFilter

variable {α : Type} (bf : RedisBloomFilter α)

/-- `getHashes`: `hashes[i] = h1 + i*h2` for `i < k`, wrapping at `2^64`. -/
def getHashes (x : α) : List UInt64 :=
  (List.range bf.k.toNat).map fun i => bf.hash1 x + i.toUInt64 * bf.hash2 x

/-- The bit offsets `hashes[i] % m` that `Add` sets and `Contains` reads. -/
def bitPositions (x : α) : List UInt64 := (bf.getHashes x).map (· % bf.m)

/-- `Add`: one `SETBIT` to 1 per offset. -/
def add (bits : List UInt64) (x : α) : List UInt64 := bits ++ bf.bitPositions x

/-- `Contains`: every offset reads 1. -/
def contains (bits : List UInt64) (x : α) : Bool := (bf.bitPositions x).all (bits.contains ·)

/-- An empty bit array contains nothing, as soon as there is one hash. -/
theorem contains_nil (h : 0 < bf.k.toNat) (x : α) : bf.contains [] x = false := by
  obtain ⟨n, hn⟩ : ∃ n, bf.k.toNat = n + 1 := ⟨bf.k.toNat - 1, by omega⟩
  simp [contains, bitPositions, getHashes, hn, List.range_succ_eq_map]

end RedisBloomFilter

/-- `int64(x)` of a `uint64`: Go keeps the 64 bits and reads them in two's complement. -/
def int64Of (x : UInt64) : Int := if x.toNat < 2 ^ 63 then x.toNat else x.toNat - 2 ^ 64

/-- `hash1`: FNV-1a with 64 bits (`fnv.New64a`, `Write`, `Sum64`). -/
def fnv1a64 (data : List UInt8) : UInt64 :=
  data.foldl (fun h b => (h ^^^ b.toUInt64) * 1099511628211) 14695981039346656037

/-- `NewRedisBloomFilter(client, key, m, k)` on strings: `hash1` is FNV-1a of the UTF-8
    bytes; `hash2`, the first eight bytes of SHA-256 read big-endian, stays a parameter. -/
def newRedisBloomFilter (m k : UInt64) (sha256Prefix : String → UInt64) :
    RedisBloomFilter String :=
  { m, k, hash1 := fun x => fnv1a64 x.toUTF8.data.toList, hash2 := sha256Prefix }

/-- The filter `NewCache` builds on `bloom:sold_items`:
    `GetOptimalParameters(100000, 0.01)` evaluates to `m = 958506`, `k = 7`. -/
def soldItemsFilter {α : Type} (hash1 hash2 : α → UInt64) : RedisBloomFilter α :=
  { m := 958506, k := 7, hash1, hash2 }

/-- The deployed filter with `hash1` the identifier itself and `hash2` constant, for the
    concrete histories of the `Spec` modules. Those histories ask the filter only about
    identifiers on an empty filter or identifiers added before, which every pair of
    hash functions answers alike (`contains_nil`, and an added identifier's offsets
    are all set). -/
def sampleFilter : RedisBloomFilter Nat := soldItemsFilter (fun x => x.toUInt64) (fun _ => 1)

end FlashSale
