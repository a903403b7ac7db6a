import FlashSale.Cache.Bloom

/-!
# The sold-items filter has no false negatives

`RedisBloomFilter.Add` sets the `k` offsets `((h1 + i·h2) mod 2^64) mod m` of an element
and `Contains` reads the same offsets (both are `bitPositions`). Bits are only ever set,
so an element once added stays reported present, whatever is added after it
(`filter_no_false_negatives`). Each offset is below `m`; Go passes it to Redis as
`int64(bitPos)`, which is the offset itself only while it is below `2^63`. For a filter
wider than that, the empty string's FNV-1a hash is already such an offset
(`bitPos_negative_int64`). The deployed filter has `m = 958506`.
-/

namespace FlashSale

namespace RedisBloomFilter

variable {α : Type} (bf : RedisBloomFilter α)

/-- `Add` keeps every bit already set. -/
theorem mem_foldl_add {bits : List UInt64} {p : UInt64} (hp : p ∈ bits) (xs : List α) :
    p ∈ xs.foldl bf.add bits := by
  induction xs generalizing bits with
  | nil => exact hp
  | cons x xs ih => exact ih (List.mem_append_left _ hp)

/-- After a sequence of `Add`s every offset of an added element is set. -/
theorem bitPositions_subset_foldl_add (bits : List UInt64) {xs : List α} {x : α} (hx : x ∈ xs) :
    ∀ p ∈ bf.bitPositions x, p ∈ xs.foldl bf.add bits := by
  induction xs generalizing bits with
  | nil => cases hx
  | cons y ys ih =>
    intro p hp
    rcases List.mem_cons.1 hx with rfl | hx
    -- The head: its offsets are set now, and later Adds only set more.
    · exact bf.mem_foldl_add (List.mem_append_right _ hp) ys
    · exact ih _ hx p hp

/-- An offset is `h mod m`, below `m` as soon as `m ≥ 1`. -/
theorem bitPositions_lt (hm : 0 < bf.m.toNat) (x : α) :
    ∀ p ∈ bf.bitPositions x, p.toNat < bf.m.toNat := by
  intro p hp
  obtain ⟨h, -, rfl⟩ := List.mem_map.1 hp
  rw [UInt64.toNat_mod]
  exact Nat.mod_lt _ hm

/-- There are `k` offsets. -/
@[simp] theorem length_bitPositions (x : α) : (bf.bitPositions x).length = bf.k.toNat := by
  simp [bitPositions, getHashes]

end RedisBloomFilter

/-- No false negatives. Take a filter with `m ≥ 1`, any bit array and any sequence of
    `Add`s on it. Every element added is reported present by `Contains`; each element has
    `k` offsets, each below `m`; and when `m ≤ 2^63`, `int64(bitPos)` is the offset
    itself, so it is non-negative. -/
theorem filter_no_false_negatives {α : Type} (bf : RedisBloomFilter α) (hm : 0 < bf.m.toNat)
    (bits : List UInt64) (xs : List α) :
    (∀ x ∈ xs, bf.contains (xs.foldl bf.add bits) x = true) ∧
    (∀ x, (bf.bitPositions x).length = bf.k.toNat ∧
      ∀ p ∈ bf.bitPositions x, p.toNat < bf.m.toNat) ∧
    (bf.m.toNat ≤ 2 ^ 63 → ∀ x, ∀ p ∈ bf.bitPositions x, int64Of p = p.toNat) := by
  refine ⟨fun x hx => ?_, fun x => ⟨bf.length_bitPositions x, bf.bitPositions_lt hm x⟩,
    fun h63 x p hp => if_pos ((bf.bitPositions_lt hm x p hp).trans_le h63)⟩
  -- Contains checks every offset of x, and each was set when x was added.
  simp only [RedisBloomFilter.contains, List.all_eq_true, List.elem_eq_mem, decide_eq_true_eq]
  exact bf.bitPositions_subset_foldl_add bits hx

/-- `filter_no_false_negatives` for the deployed sizes, after adding items 100 and 101
    to an empty array. -/
theorem filter_no_false_negatives_sample : 0 < sampleFilter.m.toNat ∧
    (∀ x ∈ [100, 101], sampleFilter.contains ([100, 101].foldl sampleFilter.add []) x = true) ∧
    (∀ x, (sampleFilter.bitPositions x).length = sampleFilter.k.toNat ∧
      ∀ p ∈ sampleFilter.bitPositions x, p.toNat < sampleFilter.m.toNat) ∧
    (sampleFilter.m.toNat ≤ 2 ^ 63 → ∀ x, ∀ p ∈ sampleFilter.bitPositions x, int64Of p = p.toNat) :=
  ⟨by decide, filter_no_false_negatives sampleFilter (by decide) [] [100, 101]⟩

/-- A filter of `m = 2^64 - 1` bits and one hash: the only offset of the empty string is
    its FNV-1a hash `0xcbf29ce484222325`, whatever `hash2` is, and `int64` makes it
    negative. -/
theorem bitPos_negative_int64 : ∃ p : UInt64,
    (∀ sha256Prefix, (newRedisBloomFilter 18446744073709551615 1 sha256Prefix).bitPositions "" =
      [p]) ∧ int64Of p < 0 := by
  refine ⟨14695981039346656037, fun h2 => ?_, by decide⟩
  -- With one hash the offset is hash1 + 0 * hash2, whatever hash2 is.
  have h0 : ∀ y : UInt64, (0 : Nat).toUInt64 * y = 0 := fun y =>
    UInt64.eq_of_toBitVec_eq (show (0 : BitVec 64) * y.toBitVec = 0 from BitVec.zero_mul)
  simp only [newRedisBloomFilter, RedisBloomFilter.bitPositions, RedisBloomFilter.getHashes,
    show List.range (UInt64.toNat 1) = [0] from rfl, List.map_cons, List.map_nil, h0]
  decide

end FlashSale
