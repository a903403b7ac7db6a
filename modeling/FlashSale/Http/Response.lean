import FlashSale.Domain

/-!
# Error responses

`response.MapDomainError` turns an error into an HTTP status and a body: it ranges over
the map `errorMappings` from sentinel errors to statuses, and answers with the first
entry whose key `errors.Is` finds in the error's `%w` chain, or with 500. Go ranges
over a map in an unspecified order, so the model takes the order as an argument, any
permutation of the entries.

The answer does not depend on that order: the keys are distinct sentinels, and the only
sentinel in an error's chain is the error at its end, since the engine wraps only with
`fmt.Errorf("...: %w", err)` and a sentinel wraps nothing. So the status is the one
the map gives to the end of the chain, and it agrees with the canonical status table of the API,
`specHttpStatus` (`mapDomainError_spec`). `response.Error` keeps only the message in the body.

## Key results

- `Error.is_iff_root`: `errors.Is` finds a sentinel in an error's chain exactly when it
  is the chain's end.
- `mapDomainError_spec`: for every iteration order and every error, the answer is the
  one of the source order, and its status is the canonical status of the root error.
-/

namespace FlashSale

/-! ### `errors.Is` -/

/-- The errors `errors.Is` visits: the error, then each error a `%w` wraps. -/
def Error.chain : Error → List Error
  | .getSaleFailed e => .getSaleFailed e :: e.chain
  | .validationFailed e => .validationFailed e :: e.chain
  | e => [e]

/-- `errors.Is(err, target)`. -/
def Error.is (err target : Error) : Bool := err.chain.contains target

/-- The error at the end of the chain. -/
def Error.root : Error → Error
  | .getSaleFailed e | .validationFailed e => e.root
  | e => e

/-- The error wraps nothing: it is built by `errors.New` or returned as it is. -/
def Error.unwrapped : Error → Bool
  | .getSaleFailed _ | .validationFailed _ => false
  | _ => true

/-- `errors.Is` finds an error that wraps nothing in a chain exactly at the chain's end. -/
theorem Error.is_iff_root {target : Error} (ht : target.unwrapped = true) :
    ∀ err : Error, err.is target = true ↔ target = err.root
  -- A wrapping error: the target is not the wrapper, so it is found in the wrapped chain.
  | .getSaleFailed e => by
    have ih := Error.is_iff_root ht e
    simp only [Error.is, Error.chain, Error.root, List.contains_cons, Bool.or_eq_true,
      beq_iff_eq] at ih ⊢
    rw [← ih]
    exact or_iff_right fun h => by subst h; cases ht
  | .validationFailed e => by
    have ih := Error.is_iff_root ht e
    simp only [Error.is, Error.chain, Error.root, List.contains_cons, Bool.or_eq_true,
      beq_iff_eq] at ih ⊢
    rw [← ih]
    exact or_iff_right fun h => by subst h; cases ht
  -- A sentinel: its chain is itself.
  | .saleNotFound | .saleNotActive | .saleOutOfStock | .saleLimitExceeded
  | .noItemsToPurchase | .itemNotFound | .itemAlreadySold | .itemNotInSale | .allItemsSold
  | .checkoutNotFound | .checkoutExpired | .itemAlreadyInCheckout
  | .userAlreadyCheckedOutItem | .userLimitExceeded | .checkoutAlreadyProcessed
  | .transactionFailed | .backend | .lockFailed | .lockHeld | .beginFailed | .noValidItems
  | .updateSaleFailed | .saveResultFailed | .commitFailed => by
    simp [Error.is, Error.chain, Error.root]

/-! ### `MapDomainError` -/

namespace Response

/-- The statuses of `response.Status` that `errorMappings` and `MapDomainError` use. -/
inductive Status where
  | error
  | notFound
  | conflict
  | internalError
  deriving DecidableEq, Repr

/-- `ErrorMapping`. -/
structure ErrorMapping where
  httpStatus : Nat
  status : Status
  message : String
  deriving DecidableEq, Repr

/-- `ErrorResponse` as `response.Error` fills it: the message only. -/
structure ErrorResponse where
  message : String
  deriving DecidableEq, Repr

/-- `response.Error(status, message, errorDetails...)`: the body keeps the message; the
    status and the details are not stored. -/
def error (_status : Status) (message : String) : ErrorResponse := ⟨message⟩

/-- `errorMappings`, in the order of the source. -/
def errorMappings : List (Error × ErrorMapping) :=
  [(.saleNotFound, ⟨404, .notFound, "Sale not found"⟩),
   (.saleNotActive, ⟨400, .error, "Sale is not active"⟩),
   (.saleOutOfStock, ⟨400, .error, "Sale is out of stock"⟩),
   (.saleLimitExceeded, ⟨400, .error, "Purchase would exceed sale limit"⟩),
   (.noItemsToPurchase, ⟨400, .error, "No items to purchase"⟩),
   (.itemNotFound, ⟨404, .notFound, "Item not found"⟩),
   (.itemAlreadySold, ⟨409, .conflict, "Items already sold"⟩),
   (.itemNotInSale, ⟨400, .error, "Item not in current sale"⟩),
   (.allItemsSold, ⟨409, .conflict, "All items from checkout already sold"⟩),
   (.checkoutNotFound, ⟨404, .notFound, "Checkout not found"⟩),
   (.checkoutExpired, ⟨400, .error, "Checkout expired"⟩),
   (.itemAlreadyInCheckout, ⟨400, .error, "Item already in checkout"⟩),
   (.userAlreadyCheckedOutItem, ⟨400, .error, "User already checked out this item"⟩),
   (.userLimitExceeded, ⟨400, .error, "User has reached maximum items limit"⟩),
   (.checkoutAlreadyProcessed, ⟨409, .conflict, "Checkout code has already been processed"⟩),
   (.transactionFailed, ⟨500, .internalError, "Transaction failed"⟩)]

/-- `MapDomainError(err)` when the `range` over `errorMappings` visits the entries in
    the order `order`. -/
def mapDomainError (order : List (Error × ErrorMapping)) (err : Error) : Nat × ErrorResponse :=
  match order.find? fun m => err.is m.1 with
  | some (_, mapping) => (mapping.httpStatus, error mapping.status mapping.message)
  | none => (500, error .internalError "Internal server error")

/-- The HTTP status of each error in the canonical table of the API: 404 for what is not
    found, 400 for a refused request, 409 for a conflict with a sold item or a processed
    checkout, and 500 for the errors it does not list. -/
def specHttpStatus : Error → Nat
  | .saleNotFound | .itemNotFound | .checkoutNotFound => 404
  | .saleNotActive | .saleOutOfStock | .saleLimitExceeded | .noItemsToPurchase
  | .itemNotInSale | .checkoutExpired | .itemAlreadyInCheckout | .userAlreadyCheckedOutItem
  | .userLimitExceeded => 400
  | .itemAlreadySold | .allItemsSold | .checkoutAlreadyProcessed => 409
  | _ => 500

/-- Every key of `errorMappings` wraps nothing, and no key appears twice. -/
theorem errorMappings_keys :
    (∀ m ∈ errorMappings, m.1.unwrapped = true) ∧ (errorMappings.map Prod.fst).Nodup := by
  decide

/-- In a list whose keys are distinct, at most one entry has a given key. -/
private theorem length_filter_key_le {l : List (Error × ErrorMapping)} (h : (l.map Prod.fst).Nodup)
    (k : Error) : (l.filter fun m => m.1 == k).length ≤ 1 := by
  induction l with
  | nil => exact Nat.zero_le _
  | cons m l ih =>
    obtain ⟨hm, hl⟩ := List.nodup_cons.1 h
    by_cases hk : m.1 = k
    -- The head has the key, so no entry of the tail has it.
    · have hnil : l.filter (fun m => m.1 == k) = [] :=
        List.filter_eq_nil_iff.2 fun x hx hxk =>
          hm (hk ▸ (beq_iff_eq.1 hxk) ▸ List.mem_map_of_mem Prod.fst hx)
      simp [List.filter_cons, hk, hnil]
    -- The head does not count.
    · simpa [List.filter_cons, hk] using ih hl

/-- A permutation of a list of at most one element is that list. -/
private theorem eq_of_perm_of_length_le_one {l l' : List (Error × ErrorMapping)} (hp : l'.Perm l)
    (hl : l.length ≤ 1) : l' = l := by
  match l, hl with
  | [], _ => exact hp.eq_nil
  | [_], _ => exact List.perm_singleton.1 hp

/-- `errors.Is` picks from `errorMappings` exactly the entry whose key is the root. -/
private theorem filter_is_eq (err : Error) {order : List (Error × ErrorMapping)}
    (h : order.Perm errorMappings) :
    order.filter (fun m => err.is m.1) = order.filter fun m => m.1 == err.root :=
  List.filter_congr fun m hm => by
    have hu := errorMappings_keys.1 m (h.subset hm)
    rw [Bool.eq_iff_iff, Error.is_iff_root hu, beq_iff_eq]

/-- Error status mapping. For every order in which the `range` visits `errorMappings`
    and every error, `MapDomainError` answers as for the source order, with the status
    the canonical table gives to the root of the error's `%w` chain. -/
theorem mapDomainError_spec (order : List (Error × ErrorMapping)) (h : order.Perm errorMappings)
    (err : Error) :
    mapDomainError order err = mapDomainError errorMappings err ∧
    (mapDomainError order err).1 = specHttpStatus err.root := by
  -- Both orders select the one entry keyed by the root, so both finds return it.
  have hfind : order.find? (fun m => err.is m.1) =
      errorMappings.find? (fun m => err.is m.1) := by
    rw [← List.filter_head?, ← List.filter_head?, filter_is_eq err h,
      filter_is_eq err (List.Perm.refl _),
      eq_of_perm_of_length_le_one (h.filter _)
        (length_filter_key_le errorMappings_keys.2 err.root)]
  refine ⟨by rw [mapDomainError, mapDomainError, hfind], ?_⟩
  -- The source order's answer, compared with the canonical table root by root.
  rw [mapDomainError, hfind, ← List.filter_head?, filter_is_eq err (List.Perm.refl _)]
  generalize err.root = r
  cases r <;> rfl

/-- `mapDomainError_spec` for the reverse order and the error `ExecutePurchase` returns
    when `GetSaleByID` finds no sale: it wraps `ErrSaleNotFound`. -/
theorem mapDomainError_spec_reverse : errorMappings.reverse.Perm errorMappings ∧
    mapDomainError errorMappings.reverse (.getSaleFailed .saleNotFound) =
      mapDomainError errorMappings (.getSaleFailed .saleNotFound) ∧
    (mapDomainError errorMappings.reverse (.getSaleFailed .saleNotFound)).1 =
      specHttpStatus (Error.getSaleFailed .saleNotFound).root :=
  ⟨List.reverse_perm _, mapDomainError_spec _ (List.reverse_perm _) _⟩

end Response

end FlashSale
