import FlashSale.Http.Response
import FlashSale.Store.Repository

/-!
# Routes and the sale read handlers

`Server.setupRoutes` registers its handlers on an `http.ServeMux` behind the CORS
middleware, which answers every `OPTIONS` request itself. The mux gives a request to
the handler of the longest registered pattern that matches its path, a pattern ending
in a slash matching every path below it. `handleSaleRoutes` serves the subtree
`/sales/`: it cuts `/api/v1/sales/` off the path with `strings.TrimPrefix`, splits
the rest at each slash, and calls `HandleGetSale` for one non-empty part and
`HandleGetSaleItems` for a part followed by `items`.

The mux hands `handleSaleRoutes` only paths that begin with `/sales/`, which never
begin with `/api/v1/sales/`: the prefix stays, the path splits into at least three
parts, and every such request is answered 404. So no request reaches `HandleGetSale`
or `HandleGetSaleItems` (`sale_pages_unreachable`). `HandleGetSaleItems` would not
list an item either: it calls `GetItemsBySaleID(ctx, saleID, 0, 100)`, whose third
and fourth arguments are `limit, offset`, so it asks for `LIMIT 0`.

Paths are lists of characters; a slash is one byte in UTF-8 and no byte of a longer
character, so splitting the characters at `'/'` splits the bytes as Go does.

## Key results

- `serveMux_mem`: the mux answers with the handler of a pattern that matches.
- `handleSaleRoutes_sales`: every path below `/sales/` is answered 404.
- `sale_pages_unreachable`: for every method and path, the server calls neither
  `HandleGetSale` nor `HandleGetSaleItems`, and `HandleGetSaleItems` lists no item.
-/

namespace FlashSale

/-! ### `strings.TrimPrefix` and `strings.Split` -/

namespace Strings

/-- `strings.TrimPrefix(s, prefix)`. -/
def trimPrefix (s pre : List Char) : List Char := if pre.isPrefixOf s then s.drop pre.length else s

/-- `strings.Split(s, sep)` for a one-character separator, as its first part and the
    others: the result of `Split` is never empty. -/
def splitParts (sep : Char) : List Char → List Char × List (List Char)
  | [] => ([], [])
  | c :: cs =>
    let (w, ws) := splitParts sep cs
    if c = sep then ([], w :: ws) else (c :: w, ws)

/-- `strings.Split(s, sep)`. -/
def split (sep : Char) (s : List Char) : List (List Char) :=
  (splitParts sep s).1 :: (splitParts sep s).2

/-- `Split` cuts at every separator: one part more than separators. -/
theorem length_split (sep : Char) (s : List Char) : (split sep s).length = s.count sep + 1 := by
  suffices h : ∀ s : List Char, (splitParts sep s).2.length = s.count sep by
    simp [split, h]
  intro s
  induction s with
  | nil => rfl
  -- A separator closes a part; any other character extends the current one.
  | cons c cs ih =>
    by_cases hc : c = sep
    · subst hc
      simp [splitParts, ih]
    · simp [splitParts, hc, ih, List.count_cons, Ne.symm hc]

/-- A prefix starting like the string but differing at a later character is not cut off. -/
theorem trimPrefix_of_not_prefix {s pre : List Char} (h : pre.isPrefixOf s = false) :
    trimPrefix s pre = s := by
  simp [trimPrefix, h]

end Strings

/-! ### The router -/

namespace Server

/-- The handlers `setupRoutes` registers. -/
inductive Handler where
  | metrics
  | health
  | getActiveSale
  | saleRoutes
  | checkout
  | purchase
  | createSale
  deriving DecidableEq, Repr

/-- The patterns of `setupRoutes`, in the order it registers them. -/
def routes : List (List Char × Handler) :=
  [("/metrics".toList, .metrics), ("/health".toList, .health),
   ("/sales/active".toList, .getActiveSale), ("/sales/".toList, .saleRoutes),
   ("/checkout".toList, .checkout), ("/purchase".toList, .purchase),
   ("/admin/sales".toList, .createSale)]

/-- A pattern that ends in a slash names the subtree below it; any other pattern names
    one path. -/
def patternMatches (pattern path : List Char) : Bool :=
  if pattern.getLast? = some '/' then pattern.isPrefixOf path else pattern == path

/-- Keep the longer of two patterns, the first on a tie. -/
def longer (best : Option (List Char × Handler)) (r : List Char × Handler) :
    Option (List Char × Handler) :=
  match best with
  | some b => if b.1.length < r.1.length then some r else some b
  | none => some r

/-- `ServeMux` dispatch: the handler of the longest pattern that matches the path.
    `none` is a 404 or a redirect, neither of which calls a handler of the service. -/
def serveMux (routes : List (List Char × Handler)) (path : List Char) : Option Handler :=
  ((routes.filter fun r => patternMatches r.1 path).foldl longer none).map Prod.snd

/-- The pattern a fold of `longer` keeps is the one it started from or one of the list. -/
theorem foldl_longer_mem :
    ∀ (l : List (List Char × Handler)) (acc : Option (List Char × Handler)) {r},
      l.foldl longer acc = some r → acc = some r ∨ r ∈ l
  | [], _, _, h => .inl h
  | x :: l, acc, r, h => by
    rcases foldl_longer_mem l (longer acc x) h with h' | h'
    -- The fold kept what `longer` chose from the accumulator and `x`.
    · unfold longer at h'
      split at h'
      · split_ifs at h' with hlt
        · exact .inr (Option.some.inj h' ▸ List.mem_cons_self _ _)
        · exact .inl h'
      · exact .inr (Option.some.inj h' ▸ List.mem_cons_self _ _)
    · exact .inr (List.mem_cons_of_mem _ h')

/-- The mux answers with the handler of a registered pattern that matches the path. -/
theorem serveMux_mem {rs : List (List Char × Handler)} {path : List Char} {h : Handler}
    (hm : serveMux rs path = some h) :
    ∃ pattern, (pattern, h) ∈ rs ∧ patternMatches pattern path := by
  obtain ⟨⟨pattern, h'⟩, hr, rfl⟩ := Option.map_eq_some'.1 hm
  -- The fold starts from `none`, so the pattern it kept is one that matched.
  rcases foldl_longer_mem _ none hr with hr | hr
  · cases hr
  · exact ⟨pattern, (List.mem_filter.1 hr).1, (List.mem_filter.1 hr).2⟩

/-- Only the pattern `/sales/` leads to `handleSaleRoutes`. -/
theorem routes_saleRoutes : ∀ r ∈ routes, r.2 = .saleRoutes → r.1 = "/sales/".toList := by
  decide

/-- The routes below `/sales/` that `handleSaleRoutes` serves. -/
inductive SaleRoute where
  | getSale
  | getSaleItems
  | notFound
  deriving DecidableEq, Repr

/-- `handleSaleRoutes`. -/
def handleSaleRoutes (method : String) (path : List Char) : SaleRoute :=
  let parts := Strings.split '/' (Strings.trimPrefix path "/api/v1/sales/".toList)
  if parts.length = 1 ∧ parts.head? ≠ some [] then
    if method = "GET" then .getSale else .notFound
  else if parts.length = 2 ∧ parts[1]? = some "items".toList then
    if method = "GET" then .getSaleItems else .notFound
  else .notFound

/-- Every path below `/sales/` is answered 404: it keeps its prefix, since it does not
    begin with `/api/v1/sales/`, and it has two slashes, so it splits into at least
    three parts. -/
theorem handleSaleRoutes_sales (method : String) {path : List Char}
    (h : "/sales/".toList.isPrefixOf path = true) : handleSaleRoutes method path = .notFound := by
  obtain ⟨rest, rfl⟩ := List.isPrefixOf_iff_prefix.1 h
  have htrim : Strings.trimPrefix ("/sales/".toList ++ rest) "/api/v1/sales/".toList =
      "/sales/".toList ++ rest := Strings.trimPrefix_of_not_prefix rfl
  have hlen : 3 ≤ (Strings.split '/' ("/sales/".toList ++ rest)).length := by
    simp [Strings.length_split, List.count_append]
  simp only [handleSaleRoutes, htrim]
  -- Both named routes need at most two parts.
  split_ifs with h₁ h₂ <;> first | rfl | omega

/-- What the server does with a request: answer it in a middleware or the mux, or call
    one of the service's handlers. -/
inductive Endpoint where
  /-- The CORS middleware answers an `OPTIONS` request with 200. -/
  | preflight
  /-- `http.NotFound`, from the mux or from `handleSaleRoutes`, or a redirect of the mux. -/
  | notFound
  | metrics
  | health
  | getActiveSale
  | getSale
  | getSaleItems
  | checkout
  | purchase
  | createSale
  deriving DecidableEq, Repr

/-- The handler a request reaches through the middlewares of `setupRoutes` and the mux. -/
def serve (method : String) (path : List Char) : Endpoint :=
  if method = "OPTIONS" then .preflight
  else match serveMux routes path with
    | none => .notFound
    | some .metrics => .metrics
    | some .health => .health
    | some .getActiveSale => .getActiveSale
    | some .saleRoutes =>
      match handleSaleRoutes method path with
      | .getSale => .getSale
      | .getSaleItems => .getSaleItems
      | .notFound => .notFound
    | some .checkout => .checkout
    | some .purchase => .purchase
    | some .createSale => .createSale

/-- The mux sends to `handleSaleRoutes` only paths below `/sales/`. -/
theorem serveMux_saleRoutes {path : List Char} (h : serveMux routes path = some .saleRoutes) :
    "/sales/".toList.isPrefixOf path = true := by
  obtain ⟨pattern, hr, hm⟩ := serveMux_mem h
  obtain rfl := routes_saleRoutes _ hr rfl
  exact hm

/-- No request is served by `HandleGetSale` or `HandleGetSaleItems`. -/
theorem serve_ne_sale_pages (method : String) (path : List Char) :
    serve method path ≠ .getSale ∧ serve method path ≠ .getSaleItems := by
  unfold serve
  split_ifs
  -- The preflight answer.
  · exact ⟨nofun, nofun⟩
  -- Through the mux: only `handleSaleRoutes` could reach the sale pages, and it answers
  -- 404 to every path the mux gives it.
  · cases hm : serveMux routes path with
    | none => exact ⟨nofun, nofun⟩
    | some h =>
      cases h with
      | saleRoutes =>
        simp only [handleSaleRoutes_sales method (serveMux_saleRoutes hm)]
        exact ⟨nofun, nofun⟩
      | _ => exact ⟨nofun, nofun⟩

example : serve "GET" "/sales/active".toList = .getActiveSale ∧
    serve "GET" "/sales/S-1".toList = .notFound ∧ serve "POST" "/purchase".toList = .purchase := by
  decide

end Server

/-! ### The sale read handlers -/

namespace SaleHandler

/-- What a handler writes. -/
inductive Reply (α : Type) where
  /-- `WriteValidationError(w, message, errors)`: 400, and a body that keeps the message
      only, since `response.ValidationError` does not set its `Errors`. -/
  | validationError (message : String) (errors : List (String × String))
  /-- `WriteDomainError(w, err)`: the status and body of `MapDomainError(err)`. -/
  | domainError (err : Error)
  /-- `WriteSuccess(w, data)`: 200 and the data. -/
  | success (data : α)
  deriving DecidableEq, Repr

/-- The HTTP status of a reply, with the mappings visited in the order `order`. -/
def Reply.status {α : Type} (order : List (Error × Response.ErrorMapping)) : Reply α → Nat
  | .validationError .. => 400
  | .domainError err => (Response.mapDomainError order err).1
  | .success _ => 200

/-- `SaleResponse`, with the times not yet formatted by `time.RFC3339`. -/
structure SaleResponse where
  id : SaleId
  startedAt : Time
  endedAt : Time
  totalItems : Nat
  itemsSold : Nat
  active : Bool
  deriving DecidableEq, Repr

/-- `ItemResponse`, without the display fields `Name` and `ImageURL`. -/
structure ItemResponse where
  id : ItemId
  sold : Bool
  deriving DecidableEq, Repr

/-- The response of a sale row with the given `Active` flag. -/
def SaleResponse.ofSale (sale : Sale) (active : Bool) : SaleResponse :=
  ⟨sale.id, sale.startedAt, sale.endedAt, sale.totalItems, sale.itemsSold, active⟩

/-- `HandleGetActiveSale` at `now`; `ok` says whether the query runs. Both error branches
    of the source write the error with `WriteDomainError`. -/
def handleGetActiveSale (s : Store) (now : Time) (ok : Bool) : Reply SaleResponse :=
  if !ok then .domainError .backend
  else match s.getActiveSale now with
    | none => .domainError .saleNotFound
    | some sale => .success (SaleResponse.ofSale sale true)

/-- The sale id a handler below `/sales/` reads: the first part of the path after
    `/api/v1/sales/`. -/
def saleIdText (path : List Char) : List Char :=
  (Strings.split '/' (Strings.trimPrefix path "/api/v1/sales/".toList)).head?.getD []

/-- The validation reply of an empty sale id. -/
def saleIdRequired {α : Type} : Reply α :=
  .validationError "Validation failed" [("sale_id", "Sale ID is required")]

/-- `HandleGetSale` at `now`. `saleIdOf` is the stored sale, if any, whose id has the
    given text; `ok` says whether the query runs. Both `time.Now()` readings are taken
    at `now`. -/
def handleGetSale (s : Store) (saleIdOf : List Char → Option SaleId) (path : List Char)
    (now : Time) (ok : Bool) : Reply SaleResponse :=
  let saleID := saleIdText path
  if saleID = [] then saleIdRequired
  else if !ok then .domainError .backend
  else match (saleIdOf saleID).bind s.getSaleByID with
    | none => .domainError .saleNotFound
    | some sale =>
      .success
        (SaleResponse.ofSale sale (decide (sale.startedAt < now) && decide (now < sale.endedAt)))

/-- `GetItemsBySaleID(saleID, limit, offset)`: `WHERE sale_id = $1 ORDER BY created_at
    LIMIT $2 OFFSET $3`, the rows of a sale in the order they were created. -/
def getItemsBySaleID (s : Store) (saleId : SaleId) (limit offset : Nat) : List Item :=
  ((s.items.rows.filter fun i => i.saleId == saleId).drop offset).take limit

/-- `HandleGetSaleItems`; `ok₁` and `ok₂` say whether its two queries run. -/
def handleGetSaleItems (s : Store) (saleIdOf : List Char → Option SaleId) (path : List Char)
    (ok₁ ok₂ : Bool) : Reply (List ItemResponse) :=
  let saleID := saleIdText path
  if saleID = [] then saleIdRequired
  else if !ok₁ then .domainError .backend
  else match saleIdOf saleID |>.bind s.getSaleByID with
    | none => .domainError .saleNotFound
    | some sale =>
      if !ok₂ then .domainError .backend
      else .success ((getItemsBySaleID s sale.id 0 100).map fun i => ⟨i.id, i.sold⟩)

/-- `HandleGetSaleItems` passes `0, 100` as `limit, offset`: whatever the store and the
    path, it lists no item. -/
theorem handleGetSaleItems_empty (s : Store) (saleIdOf : List Char → Option SaleId)
    (path : List Char) (ok₁ ok₂ : Bool) {items : List ItemResponse}
    (h : handleGetSaleItems s saleIdOf path ok₁ ok₂ = .success items) : items = [] := by
  unfold handleGetSaleItems at h
  dsimp only at h
  split_ifs at h <;> (try split at h) <;> cases h
  -- The one success lists `take 0` of the sale's rows.
  simp [getItemsBySaleID]

end SaleHandler

/-! ### The command endpoints -/

namespace Handlers

/-- What `HandleCheckout` and `HandlePurchase` do before their command runs. -/
inductive Admission (α : Type) where
  /-- `w.WriteHeader(http.StatusMethodNotAllowed)`: 405 and no body. -/
  | methodNotAllowed
  /-- `WriteValidationError(w, "Validation failed", errors)`. -/
  | invalid (errors : List (String × String))
  /-- The command the handler goes on to run. -/
  | accepted (cmd : α)
  deriving DecidableEq, Repr

/-- The entries of the `errors` map: for each required query parameter that is empty,
    its name and message, set in the order of the source. -/
def requiredErrors (fields : List (String × List Char × String)) : List (String × String) :=
  (fields.filter fun f => f.2.1.isEmpty).map fun f => (f.1, f.2.2)

/-- The front of a command endpoint: only `POST`, then every required query parameter
    non-empty (`r.URL.Query().Get` reads an absent one as empty). -/
def checkRequest {α : Type} (method : String) (fields : List (String × List Char × String))
    (cmd : α) : Admission α :=
  if method ≠ "POST" then .methodNotAllowed
  else match requiredErrors fields with
    | [] => .accepted cmd
    | errors => .invalid errors

/-- `CheckoutHandler.HandleCheckout` up to its command, with `user_id` and `item_id`. -/
def handleCheckout (method : String) (userID itemID : List Char) :
    Admission (List Char × List Char) :=
  checkRequest method
    [("user_id", userID, "user_id is required"), ("item_id", itemID, "item_id is required")]
    (userID, itemID)

/-- `PurchaseHandler.HandlePurchase` up to its command, with `code`. -/
def handlePurchase (method : String) (code : List Char) : Admission (List Char) :=
  checkRequest method [("code", code, "checkout code is required")] code

/-- A command endpoint runs its command exactly for a `POST` whose required parameters are
    all given; any other `POST` is refused with one error per missing parameter, each
    under the parameter's name. -/
theorem checkRequest_spec {α : Type} (method : String) (fields : List (String × List Char × String))
    (cmd : α) :
    (checkRequest method fields cmd = .accepted cmd ↔ method = "POST" ∧ ∀ f ∈ fields, f.2.1 ≠ []) ∧
    ∀ errors, checkRequest method fields cmd = .invalid errors →
      method = "POST" ∧ errors ≠ [] ∧
        ∀ e, e ∈ errors ↔ ∃ f ∈ fields, f.2.1 = [] ∧ e = (f.1, f.2.2) := by
  have hnil : requiredErrors fields = [] ↔ ∀ f ∈ fields, f.2.1 ≠ [] := by
    simp only [requiredErrors, List.map_eq_nil_iff, List.filter_eq_nil_iff, List.isEmpty_iff]
  have hmem : ∀ e, e ∈ requiredErrors fields ↔ ∃ f ∈ fields, f.2.1 = [] ∧ e = (f.1, f.2.2) := by
    intro e
    simp only [requiredErrors, List.mem_map, List.mem_filter, List.isEmpty_iff]
    exact ⟨fun ⟨f, ⟨h₁, h₂⟩, h₃⟩ => ⟨f, h₁, h₂, h₃.symm⟩,
      fun ⟨f, h₁, h₂, h₃⟩ => ⟨f, ⟨h₁, h₂⟩, h₃.symm⟩⟩
  unfold checkRequest
  split_ifs with hm
  -- Not a `POST`: 405.
  · exact ⟨by simp [hm], fun _ h => nomatch h⟩
  -- A `POST`: accepted exactly when no parameter is missing.
  · rw [not_not] at hm
    split
    · next h => exact ⟨⟨fun _ => ⟨hm, hnil.1 h⟩, fun _ => rfl⟩, fun _ h => nomatch h⟩
    · next errors h =>
      refine ⟨⟨nofun, fun ⟨_, hall⟩ => absurd (hnil.2 hall) h⟩, fun e he => ?_⟩
      cases he
      exact ⟨hm, h, hmem⟩

example : handleCheckout "POST" [] "7".toList = .invalid [("user_id", "user_id is required")] := by
  decide

end Handlers

/-- The sale pages serve nothing. For every method and path the server calls neither
    `HandleGetSale` nor `HandleGetSaleItems`: the mux gives them only paths below
    `/sales/`, which `handleSaleRoutes` answers 404. And `HandleGetSaleItems`, whatever
    it reads, lists no item, since it asks `GetItemsBySaleID` for `LIMIT 0`. -/
theorem sale_pages_unreachable :
    (∀ (method : String) (path : List Char),
      Server.serve method path ≠ .getSale ∧ Server.serve method path ≠ .getSaleItems) ∧
    ∀ (s : Store) (saleIdOf : List Char → Option SaleId) (path : List Char) (ok₁ ok₂ : Bool)
      (items : List SaleHandler.ItemResponse),
      SaleHandler.handleGetSaleItems s saleIdOf path ok₁ ok₂ = .success items → items = [] :=
  ⟨Server.serve_ne_sale_pages, fun s saleIdOf path ok₁ ok₂ _ h =>
    SaleHandler.handleGetSaleItems_empty s saleIdOf path ok₁ ok₂ h⟩

end FlashSale
