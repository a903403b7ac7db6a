import FlashSale.Engine.Scheduler

/-!
# The admin endpoint's request body

`AdminHandler.HandleCreateSale` (`http/handlers/checkout.go`) decodes its JSON body,
parses the two times with `time.Parse(time.RFC3339, ·)`, fills in their defaults, and
collects the `validationErrors` map; only an empty map lets it go on to `GetActiveSale`.
The process model of the handler (`CreateProc`) takes the body with its times parsed and
decides with `CreateSaleRequest.validate`. This module models the front of the handler as
the source writes it, the map's keys and messages included, and proves that it goes on
exactly with the requests `validate` accepts, with the window the handler computes
(`handleCreateSaleFront_spec`).

A time that does not parse is Go's zero time, as `time.Parse` returns it on an error, so
a bad `started_at` also skips the order check and gives `ended_at` no default. The map
then never sets a key twice. `response.ValidationError` drops the map: the client sees
only "Validation failed".

## Key results

- `validateCreateSale_errors`: every entry of the map is one of the four the source
  sets, and no key appears twice.
- `handleCreateSaleFront_spec`: the handler goes on exactly when no time is malformed and
  `validate` accepts the parsed request, and then with the same window.
-/

namespace FlashSale

/-- A time field of the body as `time.Parse(time.RFC3339, ·)` reads it: the empty text
    (an omitted field decodes to it), a text that parses to an instant, or one that does
    not parse. -/
inductive TimeText where
  | empty
  | instant (t : Time)
  | invalid
  deriving DecidableEq, Repr

/-- The instant of a field once parsed; `none` for the empty text. -/
def TimeText.instant? : TimeText → Option Time
  | .instant t => some t
  | _ => none

/-- `handlers.CreateSaleRequest` as `json.Decoder` fills it. -/
structure CreateSaleBody where
  startedAt : TimeText
  endedAt : TimeText
  totalItems : Int
  deriving DecidableEq, Repr

/-- The body with its times parsed, as the process model takes it. -/
def CreateSaleBody.request (body : CreateSaleBody) : CreateSaleRequest :=
  ⟨body.startedAt.instant?, body.endedAt.instant?, body.totalItems⟩

namespace Handlers

/-- `validationErrors[key] = message`, on a map kept as its list of entries. -/
def setError (errors : List (String × String)) (key message : String) : List (String × String) :=
  errors.filter (fun e => e.1 ≠ key) ++ [(key, message)]

/-- `startedAt` as `HandleCreateSale` computes it: the parsed instant, Go's zero time for
    a text that does not parse, and the hour of `now` for an empty one. -/
def startOf (body : CreateSaleBody) (now : Time) : Time :=
  match body.startedAt with
  | .empty => truncateToHour now
  | .instant t => t
  | .invalid => 0

/-- `endedAt` as `HandleCreateSale` computes it from `startedAt`: one hour later for an
    empty text, unless `startedAt` is the zero time. -/
def endOf (body : CreateSaleBody) (startedAt : Time) : Time :=
  match body.endedAt with
  | .empty => if startedAt ≠ 0 then startedAt + hour else 0
  | .instant t => t
  | .invalid => 0

/-- The `validationErrors` map of `HandleCreateSale` at `now`, set in the source's order. -/
def validateCreateSale (body : CreateSaleBody) (now : Time) : List (String × String) :=
  let startedAt := startOf body now
  let endedAt := endOf body startedAt
  let errors := if body.totalItems ≤ 0 then [("total_items", "Total items must be greater than 0")]
    else []
  let errors := if body.startedAt = .invalid then
      setError errors "started_at" "Invalid started_at time format (use RFC3339)" else errors
  let errors := if body.endedAt = .invalid then
      setError errors "ended_at" "Invalid ended_at time format (use RFC3339)" else errors
  if startedAt ≠ 0 ∧ endedAt ≠ 0 ∧ endedAt < startedAt then
    setError errors "started_at" "started_at must be before ended_at"
  else errors

/-- What `HandleCreateSale` does before it queries C1. -/
inductive AdminFront where
  /-- `WriteError(w, 400, StatusValidationError, "Invalid request body", ...)`: the body
      does not decode. -/
  | invalidBody
  /-- `WriteValidationError(w, "Validation failed", validationErrors)`. -/
  | invalid (errors : List (String × String))
  /-- The request the handler goes on with. -/
  | accepted (req : CreateSaleRequest)
  deriving DecidableEq, Repr

/-- The front of `HandleCreateSale`; `none` is a body that does not decode. -/
def handleCreateSaleFront (body : Option CreateSaleBody) (now : Time) : AdminFront :=
  match body with
  | none => .invalidBody
  | some body =>
    match validateCreateSale body now with
    | [] => .accepted body.request
    | errors => .invalid errors

/-! ### The `validationErrors` map -/

/-- An entry of a set map is the one just set or one it had. -/
theorem mem_setError {errors : List (String × String)} {key message : String}
    {e : String × String} (he : e ∈ setError errors key message) : e = (key, message) ∨ e ∈ errors := by
  simp only [setError, List.mem_append, List.mem_filter, List.mem_singleton] at he
  exact he.elim (fun h => .inr h.1) .inl

/-- Setting a key keeps the keys of a map distinct. -/
theorem nodup_setError {errors : List (String × String)} (key message : String)
    (h : (errors.map Prod.fst).Nodup) : ((setError errors key message).map Prod.fst).Nodup := by
  rw [setError, List.map_append, List.nodup_append]
  refine ⟨(List.filter_sublist _).map _ |>.nodup h, List.nodup_singleton _, ?_⟩
  intro k hk hk'
  obtain ⟨e, he, rfl⟩ := List.mem_map.1 hk
  exact absurd (List.mem_singleton.1 hk') (of_decide_eq_true (List.mem_filter.1 he).2)

theorem setError_ne_nil (errors : List (String × String)) (key message : String) :
    setError errors key message ≠ [] := by
  simp [setError]

/-- Every entry of the map names one of the fields `HandleCreateSale` checks, and no field
    appears twice. -/
theorem validateCreateSale_errors (body : CreateSaleBody) (now : Time) :
    (∀ e ∈ validateCreateSale body now, e.1 ∈ ["total_items", "started_at", "ended_at"]) ∧
    ((validateCreateSale body now).map Prod.fst).Nodup := by
  -- setting a key the handler checks keeps both properties
  have hset : ∀ {errors : List (String × String)} {key : String} (message : String),
      key ∈ ["total_items", "started_at", "ended_at"] →
      (∀ e ∈ errors, e.1 ∈ ["total_items", "started_at", "ended_at"]) ∧ (errors.map Prod.fst).Nodup →
      (∀ e ∈ setError errors key message, e.1 ∈ ["total_items", "started_at", "ended_at"]) ∧
        ((setError errors key message).map Prod.fst).Nodup :=
    fun message hk h =>
      ⟨fun e he => (mem_setError he).elim (fun h => h ▸ hk) (h.1 e), nodup_setError _ message h.2⟩
  unfold validateCreateSale
  dsimp only
  -- one goal per combination of the four checks; peel the sets off down to the first map
  split_ifs <;> (repeat apply hset _ (by decide)) <;> decide

/-- The map is empty exactly when `total_items` is positive, both times parse, and the
    window is not reversed. -/
theorem validateCreateSale_eq_nil (body : CreateSaleBody) (now : Time) :
    validateCreateSale body now = [] ↔ 0 < body.totalItems ∧ body.startedAt ≠ .invalid ∧
      body.endedAt ≠ .invalid ∧ ¬(startOf body now ≠ 0 ∧ endOf body (startOf body now) ≠ 0 ∧
        endOf body (startOf body now) < startOf body now) := by
  unfold validateCreateSale
  dsimp only
  split_ifs <;> simp_all [setError_ne_nil]

/-- For a body whose times parse, `validate` reads the request as the handler reads the
    body: the same defaults, and the same checks. -/
theorem request_validate {body : CreateSaleBody} (now : Time) (hs : body.startedAt ≠ .invalid)
    (he : body.endedAt ≠ .invalid) :
    body.request.validate now =
      if body.totalItems ≤ 0 then none
      else if startOf body now ≠ 0 ∧ endOf body (startOf body now) ≠ 0 ∧
        endOf body (startOf body now) < startOf body now then none
      else some (startOf body now, endOf body (startOf body now), body.totalItems.toNat) := by
  obtain ⟨st, en, n⟩ := body
  -- nine shapes of the two time fields; the invalid ones are excluded
  cases st <;> cases en <;> first | rfl | exact absurd rfl hs | exact absurd rfl he

/-- The front of `HandleCreateSale` against the process model. A body that decodes goes on
    exactly when its times parse and `validate` accepts the parsed request; `validate` then
    gives the window the handler computed and the item count. Otherwise the handler answers
    with a non-empty map whose keys are distinct fields it checks. -/
theorem handleCreateSaleFront_spec (body : CreateSaleBody) (now : Time) :
    (handleCreateSaleFront (some body) now = .accepted body.request ↔
      body.startedAt ≠ .invalid ∧ body.endedAt ≠ .invalid ∧ (body.request.validate now).isSome) ∧
    (handleCreateSaleFront (some body) now = .accepted body.request →
      body.request.validate now =
        some (startOf body now, endOf body (startOf body now), body.totalItems.toNat)) ∧
    ∀ errors, handleCreateSaleFront (some body) now = .invalid errors → errors ≠ [] ∧
      (∀ e ∈ errors, e.1 ∈ ["total_items", "started_at", "ended_at"]) ∧
      (errors.map Prod.fst).Nodup := by
  -- the front goes on exactly on an empty map
  have hfront : handleCreateSaleFront (some body) now =
      if validateCreateSale body now = [] then .accepted body.request
      else .invalid (validateCreateSale body now) := by
    cases h : validateCreateSale body now <;> simp [handleCreateSaleFront, h]
  have hnil := validateCreateSale_eq_nil body now
  rw [hfront]
  refine ⟨⟨fun h => ?_, fun ⟨hs, he, hv⟩ => ?_⟩, fun h => ?_, fun errors h => ?_⟩
  -- going on: the map is empty, so validate passes the same checks
  · split_ifs at h with hv
    · obtain ⟨hn, hs, he, hrev⟩ := hnil.1 hv
      rw [request_validate now hs he, if_neg (by omega), if_neg hrev]
      exact ⟨hs, he, rfl⟩
  -- validate accepts: neither check of the map fails, so it is empty
  · rw [request_validate now hs he] at hv
    split_ifs at hv with hn hrev
    · cases hv
    · cases hv
    · rw [if_pos (hnil.2 ⟨by omega, hs, he, hrev⟩)]
  -- the window validate gives is the handler's
  · split_ifs at h with hv
    · obtain ⟨hn, hs, he, hrev⟩ := hnil.1 hv
      rw [request_validate now hs he, if_neg (by omega), if_neg hrev]
  -- refused: the map is not empty, and validateCreateSale_errors describes it
  · split_ifs at h with hv
    cases h
    exact ⟨hv, validateCreateSale_errors body now⟩

end Handlers

end FlashSale
