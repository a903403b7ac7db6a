import FlashSale.Engine.Shared

/-!
# Sale creation

The two creators of sales: `SaleScheduler.createSaleIfNeeded` (`unnamed/part_001`)
and `AdminHandler.HandleCreateSale` (`http/handlers/checkout.go`). Both ask for the
active sale, insert a sale row, then insert its items in one transaction; they
differ in what they do when the first query fails and in where the window and
the item count come from. Instants count seconds from Go's zero `time.Time`, so
`IsZero` is `= 0` and truncation to the hour is `t - t % 3600`.
-/

namespace FlashSale

/-- The item count the scheduler is built with (`NewSaleScheduler(saleRepo, log, 10000)`). -/
def schedulerTotalItems : Nat := 10000

/-- One hour, in the units of `Time`. -/
def hour : Time := 3600

/-- `time.Date(y, m, d, h, 0, 0, 0, UTC)` of an instant. -/
def truncateToHour (t : Time) : Time := t - t % hour

/-- `CreateSaleRequest` once its times are parsed; `none` is an omitted field. -/
structure CreateSaleRequest where
  startedAt : Option Time
  endedAt : Option Time
  totalItems : Int
  deriving DecidableEq, Repr

/-- The validation of `HandleCreateSale` with its defaults: the window and item count
    it goes on with, or `none` for a validation error. -/
def CreateSaleRequest.validate (req : CreateSaleRequest) (now : Time) :
    Option (Time × Time × Nat) :=
  let startedAt := req.startedAt.getD (truncateToHour now)
  let endedAt := req.endedAt.getD (if startedAt ≠ 0 then startedAt + hour else 0)
  if req.totalItems ≤ 0 then none
  else if startedAt ≠ 0 ∧ endedAt ≠ 0 ∧ endedAt < startedAt then none
  else some (startedAt, endedAt, req.totalItems.toNat)

/-- Program points of a sale creator. -/
inductive CreatePc where
  /-- The admin handler's validation, then `GetActiveSale`. -/
  | getActiveSale
  /-- `CreateSale`. -/
  | createSale (sale : Sale)
  /-- `CreateItems`. -/
  | createItems (sale : Sale)
  /-- The creator has returned; `true` when it created a sale and its items. -/
  | done (created : Bool)

/-- Which creator runs, with the admin request body. -/
inductive Creator where
  | scheduler
  | admin (req : CreateSaleRequest)

/-- A running sale creator. -/
structure CreateProc where
  creator : Creator
  pc : CreatePc

/-- The items `CreateItems` is given: `totalItems` new unsold items of the sale,
    with the generated ids `fresh, fresh + 1, ...`. -/
def newItems (sale : Sale) (fresh : Nat) : List Item :=
  (List.range sale.totalItems).map fun k => Item.new (fresh + k) sale.id

theorem mem_newItems {sale : Sale} {fresh : Nat} {i : Item} (h : i ∈ newItems sale fresh) :
    i.saleId = sale.id ∧ i.sold = false ∧ i.soldToUserId = none := by
  simp only [newItems, List.mem_map, List.mem_range] at h
  obtain ⟨k, -, rfl⟩ := h
  exact ⟨rfl, rfl, rfl⟩

@[simp] theorem length_newItems (sale : Sale) (fresh : Nat) :
    (newItems sale fresh).length = sale.totalItems := by
  simp [newItems]

namespace CreateProc

/-- One step of a creator, `none` once it returned. The first step draws the sale id
    (`GenerateSaleID`), the last one the item ids (`GenerateItemID`). -/
def step (s : Shared) (p : CreateProc) (ok : Bool) (fresh : Nat) : Option (Shared × CreateProc) :=
  let go (s : Shared) (pc : CreatePc) := some (s, { p with pc })
  match p.pc with
  | .getActiveSale =>
    let active := if ok then s.db.store.getActiveSale s.clock else none
    match p.creator with
    | .scheduler =>
      if active.isSome then go s (.done false)
      else
        let start := truncateToHour s.clock
        go s (.createSale ⟨fresh, start, start + hour, schedulerTotalItems, 0⟩)
    | .admin req =>
      match req.validate s.clock with
      | none => go s (.done false)
      | some (start, stop, total) =>
        if !ok || active.isSome then go s (.done false)
        else go s (.createSale ⟨fresh, start, stop, total, 0⟩)
  | .createSale sale =>
    match if ok then s.db.store.createSale sale else none with
    | none => go s (.done false)
    | some store => go (s.setDb { s.db with store }) (.createItems sale)
  | .createItems sale =>
    match if ok then s.db.store.createItems (newItems sale fresh) else none with
    | none => go s (.done false)
    | some store => go (s.setDb { s.db with store }) (.done true)
  | .done _ => none

end CreateProc

end FlashSale
