import FlashSale.Engine.Checkout
import FlashSale.Engine.Purchase
import FlashSale.Engine.Scheduler

/-!
# The service as a transition system

A world is the shared state and the list of running requests, each a process
numbered by its position. An event starts a request, lets one process make its
next call (with the call's outcome and the random value it may draw), advances
the clock, or lets a key with a TTL expire. Any order of events is allowed, so
the reachable worlds are those of every interleaving of every set of requests.

`run` replays a list of events; `reachable_of_run` turns a replay that succeeds
into a reachable world, which is how the concrete histories of the `Spec` modules
are checked.
-/

namespace FlashSale

/-- A running request. -/
inductive Proc where
  | checkout (p : CheckoutProc)
  | purchase (p : PurchaseProc)
  | create (p : CreateProc)

/-- A request that can arrive: `POST /checkout`, `POST /purchase`, the scheduler's
    tick, `POST /admin/sales`. -/
inductive Request where
  | checkout (userId : UserId) (itemId : ItemId)
  | purchase (code : Code)
  | schedule
  | createSale (req : CreateSaleRequest)

/-- The process a request starts. -/
def Request.start : Request → Proc
  | .checkout u i => .checkout ⟨u, i, .getActiveSale⟩
  | .purchase code => .purchase ⟨code, .codeExists⟩
  | .schedule => .create ⟨.scheduler, .getActiveSale⟩
  | .createSale req => .create ⟨.admin req, .getActiveSale⟩

/-- What can happen next. -/
inductive Event where
  | request (r : Request)
  | step (pid : Nat) (ok : Bool) (fresh : Nat)
  | tick (d : Nat)
  | expire (k : Key)

/-- `n` steps of process `pid` whose calls all succeed and draw nothing. -/
def Event.steps (pid n : Nat) : List Event := List.replicate n (.step pid true 0)

/-- One step of process `pid`. -/
def Proc.step (s : Shared) (pid : Nat) (ok : Bool) (fresh : Nat) :
    Proc → Option (Shared × Proc)
  | .checkout p => (p.step s ok fresh).map fun (s, p) => (s, .checkout p)
  | .purchase p => (p.step s pid ok fresh).map fun (s, p) => (s, .purchase p)
  | .create p => (p.step s ok fresh).map fun (s, p) => (s, .create p)

/-- The shared state and the running requests. -/
structure World where
  shared : Shared
  procs : List Proc

namespace World

/-- A fresh deployment with the given sold-items filter. -/
def init (bf : RedisBloomFilter ItemId) : World := ⟨.init bf, []⟩

/-- The effect of one event, `none` when it cannot happen. -/
def step (w : World) : Event → Option World
  | .request r => some { w with procs := w.procs ++ [r.start] }
  | .step pid ok fresh => do
    let p ← w.procs[pid]?
    let (s, p) ← p.step w.shared pid ok fresh
    some ⟨s, w.procs.set pid p⟩
  | .tick d => some { w with shared := { w.shared with clock := w.shared.clock + d } }
  | .expire k => some { w with shared := w.shared.setCache (w.shared.cache.expire k) }

/-- Replay a list of events. -/
def run (w : World) : List Event → Option World
  | [] => some w
  | e :: es => (w.step e).bind fun w => w.run es

/-- A process of the world after a request is an old one or the new one. -/
theorem procs_request {w : World} {r : Request} {i : Nat} {p : Proc}
    (h : (w.procs ++ [r.start])[i]? = some p) : w.procs[i]? = some p ∨ p = r.start := by
  rcases Nat.lt_or_ge i w.procs.length with hi | hi
  -- An old process.
  · exact .inl (by rwa [List.getElem?_append_left hi] at h)
  -- The new one, at the end.
  · rw [List.getElem?_append_right hi] at h
    cases hk : i - w.procs.length with
    | zero => rw [hk] at h; exact .inr (Option.some.inj h).symm
    | succ k => rw [hk] at h; cases h

/-- A step event runs one step of the process it names and puts the result in its
    place. -/
theorem step_step {w w' : World} {pid : Nat} {ok : Bool} {fresh : Nat}
    (h : w.step (.step pid ok fresh) = some w') :
    ∃ p s' q, w.procs[pid]? = some p ∧ p.step w.shared pid ok fresh = some (s', q) ∧
      w' = ⟨s', w.procs.set pid q⟩ := by
  simp only [step, Option.bind_eq_bind, Option.bind_eq_some] at h
  obtain ⟨p, hp, ⟨s', q⟩, hstep, h⟩ := h
  exact ⟨p, s', q, hp, hstep, (Option.some.inj h).symm⟩

end World

/-- The worlds some history of events leads to from a fresh deployment. -/
inductive Reachable (bf : RedisBloomFilter ItemId) : World → Prop
  | init : Reachable bf (World.init bf)
  | step {w w' : World} (e : Event) : Reachable bf w → w.step e = some w' → Reachable bf w'

theorem reachable_of_run {bf : RedisBloomFilter ItemId} {w : World} (hw : Reachable bf w) :
    ∀ {es : List Event} {w' : World}, w.run es = some w' → Reachable bf w'
  | [], _, h => by cases h; exact hw
  | e :: es, w', h => by
    simp only [World.run, Option.bind_eq_some] at h
    obtain ⟨w₁, h₁, h⟩ := h
    exact reachable_of_run (.step e hw h₁) h

/-- A replay from a fresh deployment that ends in a world satisfying `P` exhibits a
    reachable world satisfying `P`; `P` is checked by evaluation. -/
theorem exists_reachable_of_run {bf : RedisBloomFilter ItemId} {P : World → Prop}
    [DecidablePred P] (es : List Event)
    (h : ((World.init bf).run es).elim false (fun w => decide (P w)) = true) :
    ∃ w, Reachable bf w ∧ P w := by
  cases hr : (World.init bf).run es with
  | none => simp [hr] at h
  | some w => exact ⟨w, reachable_of_run .init hr, by simpa [hr] using h⟩

end FlashSale
