import FlashSale.Domain
import FlashSale.Store.Table
import FlashSale.Store.Repository
import FlashSale.Cache.Bloom
import FlashSale.Cache.Redis
import FlashSale.Cache.PurchaseScript
import FlashSale.Engine.Shared
import FlashSale.Engine.Checkout
import FlashSale.Engine.Purchase
import FlashSale.Engine.Scheduler
import FlashSale.System
import FlashSale.Http.Response
import FlashSale.Http.Routes
import FlashSale.Spec.Filter
import FlashSale.Spec.PurchaseLimits
import FlashSale.Spec.Marking
import FlashSale.Spec.Invariant
import FlashSale.Spec.Reachable
import FlashSale.Spec.SoldItems
import FlashSale.Spec.Transactions
import FlashSale.Spec.Lock
import FlashSale.Spec.Idempotency
import FlashSale.Spec.Counters
import FlashSale.Spec.Checkouts
import FlashSale.Spec.Responses
import FlashSale.Spec.Sales
import FlashSale.Spec.Termination
import FlashSale.Spec.Serial
import FlashSale.Spec.Completion
import FlashSale.Spec.UseCase
import FlashSale.Spec.Lifecycle
import FlashSale.Spec.Outcomes
import FlashSale.Spec.Refusals
import FlashSale.Spec.Errors
import FlashSale.Spec.Windows
import FlashSale.Http.Admin
