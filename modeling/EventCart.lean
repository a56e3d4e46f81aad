import EventCart.IdempotencyEffects
import EventCart.Replays
import EventCart.Lib.Runs
import EventCart.Lib.Chains
import EventCart.Dispatcher
import EventCart.Orders
import EventCart.Effects
import EventCart.OrderEffects
import EventCart.Workers.InventoryEffects
import EventCart.Workers.Reservation
import EventCart.Workers.BillingEffects
import EventCart.DispatchEffects
import EventCart.Saga.Handlers
import EventCart.Survival
import EventCart.Saga.System
import EventCart.Saga.Lifecycle
import EventCart.Saga.Dossier
import EventCart.Saga.Advance
import EventCart.Saga.Reachable
import EventCart.Saga.Progress
import EventCart.Saga.Stock
import EventCart.Saga.Completion
import EventCart.Saga.Requests
import EventCart.Saga.ExactlyOnce
import EventCart.FailedAttempts
import EventCart.NoEventLost
import EventCart.StockUpdates
import EventCart.Saga.Arrivals
import EventCart.Saga.Evidence
import EventCart.Saga.Confluence
import EventCart.Saga.Provenance
import EventCart.Saga.Origins
import EventCart.Saga.Correlation
import EventCart.Saga.Amounts
import EventCart.Saga.AllOrNothing
import EventCart.Keys.Answers
import EventCart.Lib.JsonTexts
import EventCart.Bodies
import EventCart.Keys.Replies
import EventCart.Keys.Alone
import EventCart.Keys.Fingerprints
import EventCart.Dispatchers.System
import EventCart.Dispatchers.Delivery
import EventCart.Dispatchers.Rounds
import EventCart.Dispatchers.Routing
import EventCart.Dispatchers.Draining
import EventCart.Dispatchers.Broker
import EventCart.Saga.History
import EventCart.Saga.Recovery
import EventCart.Dispatchers.Reports
import EventCart.Saga.Fulfilment
import EventCart.Lib.Refinement
import EventCart.Saga.Shop
import EventCart.Saga.Lockstep
import EventCart.Keys.Availability
import EventCart.Saga.Catalogue
import EventCart.Lib.JsonWriter
import EventCart.Dispatchers.Subscribers
import EventCart.Logging
import EventCart.Dispatchers.Logs
import EventCart.Dispatchers.Connections
import EventCart.Lib.DdlRows
import EventCart.Migrations.Versions
import EventCart.Migrations.Walks
import EventCart.Migrations.Metadata
