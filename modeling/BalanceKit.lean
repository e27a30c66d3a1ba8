import BalanceKit.Library.Base58
import BalanceKit.Library.Conversion
import BalanceKit.Library.Documents
import BalanceKit.Library.Emitting
import BalanceKit.Library.FirstAnswer
import BalanceKit.Library.Glob
import BalanceKit.Library.Hex
import BalanceKit.Library.Js
import BalanceKit.Library.Json
import BalanceKit.Library.Number
import BalanceKit.Library.OrderedMap
import BalanceKit.Library.Quantity
import BalanceKit.Library.RecentLog
import BalanceKit.Library.Registration
import BalanceKit.Library.Runs
import BalanceKit.Library.Text
import BalanceKit.Library.Throttle
import BalanceKit.Chains.Addresses
import BalanceKit.Chains.Constants
import BalanceKit.Core.CacheBackends
import BalanceKit.Core.CacheKey
import BalanceKit.Core.CacheMongo
import BalanceKit.Core.DbService
import BalanceKit.Core.DocumentStores
import BalanceKit.Core.InvalidationScope
import BalanceKit.Core.KeyParsing
import BalanceKit.Core.PatternDeletion
import BalanceKit.Core.PortfolioHistory
import BalanceKit.Core.ProviderInvalidation
import BalanceKit.Core.ProviderIsolation
import BalanceKit.Core.SnapshotIndex
import BalanceKit.Core.StaleRead
import BalanceKit.Core.TransformStability
import BalanceKit.Balances.BoundedStaleness
import BalanceKit.Balances.CachedAddresses
import BalanceKit.Balances.ConcurrentQueries
import BalanceKit.Balances.NativeBalance
import BalanceKit.Balances.NftPipeline
import BalanceKit.Balances.Portfolio
import BalanceKit.Balances.ProviderAnswers
import BalanceKit.Balances.RawData
import BalanceKit.Balances.StorePaths
import BalanceKit.Balances.TokenPipeline
import BalanceKit.Balances.UsdValues
import BalanceKit.Providers.ChainEndpoints
import BalanceKit.Providers.ChainInput
import BalanceKit.Providers.Discovery
import BalanceKit.Providers.Erc20Balance
import BalanceKit.Providers.Factories
import BalanceKit.Providers.GasEstimate
import BalanceKit.Providers.GasPrice
import BalanceKit.Providers.NetworkRouting
import BalanceKit.Providers.Registry
import BalanceKit.Providers.Resolution
import BalanceKit.Providers.ServiceProxies
import BalanceKit.Webhook.Acceptance
import BalanceKit.Webhook.ActiveAddresses
import BalanceKit.Webhook.AddressInvalidation
import BalanceKit.Webhook.Authentication
import BalanceKit.Webhook.ChainAgreement
import BalanceKit.Webhook.ChainUpdate
import BalanceKit.Webhook.Convergence
import BalanceKit.Webhook.CreationLock
import BalanceKit.Webhook.EndToEnd
import BalanceKit.Webhook.Events
import BalanceKit.Webhook.FanOut
import BalanceKit.Webhook.KeyCacheClearing
import BalanceKit.Webhook.MonitoringFlag
import BalanceKit.Webhook.Propagation
import BalanceKit.Webhook.Reconciliation
import BalanceKit.Webhook.RepeatedReconciliation
import BalanceKit.Webhook.Signature
import BalanceKit.Webhook.SignatureTotality
import BalanceKit.Webhook.SigningKey
import BalanceKit.Webhook.ThrottledUpdates
import BalanceKit.Webhook.UnreliableListing
import BalanceKit.Sse.Connections
import BalanceKit.Sse.Delivery
import BalanceKit.Sse.Events
import BalanceKit.Sse.FilterAgreement
import BalanceKit.Sse.Notification
import BalanceKit.Sse.Replay
import BalanceKit.Sse.Resumption
import BalanceKit.Sse.Timeouts
import BalanceKit.Sse.Wire
import BalanceKit.Common.ErrorBodies
import BalanceKit.Common.ErrorCodes
import BalanceKit.Common.HttpExceptionFilter
