import AbstractFramework.Lib.Fallible
import AbstractFramework.Lib.Machine
import AbstractFramework.Lib.Effects
import AbstractFramework.Lib.Storage
import AbstractFramework.Lib.Counting
import AbstractFramework.Lib.Packages
import AbstractFramework.Lib.Grants
import AbstractFramework.Lib.Calls
import AbstractFramework.Lib.Forest
import AbstractFramework.Lib.Hops
import AbstractFramework.Lib.Requests
import AbstractFramework.Lib.Wallet
import AbstractFramework.Objects.Chain
import AbstractFramework.Objects.AccountId
import AbstractFramework.Objects.AccountIdCodec
import AbstractFramework.Objects.AccountIdText
import AbstractFramework.Objects.AccountIdJson
import AbstractFramework.Objects.Module
import AbstractFramework.Objects.Querier
import AbstractFramework.Ownership.GovOwnable
import AbstractFramework.Ownership.Protocol
import AbstractFramework.Ownership.Nested
import AbstractFramework.Registry.State
import AbstractFramework.Registry.Commands
import AbstractFramework.Registry.Writes
import AbstractFramework.Registry.NamespaceAuthority
import AbstractFramework.Registry.Namespaces
import AbstractFramework.Registry.Lifecycle
import AbstractFramework.Registry.Registration
import AbstractFramework.Registry.Accounts
import AbstractFramework.Account.State
import AbstractFramework.Account.Versioning
import AbstractFramework.Account.Modules
import AbstractFramework.Account.Migration
import AbstractFramework.ModuleFactory.Commands
import AbstractFramework.ModuleFactory.Addresses
import AbstractFramework.Account.Operations
import AbstractFramework.Account.Dependencies
import AbstractFramework.Account.DependentsIndex
import AbstractFramework.Account.Versions
import AbstractFramework.Account.Commands
import AbstractFramework.Account.Contract
import AbstractFramework.Account.Whitelist
import AbstractFramework.Account.SelfOwned
import AbstractFramework.Account.Suspension
import AbstractFramework.Account.CallTree
import AbstractFramework.Account.Escalation
import AbstractFramework.Accounts.World
import AbstractFramework.Accounts.Moves
import AbstractFramework.Accounts.Hierarchy
import AbstractFramework.Accounts.SubAccountIndex
import AbstractFramework.IbcHost.Commands
import AbstractFramework.IbcHost.Dispatch
import AbstractFramework.Voting.SimpleVoting
import AbstractFramework.Voting.Tally
import AbstractFramework.Voting.Lifecycle
import AbstractFramework.Challenge.Commands
import AbstractFramework.Challenge.Strikes
import AbstractFramework.IbcHost.AccountIds
import AbstractFramework.IbcHost.Naming
import AbstractFramework.IbcHost.Funding
import AbstractFramework.IbcHost.Transactions
import AbstractFramework.IbcClient.Commands
import AbstractFramework.IbcClient.Notes
import AbstractFramework.IbcClient.ModulePackets
import AbstractFramework.IbcClient.Network
import AbstractFramework.IbcClient.Transfers
import AbstractFramework.IbcClient.StrandedCoins
import AbstractFramework.Lib.Timeline
import AbstractFramework.Lib.SharedRate
import AbstractFramework.Lib.Escrow
import AbstractFramework.Ownership.NestedAdmin
import AbstractFramework.Challenge.Handlers
import AbstractFramework.Challenge.Permissions
import AbstractFramework.Challenge.Ballots
import AbstractFramework.Challenge.Friends
import AbstractFramework.Objects.TimeWeightedAverage
import AbstractFramework.Sdk.Bank
import AbstractFramework.App.PingPong
import AbstractFramework.App.PingPongGames
import AbstractFramework.Calendar.Commands
import AbstractFramework.Calendar.Bookings
import AbstractFramework.Calendar.Stakes
import AbstractFramework.Subscription.Commands
import AbstractFramework.Subscription.Handlers
import AbstractFramework.Subscription.Bookkeeping
import AbstractFramework.Subscription.Emissions
import AbstractFramework.Subscription.Income
import AbstractFramework.Lib.Ranges
import AbstractFramework.Lib.Snapshots
import AbstractFramework.Ans.Host
import AbstractFramework.Sdk.Dex
import AbstractFramework.Payment.Commands
import AbstractFramework.Payment.Handlers
import AbstractFramework.Payment.Tips
import AbstractFramework.ModuleFactory.Salts
import AbstractFramework.Lib.ReverseIndex
import AbstractFramework.Registry.ReverseTables
import AbstractFramework.Lib.Batches
import AbstractFramework.Lib.Paging
import AbstractFramework.Lib.TwoWay
import AbstractFramework.Lib.Buckets
import AbstractFramework.Adapter.Commands
import AbstractFramework.Adapter.Authorization
import AbstractFramework.Adapter.AuthorizedAddresses
import AbstractFramework.ModuleFactory.Funds
import AbstractFramework.Registry.LatestVersion
import AbstractFramework.Registry.ModuleList
import AbstractFramework.Registry.ModuleKeys
import AbstractFramework.Ans.Commands
import AbstractFramework.Ans.AssetNames
import AbstractFramework.Ans.Pools
import AbstractFramework.Account.InstallFunds
import AbstractFramework.Dex.Actions
import AbstractFramework.Platforms.Identity
import AbstractFramework.Platforms.Requests
import AbstractFramework.Platforms.Adapters
import AbstractFramework.Dex.AnsActions
import AbstractFramework.Dex.LpTokens
import AbstractFramework.Dex.Resolution
import AbstractFramework.Voting.Thresholds
import AbstractFramework.Voting.Safety
import AbstractFramework.Objects.AverageError
import AbstractFramework.Subscription.Payments
import AbstractFramework.Dex.Exchanges
import AbstractFramework.Dex.Handlers
import AbstractFramework.Dex.Simulation
import AbstractFramework.Ans.Dexes
import AbstractFramework.Ans.Directory
import AbstractFramework.Ans.PoolList
import AbstractFramework.Ans.PoolTexts
import AbstractFramework.Lib.SortedMap
import AbstractFramework.Sdk.IbcMemo
import AbstractFramework.Lib.PoolShares
import AbstractFramework.Lib.Alignment
import AbstractFramework.Integrations.Exchange
import AbstractFramework.Integrations.Osmosis
import AbstractFramework.Integrations.OsmosisShares
import AbstractFramework.Integrations.Astrovault
import AbstractFramework.Integrations.AstrovaultDeposits
import AbstractFramework.Interchain.Relay
import AbstractFramework.Interchain.Packets
import AbstractFramework.Interchain.RemoteAccounts
import AbstractFramework.Interchain.UnreportedAccounts
import AbstractFramework.Interchain.ModuleCallbacks
import AbstractFramework.Interchain.Masters
import AbstractFramework.Registry.Listings
import AbstractFramework.Interface.RegistryClient
