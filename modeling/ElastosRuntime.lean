import ElastosRuntime.Capability.Budget
import ElastosRuntime.Capability.PendingLifecycle
import ElastosRuntime.Capability.PendingCapacity
import ElastosRuntime.Capability.MassRevocation
import ElastosRuntime.Session.VmIndex
import ElastosRuntime.Messaging.Delivery
import ElastosRuntime.Contracts.Catalogue
import ElastosRuntime.Contracts.Placement
import ElastosRuntime.Journal.Files
import ElastosRuntime.Install.SupportTree
import ElastosRuntime.Coordinator.Clock
import ElastosRuntime.Custody.Opening
import ElastosRuntime.Mint.Readback
import ElastosRuntime.Mint.HexQuantities
import ElastosRuntime.Identity.PasskeyLimits
import ElastosRuntime.Identity.DidKeyCache
import ElastosRuntime.Collaboration.TransportFrames
import ElastosRuntime.Collaboration.HeldFrames
import ElastosRuntime.Collaboration.RateLimiter
import ElastosRuntime.Localhost.NormalForm
import ElastosRuntime.Localhost.SiteState
import ElastosRuntime.Namespace.Resolver
import ElastosRuntime.Namespace.Store
import ElastosRuntime.Namespace.Listing
import ElastosRuntime.Namespace.Signatures
import ElastosRuntime.Wallet.ManagedKeys
import ElastosRuntime.Wallet.DomainChain
import ElastosRuntime.Wallet.TypeStrings
import ElastosRuntime.Wallet.Pruning
import ElastosRuntime.ModelProvider.EventPages
import ElastosRuntime.Capability.Signing
import ElastosRuntime.Capability.Delegation
import ElastosRuntime.Capability.Resources
import ElastosRuntime.Identity.Parties
import ElastosRuntime.Identity.Enrollment
import ElastosRuntime.Room.Authority
import ElastosRuntime.DirectoryHash.Multipart
import ElastosRuntime.ChainProvider.AssetCreated
import ElastosRuntime.Journal.Decoding
