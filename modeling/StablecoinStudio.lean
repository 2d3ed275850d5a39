import StablecoinStudio.Token.AllowanceConservation
import StablecoinStudio.Token.HoldReductions
import StablecoinStudio.Token.HoldSolvency
import StablecoinStudio.Token.HolderClaims
import StablecoinStudio.Token.InitializedOnce
import StablecoinStudio.Token.MintingRights
import StablecoinStudio.Token.RolelessCaller
import StablecoinStudio.Token.SupplyCoverage
import StablecoinStudio.Token.ZeroAccount
import StablecoinStudio.Resolver.BlacklistSets
import StablecoinStudio.Resolver.Immutability
import StablecoinStudio.Resolver.Orphans
import StablecoinStudio.Resolver.Registrations
import StablecoinStudio.Resolver.Routing
import StablecoinStudio.Resolver.DeployScripts
import StablecoinStudio.Backend.JobCoverage
import StablecoinStudio.Backend.ConcurrentSigning
import StablecoinStudio.Backend.TerminalStatuses
import StablecoinStudio.Backend.OriginGuard
import StablecoinStudio.Sdk.Capabilities
import StablecoinStudio.Sdk.CreatedCoins
import StablecoinStudio.Sdk.BulkRequests
import StablecoinStudio.Sdk.MultiSignatures
import StablecoinStudio.Sdk.HoldIds
import StablecoinStudio.Sdk.ContractResults
import StablecoinStudio.Sdk.Transfers
import StablecoinStudio.Sdk.MirrorListings
import StablecoinStudio.Sdk.FeeRequests
import StablecoinStudio.Sdk.StringConversions
