import Snakeskin.Library.WireFormat
import Snakeskin.Library.RelyGuarantee
import Snakeskin.Library.Simulation
import Snakeskin.Library.Histories
import Snakeskin.TransientData
import Snakeskin.SignedMessages
import Snakeskin.EndorsementAgreement
import Snakeskin.HighLevelPaths
import Snakeskin.CompletedOperations
import Snakeskin.FullEndorsement
import Snakeskin.BuilderInvariant
import Snakeskin.CommitWait
import Snakeskin.OneTask
import Snakeskin.PolicyMeaning
import Snakeskin.Protos.Configtx
import Snakeskin.Decoded
import Snakeskin.BlockRoundTrip
import Snakeskin.DecodedInvocation
import Snakeskin.Broadcasts
import Snakeskin.BlockStreams
import Snakeskin.TransactionVerdict
import Snakeskin.PolicyIdentities
import Snakeskin.PolicyThresholds
import Snakeskin.AwaitGroups
import Snakeskin.SharedLoops
import Snakeskin.LostOperations
import Snakeskin.PolicyFailures
import Snakeskin.BroadcastContacts
import Snakeskin.JoinChannel
import Snakeskin.HubAgreement
import Snakeskin.CommitFailover
import Snakeskin.OthersTransactions
import Snakeskin.NeverProposed
import Snakeskin.SelfDescribing
import Snakeskin.Library.FileTree
import Snakeskin.ReproduciblePackages
import Snakeskin.Library.Base64
import Snakeskin.Library.TextEncoding
import Snakeskin.CallerText
import Snakeskin.PemArmour
import Snakeskin.Deployment
import Snakeskin.Administration
import Snakeskin.Proposals
import Snakeskin.OperationOutcomes
import Snakeskin.JustifiedRequests
import Snakeskin.Interleavings
import Snakeskin.DistinctProposals
import Snakeskin.InstantiatedChaincode
import Snakeskin.LifecycleRequests
import Snakeskin.ChannelSetup
import Snakeskin.Config
import Snakeskin.Library.Ecdsa
import Snakeskin.Crypto
import Snakeskin.EcdsaLibraries
import Snakeskin.CryptoSuites
import Snakeskin.ReportedOutcomes
import Snakeskin.OwnRequests
import Snakeskin.RequestBudgets
