import NimHunt.AdminModeration
import NimHunt.CancellationSafety
import NimHunt.ChainStatus
import NimHunt.ClaimAuthorizationFlow
import NimHunt.ClaimPayoutThrottle
import NimHunt.ClaimSecurityMaintenance
import NimHunt.ClaimWalletHourlyLimit
import NimHunt.FreshClaimGuard
import NimHunt.Lib.Polling
import NimHunt.Lib.Rotation
import NimHunt.Lib.Runs
import NimHunt.Lib.Windows
import NimHunt.Proofs.AddressSpelling
import NimHunt.Proofs.AddressTypos
import NimHunt.Proofs.BadAnswers
import NimHunt.Proofs.BehaviorAgreement
import NimHunt.Proofs.CancellationBound
import NimHunt.Proofs.CancellationSplit
import NimHunt.Proofs.Capacity
import NimHunt.Proofs.CapacityDraw
import NimHunt.Proofs.Censoring
import NimHunt.Proofs.ChosenWinners
import NimHunt.Proofs.ClaimEntries
import NimHunt.Proofs.CleanupCoverage
import NimHunt.Proofs.ClusterMembers
import NimHunt.Proofs.ClusterOrder
import NimHunt.Proofs.CodeConsistency
import NimHunt.Proofs.CooldownMarkers
import NimHunt.Proofs.DepositKeys
import NimHunt.Proofs.DescriptionBudget
import NimHunt.Proofs.DraftEditing
import NimHunt.Proofs.DueRetries
import NimHunt.Proofs.FairDraw
import NimHunt.Proofs.FirstLocation
import NimHunt.Proofs.GenuineWait
import NimHunt.Proofs.GeohashCells
import NimHunt.Proofs.GpsEvidence
import NimHunt.Proofs.HourlyLimit
import NimHunt.Proofs.LimitAdjustment
import NimHunt.Proofs.LocationEvidence
import NimHunt.Proofs.MapSearchCoverage
import NimHunt.Proofs.MercyRule
import NimHunt.Proofs.MetadataCleanup
import NimHunt.Proofs.OutboxSafety
import NimHunt.Proofs.PayoutRows
import NimHunt.Proofs.PayoutWindows
import NimHunt.Proofs.PendingDeposits
import NimHunt.Proofs.PollingCache
import NimHunt.Proofs.PollingCoverage
import NimHunt.Proofs.PostingOnce
import NimHunt.Proofs.PrizeDivision
import NimHunt.Proofs.PublishCodes
import NimHunt.Proofs.RateAdmission
import NimHunt.Proofs.RecoveryFlow
import NimHunt.Proofs.RegistrationQuotas
import NimHunt.Proofs.RejectedClaims
import NimHunt.Proofs.RequestBodies
import NimHunt.Proofs.ResponseDelivery
import NimHunt.Proofs.SecurityRecord
import NimHunt.Proofs.SettlementCoverage
import NimHunt.Proofs.SignedFields
import NimHunt.Proofs.SingleUse
import NimHunt.Proofs.Solvency
import NimHunt.Proofs.SpotCacheAgreement
import NimHunt.Proofs.SpotLifetime
import NimHunt.Proofs.SpotLives
import NimHunt.Proofs.SystemRuns
import NimHunt.Proofs.SystemWrites
import NimHunt.Proofs.TechnicalSender
import NimHunt.Proofs.ThrottleGate
import NimHunt.Proofs.TravelRetry
import NimHunt.Proofs.TruthfulTraveller
import NimHunt.Proofs.WalletAddresses
import NimHunt.Proofs.WalletLimit
import NimHunt.Proofs.WholeLedger
import NimHunt.SearchTransport
import NimHunt.SecurityMetadata
import NimHunt.SpotCache
import NimHunt.System
import NimHunt.XAutoPoster
