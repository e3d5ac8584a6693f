import HyruleCloud.QuoteAccounting
import HyruleCloud.FailedProvisioning
import HyruleCloud.GuestExclusion
import HyruleCloud.RateLock
import HyruleCloud.IntentCreation
import HyruleCloud.NativeRefunds
import HyruleCloud.StrandedIntents
import HyruleCloud.HandoffFence
import HyruleCloud.ReportDeadline
import HyruleCloud.GuestIdentity
import HyruleCloud.OrderOutcomes
import HyruleCloud.JobLeases
import HyruleCloud.MarketplaceSettlement
import HyruleCloud.UnpaidReservations
import HyruleCloud.TunnelCreates
import HyruleCloud.LeaseTracking
import HyruleCloud.SecretReveals
import HyruleCloud.WaiverQuota
import HyruleCloud.PrefixSeparation
import HyruleCloud.PaidResumes
import HyruleCloud.EnabledAdmins
import HyruleCloud.RefundResolutions
import HyruleCloud.IssuedCredentials
import HyruleCloud.PublishedKeys
import HyruleCloud.DeletedAccounts
import HyruleCloud.ExtensionAccounts
import HyruleCloud.RecoveryAuthority
import HyruleCloud.TransferredPairs
import HyruleCloud.ErasedFailures
import HyruleCloud.AbsorbedStatuses
import HyruleCloud.ExtensionCharges
import HyruleCloud.DepartedDomains
import HyruleCloud.KeyChains
import HyruleCloud.PaymentUris
import HyruleCloud.PriceMonotone
import HyruleCloud.RecordNames
import HyruleCloud.ExpiryPolicy
import HyruleCloud.RegisterLimits
import HyruleCloud.ProbeTargets
import HyruleCloud.OperationPrices
import HyruleCloud.DiagnosticCharges
import HyruleCloud.CheckoutRuns
import HyruleCloud.ClientReceipts
import HyruleCloud.BgpJobs
import HyruleCloud.OriginAssertions
import HyruleCloud.MxChecks
import HyruleCloud.RegistryQueries
import HyruleCloud.CacheFreshness
import HyruleCloud.ProtectedGuests
import HyruleCloud.GuestReports
import HyruleCloud.RuleCounts
import HyruleCloud.FilteringVerdicts
import HyruleCloud.RecoverySweeps
import HyruleCloud.StunAnswers
