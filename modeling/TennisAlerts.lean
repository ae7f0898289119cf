import TennisAlerts.Concurrent.RelyGuarantee
import TennisAlerts.Database.Table
import TennisAlerts.HostCore.WechatWorker
import TennisAlerts.HostCore.System
import TennisAlerts.Properties.SingleSend
import TennisAlerts.Properties.DeviceLedger
import TennisAlerts.Properties.DeliveryFence
import TennisAlerts.Properties.ClaimCoherence
import TennisAlerts.Properties.PhoneOwnership
import TennisAlerts.Properties.VerificationCodes
import TennisAlerts.Properties.InviteCodes
import TennisAlerts.Properties.MigrationFence
import TennisAlerts.Properties.SubscriptionCreation
import TennisAlerts.Properties.OriginAccess
import TennisAlerts.Properties.EdgeExposure
import TennisAlerts.Properties.SentCache
import TennisAlerts.Properties.Announcements
import TennisAlerts.Properties.DashboardIdentity
import TennisAlerts.Properties.SnapshotOrder
import TennisAlerts.Properties.OwnActivation
import TennisAlerts.Properties.LineCoverage
import TennisAlerts.Properties.PreparedMessages
import TennisAlerts.Properties.RowOrder
import TennisAlerts.Properties.DigestRetries
import TennisAlerts.Properties.PlainTimes
import TennisAlerts.Properties.GroupNumbers
import TennisAlerts.Properties.OddSlots
import TennisAlerts.Properties.LineAgreement
import TennisAlerts.Properties.CanonicalRanges
import TennisAlerts.Properties.FreeComplement
import TennisAlerts.Properties.BookableMinutes
import TennisAlerts.Properties.PrintedWeekdays
import TennisAlerts.Properties.RepeatedLines
import TennisAlerts.Properties.RemoteOperations
import TennisAlerts.Properties.SourceEvidence
import TennisAlerts.Properties.BatchedWrites
import TennisAlerts.Properties.InviteSpellings
import TennisAlerts.Text.Base64
import TennisAlerts.Properties.CredentialAgreement
import TennisAlerts.Properties.CredentialResubmission
import TennisAlerts.Sender.WarmSession
import TennisAlerts.Properties.WarmSession
import TennisAlerts.Database.Ascent
import TennisAlerts.Properties.RowLifecycle
import TennisAlerts.Properties.RowMoves
import TennisAlerts.Properties.RowHistory
import TennisAlerts.Properties.RowRuns
import TennisAlerts.PiHost.DagGuard
import TennisAlerts.PiHost.Scraper
import TennisAlerts.Properties.DagFence
import TennisAlerts.Properties.FreshScrapes
import TennisAlerts.Properties.SendBudget
import TennisAlerts.Properties.CurrentAvailability
import TennisAlerts.Properties.PairedNotifications
import TennisAlerts.Properties.WechatRuns
