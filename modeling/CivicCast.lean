import CivicCast.Supervisor.Backoff
import CivicCast.Supervisor.Shutdown
import CivicCast.Egress.ControlSeam
import CivicCast.Egress.ManifestPublisher
import CivicCast.Egress.HlsRelay
import CivicCast.Reporting.ExactlyOnce
import CivicCast.Supervisor.SinglePlane
import CivicCast.Egress.Rollover
import CivicCast.Egress.OperatorStop
import CivicCast.Egress.AppliedHandoff
import CivicCast.Egress.ReloadStall
import CivicCast.Egress.TakeoverAir
import CivicCast.Eas.AutoSurface
import CivicCast.Upgrade.Commitment
import CivicCast.Upgrade.HeldRestore
import CivicCast.Upgrade.RecoveryPoint
import CivicCast.Egress.PreparedWindows
import CivicCast.Egress.ConformCache
import CivicCast.Egress.PreparedPlans
import CivicCast.Cutover.Convergence
import CivicCast.Recording.WeeklyOnce
import CivicCast.Recording.TickIsolation
import CivicCast.Recording.Restart
import CivicCast.Egress.TakeoverRequests
import CivicCast.Backup.Retention
import CivicCast.Backup.NightlyWorker
import CivicCast.Subscribe.RetryWorker
import CivicCast.Subscribe.Deliveries
import CivicCast.Station.Withdrawal
import CivicCast.Auth.RateLimit
import CivicCast.Publish.Notices
import CivicCast.Live.SurgeSwitch
import CivicCast.Live.GuestLimit
import CivicCast.Live.PackagedTrim
import CivicCast.Backup.RoundTrip
import CivicCast.Paywall.MagicLink
import CivicCast.Paywall.Entitlement
import CivicCast.Underwriting.Affidavit
import CivicCast.Schedule.Rollback
import CivicCast.Egress.ChainedProgram
import CivicCast.Egress.SlateEscalation
import CivicCast.Reporting.PublicReport
import CivicCast.Eas.BrokenFeed
import CivicCast.Alerting.Sessions
import CivicCast.Alerting.QuietHours
import CivicCast.Underwriting.DailyCap
import CivicCast.Egress.EmergencyOverlay
import CivicCast.Recording.Reconnect
import CivicCast.Recording.Outlives
import CivicCast.Egress.SegmentWindows
import CivicCast.Schedule.MissingMedia
import CivicCast.Schedule.Reingest
import CivicCast.Schedule.RepeatSpacing
import CivicCast.Supervisor.JobMembership
import CivicCast.Captions.HlsTrack
import CivicCast.Captions.TapBackoff
import CivicCast.Egress.CaptionClock
