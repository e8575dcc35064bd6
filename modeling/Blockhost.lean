import Blockhost.Services.ExpirationSchedule
import Blockhost.Services.RazorpayRuns
import Blockhost.Orchestrator.BackupRoundTrip
import Blockhost.Agent.Migration
import Blockhost.Api.UserFiles
import Blockhost.Api.PaddleOrdering
import Blockhost.Api.PaddleLedger
import Blockhost.Api.RestoreConfinement
import Blockhost.Orchestrator.JobLeases
import Blockhost.Services.NodeShutdown
import Blockhost.Orchestrator.SingleProcess
import Blockhost.Orchestrator.PortFootprints
import Blockhost.Orchestrator.NodeLiveness
import Blockhost.Orchestrator.DrainedNodes
import Blockhost.Orchestrator.EntitledStarts
import Blockhost.Orchestrator.StoredRamRuns
import Blockhost.Api.RollbackHistories
import Blockhost.Orchestrator.StaleHeartbeats
import Blockhost.Orchestrator.FailedStarts
import Blockhost.Api.BanLifecycle
import Blockhost.Services.ProxyListeners
import Blockhost.Services.SessionFlows
import Blockhost.Services.BanEnforcement
import Blockhost.Orchestrator.EndedJobs
import Blockhost.Services.RefreshRuns
import Blockhost.Agent.VolumeSnapshots
import Blockhost.Services.MigrationGuards
import Blockhost.Runtime.LogListeners
import Blockhost.Api.DeletionRuns
import Blockhost.Services.ProvisioningOutcomes
import Blockhost.Api.CoherentReads
import Blockhost.Agent.JarStarts
import Blockhost.Services.BuildRuns
import Blockhost.Api.PortRuns
import Blockhost.Services.OrphanRescues
import Blockhost.Api.BlockcoinLedger
import Blockhost.Api.DomainOwnership
import Blockhost.Services.WakeProxy
import Blockhost.Services.WakeUps
import Blockhost.Services.BestNodes
import Blockhost.Services.RateLimitAgreement
import Blockhost.Services.ProxyPackets
import Blockhost.Minecraft.RconClient
import Blockhost.Minecraft.PropertyMaps
import Blockhost.Agent.ProtectedProperties
import Blockhost.Services.UdpDatagrams
import Blockhost.Agent.ArchiveExtraction
import Blockhost.Orchestrator.SafeExtraction
import Blockhost.Api.LocalUploads
import Blockhost.Orchestrator.AcceptedRestores
import Blockhost.Orchestrator.ScheduleProgress
import Blockhost.Services.AutoSleeper
import Blockhost.Services.ModResolution
import Blockhost.Services.PaymentInterruptions
import Blockhost.Agent.DeploymentHealth
import Blockhost.Api.VerificationCodes
import Blockhost.Api.RazorpayWebhook
import Blockhost.Orchestrator.JavaVersions
import Blockhost.Runtime.RosterRebuild
import Blockhost.Services.DeploymentSleeper
import Blockhost.Api.DatabaseUrls
import Blockhost.Agent.ModDownloads
import Blockhost.Api.FileListings
import Blockhost.Api.Collaborators
import Blockhost.Minecraft.BedrockDownload
