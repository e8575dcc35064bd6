import Blockhost.Library.Table

/-! Rows of the control plane's database and the tables that hold them. Columns that no
modelled function reads or writes are left out.
-/

namespace Blockhost

open Library

abbrev Uuid := Nat

abbrev Instant := Int

def days (count : Int) : Int := count * 86400000000

theorem days_pos {count : Int} : 0 < days count ↔ 0 < count := by
  unfold days
  omega

def seconds (count : Int) : Int := count * 1000000

inductive BillingSubscriptionStatus where
  | active
  | gracePeriod
  | suspended
  | cancelled
deriving DecidableEq, Repr

inductive BillingTransactionStatus where
  | pending
  | paid
  | failed
  | refunded
deriving DecidableEq, Repr

inductive ServerState where
  | created
  | provisioning
  | running
  | syncing
  | suspended
  | suspending
  | migrating
deriving DecidableEq, Repr

inductive ServerFlavor where
  | bedrock
  | javaVanilla
  | paper
  | purpur
  | fabric
  | forge
  | neoforge
deriving DecidableEq, Repr

inductive NodeState where
  | online
  | offline
  | draining
  | starting
deriving DecidableEq, Repr

inductive NodeTier where
  | shared
  | dedicated
deriving DecidableEq, Repr

inductive DeploymentState where
  | created
  | building
  | running
  | suspended
  | stopped
  | error
  | crashLoop
  | quotaExceeded
deriving DecidableEq, Repr

inductive HealthStatus where
  | unknown
  | healthy
  | unhealthy
  | crashLoop
  | quotaExceeded
deriving DecidableEq, Repr

inductive BackupStatus where
  | pending
  | running
  | heldSaves
  | copying
  | compressing
  | verifying
  | completed
  | failed
  | cancelled
  | deleting
  | deleted
  | expired
deriving DecidableEq, Repr

inductive RestoreStatus where
  | pending
  | running
  | validatingBackup
  | stoppingServer
  | extracting
  | validatingRestore
  | swapping
  | startingServer
  | completed
  | failed
  | rolledBack
  | cancelled
deriving DecidableEq, Repr

inductive AuthProvider where
  | localAccount
  | google
deriving DecidableEq, Repr

/-- The kinds of resource that a subscription can pay for. -/
inductive ResourceType where
  | minecraftServer
  | appDeployment
  | databaseInstance
deriving DecidableEq, Repr

structure User where
  id : Uuid
  email : String
  authHash : String
  nickname : String
  referrerCode : String := ""
  referredById : Option Uuid := none
  blockcoinBalance : Int := 0
  googleSub : Option String := none
  authProvider : AuthProvider := .localAccount
  emailVerifiedAt : Option Instant := none
  emailVerificationOtpHash : Option String := none
  emailVerificationExpiresAt : Option Instant := none
  deletedAt : Option Instant := none
deriving DecidableEq, Repr

structure RefreshToken where
  id : Uuid
  userId : Uuid
  jti : String
  expiresAt : Instant
  revokedAt : Option Instant := none
deriving DecidableEq, Repr

/-- Why a balance changed, with the user whom its metadata names. -/
inductive BlockcoinReason where
  | referral (referredBy : Uuid)
  | adminAdjustment (grantedBy : Uuid)
deriving DecidableEq, Repr

structure BlockcoinTransaction where
  userId : Uuid
  amount : Int
  reason : BlockcoinReason
  serverId : Option Uuid := none
deriving DecidableEq, Repr

structure Project where
  id : Uuid
  ownerId : Uuid
deriving DecidableEq, Repr

/-- The limits that a plan puts on a server. -/
structure ResourceLimits where
  ramMb : Int
  cpuQuotaPct : Int
  storageMb : Int
  playerLimit : Int
deriving DecidableEq, Repr

/-- The keys of a server's configuration document that the modelled functions use. -/
structure McConfig where
  levelName : Option String := none
  serverDir : Option String := none
  billingPlanId : Option String := none
  resourceLimits : Option ResourceLimits := none
  lastMigratedAt : Option Instant := none
deriving DecidableEq, Repr

structure Server where
  id : Uuid
  nodeId : Option Uuid
  ownerId : Uuid
  worldName : String
  state : ServerState := .created
  vmIpv4 : Option String := none
  vmPort : Int := 19132
  mcConfig : McConfig := {}
  flavor : ServerFlavor := .bedrock
  mcVersion : Option String := none
  lastActivity : Instant
  playersOnline : Int := 0
  lastBackupAt : Option Instant := none
  backupCount : Int := 0
deriving DecidableEq, Repr

def suspendServer : Change Server.id where
  apply server := { server with state := .suspended }

structure Ban where
  id : Uuid
  serverId : Uuid
deriving DecidableEq, Repr

structure ServerCollaborator where
  id : Uuid
  serverId : Uuid
  userId : Uuid
  permissions : List String := []
deriving DecidableEq, Repr

structure Node where
  id : Uuid
  name : String
  ipAddress : String
  agentPort : Int := 9000
  status : NodeState := .offline
  statusUpdatedAt : Instant
  approved : Bool := false
  agentTokenHash : Option String := none
  tier : NodeTier := .shared
  provider : Option String := none
  providerInstanceId : Option String := none
  totalRamMb : Int := 0
  usedRamMb : Int := 0
  cpuCores : Rat := 0
  cpuUsagePercent : Rat := 0
  lastHeartbeat : Option Instant := none
deriving DecidableEq, Repr

/-- The environment of a container, a dict of texts in the order of their insertion. -/
abbrev EnvVars := List (String × String)

structure AppDeployment where
  id : Uuid
  ownerId : Uuid
  nodeId : Option Uuid
  projectId : Option Uuid := none
  dockerImage : String := ""
  hostPort : Option Int := none
  state : DeploymentState := .created
  envVars : EnvVars := []
  volumePath : String
  containerId : Option String := none
  ramLimitMb : Int := 512
  githubRepoUrl : Option String := none
  githubBranch : String := "main"
  restartCount : Int := 0
  lastHealthyAt : Option Instant := none
  healthStatus : HealthStatus := .unknown
  errorMessage : Option String := none
deriving DecidableEq, Repr

inductive RevisionTrigger where
  | manual
  | envChange
  | rollback
  | githubPush
deriving DecidableEq, Repr

structure DeploymentRevision where
  id : Uuid
  deploymentId : Uuid
  imageTag : Option String := none
  commitSha : Option String := none
  status : DeploymentState := .created
  isActive : Bool := false
  trigger : RevisionTrigger := .manual
  errorMessage : Option String := none
  envSnapshot : Option EnvVars := none
  deployedAt : Option Instant := none
  createdAt : Instant
deriving DecidableEq, Repr

inductive DatabaseEngine where
  | postgresql
  | mysql
  | mariadb
  | redis
deriving DecidableEq, Repr

structure DatabaseInstance where
  id : Uuid
  projectId : Uuid
  nodeId : Option Uuid
  engine : DatabaseEngine := .postgresql
  dbName : String := ""
  dbUsername : String := ""
  dbPassword : String := ""
  ramLimitMb : Int := 512
  state : DeploymentState := .created
deriving DecidableEq, Repr

structure BillingPlan where
  id : String
  ramMb : Int
  cpuLimit : Int
  storageMb : Int
  playerLimit : Int
  price : Int
  durationDays : Int
  active : Bool := true
deriving DecidableEq, Repr

structure BillingSubscription where
  id : Uuid
  userId : Uuid
  serverId : Option Uuid
  resourceType : Option ResourceType := none
  resourceId : Option Uuid := none
  planId : String
  startsAt : Instant
  expiresAt : Instant
  status : BillingSubscriptionStatus := .active
  providerSubscriptionId : Option String := none
  createdAt : Instant
  updatedAt : Instant
deriving DecidableEq, Repr

structure BillingTransaction where
  id : Uuid
  userId : Uuid
  serverId : Option Uuid
  subscriptionId : Option Uuid := none
  provider : String
  providerOrderId : String
  providerPaymentId : Option String := none
  amount : Int
  currency : String := "INR"
  status : BillingTransactionStatus := .pending
  completedAt : Option Instant := none
  targetPlanId : String
deriving DecidableEq, Repr

inductive BillingAuditAction where
  | subscriptionUpgraded (planId provider providerOrderId providerPaymentId : String)
  | subscriptionSuspended (subscriptionId : Uuid) (expiredAt : Instant)
deriving DecidableEq, Repr

structure BillingAuditLog where
  userId : Uuid
  serverId : Option Uuid
  transactionId : Option Uuid
  action : BillingAuditAction
deriving DecidableEq, Repr

structure ProcessedWebhookEvent where
  eventId : String
  provider : String
  eventType : String
  processedAt : Instant
deriving DecidableEq, Repr

structure Backup where
  id : Uuid
  serverId : Uuid
  ownerId : Uuid
  status : BackupStatus := .pending
  worldName : String
  scheduleId : Option Uuid := none
  pinned : Bool := false
  storageKey : Option String := none
  checksumSha256 : Option String := none
  sizeBytes : Int := 0
  failureCode : Option String := none
  failureMessage : Option String := none
  createdAt : Instant := 0
  completedAt : Option Instant := none
  deletedAt : Option Instant := none
deriving DecidableEq, Repr

structure BackupJob where
  id : Uuid
  backupId : Uuid
  serverId : Uuid
  status : BackupStatus := .pending
  phase : String := "pending"
  forceOffline : Bool := false
  attempts : Int := 0
  errorCode : Option String := none
  errorMessage : Option String := none
  completedAt : Option Instant := none
deriving DecidableEq, Repr

structure BackupSchedule where
  id : Uuid
  serverId : Uuid
  ownerId : Uuid
  enabled : Bool := true
  intervalMinutes : Option Int := none
  retentionCount : Int := 7
  skipIfServerOffline : Bool := false
  deferIfJobActive : Bool := true
  lastRunAt : Option Instant := none
  lastSuccessAt : Option Instant := none
  nextRunAt : Option Instant := none
  consecutiveFailures : Int := 0
deriving DecidableEq, Repr

structure RestoreJob where
  id : Uuid
  backupId : Uuid
  serverId : Uuid
  requestedByUserId : Uuid
  status : RestoreStatus := .pending
  phase : String := "pending"
  restartAfterRestore : Bool := true
  rollbackEnabled : Bool := true
  attempts : Int := 0
  errorCode : Option String := none
  errorMessage : Option String := none
  completedAt : Option Instant := none
deriving DecidableEq, Repr

/-- The committed contents of the database. -/
structure Database where
  users : Table User.id := .empty
  refreshTokens : Table RefreshToken.id := .empty
  blockcoinLedger : List BlockcoinTransaction := []
  projects : Table Project.id := .empty
  servers : Table Server.id := .empty
  serverCollaborators : Table ServerCollaborator.id := .empty
  bans : Table Ban.id := .empty
  nodes : Table Node.id := .empty
  appDeployments : Table AppDeployment.id := .empty
  databaseInstances : Table DatabaseInstance.id := .empty
  plans : Table BillingPlan.id := .empty
  subscriptions : Table BillingSubscription.id := .empty
  transactions : Table BillingTransaction.id := .empty
  billingAuditLogs : List BillingAuditLog := []
  processedWebhookEvents : Table ProcessedWebhookEvent.eventId := .empty
  backups : Table Backup.id := .empty
  backupJobs : Table BackupJob.id := .empty
  backupSchedules : Table BackupSchedule.id := .empty
  restoreJobs : Table RestoreJob.id := .empty

end Blockhost
