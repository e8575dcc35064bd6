import Blockhost.Agent.ServerFilesKept
import Blockhost.Api.ServerOperations

/-! Which files of users survive the operations on a server. A reprovision replaces the server's
directory on the node by the control plane's copy; every other operation keeps what it does not
name.
-/

namespace Blockhost

open Library

variable {Content : Type}

def ServerOperation.Names (backend : Backend Content) (before : Site Content)
    (operation : ServerOperation Content) (path : Location)
    : Prop :=
  match operation with
  | .installMod _ (.ok mods) =>
      ∃ subdir, installSubdir before.server.flavor = some subdir
        ∧ ∃ file ∈ mods, path = backend.nodeDir ++ [subdir, file.filename]
  | .deleteMod _ filename =>
      ∃ subdir, installSubdir before.server.flavor = some subdir
        ∧ path = backend.nodeDir ++ [subdir, filename]
  | _ => False

/-- An operation with the steps of it that fail on each disk, or a file operation, a restore or a
deletion by a user, which changes only what lies under the paths that it names.
-/
inductive SiteEvent (Content : Type) where
  | perform (operation : ServerOperation Content) (controlFaults nodeFaults : List Bool)
  | userChange (paths : List Location)

def SiteEvent.Names (backend : Backend Content) (before : Site Content)
    (event : SiteEvent Content) (path : Location)
    : Prop :=
  match event with
  | .perform operation _ _ => operation.Names backend before path
  | .userChange paths => ∃ named ∈ paths, named <+: path

def Site.withFaults (site : Site Content) (controlFaults nodeFaults : List Bool)
    : Site Content :=
  { site with
    control := { site.control with faults := controlFaults }
    node := { site.node with faults := nodeFaults } }

def SiteStep (backend : Backend Content) (before : Site Content) (event : SiteEvent Content)
    (after : Site Content)
    : Prop :=
  match event with
  | .perform operation controlFaults nodeFaults =>
      after = finalState
        (performOperation backend operation (before.withFaults controlFaults nodeFaults))
  | .userChange paths =>
      ∀ path, (∀ named ∈ paths, ¬ named <+: path)
        → after.node.tree.lookup path = before.node.tree.lookup path

/-- A provisioning job that goes through to the agent: it waits, the control plane prepares its
copy, and the upload reaches the server's node.
-/
structure ReplacesDirectory (backend : Backend Content) (before : Site Content)
    (answers : JobAnswers Content)
    : Prop where
  waits : 0 < before.jobs
  prepared
    : ∃ control,
        prepareJavaServer backend answers backend.controlDir before.control = .ok () control
  delivered : answers.delivery = .ok ()
  assigned : before.server.nodeId.isSome = true

/-- A provisioning job that does not reach the node, or finds nothing to lose there. -/
def SparesUserFiles (backend : Backend Content) (before : Site Content)
    (answers : JobAnswers Content)
    : Prop :=
  ReplacesDirectory backend before answers
  → ∀ rest, inAllowedRoot rest = true
    → before.node.tree.isFile (backend.nodeDir ++ rest) = false

/-- A step that does not name a file, and whose provisioning job, if it is one, spares the files
of users.
-/
def SparingStep (backend : Backend Content) (rest : Location) (before : Site Content)
    (event : SiteEvent Content) (after : Site Content)
    : Prop :=
  SiteStep backend before event after
  ∧ ¬ event.Names backend before (backend.nodeDir ++ rest)
  ∧ ∀ answers controlFaults nodeFaults,
      event = .perform (.provisionJob answers) controlFaults nodeFaults
      → SparesUserFiles backend (before.withFaults controlFaults nodeFaults) answers

def SiteKept (path : Location) (before after : Site Content) : Prop :=
  FileKept path before.node after.node

instance (path : Location) : IsPreorder (Site Content) (SiteKept path) where
  refl before := refl_of (FileKept path) before.node
  trans _ _ _ first second := trans_of (FileKept path) first second

section Parts

variable {path : Location}

theorem onControl_keeps (action : DiskM Content Unit)
    : Keeps (SiteKept path) (onControl action) := by
  intro site
  unfold onControl
  split <;> exact refl_of (FileKept path) site.node

theorem onNode_keeps {action : DiskM Content Unit} (kept : Keeps (FileKept path) action)
    : Keeps (SiteKept path) (onNode action) := by
  intro site
  have here := kept site.node
  unfold onNode
  split
  · rename_i node done
    rw [done] at here
    exact here
  · rename_i failure node failed
    rw [failed] at here
    exact here

theorem requestAgent_keeps {action : DiskM Content Unit} (kept : Keeps (FileKept path) action)
    : Keeps (SiteKept path) (requestAgent action) :=
  Keeps.get.bind fun _ => Keeps.onlyIf _ (onNode_keeps kept)

theorem currentServer_keeps : Keeps (SiteKept path) (currentServer : SiteM Content Server) :=
  Keeps.get.bind fun site => Keeps.pure site.server

theorem updateServer_keeps (change : Server → Server)
    : Keeps (SiteKept path) (updateServer change : SiteM Content Unit) :=
  fun site => refl_of (FileKept path) site.node

theorem proceed_keeps (answer : Except HttpError Unit)
    : Keeps (SiteKept path) (proceed answer : SiteM Content Unit) := by
  cases answer with
  | ok _ => exact Keeps.pure ()
  | error failure => exact Keeps.throw failure

end Parts

section Operations

variable {backend : Backend Content} {rest : Location}

theorem stopServerProcess_keeps
    : Keeps (SiteKept (backend.nodeDir ++ rest)) (stopServerProcess backend) :=
  (requestAgent_keeps agentStopServer_keeps).bind fun _ => updateServer_keeps _

theorem reprovisionJavaServer_keeps (permission jarUrl : Except HttpError Unit)
    : Keeps (SiteKept (backend.nodeDir ++ rest))
        (reprovisionJavaServer backend permission jarUrl) :=
  (proceed_keeps _).bind fun _ => currentServer_keeps.bind fun _ =>
    (Keeps.refuse _ _).bind fun _ => (Keeps.refuse _ _).bind fun _ =>
      (onControl_keeps _).bind fun _ => (proceed_keeps _).bind fun _ =>
        (updateServer_keeps _).bind fun _ => fun site =>
          refl_of (FileKept (backend.nodeDir ++ rest)) site.node

variable (policy : inAllowedRoot rest = true)

include policy

theorem doStartServer_keeps (answers : StartAnswers)
    : Keeps (SiteKept (backend.nodeDir ++ rest)) (doStartServer backend answers) := by
  have assigned : Keeps (SiteKept (backend.nodeDir ++ rest))
      (assignNode answers.newNode : SiteM Content Unit) := by
    unfold assignNode
    split
    · exact Keeps.pure ()
    · exact updateServer_keeps _
  have started : ∀ server, Keeps (SiteKept (backend.nodeDir ++ rest))
      (startServerProcess backend server answers) := by
    intro server
    exact ((proceed_keeps _).bind fun _ => (Keeps.refuse _ _).bind fun _ =>
      requestAgent_keeps (agentStartServer_keeps _ policy)).tryCatch fun _ => Keeps.throw _
  exact (proceed_keeps _).bind fun _ => assigned.bind fun _ =>
    currentServer_keeps.bind fun server => (Keeps.refuse _ _).bind fun _ =>
      (started server).bind fun _ => updateServer_keeps _

theorem switchServerSoftware_keeps (permission sanitized : Except HttpError Unit)
    (target : ServerFlavor) (version : String)
    : Keeps (SiteKept (backend.nodeDir ++ rest))
        (switchServerSoftware backend permission sanitized target version) := by
  refine (proceed_keeps _).bind fun _ => currentServer_keeps.bind fun server =>
    (Keeps.refuse _ _).bind fun _ =>
      (Keeps.onlyIf _ (requestAgent_keeps agentStopServer_keeps)).bind fun _ => ?_
  split
  · exact (requestAgent_keeps (agentClearJars_keeps policy)).ignoreFailure.bind fun _ =>
      updateServer_keeps _
  · exact (proceed_keeps _).bind fun _ => updateServer_keeps _

theorem syncServerConfig_keeps (delivery : Except HttpError Unit)
    : Keeps (SiteKept (backend.nodeDir ++ rest)) (syncServerConfig backend delivery) :=
  Keeps.get.bind fun _ => Keeps.onlyIf _ ((proceed_keeps _).bind fun _ =>
    requestAgent_keeps (agentSyncConfig_keeps _ policy))

theorem updateServerProperties_keeps (permission : Except HttpError Unit)
    (values : List (String × String))
    : Keeps (SiteKept (backend.nodeDir ++ rest))
        (updateServerProperties backend permission values) :=
  (Keeps.refuse _ _).bind fun _ => (proceed_keeps _).bind fun _ =>
    requestAgent_keeps (agentUpdateProperties_keeps _ policy)

theorem updateServerConfigOnNode_keeps (permission : Except HttpError Unit)
    (values : List (String × String))
    : Keeps (SiteKept (backend.nodeDir ++ rest))
        (updateServerConfigOnNode backend permission values) :=
  (proceed_keeps _).bind fun _ => currentServer_keeps.bind fun _ =>
    Keeps.onlyIf _ (requestAgent_keeps (agentUpdateProperties_keeps _ policy))

end Operations

section Mods

variable {backend : Backend Content} {site : Site Content} {path : Location}

theorem admitted_keeps {permission : Except HttpError Unit}
    {operation : Server → SiteM Content Unit}
    (kept : Keeps (SiteKept path) (operation site.server))
    : SiteKept path site
        (finalState ((do
          proceed permission
          let server ← currentServer
          operation server) site)) := by
  cases permission with
  | ok _ => exact kept site
  | error failure => exact refl_of (FileKept path) site.node

theorem installMod_keeps {permission : Except HttpError Unit}
    {resolved : Except HttpError (List (ResolvedMod Content))}
    (unnamed : ¬ (ServerOperation.installMod permission resolved).Names backend site path)
    : SiteKept path site (finalState (installMod backend permission resolved site)) := by
  refine admitted_keeps ?_
  unfold installModOn
  split
  · exact Keeps.throw _
  · rename_i subdir loader
    refine (Keeps.refuse _ _).bind fun _ => ?_
    split
    · exact Keeps.throw _
    · rename_i mods
      refine Keeps.onlyIf _ (requestAgent_keeps (agentDownloadMods_keeps ?_))
      intro file member same
      obtain ⟨resolvedMod, listed, rfl⟩ := List.mem_map.mp member
      exact unnamed ⟨subdir, loader, resolvedMod, listed, same⟩

theorem deleteInstalledMod_keeps {permission : Except HttpError Unit} {filename : String}
    (unnamed
      : ¬ (ServerOperation.deleteMod permission filename : ServerOperation Content).Names backend
          site path)
    : SiteKept path site (finalState (deleteInstalledMod backend permission filename site)) := by
  refine admitted_keeps ?_
  unfold deleteInstalledModOn
  split
  · exact Keeps.throw _
  · rename_i subdir loader
    refine (Keeps.refuse _ _).bind fun _ => (Keeps.refuse _ _).bind fun _ =>
      requestAgent_keeps (agentDeleteMod_keeps ?_)
    intro same
    exact unnamed ⟨subdir, loader, same⟩

end Mods

section ProvisionJob

variable {backend : Backend Content} {answers : JobAnswers Content}

theorem provisionRemoteJavaServer_unsent (backend : Backend Content) (site : Site Content)
    (unsent : ¬ (answers.delivery = .ok () ∧ site.server.nodeId.isSome = true))
    : (finalState (provisionRemoteJavaServer backend answers site)).node = site.node := by
  unfold provisionRemoteJavaServer
  cases delivery : answers.delivery with
  | error failure => rfl
  | ok _ =>
      have unassigned : site.server.nodeId.isSome = false := by
        rw [Bool.eq_false_iff]
        exact fun assigned => unsent ⟨delivery, assigned⟩
      change (finalState (onlyIf site.server.nodeId.isSome (onNode _) site)).node = _
      rw [unassigned]
      rfl

theorem provisionSteps_prepared {site : Site Content} {control : DiskState Content}
    (prepared
      : prepareJavaServer backend answers backend.controlDir site.control = .ok () control)
    : provisionSteps backend answers site
      = provisionRemoteJavaServer backend answers
          { site with control, server := setState .created site.server } := by
  have copied
      : onControl (prepareJavaServer backend answers backend.controlDir) site
        = .ok () { site with control } := by
    simp only [onControl, prepared]
  unfold provisionSteps
  rw [state_bind_run copied]
  rfl

theorem provisionSteps_unprepared {site : Site Content} {control : DiskState Content}
    {failure : HttpError}
    (unprepared
      : prepareJavaServer backend answers backend.controlDir site.control
        = .error failure control)
    : provisionSteps backend answers site = .error failure { site with control } := by
  have copied
      : onControl (prepareJavaServer backend answers backend.controlDir) site
        = .error failure { site with control } := by
    simp only [onControl, unprepared]
  unfold provisionSteps
  simp only [bind, EStateM.bind, copied]

theorem runProvisionJob_node (site : Site Content)
    : (finalState (runProvisionJob backend answers site)).node
      = (finalState
          (provisionSteps backend answers { site with jobs := site.jobs - 1 })).node := by
  have job
      : runProvisionJob backend answers site
        = MonadExcept.tryCatch (provisionSteps backend answers)
            (fun _ => updateServer (setState .suspended))
            { site with jobs := site.jobs - 1 } := rfl
  rw [job]
  exact finalState_tryCatch Site.node _ (fun _ _ => rfl)

theorem runProvisionJob_stopped {site : Site Content} (waits : 0 < site.jobs)
    (stopped : ¬ ReplacesDirectory backend site answers)
    : (finalState (runProvisionJob backend answers site)).node = site.node := by
  rw [runProvisionJob_node]
  cases prepared : prepareJavaServer backend answers backend.controlDir site.control with
  | error failure control =>
      have failed : provisionSteps backend answers { site with jobs := site.jobs - 1 }
          = .error failure { site with control, jobs := site.jobs - 1 } :=
        provisionSteps_unprepared prepared
      rw [failed, finalState]
  | ok _ control =>
      have steps
          : provisionSteps backend answers { site with jobs := site.jobs - 1 }
            = provisionRemoteJavaServer backend answers
                { site with
                  control
                  server := setState .created site.server
                  jobs := site.jobs - 1 } := provisionSteps_prepared prepared
      rw [steps]
      exact provisionRemoteJavaServer_unsent backend _ (fun sent =>
        stopped ⟨waits, ⟨control, prepared⟩, sent.1, sent.2⟩)

theorem provisionJavaServer_keeps {site : Site Content} {rest : Location}
    (policy : inAllowedRoot rest = true) (spares : SparesUserFiles backend site answers)
    : SiteKept (backend.nodeDir ++ rest) site
        (finalState (provisionJavaServer backend answers site)) := by
  change SiteKept _ site
    (finalState (onlyIf (0 < site.jobs) (runProvisionJob backend answers) site))
  rcases Nat.eq_zero_or_pos site.jobs with none | waits
  · rw [none]
    exact refl_of (SiteKept (backend.nodeDir ++ rest)) site
  · rw [decide_eq_true waits]
    by_cases replaces : ReplacesDirectory backend site answers
    · intro content stored
      have file := spares replaces rest policy
      rw [FileTree.isFile_eq_true.mpr ⟨content, stored⟩] at file
      cases file
    · have same
          : (finalState (onlyIf true (runProvisionJob backend answers) site)).node
            = site.node := runProvisionJob_stopped waits replaces
      exact FileTree.KeepsFile.of_lookup (by rw [same])

end ProvisionJob

theorem performOperation_keeps {backend : Backend Content} {before : Site Content}
    {operation : ServerOperation Content} {rest : Location}
    (policy : inAllowedRoot rest = true)
    (unnamed : ¬ operation.Names backend before (backend.nodeDir ++ rest))
    (spares
      : ∀ answers, operation = .provisionJob answers
        → SparesUserFiles backend before answers)
    : SiteKept (backend.nodeDir ++ rest) before
        (finalState (performOperation backend operation before)) := by
  cases operation with
  | start answers =>
      exact ((proceed_keeps _).bind fun _ => currentServer_keeps.bind fun _ =>
        Keeps.onlyIf _ (doStartServer_keeps policy answers)) before
  | stop permission =>
      exact ((proceed_keeps _).bind fun _ => stopServerProcess_keeps) before
  | toggle answers =>
      refine ((proceed_keeps _).bind fun _ => currentServer_keeps.bind fun _ => ?_) before
      split
      · exact stopServerProcess_keeps
      · exact doStartServer_keeps policy answers
  | switchSoftware permission sanitized target version =>
      exact switchServerSoftware_keeps policy permission sanitized target version before
  | reprovision permission jarUrl => exact reprovisionJavaServer_keeps permission jarUrl before
  | provisionJob answers => exact provisionJavaServer_keeps policy (spares answers rfl)
  | configSync delivery => exact syncServerConfig_keeps policy delivery before
  | updateConfig permission values =>
      exact updateServerConfigOnNode_keeps policy permission values before
  | updateProperties permission values =>
      exact updateServerProperties_keeps policy permission values before
  | installMod permission resolved => exact installMod_keeps unnamed
  | deleteMod permission filename => exact deleteInstalledMod_keeps unnamed

theorem SparingStep.keeps {backend : Backend Content} {before after : Site Content}
    {event : SiteEvent Content} {rest : Location} (policy : inAllowedRoot rest = true)
    (taken : SparingStep backend rest before event after)
    : SiteKept (backend.nodeDir ++ rest) before after := by
  obtain ⟨step, unnamed, spares⟩ := taken
  cases event with
  | perform operation controlFaults nodeFaults =>
      have kept : SiteKept (backend.nodeDir ++ rest)
          (before.withFaults controlFaults nodeFaults)
          (finalState (performOperation backend operation
            (before.withFaults controlFaults nodeFaults))) :=
        performOperation_keeps policy unnamed
          (fun answers job => spares answers controlFaults nodeFaults (job ▸ rfl))
      rw [SiteStep] at step
      rw [step]
      exact kept
  | userChange paths =>
      exact FileTree.KeepsFile.of_lookup
        (step _ (fun named member within => unnamed ⟨named, member, within⟩))

/-- In every run whose provisioning jobs find nothing to lose, every file in the folders of the
file policy that no step names is still there with its content.
-/
theorem sparing_run_keeps_user_files {backend : Backend Content} {before after : Site Content}
    {events : List (SiteEvent Content)} {rest : Location} {content : Content}
    (run : Run (SparingStep backend rest) before events after)
    (policy : inAllowedRoot rest = true)
    (stored
      : before.node.tree.lookup (backend.nodeDir ++ rest) = some (.file content))
    : after.node.tree.lookup (backend.nodeDir ++ rest) = some (.file content) :=
  run.invariant
    (fun site => site.node.tree.lookup (backend.nodeDir ++ rest) = some (.file content))
    (fun _ => True) (fun _ taken earlier => taken.keeps policy content earlier)
    (fun _ _ => trivial) stored

private theorem performed_step {backend : Backend Content} (before : Site Content)
    (operation : ServerOperation Content) (controlFaults nodeFaults : List Bool)
    : SiteStep backend before (.perform operation controlFaults nodeFaults)
        (finalState
          (performOperation backend operation (before.withFaults controlFaults nodeFaults))) :=
  rfl

private def playedBackend : Backend Nat where
  agent :=
    { serversRoot := ["servers"]
      texts :=
        { blank := 0
          eula := 1
          fifo := 2
          link := fun _ => 3
          properties := fun _ => 4
          withProperty := fun _ _ text => text
          isEmpty := fun _ => false }
      versionAssets := fun _ => .error internalError }
  serversDir := ["prepared"]
  id := 0

private def playedSite : Site Nat where
  control := { tree := .empty }
  node :=
    { tree :=
        ((FileTree.empty.makeDirs (playedBackend.nodeDir ++ ["world"])).bind
          (fun tree =>
            tree.writeFile (playedBackend.nodeDir ++ ["world", "level.dat"]) 7)).getD .empty }
  server :=
    { id := 0
      nodeId := some 5
      ownerId := 1
      worldName := "world"
      flavor := .paper
      mcVersion := some "1.21"
      lastActivity := 0 }

private def afterPlaying (operations : List (ServerOperation Nat)) : Site Nat :=
  operations.foldl
    (fun site operation =>
      finalState (performOperation playedBackend operation (site.withFaults [] [])))
    playedSite

private def playedSteps (operations : List (ServerOperation Nat)) : List (SiteEvent Nat) :=
  operations.map (fun operation => .perform operation [] [])

/-- The operations that name no file run one after the other, by induction from the last one. -/
private theorem played_run {allowed : Site Nat → SiteEvent Nat → Prop}
    (operations : List (ServerOperation Nat))
    (each
      : ∀ operation ∈ operations, ∀ site, allowed site (.perform operation [] []))
    : Run (fun before event after => SiteStep playedBackend before event after
          ∧ allowed before event)
        playedSite (playedSteps operations) (afterPlaying operations) := by
  induction operations using List.reverseRecOn with
  | nil => exact .done
  | append_singleton earlier operation ih =>
      rw [playedSteps, List.map_append, afterPlaying, List.foldl_append]
      exact (ih (fun other member => each other (by simp [member]))).next
        ⟨performed_step _ operation [] [], each operation (by simp) _⟩

/-- An upload that never reaches the node leaves the world there. -/
theorem failed_upload_keeps_world
    : (afterPlaying
        [.reprovision (.ok ()) (.ok ()),
          .provisionJob { jar := .ok 9, delivery := .error internalError }]).node.tree.lookup
        (playedBackend.nodeDir ++ ["world", "level.dat"])
      = some (.file 7) := by
  refine sparing_run_keeps_user_files (played_run _ ?_) (by decide) (by decide +kernel)
  intro operation member site
  rcases List.mem_pair.mp member with rfl | rfl
  · exact ⟨id, by intro answers control node same; cases same⟩
  · refine ⟨id, ?_⟩
    intro answers control node same
    cases same
    intro replaces
    cases replaces.delivered

/-- A reprovision that goes through takes the world with it. -/
theorem reprovision_loses_world
    : ¬ ∀ (backend : Backend Nat) (before after : Site Nat) (events : List (SiteEvent Nat))
        (rest : Location) (content : Nat),
        Run (fun site event next =>
            SiteStep backend site event next
            ∧ ¬ event.Names backend site (backend.nodeDir ++ rest))
          before events after
        → inAllowedRoot rest = true
        → before.node.tree.lookup (backend.nodeDir ++ rest) = some (.file content)
        → after.node.tree.lookup (backend.nodeDir ++ rest) = some (.file content) := by
  intro kept
  have lost := kept playedBackend playedSite _ _ ["world", "level.dat"] 7
    (played_run [.reprovision (.ok ()) (.ok ()), .provisionJob { jar := .ok 9 }] (by
      intro operation member site
      rcases List.mem_pair.mp member with rfl | rfl <;> exact id))
    (by decide) (by decide +kernel)
  revert lost
  decide +kernel

end Blockhost
