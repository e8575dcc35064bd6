import Blockhost.Library.Numerals
import Blockhost.Library.Run
import Blockhost.Orchestrator.BackupPaths

/-! The Java version of a server, from its creation to its starts, and the JDKs that an agent
unpacks into one directory. The version is computed once, from the version of the game that the
server was created with.
-/

namespace Blockhost.JavaVersions

open Library

-- The version that a server needs

/-- The numbers among the first three parts; `int` raises for digits that are not decimal. -/
def versionParts (mcVersion : String) : Option (List Int) :=
  (((mcVersion.toList.splitOn '.').take 3).filter isdigit).mapM parseInt

/-- `required_java_version` -/
def requiredJavaVersion (mcVersion : String) : Option Nat :=
  (versionParts mcVersion).map (fun parts =>
    let major := parts.getD 0 0
    let minor := parts.getD 1 0
    if 1 < major ∨ (major = 1 ∧ 21 ≤ minor) then 21
    else if major = 1 ∧ 18 ≤ minor then 17
    else if major = 1 ∧ minor = 17 then 16
    else 8)

/-- What the row of a Java server holds about its version and its place. -/
structure JavaServer where
  flavor : ServerFlavor
  java : isJavaFlavor flavor = true
  mcVersion : String
  javaVersion : Option Nat
  nodeId : Option Uuid

/-- `create_server`, for a Java server. -/
def createServer (flavor : ServerFlavor) (java : isJavaFlavor flavor = true) (mcVersion : String)
    (nodeId : Option Uuid)
    : Option JavaServer := do
  let javaVersion ← requiredJavaVersion mcVersion
  if mcVersion = "" then none
  else some { flavor, java, mcVersion, javaVersion, nodeId }

/-- `switch_server_software`, which refuses to turn a Java server into a Bedrock server. -/
def JavaServer.switchSoftware (flavor : ServerFlavor) (mcVersion : String) (server : JavaServer)
    : JavaServer :=
  if java : isJavaFlavor flavor = true then { server with flavor, java, mcVersion } else server

/-- The directory of a version on a node, or a path of the control plane itself. -/
inductive JdkPath where
  | onNode (nodeId : Uuid) (javaVersion : Nat)
  | local (path : String)
deriving DecidableEq, Repr

/-- `server.java_version or required_java_version(..)` -/
def JavaServer.startVersion (server : JavaServer) : Option Nat :=
  match server.javaVersion with
  | none | some 0 =>
      requiredJavaVersion (if server.mcVersion = "" then "1.21" else server.mcVersion)
  | some version => some version

/-- `_resolve_jdk_path`, once the agent has answered. -/
def resolveJdkPath (stored : Uuid → Bool) (localJdk : Option String) (server : JavaServer)
    : Option (Option JdkPath) :=
  server.startVersion.map (fun javaVersion =>
    match server.nodeId.filter stored with
    | some nodeId => some (.onNode nodeId javaVersion)
    | none => localJdk.map .local)

-- The directory of JDKs

/-- The major version of a folder's files, whether `bin/java` is there, and whether all is. -/
structure Jdk where
  major : Nat
  java : Bool
  whole : Bool
deriving DecidableEq, Repr

def Jdk.IsFor (javaVersion : Nat) (jdk : Jdk) : Prop :=
  jdk.whole = true ∧ jdk.major = javaVersion

/-- `str(java_version)`, or a name from an archive, all of which begin with `jdk`. -/
inductive FolderName where
  | version (javaVersion : Nat)
  | unpacked (name : String)
deriving DecidableEq, Repr

abbrev Folders := List (FolderName × Jdk)

def isNamedFor (javaVersion : Nat) : FolderName → Bool
  | .version _ => false
  | .unpacked name => ("jdk-" ++ toString javaVersion).toList.isPrefixOf name.toList

def extracted (javaVersion : Nat) (folders : Folders) : Option (FolderName × Jdk) :=
  folders.find? (fun folder => isNamedFor javaVersion folder.1)

/-- Whether the folder takes the place of an earlier one, or what is left when that raises. -/
inductive Replacement where
  | done
  | raises (left : Option Jdk)

/-- The first folder whose name begins with the version takes the place of the version's own. -/
def renamed (javaVersion : Nat) (replacement : Replacement) (folders : Folders) : Folders :=
  match extracted javaVersion folders, replacement with
  | none, _ => folders
  | some (name, jdk), .done =>
      (.version javaVersion, jdk)
        :: folders.filter (fun folder => folder.1 ≠ name && folder.1 ≠ .version javaVersion)
  | some _, .raises left =>
      (left.map (FolderName.version javaVersion, ·)).toList
        ++ folders.filter (fun folder => folder.1 ≠ .version javaVersion)

/-- The agent of a node, with the requests that download and the versions answered with ok. -/
structure Agent where
  folders : Folders := []
  running : List Nat := []
  answered : List Nat := []

def Agent.hasJava (javaVersion : Nat) (folders : Folders) : Bool :=
  (folders.lookup (.version javaVersion)).any Jdk.java

/-- The steps of `ensure_jdk`. Requests give way to one another only while they download; what
they unpack, in whole or in part, is put among the folders.
-/
inductive EnsureEvent where
  | ask (javaVersion : Nat)
  | fail (javaVersion : Nat) (unpacked : Folders)
  | finish (javaVersion : Nat) (unpacked : Folders) (replacement : Replacement)

def Agent.ask (javaVersion : Nat) (agent : Agent) : Agent :=
  if hasJava javaVersion agent.folders then
    { agent with answered := javaVersion :: agent.answered }
  else { agent with running := javaVersion :: agent.running }

def Agent.fail (javaVersion : Nat) (unpacked : Folders) (agent : Agent) : Agent :=
  { agent with folders := unpacked, running := agent.running.erase javaVersion }

def Agent.finish (javaVersion : Nat) (unpacked : Folders) (replacement : Replacement)
    (agent : Agent)
    : Agent :=
  let folders := renamed javaVersion replacement unpacked
  { folders
    running := agent.running.erase javaVersion
    answered :=
      match replacement with
      | .done =>
          if hasJava javaVersion folders then javaVersion :: agent.answered else agent.answered
      | .raises _ => agent.answered }

/-- An archive leaves the folders of the versions alone. -/
def Unpacks (before after : Folders) : Prop :=
  ∀ javaVersion, after.lookup (.version javaVersion) = before.lookup (.version javaVersion)

inductive AgentStep (agent : Agent) : EnsureEvent → Agent → Prop where
  | ask (javaVersion : Nat) : AgentStep agent (.ask javaVersion) (agent.ask javaVersion)
  | fail {javaVersion : Nat} {unpacked : Folders} (runs : javaVersion ∈ agent.running)
      (layout : Unpacks agent.folders unpacked)
      : AgentStep agent (.fail javaVersion unpacked) (agent.fail javaVersion unpacked)
  | finish {javaVersion : Nat} {unpacked : Folders} {replacement : Replacement}
      (runs : javaVersion ∈ agent.running) (layout : Unpacks agent.folders unpacked)
      : AgentStep agent (.finish javaVersion unpacked replacement)
          (agent.finish javaVersion unpacked replacement)

/-- The folder that a request finds by its name is a whole JDK of the version, or has no `java`
and takes no JDK away; and nothing is lost when it cannot be put in place.
-/
def CarefulEnsure (agent : Agent) : EnsureEvent → Prop
  | .finish javaVersion unpacked replacement =>
      ∀ name jdk, extracted javaVersion unpacked = some (name, jdk)
        → match replacement with
          | .done => jdk.IsFor javaVersion ∨ jdk.java = false ∧ javaVersion ∉ agent.answered
          | .raises left => left = agent.folders.lookup (.version javaVersion)
  | .ask _ | .fail _ _ => True

-- What the answers promise

def Agent.Holds (javaVersion : Nat) (agent : Agent) : Prop :=
  ∃ jdk, agent.folders.lookup (.version javaVersion) = some jdk ∧ jdk.IsFor javaVersion

/-- A version's folder with a `java` is a JDK of the version, and so is each that was promised. -/
structure Agent.Sound (agent : Agent) : Prop where
  java
    : ∀ javaVersion jdk, agent.folders.lookup (.version javaVersion) = some jdk
      → jdk.java = true → jdk.IsFor javaVersion
  promised : ∀ javaVersion ∈ agent.answered, agent.Holds javaVersion

variable {agent next : Agent} {javaVersion other : Nat} {folders : Folders}

/-- By induction on the folders. -/
theorem lookup_filter {name : FolderName} {keep : FolderName × Jdk → Bool}
    (kept : ∀ jdk, keep (name, jdk) = true)
    : (folders.filter keep).lookup name = folders.lookup name := by
  induction folders with
  | nil => rfl
  | cons folder rest ih =>
      obtain ⟨own, jdk⟩ := folder
      by_cases same : name = own
      · subst same
        simp [kept]
      · by_cases keeps : keep (own, jdk) = true
        · simp [keeps, List.lookup_cons, beq_false_of_ne same, ih]
        · simp [keeps, List.lookup_cons, beq_false_of_ne same, ih]

theorem lookup_filter_none {name : FolderName} {keep : FolderName × Jdk → Bool}
    (dropped : ∀ jdk, keep (name, jdk) = false)
    : (folders.filter keep).lookup name = none := by
  rw [List.lookup_eq_none_iff]
  rintro ⟨other, jdk⟩ member
  rw [bne_iff_ne]
  rintro rfl
  have keeps := (List.mem_filter.mp member).2
  rw [dropped jdk] at keeps
  cases keeps

theorem renamed_other {replacement : Replacement} (apart : other ≠ javaVersion)
    : (renamed javaVersion replacement folders).lookup (.version other)
      = folders.lookup (.version other) := by
  have differ : (FolderName.version other == FolderName.version javaVersion) = false :=
    beq_false_of_ne fun same => apart (FolderName.version.inj same)
  unfold renamed
  cases found : extracted javaVersion folders with
  | none => rfl
  | some folder =>
      obtain ⟨name, jdk⟩ := folder
      have named : isNamedFor javaVersion name = true := by
        simpa using List.find?_some found
      have away : FolderName.version other ≠ name := by
        rintro rfl
        cases named
      cases replacement with
      | done =>
          simp only [List.lookup_cons, differ]
          exact lookup_filter (by simp [apart, away])
      | raises left =>
          cases left with
          | none => exact lookup_filter (by simp [apart])
          | some jdk =>
              simp only [Option.map_some, Option.toList_some, List.cons_append, List.nil_append,
                List.lookup_cons, differ]
              exact lookup_filter (by simp [apart])

theorem renamed_none {replacement : Replacement} (missing : extracted javaVersion folders = none)
    : renamed javaVersion replacement folders = folders := by
  unfold renamed
  rw [missing]

theorem renamed_own {name : FolderName} {jdk : Jdk} {replacement : Replacement}
    (found : extracted javaVersion folders = some (name, jdk))
    : (renamed javaVersion replacement folders).lookup (.version javaVersion)
      = match replacement with
        | .done => some jdk
        | .raises left => left := by
  unfold renamed
  rw [found]
  cases replacement with
  | done => simp
  | raises left =>
      cases left with
      | none => exact lookup_filter_none (by simp)
      | some jdk => simp

theorem hasJava_iff : Agent.hasJava javaVersion folders = true
    ↔ ∃ jdk, folders.lookup (.version javaVersion) = some jdk ∧ jdk.java = true := by
  unfold Agent.hasJava
  cases folders.lookup (.version javaVersion) <;> simp

theorem Agent.Sound.step {event : EnsureEvent} (sound : agent.Sound)
    (taken : AgentStep agent event next) (careful : CarefulEnsure agent event)
    : next.Sound := by
  cases taken with
  | ask javaVersion =>
      unfold Agent.ask
      by_cases installed : hasJava javaVersion agent.folders = true
      · rw [if_pos installed]
        obtain ⟨jdk, found, java⟩ := hasJava_iff.mp installed
        refine ⟨sound.java, fun version member => ?_⟩
        rcases List.mem_cons.mp member with rfl | earlier
        · exact ⟨jdk, found, sound.java version jdk found java⟩
        · exact sound.promised version earlier
      · rw [if_neg installed]
        exact ⟨sound.java, sound.promised⟩
  | fail _ layout =>
      refine ⟨fun version jdk found => sound.java version jdk ((layout version).symm.trans found),
        fun version member => ?_⟩
      obtain ⟨jdk, found, isFor⟩ := sound.promised version member
      exact ⟨jdk, (layout version).trans found, isFor⟩
  | @finish javaVersion unpacked replacement _ layout =>
      have java : ∀ version jdk,
          (renamed javaVersion replacement unpacked).lookup (.version version) = some jdk
          → jdk.java = true → jdk.IsFor version := by
        intro version jdk stored java
        by_cases own : version = javaVersion
        · subst own
          cases found : extracted version unpacked with
          | none =>
              rw [renamed_none found, layout] at stored
              exact sound.java version jdk stored java
          | some folder =>
              have safe := careful folder.1 folder.2 found
              rw [renamed_own found] at stored
              cases replacement with
              | done =>
                  cases stored
                  rcases safe with isFor | ⟨lacks, _⟩
                  · exact isFor
                  · cases lacks.symm.trans java
              | raises left => exact sound.java version jdk (safe.symm.trans stored) java
        · rw [renamed_other own, layout] at stored
          exact sound.java version jdk stored java
      have kept : ∀ version ∈ agent.answered,
          ∃ jdk, (renamed javaVersion replacement unpacked).lookup (.version version) = some jdk
            ∧ jdk.IsFor version := by
        intro version member
        obtain ⟨jdk, stored, isFor⟩ := sound.promised version member
        by_cases own : version = javaVersion
        · subst own
          cases found : extracted version unpacked with
          | none => exact ⟨jdk, by rw [renamed_none found, layout, stored], isFor⟩
          | some folder =>
              have safe := careful folder.1 folder.2 found
              rw [renamed_own found]
              cases replacement with
              | done =>
                  rcases safe with isFor | ⟨_, fresh⟩
                  · exact ⟨folder.2, rfl, isFor⟩
                  · exact absurd member fresh
              | raises left => exact ⟨jdk, safe.trans stored, isFor⟩
        · exact ⟨jdk, by rw [renamed_other own, layout, stored], isFor⟩
      refine ⟨java, fun version member => ?_⟩
      unfold Agent.finish at member
      cases replacement with
      | raises left => exact kept version member
      | done =>
          dsimp only at member
          split at member
          · rename_i installed
            rcases List.mem_cons.mp member with rfl | earlier
            · obtain ⟨jdk, stored, present⟩ := hasJava_iff.mp installed
              exact ⟨jdk, stored, java _ jdk stored present⟩
            · exact kept version earlier
          · exact kept version member

-- Servers and agents together

structure World where
  server : JavaServer
  agents : Uuid → Agent := fun _ => {}

inductive Event where
  | switch (flavor : ServerFlavor) (mcVersion : String)
  | move (nodeId : Option Uuid)
  | agent (nodeId : Uuid) (event : EnsureEvent)
  | start (stored : Uuid → Bool) (localJdk : Option String) (path : Option JdkPath)

/-- A start is requested once the agent has answered for the version that the start asks for. -/
inductive Step (world : World) : Event → World → Prop where
  | switch (flavor : ServerFlavor) (mcVersion : String)
      : Step world (.switch flavor mcVersion)
          { world with server := world.server.switchSoftware flavor mcVersion }
  | move (nodeId : Option Uuid)
      : Step world (.move nodeId) { world with server := { world.server with nodeId } }
  | agent {nodeId : Uuid} {event : EnsureEvent} {next : Agent}
      (taken : AgentStep (world.agents nodeId) event next)
      : Step world (.agent nodeId event)
          { world with agents := Function.update world.agents nodeId next }
  | start {stored : Uuid → Bool} {localJdk : Option String} {path : Option JdkPath}
      (resolved : resolveJdkPath stored localJdk world.server = some path)
      (answered
        : ∀ nodeId javaVersion, path = some (.onNode nodeId javaVersion)
          → javaVersion ∈ (world.agents nodeId).answered)
      : Step world (.start stored localJdk path) world

/-- The path of a start names a JDK of the version that the stored version of the game needs. -/
def Follows (world : World) : Event → Prop
  | .start _ _ path =>
      ∃ nodeId javaVersion, path = some (.onNode nodeId javaVersion)
        ∧ requiredJavaVersion world.server.mcVersion = some javaVersion
        ∧ (world.agents nodeId).Holds javaVersion
  | _ => True

def Careful (created : JavaServer) (world : World) : Event → Prop
  | .start stored _ _ =>
      (world.server.nodeId.filter stored).isSome = true
        ∧ requiredJavaVersion world.server.mcVersion = requiredJavaVersion created.mcVersion
  | .agent nodeId event => CarefulEnsure (world.agents nodeId) event
  | _ => True

-- Runs

variable {created : JavaServer} {world after : World} {event : Event}

/-- The Java version of a server is the one that it needed when it was created. -/
structure Current (created : JavaServer) (world : World) : Prop where
  version
    : ∃ javaVersion, requiredJavaVersion created.mcVersion = some javaVersion
      ∧ world.server.javaVersion = some javaVersion
  agents : ∀ nodeId, (world.agents nodeId).Sound

theorem createServer_version {flavor : ServerFlavor} {java : isJavaFlavor flavor = true}
    {mcVersion : String} {nodeId : Option Uuid}
    (made : createServer flavor java mcVersion nodeId = some created)
    : ∃ javaVersion, requiredJavaVersion created.mcVersion = some javaVersion
      ∧ created.javaVersion = some javaVersion := by
  unfold createServer at made
  cases needed : requiredJavaVersion mcVersion with
  | none => simp [needed] at made
  | some javaVersion =>
      by_cases empty : mcVersion = ""
      · simp [empty] at made
      · simp only [needed, Option.bind_eq_bind, Option.bind_some, if_neg empty,
          Option.some.injEq] at made
        subst made
        exact ⟨javaVersion, needed, rfl⟩

theorem Current.step (current : Current created world) (taken : Step world event after)
    (careful : Careful created world event)
    : Current created after := by
  cases taken with
  | switch flavor mcVersion =>
      refine ⟨?_, current.agents⟩
      unfold JavaServer.switchSoftware
      split <;> exact current.version
  | move => exact ⟨current.version, current.agents⟩
  | @agent nodeId _ next step =>
      refine ⟨current.version, fun other => ?_⟩
      by_cases same : other = nodeId
      · subst same
        simpa using (current.agents other).step step careful
      · simpa [Function.update_of_ne same] using current.agents other
  | start => exact current

theorem requiredJavaVersion_pos {mcVersion : String}
    (needed : requiredJavaVersion mcVersion = some javaVersion)
    : javaVersion ≠ 0 := by
  obtain ⟨parts, _, rfl⟩ := Option.map_eq_some_iff.mp needed
  dsimp only
  split_ifs <;> decide

theorem Current.follows (current : Current created world) (taken : Step world event after)
    (careful : Careful created world event)
    : Follows world event := by
  cases taken with
  | start resolved answered =>
      obtain ⟨placed, needed⟩ := careful
      obtain ⟨javaVersion, known, kept⟩ := current.version
      obtain ⟨nodeId, home⟩ := Option.isSome_iff_exists.mp placed
      have started : world.server.startVersion = some javaVersion := by
        have positive := requiredJavaVersion_pos known
        unfold JavaServer.startVersion
        rw [kept]
        cases javaVersion with
        | zero => contradiction
        | succ version => rfl
      unfold resolveJdkPath at resolved
      rw [started, home] at resolved
      cases resolved
      exact ⟨nodeId, javaVersion, rfl, needed.trans known,
        (current.agents nodeId).promised javaVersion (answered nodeId javaVersion rfl)⟩
  | _ => trivial

/-- In a run that is careful from the creation of the server on, every start names a JDK of the
version that the game needs, which the agent has, and each answer of an agent stays true.
-/
theorem careful_runs_follow {flavor : ServerFlavor} {java : isJavaFlavor flavor = true}
    {mcVersion : String} {nodeId : Option Uuid}
    (made : createServer flavor java mcVersion nodeId = some created) {events : List Event}
    (run : Run (fun before event after => Step before event after ∧ Careful created before event)
      ⟨created, fun _ => {}⟩ events after)
    : Run (fun before event after => Step before event after ∧ Follows before event)
        ⟨created, fun _ => {}⟩ events after
      ∧ ∀ nodeId, ∀ javaVersion ∈ (after.agents nodeId).answered,
        (after.agents nodeId).Holds javaVersion := by
  have whole : Run (fun before event after => Step before event after ∧ Follows before event)
        ⟨created, fun _ => {}⟩ events after ∧ Current created after := by
    induction run with
    | done =>
        exact ⟨.done, createServer_version made, fun _ => ⟨nofun, nofun⟩⟩
    | next _ taken ih =>
        obtain ⟨earlier, current⟩ := ih
        exact ⟨earlier.next ⟨taken.1, current.follows taken.1 taken.2⟩,
          current.step taken.1 taken.2⟩
  exact ⟨whole.1, fun nodeId => (whole.2.agents nodeId).promised⟩

def winterServer : JavaServer where
  flavor := .paper
  java := rfl
  mcVersion := "1.20.4"
  javaVersion := some 17
  nodeId := some 0

theorem winterServer_made : createServer .paper rfl "1.20.4" (some 0) = some winterServer := by
  have needed : requiredJavaVersion "1.20.4" = some 17 := by decide
  simp [createServer, needed, winterServer]

def temurin : Folders := [(.unpacked "jdk-17.0.11+9", ⟨17, true, true⟩)]

def download : List Event := [.agent 0 (.ask 17), .agent 0 (.finish 17 temurin .done)]

/-- The first node before and after it has unpacked the JDK that the server needs. -/
def askedWorld : World where
  server := winterServer
  agents := Function.update (fun _ => {}) 0 (Agent.ask 17 {})

def winterWorld : World where
  server := winterServer
  agents := Function.update askedWorld.agents 0 (Agent.finish 17 temurin .done (Agent.ask 17 {}))

theorem download_careful
    : Run (fun before event after => Step before event after
          ∧ Careful winterServer before event)
        ⟨winterServer, fun _ => {}⟩ download winterWorld := by
  have asked : Step ⟨winterServer, fun _ => {}⟩ (.agent 0 (.ask 17)) askedWorld :=
    .agent (.ask 17)
  have unpacked : Step askedWorld (.agent 0 (.finish 17 temurin .done)) winterWorld :=
    .agent (.finish (List.mem_singleton_self _) fun _ => rfl)
  refine .next (.next .done ⟨asked, trivial⟩) ⟨unpacked, ?_⟩
  intro name jdk found
  cases found
  exact .inl ⟨rfl, rfl⟩

/-- The server starts with the JDK that its version needs. -/
theorem created_version_starts
    : Run (fun before event after => Step before event after ∧ Follows before event)
        ⟨winterServer, fun _ => {}⟩
        (download ++ [.start (fun _ => true) none (some (.onNode 0 17))]) winterWorld
      ∧ ∀ nodeId, ∀ javaVersion ∈ (winterWorld.agents nodeId).answered,
        (winterWorld.agents nodeId).Holds javaVersion := by
  refine careful_runs_follow winterServer_made
    (download_careful.next ⟨.start rfl ?_, rfl, rfl⟩)
  intro nodeId javaVersion same
  cases same
  exact List.mem_singleton_self _

/-- A server that was switched to a version of another Java is started with the old one. -/
theorem switch_keeps_java_version
    : ¬ ∀ (flavor : ServerFlavor) (java : isJavaFlavor flavor = true) (mcVersion : String)
        (nodeId : Option Uuid) (created : JavaServer) (events : List Event)
        (before after : World) (event : Event),
        createServer flavor java mcVersion nodeId = some created
        → Run Step ⟨created, fun _ => {}⟩ events before → Step before event after
        → Follows before event := by
  intro follows
  have switched : Run Step ⟨winterServer, fun _ => {}⟩ (download ++ [.switch .paper "1.21"])
      ⟨winterServer.switchSoftware .paper "1.21", winterWorld.agents⟩ := by
    have downloaded := download_careful.map id fun _ _ _ taken => taken.1
    exact .next (by simpa using downloaded) (.switch .paper "1.21")
  have started := follows _ _ _ _ _ _ _ _ (.start (fun _ => true) none (some (.onNode 0 17)))
    winterServer_made switched (.start rfl fun nodeId javaVersion same => by
      cases same
      exact List.mem_singleton_self _)
  obtain ⟨_, javaVersion, same, needed, _⟩ := started
  cases same
  exact absurd needed (by decide)

end Blockhost.JavaVersions
