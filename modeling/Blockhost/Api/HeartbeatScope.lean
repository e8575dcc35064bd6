import Blockhost.Api.Nodes
import Blockhost.Library.Result

/-! What the heartbeat of a node does to the rows of other nodes: the reports on running servers
are applied by the server's identifier alone, all other updates ask for the node.
-/

namespace Blockhost

open Library

/-- The rows that another node has, or none. -/
structure OtherRowsUnchanged (nodeId : Uuid) (before after : Database) : Prop where
  servers
    : ∀ server ∈ before.servers.rows, server.nodeId ≠ some nodeId
      → server ∈ after.servers.rows
  deployments
    : ∀ deployment ∈ before.appDeployments.rows, deployment.nodeId ≠ some nodeId
      → deployment ∈ after.appDeployments.rows

def afterMessage (functions : SessionFunctions) (settings : Settings) (nodeId : Uuid)
    (received : Received) (db : Database)
    : Database :=
  match receiveMessage functions settings nodeId received db with
  | .error _ => db
  | .ok next => next

-- Which messages are applied

def heartbeatStats (nodeId : Uuid) (message : Option Json) (db : Database) : Option Fields := do
  let message ← message
  let fields ← message.fields?
  let kind ← fields.lookup? "type"
  let data ← fields.lookup? "data"
  let node ← db.nodes.get? nodeId
  if kind.isText "heartbeat" && node.status ≠ .offline then data.fields? else none

/-- A required field that its column accepts. -/
def Storable {Value : Type} (column : Json → Option Value) (stats : Fields) (name : String)
    : Prop :=
  ∃ value ∈ stats.lookup? name, (column value).isSome

def runningReports (stats : Fields) : Option Fields :=
  let reports := (stats.lookup? "running_servers").getD (.object [])
  if reports.truthy then reports.fields? else some []

/-- The report on a server has a count that can be compared, and stored if it is positive. -/
def ReadableCount (functions : SessionFunctions) (report : String × Json) : Prop :=
  (parseUuid report.1).isSome
  → report.2.positive?.isSome
    ∧ (report.2.positive? = some true → (functions.intColumn report.2).isSome)

/-- The report on a deployment of the node has a restart count that can be stored. -/
def ReadableHealth (functions : SessionFunctions) (nodeId : Uuid) (db : Database)
    (report : String × Json)
    : Prop :=
  ∀ deployment ∈ (parseUuid report.1).bind db.appDeployments.get?,
    ∀ health ∈ report.2.fields?, deployment.nodeId = some nodeId
    → (functions.intColumn ((health.lookup? "restart_count").getD (.int 0))).isSome

/-- The statistics of a heartbeat that raises nothing. -/
structure Readable (functions : SessionFunctions) (nodeId : Uuid) (stats : Fields)
    (db : Database)
    : Prop where
  totalRamMb : Storable functions.intColumn stats "total_ram_mb"
  cpuUsagePercent : Storable functions.floatColumn stats "cpu_usage_percent"
  cpuCores : Storable functions.floatColumn stats "cpu_cores"
  running : ∃ reports ∈ runningReports stats, ∀ report ∈ reports, ReadableCount functions report
  health
    : ∃ reports ∈ ((stats.lookup? "deployment_health").getD (.object [])).fields?,
      ∀ report ∈ reports, ReadableHealth functions nodeId db report

-- What a report does to a server

/-- The counts that are reported under some spelling of a server's identifier, in order. -/
def reportsOf (reports : Fields) (serverId : Uuid) : List Json :=
  reports.filterMap (fun report =>
    if parseUuid report.1 = some serverId then some report.2 else none)

/-- The number of players that a count stands for. -/
def reportedPlayers (functions : SessionFunctions) (count : Json) : Int :=
  if count.positive? = some true then (functions.intColumn count).getD 0 else 0

/-- The reports repeat what the row of a server says: the last one gives its players, and none
gives players unless the row was active just now.
-/
structure RepeatsRow (functions : SessionFunctions) (now : Instant) (reports : Fields)
    (server : Server)
    : Prop where
  players
    : ∀ count ∈ (reportsOf reports server.id).getLast?,
      reportedPlayers functions count = server.playersOnline
  activity
    : ∀ count ∈ reportsOf reports server.id, count.positive? = some true
      → server.lastActivity = now

def countPlayers (functions : SessionFunctions) (now : Instant) (report : String × Json)
    : Change Server.id where
  apply server :=
    if parseUuid report.1 = some server.id then
      { server with
        playersOnline := reportedPlayers functions report.2
        lastActivity :=
          if report.2.positive? = some true then now else server.lastActivity }
    else server
  kept server := by split <;> rfl

def countReport (functions : SessionFunctions) (now : Instant) (db : Database)
    (report : String × Json)
    : Database :=
  { db with servers := db.servers.update (countPlayers functions now report) }

theorem changeServers_eq_countReport {functions : SessionFunctions} {now : Instant}
    {db : Database} {report : String × Json} {serverId : Uuid} (change : Change Server.id)
    (parsed : parseUuid report.1 = some serverId)
    (same : ∀ server, change.apply server
      = { server with
          playersOnline := reportedPlayers functions report.2
          lastActivity :=
            if report.2.positive? = some true then now else server.lastActivity })
    : changeServers (fun server => server.id = serverId) change db
      = countReport functions now db report := by
  unfold changeServers countReport
  rw [Table.update_congr]
  intro server _
  by_cases named : server.id = serverId
  · simp [Change.when, countPlayers, parsed, named, same]
  · simp [Change.when, countPlayers, parsed, named, Ne.symm named]

theorem reportPlayers_readable {functions : SessionFunctions} {report : String × Json}
    (readable : ReadableCount functions report) (now : Instant) (db : Database)
    : reportPlayers functions now db report = .ok (countReport functions now db report) := by
  unfold reportPlayers
  cases parsed : parseUuid report.1 with
  | none =>
      have unnamed : db.servers.update (countPlayers functions now report) = db.servers :=
        Table.eq_of_rows_eq ((List.map_congr_left (by simp [countPlayers, parsed])).trans
          (List.map_id _))
      unfold countReport
      rw [unnamed]
  | some serverId =>
      obtain ⟨compared, stored⟩ := readable (by rw [parsed]; rfl)
      cases positive : report.2.positive? with
      | none =>
          rw [positive] at compared
          cases compared
      | some more =>
          cases more with
          | false =>
              refine congrArg Except.ok (changeServers_eq_countReport _ parsed ?_)
              intro server
              simp [positive, reportedPlayers]
          | true =>
              obtain ⟨count, value⟩ := Option.isSome_iff_exists.mp (stored positive)
              simp only [store, value, bind, Except.bind]
              refine congrArg Except.ok (changeServers_eq_countReport _ parsed ?_)
              intro server
              simp [positive, reportedPlayers, value]

theorem reportPlayers_ok_iff {functions : SessionFunctions} {now : Instant}
    {db next : Database} {report : String × Json}
    : reportPlayers functions now db report = .ok next
      ↔ ReadableCount functions report ∧ next = countReport functions now db report := by
  constructor
  · intro done
    have readable : ReadableCount functions report := by
      intro named
      obtain ⟨serverId, parsed⟩ := Option.isSome_iff_exists.mp named
      simp only [reportPlayers, parsed] at done
      cases positive : report.2.positive? with
      | none => simp [positive] at done
      | some more =>
          refine ⟨rfl, ?_⟩
          rintro ⟨⟩
          cases stored : functions.intColumn report.2 with
          | none => simp [positive, store, stored, bind, Except.bind] at done
          | some count => rfl
    rw [reportPlayers_readable readable] at done
    cases done
    exact ⟨readable, rfl⟩
  · rintro ⟨readable, rfl⟩
    exact reportPlayers_readable readable now db

theorem reportsOf_append (reports : Fields) (last : String × Json) (serverId : Uuid)
    : reportsOf (reports ++ [last]) serverId
      = reportsOf reports serverId
        ++ if parseUuid last.1 = some serverId then [last.2] else [] := by
  by_cases named : parseUuid last.1 = some serverId <;> simp [reportsOf, named]

def countAll (functions : SessionFunctions) (now : Instant) (reports : Fields)
    : Change Server.id where
  apply := reports.foldl (fun row report => (countPlayers functions now report).apply row)
  kept := by
    induction reports with
    | nil => intro server; rfl
    | cons report rest ih =>
        intro server
        have first := (countPlayers functions now report).kept server
        rw [List.foldl_cons, ih, first]

/-- The last report gives the players, any report of players the activity; by induction from the
last report.
-/
theorem countAll_apply (functions : SessionFunctions) (now : Instant) (reports : Fields)
    (server : Server)
    : (countAll functions now reports).apply server
      = { server with
          playersOnline :=
            ((reportsOf reports server.id).getLast?.map (reportedPlayers functions)).getD
              server.playersOnline
          lastActivity :=
            if (reportsOf reports server.id).any (fun count => count.positive? = some true) then
              now
            else server.lastActivity } := by
  induction reports using List.reverseRecOn with
  | nil => rfl
  | append_singleton reports last ih =>
      have step : (countAll functions now (reports ++ [last])).apply server
          = (countPlayers functions now last).apply
              ((countAll functions now reports).apply server) :=
        List.foldl_append
      rw [step, ih, reportsOf_append]
      by_cases named : parseUuid last.1 = some server.id
      · by_cases positive : last.2.positive? = some true
        · simp [countPlayers, named, positive]
        · simp [countPlayers, named, positive]
      · simp [countPlayers, named]

theorem countAll_eq_iff {functions : SessionFunctions} {now : Instant}
    {reports : Fields} {server : Server}
    : (countAll functions now reports).apply server = server
      ↔ RepeatsRow functions now reports server := by
  rw [countAll_apply]
  constructor
  · intro same
    have players := congrArg Server.playersOnline same
    have activity := congrArg Server.lastActivity same
    dsimp only at players activity
    constructor
    · intro count last
      rw [Option.mem_def.mp last] at players
      exact players
    · intro count member positive
      rw [if_pos (List.any_eq_true.mpr ⟨count, member, by simpa using positive⟩)] at activity
      exact activity.symm
  · intro repeated
    have players
        : ((reportsOf reports server.id).getLast?.map (reportedPlayers functions)).getD
            server.playersOnline
          = server.playersOnline := by
      cases last : (reportsOf reports server.id).getLast? with
      | none => rfl
      | some count => exact repeated.players count last
    have activity
        : (if (reportsOf reports server.id).any (fun count => count.positive? = some true) then
            now
          else server.lastActivity)
          = server.lastActivity := by
      split
      · rename_i counted
        obtain ⟨count, member, positive⟩ := List.any_eq_true.mp counted
        exact (repeated.activity count member (by simpa using positive)).symm
      · rfl
    rw [players, activity]

-- What the other parts of a heartbeat do

theorem OtherRowsUnchanged.refl (nodeId : Uuid) (db : Database)
    : OtherRowsUnchanged nodeId db db :=
  ⟨fun _ member _ => member, fun _ member _ => member⟩

theorem reportDeployment_ok {functions : SessionFunctions} {nodeId : Uuid}
    {db next : Database} {report : String × Json}
    (reported : reportDeployment functions nodeId db report = .ok next)
    : next = db
      ∨ ∃ deployment ∈ db.appDeployments.rows, deployment.nodeId = some nodeId
        ∧ ∃ change : Change AppDeployment.id,
          (∀ row, (change.apply row).nodeId = row.nodeId)
          ∧ next = { db with
              appDeployments := db.appDeployments.modify deployment.id change } := by
  unfold reportDeployment at reported
  split at reported
  · rename_i deployment health found _
    split at reported
    · rename_i own
      obtain ⟨restartCount, _, stored⟩ := except_bind_ok reported
      cases stored
      obtain ⟨_, _, found⟩ := Option.bind_eq_some_iff.mp found
      refine .inr ⟨deployment, (Table.get?_some found).1, own, _, ?_, rfl⟩
      intro row
      dsimp only
      unfold applyHealth
      split <;> rfl
    · cases reported
      exact .inl rfl
  · cases reported
    exact .inl rfl

theorem reportDeployment_nodeId {functions : SessionFunctions} {nodeId : Uuid}
    {db next : Database} {report : String × Json}
    (reported : reportDeployment functions nodeId db report = .ok next) (deploymentId : Uuid)
    : (next.appDeployments.get? deploymentId).map AppDeployment.nodeId
      = (db.appDeployments.get? deploymentId).map AppDeployment.nodeId := by
  rcases reportDeployment_ok reported with rfl | ⟨_, _, _, change, kept, rfl⟩
  · rfl
  · rw [Table.get?_modify]
    split
    · rw [Option.map_map]
      exact congrArg (fun read => (db.appDeployments.get? deploymentId).map read) (funext kept)
    · rfl

theorem reportDeployment_unchanged {functions : SessionFunctions} {nodeId : Uuid}
    {db next : Database} {report : String × Json}
    (reported : reportDeployment functions nodeId db report = .ok next)
    : next.servers = db.servers
      ∧ ∀ deployment ∈ db.appDeployments.rows, deployment.nodeId ≠ some nodeId
        → deployment ∈ next.appDeployments.rows := by
  rcases reportDeployment_ok reported with rfl | ⟨deployment, stored, own, change, _, rfl⟩
  · exact ⟨rfl, fun _ member _ => member⟩
  · refine ⟨rfl, ?_⟩
    intro other member foreign
    have different : other.id ≠ deployment.id := by
      intro same
      rw [db.appDeployments.eq_of_key_eq member stored same] at foreign
      exact foreign own
    exact List.mem_map.mpr ⟨other, member, Change.at_other change different⟩

theorem reportDeployment_succeeds_iff {functions : SessionFunctions} {nodeId : Uuid}
    {db : Database} {report : String × Json}
    : (∃ next, reportDeployment functions nodeId db report = .ok next)
      ↔ ReadableHealth functions nodeId db report := by
  unfold reportDeployment ReadableHealth
  cases found : (parseUuid report.1).bind db.appDeployments.get? with
  | none => simp
  | some deployment =>
      cases health : report.2.fields? with
      | none => simp
      | some fields =>
          by_cases own : deployment.nodeId = some nodeId
          · cases stored
                : functions.intColumn ((fields.lookup? "restart_count").getD (.int 0)) <;>
              simp [own, store, stored, bind, Except.bind]
          · simp [own]

theorem readableHealth_congr {functions : SessionFunctions} {nodeId : Uuid}
    {db next : Database}
    (same : ∀ deploymentId, (next.appDeployments.get? deploymentId).map AppDeployment.nodeId
      = (db.appDeployments.get? deploymentId).map AppDeployment.nodeId)
    (report : String × Json)
    : ReadableHealth functions nodeId next report
      ↔ ReadableHealth functions nodeId db report := by
  have named (database : Database)
      : ReadableHealth functions nodeId database report
        ↔ ∀ deploymentId ∈ parseUuid report.1, ∀ health ∈ report.2.fields?,
          (database.appDeployments.get? deploymentId).map AppDeployment.nodeId
            = some (some nodeId)
          → (functions.intColumn ((health.lookup? "restart_count").getD (.int 0))).isSome := by
    unfold ReadableHealth
    cases parseUuid report.1 with
    | none => simp
    | some deploymentId =>
        cases found : database.appDeployments.get? deploymentId <;> simp [found]
  rw [named next, named db]
  simp only [same]

/-- What all reports do to the servers, by induction on the reports. -/
theorem countReport_foldl (functions : SessionFunctions) (now : Instant) (reports : Fields)
    (db : Database)
    : (reports.foldl (countReport functions now) db).servers
      = db.servers.update (countAll functions now reports) := by
  induction reports generalizing db with
  | nil => exact Table.eq_of_rows_eq (List.map_id _).symm
  | cons report rest ih =>
      rw [List.foldl_cons, ih]
      exact Table.eq_of_rows_eq List.map_map

-- The whole heartbeat

def storedField {Value : Type} (column : Json → Option Value) (stats : Fields) (name : String)
    : Except String Value := do
  store column (← require stats name)

theorem storedField_succeeds_iff {Value : Type} (column : Json → Option Value) (stats : Fields)
    (name : String)
    : (∃ value, storedField column stats name = .ok value) ↔ Storable column stats name := by
  unfold storedField require store Storable
  cases stats.lookup? name with
  | none => simp [bind, Except.bind]
  | some value => cases accepted : column value <;> simp [bind, Except.bind, accepted]

def readRunning (stats : Fields) : Except String Fields :=
  if ((stats.lookup? "running_servers").getD (.object [])).truthy then
    entries stats "running_servers"
  else .ok []

theorem entries_ok_iff {stats reports : Fields} {name : String}
    : entries stats name = .ok reports
      ↔ ((stats.lookup? name).getD (.object [])).fields? = some reports := by
  unfold entries Json.fields?
  split <;> simp_all

theorem readRunning_ok_iff {stats reports : Fields}
    : readRunning stats = .ok reports ↔ runningReports stats = some reports := by
  unfold readRunning runningReports
  dsimp only
  split
  · exact entries_ok_iff
  · simp

structure OwnServersOnly (nodeId : Uuid) (before after : Database) : Prop where
  deployments : after.appDeployments = before.appDeployments
  servers
    : ∃ change : Change Server.id, after.servers = before.servers.update change
      ∧ ∀ server, server.nodeId ≠ some nodeId → change.apply server = server

theorem changeServers_own {nodeId : Uuid} {test : Server → Bool}
    (own : ∀ server, test server = true → server.nodeId = some nodeId)
    (change : Change Server.id) (db : Database)
    : OwnServersOnly nodeId db (changeServers test change db) := by
  refine ⟨rfl, change.when test, rfl, ?_⟩
  intro server foreign
  exact if_neg (fun passes => foreign (own server passes))

theorem suspendActiveServers_own (nodeId : Uuid) (except : List Uuid) (db : Database)
    : OwnServersOnly nodeId db (suspendActiveServers nodeId except db) := by
  refine changeServers_own ?_ suspendServer db
  intro server passes
  simp only [Bool.and_eq_true, decide_eq_true_eq] at passes
  exact passes.1.1

def Server.uncounted (server : Server) : Server := { server with playersOnline := 0 }

def Node.measured (now : Instant) (totalRamMb : Int) (cpuUsagePercent cpuCores : Rat)
    (node : Node)
    : Node :=
  { node with totalRamMb, cpuUsagePercent, cpuCores, lastHeartbeat := some now }

/-- The first updates of a heartbeat: the measures of the node, and no players anywhere on it. -/
def resetNode (now : Instant) (nodeId : Uuid) (totalRamMb : Int) (cpuUsagePercent cpuCores : Rat)
    (db : Database)
    : Database :=
  changeServers (fun server => server.nodeId = some nodeId) { apply := Server.uncounted }
    (changeNode nodeId { apply := Node.measured now totalRamMb cpuUsagePercent cpuCores } db)

theorem resetNode_own (now : Instant) (nodeId : Uuid) (totalRamMb : Int)
    (cpuUsagePercent cpuCores : Rat) (db : Database)
    : OwnServersOnly nodeId db
        (resetNode now nodeId totalRamMb cpuUsagePercent cpuCores db) := by
  refine ⟨rfl, _, rfl, ?_⟩
  intro server foreign
  exact if_neg (fun own => foreign (of_decide_eq_true own))

theorem applyHeartbeat_eq (functions : SessionFunctions) (settings : Settings) (now : Instant)
    (nodeId : Uuid) (stats : Fields) (db : Database)
    : applyHeartbeat functions settings now nodeId stats db
      = (do
          let totalRamMb ← storedField functions.intColumn stats "total_ram_mb"
          let cpuUsagePercent ← storedField functions.floatColumn stats "cpu_usage_percent"
          let cpuCores ← storedField functions.floatColumn stats "cpu_cores"
          let running ← readRunning stats
          let counted ←
            running.foldlM (reportPlayers functions now)
              (resetNode now nodeId totalRamMb cpuUsagePercent cpuCores db)
          let reports ← entries stats "deployment_health"
          reports.foldlM (reportDeployment functions nodeId)
            (refreshNodeAllocatedRam settings now nodeId
              (suspendActiveServers nodeId (reportedServers running) counted))) := by
  unfold applyHeartbeat storedField readRunning
  simp only [bind_assoc]
  split <;> rfl

theorem reportPlayers_deployments {functions : SessionFunctions} {now : Instant}
    {db counted : Database} {reports : Fields}
    (done : reports.foldlM (reportPlayers functions now) db = .ok counted)
    : counted.appDeployments = db.appDeployments := by
  refine foldlM_invariant (fun state => state.appDeployments = db.appDeployments) ?_ done rfl
  intro state report next reported same
  obtain ⟨_, rfl⟩ := reportPlayers_ok_iff.mp reported
  exact same

theorem reportPlayers_foldlM_succeeds_iff {functions : SessionFunctions} {now : Instant}
    {db : Database} {reports : Fields}
    : (∃ counted, reports.foldlM (reportPlayers functions now) db = .ok counted)
      ↔ ∀ report ∈ reports, ReadableCount functions report := by
  refine foldlM_succeeds_iff (fun _ => ReadableCount functions) ?_ (fun _ _ _ _ _ => .rfl)
  intro state report
  simp only [reportPlayers_ok_iff, exists_and_left, exists_eq, and_true]

theorem reportDeployment_foldlM_succeeds_iff {functions : SessionFunctions} {nodeId : Uuid}
    {db : Database} {reports : Fields}
    : (∃ next, reports.foldlM (reportDeployment functions nodeId) db = .ok next)
      ↔ ∀ report ∈ reports, ReadableHealth functions nodeId db report := by
  refine foldlM_succeeds_iff (ReadableHealth functions nodeId) ?_ ?_
  · intro state report
    exact reportDeployment_succeeds_iff
  · intro state report next other reported
    exact readableHealth_congr (reportDeployment_nodeId reported) other

theorem applyHeartbeat_succeeds_iff {functions : SessionFunctions} {settings : Settings}
    {now : Instant} {nodeId : Uuid} {stats : Fields} {db : Database}
    : (∃ next, applyHeartbeat functions settings now nodeId stats db = .ok next)
      ↔ Readable functions nodeId stats db := by
  have health {totalRamMb cpuUsagePercent cpuCores counted} {running : Fields}
      (done : running.foldlM (reportPlayers functions now)
        (resetNode now nodeId totalRamMb cpuUsagePercent cpuCores db) = .ok counted)
      (reports : Fields)
      : (∃ next, reports.foldlM (reportDeployment functions nodeId)
            (refreshNodeAllocatedRam settings now nodeId
              (suspendActiveServers nodeId (reportedServers running) counted)) = .ok next)
        ↔ ∀ report ∈ reports, ReadableHealth functions nodeId db report := by
    have deployments : counted.appDeployments = db.appDeployments :=
      (reportPlayers_deployments done).trans
        (resetNode_own now nodeId totalRamMb cpuUsagePercent cpuCores db).deployments
    refine reportDeployment_foldlM_succeeds_iff.trans
      (forall₂_congr (fun report _ => readableHealth_congr ?_ report))
    intro deploymentId
    exact congrArg (fun table => (table.get? deploymentId).map AppDeployment.nodeId) deployments
  rw [applyHeartbeat_eq]
  constructor
  · rintro ⟨next, applied⟩
    obtain ⟨totalRamMb, total, applied⟩ := except_bind_ok applied
    obtain ⟨cpuUsagePercent, usage, applied⟩ := except_bind_ok applied
    obtain ⟨cpuCores, cores, applied⟩ := except_bind_ok applied
    obtain ⟨running, reported, applied⟩ := except_bind_ok applied
    obtain ⟨counted, done, applied⟩ := except_bind_ok applied
    obtain ⟨reports, read, applied⟩ := except_bind_ok applied
    exact {
      totalRamMb := (storedField_succeeds_iff _ _ _).mp ⟨_, total⟩
      cpuUsagePercent := (storedField_succeeds_iff _ _ _).mp ⟨_, usage⟩
      cpuCores := (storedField_succeeds_iff _ _ _).mp ⟨_, cores⟩
      running :=
        ⟨running, readRunning_ok_iff.mp reported,
          reportPlayers_foldlM_succeeds_iff.mp ⟨counted, done⟩⟩
      health := ⟨reports, entries_ok_iff.mp read, (health done reports).mp ⟨next, applied⟩⟩ }
  · rintro ⟨total, usage, cores, ⟨running, reported, counts⟩, reports, read, healths⟩
    obtain ⟨totalRamMb, total⟩ := (storedField_succeeds_iff _ _ _).mpr total
    obtain ⟨cpuUsagePercent, usage⟩ := (storedField_succeeds_iff _ _ _).mpr usage
    obtain ⟨cpuCores, cores⟩ := (storedField_succeeds_iff _ _ _).mpr cores
    obtain ⟨counted, done⟩ : ∃ counted, running.foldlM (reportPlayers functions now)
        (resetNode now nodeId totalRamMb cpuUsagePercent cpuCores db) = .ok counted :=
      reportPlayers_foldlM_succeeds_iff.mpr counts
    obtain ⟨next, applied⟩ := (health done reports).mpr healths
    refine ⟨next, ?_⟩
    simp only [total, usage, cores, readRunning_ok_iff.mpr reported, done,
      entries_ok_iff.mpr read, applied, bind, Except.bind]

theorem applyHeartbeat_parts {functions : SessionFunctions} {settings : Settings}
    {now : Instant} {nodeId : Uuid} {stats : Fields} {db next : Database}
    (applied : applyHeartbeat functions settings now nodeId stats db = .ok next)
    : ∃ totalRamMb cpuUsagePercent cpuCores counted running reports,
      runningReports stats = some running
      ∧ entries stats "deployment_health" = .ok reports
      ∧ running.foldlM (reportPlayers functions now)
          (resetNode now nodeId totalRamMb cpuUsagePercent cpuCores db) = .ok counted
      ∧ reports.foldlM (reportDeployment functions nodeId)
          (refreshNodeAllocatedRam settings now nodeId
            (suspendActiveServers nodeId (reportedServers running) counted)) = .ok next := by
  rw [applyHeartbeat_eq] at applied
  obtain ⟨totalRamMb, _, applied⟩ := except_bind_ok applied
  obtain ⟨cpuUsagePercent, _, applied⟩ := except_bind_ok applied
  obtain ⟨cpuCores, _, applied⟩ := except_bind_ok applied
  obtain ⟨running, reported, applied⟩ := except_bind_ok applied
  obtain ⟨counted, done, applied⟩ := except_bind_ok applied
  obtain ⟨reports, read, applied⟩ := except_bind_ok applied
  exact ⟨totalRamMb, cpuUsagePercent, cpuCores, counted, running, reports,
    readRunning_ok_iff.mp reported, read, done, applied⟩

theorem reportPlayers_servers {functions : SessionFunctions} {now : Instant}
    {db counted : Database} {reports : Fields}
    (done : reports.foldlM (reportPlayers functions now) db = .ok counted)
    : counted.servers = db.servers.update (countAll functions now reports) := by
  rw [foldlM_eq_foldl (countReport functions now) ?_ done, countReport_foldl]
  intro state report after reported
  exact (reportPlayers_ok_iff.mp reported).2

theorem reportDeployments_servers {functions : SessionFunctions} {nodeId : Uuid}
    {db next : Database} {reports : Fields}
    (done : reports.foldlM (reportDeployment functions nodeId) db = .ok next)
    : next.servers = db.servers := by
  refine foldlM_invariant (fun state : Database => state.servers = db.servers) ?_ done rfl
  intro state report after reported same
  exact (reportDeployment_unchanged reported).1.trans same

theorem applyHeartbeat_servers {functions : SessionFunctions} {settings : Settings}
    {now : Instant} {nodeId : Uuid} {stats running : Fields} {db next : Database}
    (applied : applyHeartbeat functions settings now nodeId stats db = .ok next)
    (reported : runningReports stats = some running)
    : ∃ change : Change Server.id, next.servers = db.servers.update change
      ∧ ∀ server, server.nodeId ≠ some nodeId
        → change.apply server = (countAll functions now running).apply server := by
  obtain ⟨totalRamMb, cpuUsagePercent, cpuCores, counted, own, healths, read, _, done, applied⟩ :=
    applyHeartbeat_parts applied
  cases reported.symm.trans read
  obtain ⟨first, emptied, spared⟩ :=
    (resetNode_own now nodeId totalRamMb cpuUsagePercent cpuCores db).servers
  obtain ⟨last, reconciled, spares⟩ :=
    (suspendActiveServers_own nodeId (reportedServers running) counted).servers
  have finished : next.servers
      = (suspendActiveServers nodeId (reportedServers running) counted).servers :=
    (reportDeployments_servers applied).trans rfl
  have reports := reportPlayers_servers done
  refine ⟨⟨fun server => last.apply ((countAll functions now running).apply
    (first.apply server)), ?_⟩, ?_, ?_⟩
  · intro server
    rw [last.kept, (countAll functions now running).kept, first.kept]
  · refine Table.eq_of_rows_eq ?_
    rw [finished, reconciled, Table.rows_update, reports, Table.rows_update, emptied,
      Table.rows_update, List.map_map, List.map_map]
    rfl
  · intro server foreign
    have stays : ((countAll functions now running).apply server).nodeId ≠ some nodeId := by
      rw [countAll_apply]
      exact foreign
    dsimp only
    rw [spared server foreign, spares _ stays]

theorem applyHeartbeat_deployments {functions : SessionFunctions} {settings : Settings}
    {now : Instant} {nodeId : Uuid} {stats : Fields} {db next : Database}
    (applied : applyHeartbeat functions settings now nodeId stats db = .ok next)
    : ∀ deployment ∈ db.appDeployments.rows, deployment.nodeId ≠ some nodeId
      → deployment ∈ next.appDeployments.rows := by
  obtain ⟨totalRamMb, cpuUsagePercent, cpuCores, counted, running, reports, _, _, done, applied⟩ :=
    applyHeartbeat_parts applied
  intro deployment stored foreign
  refine foldlM_invariant (fun state : Database => deployment ∈ state.appDeployments.rows) ?_
    applied ?_
  · intro state report next reported member
    exact (reportDeployment_unchanged reported).2 deployment member foreign
  · change deployment ∈ counted.appDeployments.rows
    rw [reportPlayers_deployments done, (resetNode_own ..).deployments]
    exact stored

theorem afterMessage_cases (functions : SessionFunctions) (settings : Settings)
    (nodeId : Uuid) (received : Received) (db : Database)
    : (∃ stats next, heartbeatStats nodeId received.2 db = some stats
        ∧ applyHeartbeat functions settings received.1 nodeId stats db = .ok next
        ∧ afterMessage functions settings nodeId received db = next)
      ∨ (∀ stats, heartbeatStats nodeId received.2 db = some stats
          → ∃ error, applyHeartbeat functions settings received.1 nodeId stats db = .error error)
        ∧ afterMessage functions settings nodeId received db = db := by
  obtain ⟨now, message⟩ := received
  unfold afterMessage receiveMessage heartbeatStats
  dsimp only
  cases message with
  | none => exact .inr ⟨nofun, rfl⟩
  | some value =>
      cases fields : value.fields? with
      | none => simp [fields]
      | some message =>
          cases typed : message.lookup? "type" with
          | none => simp [fields, typed]
          | some kind =>
              by_cases heartbeat : kind.isText "heartbeat" = true
              · cases sent : message.lookup? "data" with
                | none => simp [fields, typed, sent, heartbeat]
                | some data =>
                    cases known : db.nodes.get? nodeId with
                    | none => simp [fields, typed, sent, heartbeat]
                    | some node =>
                        by_cases offline : node.status = .offline
                        · simp [fields, typed, sent, heartbeat, offline]
                        · cases inner : data.fields? with
                          | none => simp [fields, typed, sent, heartbeat, offline, inner]
                          | some stats =>
                              cases applied
                                  : applyHeartbeat functions settings now nodeId stats db with
                              | error error =>
                                  simp [fields, typed, sent, heartbeat, offline, inner, applied]
                              | ok next =>
                                  simp [fields, typed, sent, heartbeat, offline, inner, applied]
              · simp [fields, typed, heartbeat]

/-- A message leaves the rows of other nodes alone exactly when it is not applied, or repeats what
the servers of other nodes that it names say themselves.
-/
theorem message_spares_others_iff (functions : SessionFunctions) (settings : Settings)
    (nodeId : Uuid) (received : Received) (db : Database)
    : OtherRowsUnchanged nodeId db (afterMessage functions settings nodeId received db)
      ↔ ∀ stats ∈ heartbeatStats nodeId received.2 db, Readable functions nodeId stats db
        → ∀ running ∈ runningReports stats, ∀ server ∈ db.servers.rows,
          server.nodeId ≠ some nodeId → RepeatsRow functions received.1 running server := by
  rcases afterMessage_cases functions settings nodeId received db with
    ⟨stats, next, found, applied, after⟩ | ⟨refused, after⟩
  · rw [after]
    constructor
    · intro unchanged stats' same _ running reported server stored foreign
      cases found.symm.trans same
      obtain ⟨change, rewritten, spared⟩ := applyHeartbeat_servers applied reported
      have member := unchanged.servers server stored foreign
      rw [rewritten, Table.mem_update_iff _ _ stored, spared server foreign] at member
      exact countAll_eq_iff.mp member
    · intro repeated
      have readable := applyHeartbeat_succeeds_iff.mp ⟨next, applied⟩
      obtain ⟨running, reported, _⟩ := readable.running
      obtain ⟨change, rewritten, spared⟩ := applyHeartbeat_servers applied reported
      refine ⟨?_, applyHeartbeat_deployments applied⟩
      intro server stored foreign
      rw [rewritten, Table.mem_update_iff _ _ stored, spared server foreign]
      exact countAll_eq_iff.mpr (repeated stats found readable running reported server stored
        foreign)
  · rw [after]
    refine iff_of_true (.refl nodeId db) ?_
    intro stats found readable
    obtain ⟨error, raised⟩ := refused stats found
    obtain ⟨next, applied⟩ := applyHeartbeat_succeeds_iff.mpr readable
    rw [raised] at applied
    cases applied

def plainColumns : SessionFunctions where
  str _ := ""
  strip := id
  parseInt _ := none
  sha256 := id
  parseTime _ := none
  intColumn value :=
    match value with
    | .int count => some count
    | _ => none
  floatColumn value :=
    match value with
    | .int count => some count
    | _ => none

def movedServer : Database where
  servers :=
    ⟨[{ id := 5, nodeId := some 2, ownerId := 7, worldName := "lobby", state := .running,
        lastActivity := 40, playersOnline := 3 }],
      by simp⟩
  nodes :=
    ⟨[{ id := 1, name := "first", ipAddress := "10.0.0.1", status := .online,
        statusUpdatedAt := 0 },
      { id := 2, name := "second", ipAddress := "10.0.0.2", status := .online,
        statusUpdatedAt := 0 }],
      by simp⟩

def reportOnServer (players : Int) : Received :=
  (60,
    some (.object
      [("type", .text "heartbeat"),
        ("data", .object
          [("total_ram_mb", .int 4096), ("cpu_usage_percent", .int 0), ("cpu_cores", .int 2),
            ("running_servers", .object
              [("00000000-0000-0000-0000-000000000005", .int players)])])]))

/-- The first node still reports the server that has moved to the second one, without players:
the server of the second node loses its three players.
-/
theorem moved_server_loses_players
    : (movedServer.servers.get? 5).map Server.nodeId = some (some 2)
      ∧ (movedServer.servers.get? 5).map Server.playersOnline = some 3
      ∧ ((afterMessage plainColumns {} 1 (reportOnServer 0) movedServer).servers.get? 5).map
          Server.playersOnline = some 0 := by
  decide +kernel

end Blockhost
