import Blockhost.Orchestrator.HandlerOutcomes
import Blockhost.Orchestrator.OperationHandlers

/-! The deletion of a server: the files on its node go before the row, which rows of other tables
may keep in the database.
-/

namespace Blockhost.ControlPlane

open Library

variable {World : Type}

def serverReferenced (db : Database) (serverId : Uuid) : Bool :=
  db.subscriptions.rows.any (fun row => row.serverId = some serverId)
  || db.transactions.rows.any (fun row => row.serverId = some serverId)
  || db.billingAuditLogs.any (fun row => row.serverId = some serverId)
  || db.backups.rows.any (fun row => row.serverId = serverId)
  || db.backupJobs.rows.any (fun row => row.serverId = serverId)
  || db.backupSchedules.rows.any (fun row => row.serverId = serverId)
  || db.restoreJobs.rows.any (fun row => row.serverId = serverId)
  || db.blockcoinLedger.any (fun row => row.serverId = some serverId)

/-- The rest of `delete_server`. The deletion of the snapshot is taken to be answered, well or
badly: an error of its transport, which the code lets out after the commit, is left out.
-/
def commitDeletion (serverId : Uuid) (nodeId : Option Uuid) (settings : Settings) (now : Instant)
    (snapshot : Reply) (fleet : Fleet World)
    : Fleet World × Except Raised Unit :=
  if serverReferenced fleet.db serverId then (fleet, .error .integrity)
  else
    let removed := fleet.withDb (removeServer settings now serverId nodeId fleet.db)
    (if snapshot.reaches then removed.writeSnapshot serverId none else removed, .ok ())

/-- `delete_server`. Every call of it has its own input from the outside world. -/
def deleteServer (site : Site) (outside : FleetAction → Outside World) (user : User)
    (serverId : Uuid) (fleet : Fleet World)
    : Fleet World × Except Raised Unit :=
  let (prepared, result) :=
    (prepareDeletion user serverId).settle (controlPlane World site) outside fleet
  match result with
  | .error failure => (prepared, .error failure)
  | .ok nodeId =>
      let last := outside (.deleteSnapshot serverId)
      commitDeletion serverId nodeId site.settings last.now last.reply prepared

/-- Either the row and the files of a server are both gone, or both are still there. -/
def AllOrNothing (serverId : Uuid) (before after : Fleet World) : Except Raised Unit → Prop
  | .ok _ =>
      after.db.servers.get? serverId = none
      ∧ ∀ nodeId, after.disks nodeId serverId = none
  | .error _ =>
      after.db.servers.get? serverId = before.db.servers.get? serverId
      ∧ ∀ nodeId, after.disks nodeId serverId = before.disks nodeId serverId

/-- The purge of a server's files takes effect on a node. -/
structure Purges (outside : FleetAction → Outside World) (db : Database) (serverId : Uuid)
    (home : Option Uuid) (nodeId : Uuid)
    : Prop where
  home : home = some nodeId
  known : ∃ node, db.nodes.get? nodeId = some node ∧ node.ipAddress ≠ ""
  reaches : (outside (.call nodeId (.purge serverId))).reply.reaches = true

/-- Neither the rows nor the files have changed. -/
structure Untouched (before after : Fleet World) : Prop where
  db : after.db = before.db
  disks : after.disks = before.disks

theorem Untouched.trans {before middle after : Fleet World} (first : Untouched before middle)
    (second : Untouched middle after)
    : Untouched before after :=
  ⟨second.db.trans first.db, second.disks.trans first.disks⟩

section Steps

variable {site : Site} {outside : FleetAction → Outside World} {user : User}
variable {serverId : Uuid}

theorem haltServerProcess_untouched (router : Router) (serverId : Uuid) (fleet : Fleet World)
    : Handler.Ensures site (fun _ => True) (haltServerProcess router serverId)
        (fun after _ => Untouched fleet after) fleet := by
  refine ensures_ask ?_
  intro inputs fleet0 routed _ took0
  have routes : (routeServer router inputs.now serverId (fleet.atTime inputs.now)).1 = fleet0 :=
    congrArg Prod.fst took0
  have untouched0 : Untouched fleet fleet0 := by
    rw [← routes]
    exact ⟨routeServer_db .., routeServer_disks ..⟩
  cases routed with
  | none => exact untouched0
  | some nodeId =>
      refine ensures_ask ?_
      intro _ fleet1 answered _ took1
      have untouched1 := untouched0.trans ⟨(took_call took1).db, (took_stop took1).1⟩
      cases answered <;> exact untouched1

theorem stopBeforeDeletion_untouched (server : Server) (fleet : Fleet World)
    : Handler.Ensures site (fun _ => True) (stopBeforeDeletion server)
        (fun after result => result = .ok () ∧ Untouched fleet after) fleet := by
  unfold stopBeforeDeletion
  split
  · refine (haltServerProcess_untouched .api server.id fleet).handle ?_ ?_
    · intro _ _ untouched
      exact ⟨rfl, untouched⟩
    · intro _ _ untouched
      exact ⟨rfl, untouched⟩
  · exact ⟨rfl, rfl, rfl⟩

theorem purge_disks (serverId : Uuid) (reply : Reply) (freshWorld : World)
    (nodeId other : Uuid) (fleet : Fleet World)
    : (callAgent freshWorld reply nodeId (.purge serverId) fleet).1.disks other serverId
      = if reply.reaches ∧ other = nodeId then none else fleet.disks other serverId := by
  cases reply <;> simp [callAgent, serveRequest, Reply.reaches, Fleet.writeDisk, Fleet.endProcess]

theorem purgeServerData_settles (site : Site) (outside : FleetAction → Outside World)
    (serverId : Uuid) (home : Option Uuid) (fleet : Fleet World)
    : ∃ after, (purgeServerData serverId home).settle (controlPlane World site) outside fleet
        = (after, .ok ())
      ∧ after.db = fleet.db
      ∧ ∀ nodeId,
          (Purges outside fleet.db serverId home nodeId → after.disks nodeId serverId = none)
          ∧ (¬ Purges outside fleet.db serverId home nodeId
            → after.disks nodeId serverId = fleet.disks nodeId serverId) := by
  cases home with
  | none =>
      refine ⟨fleet, rfl, rfl, ?_⟩
      intro nodeId
      exact ⟨fun purges => (nomatch purges.home), fun _ => rfl⟩
  | some home =>
      have here {nodeId : Uuid} (purges : Purges outside fleet.db serverId (some home) nodeId)
          : home = nodeId :=
        Option.some.inj purges.home
      let fleet0 := fleet.atTime (outside (.loadNode home)).now
      have loads : (controlPlane World site (.loadNode home) (outside (.loadNode home)) fleet).2
          = fleet.db.nodes.get? home :=
        rfl
      cases found : fleet.db.nodes.get? home with
      | none =>
          refine ⟨fleet0, ?_, rfl, ?_⟩
          · refine settle_ask.trans ?_
            rw [loads, found]
            rfl
          · intro nodeId
            refine ⟨?_, fun _ => rfl⟩
            intro purges
            obtain ⟨node, known, _⟩ := purges.known
            rw [← here purges, found] at known
            cases known
      | some node =>
          by_cases silent : node.ipAddress = ""
          · refine ⟨fleet0, ?_, rfl, ?_⟩
            · refine settle_ask.trans ?_
              rw [loads, found]
              dsimp only
              rw [if_pos silent]
              rfl
            · intro nodeId
              refine ⟨?_, fun _ => rfl⟩
              intro purges
              obtain ⟨other, known, reachable⟩ := purges.known
              rw [← here purges, found] at known
              cases known
              exact absurd silent reachable
          · let inputs := outside (.call node.id (.purge serverId))
            let fleet1 := (callAgent inputs.freshWorld inputs.reply node.id (.purge serverId)
              (fleet0.atTime inputs.now)).1
            refine ⟨fleet1, ?_, callAgent_db .., ?_⟩
            · refine settle_ask.trans ?_
              rw [loads, found]
              dsimp only
              rw [if_neg silent]
              rfl
            · intro nodeId
              have disks := purge_disks serverId inputs.reply inputs.freshWorld
                node.id nodeId (fleet0.atTime inputs.now)
              rw [disks]
              have known := (Table.get?_some found).2
              constructor
              · intro purges
                have reaches := purges.reaches
                rw [← here purges, ← known] at reaches
                exact if_pos ⟨reaches, (here purges).symm.trans known.symm⟩
              · intro kept
                refine if_neg ?_
                intro reached
                obtain ⟨reaches, rfl⟩ := reached
                exact kept ⟨congrArg some known.symm, ⟨node, known ▸ found, silent⟩, reaches⟩

/-- Up to its commit a deletion leaves the rows alone; the files go where the purge takes effect.
-/
theorem prepareDeletion_settles (site : Site) (outside : FleetAction → Outside World)
    {server : Server} (fleet : Fleet World)
    (permitted : getServerForUser fleet.db serverId user "start_stop" = .ok server)
    : ∃ after, (prepareDeletion user serverId).settle (controlPlane World site) outside fleet
        = (after, .ok server.nodeId)
      ∧ after.db = fleet.db
      ∧ ∀ nodeId,
          (Purges outside fleet.db serverId server.nodeId nodeId
            → after.disks nodeId serverId = none)
          ∧ (¬ Purges outside fleet.db serverId server.nodeId nodeId
            → after.disks nodeId serverId = fleet.disks nodeId serverId) := by
  let fleet0 := fleet.atTime (outside (.serverForUser user serverId "start_stop")).now
  have stopping : Handler.Ensures site (fun _ => True) (stopBeforeDeletion server)
      (fun after result => result = .ok () ∧ Untouched fleet0 after) fleet0 :=
    stopBeforeDeletion_untouched server fleet0
  have stopped := stopping.settle outside (fun _ => trivial)
  obtain ⟨fleet1, stops⟩ : ∃ fleet1,
      (stopBeforeDeletion server).settle (controlPlane World site) outside fleet0
        = (fleet1, .ok ()) :=
    ⟨_, Prod.ext rfl stopped.1⟩
  have untouched : Untouched fleet fleet1 := by
    have ended := stopped.2
    rw [stops] at ended
    exact ⟨ended.db, ended.disks⟩
  obtain ⟨after, purged, rows, files⟩ :=
    purgeServerData_settles site outside serverId server.nodeId fleet1
  rw [untouched.db] at rows files
  rw [untouched.disks] at files
  refine ⟨after, ?_, rows, files⟩
  have grants : (controlPlane World site (.serverForUser user serverId "start_stop")
      (outside (.serverForUser user serverId "start_stop")) fleet).2 = .ok server :=
    congrArg (Except.mapError Raised.http) permitted
  refine settle_ask.trans ?_
  rw [grants]
  exact (Program.settle_bind_ok stops).trans (Program.settle_bind_ok purged)

theorem prepareDeletion_refused (site : Site) (outside : FleetAction → Outside World)
    {refusal : HttpError} (fleet : Fleet World)
    (refused : getServerForUser fleet.db serverId user "start_stop" = .error refusal)
    : ∃ after, (prepareDeletion user serverId).settle (controlPlane World site) outside fleet
        = (after, .error (.http refusal))
      ∧ Untouched fleet after := by
  refine ⟨fleet.atTime (outside (.serverForUser user serverId "start_stop")).now, ?_, rfl, rfl⟩
  have refuses : (controlPlane World site (.serverForUser user serverId "start_stop")
      (outside (.serverForUser user serverId "start_stop")) fleet).2 = .error (.http refusal) :=
    congrArg (Except.mapError Raised.http) refused
  refine settle_ask.trans ?_
  rw [refuses]
  rfl

end Steps

theorem removeServer_servers (settings : Settings) (now : Instant) (serverId : Uuid)
    (nodeId : Option Uuid) (db : Database)
    : (removeServer settings now serverId nodeId db).servers.get? serverId = none := by
  have gone : (db.servers.filter (fun server => server.id ≠ serverId)).get? serverId = none := by
    rw [Table.get?_eq_none]
    intro listed
    obtain ⟨server, member, same⟩ := List.mem_map.mp listed
    rw [Table.rows_filter] at member
    exact absurd same (of_decide_eq_true (List.mem_filter.mp member).2)
  cases nodeId <;> exact gone

/-- A permitted deletion: the files go where the purge takes effect, the row goes exactly if no
row refers to it.
-/
theorem deleteServer_ends (site : Site) (outside : FleetAction → Outside World)
    {user : User} {serverId : Uuid} {fleet : Fleet World} {server : Server}
    (permitted : getServerForUser fleet.db serverId user "start_stop" = .ok server)
    : ∃ after,
        (∀ nodeId,
          (Purges outside fleet.db serverId server.nodeId nodeId
            → after.disks nodeId serverId = none)
          ∧ (¬ Purges outside fleet.db serverId server.nodeId nodeId
            → after.disks nodeId serverId = fleet.disks nodeId serverId))
        ∧ (serverReferenced fleet.db serverId = true ∧ after.db = fleet.db
            ∧ deleteServer site outside user serverId fleet = (after, .error .integrity)
          ∨ serverReferenced fleet.db serverId = false ∧ after.db.servers.get? serverId = none
            ∧ deleteServer site outside user serverId fleet = (after, .ok ())) := by
  obtain ⟨after, ended, rows, files⟩ :=
    prepareDeletion_settles site outside fleet permitted
  let last := outside (.deleteSnapshot serverId)
  have commits : deleteServer site outside user serverId fleet
      = commitDeletion serverId server.nodeId site.settings last.now last.reply after := by
    unfold deleteServer
    rw [ended]
  cases referenced : serverReferenced fleet.db serverId with
  | true =>
      have refused : commitDeletion serverId server.nodeId site.settings last.now last.reply after
          = (after, .error .integrity) :=
        if_pos (rows ▸ referenced)
      exact ⟨after, files, .inl ⟨rfl, rows, commits.trans refused⟩⟩
  | false =>
      let removed :=
        after.withDb (removeServer site.settings last.now serverId server.nodeId after.db)
      let cleared := if last.reply.reaches then removed.writeSnapshot serverId none else removed
      have done : commitDeletion serverId server.nodeId site.settings last.now last.reply after
          = (cleared, .ok ()) :=
        if_neg (by rw [rows, referenced]; exact Bool.false_ne_true)
      have same : cleared.db = removed.db ∧ cleared.disks = after.disks := by
        unfold cleared
        split <;> exact ⟨rfl, rfl⟩
      refine ⟨cleared, ?_, .inr ⟨rfl, ?_, commits.trans done⟩⟩
      · rw [same.2]
        exact files
      · rw [same.1]
        exact removeServer_servers ..

/-- A deletion is atomic exactly if each node with files of the server is purged when no row
refers to the server, and is not purged when a row does.
-/
theorem deletion_all_or_nothing_iff (site : Site) (outside : FleetAction → Outside World)
    (user : User) (serverId : Uuid) (fleet : Fleet World)
    : AllOrNothing serverId fleet (deleteServer site outside user serverId fleet).1
        (deleteServer site outside user serverId fleet).2
      ↔ ∀ server, getServerForUser fleet.db serverId user "start_stop" = .ok server
        → ∀ nodeId, fleet.disks nodeId serverId ≠ none
          → (Purges outside fleet.db serverId server.nodeId nodeId
            ↔ serverReferenced fleet.db serverId = false) := by
  cases permitted : getServerForUser fleet.db serverId user "start_stop" with
  | error refusal =>
      obtain ⟨after, ended, untouched⟩ :=
        prepareDeletion_refused site outside fleet permitted
      have result : deleteServer site outside user serverId fleet
          = (after, .error (.http refusal)) := by
        unfold deleteServer
        rw [ended]
      rw [result]
      refine iff_of_true ⟨?_, ?_⟩ ?_
      · rw [untouched.db]
      · intro nodeId
        rw [untouched.disks]
      · intro _ same
        cases same
  | ok server =>
      obtain ⟨after, files, ⟨referenced, rows, result⟩ | ⟨free, gone, result⟩⟩ :=
        deleteServer_ends site outside permitted
      · rw [result, referenced]
        constructor
        · intro kept _ same nodeId stored
          cases same
          refine iff_of_false ?_ (nomatch ·)
          intro purges
          exact stored ((kept.2 nodeId).symm.trans ((files nodeId).1 purges))
        · intro spared
          refine ⟨by rw [rows], ?_⟩
          intro nodeId
          by_cases purges : Purges outside fleet.db serverId server.nodeId nodeId
          · by_contra changed
            rw [(files nodeId).1 purges] at changed
            have stored : fleet.disks nodeId serverId ≠ none := fun empty => changed empty.symm
            cases (spared server rfl nodeId stored).mp purges
          · exact (files nodeId).2 purges
      · rw [result, free]
        constructor
        · intro removed _ same nodeId stored
          cases same
          refine iff_of_true ?_ rfl
          by_contra kept
          exact stored (((files nodeId).2 kept).symm.trans (removed.2 nodeId))
        · intro purged
          refine ⟨gone, ?_⟩
          intro nodeId
          by_cases purges : Purges outside fleet.db serverId server.nodeId nodeId
          · exact (files nodeId).1 purges
          · rw [(files nodeId).2 purges]
            by_contra stored
            exact purges ((purged server rfl nodeId stored).mpr rfl)

/-- A paid server with its files on its node. -/
def rentedFleet : Fleet String where
  db := sampleDatabase ⟨[sampleServer 0 1 19134 .suspended], by decide⟩
  disks := fun nodeId serverId => if nodeId = 1 ∧ serverId = 0 then some "world" else none

/-- The subscription keeps the row, and the files are gone. -/
theorem paid_server_loses_files
    : ¬ AllOrNothing 0 rentedFleet
        (deleteServer sampleSite answeredCalls sampleUser 0 rentedFleet).1
        (deleteServer sampleSite answeredCalls sampleUser 0 rentedFleet).2 := by
  have refused : (deleteServer sampleSite answeredCalls sampleUser 0 rentedFleet).2
      = .error .integrity := by
    decide +kernel
  have purged : (deleteServer sampleSite answeredCalls sampleUser 0 rentedFleet).1.disks 1 0
      = none := by
    decide +kernel
  intro atomic
  rw [refused] at atomic
  have kept := atomic.2 1
  rw [purged] at kept
  cases kept

end Blockhost.ControlPlane
