import Blockhost.Api.LeastPorts
import Blockhost.Services.RebalanceTransactions

/-! The rescue of orphaned servers, with each call of the allocator going its own way. All
rescues share one session, which an allocation that fails rolls back.
-/

namespace Blockhost.OrphanRescues

open Library

-- The loop

/-- How one call of the allocator goes: what the host lets it bind, or an exception of its own.
-/
structure AllocationCall where
  tests : PortTests := {}
  exception : Option String := none

def AllocationCall.allocate (call : AllocationCall) (settings : Settings) (node : Node)
    (server : Server) (db : Database)
    : Except String Int :=
  match call.exception with
  | some failure => .error failure
  | none => allocatePort settings call.tests db server.flavor (some node.id)

/-- One round of the loop: an orphan, what the session sees before it, and its port. -/
structure Rescue where
  server : Server
  before : Database
  port : Except String Int

/-- The rescues of phase 0. A port that is given is flushed with its server's place. -/
def rescueEach (settings : Settings) (calls : Uuid → AllocationCall) (node : Node)
    (db : Database)
    : List Server → Database → List Rescue × Except Raised Database
  | [], current => ([], .ok current)
  | server :: rest, current =>
      let port := (calls server.id).allocate settings node server current
      match port with
      | .error _ =>
          let done := rescueEach settings calls node db rest db
          (⟨server, current, port⟩ :: done.1, done.2)
      | .ok given =>
          match commitServers (changeServer server.id (placeServer node given) current) with
          | .error failure => ([⟨server, current, port⟩], .error failure)
          | .ok next =>
              let done := rescueEach settings calls node db rest next
              (⟨server, current, port⟩ :: done.1, done.2)

/-- Phase 0 for the servers; what the session has in the end is committed. -/
def rescueAll (settings : Settings) (calls : Uuid → AllocationCall) (node : Node) (db : Database)
    : List Rescue × Except Raised Database :=
  rescueEach settings calls node db (orphanedServers db) db

-- The law

def Rescue.succeeded (rescue : Rescue) : Bool := rescue.port.isOk

/-- Every orphan with a port has its place, whatever became of the others, and no other server
has changed.
-/
structure Independent (settings : Settings) (calls : Uuid → AllocationCall) (node : Node)
    (db : Database) (rescues : List Rescue) (next : Database)
    : Prop where
  rescued
    : ∀ rescue ∈ rescues, ∀ port, rescue.port = .ok port
      → next.servers.get? rescue.server.id = some ((placeServer node port).apply rescue.server)
        ∧ UsablePort settings (calls rescue.server.id).tests rescue.before rescue.server.flavor
          (some node.id) port
  kept
    : ∀ server ∈ db.servers.rows,
      (∀ rescue ∈ rescues, rescue.server.id = server.id → rescue.succeeded = false)
      → next.servers.get? server.id = some server

def Served (settings : Settings) (calls : Uuid → AllocationCall) (node : Node)
    : List Server → Database → Prop
  | [], _ => True
  | server :: rest, current =>
      ∃ port, (calls server.id).allocate settings node server current = .ok port
        ∧ Served settings calls node rest
          (changeServer server.id (placeServer node port) current)

def FailuresFirst (settings : Settings) (calls : Uuid → AllocationCall) (node : Node)
    (db : Database)
    : List Server → Prop
  | [] => True
  | server :: rest =>
      Served settings calls node (server :: rest) db
        ∨ (∃ failure, (calls server.id).allocate settings node server db = .error failure)
          ∧ FailuresFirst settings calls node db rest

-- One round

variable {settings : Settings} {calls : Uuid → AllocationCall} {node : Node}
variable {db current next : Database} {server : Server} {rest servers : List Server}
variable {rescues : List Rescue}

theorem allocate_ok {call : AllocationCall} {port : Int}
    (given : call.allocate settings node server current = .ok port)
    : allocatePort settings call.tests current server.flavor (some node.id) = .ok port := by
  unfold AllocationCall.allocate at given
  split at given
  · cases given
  · exact given

theorem allocatePort_usable {tests : PortTests} {flavor : ServerFlavor} {nodeId : Option Uuid}
    {port : Int} (given : allocatePort settings tests db flavor nodeId = .ok port)
    : UsablePort settings tests db flavor nodeId port := by
  have valid : validateServerPortPairs db (portRangeFor settings flavor) nodeId = .ok () :=
    (allocatePort_iff.mp ⟨port, given⟩).1
  exact ((allocatePort_ok_iff_isLeast (validateServerPortPairs_ok_iff.mp valid) port).mp given).1

theorem commitServers_rescue {tests : PortTests} {port : Int}
    (unique : UniqueNodePorts current.servers)
    (given : allocatePort settings tests current server.flavor (some node.id) = .ok port)
    : commitServers (changeServer server.id (placeServer node port) current)
      = .ok (changeServer server.id (placeServer node port) current) := by
  refine if_pos (uniqueNodePorts_modify unique ?_)
  intro row _ _ other member _ same
  exact allocatePort_other given member (.inr same.symm)

/-- The rounds of the loop: one that misses goes on from the committed database. -/
inductive Rounds (settings : Settings) (calls : Uuid → AllocationCall) (node : Node)
    (db : Database)
    : List Server → Database → List Rescue → Database → Prop
  | done {current : Database} : Rounds settings calls node db [] current [] current
  | missed {server : Server} {rest : List Server} {current next : Database} {failure : String}
      {rescues : List Rescue}
      : (calls server.id).allocate settings node server current = .error failure
        → Rounds settings calls node db rest db rescues next
        → Rounds settings calls node db (server :: rest) current
            (⟨server, current, .error failure⟩ :: rescues) next
  | given {server : Server} {rest : List Server} {current next : Database} {port : Int}
      {rescues : List Rescue}
      : (calls server.id).allocate settings node server current = .ok port
        → Rounds settings calls node db rest
            (changeServer server.id (placeServer node port) current) rescues next
        → Rounds settings calls node db (server :: rest) current
            (⟨server, current, .ok port⟩ :: rescues) next

/-- The loop goes through its rounds without an exception, by induction on the orphans. -/
theorem rescueEach_rounds (stored : UniqueNodePorts db.servers)
    (unique : UniqueNodePorts current.servers)
    : ∃ rescues next, rescueEach settings calls node db servers current = (rescues, .ok next)
        ∧ Rounds settings calls node db servers current rescues next := by
  induction servers generalizing current with
  | nil => exact ⟨[], current, rfl, .done⟩
  | cons server rest ih =>
      unfold rescueEach
      dsimp only
      cases result : (calls server.id).allocate settings node server current with
      | error failure =>
          obtain ⟨rescues, next, ran, rounds⟩ := ih stored
          simp only [ran]
          exact ⟨_, next, rfl, .missed result rounds⟩
      | ok port =>
          have flushed := commitServers_rescue unique (allocate_ok result)
          obtain ⟨rescues, next, ran, rounds⟩ := ih (commitServers_ok flushed).2
          simp only [flushed, ran]
          exact ⟨_, next, rfl, .given result rounds⟩

-- All rounds

/-- A server that is no orphan has the row of the session or of the committed database, the
latter when a round missed; by induction on the rounds.
-/
theorem Rounds.get?_other (rounds : Rounds settings calls node db servers current rescues next)
    {serverId : Uuid} (other : ∀ server ∈ servers, server.id ≠ serverId)
    : next.servers.get? serverId
      = if rescues.all Rescue.succeeded then current.servers.get? serverId
        else db.servers.get? serverId := by
  induction rounds with
  | done => rfl
  | missed _ _ ih =>
      rw [ih fun server member => other server (List.mem_cons_of_mem _ member), ite_self]
      rfl
  | @given server rest current next port rescues _ _ ih =>
      rw [ih fun server member => other server (List.mem_cons_of_mem _ member)]
      rw [get?_changeServer, if_neg (other server List.mem_cons_self)]
      rfl

/-- Where every round gives a port, every orphan has its place; by induction on the rounds. -/
theorem Rounds.rescued (rounds : Rounds settings calls node db servers current rescues next)
    (distinct : (servers.map Server.id).Nodup)
    (listed : ∀ server ∈ servers, current.servers.get? server.id = some server)
    (all : ∀ rescue ∈ rescues, rescue.succeeded = true)
    : ∀ rescue ∈ rescues, ∀ port, rescue.port = .ok port
      → next.servers.get? rescue.server.id
        = some ((placeServer node port).apply rescue.server) := by
  induction rounds with
  | done => exact fun _ member => absurd member List.not_mem_nil
  | missed _ _ _ => cases all _ List.mem_cons_self
  | @given server rest current next port rescues _ later ih =>
      obtain ⟨fresh, others⟩ := List.nodup_cons.mp distinct
      have apart : ∀ other ∈ rest, other.id ≠ server.id :=
        fun other member same => fresh (same ▸ List.mem_map_of_mem member)
      have following : ∀ rescue ∈ rescues, rescue.succeeded = true :=
        fun rescue member => all rescue (List.mem_cons_of_mem _ member)
      intro rescue member
      rcases List.mem_cons.mp member with rfl | member
      · rintro _ ⟨⟩
        rw [later.get?_other apart, if_pos (List.all_eq_true.mpr following)]
        rw [get?_changeServer, if_pos rfl, listed server List.mem_cons_self]
        rfl
      · refine ih others ?_ following rescue member
        intro other inside
        rw [get?_changeServer, if_neg (Ne.symm (apart other inside))]
        exact listed other (List.mem_cons_of_mem _ inside)

/-- The rounds serve the listed servers, by induction on them. -/
theorem Rounds.serves (rounds : Rounds settings calls node db servers current rescues next)
    : rescues.map Rescue.server = servers := by
  induction rounds with
  | done => rfl
  | missed _ _ ih => exact congrArg _ ih
  | given _ _ ih => exact congrArg _ ih

theorem Rounds.usable (rounds : Rounds settings calls node db servers current rescues next)
    : ∀ rescue ∈ rescues, ∀ port, rescue.port = .ok port
      → UsablePort settings (calls rescue.server.id).tests rescue.before rescue.server.flavor
        (some node.id) port := by
  induction rounds with
  | done => exact fun _ member => absurd member List.not_mem_nil
  | missed _ _ ih =>
      intro rescue member
      rcases List.mem_cons.mp member with rfl | later
      · rintro _ ⟨⟩
      · exact ih rescue later
  | given allocated _ ih =>
      intro rescue member
      rcases List.mem_cons.mp member with rfl | later
      · rintro _ ⟨⟩
        exact allocatePort_usable (allocate_ok allocated)
      · exact ih rescue later

/-- The allocator serves all servers exactly when every round gives a port, by induction on the
rounds.
-/
theorem Rounds.served_iff (rounds : Rounds settings calls node db servers current rescues next)
    : Served settings calls node servers current
      ↔ ∀ rescue ∈ rescues, rescue.succeeded = true := by
  induction rounds with
  | done => exact iff_of_true trivial fun _ member => absurd member List.not_mem_nil
  | missed failed _ _ =>
      refine iff_of_false ?_ fun all => nomatch all _ List.mem_cons_self
      rintro ⟨port, given, _⟩
      cases failed.symm.trans given
  | given allocated _ ih =>
      rw [List.forall_mem_cons, ← ih]
      constructor
      · rintro ⟨port, given, later⟩
        cases allocated.symm.trans given
        exact ⟨rfl, later⟩
      · rintro ⟨_, later⟩
        exact ⟨_, allocated, later⟩

theorem FailuresFirst.rest_of_failed {failure : String}
    (first : FailuresFirst settings calls node db (server :: rest))
    (failed : (calls server.id).allocate settings node server db = .error failure)
    : FailuresFirst settings calls node db rest := by
  rcases first with ⟨_, given, _⟩ | ⟨_, first⟩
  · cases failed.symm.trans given
  · exact first

theorem FailuresFirst.served_of_given {port : Int}
    (first : FailuresFirst settings calls node db (server :: rest))
    (given : (calls server.id).allocate settings node server db = .ok port)
    : Served settings calls node (server :: rest) db := by
  rcases first with served | ⟨⟨_, failed⟩, _⟩
  · exact served
  · cases given.symm.trans failed

section Stored

variable
  (distinct : (servers.map Server.id).Nodup)
  (listed : ∀ server ∈ servers, db.servers.get? server.id = some server)
include distinct listed

/-- With the failures first every orphan with a port has its place, by induction on the
orphans: failures leave the session as it was.
-/
theorem Rounds.rescued_of_first
    (rounds : Rounds settings calls node db servers db rescues next)
    (first : FailuresFirst settings calls node db servers)
    : ∀ rescue ∈ rescues, ∀ port, rescue.port = .ok port
      → next.servers.get? rescue.server.id
        = some ((placeServer node port).apply rescue.server) := by
  induction servers generalizing rescues with
  | nil =>
      cases rounds
      exact fun _ member => absurd member List.not_mem_nil
  | cons server rest ih =>
      cases rounds with
      | missed failed later =>
          have others := ih (List.nodup_cons.mp distinct).2
            (fun other member => listed other (List.mem_cons_of_mem _ member)) later
            (first.rest_of_failed failed)
          intro rescue member port given
          rcases List.mem_cons.mp member with rfl | inside
          · cases given
          · exact others rescue inside port given
      | given allocated later =>
          have rounds := Rounds.given allocated later
          have served := first.served_of_given allocated
          exact rounds.rescued distinct listed (rounds.served_iff.mp served)

/-- With the failures first an orphan without a port is as it was, by induction on the orphans.
-/
theorem Rounds.kept_of_first
    (rounds : Rounds settings calls node db servers db rescues next)
    (first : FailuresFirst settings calls node db servers)
    : ∀ rescue ∈ rescues, rescue.succeeded = false
      → next.servers.get? rescue.server.id = some rescue.server := by
  induction servers generalizing rescues with
  | nil =>
      cases rounds
      exact fun _ member => absurd member List.not_mem_nil
  | cons server rest ih =>
      obtain ⟨fresh, others⟩ := List.nodup_cons.mp distinct
      cases rounds with
      | missed failed later =>
          intro rescue member missed
          rcases List.mem_cons.mp member with rfl | inside
          · have apart : ∀ other ∈ rest, other.id ≠ server.id :=
              fun other member same => fresh (same ▸ List.mem_map_of_mem member)
            rw [later.get?_other apart, ite_self]
            exact listed server List.mem_cons_self
          · exact ih others
              (fun other member => listed other (List.mem_cons_of_mem _ member)) later
              (first.rest_of_failed failed) rescue inside missed
      | given allocated later =>
          have served := first.served_of_given allocated
          intro rescue member missed
          rw [(Rounds.given allocated later).served_iff.mp served rescue member] at missed
          cases missed

/-- A rescue before a failure is lost, so that the failures come first where none is lost; by
induction on the orphans.
-/
theorem Rounds.failuresFirst
    (rounds : Rounds settings calls node db servers db rescues next)
    (strays : ∀ server ∈ servers, server.nodeId ≠ some node.id)
    (rescued
      : ∀ rescue ∈ rescues, ∀ port, rescue.port = .ok port
        → next.servers.get? rescue.server.id
          = some ((placeServer node port).apply rescue.server))
    : FailuresFirst settings calls node db servers := by
  induction servers generalizing rescues with
  | nil => trivial
  | cons server rest ih =>
      obtain ⟨fresh, others⟩ := List.nodup_cons.mp distinct
      cases rounds with
      | missed failed later =>
          refine .inr ⟨⟨_, failed⟩, ih others
            (fun other member => listed other (List.mem_cons_of_mem _ member)) later
            (fun other member => strays other (List.mem_cons_of_mem _ member))
            fun rescue member => rescued rescue (List.mem_cons_of_mem _ member)⟩
      | @given _ _ _ _ port rescues allocated later =>
          have apart : ∀ other ∈ rest, other.id ≠ server.id :=
            fun other member same => fresh (same ▸ List.mem_map_of_mem member)
          have row := rescued _ List.mem_cons_self _ rfl
          rw [later.get?_other apart] at row
          refine .inl ⟨_, allocated, later.served_iff.mpr fun rescue member => ?_⟩
          by_cases all : rescues.all Rescue.succeeded = true
          · exact List.all_eq_true.mp all rescue member
          · rw [if_neg all, listed server List.mem_cons_self] at row
            have placed := congrArg Server.nodeId (Option.some.inj row)
            exact absurd placed (strays server List.mem_cons_self)

end Stored

-- Phase 0

theorem orphanedServers_distinct (db : Database)
    : ((orphanedServers db).map Server.id).Nodup :=
  db.servers.unique.sublist (List.filter_sublist.map _)

theorem orphanedServers_listed : ∀ server ∈ orphanedServers db,
    db.servers.get? server.id = some server :=
  fun _ member => Table.get?_of_mem (List.mem_filter.mp member).1

theorem orphanedServers_stray (hosted : db.nodes.get? node.id = some node)
    (online : node.status = .online)
    : ∀ server ∈ orphanedServers db, server.nodeId ≠ some node.id := by
  intro server member placed
  have orphan := (List.mem_filter.mp member).2
  rw [placed] at orphan
  dsimp only at orphan
  obtain ⟨other, offline, same⟩ := List.mem_map.mp (of_decide_eq_true orphan)
  obtain ⟨stored, status⟩ := List.mem_filter.mp offline
  cases hosted.symm.trans (same ▸ Table.get?_of_mem stored)
  exact of_decide_eq_true status online

/-- The rescues of phase 0 are independent exactly when the orphans that the allocator fails on
come before all those it serves.
-/
theorem rescues_independent_iff (settings : Settings) (calls : Uuid → AllocationCall)
    (unique : UniqueNodePorts db.servers)
    (hosted : db.nodes.get? node.id = some node) (online : node.status = .online)
    : ∃ rescues next, rescueAll settings calls node db = (rescues, .ok next)
        ∧ (Independent settings calls node db rescues next
          ↔ FailuresFirst settings calls node db (orphanedServers db)) := by
  obtain ⟨rescues, next, ran, rounds⟩
      : ∃ rescues next, rescueAll settings calls node db = (rescues, .ok next)
        ∧ Rounds settings calls node db (orphanedServers db) db rescues next :=
    rescueEach_rounds unique unique
  have distinct := orphanedServers_distinct db
  have listed : ∀ server ∈ orphanedServers db, db.servers.get? server.id = some server :=
    orphanedServers_listed
  refine ⟨rescues, next, ran, fun independent => ?_, fun first => ⟨?_, ?_⟩⟩
  · exact rounds.failuresFirst distinct listed (orphanedServers_stray hosted online)
      fun rescue member port given => (independent.rescued rescue member port given).1
  · intro rescue member port given
    exact ⟨rounds.rescued_of_first distinct listed first rescue member port given,
      rounds.usable rescue member port given⟩
  · intro server stored missed
    have found := Table.get?_of_mem stored
    by_cases orphan : ∃ other ∈ orphanedServers db, other.id = server.id
    · obtain ⟨other, member, same⟩ := orphan
      cases Option.some.inj ((listed other member).symm.trans (same ▸ found))
      rw [← rounds.serves] at member
      obtain ⟨rescue, served, own⟩ := List.mem_map.mp member
      rw [← own]
      exact rounds.kept_of_first distinct listed first rescue served
        (missed rescue served (congrArg Server.id own))
    · rw [rounds.get?_other (fun other member same => orphan ⟨other, member, same⟩), ite_self]
      exact found

private def onlineNode : Node where
  id := 1
  name := "n"
  ipAddress := "10.0.0.1"
  status := .online
  statusUpdatedAt := 0

private def orphan (id : Uuid) (flavor : ServerFlavor) : Server where
  id
  flavor
  nodeId := none
  ownerId := 0
  worldName := "w"
  lastActivity := 0

private def withOrphans (first second : ServerFlavor) : Database where
  servers := ⟨[orphan 0 first, orphan 1 second],
    .cons (fun member => nomatch List.mem_singleton.mp member) (List.nodup_singleton _)⟩
  nodes := ⟨[onlineNode], List.nodup_singleton _⟩

private theorem withOrphans_unique (first second : ServerFlavor)
    : UniqueNodePorts (withOrphans first second).servers :=
  .cons (fun _ _ homeless => absurd rfl homeless) (List.pairwise_singleton _ _)

/-- Without Java ports the Bedrock orphan after a Java one gets its place, and the Java one
stays.
-/
theorem bedrock_rescue_after_failed_java
    : ∃ rescues next,
        rescueAll { javaPortRangeEnd := 25564 } (fun _ => {}) onlineNode
          (withOrphans .paper .bedrock) = (rescues, .ok next)
        ∧ Independent { javaPortRangeEnd := 25564 } (fun _ => {}) onlineNode
          (withOrphans .paper .bedrock) rescues next := by
  have hosted : (withOrphans .paper .bedrock).nodes.get? onlineNode.id = some onlineNode := rfl
  obtain ⟨rescues, next, ran, independent⟩ :=
    rescues_independent_iff { javaPortRangeEnd := 25564 } (fun _ => {})
      (withOrphans_unique .paper .bedrock) hosted rfl
  refine ⟨rescues, next, ran, independent.mpr (.inr ⟨?_, .inl ⟨19132, ?_, trivial⟩⟩)⟩
  · exact ⟨_, rfl⟩
  · decide +kernel

/-- With one free pair of ports the first rescue is lost with the failure of the second. -/
theorem failed_rescue_undoes_first
    : ∃ rescues next,
        rescueAll { bedrockPortRangeEnd := 19133 } (fun _ => {}) onlineNode
          (withOrphans .bedrock .bedrock) = (rescues, .ok next)
        ∧ ¬ Independent { bedrockPortRangeEnd := 19133 } (fun _ => {}) onlineNode
          (withOrphans .bedrock .bedrock) rescues next := by
  have stored := withOrphans_unique .bedrock .bedrock
  obtain ⟨rescues, next, ran, rounds⟩
      : ∃ rescues next,
        rescueAll { bedrockPortRangeEnd := 19133 } (fun _ => {}) onlineNode
          (withOrphans .bedrock .bedrock) = (rescues, .ok next)
        ∧ Rounds { bedrockPortRangeEnd := 19133 } (fun _ => {}) onlineNode
          (withOrphans .bedrock .bedrock) [orphan 0 .bedrock, orphan 1 .bedrock]
          (withOrphans .bedrock .bedrock) rescues next :=
    rescueEach_rounds stored stored
  refine ⟨rescues, next, ran, fun independent => ?_⟩
  have first : allocatePort { bedrockPortRangeEnd := 19133 } {} (withOrphans .bedrock .bedrock)
      .bedrock (some 1) = .ok 19132 := by
    decide +kernel
  cases rounds with
  | missed failed _ => cases first.symm.trans failed
  | given allocated later =>
      cases first.symm.trans allocated
      have row := (independent.rescued _ List.mem_cons_self 19132 rfl).1
      cases later with
      | missed _ last =>
          cases last
          cases row
      | given allocated _ =>
          have second : (allocatePort { bedrockPortRangeEnd := 19133 } {}
              (changeServer 0 (placeServer onlineNode 19132) (withOrphans .bedrock .bedrock))
              .bedrock (some 1)).isOk = false := by
            decide +kernel
          cases second.symm.trans (congrArg Except.isOk allocated)

end Blockhost.OrphanRescues
