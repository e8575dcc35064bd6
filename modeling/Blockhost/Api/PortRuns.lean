import Blockhost.Api.LeastPorts
import Blockhost.Library.Run

/-! Runs of allocations: every port that the allocator gives goes into the row of a new server,
or of a stored one that gets a new place.
-/

namespace Blockhost.PortRuns

open Library

-- Steps

def setPlace (nodeId : Option Uuid) (vmIpv4 : Option String) (port : Int)
    : Change Server.id where
  apply server := { server with nodeId, vmIpv4, vmPort := port }

/-- A server is created with its port, or a stored one gets another. -/
inductive PortEvent where
  | create (server : Server)
  | place (serverId : Uuid) (nodeId : Option Uuid) (vmIpv4 : Option String) (port : Int)

def PortEvent.row (db : Database) : PortEvent → Option Server
  | .create server => some server
  | .place serverId nodeId vmIpv4 port =>
      (db.servers.get? serverId).map (setPlace nodeId vmIpv4 port).apply

inductive PortStep (settings : Settings) (db : Database) : PortEvent → Database → Prop
  | create {server : Server} {tests : PortTests} {servers : Table Server.id}
      : allocatePort settings tests db server.flavor server.nodeId = .ok server.vmPort
        → db.servers.insert? server = some servers
        → PortStep settings db (.create server) { db with servers }
  | place {serverId : Uuid} {nodeId : Option Uuid} {vmIpv4 : Option String} {port : Int}
      {tests : PortTests} {server : Server}
      : db.servers.get? serverId = some server
        → allocatePort settings tests db server.flavor nodeId = .ok port
        → PortStep settings db (.place serverId nodeId vmIpv4 port)
            (changeServer serverId (setPlace nodeId vmIpv4 port) db)

/-- The validation passes, whatever flavor and node an allocation is for. -/
def Accepts (settings : Settings) (db : Database) : Prop :=
  ∀ flavor nodeId, validateServerPortPairs db (portRangeFor settings flavor) nodeId = .ok ()

def Apart (left right : Server) : Prop := ∀ port ∈ left.footprint, port ∉ right.footprint

/-- What the allocation does not look at: the servers of other nodes, and the range of the other
flavor, if the port lies in it too.
-/
structure ClearElsewhere (settings : Settings) (db : Database) (row : Server) : Prop where
  nodes
    : ∀ other ∈ db.servers.rows, other.id ≠ row.id → other.nodeId ≠ row.nodeId
      → other.vmPort ∈ (portRangeFor settings row.flavor).ports → Apart row other
  ranges
    : ∀ flavor, (flavor = .bedrock ↔ row.flavor ≠ .bedrock)
      → row.vmPort ∈ (portRangeFor settings flavor).ports
      → (∀ port ∈ row.footprint, port ≤ (portRangeFor settings flavor).finish)
        ∧ ∀ other ∈ db.servers.rows, other.id ≠ row.id
          → other.vmPort ∈ (portRangeFor settings flavor).ports → Apart row other

/-- The port of an event is clear where the allocation does not look. -/
def ClearEvent (settings : Settings) (db : Database) (event : PortEvent) : Prop :=
  ∀ row, event.row db = some row → ClearElsewhere settings db row

-- What the validation looks at

variable {settings : Settings} {db next : Database} {range : PortRange} {row left right : Server}
variable {event : PortEvent}

theorem vmPort_mem (server : Server) : server.vmPort ∈ server.footprint := by
  unfold Server.footprint portFootprint
  split
  · exact List.mem_cons_self
  · exact List.mem_singleton_self _

theorem Apart.symm (apart : Apart left right) : Apart right left :=
  fun port theirs mine => apart port mine theirs

/-- The rows of a range keep to it and are apart. -/
structure OrderlyRange (range : PortRange) (db : Database) : Prop where
  inside
    : ∀ row ∈ db.servers.rows, row.vmPort ∈ range.ports
      → ∀ port ∈ row.footprint, port ≤ range.finish
  apart
    : ∀ left ∈ db.servers.rows, ∀ right ∈ db.servers.rows, left.id ≠ right.id
      → left.vmPort ∈ range.ports → right.vmPort ∈ range.ports → Apart left right

theorem mem_serversInRange {nodeId : Option Uuid}
    : row ∈ serversInRange db range nodeId
      ↔ row ∈ db.servers.rows ∧ row.vmPort ∈ range.ports
        ∧ (nodeId = none ∨ row.nodeId = nodeId) := by
  unfold serversInRange
  rw [List.mem_filter, mem_ports_iff]
  simp only [Bool.and_eq_true, Bool.or_eq_true, decide_eq_true_eq, Option.isNone_iff_eq_none]

theorem orderlyPorts_of_range (orderly : OrderlyRange range db) (nodeId : Option Uuid)
    : OrderlyPorts range (serversInRange db range nodeId) := by
  refine ⟨?_, ?_⟩
  · intro row listed
    obtain ⟨stored, ported, _⟩ := mem_serversInRange.mp listed
    exact orderly.inside row stored ported
  · have distinct : db.servers.rows.Pairwise (fun left right => left.id ≠ right.id) :=
      List.pairwise_map.mp db.servers.unique
    refine (distinct.filter _).imp_of_mem ?_
    intro left right leftListed rightListed different
    obtain ⟨leftStored, leftPorted, _⟩ := mem_serversInRange.mp leftListed
    obtain ⟨rightStored, rightPorted, _⟩ := mem_serversInRange.mp rightListed
    exact orderly.apart left leftStored right rightStored different leftPorted rightPorted

theorem range_of_orderlyPorts (orderly : OrderlyPorts range (serversInRange db range none))
    : OrderlyRange range db := by
  have listed {row : Server} (stored : row ∈ db.servers.rows) (ported : row.vmPort ∈ range.ports)
      : row ∈ serversInRange db range none :=
    mem_serversInRange.mpr ⟨stored, ported, .inl rfl⟩
  refine ⟨fun row stored ported => orderly.inside row (listed stored ported), ?_⟩
  intro left leftStored right rightStored different leftPorted rightPorted
  have symmetric : Std.Symm (fun left right : Server =>
      ∀ port ∈ left.footprint, port ∉ right.footprint) :=
    ⟨fun _ _ apart => Apart.symm apart⟩
  exact List.Pairwise.forall orderly.apart (listed leftStored leftPorted)
    (listed rightStored rightPorted) (fun same => different (congrArg Server.id same))

theorem accepts_iff
    : Accepts settings db ↔ ∀ flavor, OrderlyRange (portRangeFor settings flavor) db := by
  unfold Accepts
  simp only [validateServerPortPairs_ok_iff]
  exact ⟨fun accepts flavor => range_of_orderlyPorts (accepts flavor none),
    fun orderly flavor nodeId => orderlyPorts_of_range (orderly flavor) nodeId⟩

-- What a step leaves

theorem PortStep.leaves (taken : PortStep settings db event next)
    : ∃ row, event.row db = some row
        ∧ (∃ tests, allocatePort settings tests db row.flavor row.nodeId = .ok row.vmPort)
        ∧ ∀ other, other ∈ next.servers.rows
          ↔ other = row ∨ other ∈ db.servers.rows ∧ other.id ≠ row.id := by
  cases taken with
  | @create server tests servers allocated added =>
      obtain ⟨fresh, rfl⟩ := Table.insert?_some added
      refine ⟨server, rfl, ⟨tests, allocated⟩, fun other => ?_⟩
      rw [Table.rows_insert, List.mem_append, List.mem_singleton, or_comm]
      refine or_congr_right (iff_self_and.mpr fun stored same => ?_)
      exact fresh (same ▸ List.mem_map_of_mem stored)
  | @place serverId nodeId vmIpv4 port tests server stored allocated =>
      obtain ⟨member, rfl⟩ := Table.get?_some stored
      refine ⟨(setPlace nodeId vmIpv4 port).apply server, ?_, ⟨tests, allocated⟩,
        fun other => ?_⟩
      · simp only [PortEvent.row, stored, Option.map_some]
      · unfold changeServer
        rw [Table.rows_modify, List.mem_map]
        constructor
        · rintro ⟨old, known, rfl⟩
          by_cases same : old.id = server.id
          · cases db.servers.eq_of_key_eq known member same
            exact .inl (if_pos rfl)
          · rw [if_neg same]
            exact .inr ⟨known, same⟩
        · rintro (rfl | ⟨known, different⟩)
          · exact ⟨server, member, if_pos rfl⟩
          · exact ⟨other, known, if_neg different⟩

theorem allocated_apart {tests : PortTests}
    (allocated : allocatePort settings tests db row.flavor row.nodeId = .ok row.vmPort)
    : (∀ port ∈ row.footprint, port ≤ (portRangeFor settings row.flavor).finish)
      ∧ ∀ other ∈ db.servers.rows, row.nodeId = none ∨ other.nodeId = row.nodeId
        → other.vmPort ∈ (portRangeFor settings row.flavor).ports → Apart row other := by
  obtain ⟨low, clear⟩ := allocatePort_ok allocated
  refine ⟨fun port mine => (clear port mine).1, ?_⟩
  intro other stored placed ported port mine theirs
  obtain ⟨high, free⟩ := clear port mine
  exact free (reserved_of_footprint stored placed (mem_ports ported).1 theirs high)

theorem orderlyRange_step_iff (orderly : OrderlyRange range db)
    (rows : ∀ other, other ∈ next.servers.rows
      ↔ other = row ∨ other ∈ db.servers.rows ∧ other.id ≠ row.id)
    : OrderlyRange range next
      ↔ (row.vmPort ∈ range.ports
        → (∀ port ∈ row.footprint, port ≤ range.finish)
          ∧ ∀ other ∈ db.servers.rows, other.id ≠ row.id → other.vmPort ∈ range.ports
            → Apart row other) := by
  have own : row ∈ next.servers.rows := (rows row).mpr (.inl rfl)
  constructor
  · rintro ⟨inside, apart⟩ ported
    refine ⟨inside row own ported, fun other stored different otherPorted => ?_⟩
    exact apart row own other ((rows other).mpr (.inr ⟨stored, different⟩)) different.symm ported
      otherPorted
  · intro clear
    refine ⟨?_, ?_⟩
    · intro other stored ported
      rcases (rows other).mp stored with rfl | ⟨old, _⟩
      · exact (clear ported).1
      · exact orderly.inside other old ported
    · intro left leftStored right rightStored different leftPorted rightPorted
      rcases (rows left).mp leftStored with rfl | ⟨leftOld, leftOther⟩
      · rcases (rows right).mp rightStored with rfl | ⟨rightOld, rightOther⟩
        · exact absurd rfl different
        · exact (clear leftPorted).2 right rightOld rightOther rightPorted
      · rcases (rows right).mp rightStored with rfl | ⟨rightOld, _⟩
        · exact ((clear rightPorted).2 left leftOld leftOther leftPorted).symm
        · exact orderly.apart left leftOld right rightOld different leftPorted rightPorted

theorem accepts_step_iff (accepts : Accepts settings db)
    (taken : PortStep settings db event next)
    : Accepts settings next ↔ ClearEvent settings db event := by
  obtain ⟨row, left, ⟨tests, allocated⟩, rows⟩ := taken.leaves
  obtain ⟨inside, apart⟩ := allocated_apart allocated
  have orderly := accepts_iff.mp accepts
  have clear : ClearEvent settings db event ↔ ClearElsewhere settings db row := by
    unfold ClearEvent
    rw [left]
    exact ⟨fun clear => clear row rfl, fun clear other same => Option.some.inj same ▸ clear⟩
  rw [clear, accepts_iff]
  simp only [orderlyRange_step_iff (orderly _) rows]
  constructor
  · intro kept
    refine ⟨?_, fun flavor _ => kept flavor⟩
    intro other stored different _ ported
    have own : row.vmPort ∈ (portRangeFor settings row.flavor).ports :=
      mem_ports_iff.mpr ⟨(allocatePort_ok allocated).1, inside row.vmPort (vmPort_mem row)⟩
    exact (kept row.flavor own).2 other stored different ported
  · intro elsewhere flavor ported
    by_cases same : flavor = .bedrock ↔ row.flavor = .bedrock
    · have ranges : portRangeFor settings flavor = portRangeFor settings row.flavor := by
        unfold portRangeFor
        simp only [same]
      rw [ranges] at ported ⊢
      refine ⟨inside, fun other stored different otherPorted => ?_⟩
      by_cases placed : other.nodeId = row.nodeId
      · exact apart other stored (.inr placed) otherPorted
      · exact elsewhere.nodes other stored different placed otherPorted
    · exact elsewhere.ranges flavor (by tauto) ported

-- Runs

theorem PortStep.decided {after other : Database} (first : PortStep settings db event after)
    (second : PortStep settings db event other)
    : after = other := by
  cases first with
  | create allocated added =>
      cases second with
      | create again addedAgain => rw [Option.some.inj (added.symm.trans addedAgain)]
  | place stored allocated =>
      cases second with
      | place => rfl

theorem accepts_empty (empty : db.servers.rows = []) : Accepts settings db := by
  rw [accepts_iff]
  intro flavor
  refine ⟨?_, ?_⟩
  · intro row stored
    rw [empty] at stored
    cases stored
  · intro left stored
    rw [empty] at stored
    cases stored

/-- From a database without servers the validation passes in every state that a run comes through
exactly when every event of the run is clear; by induction on the run.
-/
theorem validation_passes_iff {events : List PortEvent} {start finish : Database}
    (empty : start.servers.rows = []) (run : Run (PortStep settings) start events finish)
    : (∀ earlier later, events = earlier ++ later → ∀ reached,
        Run (PortStep settings) start earlier reached → Accepts settings reached)
      ↔ ∀ earlier event later, events = earlier ++ event :: later → ∀ reached,
        Run (PortStep settings) start earlier reached → ClearEvent settings reached event := by
  exact run.throughout_iff (fun _ => True) (Accepts settings) (ClearEvent settings)
    (fun _ _ _ _ taken => taken.decided) (fun _ _ _ _ _ => trivial)
    (fun _ _ _ taken _ accepted => accepts_step_iff accepted taken) trivial (accepts_empty empty)

private def bedrockServer (id nodeId : Uuid) (vmPort : Int) : Server where
  id
  nodeId := some nodeId
  ownerId := 0
  worldName := "w"
  vmPort
  lastActivity := 0

private def storing (servers : List Server) (unique : (servers.map Server.id).Nodup)
    : Database where
  servers := ⟨servers, unique⟩

private theorem creates (servers : List Server) (unique : (servers.map Server.id).Nodup)
    (server : Server) (fresh : server.id ∉ servers.map Server.id)
    (allocated
      : allocatePort {} {} (storing servers unique) server.flavor server.nodeId
        = .ok server.vmPort)
    : ∃ unique', PortStep {} (storing servers unique) (.create server)
        (storing (servers ++ [server]) unique') := by
  have added := (storing servers unique).servers.insert?_fresh server fresh
  exact ⟨_, .create allocated added⟩

private theorem clear_on_one_node (bedrock : row.flavor = .bedrock) (low : row.vmPort < 25565)
    (alone : ∀ other ∈ db.servers.rows, other.nodeId = row.nodeId)
    : ClearElsewhere {} db row := by
  refine ⟨fun other stored _ elsewhere => absurd (alone other stored) elsewhere, ?_⟩
  intro flavor differs ported
  have java : portRangeFor {} flavor = ⟨25565, 25665⟩ :=
    if_neg (fun same => differs.mp same bedrock)
  rw [java] at ported
  have bound : (25565 : Int) ≤ row.vmPort := (mem_ports ported).1
  omega

/-- Two servers of one node, each with its ports. -/
theorem servers_of_one_node_pass
    : ∃ events finish, Run (PortStep {}) {} events finish ∧ finish.servers.rows.length = 2
        ∧ Accepts {} finish := by
  obtain ⟨_, first⟩ := creates [] List.nodup_nil (bedrockServer 0 1 19132) List.not_mem_nil
    (by decide +kernel)
  obtain ⟨_, second⟩ := creates [bedrockServer 0 1 19132] (List.nodup_singleton _)
    (bedrockServer 1 1 19134) (by decide) (by decide +kernel)
  have run : Run (PortStep {}) {} _ _ := (Run.single first).next second
  refine ⟨_, _, run, rfl, ?_⟩
  refine (validation_passes_iff rfl run).mpr ?_ _ [] (List.append_nil _).symm _ run
  intro earlier event later same reached before row left
  rcases earlier with _ | ⟨created, _ | ⟨again, rest⟩⟩
  · cases same
    cases left
    rw [before.nil_eq]
    exact clear_on_one_node rfl (by decide) (fun _ stored => absurd stored List.not_mem_nil)
  · cases same
    cases left
    cases before.unique (fun _ _ _ _ taken => taken.decided) (Run.single first)
    refine clear_on_one_node rfl (by decide) ?_
    intro other stored
    rw [List.mem_singleton.mp stored]
    rfl
  · cases rest <;> cases same

/-- A server on each of two nodes, both with the first port of the range. -/
theorem servers_of_two_nodes_do_not_pass
    : ∃ events finish, Run (PortStep {}) {} events finish ∧ ¬ Accepts {} finish := by
  obtain ⟨_, first⟩ := creates [] List.nodup_nil (bedrockServer 0 1 19132) List.not_mem_nil
    (by decide +kernel)
  obtain ⟨_, second⟩ := creates [bedrockServer 0 1 19132] (List.nodup_singleton _)
    (bedrockServer 1 2 19132) (by decide) (by decide +kernel)
  refine ⟨_, _, (Run.single first).next second, fun accepts => ?_⟩
  have orderly := accepts_iff.mp accepts .bedrock
  have ported : 19132 ∈ (portRangeFor {} .bedrock).ports := mem_ports_iff.mpr (by decide)
  have apart : Apart (bedrockServer 0 1 19132) (bedrockServer 1 2 19132) :=
    orderly.apart _ List.mem_cons_self _ (List.mem_cons_of_mem _ List.mem_cons_self) (by decide)
      ported ported
  exact apart 19132 (vmPort_mem _) (vmPort_mem _)

end Blockhost.PortRuns
