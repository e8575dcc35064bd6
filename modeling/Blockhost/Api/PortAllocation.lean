import Blockhost.Config.Settings
import Blockhost.Database.Identifiers

/-! Allocation of a server's port on a node. A Bedrock server uses its port and the next one, a
Java server its port alone; an allocated port keeps clear of the servers that the node already
has.
-/

namespace Blockhost

open Library

structure PortRange where
  start : Int
  finish : Int

def PortRange.ports (range : PortRange) : List Int :=
  (List.range (range.finish + 1 - range.start).toNat).map
    (fun (offset : Nat) => range.start + offset)

/-- Whether the host lets a process bind a port. -/
structure PortTests where
  udpFree : Int → Bool := fun _ => true
  tcpFree : Int → Bool := fun _ => true

def pickFreeUdpPort (tests : PortTests) (range : PortRange) (usedPorts : List Int)
    : Except String Int :=
  if range.finish < range.start then .error "Invalid port range"
  else
    match range.ports.find? (fun port =>
        port + 1 ≤ range.finish && port ∉ usedPorts && port + 1 ∉ usedPorts
        && tests.udpFree port && tests.udpFree (port + 1)) with
    | none => .error "No free UDP ports available in configured range"
    | some port => .ok port

def pickFreeTcpPort (tests : PortTests) (range : PortRange) (usedPorts : List Int)
    : Except String Int :=
  if range.finish < range.start then .error "Invalid port range"
  else
    match range.ports.find? (fun port => port ∉ usedPorts && tests.tcpFree port) with
    | none => .error "No free TCP ports available in configured range"
    | some port => .ok port

def serversInRange (db : Database) (range : PortRange) (nodeId : Option Uuid) : List Server :=
  db.servers.rows.filter (fun server =>
    (range.start ≤ server.vmPort && server.vmPort ≤ range.finish)
    && (nodeId.isNone || server.nodeId = nodeId))

def collectReservedPorts (db : Database) (range : PortRange) (nodeId : Option Uuid)
    : List Int :=
  (serversInRange db range nodeId).flatMap (fun server =>
    if server.flavor = .bedrock && server.vmPort + 1 ≤ range.finish then
      [server.vmPort, server.vmPort + 1]
    else [server.vmPort])

/-- The complaints about the port of one server. -/
def portErrors (range : PortRange) (server : Server) : List String :=
  (if server.vmPort < range.start || range.finish < server.vmPort then
    ["Server " ++ uuidText server.id ++ " has vm_port=" ++ toString server.vmPort
      ++ " outside configured range " ++ toString range.start ++ "-"
      ++ toString range.finish]
  else [])
  ++ (if server.flavor = .bedrock && range.finish < server.vmPort + 1 then
    ["Server " ++ uuidText server.id ++ " has vm_port=" ++ toString server.vmPort
      ++ " with invalid server-portv6=" ++ toString (server.vmPort + 1)
      ++ " beyond range end " ++ toString range.finish]
  else [])

def portClaims (range : PortRange) (server : Server) : List (Int × Uuid) :=
  let ports :=
    if server.flavor = .bedrock then [server.vmPort, server.vmPort + 1] else [server.vmPort]
  (ports.filter (fun port => port ≤ range.finish)).map (fun port => (port, server.id))

def validateServerPortPairs (db : Database) (range : PortRange) (nodeId : Option Uuid)
    : Except String Unit :=
  let servers := serversInRange db range nodeId
  let claims := servers.flatMap (portClaims range)
  let shared :=
    (claims.map Prod.fst).eraseDups.filterMap (fun port =>
      let holders := (claims.filter (fun claim => claim.1 = port)).map Prod.snd
      if 1 < holders.length then
        some ("Port " ++ toString port ++ " is reserved by multiple servers: "
          ++ ", ".intercalate (holders.map uuidText))
      else none)
  match servers.flatMap (portErrors range) ++ shared with
  | [] => .ok ()
  | errors => .error ("Invalid port assignments: " ++ "; ".intercalate errors)

def bedrockPortRange (settings : Settings) : PortRange :=
  ⟨settings.bedrockPortRangeStart, settings.bedrockPortRangeEnd⟩

def javaPortRange (settings : Settings) : PortRange :=
  ⟨settings.javaPortRangeStart, settings.javaPortRangeEnd⟩

def portRangeFor (settings : Settings) (flavor : ServerFlavor) : PortRange :=
  if flavor = .bedrock then bedrockPortRange settings else javaPortRange settings

def allocatePort (settings : Settings) (tests : PortTests) (db : Database)
    (flavor : ServerFlavor) (nodeId : Option Uuid)
    : Except String Int := do
  let range := portRangeFor settings flavor
  validateServerPortPairs db range nodeId
  let used := collectReservedPorts db range nodeId
  if flavor = .bedrock then pickFreeUdpPort tests range used
  else pickFreeTcpPort tests range used

/-- The ports that a server occupies on its node. -/
def portFootprint (flavor : ServerFlavor) (port : Int) : List Int :=
  if flavor = .bedrock then [port, port + 1] else [port]

def Server.footprint (server : Server) : List Int := portFootprint server.flavor server.vmPort

/-- The one neighbour that no query sees: an allocation gives the first port of its range, which
a Bedrock server of the node uses whose own port lies just below the range.
-/
def HiddenNeighbour (settings : Settings) (tests : PortTests) (db : Database)
    (flavor : ServerFlavor) (nodeId : Uuid)
    : Prop :=
  allocatePort settings tests db flavor (some nodeId) = .ok (portRangeFor settings flavor).start
  ∧ ∃ other ∈ db.servers.rows, other.nodeId = some nodeId ∧ other.flavor = .bedrock
    ∧ other.vmPort + 1 = (portRangeFor settings flavor).start

theorem mem_ports {range : PortRange} {port : Int} (member : port ∈ range.ports)
    : range.start ≤ port ∧ port ≤ range.finish := by
  obtain ⟨offset, bound, rfl⟩ := List.mem_map.mp member
  have below := List.mem_range.mp bound
  omega

theorem ports_eq_nil {range : PortRange} (empty : range.finish < range.start)
    : range.ports = [] := by
  rw [List.eq_nil_iff_forall_not_mem]
  intro port member
  have bounds := mem_ports member
  omega

theorem pickFreeUdpPort_ok_iff {tests : PortTests} {range : PortRange} {used : List Int}
    {port : Int}
    : pickFreeUdpPort tests range used = .ok port
      ↔ range.ports.find? (fun port =>
          port + 1 ≤ range.finish && port ∉ used && port + 1 ∉ used
          && tests.udpFree port && tests.udpFree (port + 1)) = some port := by
  unfold pickFreeUdpPort
  split
  · rename_i empty
    rw [ports_eq_nil empty]
    exact iff_of_false nofun nofun
  · split
    · rename_i none
      exact iff_of_false nofun (by rw [none]; exact nofun)
    · rename_i found some_
      rw [some_, Except.ok.injEq, Option.some.injEq]

theorem pickFreeTcpPort_ok_iff {tests : PortTests} {range : PortRange} {used : List Int}
    {port : Int}
    : pickFreeTcpPort tests range used = .ok port
      ↔ range.ports.find? (fun port => port ∉ used && tests.tcpFree port) = some port := by
  unfold pickFreeTcpPort
  split
  · rename_i empty
    rw [ports_eq_nil empty]
    exact iff_of_false nofun nofun
  · split
    · rename_i none
      exact iff_of_false nofun (by rw [none]; exact nofun)
    · rename_i found some_
      rw [some_, Except.ok.injEq, Option.some.injEq]

theorem pickFreeUdpPort_ok {tests : PortTests} {range : PortRange} {used : List Int}
    {port : Int} (picked : pickFreeUdpPort tests range used = .ok port)
    : range.start ≤ port ∧ port + 1 ≤ range.finish ∧ port ∉ used ∧ port + 1 ∉ used := by
  rw [pickFreeUdpPort_ok_iff] at picked
  have bounds := mem_ports (List.mem_of_find?_eq_some picked)
  have test := List.find?_some picked
  simp only [Bool.and_eq_true, decide_eq_true_eq] at test
  exact ⟨bounds.1, test.1.1.1.1, test.1.1.1.2, test.1.1.2⟩

theorem pickFreeTcpPort_ok {tests : PortTests} {range : PortRange} {used : List Int}
    {port : Int} (picked : pickFreeTcpPort tests range used = .ok port)
    : range.start ≤ port ∧ port ≤ range.finish ∧ port ∉ used := by
  rw [pickFreeTcpPort_ok_iff] at picked
  have bounds := mem_ports (List.mem_of_find?_eq_some picked)
  have test := List.find?_some picked
  simp only [Bool.and_eq_true, decide_eq_true_eq] at test
  exact ⟨bounds.1, bounds.2, test.1⟩

theorem allocatePort_ok {settings : Settings} {tests : PortTests} {db : Database}
    {flavor : ServerFlavor} {nodeId : Option Uuid} {port : Int}
    (allocated : allocatePort settings tests db flavor nodeId = .ok port)
    : (portRangeFor settings flavor).start ≤ port
      ∧ (∀ taken ∈ portFootprint flavor port,
        taken ≤ (portRangeFor settings flavor).finish
        ∧ taken ∉ collectReservedPorts db (portRangeFor settings flavor) nodeId) := by
  unfold allocatePort at allocated
  simp only [bind, Except.bind] at allocated
  split at allocated
  · cases allocated
  · split at allocated
    · rename_i bedrock
      obtain ⟨low, high, free, next⟩ := pickFreeUdpPort_ok allocated
      refine ⟨low, ?_⟩
      intro taken member
      rw [portFootprint, if_pos bedrock] at member
      rcases List.mem_cons.mp member with rfl | member
      · exact ⟨by omega, free⟩
      · cases List.mem_singleton.mp member
        exact ⟨high, next⟩
    · rename_i java
      obtain ⟨low, high, free⟩ := pickFreeTcpPort_ok allocated
      refine ⟨low, ?_⟩
      intro taken member
      rw [portFootprint, if_neg java] at member
      cases List.mem_singleton.mp member
      exact ⟨high, free⟩

theorem le_of_mem_portFootprint {flavor : ServerFlavor} {port taken : Int}
    (member : taken ∈ portFootprint flavor port)
    : port ≤ taken := by
  unfold portFootprint at member
  split at member <;> simp at member <;> omega

theorem reserved_of_footprint {db : Database} {range : PortRange} {nodeId : Option Uuid}
    {server : Server} (member : server ∈ db.servers.rows)
    (placed : nodeId = none ∨ server.nodeId = nodeId) (low : range.start ≤ server.vmPort)
    {port : Int} (occupied : port ∈ server.footprint) (high : port ≤ range.finish)
    : port ∈ collectReservedPorts db range nodeId := by
  have bound : server.vmPort ≤ port := le_of_mem_portFootprint occupied
  refine List.mem_flatMap.mpr ⟨server, ?_, ?_⟩
  · refine List.mem_filter.mpr ⟨member, ?_⟩
    have top : server.vmPort ≤ range.finish := by omega
    rcases placed with rfl | same
    · simp [low, top]
    · simp [low, top, same]
  · unfold Server.footprint portFootprint at occupied
    split at occupied
    · rename_i bedrock
      rcases List.mem_cons.mp occupied with rfl | next
      · split <;> simp
      · cases List.mem_singleton.mp next
        simp [bedrock, high]
    · rename_i java
      simpa [java] using occupied

theorem allocatePort_disjoint {settings : Settings} {tests : PortTests} {db : Database}
    {flavor : ServerFlavor} {nodeId : Uuid} {port : Int} {other : Server}
    (allocated : allocatePort settings tests db flavor (some nodeId) = .ok port)
    (member : other ∈ db.servers.rows) (placed : other.nodeId = some nodeId)
    (visible : ¬ HiddenNeighbour settings tests db flavor nodeId)
    : ∀ taken ∈ portFootprint flavor port, taken ∉ other.footprint := by
  obtain ⟨low, clear⟩ := allocatePort_ok allocated
  intro taken mine theirs
  obtain ⟨high, free⟩ := clear taken mine
  by_cases below : (portRangeFor settings flavor).start ≤ other.vmPort
  · exact free (reserved_of_footprint member (.inr placed) below theirs high)
  · have lower := le_of_mem_portFootprint mine
    unfold Server.footprint portFootprint at theirs
    split at theirs
    · rename_i bedrock
      simp only [List.mem_cons, List.not_mem_nil, or_false] at theirs
      have first : port = (portRangeFor settings flavor).start := by omega
      have next : other.vmPort + 1 = (portRangeFor settings flavor).start := by omega
      exact visible ⟨by rw [← first]; exact allocated, other, member, placed, bedrock, next⟩
    · simp only [List.mem_singleton] at theirs
      omega

end Blockhost
