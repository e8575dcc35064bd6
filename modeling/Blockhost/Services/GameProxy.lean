import Blockhost.Database.Schema
import Mathlib.Logic.Function.Basic

/-! The game proxy: its routing table, its listeners, and the refresh pass that loads the table
anew. A listener for UDP belongs to a protocol object, which lives as long as the listener.
-/

namespace Blockhost.GameProxy

-- Routes

abbrev Port := Int

/-- A row of the routing query: a server with the address of its node. -/
structure RouteRow where
  serverId : Uuid
  proxyPort : Option Port
  vmIpv4 : Option String := none
  vmPort : Int
  flavor : ServerFlavor := .bedrock
  state : ServerState
  nodeIp : Option String := none
deriving DecidableEq, Repr

structure Backend where
  ip : String
  port : Int
deriving DecidableEq, Repr

structure RouteTarget where
  backend : Backend
  flavor : ServerFlavor
  serverId : Uuid
  isSuspended : Bool
deriving DecidableEq, Repr

abbrev RoutingTable := Port → Option RouteTarget

def givenText (text : Option String) : Option String := text.filter (fun text => text ≠ "")

def RouteRow.route (row : RouteRow) : Option (Port × RouteTarget) :=
  if row.state ≠ .running ∧ row.state ≠ .suspended then none
  else
    match row.proxyPort, (givenText row.nodeIp).or (givenText row.vmIpv4) with
    | some proxyPort, some ip =>
        if row.vmPort = 0 ∨ proxyPort = 0 then none
        else
          some (proxyPort,
            { backend := ⟨ip, row.vmPort⟩
              flavor := row.flavor
              serverId := row.serverId
              isSuspended := row.state = .suspended })
    | _, _ => none

/-- `_load_routing_table`; a later row of a port replaces an earlier one. -/
def loadRoutingTable (rows : List RouteRow) : RoutingTable :=
  (rows.filterMap RouteRow.route).foldl
    (fun routes route => Function.update routes route.1 (some route.2)) (fun _ => none)

-- Listeners

inductive Protocol where
  | tcp
  | udp
deriving DecidableEq, Repr

/-- The protocol object of a UDP listener, by its port and the pass that made it. -/
abbrev ProtocolId := Port × Nat

structure Proxy where
  routingTable : RoutingTable := fun _ => none
  tcpServers : Port → Bool := fun _ => false
  udpTransports : Port → Option ProtocolId := fun _ => none
  passes : Nat := 0

/-- What a pass meets: the rows, unless loading them raises, and which binds succeed. -/
structure Pass where
  rows : Option (List RouteRow)
  binds : Port → Protocol → Bool

inductive PortChange where
  | added
  | removed
  | same
deriving DecidableEq, Repr

def portChange (old new : RoutingTable) (port : Port) : PortChange :=
  match (old port).isSome, (new port).isSome with
  | false, true => .added
  | true, false => .removed
  | _, _ => .same

/-- `_start_listeners` and `_stop_listeners` for TCP. -/
def refreshTcp (change : PortChange) (bound listening : Bool) : Bool :=
  match change with
  | .added => listening || bound
  | .removed => false
  | .same => listening

/-- `_start_listeners` and `_stop_listeners` for UDP. -/
def refreshUdp (change : PortChange) (bound : Bool) (fresh : ProtocolId)
    (listening : Option ProtocolId)
    : Option ProtocolId :=
  match change with
  | .added => listening.or (if bound then some fresh else none)
  | .removed => none
  | .same => listening

/-- A pass of `_refresh_loop`, and the start of the proxy. The ports do not depend on each other,
so each is treated on its own; a pass that cannot load the rows changes nothing.
-/
def refresh (pass : Pass) (proxy : Proxy) : Proxy :=
  match pass.rows with
  | none => proxy
  | some rows =>
      let routes := loadRoutingTable rows
      { routingTable := routes
        tcpServers := fun port =>
          refreshTcp (portChange proxy.routingTable routes port) (pass.binds port .tcp)
            (proxy.tcpServers port)
        udpTransports := fun port =>
          refreshUdp (portChange proxy.routingTable routes port) (pass.binds port .udp)
            (port, proxy.passes) (proxy.udpTransports port)
        passes := proxy.passes + 1 }

def Proxy.listens (proxy : Proxy) (port : Port) : Protocol → Bool
  | .tcp => proxy.tcpServers port
  | .udp => (proxy.udpTransports port).isSome

end Blockhost.GameProxy
