import Blockhost.Library.Run
import Blockhost.Services.GameProxy

/-! The UDP traffic of the game proxy. The first datagram of a client opens a session with the
backend of the route it meets; every later one goes to that session, whatever the route says then.
-/

namespace Blockhost.GameProxy

open Library

-- State

abbrev ClientAddr := Nat

/-- A datagram that reached a listener, with the route that the database has for its port. -/
structure Datagram where
  port : Port
  client : ClientAddr
  current : Option RouteTarget
  loaded : Bool
deriving DecidableEq, Repr

/-- A task of `_create_backend_session`; it runs, has returned, or has raised. -/
structure SessionTask where
  protocol : ProtocolId
  client : ClientAddr
  backend : Backend
  returned : Option Bool := none
deriving DecidableEq, Repr

/-- A task of `_forward_new_client`, which soon awaits a session task. -/
structure Forward where
  datagram : Nat
  protocol : ProtocolId
  client : ClientAddr
  backend : Backend
  awaits : Option Nat := none
deriving DecidableEq, Repr

structure Traffic where
  rows : List RouteRow := []
  proxy : Proxy := {}
  clientSessions : ProtocolId → ClientAddr → Option Backend := fun _ _ => none
  sessionTasks : ProtocolId → ClientAddr → Option Nat := fun _ _ => none
  tasks : List SessionTask := []
  forwards : List Forward := []
  received : List Datagram := []
  sent : List (Nat × Backend) := []

-- Events

inductive TrafficEvent where
  | changeRows (rows : List RouteRow)
  | pass (loads : Bool) (binds : Port → Protocol → Bool)
  | receive (port : Port) (client : ClientAddr)
  | begin (datagram : Nat)
  | finish (task : Nat) (opens : Bool)
  | resume (datagram : Nat)
  | connectionLost (protocol : ProtocolId)

def setSession (protocol : ProtocolId) (client : ClientAddr) {Value : Type}
    (value : Option Value) (dict : ProtocolId → ClientAddr → Option Value)
    : ProtocolId → ClientAddr → Option Value :=
  Function.update dict protocol (Function.update (dict protocol) client value)

/-- `datagram_received` -/
def datagramReceived (protocol : ProtocolId) (port : Port) (client : ClientAddr)
    (traffic : Traffic)
    : Traffic :=
  let current := loadRoutingTable traffic.rows port
  let routed := traffic.proxy.routingTable port
  let noted :=
    { traffic with
      received :=
        traffic.received ++ [{ port, client, current, loaded := routed = current }] }
  match routed with
  | none => noted
  | some route =>
      if route.isSuspended then noted
      else
        match traffic.clientSessions protocol client with
        | some backend =>
            { noted with sent := traffic.sent ++ [(traffic.received.length, backend)] }
        | none =>
            { noted with
              forwards :=
                traffic.forwards
                ++ [{ datagram := traffic.received.length, protocol, client,
                      backend := route.backend }] }

def runningTask (protocol : ProtocolId) (client : ClientAddr) (traffic : Traffic)
    : Option Nat :=
  (traffic.sessionTasks protocol client).filter (fun task =>
    (traffic.tasks[task]?).any (fun running => running.returned.isNone))

/-- The forwards after one of them has begun to await a task. -/
def awaiting (datagram index : Nat) (forwards : List Forward) : List Forward :=
  forwards.map (fun other =>
    if other.datagram = datagram then { other with awaits := some index } else other)

/-- `_forward_new_client`, up to where it awaits the session task. -/
def beginForward (forward : Forward) (traffic : Traffic) : Traffic :=
  match runningTask forward.protocol forward.client traffic with
  | some task =>
      { traffic with forwards := awaiting forward.datagram task traffic.forwards }
  | none =>
      let task := traffic.tasks.length
      { traffic with
        tasks :=
          traffic.tasks
          ++ [{ protocol := forward.protocol, client := forward.client,
                backend := forward.backend }]
        sessionTasks := setSession forward.protocol forward.client (some task)
          traffic.sessionTasks
        forwards := awaiting forward.datagram task traffic.forwards }

/-- The end of `_create_backend_session`. A session that exists stays as it is. -/
def finishTask (index : Nat) (task : SessionTask) (opens : Bool) (traffic : Traffic) : Traffic :=
  match traffic.clientSessions task.protocol task.client with
  | some _ =>
      { traffic with tasks := traffic.tasks.set index { task with returned := some true } }
  | none =>
      { traffic with
        tasks := traffic.tasks.set index { task with returned := some opens }
        clientSessions :=
          if opens then
            setSession task.protocol task.client (some task.backend) traffic.clientSessions
          else traffic.clientSessions }

/-- The rest of `_forward_new_client`, once the session task is done. -/
def resumeForward (forward : Forward) (returned : Bool) (traffic : Traffic) : Traffic :=
  let forwards :=
    traffic.forwards.filter (fun other => other.datagram ≠ forward.datagram)
  match returned, traffic.clientSessions forward.protocol forward.client with
  | true, some backend =>
      { traffic with forwards, sent := traffic.sent ++ [(forward.datagram, backend)] }
  | _, _ => { traffic with forwards }

/-- What an event makes of the traffic, if it can happen. -/
def trafficStep (event : TrafficEvent) (traffic : Traffic) : Option Traffic :=
  match event with
  | .changeRows rows => some { traffic with rows }
  | .pass loads binds =>
      some { traffic with
        proxy :=
          refresh { rows := if loads then some traffic.rows else none, binds } traffic.proxy }
  | .receive port client =>
      (traffic.proxy.udpTransports port).map (fun protocol =>
        datagramReceived protocol port client traffic)
  | .begin datagram =>
      (traffic.forwards.find? (fun forward =>
        forward.datagram = datagram && forward.awaits.isNone)).map (fun forward =>
        beginForward forward traffic)
  | .finish index opens =>
      ((traffic.tasks[index]?).filter (fun task => task.returned.isNone)).map (fun task =>
        finishTask index task opens traffic)
  | .resume datagram => do
      let forward ← traffic.forwards.find? (fun forward => forward.datagram = datagram)
      let index ← forward.awaits
      let task ← traffic.tasks[index]?
      let returned ← task.returned
      some (resumeForward forward returned traffic)
  | .connectionLost protocol =>
      if traffic.proxy.udpTransports protocol.1 = some protocol then none
      else
        some { traffic with
          clientSessions := Function.update traffic.clientSessions protocol (fun _ => none)
          sessionTasks := Function.update traffic.sessionTasks protocol (fun _ => none) }

abbrev TrafficRun : Traffic → List TrafficEvent → Traffic → Prop :=
  Run (fun traffic event next => trafficStep event traffic = some next)

-- The law

def sentTo (datagram : Nat) (traffic : Traffic) : List Backend :=
  (traffic.sent.filter (fun entry => entry.1 = datagram)).map Prod.snd

/-- A datagram was sent to a backend, once and nowhere else, or waits for a session. -/
def ForwardedTo (datagram : Nat) (backend : Backend) (traffic : Traffic) : Prop :=
  sentTo datagram traffic = [backend]
  ∨ sentTo datagram traffic = []
    ∧ datagram ∈ traffic.forwards.map Forward.datagram

/-- Each datagram that met the current route of its port goes to the backend of that route. -/
def FollowsRoutes (traffic : Traffic) : Prop :=
  ∀ index datagram route, traffic.received[index]? = some datagram → datagram.loaded = true
    → datagram.current = some route → ForwardedTo index route.backend traffic

/-- All that the protocol object has for a client belongs to one backend. -/
structure HoldsOnly (traffic : Traffic) (protocol : ProtocolId) (client : ClientAddr)
    (backend : Backend)
    : Prop where
  session
    : ∀ other, traffic.clientSessions protocol client = some other → other = backend
  tasks
    : ∀ task ∈ traffic.tasks, task.protocol = protocol → task.client = client
      → task.returned = none → task.backend = backend
  forwards
    : ∀ forward ∈ traffic.forwards, forward.protocol = protocol → forward.client = client
      → forward.backend = backend

/-- The condition of an event: a datagram meets no suspended route, and all that is there for its
client belongs to the backend of the route; sessions can be opened; a listener is closed when no
datagram waits in it.
-/
def Calm (traffic : Traffic) : TrafficEvent → Prop
  | .receive port client =>
      ∀ protocol route, traffic.proxy.udpTransports port = some protocol
        → traffic.proxy.routingTable port = some route
        → (loadRoutingTable traffic.rows port = some route → route.isSuspended = false)
          ∧ (route.isSuspended = false → HoldsOnly traffic protocol client route.backend)
  | .finish _ opens => opens = true
  | .connectionLost protocol => ∀ forward ∈ traffic.forwards, forward.protocol ≠ protocol
  | _ => True

end Blockhost.GameProxy
