import Blockhost.Orchestrator.FleetHandlers

/-! Protocols of the handlers: a handler keeps to a protocol in every state of it when each of its
actions is permitted there. The handlers that start, stop and migrate servers and those of the
nodes are taken apart once, for every protocol that leaves their plain actions alone.
-/

namespace Blockhost.ControlPlane

open Library

variable {State Result Later : Type}
variable {advance : State → (action : FleetAction) → FleetAnswer action → State}
variable {permits : State → FleetAction → Prop}

/-- A program keeps to the protocol in every state. -/
def AlwaysFollows (advance : State → (action : FleetAction) → FleetAnswer action → State)
    (permits : State → FleetAction → Prop) (program : Handler Result)
    : Prop :=
  ∀ state, program.Follows advance permits state

namespace AlwaysFollows

theorem bind {first : Handler Result} {second : Result → Handler Later}
    (before : AlwaysFollows advance permits first)
    (after : ∀ result, AlwaysFollows advance permits (second result))
    : AlwaysFollows advance permits (first >>= second) :=
  fun state => (before state).bind (fun result state => after result state)

theorem handle {first : Handler Result} {handler : Raised → Handler Result}
    (before : AlwaysFollows advance permits first)
    (after : ∀ failure, AlwaysFollows advance permits (handler failure))
    : AlwaysFollows advance permits (tryCatch first handler) :=
  fun state => (before state).handle (fun failure state => after failure state)

theorem pure (result : Result) : AlwaysFollows advance permits (pure result : Handler Result) :=
  fun _ => trivial

theorem throw (failure : Raised)
    : AlwaysFollows advance permits (throw failure : Handler Result) :=
  fun _ => trivial

theorem ask {action : FleetAction} (permitted : ∀ state, permits state action)
    : AlwaysFollows advance permits (ask action) :=
  fun state => ⟨permitted state, fun _ => trivial⟩

theorem raising (outcome : Except Raised Result)
    : AlwaysFollows advance permits (raising outcome) := by
  cases outcome with
  | error failure => exact throw failure
  | ok result => exact pure result

theorem existing (row : Option Result) : AlwaysFollows advance permits (existing row) := by
  cases row with
  | none => exact throw .exception
  | some row => exact pure row

theorem andThen {action : FleetAction} {second : FleetAnswer action → Handler Result}
    (permitted : ∀ state, permits state action)
    (after : ∀ answer, AlwaysFollows advance permits (second answer))
    : AlwaysFollows advance permits (ControlPlane.ask action >>= second) :=
  (ask permitted).bind after

theorem andRaise {action : FleetAction} {outcome : FleetAnswer action → Except Raised Later}
    {second : Later → Handler Result} (permitted : ∀ state, permits state action)
    (after : ∀ result, AlwaysFollows advance permits (second result))
    : AlwaysFollows advance permits (ControlPlane.ask action >>= fun answer =>
        ControlPlane.raising (outcome answer) >>= second) :=
  (ask permitted).bind (fun _ => (raising _).bind after)

theorem andExist {action : FleetAction} {row : FleetAnswer action → Option Later}
    {second : Later → Handler Result} (permitted : ∀ state, permits state action)
    (after : ∀ found, AlwaysFollows advance permits (second found))
    : AlwaysFollows advance permits (ControlPlane.ask action >>= fun answer =>
        ControlPlane.existing (row answer) >>= second) :=
  (ask permitted).bind (fun _ => (existing _).bind after)

theorem ite {condition : Prop} [Decidable condition] {yes no : Handler Result}
    (first : AlwaysFollows advance permits yes) (second : AlwaysFollows advance permits no)
    : AlwaysFollows advance permits (if condition then yes else no) := by
  split
  · exact first
  · exact second

end AlwaysFollows

/-- The actions that no protocol is about: all but the mark of a started server and what the
rebalancer does with the nodes that it has listed.
-/
def Plain : FleetAction → Prop
  | .finishStart _ => False
  | .rescueOrphans _ | .rescueDeployments _ => False
  | .consolidation _ | .overflow _ | .reassign .. | .shutDown .. => False
  | _ => True

/-- What a protocol needs for all handlers but the rebalancer to keep to it. -/
structure ServesHandlers (advance : State → (action : FleetAction) → FleetAnswer action → State)
    (permits : State → FleetAction → Prop)
    : Prop where
  plain : ∀ {action : FleetAction}, Plain action → ∀ state, permits state action
  launch
    : ∀ router serverId, AlwaysFollows advance permits (startServerProcess router serverId)

variable (serves : ServesHandlers advance permits)

include serves

-- Starts and stops

section Servers

variable {site : Site} {router : Router} {serverId : Uuid} {server : Server} {user : User}

theorem follows_isRunning : AlwaysFollows advance permits (isRunning router serverId) :=
  .andThen (serves.plain trivial) (fun nodeId => by
    cases nodeId with
    | none => exact .pure false
    | some nodeId => exact .ask (serves.plain trivial))

theorem follows_stopServerProcess
    : AlwaysFollows advance permits (stopServerProcess router serverId) :=
  .andThen (serves.plain trivial) (fun nodeId => by
    cases nodeId with
    | none => exact .ask (serves.plain trivial)
    | some nodeId =>
        exact .andThen (serves.plain trivial) (fun _ =>
          .ite (.ask (serves.plain trivial)) (.throw .exception)))

theorem follows_findNode : AlwaysFollows advance permits (findNode site server) :=
  .andRaise (serves.plain trivial) (fun assigned =>
    .ite (.andThen (serves.plain trivial) (fun woken => .throw (noCapacity woken)))
      (.pure assigned))

theorem follows_launchServer : AlwaysFollows advance permits (launchServer router server) :=
  .handle (.andThen (serves.plain trivial) (fun _ => serves.launch _ _))
    (fun failure => by cases failure <;> exact .throw _)

theorem follows_prepareAndLaunch
    : AlwaysFollows advance permits (prepareAndLaunch router server) :=
  .andRaise (serves.plain trivial) (fun _ =>
    .andThen (serves.plain trivial) (fun _ => follows_launchServer serves))

theorem follows_doStartServer
    : AlwaysFollows advance permits (doStartServer site router server) := by
  have launches (assigned detached : Bool)
      : AlwaysFollows advance permits (if (detached || assigned) = true then do
            let server ← existing (← ask (.loadServer server.id))
            prepareAndLaunch router server
          else prepareAndLaunch router server) :=
    .ite (.andExist (serves.plain trivial) (fun _ => follows_prepareAndLaunch serves))
      (follows_prepareAndLaunch serves)
  refine .andRaise (serves.plain trivial) (fun check => ?_)
  exact .ite ((AlwaysFollows.pure false).bind (fun assigned => launches assigned _))
    ((follows_findNode serves).bind (fun assigned => launches assigned _))

theorem follows_startOrConflict
    : AlwaysFollows advance permits (startOrConflict site server) :=
  (follows_doStartServer serves).handle (fun failure => by cases failure <;> exact .throw _)

theorem follows_refreshServerNode
    : AlwaysFollows advance permits (refreshServerNode serverId) :=
  .andExist (serves.plain trivial) (fun server => by
    cases server.nodeId with
    | none => exact .pure ()
    | some nodeId => exact .ask (serves.plain trivial))

theorem follows_actuallyRunning : AlwaysFollows advance permits (actuallyRunning server) :=
  .ite (follows_isRunning serves) (.pure false)

theorem follows_startServer : AlwaysFollows advance permits (startServer site user serverId) :=
  .andRaise (serves.plain trivial) (fun _ =>
    (follows_actuallyRunning serves).bind (fun _ =>
      .ite (.pure ())
        ((follows_startOrConflict serves).bind (fun _ => follows_refreshServerNode serves))))

theorem follows_stopServer : AlwaysFollows advance permits (stopServer user serverId) :=
  .andRaise (serves.plain trivial) (fun _ =>
    (follows_stopServerProcess serves).bind (fun _ => follows_refreshServerNode serves))

theorem follows_toggleServer
    : AlwaysFollows advance permits (toggleServer site user serverId) :=
  .andRaise (serves.plain trivial) (fun _ =>
    (follows_actuallyRunning serves).bind (fun _ =>
      .ite (follows_stopServerProcess serves) (follows_startOrConflict serves)))

theorem follows_triggerWakeup : AlwaysFollows advance permits (triggerWakeup site serverId) :=
  .andThen (serves.plain trivial) (fun row => by
    cases row with
    | none => exact .pure ()
    | some server => exact .ite (follows_doStartServer serves) (.pure ()))

theorem follows_wakeServerInternal
    : AlwaysFollows advance permits (wakeServerInternal site serverId) :=
  .andThen (serves.plain trivial) (fun row => by
    cases row with
    | none => exact .throw _
    | some server => exact .ite (follows_doStartServer serves) (.pure ()))

theorem follows_computeServerStats
    : AlwaysFollows advance permits (computeServerStats serverId) :=
  .andExist (serves.plain trivial) (fun _ =>
    (follows_isRunning serves).bind (fun _ =>
      .ite (.ask (serves.plain trivial)) (.ite (.ask (serves.plain trivial)) (.pure ()))))

theorem follows_restartForJob : AlwaysFollows advance permits (restartForJob serverId) :=
  (follows_stopServerProcess serves).bind (fun _ => serves.launch _ _)

theorem follows_provisionMinecraftServer
    : AlwaysFollows advance permits (provisionMinecraftServer serverId) :=
  .andThen (serves.plain trivial) (fun row => by
    cases row with
    | none => exact .pure ()
    | some server => exact serves.launch _ _)

end Servers

-- Migrations

section Migrations

variable {site : Site} {user : User} {serverId : Uuid}

theorem follows_backUpOldCopy
    : AlwaysFollows advance permits (backUpOldCopy user serverId) := by
  refine .andRaise (serves.plain trivial) (fun server => ?_)
  refine .andRaise (serves.plain trivial) (fun _ => ?_)
  cases server.nodeId with
  | none => exact .throw _
  | some nodeId =>
      refine .andThen (serves.plain trivial) (fun node => ?_)
      cases node with
      | none => exact .throw _
      | some oldNode =>
          refine .andThen (serves.plain trivial) (fun _ => ?_)
          refine .andThen (serves.plain trivial) (fun _ => ?_)
          exact .andThen (serves.plain trivial) (fun _ => .ite (.pure oldNode) (.throw _))

theorem follows_restoreOnNewNode {oldNode : Node}
    : AlwaysFollows advance permits (restoreOnNewNode serverId oldNode) := by
  refine .andRaise (serves.plain trivial) (fun newNode => ?_)
  refine .andThen (serves.plain trivial) (fun _ => ?_)
  refine .andThen (serves.plain trivial) (fun _ => .ite (.pure newNode) ?_)
  exact .andRaise (serves.plain trivial) (fun _ =>
    .andThen (serves.plain trivial) (fun _ => .throw _))

theorem follows_startMigrated
    : AlwaysFollows advance permits (startMigrated site serverId) := by
  refine AlwaysFollows.handle ?_ (fun failure => by cases failure <;> exact .throw _)
  exact .andExist (serves.plain trivial) (fun _ =>
    (follows_doStartServer serves).bind (fun _ => .ask (serves.plain trivial)))

theorem follows_removeOldCopy {oldNode : Node}
    : AlwaysFollows advance permits (removeOldCopy serverId oldNode) :=
  .andThen (serves.plain trivial) (fun _ => .andThen (serves.plain trivial) (fun _ =>
    .andThen (serves.plain trivial) (fun _ => .pure ())))

theorem follows_migrateServer
    : AlwaysFollows advance permits (migrateServer site user serverId) :=
  (follows_backUpOldCopy serves).bind (fun _ =>
    (follows_restoreOnNewNode serves).bind (fun newNode =>
      (follows_startMigrated serves).bind (fun _ =>
        (follows_removeOldCopy serves).bind (fun _ => .pure newNode))))

theorem follows_startReassigned
    : AlwaysFollows advance permits (startReassigned site serverId) := by
  refine AlwaysFollows.handle ?_ (fun _ => .pure false)
  refine .andExist (serves.plain trivial) (fun _ =>
    (follows_doStartServer serves).bind (fun _ => ?_))
  exact .andThen (serves.plain trivial) (fun _ =>
    .andThen (serves.plain trivial) (fun _ => .pure true))

end Migrations

-- Nodes and payments

section Workers

/-- By induction on the messages still to come. -/
theorem follows_receiveMessages {nodeId : Uuid} {messages : List Received}
    : AlwaysFollows advance permits (receiveMessages nodeId messages) := by
  induction messages with
  | nil => exact .pure ()
  | cons received later ih =>
      refine .andThen (serves.plain trivial) (fun outcome => ?_)
      cases outcome with
      | error ending => exact .pure ()
      | ok _ => exact ih

theorem follows_nodeSession {token : String} {request : RegisterRequest} {messages : List Received}
    : AlwaysFollows advance permits (nodeSession token request messages) := by
  have ends : AlwaysFollows advance permits (ask (.cleanUp request.nodeName)) :=
    .ask (serves.plain trivial)
  refine .andThen (serves.plain trivial) (fun admitted => ?_)
  cases admitted with
  | error ending => exact ends
  | ok node =>
      have goesOn (halted : Bool)
          : AlwaysFollows advance permits (if halted = true then do
                ask (.completeAdmission request node)
                receiveMessages node.id messages
                ask (.cleanUp request.nodeName)
              else ask (.cleanUp request.nodeName)) :=
        .ite (.andThen (serves.plain trivial) (fun _ =>
          (follows_receiveMessages serves).bind (fun _ => ends))) ends
      exact .ite (.andThen (serves.plain trivial) (fun halted => goesOn halted))
        ((AlwaysFollows.pure true).bind (fun halted => goesOn halted))

omit serves in
theorem follows_refusing {outcome : Except HttpError Unit}
    : AlwaysFollows advance permits (refusing outcome) := by
  cases outcome with
  | error failure => exact .throw _
  | ok _ => exact .pure ()

/-- By induction on the servers still to stop. -/
theorem follows_tryStops {servers : List Uuid}
    : AlwaysFollows advance permits (tryStops servers) := by
  have stop (serverId : Uuid) : AlwaysFollows advance permits (tryStop serverId) := by
    refine .andThen (serves.plain trivial) (fun nodeId => ?_)
    cases nodeId with
    | none => exact .pure ()
    | some nodeId => exact .andThen (serves.plain trivial) (fun _ => .pure ())
  induction servers with
  | nil => exact .pure ()
  | cons serverId rest ih => exact (stop serverId).bind (fun _ => ih)

theorem FleetHandler.follows {site : Site} {program : Handler Unit}
    (rebalanced : AlwaysFollows advance permits (rebalanceCycle site))
    (known : FleetHandler site program)
    : AlwaysFollows advance permits program := by
  cases known with
  | create user payload => exact .andThen (serves.plain trivial) (fun _ => .raising _)
  | start user serverId => exact follows_startServer serves
  | stop user serverId => exact follows_stopServer serves
  | toggle user serverId => exact follows_toggleServer serves
  | wakeUp serverId => exact follows_triggerWakeup serves
  | wake serverId => exact follows_wakeServerInternal serves
  | migrate user serverId => exact (follows_migrateServer serves).bind (fun _ => .pure ())
  | stats serverId => exact follows_computeServerStats serves
  | job serverId => exact follows_restartForJob serves
  | provision serverId => exact follows_provisionMinecraftServer serves
  | rebalance => exact rebalanced
  | session token request messages => exact follows_nodeSession serves
  | drain nodeId => exact .andThen (serves.plain trivial) (fun _ => follows_refusing)
  | undrain nodeId => exact .andThen (serves.plain trivial) (fun _ => follows_refusing)
  | sweep =>
      exact .andThen (serves.plain trivial) (fun _ =>
        (follows_tryStops serves).bind (fun _ => .ask (serves.plain trivial)))
  | paddle delivery => exact .ask (serves.plain trivial)
  | processEnds nodeId serverId => exact .ask (serves.plain trivial)
  | requestArrives index => exact .ask (serves.plain trivial)

end Workers

end Blockhost.ControlPlane
