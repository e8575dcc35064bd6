import Blockhost.Library.Run
import Blockhost.Library.Table
import Blockhost.Minecraft.BedrockPing

/-! One UDP listener of the game proxy while its port has a route that is not suspended, with
the transports to the backend: each client gets one of its own, which a task of its own
creates, and what arrives before it is there waits in tasks. The content of a client's datagram
is not looked at, so a datagram is known by its place among those received.
-/

namespace Blockhost.UdpSessions

open Library

-- State

/-- A transport to the backend, which belongs to a client. -/
structure BackendSession (Addr : Type) where
  client : Addr
  isOpen : Bool := true
deriving DecidableEq, Repr

/-- How far a task of `_create_backend_session` has got. Its transport is open before the task
hears of it.
-/
inductive CreationStage where
  | created
  | connecting
  | opened (session : Nat)
  | returned
  | raised
deriving DecidableEq, Repr

def CreationStage.done : CreationStage → Bool
  | .returned | .raised => true
  | _ => false

structure Creation (Addr : Type) where
  client : Addr
  stage : CreationStage := .created
deriving DecidableEq, Repr

/-- A task of `_forward_new_client`, which soon awaits a creation. -/
structure Forward (Addr : Type) where
  datagram : Nat
  client : Addr
  awaits : Option Nat := none
  done : Bool := false
deriving DecidableEq, Repr

/-- A `UdpProxyProtocol` with all transports and tasks that it ever made, what it received and
sent, and whether its connection is lost.
-/
structure UdpProxy (Addr : Type) where
  proxyPort : Nat
  clientSessions : Addr → Option Nat := fun _ => none
  sessionTasks : Addr → Option Nat := fun _ => none
  sessions : List (BackendSession Addr) := []
  creations : List (Creation Addr) := []
  forwards : List (Forward Addr) := []
  received : List Addr := []
  sent : List (Nat × Nat) := []
  replies : List (Addr × Octets) := []
  lost : Bool := false

-- Events

inductive UdpEvent (Addr : Type) where
  | receive (client : Addr)
  | begin (forward : Nat)
  | start (creation : Nat)
  | opens (creation : Nat)
  | fails (creation : Nat)
  | register (creation : Nat)
  | resume (forward : Nat)
  | reply (session : Nat) (data : Octets)
  | connectionLost

namespace UdpProxy

variable {Addr : Type} [DecidableEq Addr]

/-- `datagram_received` -/
def datagramReceived (client : Addr) (proxy : UdpProxy Addr) : UdpProxy Addr :=
  let noted := { proxy with received := proxy.received ++ [client] }
  match proxy.clientSessions client with
  | some session =>
      { noted with sent := proxy.sent ++ [(proxy.received.length, session)] }
  | none =>
      { noted with
        forwards := proxy.forwards ++ [{ datagram := proxy.received.length, client }] }

def runningCreation (client : Addr) (proxy : UdpProxy Addr) : Option Nat :=
  (proxy.sessionTasks client).filter (fun task =>
    (proxy.creations[task]?).any (fun creation => !creation.stage.done))

/-- A new task of `_create_backend_session`, stored for its client. -/
def createSession (client : Addr) (proxy : UdpProxy Addr) : UdpProxy Addr :=
  { proxy with
    creations := proxy.creations ++ [{ client }]
    sessionTasks := Function.update proxy.sessionTasks client (some proxy.creations.length) }

/-- `_forward_new_client`, up to where it awaits the creation. -/
def beginForward (index : Nat) (forward : Forward Addr) (proxy : UdpProxy Addr)
    : UdpProxy Addr :=
  match proxy.runningCreation forward.client with
  | some task =>
      { proxy with forwards := proxy.forwards.set index { forward with awaits := some task } }
  | none =>
      { proxy.createSession forward.client with
        forwards :=
          proxy.forwards.set index { forward with awaits := some proxy.creations.length } }

def atStage (index : Nat) (client : Addr) (stage : CreationStage) (proxy : UdpProxy Addr)
    : UdpProxy Addr :=
  { proxy with creations := proxy.creations.set index { client, stage } }

/-- `_create_backend_session`, up to where it awaits the endpoint. -/
def startCreation (index : Nat) (client : Addr) (proxy : UdpProxy Addr) : UdpProxy Addr :=
  proxy.atStage index client
    (if (proxy.clientSessions client).isSome then .returned else .connecting)

def openEndpoint (index : Nat) (client : Addr) (proxy : UdpProxy Addr) : UdpProxy Addr :=
  { proxy.atStage index client (.opened proxy.sessions.length) with
    sessions := proxy.sessions ++ [{ client }] }

/-- The rest of `_create_backend_session`. -/
def registerSession (index session : Nat) (client : Addr) (proxy : UdpProxy Addr)
    : UdpProxy Addr :=
  { proxy.atStage index client .returned with
    clientSessions := Function.update proxy.clientSessions client (some session) }

/-- The rest of `_forward_new_client`, once the creation is done. -/
def resumeForward (index : Nat) (forward : Forward Addr) (returned : Bool)
    (proxy : UdpProxy Addr)
    : UdpProxy Addr :=
  let ended := { proxy with forwards := proxy.forwards.set index { forward with done := true } }
  match returned, proxy.clientSessions forward.client with
  | true, some session => { ended with sent := proxy.sent ++ [(forward.datagram, session)] }
  | _, _ => ended

/-- `datagram_received` of the backend's side; nothing is sent through a listener that is gone.
-/
def replyReceived (client : Addr) (data : Octets) (proxy : UdpProxy Addr) : UdpProxy Addr :=
  if proxy.lost then proxy
  else
    let rewritten := BedrockPing.rewriteBedrockPongPorts data proxy.proxyPort
    { proxy with
      replies := proxy.replies ++ (rewritten.map (fun reply => (client, reply))).toList }

/-- `connection_lost`: the transports in the dictionary are closed. A session is there under
its own client.
-/
def connectionLost (proxy : UdpProxy Addr) : UdpProxy Addr :=
  { proxy with
    clientSessions := fun _ => none
    sessionTasks := fun _ => none
    sessions :=
      proxy.sessions.mapIdx (fun index session =>
        if proxy.clientSessions session.client = some index then
          { session with isOpen := false }
        else session)
    lost := true }

/-- What an event makes of the listener, if it can happen. -/
def step (proxy : UdpProxy Addr) : UdpEvent Addr → Option (UdpProxy Addr)
  | .receive client => if proxy.lost then none else some (proxy.datagramReceived client)
  | .begin index => do
      let forward ← proxy.forwards[index]?
      if forward.awaits = none then some (proxy.beginForward index forward) else none
  | .start index => do
      let creation ← proxy.creations[index]?
      if creation.stage = .created then some (proxy.startCreation index creation.client)
      else none
  | .opens index => do
      let creation ← proxy.creations[index]?
      if creation.stage = .connecting then some (proxy.openEndpoint index creation.client)
      else none
  | .fails index => do
      let creation ← proxy.creations[index]?
      if creation.stage = .connecting then some (proxy.atStage index creation.client .raised)
      else none
  | .register index => do
      let creation ← proxy.creations[index]?
      match creation.stage with
      | .opened session => some (proxy.registerSession index session creation.client)
      | _ => none
  | .resume index => do
      let forward ← proxy.forwards[index]?
      let task ← forward.awaits
      let creation ← proxy.creations[task]?
      if forward.done = false ∧ creation.stage.done = true then
        some (proxy.resumeForward index forward (creation.stage = .returned))
      else none
  | .reply index data => do
      let session ← proxy.sessions[index]?
      if session.isOpen then some (proxy.replyReceived session.client data) else none
  | .connectionLost => if proxy.lost then none else some proxy.connectionLost

end UdpProxy

section Law

variable {Addr : Type}

def UdpStep [DecidableEq Addr] (before : UdpProxy Addr) (event : UdpEvent Addr)
    (after : UdpProxy Addr)
    : Prop :=
  before.step event = some after

-- The law

/-- A transport of a client that is open. -/
def Live (proxy : UdpProxy Addr) (session : Nat) (client : Addr) : Prop :=
  proxy.sessions[session]? = some { client }

def timesSent (proxy : UdpProxy Addr) (datagram : Nat) : Nat :=
  (proxy.sent.map Prod.fst).count datagram

/-- A creation for a client has come to a stage. -/
def Creates (proxy : UdpProxy Addr) (task : Nat) (client : Addr) (stage : CreationStage)
    : Prop :=
  proxy.creations[task]? = some { client, stage }

/-- The task of a datagram still runs. -/
def Waits (proxy : UdpProxy Addr) (datagram : Nat) : Prop :=
  ∃ forward ∈ proxy.forwards, forward.datagram = datagram ∧ forward.done = false

/-- The task of a datagram has ended with the creation that it waited for. -/
def Fails (proxy : UdpProxy Addr) (datagram : Nat) : Prop :=
  ∃ forward ∈ proxy.forwards, forward.datagram = datagram ∧ forward.done = true
    ∧ ∃ task, forward.awaits = some task ∧ Creates proxy task forward.client .raised

/-- The next step of a task, and not of a client or a listener. -/
def UdpEvent.ofTask : UdpEvent Addr → Bool
  | .begin _ | .start _ | .opens _ | .register _ | .resume _ => true
  | _ => false

/-- A client has one live session at most, and after the loss none; before it each datagram is
sent once, to a session of its client, unless it still waits, for a task that can go on, or the
creation that it waited for has failed.
-/
structure Sound [DecidableEq Addr] (proxy : UdpProxy Addr) : Prop where
  unique
    : ∀ client first second, Live proxy first client → Live proxy second client
      → first = second
  closed : proxy.lost = true → ∀ session client, ¬ Live proxy session client
  once
    : proxy.lost = false → ∀ datagram < proxy.received.length,
      timesSent proxy datagram = 1 ∧ ¬ Waits proxy datagram ∧ ¬ Fails proxy datagram
      ∨ timesSent proxy datagram = 0 ∧ (Waits proxy datagram ∨ Fails proxy datagram)
  addressed
    : proxy.lost = false → ∀ entry ∈ proxy.sent, ∃ client,
      proxy.received[entry.1]? = some client ∧ Live proxy entry.2 client
  progresses
    : proxy.lost = false → ∀ datagram, Waits proxy datagram
      → ∃ event, event.ofTask = true ∧ (proxy.step event).isSome = true

/-- Nothing that may still open a session: every creation is done, and every task for a
datagram awaits one.
-/
structure Quiet (proxy : UdpProxy Addr) : Prop where
  created : ∀ creation ∈ proxy.creations, creation.stage.done = true
  begun : ∀ forward ∈ proxy.forwards, forward.awaits ≠ none

/-- The connection is lost in a quiet moment. -/
structure ClearStep [DecidableEq Addr] (before : UdpProxy Addr) (event : UdpEvent Addr)
    (after : UdpProxy Addr)
    : Prop where
  taken : UdpStep before event after
  quiet : event = .connectionLost → Quiet before

-- Sessions

variable {proxy next : UdpProxy Addr} {client : Addr} {index : Nat}

/-- Before the loss: what is registered is open; what is open is registered, or its creation is
about to register it; and a creation that is not done is the task of its client, who has no
session yet once it has begun.
-/
structure Serving (proxy : UdpProxy Addr) : Prop where
  registered
    : ∀ client session, proxy.clientSessions client = some session → Live proxy session client
  live
    : ∀ session client, Live proxy session client
      → proxy.clientSessions client = some session
        ∨ ∃ task, Creates proxy task client (.opened session)
  running
    : ∀ task client stage, Creates proxy task client stage → stage.done = false
      → proxy.sessionTasks client = some task
  known
    : ∀ client task, proxy.sessionTasks client = some task
      → ∃ stage, Creates proxy task client stage
  vacant
    : ∀ task client stage, Creates proxy task client stage → stage.done = false
      → stage ≠ .created → proxy.clientSessions client = none
  opened
    : ∀ task client session, Creates proxy task client (.opened session)
      → Live proxy session client
  returned
    : ∀ task client, Creates proxy task client .returned
      → proxy.clientSessions client ≠ none

namespace Serving

theorem unique (serving : Serving proxy) {first second : Nat} (left : Live proxy first client)
    (right : Live proxy second client)
    : first = second := by
  have vacant {task session : Nat}
      (opens : Creates proxy task client (.opened session))
      : proxy.clientSessions client = none :=
    serving.vacant task client _ opens rfl (by simp)
  rcases serving.live first client left with one | ⟨task, one⟩
  · rcases serving.live second client right with two | ⟨other, two⟩
    · exact Option.some.inj (one.symm.trans two)
    · cases one.symm.trans (vacant two)
  · rcases serving.live second client right with two | ⟨other, two⟩
    · cases two.symm.trans (vacant one)
    · have same := (serving.running task client _ one rfl).symm.trans
        (serving.running other client _ two rfl)
      cases same
      cases one.symm.trans two
      rfl

theorem runningCreation_some {task : Nat} (serving : Serving proxy)
    (running : proxy.runningCreation client = some task)
    : ∃ stage, Creates proxy task client stage := by
  obtain ⟨stored, -⟩ := Option.filter_eq_some_iff.mp running
  exact serving.known client task stored

theorem done_of_runningCreation_none (serving : Serving proxy)
    (idle : proxy.runningCreation client = none) {task : Nat} {stage : CreationStage}
    (found : Creates proxy task client stage)
    : stage.done = true := by
  cases done : stage.done with
  | true => rfl
  | false =>
      have row : proxy.creations[task]? = some { client, stage } := found
      have running : proxy.runningCreation client = some task := by
        unfold UdpProxy.runningCreation
        rw [serving.running task client stage found done, Option.filter_some, row,
          Option.any_some, done]
        rfl
      cases running.symm.trans idle

theorem elsewhere (serving : Serving proxy)
    (clientSessions : next.clientSessions = proxy.clientSessions)
    (sessionTasks : next.sessionTasks = proxy.sessionTasks)
    (sessions : next.sessions = proxy.sessions) (creations : next.creations = proxy.creations)
    : Serving next := by
  have same (task : Nat) (client : Addr) (stage : CreationStage)
      : Creates next task client stage = Creates proxy task client stage := by
    unfold Creates
    rw [creations]
  have alive (session : Nat) (client : Addr)
      : Live next session client = Live proxy session client := by
    unfold Live
    rw [sessions]
  constructor
  · simpa only [clientSessions, alive] using serving.registered
  · simpa only [clientSessions, alive, same] using serving.live
  · simpa only [sessionTasks, same] using serving.running
  · simpa only [sessionTasks, same] using serving.known
  · simpa only [clientSessions, same] using serving.vacant
  · simpa only [alive, same] using serving.opened
  · simpa only [clientSessions, same] using serving.returned

end Serving

-- Stages

variable {stage before : CreationStage}

theorem creates_atStage_cases {task : Nat} {owner : Addr} {found : CreationStage}
    (creates : Creates (proxy.atStage index client stage) task owner found)
    : task = index ∧ owner = client ∧ found = stage
      ∨ task ≠ index ∧ Creates proxy task owner found := by
  rcases getElem?_set_cases creates with ⟨same, row⟩ | other
  · cases row
    exact .inl ⟨same, rfl, rfl⟩
  · exact .inr other

theorem creates_atStage (stage : CreationStage) (here : Creates proxy index client before)
    {task : Nat} {owner : Addr} {found : CreationStage}
    (creates : Creates proxy task owner found)
    : Creates (proxy.atStage index client stage) task owner
        (if task = index then stage else found) := by
  by_cases same : task = index
  · subst same
    cases here.symm.trans creates
    rw [if_pos rfl]
    exact getElem?_set_own here _
  · rw [if_neg same]
    exact getElem?_set_other creates same _

namespace Serving

theorem running_atStage (serving : Serving proxy) (here : Creates proxy index client before)
    (undone : before.done = false) (task : Nat) (owner : Addr) (found : CreationStage)
    (creates : Creates (proxy.atStage index client stage) task owner found)
    (running : found.done = false)
    : proxy.sessionTasks owner = some task := by
  rcases creates_atStage_cases creates with ⟨rfl, rfl, -⟩ | ⟨-, known⟩
  · exact serving.running task owner before here undone
  · exact serving.running task owner found known running

theorem known_atStage (serving : Serving proxy) (here : Creates proxy index client before)
    (owner : Addr) (task : Nat) (stored : proxy.sessionTasks owner = some task)
    : ∃ found, Creates (proxy.atStage index client stage) task owner found := by
  obtain ⟨found, creates⟩ := serving.known owner task stored
  exact ⟨_, creates_atStage _ here creates⟩

theorem atStage (serving : Serving proxy) (here : Creates proxy index client before)
    (undone : before.done = false) (unopened : ∀ session, before ≠ .opened session)
    (vacant : stage.done = false → proxy.clientSessions client = none)
    (noSession : ∀ session, stage ≠ .opened session)
    (returned : stage = .returned → proxy.clientSessions client ≠ none)
    : Serving (proxy.atStage index client stage) where
  registered := serving.registered
  live session owner live := by
    refine (serving.live session owner live).imp_right ?_
    rintro ⟨task, opens⟩
    refine ⟨task, ?_⟩
    have moved := creates_atStage stage here opens
    rwa [if_neg] at moved
    rintro rfl
    cases here.symm.trans opens
    exact unopened session rfl
  running := serving.running_atStage here undone
  known := serving.known_atStage here
  vacant task owner found creates running begun := by
    rcases creates_atStage_cases creates with ⟨rfl, rfl, rfl⟩ | ⟨-, known⟩
    · exact vacant running
    · exact serving.vacant task owner found known running begun
  opened task owner session opens := by
    rcases creates_atStage_cases opens with ⟨-, -, same⟩ | ⟨-, known⟩
    · exact absurd same.symm (noSession session)
    · exact serving.opened task owner session known
  returned task owner ended := by
    rcases creates_atStage_cases ended with ⟨-, rfl, same⟩ | ⟨-, known⟩
    · exact returned same.symm
    · exact serving.returned task owner known

theorem openEndpoint (serving : Serving proxy) (here : Creates proxy index client .connecting)
    : Serving (proxy.openEndpoint index client) where
  registered owner session stored :=
    getElem?_concat (serving.registered owner session stored)
  live session owner live := by
    rcases getElem?_concat_cases live with old | ⟨rfl, row⟩
    · refine (serving.live session owner old).imp_right ?_
      rintro ⟨task, opens⟩
      refine ⟨task, ?_⟩
      have moved := creates_atStage (.opened proxy.sessions.length) here opens
      rwa [if_neg] at moved
      rintro rfl
      cases here.symm.trans opens
    · cases row
      refine .inr ⟨index, ?_⟩
      have moved := creates_atStage (.opened proxy.sessions.length) here here
      rwa [if_pos rfl] at moved
  running := serving.running_atStage here rfl
  known := serving.known_atStage here
  vacant task owner found creates running begun := by
    rcases creates_atStage_cases creates with ⟨-, rfl, -⟩ | ⟨-, known⟩
    · exact serving.vacant index owner _ here rfl (by simp)
    · exact serving.vacant task owner found known running begun
  opened task owner session opens := by
    rcases creates_atStage_cases opens with ⟨-, rfl, same⟩ | ⟨-, known⟩
    · cases same
      exact List.getElem?_concat_length ..
    · exact getElem?_concat (serving.opened task owner session known)
  returned task owner ended := by
    rcases creates_atStage_cases ended with ⟨-, -, same⟩ | ⟨-, known⟩
    · cases same
    · exact serving.returned task owner known

variable [DecidableEq Addr]

theorem registerSession (serving : Serving proxy) {session : Nat}
    (here : Creates proxy index client (.opened session))
    : Serving (proxy.registerSession index session client) where
  registered owner other stored := by
    have stored
        : Function.update proxy.clientSessions client (some session) owner = some other :=
      stored
    by_cases own : owner = client
    · subst own
      rw [Function.update_self] at stored
      cases stored
      exact serving.opened index owner session here
    · rw [Function.update_of_ne own] at stored
      exact serving.registered owner other stored
  live other owner live := by
    change Function.update proxy.clientSessions client (some session) owner = some other ∨ _
    have vacant := serving.vacant index client _ here rfl (by simp)
    rcases serving.live other owner live with stored | ⟨task, opens⟩
    · have differs : owner ≠ client := by
        rintro rfl
        cases stored.symm.trans vacant
      exact .inl (by rwa [Function.update_of_ne differs])
    · by_cases same : task = index
      · subst same
        cases here.symm.trans opens
        exact .inl (Function.update_self ..)
      · have moved := creates_atStage .returned here opens
        rw [if_neg same] at moved
        exact .inr ⟨task, moved⟩
  running := serving.running_atStage here rfl
  known := serving.known_atStage here
  vacant task owner found creates running begun := by
    change Function.update proxy.clientSessions client (some session) owner = none
    rcases creates_atStage_cases creates with ⟨-, -, rfl⟩ | ⟨differs, known⟩
    · cases running
    · have other : owner ≠ client := by
        rintro rfl
        have stored := (serving.running task owner found known running).symm.trans
          (serving.running index owner _ here rfl)
        exact differs (Option.some.inj stored)
      rw [Function.update_of_ne other]
      exact serving.vacant task owner found known running begun
  opened task owner other opens := by
    rcases creates_atStage_cases opens with ⟨-, -, same⟩ | ⟨-, known⟩
    · cases same
    · exact serving.opened task owner other known
  returned task owner ended := by
    change Function.update proxy.clientSessions client (some session) owner ≠ none
    by_cases own : owner = client
    · rw [own, Function.update_self]
      exact Option.some_ne_none session
    · rw [Function.update_of_ne own]
      rcases creates_atStage_cases ended with ⟨-, rfl, -⟩ | ⟨-, known⟩
      · exact absurd rfl own
      · exact serving.returned task owner known

theorem beginForward (serving : Serving proxy) (forward : Forward Addr)
    : Serving (proxy.beginForward index forward) := by
  unfold UdpProxy.beginForward
  cases idle : proxy.runningCreation forward.client with
  | some task => exact serving.elsewhere rfl rfl rfl rfl
  | none =>
      have cases' {task : Nat} {owner : Addr} {found : CreationStage}
          (creates : (proxy.creations ++ [{ client := forward.client }])[task]?
            = some { client := owner, stage := found })
          : Creates proxy task owner found
            ∨ task = proxy.creations.length ∧ owner = forward.client ∧ found = .created := by
        refine (getElem?_concat_cases creates).imp_right ?_
        rintro ⟨same, row⟩
        cases row
        exact ⟨same, rfl, rfl⟩
      refine
        { registered := serving.registered, live := ?_, running := ?_, known := ?_, vacant := ?_,
          opened := ?_, returned := ?_ }
      · intro session owner live
        refine (serving.live session owner live).imp_right ?_
        rintro ⟨task, opens⟩
        exact ⟨task, getElem?_concat opens⟩
      · intro task owner found creates running
        change Function.update proxy.sessionTasks forward.client
          (some proxy.creations.length) owner = some task
        rcases cases' creates with known | ⟨rfl, rfl, -⟩
        · have other : owner ≠ forward.client := by
            rintro rfl
            cases running.symm.trans (serving.done_of_runningCreation_none idle known)
          rw [Function.update_of_ne other]
          exact serving.running task owner found known running
        · exact Function.update_self ..
      · intro owner task stored
        have stored : Function.update proxy.sessionTasks forward.client
          (some proxy.creations.length) owner = some task := stored
        by_cases own : owner = forward.client
        · subst own
          rw [Function.update_self] at stored
          cases stored
          exact ⟨.created, List.getElem?_concat_length ..⟩
        · rw [Function.update_of_ne own] at stored
          obtain ⟨found, creates⟩ := serving.known owner task stored
          exact ⟨found, getElem?_concat creates⟩
      · intro task owner found creates running begun
        rcases cases' creates with known | ⟨-, -, rfl⟩
        · exact serving.vacant task owner found known running begun
        · exact absurd rfl begun
      · intro task owner session opens
        rcases cases' opens with known | ⟨-, -, same⟩
        · exact serving.opened task owner session known
        · cases same
      · intro task owner ended
        rcases cases' ended with known | ⟨-, -, same⟩
        · exact serving.returned task owner known
        · cases same

end Serving

end Law

end Blockhost.UdpSessions
