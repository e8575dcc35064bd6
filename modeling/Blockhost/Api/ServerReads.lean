import Blockhost.Api.Servers
import Mathlib.Logic.Function.Basic

/-! The cached reads of servers, and what the routes that change a server drop from the cache.
Reads and changes are requests that run side by side, each one in several steps.
-/

namespace Blockhost.ServerReads

open Library

-- What a read shows

inductive VMProvider where
  | oracleFree
  | hetzner
  | localBedrock
  | localJava
deriving DecidableEq, Repr

/-- The columns of a server that only its reads use. -/
structure ReadColumns where
  joinCode : String := ""
  vmProvider : VMProvider := .localBedrock
  proxyPort : Option Int := none
  createdAt : Instant := 0
deriving DecidableEq, Repr

structure Stored where
  db : Database
  columns : Uuid → ReadColumns := fun _ => {}

/-- What a read uses besides the database: settings of the process, and the nicknames of the
users, which no route changes.
-/
structure Surroundings where
  settings : Settings := {}
  proxyEnabled : Bool := false
  proxyHost : String := ""
  nickname : Uuid → String

structure ServerOut where
  id : Uuid
  worldName : String
  joinCode : String
  state : ServerState
  vmProvider : VMProvider
  vmIpv4 : Option String
  vmPort : Int
  shareableAddress : Option String
  ownerId : Uuid
  ownerNickname : String
  createdAt : Instant
  lastActivity : Instant
  flavor : ServerFlavor
  mcVersion : Option String
  mcConfig : McConfig
deriving DecidableEq, Repr

structure ServerDetail extends ServerOut where
  minecraftHost : String
  minecraftPort : Int
deriving DecidableEq, Repr

/-- `server.vm_ipv4 or settings.minecraft_public_host` -/
def serverHost (around : Surroundings) (server : Server) : String :=
  (server.vmIpv4.filter (· ≠ "")).getD around.settings.minecraftPublicHost

def shareableAddress (around : Surroundings) (columns : ReadColumns) (server : Server)
    : Option String :=
  let host := serverHost around server
  match columns.proxyPort.filter (fun port =>
      around.proxyEnabled && around.proxyHost ≠ "" && port ≠ 0) with
  | some port => some (around.proxyHost ++ ":" ++ toString port)
  | none =>
      if host ≠ "" ∧ server.vmPort ≠ 0 then some (host ++ ":" ++ toString server.vmPort)
      else none

/-- The nickname is the reader's, whoever owns the server. -/
def serverToOut (around : Surroundings) (columns : ReadColumns) (reader : Uuid) (server : Server)
    : ServerOut where
  id := server.id
  worldName := server.worldName
  joinCode := columns.joinCode
  state := server.state
  vmProvider := columns.vmProvider
  vmIpv4 := server.vmIpv4
  vmPort := server.vmPort
  shareableAddress := shareableAddress around columns server
  ownerId := server.ownerId
  ownerNickname := around.nickname reader
  createdAt := columns.createdAt
  lastActivity := server.lastActivity
  flavor := server.flavor
  mcVersion := server.mcVersion
  mcConfig := server.mcConfig

def serverToDetail (around : Surroundings) (columns : ReadColumns) (reader : Uuid)
    (server : Server)
    : ServerDetail where
  toServerOut := serverToOut around columns reader server
  minecraftHost := serverHost around server
  minecraftPort := server.vmPort

def findServer (db : Database) (serverId user : Uuid) (requiredPermission : Option String)
    : Except HttpError Server :=
  match db.servers.get? serverId with
  | none => .error ⟨404, "Server not found"⟩
  | some server =>
      if server.ownerId = user then .ok server
      else
        match db.serverCollaborators.rows.find? (fun collaborator =>
            collaborator.serverId = server.id && collaborator.userId = user) with
        | none => .error ⟨404, "Server not found"⟩
        | some collaborator =>
            match requiredPermission.filter (· ∉ collaborator.permissions) with
            | none => .ok server
            | some missing => .error ⟨403, "Missing required permission: " ++ missing⟩

theorem findServer_absent {db : Database} {serverId : Uuid} (user : Uuid)
    (requiredPermission : Option String) (absent : db.servers.get? serverId = none)
    : findServer db serverId user requiredPermission = .error ⟨404, "Server not found"⟩ := by
  simp only [findServer, absent]

inductive Read where
  | list
  | detail (server : Uuid)
  | config (server : Uuid)
deriving DecidableEq, Repr

def Read.server : Read → Option Uuid
  | .list => none
  | .detail server | .config server => some server

/-- A key of the cache, like `servers:detail:{user_id}:{server_id}`: what is read, by whom. -/
structure Key where
  user : Uuid
  read : Read
deriving DecidableEq, Repr

def Read.ttl : Read → Nat
  | .list => 5
  | .detail _ => 15
  | .config _ => 30

inductive Payload where
  | list (servers : List ServerOut)
  | detail (server : ServerDetail) (config : McConfig)
  | config (id : Uuid) (mcConfig : McConfig)
deriving DecidableEq, Repr

/-- What a read shows of the database, without the cache. A list has the servers of the user;
those of others on which the user collaborates are not in it.
-/
def Key.render (around : Surroundings) (stored : Stored) (key : Key)
    : Except HttpError Payload :=
  match key.read with
  | .list =>
      .ok (.list ((stored.db.servers.rows.filter (fun server => server.ownerId = key.user)).map
        (fun server => serverToOut around (stored.columns server.id) key.user server)))
  | .detail server =>
      (findServer stored.db server key.user none).map (fun found =>
        .detail (serverToDetail around (stored.columns found.id) key.user found) found.mcConfig)
  | .config server =>
      (findServer stored.db server key.user (some "config")).map (fun found =>
        .config found.id found.mcConfig)

/-- What the route makes of a payload. `get_server` passes a coroutine that nobody awaits as the
`stats` of its response, which is refused as such.
-/
def Payload.respond : Payload → Except HttpError Payload
  | .detail _ _ => .error internalError
  | payload => .ok payload

/-- The answer to a read that does not use the cache. -/
def Key.answer (around : Surroundings) (stored : Stored) (key : Key) : Except HttpError Payload :=
  (key.render around stored).bind Payload.respond

theorem Key.render_absent (around : Surroundings) {stored : Stored} {key : Key} {server : Uuid}
    (named : key.read.server = some server) (absent : stored.db.servers.get? server = none)
    : key.render around stored = .error ⟨404, "Server not found"⟩ := by
  obtain ⟨user, read⟩ := key
  cases read with
  | list => cases named
  | detail id =>
      cases named
      simp only [Key.render, findServer_absent _ _ absent, Except.map]
  | config id =>
      cases named
      simp only [Key.render, findServer_absent _ _ absent, Except.map]

-- What a change drops

inductive Mutation where
  | start
  | stop
  | toggle
  | updateConfig
  | switchSoftware
  | delete
  | planChange
deriving DecidableEq, Repr

/-- The check of a route. Only the owner changes the plan, by a payment. -/
def Mutation.find (db : Database) (serverId user : Uuid) : Mutation → Except HttpError Server
  | .start | .stop | .toggle | .delete => findServer db serverId user (some "start_stop")
  | .updateConfig | .switchSoftware => findServer db serverId user (some "config")
  | .planChange =>
      match db.servers.get? serverId with
      | none => .error ⟨404, "Server not found"⟩
      | some server =>
          if server.ownerId = user then .ok server else .error ⟨404, "Server not found"⟩

/-- Whose entries a change drops: those of the user who makes it, for a removal the owner's. -/
def Mutation.reader (user : Uuid) (server : Server) : Mutation → Uuid
  | .delete => server.ownerId
  | _ => user

/-- `_invalidate_server_read_cache`: the keys that it deletes, in this order. -/
def invalidateServerReadCache (user server : Uuid) : List Key :=
  [⟨user, .list⟩, ⟨user, .detail server⟩, ⟨user, .config server⟩]

-- Requests side by side

/-- A cached payload, the version of the database that it shows, and when it runs out. -/
structure Entry where
  payload : Payload
  version : Nat
  expires : Nat

/-- A read that has begun: the last version that it has to show, whether its server was removed
before, what it has loaded, and whether the cache had nothing for it.
-/
structure ReadRequest where
  key : Key
  due : Nat
  removed : Bool
  loaded : Option (Nat × Payload) := none
  missed : Bool := false

/-- A change that has begun: the server it is about with its owner, the version that it
committed last, and the keys that it still has to delete from the cache once it does so.
-/
structure MutationRequest where
  mutation : Mutation
  reader : Uuid
  server : Uuid
  owner : Uuid
  committed : Option Nat := none
  dropping : Option (List Key) := none

/-- An answer to a read, with what was due when it began. -/
structure Answered where
  key : Key
  due : Nat
  removed : Bool
  answer : Except HttpError Payload

/-- What every version of the database stored, the number of the current one, and the servers
that were removed.
-/
structure History where
  stored : Nat → Stored
  version : Nat := 0
  removed : List Uuid := []

structure State where
  history : History
  now : Nat := 0
  cache : Key → Option Entry := fun _ => none
  due : Key → Nat := fun _ => 0
  reads : Nat → Option ReadRequest := fun _ => none
  mutations : Nat → Option MutationRequest := fun _ => none
  answers : List Answered := []

inductive Event where
  | tick (seconds : Nat)
  | ask (id : Nat) (key : Key)
  | look (id : Nat)
  | load (id : Nat)
  | store (id : Nat)
  | request (id : Nat) (user : Uuid) (mutation : Mutation) (server : Uuid)
  | commit (id : Nat) (after : Stored)
  | invalidate (id : Nat)
  | drop (id : Nat)
  | finish (id : Nat)
  | abandon (id : Nat)
  | write (after : Stored)
  | discard (key : Key)

def Key.shows (server owner : Uuid) (key : Key) : Bool :=
  match key.read with
  | .list => key.user = owner
  | .detail id | .config id => id = server

def Key.gone (removed : List Uuid) (key : Key) : Bool :=
  key.read.server.any (· ∈ removed)

def MutationRequest.keys (request : MutationRequest) : List Key :=
  invalidateServerReadCache request.reader request.server

namespace History

def current (history : History) : Stored := history.stored history.version

/-- Commit a next version. Identifiers are random, so a removed server does not come back. -/
def write (after : Stored) (history : History) : Option History :=
  if ∀ id ∈ history.removed, after.db.servers.get? id = none then
    some
      {
        stored := Function.update history.stored (history.version + 1) after,
        version := history.version + 1,
        removed := history.removed
          ++ (history.current.db.servers.rows.map Server.id).filter (fun id =>
            (after.db.servers.get? id).isNone)
      }
  else none

end History

namespace State

/-- What the cache returns: an entry that has not run out. -/
def getJson (key : Key) (state : State) : Option Entry :=
  (state.cache key).filter (fun entry => state.now < entry.expires)

def setHistory (history : History) (state : State) : State :=
  { state with history := history }

def setRead (id : Nat) (request : Option ReadRequest) (state : State) : State :=
  { state with reads := Function.update state.reads id request }

def setMutation (id : Nat) (request : Option MutationRequest) (state : State) : State :=
  { state with mutations := Function.update state.mutations id request }

def setCache (key : Key) (entry : Option Entry) (state : State) : State :=
  { state with cache := Function.update state.cache key entry }

def reply (id : Nat) (request : ReadRequest) (answer : Except HttpError Payload) (state : State)
    : State :=
  { state.setRead id none with
    answers := state.answers ++ [⟨request.key, request.due, request.removed, answer⟩] }

def ask (id : Nat) (key : Key) (state : State) : Option State :=
  if (state.reads id).isSome then none
  else
    some (state.setRead id
      (some { key := key, due := state.due key, removed := key.gone state.history.removed }))

/-- Ask the cache: a list before the database is read, the others after their server is found.
-/
def look (id : Nat) (request : ReadRequest) (state : State) : Option State :=
  if request.missed ∨ (request.key.read ≠ .list ∧ request.loaded.isNone) then none
  else
    match state.getJson request.key with
    | some entry => some (state.reply id request entry.payload.respond)
    | none => some (state.setRead id (some { request with missed := true }))

/-- Read the database: a list after the cache had none, the others first. A refusal ends the
read.
-/
def load (around : Surroundings) (id : Nat) (request : ReadRequest) (state : State)
    : Option State :=
  if request.loaded.isSome ∨ (request.key.read = .list ∧ request.missed = false) then none
  else
    match request.key.render around state.history.current with
    | .ok payload =>
        some (state.setRead id
          (some { request with loaded := some (state.history.version, payload) }))
    | .error refusal => some (state.reply id request (.error refusal))

/-- Keep what was loaded, and answer with it. -/
def store (id : Nat) (request : ReadRequest) (state : State) : Option State :=
  match request.missed, request.loaded with
  | true, some (version, payload) =>
      let entry : Entry := ⟨payload, version, state.now + request.key.read.ttl⟩
      some ((state.setCache request.key (some entry)).reply id request payload.respond)
  | _, _ => none

/-- A change begins when its check finds the server. -/
def request (id : Nat) (user : Uuid) (mutation : Mutation) (server : Uuid) (state : State)
    : Option State :=
  match state.mutations id, mutation.find state.history.current.db server user with
  | none, .ok found =>
      some (state.setMutation id (some
        {
          mutation := mutation,
          reader := mutation.reader user found,
          server := found.id,
          owner := found.ownerId
        }))
  | _, _ => none

def commit (id : Nat) (request : MutationRequest) (after : Stored) (state : State)
    : Option State :=
  if request.dropping.isSome then none
  else
    (state.history.write after).map (fun written =>
      (state.setHistory written).setMutation id
        (some { request with committed := some written.version }))

def invalidate (id : Nat) (request : MutationRequest) (state : State) : Option State :=
  if request.committed.isSome ∧ request.dropping.isNone
      ∧ (request.mutation = .delete → request.server ∈ state.history.removed) then
    some (state.setMutation id (some { request with dropping := some request.keys }))
  else none

def drop (id : Nat) (request : MutationRequest) (state : State) : Option State :=
  match request.dropping with
  | some (key :: rest) =>
      some ((state.setCache key none).setMutation id
        (some { request with dropping := some rest }))
  | _ => none

/-- The change returns: from now on reads that show the server have to show its version. Those
of a removed server have to be refused instead.
-/
def finish (id : Nat) (request : MutationRequest) (state : State) : Option State :=
  match request.committed, request.dropping with
  | some version, some [] =>
      some { state.setMutation id none with
        due := fun key =>
          if key.shows request.server request.owner && !key.gone state.history.removed then
            max (state.due key) version
          else state.due key }
  | _, _ => none

/-- A change that raises, or has nothing to do, drops nothing. -/
def abandon (id : Nat) (request : MutationRequest) (state : State) : Option State :=
  if request.dropping.isSome then none else some (state.setMutation id none)

/-- One event. Other parts of the backend write to the database and delete keys at any time. -/
def step (around : Surroundings) (state : State) : Event → Option State
  | .tick seconds => some { state with now := state.now + seconds }
  | .ask id key => state.ask id key
  | .look id => (state.reads id).bind (fun request => state.look id request)
  | .load id => (state.reads id).bind (fun request => state.load around id request)
  | .store id => (state.reads id).bind (fun request => state.store id request)
  | .request id user mutation server => state.request id user mutation server
  | .commit id after => (state.mutations id).bind (fun request => state.commit id request after)
  | .invalidate id => (state.mutations id).bind (fun request => state.invalidate id request)
  | .drop id => (state.mutations id).bind (fun request => state.drop id request)
  | .finish id => (state.mutations id).bind (fun request => state.finish id request)
  | .abandon id => (state.mutations id).bind (fun request => state.abandon id request)
  | .write after => (state.history.write after).map (fun written => state.setHistory written)
  | .discard key => some (state.setCache key none)

end State

end Blockhost.ServerReads
