import Blockhost.Agent.ConfigFiles

/-! The stored configuration of a server next to the `server.properties` files of its agents. A
request changes the one and sometimes a file, a start writes a file or takes the one that it
finds, and a move brings the server to other files.
-/

namespace Blockhost.ServerProperties

open Library

-- Servers

/-- What a server has stored, the node whose agent its calls reach, the files that agents have
of it by the storage below them, and the file in its migration snapshot.
-/
structure ConfiguredServer (Storage : Type) where
  flavor : ServerFlavor
  worldName : String
  config : ConfigFields := {}
  state : ServerState := .created
  nodeId : Uuid
  files : Storage → Option Text := fun _ => none
  snapshot : Option (Option Text) := none

/-- The agent sets all keys, or it fails after some of them. -/
inductive UpdateReply where
  | updated
  | failed (set : Nat)

/-- What the plan allows at a start, and what the start draws and looks up. -/
structure StartCall where
  playerLimit : Int
  port : Int
  password : UuidHex
  jarUrl : String

/-- A start that fails may have got as far as the file. -/
inductive StartOutcome where
  | started
  | failed (wrote : Bool) (state : ServerState)

/-- A move makes the calls of the server reach another agent. The files stay where they are,
and a migration takes them along in a snapshot.
-/
inductive ConfigEvent where
  | updateServerConfig (sanitizeVersion : String → Except String (Option String))
      (playerLimit : Int) (update : ConfigFields) (reply : UpdateReply)
  | start (call : StartCall) (outcome : StartOutcome)
  | stop
  | move (nodeId : Uuid) (state : ServerState)
  | backupServer
  | restoreServer

namespace ConfiguredServer

variable {Storage : Type} (storage : Uuid → Storage)

def file (server : ConfiguredServer Storage) : Option Text := server.files (storage server.nodeId)

def serverStart (server : ConfiguredServer Storage) (call : StartCall) : ServerStart where
  flavor := server.flavor
  worldName := server.worldName
  config := server.config
  playerLimit := call.playerLimit
  port := call.port
  password := call.password
  jarUrl := call.jarUrl

variable [DecidableEq Storage]

def withFile (server : ConfiguredServer Storage) (file : Option Text)
    : ConfiguredServer Storage :=
  { server with files := Function.update server.files (storage server.nodeId) file }

def wroteFile (server : ConfiguredServer Storage) (call : StartCall) : ConfiguredServer Storage :=
  server.withFile storage (some ((server.serverStart call).agentFile (server.file storage)))

/-- One event. Only the request to a running server goes to the agent, and what that has set it
keeps when it fails; the request is then not stored.
-/
def perform (server : ConfiguredServer Storage) : ConfigEvent → ConfiguredServer Storage
  | .updateServerConfig sanitizeVersion playerLimit update reply =>
      match updateServerConfig sanitizeVersion playerLimit server.config update with
      | .error _ => server
      | .ok (update, config) =>
          if server.state = .running then
            let entries := propertyUpdates server.flavor server.worldName playerLimit update
            match reply with
            | .updated =>
                { server with config }.withFile storage
                  (setProperties entries (server.file storage))
            | .failed set =>
                server.withFile storage (setProperties (entries.take set) (server.file storage))
          else { server with config }
  | .start call .started => { server.wroteFile storage call with state := .running }
  | .start call (.failed wrote state) =>
      { if wrote then server.wroteFile storage call else server with state }
  | .stop => { server with state := .suspended }
  | .move nodeId state => { server with nodeId, state }
  | .backupServer => { server with snapshot := some (server.file storage) }
  | .restoreServer =>
      match server.snapshot with
      | none => server
      | some file => server.withFile storage file

end ConfiguredServer

-- The law

/-- The file has every field of the configuration that is present and that the edition has. -/
def Shows (flavor : ServerFlavor) (fields : ConfigFields) (file : Option Text) : Prop :=
  ∀ key name value, propertyName flavor key = some name → fieldValue fields key = some value
    → readProperties (file.getD []) name = some value.written

section Law

variable {Storage : Type} (storage : Uuid → Storage)

def TakesEffect (server : ConfiguredServer Storage) : Prop :=
  ∃ text, server.file storage = some text ∧ Shows server.flavor server.config (some text)

/-- A request to a running server names every field that is stored, but for those that have the
value which stands in for them, and those for which none does and which the file has.
-/
structure CompleteUpdate (server : ConfiguredServer Storage) (playerLimit : Int)
    (update : ConfigFields)
    : Prop where
  writable : Writable server.flavor server.worldName update
  kept
    : ∀ key name value, propertyName server.flavor key = some name
      → fieldValue server.config key = some value → fieldValue update key = none
      → defaultValue server.flavor server.worldName
            (unnamedMaxPlayers server.flavor playerLimit) key
          = some value
        ∨ server.file storage ≠ none
          ∧ defaultValue server.flavor server.worldName
              (unnamedMaxPlayers server.flavor playerLimit) key
            = none

/-- A start that writes a new file can write all fields. -/
def ClearStart (server : ConfiguredServer Storage) (call : StartCall) : Prop :=
  server.file storage = none
  → Writable server.flavor server.worldName server.config
    ∧ ∀ most, server.config.maxPlayers = some most → 1 ≤ most ∧ most ≤ call.playerLimit

/-- A request to a running server is complete, or the agent fails before it has set a key. To
another server it names nothing that its file does not have. A move and a snapshot bring no
file with an older configuration.
-/
def ClearEvent (server : ConfiguredServer Storage) : ConfigEvent → Prop
  | .updateServerConfig sanitizeVersion playerLimit update reply =>
      ∀ checked config,
        updateServerConfig sanitizeVersion playerLimit server.config update
          = .ok (checked, config)
        → if server.state = .running then
            match reply with
            | .updated => CompleteUpdate storage server playerLimit checked
            | .failed set => set = 0
          else server.file storage = none ∨ Shows server.flavor checked (server.file storage)
  | .start call .started => ClearStart storage server call
  | .start call (.failed wrote _) => wrote = true → ClearStart storage server call
  | .move nodeId _ =>
      server.files (storage nodeId) = none
      ∨ Shows server.flavor server.config (server.files (storage nodeId))
  | .restoreServer =>
      ∀ file, server.snapshot = some file
        → file = none ∨ Shows server.flavor server.config file
  | .stop | .backupServer => True

variable [DecidableEq Storage]

structure ClearStep (before : ConfiguredServer Storage) (event : ConfigEvent)
    (after : ConfiguredServer Storage)
    : Prop where
  clear : ClearEvent storage before event
  performed : after = before.perform storage event

end Law

-- The invariant

section Steps

variable {Storage : Type} {storage : Uuid → Storage} {server : ConfiguredServer Storage}
variable {flavor : ServerFlavor} {call : StartCall}

/-- A file that is there has the stored configuration. -/
def Kept (storage : Uuid → Storage) (server : ConfiguredServer Storage) : Prop :=
  server.file storage = none ∨ Shows server.flavor server.config (server.file storage)

theorem Shows.merged {current checked config : ConfigFields} {file : Option Text}
    (stored : Shows flavor current file) (named : Shows flavor checked file)
    (merges : ∀ key, fieldValue config key = (fieldValue checked key).or (fieldValue current key))
    : Shows flavor config file := by
  intro key name value own present
  rw [merges] at present
  cases given : fieldValue checked key with
  | some replaced =>
      rw [given] at present
      cases present
      exact named key name value own given
  | none =>
      rw [given] at present
      exact stored key name value own present

theorem shows_agentFile (kept : Kept storage server) (clear : ClearStart storage server call)
    : Shows server.flavor server.config
        (some ((server.serverStart call).agentFile (server.file storage))) := by
  intro key name value named present
  have own : fieldValue (server.serverStart call).config key = some value := present
  rw [Option.getD_some]
  cases found : server.file storage with
  | none =>
      obtain ⟨writable, within⟩ := clear found
      rw [agentFile_none, readProperties_writeLines,
        lineEntries_propertyLines (Writable.legible_newEntries writable),
        assigned_newEntries writable.filled within named, own]
      rfl
  | some text =>
      have shown := kept.resolve_left (by rw [found]; exact Option.some_ne_none text)
      have here := shown key name value named present
      have other
          : assigned (writtenEntries (server.serverStart call).payload.ports) name = none := by
        refine assigned_eq_none (forall_mem_writtenEntries.mpr fun entry member same => ?_)
        exact ports_unnamed member (same ▸ named)
      rw [found] at here
      rw [ServerStart.agentFile, readProperties_existing, other]
      exact here

theorem shows_propertyUpdates {sanitizeVersion : String → Except String (Option String)}
    {playerLimit : Int} {update checked config : ConfigFields} (kept : Kept storage server)
    (passed : updateServerConfig sanitizeVersion playerLimit server.config update
      = .ok (checked, config))
    (complete : CompleteUpdate storage server playerLimit checked)
    : Shows server.flavor config
        (setProperties (propertyUpdates server.flavor server.worldName playerLimit checked)
          (server.file storage)) := by
  obtain ⟨merges, positive⟩ := updateServerConfig_ok passed
  intro key name value named present
  rw [readProperties_setProperties (complete.writable.legible_propertyUpdates playerLimit),
    assigned_propertyUpdates complete.writable.filled positive named]
  rw [merges] at present
  cases own : fieldValue checked key with
  | some given =>
      rw [own, Option.some_or] at present
      cases present
      rfl
  | none =>
      rw [own, Option.none_or] at present
      rcases complete.kept key name value named present own with stands | ⟨there, free⟩
      · rw [stands]
        rfl
      · rw [free]
        exact kept.resolve_left there key name value named present

variable [DecidableEq Storage]

@[simp] theorem file_withFile (file : Option Text)
    : (server.withFile storage file).file storage = file :=
  Function.update_self ..

theorem kept_wroteFile (kept : Kept storage server) (clear : ClearStart storage server call)
    : Kept storage (server.wroteFile storage call) := by
  have shown := shows_agentFile kept clear
  unfold Kept ConfiguredServer.wroteFile
  rw [file_withFile]
  exact .inr shown

theorem Kept.step {event : ConfigEvent} {next : ConfiguredServer Storage}
    (kept : Kept storage server) (taken : ClearStep storage server event next)
    : Kept storage next := by
  obtain ⟨clear, performed⟩ := taken
  rw [performed]
  cases event with
  | updateServerConfig sanitizeVersion playerLimit update reply =>
      unfold ConfiguredServer.perform
      dsimp only
      split
      · exact kept
      · rename_i checked config passed
        have clear := clear checked config passed
        split
        · rename_i running
          rw [if_pos running] at clear
          cases reply with
          | updated =>
              refine .inr ?_
              rw [file_withFile]
              exact shows_propertyUpdates kept passed clear
          | failed set =>
              cases clear
              unfold Kept
              rw [file_withFile]
              exact kept
        · rename_i stopped
          rw [if_neg stopped] at clear
          rcases kept with none | shown
          · exact .inl none
          · exact clear.imp_right fun named =>
              shown.merged named (updateServerConfig_ok passed).1
  | start call outcome =>
      cases outcome with
      | started =>
          have written := kept_wroteFile kept clear
          exact written
      | failed wrote state =>
          cases wrote with
          | false => exact kept
          | true =>
              have written := kept_wroteFile kept (clear rfl)
              exact written
  | stop => exact kept
  | move nodeId state => exact clear
  | backupServer => exact kept
  | restoreServer =>
      unfold ConfiguredServer.perform
      dsimp only
      split
      · exact kept
      · rename_i file saved
        unfold Kept
        rw [file_withFile]
        exact clear file saved

-- All runs

/-- In every run of clear events from a server without files, each successful start ends with a
file that has every field of the stored configuration.
-/
theorem clear_runs_take_effect {fresh finish : ConfiguredServer Storage}
    {events : List ConfigEvent} (new : fresh.files = fun _ => none)
    (run : Run (ClearStep storage) fresh (events ++ [.start call .started]) finish)
    : TakesEffect storage finish := by
  obtain ⟨before, earlier, taken⟩ := run.last
  have initial : Kept storage fresh := .inl (congrFun new _)
  have kept : Kept storage before :=
    earlier.invariant (Kept storage) (fun _ => True) (fun _ taken kept => kept.step taken)
      (fun _ _ => trivial) initial
  have shown := shows_agentFile kept taken.clear
  have written
      : (before.wroteFile storage call).file storage
        = some ((before.serverStart call).agentFile (before.file storage)) :=
    file_withFile _
  rw [taken.performed]
  exact ⟨_, written, shown⟩

end Steps

private def newServer : ConfiguredServer Uuid where
  flavor := .bedrock
  worldName := "lobby"
  nodeId := 1

private def newServerCall : StartCall where
  playerLimit := 10
  port := 19140
  password := ⟨"fedcba9876543210fedcba9876543210", by decide, by simp⟩
  jarUrl := ""

/-- A request that sets the game mode, to which the agent of a running server answers. -/
private def setCreative : ConfigEvent :=
  .updateServerConfig (fun version => .ok (some version)) 10 { gamemode := some "creative" }
    .updated

/-- A server that is started, set to creative while it runs, stopped and started again. -/
theorem creative_server_takes_effect
    : ∃ finish : ConfiguredServer Uuid,
        Run (ClearStep id) newServer
          [.start newServerCall .started, setCreative, .stop, .start newServerCall .started]
          finish
        ∧ TakesEffect id finish ∧ finish.config.gamemode = some "creative" := by
  have unset : Writable .bedrock "lobby" {} := by
    refine ⟨?_, ?_, fun _ => by decide⟩
    · intro key name value _ present
      cases key <;> cases present
    · intro key _
      cases key <;> decide
  have creative : Writable .bedrock "lobby" { gamemode := some "creative" } := by
    refine ⟨?_, ?_, fun _ => by decide⟩
    · intro key name value _ present
      cases key <;> cases present
      decide
    · intro key _
      cases key <;> decide
  have run : Run (ClearStep id) newServer
      ([.start newServerCall .started, setCreative, .stop] ++ [.start newServerCall .started])
      ([.start newServerCall .started, setCreative, .stop, .start newServerCall .started].foldl
        (ConfiguredServer.perform id) newServer) := by
    refine .cons ⟨fun _ => ⟨unset, nofun⟩, rfl⟩ <| .cons ⟨?_, rfl⟩ <| .cons ⟨trivial, rfl⟩ <|
      .single ⟨fun none => ?_, rfl⟩
    · rintro checked config ⟨⟩
      have running
          : (newServer.perform id (.start newServerCall .started)).state = .running :=
        rfl
      rw [if_pos running]
      refine ⟨creative, ?_⟩
      intro key name value _ present
      cases key <;> cases present
    · cases none
  exact ⟨_, run, clear_runs_take_effect rfl run, rfl⟩

/-- A request to a stopped server never gets into the file that it has, and one to a running
server puts the world name in place of the stored server name.
-/
theorem requests_leave_old_properties
    : (∃ finish : ConfiguredServer Uuid,
        Run (fun before event after => after = before.perform id event) newServer
          [.start newServerCall .started, .stop, setCreative, .start newServerCall .started]
          finish
        ∧ ¬ TakesEffect id finish)
      ∧ ∃ finish : ConfiguredServer Uuid,
        Run (fun before event after => after = before.perform id event)
          { newServer with config := { serverName := some "Alpha" } }
          [.start newServerCall .started, setCreative, .stop, .start newServerCall .started]
          finish
        ∧ ¬ TakesEffect id finish := by
  refine ⟨⟨_, .of_foldl fun _ _ => rfl, ?_⟩, _, .of_foldl fun _ _ => rfl, ?_⟩
  · rintro ⟨text, found, shown⟩
    have here := shown .gamemode "gamemode" (.text "creative") rfl rfl
    cases found
    revert here
    decide +kernel
  · rintro ⟨text, found, shown⟩
    have here := shown .serverName "server-name" (.text "Alpha") rfl rfl
    cases found
    revert here
    decide +kernel

end Blockhost.ServerProperties
