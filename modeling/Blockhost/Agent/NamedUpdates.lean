import Blockhost.Agent.ConfigEffects

/-! What a configuration request to a running server changes: the entries of `mc_config` that
it names, and in `server.properties` the keys that are sent, for named and unnamed fields
alike.
-/

namespace Blockhost.ServerProperties

open Library

-- Keys set one after the other

section Setting

variable {entries : List (String × PropertyValue)} {asked : String}

theorem readProperties_setProperties_other
    (silent : ∀ entry ∈ entries, entry.1 ≠ asked
      ∧ assigned (textEntries (propertyLine entry.1 entry.2)) asked = none)
    (file : Option Text)
    : readProperties ((setProperties entries file).getD []) asked
      = readProperties (file.getD []) asked := by
  induction entries generalizing file with
  | nil => rfl
  | cons entry rest ih =>
      obtain ⟨⟨other, first⟩, later⟩ := List.forall_mem_cons.mp silent
      have whole : setProperties (entry :: rest) file
          = setProperties rest (some (setServerProperty entry.1 entry.2 (file.getD []))) :=
        rfl
      rw [whole, ih later, Option.getD_some, readProperties_set_other other.symm first]

theorem readProperties_setProperties_own (distinct : (entries.map Prod.fst).Nodup)
    {own : String × PropertyValue} (member : own ∈ entries)
    (silent : ∀ entry ∈ entries, entry.1 ≠ own.1
      → assigned (textEntries (propertyLine entry.1 entry.2)) own.1 = none)
    (file : Option Text)
    : readProperties ((setProperties entries file).getD []) own.1
      = assigned (textEntries (propertyLine own.1 own.2)) own.1 := by
  induction entries generalizing file with
  | nil => exact absurd member List.not_mem_nil
  | cons entry rest ih =>
      obtain ⟨-, later⟩ := List.forall_mem_cons.mp silent
      obtain ⟨fresh, distinct⟩ := List.nodup_cons.mp distinct
      have whole : setProperties (entry :: rest) file
          = setProperties rest (some (setServerProperty entry.1 entry.2 (file.getD []))) :=
        rfl
      rw [whole]
      rcases List.mem_cons.mp member with same | member
      · subst same
        have others : ∀ entry ∈ rest, entry.1 ≠ own.1
            ∧ assigned (textEntries (propertyLine entry.1 entry.2)) own.1 = none := by
          intro entry listed
          have other : entry.1 ≠ own.1 := fun same =>
            fresh (same ▸ List.mem_map_of_mem listed)
          exact ⟨other, later entry listed other⟩
        rw [readProperties_setProperties_other others, Option.getD_some, readProperties_set_own]
      · exact ih distinct member later _

/-- A key to which a text assigns something is in the file then, by induction on what is set
after it.
-/
theorem readProperties_setProperties_ne_none
    (legible : ∀ entry ∈ entries, entry.1 = asked → LineKey asked)
    {source : String × PropertyValue} (member : source ∈ entries) {val : String}
    (assigns : (asked, val) ∈ textEntries (propertyLine source.1 source.2)) (file : Option Text)
    : readProperties ((setProperties entries file).getD []) asked ≠ none := by
  have stays (rest : List (String × PropertyValue))
      (legible : ∀ entry ∈ rest, entry.1 = asked → LineKey asked) (text : Text)
      (there : ∃ val, (asked, val) ∈ textEntries text)
      : ∃ val, (asked, val) ∈ textEntries ((setProperties rest (some text)).getD []) := by
    induction rest generalizing text with
    | nil => exact there
    | cons entry rest ih =>
        obtain ⟨own, later⟩ := List.forall_mem_cons.mp legible
        refine ih later _ ?_
        by_cases same : entry.1 = asked
        · subst same
          obtain ⟨val, listed⟩ := (own rfl).exists_textEntries entry.2
          exact ⟨val, mem_textEntries_set.mpr (.inl listed)⟩
        · obtain ⟨val, listed⟩ := there
          exact ⟨val, mem_textEntries_set.mpr (.inr ⟨listed, fun back => same back.symm⟩)⟩
  obtain ⟨earlier, later, parts⟩ := List.append_of_mem member
  have whole : setProperties entries file
      = setProperties later (some (setServerProperty source.1 source.2
          ((setProperties earlier file).getD []))) := by
    rw [parts, setProperties, List.foldl_append]
    rfl
  have after : ∀ entry ∈ later, entry.1 = asked → LineKey asked := by
    intro entry listed
    refine legible entry ?_
    rw [parts]
    exact List.mem_append_right _ (List.mem_cons_of_mem _ listed)
  obtain ⟨val, listed⟩ :=
    stays later after _ ⟨val, mem_textEntries_set.mpr (.inl assigns)⟩
  rw [whole, readProperties_eq]
  exact fun none => ne_of_assigned_eq_none none listed rfl

end Setting

-- Requests

structure RunningServer where
  flavor : ServerFlavor
  worldName : String
  document : ConfigDocument := ∅
  file : Option Text := none

/-- A request with what its call of the agent comes to. -/
structure UpdateRequest where
  sanitizeVersion : String → Except String (Option String)
  playerLimit : Int
  config : ConfigFields
  reply : UpdateReply

/-- The entries of `mc_config` that a request names. -/
def names (config : ConfigFields) : ConfigKey → Bool
  | .bedrockImage => config.bedrockImage.isSome
  | .bedrockVersion => config.bedrockVersion.isSome
  | .serverName => config.serverName.isSome
  | .gamemode => config.gamemode.isSome
  | .difficulty => config.difficulty.isSome
  | .maxPlayers => config.maxPlayers.isSome
  | .allowCheats => config.allowCheats.isSome
  | .onlineMode => config.onlineMode.isSome
  | .levelName => config.levelName.isSome
  | .levelSeed => config.levelSeed.isSome
  | .motd => config.motd.isSome
  | _ => false

/-- The keys of `server.properties` for the fields that a request names. -/
def NamesProperty (flavor : ServerFlavor) (config : ConfigFields) (name : String) : Prop :=
  ∃ key, names config key = true ∧ propertyName flavor key = some name

namespace RunningServer

/-- The keys that the agent sets: none for a request that is refused. -/
def sent (server : RunningServer) (request : UpdateRequest) : List (String × PropertyValue) :=
  match ServerProperties.updateServerConfig request.sanitizeVersion request.playerLimit
      (configFields server.document) request.config with
  | .error _ => []
  | .ok (update, _) =>
      let entries := propertyUpdates server.flavor server.worldName request.playerLimit update
      match request.reply with
      | .updated => entries
      | .failed set => entries.take set

/-- The configuration is stored when the agent has set all keys. -/
def stored (server : RunningServer) (request : UpdateRequest) : ConfigDocument :=
  match updateConfigEdit request.sanitizeVersion request.playerLimit request.config,
      request.reply with
  | .ok edit, .updated => edit.apply server.document
  | _, _ => server.document

/-- `update_server_config` of a running server -/
def updateServerConfig (server : RunningServer) (request : UpdateRequest) : RunningServer :=
  { server with
    document := server.stored request
    file := setProperties (server.sent request) server.file }

end RunningServer

variable (server : RunningServer) (request : UpdateRequest)

/-- Everything that the request does not name stays as it is. -/
structure TouchesOnlyNamed : Prop where
  document
    : ∀ key, names request.config key = false
      → (server.updateServerConfig request).document.lookup key = server.document.lookup key
  properties
    : ∀ name, ¬ NamesProperty server.flavor request.config name
      → readProperties ((server.updateServerConfig request).file.getD []) name
        = readProperties (server.file.getD []) name

/-- A text that is sent, on however many lines it is written, assigns nothing but its own key
and what the request names.
-/
def Contained : Prop :=
  ∀ entry ∈ server.sent request, ∀ other ∈ textEntries (propertyLine entry.1 entry.2),
    other.1 = entry.1 ∨ NamesProperty server.flavor request.config other.1

/-- What is sent for a field that the request does not name is what the file has. -/
def SendsCurrent : Prop :=
  ∀ entry ∈ server.sent request, ¬ NamesProperty server.flavor request.config entry.1
    → readProperties (server.file.getD []) entry.1
      = assigned (textEntries (propertyLine entry.1 entry.2)) entry.1

-- What is sent

variable {server : RunningServer} {request : UpdateRequest}

def sentKeys (flavor : ServerFlavor) : List String :=
  if flavor = .bedrock then
    ["server-name", "gamemode", "difficulty", "max-players", "allow-cheats", "level-name",
      "level-seed"]
  else ["motd", "max-players", "gamemode", "difficulty", "level-name", "level-seed"]

theorem given_sublist {Field : Type} (key : String) (value : Field → PropertyValue)
    (field : Option Field)
    : ((given key value field).map Prod.fst).Sublist [key] := by
  cases field with
  | none => exact List.nil_sublist _
  | some present => exact List.Sublist.refl _

theorem propertyUpdates_sublist (flavor : ServerFlavor) (worldName : String) (playerLimit : Int)
    (config : ConfigFields)
    : ((propertyUpdates flavor worldName playerLimit config).map Prod.fst).Sublist
        (sentKeys flavor) := by
  unfold propertyUpdates sentKeys
  split
  · rw [List.map_append, List.map_append, List.map_append, List.map_append, List.map_append,
      List.map_append]
    exact ((((((List.Sublist.refl _).append (given_sublist ..)).append
      (given_sublist ..)).append (given_sublist ..)).append (given_sublist ..)).append
      (List.Sublist.refl _)).append (given_sublist ..)
  · rw [List.map_append, List.map_append]
    exact ((List.Sublist.refl _).append (given_sublist ..)).append (List.Sublist.refl _)

theorem sent_sublist
    : ((server.sent request).map Prod.fst).Sublist (sentKeys server.flavor) := by
  unfold RunningServer.sent
  split
  · exact List.nil_sublist _
  · rename_i update _ _
    have whole :=
      propertyUpdates_sublist server.flavor server.worldName request.playerLimit update
    dsimp only
    split
    · exact whole
    · rw [List.map_take]
      exact (List.take_sublist _ _).trans whole

theorem sentKeys_nodup (flavor : ServerFlavor) : (sentKeys flavor).Nodup := by
  unfold sentKeys
  split
  · simp
  · simp

theorem sent_distinct : ((server.sent request).map Prod.fst).Nodup :=
  sent_sublist.nodup (sentKeys_nodup server.flavor)

theorem sent_plain {entry : String × PropertyValue} (member : entry ∈ server.sent request)
    : PlainKey entry.1 := by
  have listed := sent_sublist.subset (List.mem_map_of_mem member)
  have plain : ∀ key ∈ sentKeys server.flavor, PlainKey key := by
    unfold sentKeys
    split
    · decide
    · decide
  exact plain entry.1 listed

-- The stored configuration

theorem last_updateConfigEdit {sanitizeVersion : String → Except String (Option String)}
    {playerLimit : Int} {config : ConfigFields} {edit : ConfigEdit}
    (accepted : updateConfigEdit sanitizeVersion playerLimit config = .ok edit) {key : ConfigKey}
    (unnamed : names config key = false)
    : edit.last key = none := by
  unfold updateConfigEdit at accepted
  obtain ⟨version, checked, accepted⟩ := except_bind_ok accepted
  obtain ⟨most, capped, accepted⟩ := except_bind_ok accepted
  cases accepted
  have noVersion (missing : config.bedrockVersion = none) : version = none := by
    rw [missing] at checked
    cases checked
    rfl
  have noNumber (missing : config.maxPlayers = none) : most = none := by
    rw [missing] at capped
    cases capped
    rfl
  simp only [Edit.last_append, last_assign]
  cases key with
  | bedrockVersion =>
      have missing : version = none := noVersion (by simpa [names] using unnamed)
      simp [missing]
  | maxPlayers =>
      have missing : most = none := noNumber (by simpa [names] using unnamed)
      simp [missing]
  | _ => simp_all [names]

theorem lookup_stored {key : ConfigKey} (unnamed : names request.config key = false)
    : (server.stored request).lookup key = server.document.lookup key := by
  unfold RunningServer.stored
  split
  · rename_i edit accepted _
    rw [Edit.lookup_apply, last_updateConfigEdit accepted unnamed]
    rfl
  · rfl

-- The file

theorem Contained.silent (contained : Contained server request) {name : String}
    (unnamed : ¬ NamesProperty server.flavor request.config name)
    {entry : String × PropertyValue} (member : entry ∈ server.sent request)
    (other : entry.1 ≠ name)
    : assigned (textEntries (propertyLine entry.1 entry.2)) name = none := by
  refine assigned_eq_none fun assignment listed same => ?_
  rcases contained entry member assignment listed with own | named
  · exact other (own.symm.trans same)
  · rw [same] at named
    exact unnamed named

theorem contained_of_legible (legible : LegibleEntries (server.sent request))
    : Contained server request := by
  intro entry member other listed
  rw [textEntries_propertyLine (legible entry member).1 (legible entry member).2,
    List.mem_singleton] at listed
  exact .inl (congrArg Prod.fst listed)

theorem Contained.touchesOnlyNamed_iff (contained : Contained server request)
    : TouchesOnlyNamed server request ↔ SendsCurrent server request := by
  constructor
  · intro touches entry member unnamed
    have own := readProperties_setProperties_own sent_distinct member
      (fun other listed => contained.silent unnamed listed) server.file
    exact (touches.properties entry.1 unnamed).symm.trans own
  · intro current
    refine ⟨fun key => lookup_stored, fun name unnamed => ?_⟩
    by_cases sends : ∃ entry ∈ server.sent request, entry.1 = name
    · obtain ⟨entry, member, rfl⟩ := sends
      have own := readProperties_setProperties_own sent_distinct member
        (fun other listed => contained.silent unnamed listed) server.file
      exact own.trans (current entry member unnamed).symm
    · refine readProperties_setProperties_other (fun entry member => ?_) server.file
      have other : entry.1 ≠ name := fun same => sends ⟨entry, member, same⟩
      exact ⟨other, contained.silent unnamed member other⟩

/-- A request whose texts assign only their own keys and what it names changes nothing else
exactly if the file has what is sent for unnamed fields. Any other request adds a key to some
files that it does not name.
-/
theorem config_requests_touch_only_named_iff (server : RunningServer) (request : UpdateRequest)
    : (Contained server request
        → (TouchesOnlyNamed server request ↔ SendsCurrent server request))
      ∧ (¬ Contained server request
        → ∃ name, ∀ file, readProperties (file.getD []) name = none
          → ¬ TouchesOnlyNamed { server with file } request) := by
  refine ⟨Contained.touchesOnlyNamed_iff, fun uncontained => ?_⟩
  simp only [Contained, not_forall, not_or] at uncontained
  obtain ⟨entry, member, other, listed, -, unnamed⟩ := uncontained
  refine ⟨other.1, fun file absent touches => ?_⟩
  refine readProperties_setProperties_ne_none (fun entry member same => ?_) member listed file
    ((touches.properties other.1 unnamed).trans absent)
  rw [← same]
  exact (sent_plain member).lineKey

private def lobbyServer (serverName : String) : RunningServer where
  flavor := .bedrock
  worldName := "lobby"
  file := some ("server-name=" ++ serverName ++ "\nlevel-name=lobby\n").toList

private def creativeRequest : UpdateRequest where
  sanitizeVersion version := .ok (some version)
  playerLimit := 10
  config := { gamemode := some "creative" }
  reply := .updated

/-- A server that is called like its world is set to creative, and nothing else. -/
theorem lobby_is_set_to_creative
    : TouchesOnlyNamed (lobbyServer "lobby") creativeRequest := by
  have sent : (lobbyServer "lobby").sent creativeRequest
      = [("server-name", .text "lobby"), ("gamemode", .text "creative"),
        ("level-name", .text "lobby")] :=
    rfl
  have legible : LegibleEntries ((lobbyServer "lobby").sent creativeRequest) := by
    rw [sent]
    exact .cons (by decide) (by decide) (.cons (by decide) (by decide)
      (.cons (by decide) (by decide) .nil))
  refine ((config_requests_touch_only_named_iff _ _).1 (contained_of_legible legible)).mpr ?_
  intro entry member unnamed
  rw [sent] at member
  simp only [List.mem_cons, List.not_mem_nil, or_false] at member
  rcases member with rfl | rfl | rfl
  · decide +kernel
  · exact absurd ⟨.gamemode, rfl, rfl⟩ unnamed
  · decide +kernel

/-- The game mode is set, and the server is called like its world again. -/
theorem alpha_is_renamed
    : ¬ TouchesOnlyNamed (lobbyServer "Alpha") creativeRequest := by
  intro touches
  have unnamed : ¬ NamesProperty .bedrock creativeRequest.config "server-name" := by
    rintro ⟨key, named, same⟩
    cases key <;> cases named
    exact absurd (Option.some.inj same) (by decide)
  have here := touches.properties "server-name" unnamed
  revert here
  decide +kernel

end Blockhost.ServerProperties
