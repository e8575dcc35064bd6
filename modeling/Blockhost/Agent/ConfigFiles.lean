import Blockhost.Agent.StartProperties

/-! What configuration requests and first starts write into `server.properties`, key by key:
the fields that are present, and for the others what stands in for them.
-/

namespace Blockhost.ServerProperties

open Library

-- Requests

/-- `current.update(update)`, for the fields that a request can have. -/
def updatedWith (current update : ConfigFields) : ConfigFields where
  bedrockImage := update.bedrockImage.or current.bedrockImage
  bedrockVersion := update.bedrockVersion.or current.bedrockVersion
  serverName := update.serverName.or current.serverName
  gamemode := update.gamemode.or current.gamemode
  difficulty := update.difficulty.or current.difficulty
  maxPlayers := update.maxPlayers.or current.maxPlayers
  allowCheats := update.allowCheats.or current.allowCheats
  onlineMode := update.onlineMode.or current.onlineMode
  levelName := update.levelName.or current.levelName
  levelSeed := update.levelSeed.or current.levelSeed
  motd := update.motd.or current.motd

/-- The update of a request whose version and player number pass, and the configuration with
it. A blank version replaces a stored one.
-/
def updateServerConfig (sanitizeVersion : String → Except String (Option String))
    (playerLimit : Int) (current update : ConfigFields)
    : Except HttpError (ConfigFields × ConfigFields) := do
  let bedrockVersion ← checkVersion sanitizeVersion update.bedrockVersion
  let maxPlayers ← checkMaxPlayers playerLimit update.maxPlayers
  let update := { update with bedrockVersion := bedrockVersion.join, maxPlayers }
  return (update,
    { updatedWith current update with
      bedrockVersion := bedrockVersion.getD current.bedrockVersion })

/-- What a request sends to the agent of a running server. -/
def propertyUpdates (flavor : ServerFlavor) (worldName : String) (playerLimit : Int)
    (update : ConfigFields)
    : List (String × PropertyValue) :=
  if flavor = .bedrock then
    [("server-name", .text (textOr update.serverName worldName))]
    ++ given "gamemode" .text update.gamemode
    ++ given "difficulty" .text update.difficulty
    ++ given "max-players" .number update.maxPlayers
    ++ given "allow-cheats" .flag update.allowCheats
    ++ [("level-name", .text (textOr update.levelName worldName))]
    ++ given "level-seed" .text update.levelSeed
  else
    [("motd", .text (textOr update.motd worldName))]
    ++ given "max-players" .number
      ((update.maxPlayers.filter (fun most => most ≠ 0)).or
        (clampMaxPlayersOr playerLimit none (some 20)))
    ++ [("gamemode", .text (textOr update.gamemode "survival")),
      ("difficulty", .text (textOr update.difficulty "normal")),
      ("level-name", .text (textOr update.levelName worldName)),
      ("level-seed", .text (textOr update.levelSeed ""))]

/-- The agent sets one key after the other, in a file that it makes if there is none. -/
def setProperties (entries : List (String × PropertyValue)) (file : Option Text) : Option Text :=
  entries.foldl (fun file entry => some (setServerProperty entry.1 entry.2 (file.getD []))) file

-- Fields and keys

/-- The key under which the file of an edition has a field of the configuration. -/
def propertyName (flavor : ServerFlavor) : ConfigKey → Option String
  | .motd => if isJavaFlavor flavor then some "motd" else none
  | .serverName => if isJavaFlavor flavor then none else some "server-name"
  | .gamemode => some "gamemode"
  | .difficulty => some "difficulty"
  | .maxPlayers => some "max-players"
  | .allowCheats => if isJavaFlavor flavor then none else some "allow-cheats"
  | .levelName => some "level-name"
  | .levelSeed => some "level-seed"
  | _ => none

def fieldValue (fields : ConfigFields) : ConfigKey → Option PropertyValue
  | .motd => fields.motd.map .text
  | .serverName => fields.serverName.map .text
  | .gamemode => fields.gamemode.map .text
  | .difficulty => fields.difficulty.map .text
  | .maxPlayers => fields.maxPlayers.map .number
  | .allowCheats => fields.allowCheats.map .flag
  | .levelName => fields.levelName.map .text
  | .levelSeed => fields.levelSeed.map .text
  | _ => none

/-- What stands in for a field that is not present, with a player number of its own. -/
def defaultValue (flavor : ServerFlavor) (worldName : String) (maxPlayers : Option Int)
    : ConfigKey → Option PropertyValue
  | .motd => if isJavaFlavor flavor then some (.text worldName) else none
  | .serverName => if isJavaFlavor flavor then none else some (.text worldName)
  | .gamemode => if isJavaFlavor flavor then some (.text "survival") else none
  | .difficulty => if isJavaFlavor flavor then some (.text "normal") else none
  | .maxPlayers => maxPlayers.map .number
  | .levelName => some (.text worldName)
  | .levelSeed => if isJavaFlavor flavor then some (.text "") else none
  | _ => none

/-- The player number of a request that names none. -/
def unnamedMaxPlayers (flavor : ServerFlavor) (playerLimit : Int) : Option Int :=
  if isJavaFlavor flavor then clampMaxPlayersOr playerLimit none (some 20) else none

/-- The player number of a new file where none is configured. -/
def newMaxPlayers (flavor : ServerFlavor) (playerLimit : Int) : Option Int :=
  if isJavaFlavor flavor then
    some (((clampMaxPlayersOr playerLimit none (some 20)).filter (fun most => most ≠ 0)).getD 1)
  else clampMaxPlayersOr playerLimit none none

/-- The fields for which another text is put where they are empty. -/
def substitutedKeys (flavor : ServerFlavor) : List ConfigKey :=
  if isJavaFlavor flavor then [.motd, .gamemode, .difficulty, .levelName]
  else [.serverName, .levelName]

def worldNameKeys (flavor : ServerFlavor) : List ConfigKey :=
  if isJavaFlavor flavor then [.motd, .levelName] else [.serverName, .levelName]

/-- Fields that lines give back as they are: no text has a line break or space around it, also
not the world name where it stands in, and none is empty where another text is put in its
place.
-/
structure Writable (flavor : ServerFlavor) (worldName : String) (fields : ConfigFields)
    : Prop where
  legible
    : ∀ key name value, propertyName flavor key = some name → fieldValue fields key = some value
      → Legible value.written.toList
  filled : ∀ key ∈ substitutedKeys flavor, fieldValue fields key ≠ some (.text "")
  standIn
    : (∃ key ∈ worldNameKeys flavor, fieldValue fields key = none) → Legible worldName.toList

-- Values

variable {flavor : ServerFlavor} {worldName name : String} {playerLimit : Int}
variable {fields : ConfigFields} {key : ConfigKey}

theorem textOr_eq {text : Option String} (filled : text ≠ some "") (fallback : String)
    : textOr text fallback = text.getD fallback := by
  cases text with
  | none => rfl
  | some present =>
      have named : present ≠ "" := fun empty => filled (by rw [empty])
      unfold textOr
      rw [Option.filter_some, if_pos (decide_eq_true named)]

theorem textOr_empty (text : Option String) : textOr text "" = text.getD "" := by
  by_cases empty : text = some ""
  · subst empty
    rfl
  · exact textOr_eq empty ""

/-- A field that is present is sent, and else what stands in for it, each under its own key. -/
theorem assigned_propertyUpdates
    (filled : ∀ key ∈ substitutedKeys flavor, fieldValue fields key ≠ some (.text ""))
    (positive : fields.maxPlayers ≠ some 0) (named : propertyName flavor key = some name)
    : assigned (writtenEntries (propertyUpdates flavor worldName playerLimit fields)) name
      = ((fieldValue fields key).or
          (defaultValue flavor worldName (unnamedMaxPlayers flavor playerLimit) key)).map
          PropertyValue.written := by
  have most : fields.maxPlayers.filter (fun most => !decide (most = 0)) = fields.maxPlayers := by
    cases given : fields.maxPlayers with
    | none => rfl
    | some most =>
        have other : most ≠ 0 := fun zero => positive (by rw [given, zero])
        simp [Option.filter, other]
  unfold propertyUpdates unnamedMaxPlayers
  unfold propertyName isJavaFlavor at named
  unfold substitutedKeys isJavaFlavor at filled
  by_cases bedrock : flavor = .bedrock
  · simp [bedrock, fieldValue] at filled
    cases key <;> simp [bedrock] at named <;> subst named <;>
      simp [bedrock, assigned_append, assigned_cons, fieldValue, defaultValue, isJavaFlavor,
        textOr_eq, filled, PropertyValue.written]
  · simp [bedrock, fieldValue] at filled
    cases key <;> simp [bedrock] at named <;> subst named <;>
      simp [bedrock, assigned_append, assigned_cons, fieldValue, defaultValue, isJavaFlavor,
        textOr_eq, textOr_empty, filled, PropertyValue.written, most]
    -- the player number, which is the plan's where the request has none
    cases fields.maxPlayers with
    | none => simp
    | some most => rfl

theorem clampMaxPlayersOr_some {most : Int} (least : 1 ≤ most) (within : most ≤ playerLimit)
    (fallback : Option Int)
    : clampMaxPlayersOr playerLimit (some most) fallback = some most := by
  have paid : ¬ playerLimit ≤ 0 := by omega
  have clamped : clampMaxPlayers playerLimit most = some most := by
    unfold clampMaxPlayers
    rw [if_neg paid, min_eq_left within, max_eq_right least]
  unfold clampMaxPlayersOr
  rw [if_neg paid, Option.some_or]
  exact clamped

def newEntries : EditionProperties → List (String × PropertyValue)
  | .java props =>
      props.settings
      ++ (props.limits
        ++ [("rcon-port", .number props.rconPort), ("rcon-password", .text props.rconPassword)])
  | .bedrock props =>
      props.settings
      ++ [("enable-lan-visibility", .flag props.enableLanVisibility),
        ("server-port", .number props.serverPort)]

theorem agentFile_none (start : ServerStart)
    : start.agentFile none = writeLines (propertyLines (newEntries start.properties)) := by
  unfold ServerStart.agentFile ServerStart.payload
  cases start.properties with
  | java props =>
      exact congrArg (fun entries => writeLines (propertyLines entries)) (safe_java props)
  | bedrock props =>
      exact congrArg (fun entries => writeLines (propertyLines entries)) (safe_bedrock props)

theorem assigned_newEntries {start : ServerStart}
    (filled : ∀ key ∈ substitutedKeys start.flavor, fieldValue start.config key ≠ some (.text ""))
    (within : ∀ most, start.config.maxPlayers = some most → 1 ≤ most ∧ most ≤ start.playerLimit)
    (named : propertyName start.flavor key = some name)
    : assigned (writtenEntries (newEntries start.properties)) name
      = ((fieldValue start.config key).or
          (defaultValue start.flavor start.worldName
            (newMaxPlayers start.flavor start.playerLimit) key)).map
          PropertyValue.written := by
  have clamped (most : Int) (given : start.config.maxPlayers = some most) (fallback : Option Int)
      : clampMaxPlayersOr start.playerLimit (some most) fallback = some most :=
    clampMaxPlayersOr_some (within most given).1 (within most given).2 fallback
  unfold ServerStart.properties propertiesFromConfig newMaxPlayers
  unfold propertyName at named
  unfold substitutedKeys at filled
  cases java : isJavaFlavor start.flavor with
  | true =>
      simp [java, fieldValue] at filled
      cases key <;> simp [java] at named <;> subst named <;>
        simp [java, newEntries, JavaServerProperties.settings, JavaServerProperties.limits,
          JavaServerProperties.entries, javaServerPropertiesFromConfig, assigned_cons, textOr_eq,
          textOr_empty, filled, fieldValue, defaultValue, PropertyValue.written]
      cases given : start.config.maxPlayers with
      | none => rfl
      | some most =>
          have positive : most ≠ 0 := by
            have least := (within most given).1
            omega
          rw [clamped most given]
          simp [Option.filter, positive]
  | false =>
      simp [java, fieldValue] at filled
      cases key <;> simp [java] at named <;> subst named <;>
        simp [java, newEntries, BedrockServerProperties.settings, serverPropsFromConfig,
          assigned_append, assigned_cons, textOr_eq, filled, fieldValue, defaultValue,
          PropertyValue.written]
      cases given : start.config.maxPlayers with
      | none => simp
      | some most =>
          rw [clamped most given]
          simp

-- Legible lines

theorem legible_number (value : Int) : Legible (PropertyValue.number value).written.toList :=
  (spaceless_number value).legible

theorem legible_flag (value : Bool) : Legible (PropertyValue.flag value).written.toList :=
  (spaceless_flag value).legible

theorem legible_textOr {text : Option String} {fallback : String}
    (given : ∀ present, text = some present → Legible present.toList)
    (standIn : text = none ∨ text = some "" → Legible fallback.toList)
    : Legible (textOr text fallback).toList := by
  by_cases empty : text = some ""
  · subst empty
    exact standIn (.inr rfl)
  · rw [textOr_eq empty]
    cases text with
    | none => exact standIn (.inl rfl)
    | some present => exact given present rfl

namespace Writable

theorem legible_text (writable : Writable flavor worldName fields) (key : ConfigKey)
    {text : Option String} (named : propertyName flavor key = some name)
    (own : fieldValue fields key = text.map .text) (present : String) (same : text = some present)
    : Legible (PropertyValue.text present).written.toList :=
  writable.legible key name (.text present) named (by rw [own, same]; rfl)

theorem legible_worldName (writable : Writable flavor worldName fields) (key : ConfigKey)
    {text : Option String} (named : propertyName flavor key = some name)
    (own : fieldValue fields key = text.map .text) (listed : key ∈ worldNameKeys flavor)
    (substituted : key ∈ substitutedKeys flavor)
    : Legible (PropertyValue.text (textOr text worldName)).written.toList := by
  refine legible_textOr (writable.legible_text key named own) ?_
  rintro (none | empty)
  · subst none
    exact writable.standIn ⟨key, listed, own⟩
  · subst empty
    exact absurd own (writable.filled key substituted)

theorem legible_literal (writable : Writable flavor worldName fields) (key : ConfigKey)
    {text : Option String} {fallback : String} (named : propertyName flavor key = some name)
    (own : fieldValue fields key = text.map .text) (literal : Legible fallback.toList)
    : Legible (PropertyValue.text (textOr text fallback)).written.toList :=
  legible_textOr (writable.legible_text key named own) fun _ => literal

theorem legible_propertyUpdates (writable : Writable flavor worldName fields) (playerLimit : Int)
    : LegibleEntries (propertyUpdates flavor worldName playerLimit fields) := by
  unfold propertyUpdates
  by_cases bedrock : flavor = .bedrock
  · subst bedrock
    rw [if_pos rfl]
    refine .append (.append (.append (.append (.append (.append ?_ ?_) ?_) ?_) ?_) ?_) ?_
    · exact .cons (by decide)
        (writable.legible_worldName .serverName rfl rfl (by decide) (by decide)) .nil
    · exact .given (by decide) (writable.legible_text .gamemode rfl rfl)
    · exact .given (by decide) (writable.legible_text .difficulty rfl rfl)
    · exact .given (by decide) (fun most _ => legible_number most)
    · exact .given (by decide) (fun allowed _ => legible_flag allowed)
    · exact .cons (by decide)
        (writable.legible_worldName .levelName rfl rfl (by decide) (by decide)) .nil
    · exact .given (by decide) (writable.legible_text .levelSeed rfl rfl)
  · have java : isJavaFlavor flavor = true := decide_eq_true bedrock
    have listed : .motd ∈ worldNameKeys flavor ∧ .levelName ∈ worldNameKeys flavor := by
      simp [worldNameKeys, java]
    have substituted : .motd ∈ substitutedKeys flavor ∧ .levelName ∈ substitutedKeys flavor := by
      simp [substitutedKeys, java]
    rw [if_neg bedrock]
    refine .append (.append ?_ ?_) ?_
    · exact .cons (by decide)
        (writable.legible_worldName .motd (if_pos java) rfl listed.1 substituted.1) .nil
    · exact .given (by decide) (fun most _ => legible_number most)
    · exact .cons (by decide) (writable.legible_literal .gamemode rfl rfl (by decide)) <|
        .cons (by decide) (writable.legible_literal .difficulty rfl rfl (by decide)) <|
        .cons (by decide)
          (writable.legible_worldName .levelName rfl rfl listed.2 substituted.2) <|
        .cons (by decide) (writable.legible_literal .levelSeed rfl rfl (by decide)) .nil

theorem legible_newEntries {start : ServerStart}
    (writable : Writable start.flavor start.worldName start.config)
    : LegibleEntries (newEntries start.properties) := by
  unfold ServerStart.properties propertiesFromConfig
  cases java : isJavaFlavor start.flavor with
  | true =>
      have listed
          : .motd ∈ worldNameKeys start.flavor ∧ .levelName ∈ worldNameKeys start.flavor := by
        simp [worldNameKeys, java]
      have substituted
          : .motd ∈ substitutedKeys start.flavor ∧ .levelName ∈ substitutedKeys start.flavor := by
        simp [substitutedKeys, java]
      refine .append ?_ (.append (plain_limits _).legible ?_)
      · exact .cons (by decide) (legible_number _) <|
          .cons (by decide) (legible_number _) <|
          .cons (by decide) (writable.legible_literal .gamemode rfl rfl (by decide)) <|
          .cons (by decide) (writable.legible_literal .difficulty rfl rfl (by decide)) <|
          .cons (by decide) (legible_flag _) <|
          .cons (by decide)
            (writable.legible_worldName .levelName rfl rfl listed.2 substituted.2) <|
          .cons (by decide) (writable.legible_literal .levelSeed rfl rfl (by decide)) <|
          .cons (by decide)
            (writable.legible_worldName .motd (if_pos java) rfl listed.1 substituted.1) <|
          .cons (by decide) (legible_flag _) .nil
      · exact .cons (by decide) (legible_number _) <|
          .cons (by decide) start.password.spaceless.legible .nil
  | false =>
      have bedrock : ¬ isJavaFlavor start.flavor = true := by
        rw [java]
        exact Bool.false_ne_true
      have listed
          : .serverName ∈ worldNameKeys start.flavor
            ∧ .levelName ∈ worldNameKeys start.flavor := by
        simp [worldNameKeys, java]
      have substituted
          : .serverName ∈ substitutedKeys start.flavor
            ∧ .levelName ∈ substitutedKeys start.flavor := by
        simp [substitutedKeys, java]
      refine .append (.append (.append (.append (.append (.append (.append (.append
        ?_ ?_) ?_) ?_) ?_) ?_) ?_) ?_) ?_
      · exact .cons (by decide)
          (writable.legible_worldName .serverName (if_neg bedrock) rfl listed.1 substituted.1)
          .nil
      · exact .given (by decide) (writable.legible_text .gamemode rfl rfl)
      · exact .given (by decide) (writable.legible_text .difficulty rfl rfl)
      · exact .given (by decide) (fun most _ => legible_number most)
      · exact .given (by decide) (fun allowed _ => legible_flag allowed)
      · exact .given (by decide) (fun allowed _ => legible_flag allowed)
      · refine .given (by decide) ?_
        rintro _ ⟨⟩
        exact writable.legible_worldName .levelName rfl rfl listed.2 substituted.2
      · exact .given (by decide) (writable.legible_text .levelSeed rfl rfl)
      · exact .cons (by decide) (legible_flag _) <|
          .cons (by decide) (legible_number _) .nil

end Writable

-- Updates

theorem updateServerConfig_ok {sanitizeVersion : String → Except String (Option String)}
    {current update checked config : ConfigFields}
    (passed : updateServerConfig sanitizeVersion playerLimit current update
      = .ok (checked, config))
    : (∀ key, fieldValue config key = (fieldValue checked key).or (fieldValue current key))
      ∧ checked.maxPlayers ≠ some 0 := by
  unfold updateServerConfig at passed
  obtain ⟨version, _, passed⟩ := except_bind_ok passed
  obtain ⟨players, capped, passed⟩ := except_bind_ok passed
  cases passed
  constructor
  · intro key
    unfold updatedWith fieldValue
    cases key with
    | motd => exact Option.map_or
    | serverName => exact Option.map_or
    | gamemode => exact Option.map_or
    | difficulty => exact Option.map_or
    | maxPlayers => exact Option.map_or
    | allowCheats => exact Option.map_or
    | levelName => exact Option.map_or
    | levelSeed => exact Option.map_or
    | _ => rfl
  · intro zero
    have none : players = some 0 := zero
    subst none
    unfold checkMaxPlayers at capped
    split at capped
    · cases capped
    · split at capped
      · cases capped
      · rename_i clamped
        cases capped
        obtain ⟨_, same⟩ := Option.ite_none_left_eq_some.mp clamped
        have least : 1 ≤ (0 : Int) := by
          rw [← Option.some.inj same]
          exact le_max_left ..
        exact absurd least (by decide)

/-- The stored configuration of a document, as far as a request can have its fields. -/
def configFields (document : ConfigDocument) : ConfigFields where
  bedrockImage := (document.lookup .bedrockImage).bind ConfigValue.text?
  bedrockVersion := (document.lookup .bedrockVersion).bind ConfigValue.text?
  serverName := (document.lookup .serverName).bind ConfigValue.text?
  gamemode := (document.lookup .gamemode).bind ConfigValue.text?
  difficulty := (document.lookup .difficulty).bind ConfigValue.text?
  maxPlayers := (document.lookup .maxPlayers).bind fun value =>
    match value with
    | .number most => some most
    | _ => none
  allowCheats := (document.lookup .allowCheats).bind fun value =>
    match value with
    | .flag allowed => some allowed
    | _ => none
  onlineMode := (document.lookup .onlineMode).bind fun value =>
    match value with
    | .flag online => some online
    | _ => none
  levelName := (document.lookup .levelName).bind ConfigValue.text?
  levelSeed := (document.lookup .levelSeed).bind ConfigValue.text?
  motd := (document.lookup .motd).bind ConfigValue.text?

theorem readProperties_setProperties {entries : List (String × PropertyValue)}
    (legible : LegibleEntries entries) (file : Option Text) (asked : String)
    : readProperties ((setProperties entries file).getD []) asked
      = (assigned (writtenEntries entries) asked).or (readProperties (file.getD []) asked) := by
  have texts
      : (setProperties entries file).getD []
        = entries.foldl (fun text entry => setServerProperty entry.1 entry.2 text)
          (file.getD []) := by
    unfold setProperties
    clear legible
    induction entries generalizing file with
    | nil => rfl
    | cons entry rest ih => exact ih (some _)
  rw [texts, readProperties_setAll legible]

theorem ports_unnamed {payload : StartPayload} {entry : String × PropertyValue}
    (member : entry ∈ payload.ports)
    : propertyName flavor key ≠ some entry.1 := by
  have port : entry.1 = "server-port" ∨ entry.1 = "server-portv6" := by
    unfold StartPayload.ports at member
    rcases List.mem_cons.mp member with first | later
    · subst first
      exact .inl rfl
    · split at later
      · cases later
      · cases List.mem_singleton.mp later
        exact .inr rfl
  intro named
  unfold propertyName at named
  rcases port with same | same <;> rw [same] at named <;> cases key <;> simp at named

end Blockhost.ServerProperties
