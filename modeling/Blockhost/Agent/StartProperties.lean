import Blockhost.Minecraft.ServerProperties
import Blockhost.Services.ConfigUpdates

/-! The `server.properties` file that the agent writes at a start, next to the file that the
backend's writers produce for the same configuration and port.
-/

namespace Blockhost.ServerProperties

open Library

-- The configuration

/-- `uuid4().hex` -/
structure UuidHex where
  digits : String
  full : digits.length = 32
  hex : ∀ letter ∈ digits.toList, letter ∈ "0123456789abcdef".toList

/-- A text, or the fallback where it is missing or empty. -/
def textOr (text : Option String) (fallback : String) : String :=
  (text.filter (fun text => text ≠ "")).getD fallback

/-- `clamp_max_players` of a number that may be missing, with a default. -/
def clampMaxPlayersOr (playerLimit : Int) (requested fallback : Option Int) : Option Int :=
  if playerLimit ≤ 0 then none
  else
    match requested.or fallback with
    | none => some playerLimit
    | some base => clampMaxPlayers playerLimit base

def serverPropsFromConfig (worldName : String) (config : ConfigFields) (playerLimit port : Int)
    : BedrockServerProperties where
  serverName := textOr config.serverName worldName
  gamemode := config.gamemode
  difficulty := config.difficulty
  maxPlayers := clampMaxPlayersOr playerLimit config.maxPlayers none
  allowCheats := config.allowCheats
  onlineMode := some false
  levelName := some (textOr config.levelName worldName)
  levelSeed := config.levelSeed
  enableLanVisibility := false
  serverPort := port

def javaServerPropertiesFromConfig (worldName : String) (config : ConfigFields)
    (playerLimit port : Int) (password : UuidHex)
    : JavaServerProperties where
  serverPort := port
  motd := textOr config.motd worldName
  maxPlayers :=
    let most := clampMaxPlayersOr playerLimit config.maxPlayers (some 20)
    (most.filter (fun most => most ≠ 0)).getD 1
  gamemode := textOr config.gamemode "survival"
  difficulty := textOr config.difficulty "normal"
  onlineMode := false
  levelName := textOr config.levelName worldName
  levelSeed := textOr config.levelSeed ""
  enableRcon := true
  rconPort := 25575
  rconPassword := password.digits

inductive EditionProperties where
  | java (props : JavaServerProperties)
  | bedrock (props : BedrockServerProperties)

def propertiesFromConfig (flavor : ServerFlavor) (worldName : String) (config : ConfigFields)
    (playerLimit port : Int) (password : UuidHex)
    : EditionProperties :=
  if isJavaFlavor flavor then
    .java (javaServerPropertiesFromConfig worldName config playerLimit port password)
  else .bedrock (serverPropsFromConfig worldName config playerLimit port)

/-- The file of the backend's writer. -/
def EditionProperties.file : EditionProperties → Text
  | .java props => writeJavaServerProperties props
  | .bedrock props => writeServerProperties props

-- The agent

/-- What a start sends to the agent about the file; it names no executable. -/
structure StartPayload where
  port : Int
  serverPropertiesDict : List (String × PropertyValue)
  jarDownloadUrl : Option String

/-- The payload of the orchestrator; `jarUrl` is what `resolve_jar_url` finds. -/
def startPayload (port : Int) (jarUrl : String) : EditionProperties → StartPayload
  | .java props => { port, serverPropertiesDict := props.asdict, jarDownloadUrl := some jarUrl }
  | .bedrock props => { port, serverPropertiesDict := props.asdict, jarDownloadUrl := none }

def StartPayload.isJava (payload : StartPayload) : Bool :=
  payload.jarDownloadUrl.any (fun url => url ≠ "")

/-- `k.replace("_", "-")` -/
def safeKey (key : String) : String :=
  String.ofList (key.toList.map (fun letter => if letter = '_' then '-' else letter))

def StartPayload.file (payload : StartPayload) : Option Text → Text
  | none =>
      writeLines (propertyLines
        (payload.serverPropertiesDict.map (fun entry => (safeKey entry.1, entry.2))))
  | some text =>
      let text := setServerProperty "server-port" (.number payload.port) text
      if payload.isJava then text
      else setServerProperty "server-portv6" (.number (payload.port + 1)) text

/-- A start of a server: what its row holds, its plan allows, and the start draws and looks up. -/
structure ServerStart where
  flavor : ServerFlavor
  worldName : String
  config : ConfigFields := {}
  playerLimit : Int
  port : Int
  password : UuidHex
  jarUrl : String

namespace ServerStart

def properties (start : ServerStart) : EditionProperties :=
  propertiesFromConfig start.flavor start.worldName start.config start.playerLimit start.port
    start.password

def payload (start : ServerStart) : StartPayload :=
  startPayload start.port start.jarUrl start.properties

def agentFile (start : ServerStart) (existing : Option Text) : Text := start.payload.file existing

/-- The file of the backend's writer for the same configuration and port. -/
def backendFile (start : ServerStart) : Text := start.properties.file

end ServerStart

-- New files

/-- What both Java files begin with, among it all texts of a user. -/
def JavaServerProperties.settings (props : JavaServerProperties)
    : List (String × PropertyValue) :=
  props.entries.take 9

/-- What both Java files have after that. -/
def JavaServerProperties.limits (props : JavaServerProperties) : List (String × PropertyValue) :=
  props.entries.drop 11

/-- What both Bedrock files begin with. -/
def BedrockServerProperties.settings (props : BedrockServerProperties)
    : List (String × PropertyValue) :=
  [("server-name", .text props.serverName)]
  ++ given "gamemode" .text props.gamemode
  ++ given "difficulty" .text props.difficulty
  ++ given "max-players" .number props.maxPlayers
  ++ given "allow-cheats" .flag props.allowCheats
  ++ given "online-mode" .flag props.onlineMode
  ++ given "level-name" .text props.levelName
  ++ given "level-seed" .text props.levelSeed

namespace EditionProperties

/-- The entries that both files begin with. -/
def settings : EditionProperties → List (String × PropertyValue)
  | .java props => props.settings
  | .bedrock props => props.settings

/-- The entries that only one of the two files has. -/
def onesided : EditionProperties → List (String × PropertyValue)
  | .java props =>
      [("rcon.port", .number props.rconPort),
        ("rcon.password", .text props.rconPassword),
        ("rcon-port", .number props.rconPort),
        ("rcon-password", .text props.rconPassword)]
  | .bedrock props => [("server-portv6", .number (props.serverPort + 1))]

/-- Texts of the configuration hold lines of their own which give a key each of its values. -/
def Supply (props : EditionProperties) (entries : List (String × PropertyValue)) : Prop :=
  ∀ entry ∈ entries,
    assigned (lineEntries (propertyLines props.settings)) entry.1 = some entry.2.written

end EditionProperties

theorem safe_java (props : JavaServerProperties)
    : props.asdict.map (fun entry => (safeKey entry.1, entry.2))
      = props.settings
        ++ (props.limits
          ++ [("rcon-port", .number props.rconPort),
            ("rcon-password", .text props.rconPassword)]) := by
  simp [JavaServerProperties.asdict, JavaServerProperties.settings, JavaServerProperties.limits,
    JavaServerProperties.entries, safeKey]

theorem entries_java (props : JavaServerProperties)
    : props.entries
      = props.settings
        ++ ([("rcon.port", .number props.rconPort), ("rcon.password", .text props.rconPassword)]
          ++ props.limits) :=
  rfl

theorem safe_given {Field : Type} (key : String) (value : Field → PropertyValue)
    (field : Option Field)
    : (given key value field).map (fun entry => (safeKey entry.1, entry.2))
      = given (safeKey key) value field := by
  cases field <;> rfl

theorem safe_bedrock (props : BedrockServerProperties)
    : props.asdict.map (fun entry => (safeKey entry.1, entry.2))
      = props.settings
        ++ [("enable-lan-visibility", .flag props.enableLanVisibility),
          ("server-port", .number props.serverPort)] := by
  simp only [BedrockServerProperties.asdict, BedrockServerProperties.settings, List.map_append,
    safe_given, List.map_cons, List.map_nil, List.append_assoc]
  simp [safeKey]

theorem entries_bedrock (props : BedrockServerProperties)
    : props.entries
      = props.settings
        ++ [("server-port", .number props.serverPort),
          ("server-portv6", .number (props.serverPort + 1)),
          ("enable-lan-visibility", .flag props.enableLanVisibility)] :=
  rfl

theorem spaceless_flag (value : Bool) : Spaceless (PropertyValue.flag value).written.toList := by
  cases value <;> decide

theorem plain_limits (props : JavaServerProperties) : PlainEntries props.limits := by
  unfold PlainEntries JavaServerProperties.limits JavaServerProperties.entries
  simp only [List.drop_succ_cons, List.drop_zero, List.forall_mem_cons]
  refine ⟨⟨by decide, spaceless_number _⟩, ⟨by decide, spaceless_number _⟩,
    ⟨by decide, spaceless_number _⟩, ⟨by decide, spaceless_flag _⟩, ⟨by decide, spaceless_flag _⟩,
    ⟨by decide, spaceless_flag _⟩, ⟨by decide, spaceless_flag _⟩, ⟨by decide, spaceless_number _⟩,
    ⟨by decide, spaceless_number _⟩, ⟨by decide, spaceless_flag _⟩, ?_⟩
  exact fun entry none => nomatch none

theorem readProperties_split {first later : List (String × PropertyValue)}
    (plain : PlainEntries later)
    : readProperties (writeLines (propertyLines (first ++ later)))
      = assigned (lineEntries (propertyLines first) ++ writtenEntries later) := by
  have lines : propertyLines (first ++ later) = propertyLines first ++ propertyLines later :=
    List.map_append
  rw [readProperties_writeLines, lines, lineEntries_append, lineEntries_propertyLines plain.legible]

theorem supply_iff {props : EditionProperties} {entries : List (String × PropertyValue)}
    : props.Supply entries
      ↔ ∀ entry ∈ writtenEntries entries,
        assigned (lineEntries (propertyLines props.settings)) entry.1 = some entry.2 := by
  unfold EditionProperties.Supply
  rw [forall_mem_writtenEntries]

theorem java_files_agree_iff {props : JavaServerProperties}
    (spaceless : Spaceless props.rconPassword.toList)
    : readProperties (writeLines (propertyLines
          (props.asdict.map (fun entry => (safeKey entry.1, entry.2)))))
        = readProperties (writeJavaServerProperties props)
      ↔ (EditionProperties.java props).Supply (EditionProperties.java props).onesided := by
  have others (key : String)
      (named : key ∈ ["rcon.port", "rcon.password", "rcon-port", "rcon-password"])
      : assigned (writtenEntries props.limits) key = none := by
    refine assigned_eq_none (forall_mem_writtenEntries.mpr ?_)
    unfold JavaServerProperties.limits JavaServerProperties.entries
    simp only [List.drop_succ_cons, List.drop_zero, List.forall_mem_cons]
    simp only [List.mem_cons, List.not_mem_nil, or_false] at named
    rcases named with same | same | same | same <;> subst same <;> simp
  have leftPlain
      : PlainEntries (props.limits
          ++ [("rcon-port", .number props.rconPort),
            ("rcon-password", .text props.rconPassword)]) := by
    unfold PlainEntries
    rw [List.forall_mem_append]
    simp only [List.forall_mem_cons]
    exact ⟨plain_limits props, ⟨by decide, spaceless_number _⟩, ⟨by decide, spaceless⟩,
      fun entry none => nomatch none⟩
  have rightPlain
      : PlainEntries ([("rcon.port", .number props.rconPort),
          ("rcon.password", .text props.rconPassword)] ++ props.limits) := by
    unfold PlainEntries
    rw [List.forall_mem_append]
    simp only [List.forall_mem_cons]
    exact ⟨⟨⟨by decide, spaceless_number _⟩, ⟨by decide, spaceless⟩,
      fun entry none => nomatch none⟩, plain_limits props⟩
  have leftEntries
      : writtenEntries (props.limits
          ++ [("rcon-port", .number props.rconPort),
            ("rcon-password", .text props.rconPassword)])
        = writtenEntries props.limits
          ++ [("rcon-port", toString props.rconPort), ("rcon-password", props.rconPassword)] :=
    List.map_append
  have rightEntries
      : writtenEntries ([("rcon.port", .number props.rconPort),
          ("rcon.password", .text props.rconPassword)] ++ props.limits)
        = [("rcon.port", toString props.rconPort), ("rcon.password", props.rconPassword)]
          ++ writtenEntries props.limits :=
    List.map_append
  rw [safe_java, writeJavaServerProperties, entries_java, readProperties_split leftPlain,
    readProperties_split rightPlain, supply_iff, leftEntries, rightEntries]
  refine assigned_append_eq_iff (writtenEntries (EditionProperties.java props).onesided) ?_ ?_
  · rw [forall_mem_writtenEntries]
    unfold EditionProperties.onesided
    simp only [List.forall_mem_cons]
    refine ⟨.inl ?_, .inl ?_, .inr ?_, .inr ?_, fun entry none => nomatch none⟩
    all_goals
      rw [assigned_append, assigned_append, others _ (by simp)]
      simp [assigned, PropertyValue.written]
  · intro key other
    rw [forall_mem_writtenEntries] at other
    unfold EditionProperties.onesided at other
    simp only [List.forall_mem_cons] at other
    obtain ⟨dotPort, dotPassword, dashPort, dashPassword, _⟩ := other
    rw [assigned_append, assigned_append]
    simp [assigned, dotPort.symm, dotPassword.symm, dashPort.symm, dashPassword.symm]

theorem bedrock_files_agree_iff (props : BedrockServerProperties)
    : readProperties (writeLines (propertyLines
          (props.asdict.map (fun entry => (safeKey entry.1, entry.2)))))
        = readProperties (writeServerProperties props)
      ↔ (EditionProperties.bedrock props).Supply (EditionProperties.bedrock props).onesided := by
  have leftPlain
      : PlainEntries [("enable-lan-visibility", .flag props.enableLanVisibility),
          ("server-port", .number props.serverPort)] := by
    unfold PlainEntries
    simp only [List.forall_mem_cons]
    exact ⟨⟨by decide, spaceless_flag _⟩, ⟨by decide, spaceless_number _⟩,
      fun entry none => nomatch none⟩
  have rightPlain
      : PlainEntries [("server-port", .number props.serverPort),
          ("server-portv6", .number (props.serverPort + 1)),
          ("enable-lan-visibility", .flag props.enableLanVisibility)] := by
    unfold PlainEntries
    simp only [List.forall_mem_cons]
    exact ⟨⟨by decide, spaceless_number _⟩, ⟨by decide, spaceless_number _⟩,
      ⟨by decide, spaceless_flag _⟩, fun entry none => nomatch none⟩
  rw [safe_bedrock, writeServerProperties, entries_bedrock, readProperties_split leftPlain,
    readProperties_split rightPlain, supply_iff]
  refine assigned_append_eq_iff (writtenEntries (EditionProperties.bedrock props).onesided) ?_ ?_
  · rw [forall_mem_writtenEntries]
    unfold EditionProperties.onesided
    simp only [List.forall_mem_cons]
    refine ⟨.inl ?_, fun entry none => nomatch none⟩
    simp [writtenEntries, assigned]
  · intro key other
    rw [forall_mem_writtenEntries] at other
    unfold EditionProperties.onesided at other
    simp only [List.forall_mem_cons] at other
    simp only [writtenEntries, List.map_cons, List.map_nil, assigned_cons, if_neg other.1.symm]
    by_cases port : key = "server-port"
    · subst port
      simp [assigned]
    · by_cases visible : key = "enable-lan-visibility"
      · subst visible
        simp [assigned]
      · simp [port, visible, assigned]

-- Files that are there

/-- The entries that a start sets in a file that is there. -/
def StartPayload.ports (payload : StartPayload) : List (String × PropertyValue) :=
  ("server-port", .number payload.port)
  :: if payload.isJava then [] else [("server-portv6", .number (payload.port + 1))]

theorem plain_ports (payload : StartPayload) : PlainEntries payload.ports := by
  have first : PlainKey "server-port" := by decide
  have second : PlainKey "server-portv6" := by decide
  unfold PlainEntries StartPayload.ports
  rw [List.forall_mem_cons]
  refine ⟨⟨first, spaceless_number _⟩, ?_⟩
  split
  · exact fun entry none => nomatch none
  · rw [List.forall_mem_singleton]
    exact ⟨second, spaceless_number _⟩

theorem readProperties_existing (payload : StartPayload) (text : Text) (key : String)
    : readProperties (payload.file (some text)) key
      = (assigned (writtenEntries payload.ports) key).or (readProperties text key) := by
  rw [← readProperties_setAll (plain_ports payload).legible]
  congr 1
  unfold StartPayload.file StartPayload.ports
  cases payload.isJava <;> rfl

theorem existing_agrees_iff (payload : StartPayload) (text : Text)
    (wanted : String → Option String)
    : readProperties (payload.file (some text)) = wanted
      ↔ (∀ entry ∈ payload.ports, wanted entry.1 = some entry.2.written)
        ∧ ∀ key, (∀ entry ∈ payload.ports, entry.1 ≠ key)
          → readProperties text key = wanted key := by
  have distinct : ((writtenEntries payload.ports).map Prod.fst).Nodup := by
    unfold writtenEntries StartPayload.ports
    cases payload.isJava <;> simp
  have set (entry : String × PropertyValue) (member : entry ∈ payload.ports)
      : readProperties (payload.file (some text)) entry.1 = some entry.2.written := by
    have written : (entry.1, entry.2.written) ∈ writtenEntries payload.ports :=
      List.mem_map_of_mem member
    rw [readProperties_existing, assigned_of_mem distinct written, Option.some_or]
  have kept (key : String) (other : ∀ entry ∈ payload.ports, entry.1 ≠ key)
      : readProperties (payload.file (some text)) key = readProperties text key := by
    rw [readProperties_existing, assigned_eq_none (forall_mem_writtenEntries.mpr other),
      Option.none_or]
  constructor
  · intro same
    rw [← same]
    exact ⟨set, fun key other => (kept key other).symm⟩
  · intro agree
    obtain ⟨ports, rest⟩ := agree
    funext key
    by_cases listed : ∃ entry ∈ payload.ports, entry.1 = key
    · obtain ⟨entry, member, same⟩ := listed
      subst same
      rw [set entry member, ports entry member]
    · have other : ∀ entry ∈ payload.ports, entry.1 ≠ key :=
        fun entry member same => listed ⟨entry, member, same⟩
      rw [kept key other, rest key other]

-- Agreement

/-- What the entries of the configuration assign, lines within texts among them. -/
def EditionProperties.assigns : EditionProperties → String → Option String
  | .java props => assigned (lineEntries (propertyLines props.entries))
  | .bedrock props => assigned (lineEntries (propertyLines props.entries))

/-- The condition of a start. Where there is no file, texts of the configuration hold the lines
that only one of the files has; where there is one, it has all but its ports from the same
configuration, and no text of that sets another port.
-/
def ServerStart.FilesAgree (start : ServerStart) : Option Text → Prop
  | none => start.properties.Supply start.properties.onesided
  | some text =>
      (∀ entry ∈ start.payload.ports, start.properties.assigns entry.1 = some entry.2.written)
      ∧ ∀ key, (∀ entry ∈ start.payload.ports, entry.1 ≠ key)
        → readProperties text key = start.properties.assigns key

theorem readProperties_backendFile (start : ServerStart)
    : readProperties start.backendFile = start.properties.assigns := by
  unfold ServerStart.backendFile EditionProperties.file EditionProperties.assigns
  cases start.properties with
  | java props => exact readProperties_writeLines _
  | bedrock props => exact readProperties_writeLines _

theorem UuidHex.spaceless (password : UuidHex) : Spaceless password.digits.toList := by
  have digits : Spaceless "0123456789abcdef".toList := by decide
  exact fun letter inside => digits letter (password.hex letter inside)

/-- The file of the agent and that of the backend's writer hold the same map exactly under the
condition of the start.
-/
theorem start_properties_agree_iff (start : ServerStart) (existing : Option Text)
    : readProperties (start.agentFile existing) = readProperties start.backendFile
      ↔ start.FilesAgree existing := by
  cases existing with
  | some text =>
      rw [readProperties_backendFile]
      exact existing_agrees_iff ..
  | none =>
      unfold ServerStart.agentFile ServerStart.backendFile ServerStart.FilesAgree
        ServerStart.payload ServerStart.properties propertiesFromConfig
      split
      · exact java_files_agree_iff start.password.spaceless
      · exact bedrock_files_agree_iff _

def firstStart : ServerStart where
  flavor := .bedrock
  worldName := "lobby"
  playerLimit := 25
  port := 19140
  password := ⟨"0123456789abcdef0123456789abcdef", by decide, by simp⟩
  jarUrl := ""

/-- The agent writes it a file without its second port. -/
theorem first_start_lacks_second_port
    : ¬ ∀ (start : ServerStart) (existing : Option Text),
        readProperties (start.agentFile existing) = readProperties start.backendFile := by
  intro same
  have differ
      : readProperties (firstStart.agentFile none) "server-portv6"
        ≠ readProperties firstStart.backendFile "server-portv6" := by
    decide +kernel
  exact differ (congrFun (same firstStart none) "server-portv6")

end Blockhost.ServerProperties
