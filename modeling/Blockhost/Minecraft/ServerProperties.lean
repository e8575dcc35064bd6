import Blockhost.Library.Lines

/-! The `server.properties` files of both editions: how they are read, how one of their keys is
set, and how a whole file is written. The copy that a writer keeps of the old file is left out.
-/

namespace Blockhost.ServerProperties

open Library

inductive PropertyValue where
  | text (value : String)
  | number (value : Int)
  | flag (value : Bool)
deriving DecidableEq, Repr

/-- The text that stands for a value; the agent writes the same one. -/
def PropertyValue.written : PropertyValue → String
  | .text value => value
  | .number value => toString value
  | .flag true => "true"
  | .flag false => "false"

def propertyLine (key : String) (value : PropertyValue) : Text :=
  (key ++ "=" ++ value.written).toList

def isIgnored (line : Text) : Bool :=
  strip line = [] || (line.dropWhile isSpace).head? = some '#'

/-- The part of a line before its first `=`, without the space around it. -/
def propertyKey (line : Text) : String :=
  String.ofList (strip (line.takeWhile (fun letter => letter ≠ '=')))

def parseProperty (line : Text) : Option (String × String) :=
  if isIgnored line || '=' ∉ line then none
  else
    let value := (line.dropWhile (fun letter => letter ≠ '=')).tail
    some (propertyKey line, String.ofList (strip value))

/-- `read_properties`, before it tells flags and numbers from other texts. -/
def readProperties (text : Text) : String → Option String :=
  assigned ((readLines text).filterMap parseProperty)

def setsProperty (key : String) (line : Text) : Bool := !isIgnored line && propertyKey line = key

/-- `set_java_server_property` and `set_bedrock_server_property`: each line of the key is
replaced, or one is added.
-/
def setServerProperty (key : String) (value : PropertyValue) (text : Text) : Text :=
  let lines := readLines text
  let replaced :=
    lines.map (fun line => if setsProperty key line then propertyLine key value else line)
  writeLines
    (if lines.any (setsProperty key) then replaced else replaced ++ [propertyLine key value])

-- Java

structure JavaServerProperties where
  serverPort : Int := 25565
  maxPlayers : Int := 20
  gamemode : String := "survival"
  difficulty : String := "normal"
  onlineMode : Bool := false
  levelName : String := "world"
  levelSeed : String := ""
  motd : String := "A Minecraft Server"
  enableRcon : Bool := false
  spawnProtection : Int := 0
  viewDistance : Int := 10
  simulationDistance : Int := 10
  enableCommandBlock : Bool := false
  allowFlight : Bool := true
  whiteList : Bool := false
  enforceWhitelist : Bool := false
  maxTickTime : Int := 60000
  networkCompressionThreshold : Int := 256
  preventProxyConnections : Bool := false
  rconPort : Int := 25575
  rconPassword : String := ""
deriving DecidableEq, Repr

namespace JavaServerProperties

/-- `dataclasses.asdict`, in the order of the fields. -/
def asdict (props : JavaServerProperties) : List (String × PropertyValue) :=
  [("server_port", .number props.serverPort),
    ("max_players", .number props.maxPlayers),
    ("gamemode", .text props.gamemode),
    ("difficulty", .text props.difficulty),
    ("online_mode", .flag props.onlineMode),
    ("level_name", .text props.levelName),
    ("level_seed", .text props.levelSeed),
    ("motd", .text props.motd),
    ("enable_rcon", .flag props.enableRcon),
    ("spawn_protection", .number props.spawnProtection),
    ("view_distance", .number props.viewDistance),
    ("simulation_distance", .number props.simulationDistance),
    ("enable_command_block", .flag props.enableCommandBlock),
    ("allow_flight", .flag props.allowFlight),
    ("white_list", .flag props.whiteList),
    ("enforce_whitelist", .flag props.enforceWhitelist),
    ("max_tick_time", .number props.maxTickTime),
    ("network_compression_threshold", .number props.networkCompressionThreshold),
    ("prevent_proxy_connections", .flag props.preventProxyConnections),
    ("rcon_port", .number props.rconPort),
    ("rcon_password", .text props.rconPassword)]

/-- What `write_java_server_properties` puts into a file. -/
def entries (props : JavaServerProperties) : List (String × PropertyValue) :=
  [("server-port", .number props.serverPort),
    ("max-players", .number props.maxPlayers),
    ("gamemode", .text props.gamemode),
    ("difficulty", .text props.difficulty),
    ("online-mode", .flag props.onlineMode),
    ("level-name", .text props.levelName),
    ("level-seed", .text props.levelSeed),
    ("motd", .text props.motd),
    ("enable-rcon", .flag props.enableRcon),
    ("rcon.port", .number props.rconPort),
    ("rcon.password", .text props.rconPassword),
    ("spawn-protection", .number props.spawnProtection),
    ("view-distance", .number props.viewDistance),
    ("simulation-distance", .number props.simulationDistance),
    ("enable-command-block", .flag props.enableCommandBlock),
    ("allow-flight", .flag props.allowFlight),
    ("white-list", .flag props.whiteList),
    ("enforce-whitelist", .flag props.enforceWhitelist),
    ("max-tick-time", .number props.maxTickTime),
    ("network-compression-threshold", .number props.networkCompressionThreshold),
    ("prevent-proxy-connections", .flag props.preventProxyConnections)]

end JavaServerProperties

def propertyLines (entries : List (String × PropertyValue)) : List Text :=
  entries.map (fun entry => propertyLine entry.1 entry.2)

def writeJavaServerProperties (props : JavaServerProperties) : Text :=
  writeLines (propertyLines props.entries)

-- Bedrock

structure BedrockServerProperties where
  serverName : String
  gamemode : Option String := none
  difficulty : Option String := none
  maxPlayers : Option Int := none
  allowCheats : Option Bool := none
  onlineMode : Option Bool := some false
  levelName : Option String := none
  levelSeed : Option String := none
  enableLanVisibility : Bool := false
  serverPort : Int := 19132
deriving DecidableEq, Repr

/-- A field that is not `None`. -/
def given {Field : Type} (key : String) (value : Field → PropertyValue) (field : Option Field)
    : List (String × PropertyValue) :=
  (field.map (fun present => (key, value present))).toList

namespace BedrockServerProperties

/-- `dataclasses.asdict` without the fields that are `None`, in the order of the fields. -/
def asdict (props : BedrockServerProperties) : List (String × PropertyValue) :=
  [("server_name", .text props.serverName)]
  ++ given "gamemode" .text props.gamemode
  ++ given "difficulty" .text props.difficulty
  ++ given "max_players" .number props.maxPlayers
  ++ given "allow_cheats" .flag props.allowCheats
  ++ given "online_mode" .flag props.onlineMode
  ++ given "level_name" .text props.levelName
  ++ given "level_seed" .text props.levelSeed
  ++ [("enable_lan_visibility", .flag props.enableLanVisibility),
    ("server_port", .number props.serverPort)]

/-- What `write_server_properties` puts into a file; the second port is never the first one. -/
def entries (props : BedrockServerProperties) : List (String × PropertyValue) :=
  [("server-name", .text props.serverName)]
  ++ given "gamemode" .text props.gamemode
  ++ given "difficulty" .text props.difficulty
  ++ given "max-players" .number props.maxPlayers
  ++ given "allow-cheats" .flag props.allowCheats
  ++ given "online-mode" .flag props.onlineMode
  ++ given "level-name" .text props.levelName
  ++ given "level-seed" .text props.levelSeed
  ++ [("server-port", .number props.serverPort),
    ("server-portv6", .number (props.serverPort + 1)),
    ("enable-lan-visibility", .flag props.enableLanVisibility)]

end BedrockServerProperties

def writeServerProperties (props : BedrockServerProperties) : Text :=
  writeLines (propertyLines props.entries)

-- Plain lines

def Spaceless (text : Text) : Prop := ∀ letter ∈ text, isSpace letter = false

/-- A text that a line gives back as it is: it has no line break, and no space around it. -/
structure Legible (text : Text) : Prop where
  stripped : strip text = text
  unbroken : ∀ letter ∈ text, isBreak letter = false

/-- A key that a line gives back as it is: it may hold spaces, or be empty. -/
structure LineKey (key : String) : Prop where
  legible : Legible key.toList
  unsplit : '=' ∉ key.toList
  uncommented : key.toList.head? ≠ some '#'

/-- A key without space that a line gives back as it is. -/
structure PlainKey (key : String) : Prop where
  spaceless : Spaceless key.toList
  named : key.toList.head?.any (fun letter => letter ≠ '#') = true
  unsplit : '=' ∉ key.toList

instance (text : Text) : Decidable (Spaceless text) :=
  List.decidableBAll (fun letter => isSpace letter = false) text

instance (text : Text) : Decidable (Legible text) :=
  decidable_of_iff (strip text = text ∧ text.all (fun letter => !isBreak letter))
    ⟨fun ⟨stripped, unbroken⟩ => ⟨stripped, by simpa using unbroken⟩,
      fun legible => ⟨legible.stripped, by simpa using legible.unbroken⟩⟩

instance (key : String) : Decidable (PlainKey key) :=
  decidable_of_iff
    (Spaceless key.toList ∧ key.toList.head?.any (fun letter => letter ≠ '#') = true
      ∧ '=' ∉ key.toList)
    ⟨fun ⟨spaceless, named, unsplit⟩ => ⟨spaceless, named, unsplit⟩,
      fun plain => ⟨plain.spaceless, plain.named, plain.unsplit⟩⟩

theorem isSpace_of_isBreak {letter : Char} (breaks : isBreak letter = true)
    : isSpace letter = true := by
  unfold isBreak at breaks
  unfold isSpace
  simp only [decide_eq_true_eq, List.mem_cons, List.not_mem_nil, or_false] at breaks
  rcases breaks with code | code | code | code | code | code | code | code | code | code <;>
    simp [code]

theorem Spaceless.append {first second : Text} (left : Spaceless first)
    (right : Spaceless second)
    : Spaceless (first ++ second) := by
  intro letter inside
  rcases List.mem_append.mp inside with inFirst | inSecond
  · exact left letter inFirst
  · exact right letter inSecond

theorem Spaceless.strip_eq {text : Text} (spaceless : Spaceless text) : strip text = text := by
  refine strip_eq_self ?_
  have none : text.countP isSpace = 0 := by
    rw [List.countP_eq_zero]
    intro letter inside
    rw [spaceless letter inside]
    decide
  obtain ⟨front, back, whole, _, _⟩ := strip_parts text
  have counted := congrArg (List.countP isSpace) whole
  rw [List.countP_append, List.countP_append, none] at counted
  omega

theorem Spaceless.legible {text : Text} (spaceless : Spaceless text) : Legible text := by
  refine ⟨spaceless.strip_eq, fun letter inside => ?_⟩
  cases breaks : isBreak letter with
  | false => rfl
  | true => exact (isSpace_of_isBreak breaks).symm.trans (spaceless letter inside)

theorem isSpace_of_isDigit {letter : Char} (digit : letter.isDigit = true)
    : isSpace letter = false := by
  have range : 48 ≤ letter.toNat ∧ letter.toNat ≤ 57 := by
    simpa [Char.isDigit, UInt32.le_iff_toNat_le] using digit
  unfold isSpace
  simp only [Bool.or_eq_false_iff, Bool.and_eq_false_iff, decide_eq_false_iff_not]
  omega

theorem spaceless_number (value : Int) : Spaceless (toString value).toList := by
  have digits (number : Nat) : Spaceless number.repr.toList := by
    intro letter inside
    rw [Nat.toList_repr] at inside
    exact isSpace_of_isDigit (Nat.isDigit_of_mem_toDigits (by decide) (by decide) inside)
  rw [Int.toString_eq_repr]
  cases value with
  | ofNat number => exact digits number
  | negSucc number =>
      have sign : Spaceless ['-'] := by
        intro letter inside
        rw [List.mem_singleton.mp inside]
        decide
      have whole : (Int.negSucc number).repr.toList = ['-'] ++ number.succ.repr.toList := by
        simp [Int.repr]
      rw [whole]
      exact sign.append (digits _)

theorem PlainKey.lineKey {key : String} (plain : PlainKey key) : LineKey key where
  legible := plain.spaceless.legible
  unsplit := plain.unsplit
  uncommented := by
    have named := plain.named
    intro comment
    rw [comment] at named
    exact absurd named (by decide)

namespace LineKey

variable {key : String} {value : PropertyValue}

theorem propertyLine_eq
    : propertyLine key value = key.toList ++ '=' :: value.written.toList := by
  simp [propertyLine]

theorem before_equals (plain : LineKey key) (letter : Char) (inside : letter ∈ key.toList)
    : decide (letter ≠ '=') = true := by
  refine decide_eq_true fun same => plain.unsplit ?_
  rwa [← same]

theorem heard (plain : LineKey key) : isIgnored (propertyLine key value) = false := by
  have filled : strip (propertyLine key value) ≠ [] := by
    intro empty
    obtain ⟨front, back, parts, allFront, allBack⟩ := strip_parts (propertyLine key value)
    rw [empty, List.append_nil, propertyLine_eq] at parts
    have inside : '=' ∈ front ++ back := by
      rw [← parts]
      exact List.mem_append_right _ List.mem_cons_self
    have space : isSpace '=' = true :=
      (List.mem_append.mp inside).elim (allFront '=') (allBack '=')
    exact absurd space (by decide)
  rw [isIgnored, decide_eq_false filled, Bool.false_or, propertyLine_eq, decide_eq_false_iff_not]
  have uncommented := plain.uncommented
  have stripped := plain.legible.stripped
  cases letters : key.toList with
  | nil =>
      rw [List.nil_append, List.dropWhile_cons_of_neg (by decide), List.head?_cons]
      exact fun comment => absurd (Option.some.inj comment) (by decide)
  | cons first rest =>
      rw [letters] at uncommented stripped
      rw [List.cons_append,
        List.dropWhile_cons_of_neg (by simp [isSpace_head_of_strip stripped])]
      exact uncommented

theorem propertyKey_line (plain : LineKey key) : propertyKey (propertyLine key value) = key := by
  rw [propertyKey, propertyLine_eq, List.takeWhile_append_of_pos plain.before_equals,
    List.takeWhile_cons_of_neg (by decide), List.append_nil, plain.legible.stripped,
    String.ofList_toList]

theorem setsProperty_line (plain : LineKey key)
    : setsProperty key (propertyLine key value) = true := by
  rw [setsProperty, plain.heard, plain.propertyKey_line]
  simp

theorem parse_line (plain : LineKey key)
    : parseProperty (propertyLine key value)
      = some (key, String.ofList (strip value.written.toList)) := by
  have value_eq
      : ((propertyLine key value).dropWhile (fun letter => letter ≠ '=')).tail
        = value.written.toList := by
    rw [propertyLine_eq, List.dropWhile_append_of_pos plain.before_equals,
      List.dropWhile_cons_of_neg (by decide)]
    rfl
  have split : '=' ∈ propertyLine key value := by simp [propertyLine_eq]
  unfold parseProperty
  simp only [plain.heard, split, plain.propertyKey_line, value_eq]
  rfl

theorem unbroken_line (plain : LineKey key)
    (unbroken : ∀ letter ∈ value.written.toList, isBreak letter = false)
    : ∀ letter ∈ propertyLine key value, isBreak letter = false := by
  intro letter inside
  rw [propertyLine_eq] at inside
  rcases List.mem_append.mp inside with inKey | later
  · exact plain.legible.unbroken letter inKey
  rcases List.mem_cons.mp later with equals | inValue
  · rw [equals]
    decide
  · exact unbroken letter inValue

end LineKey

-- Maps of files

theorem parseProperty_nil : parseProperty [] = none := rfl

def textEntries (text : Text) : List (String × String) :=
  (text.splitOnP isBreak).filterMap parseProperty

theorem readProperties_eq (text : Text)
    : readProperties text = assigned (textEntries text) := by
  rw [readProperties, filterMap_readLines parseProperty_nil]
  rfl

theorem textEntries_unbroken {line : Text}
    (unbroken : ∀ letter ∈ line, isBreak letter = false)
    : textEntries line = (parseProperty line).toList := by
  rw [textEntries, List.splitOnP_eq_singleton unbroken, List.filterMap_cons, List.filterMap_nil]
  cases parseProperty line with
  | none => rfl
  | some entry => rfl

namespace LineKey

variable {key : String} {value : PropertyValue}

theorem textEntries_line (plain : LineKey key)
    (unbroken : ∀ letter ∈ value.written.toList, isBreak letter = false)
    : textEntries (propertyLine key value)
      = [(key, String.ofList (strip value.written.toList))] := by
  rw [textEntries_unbroken (plain.unbroken_line unbroken), plain.parse_line]
  rfl

theorem exists_textEntries (plain : LineKey key) (value : PropertyValue)
    : ∃ val, (key, val) ∈ textEntries (propertyLine key value) := by
  obtain ⟨head, tail, parts⟩ :=
    List.exists_cons_of_ne_nil (List.splitOnP_ne_nil isBreak value.written.toList)
  have front : ∀ letter ∈ key.toList ++ ['='], isBreak letter = false :=
    List.forall_mem_append.mpr
      ⟨plain.legible.unbroken, List.forall_mem_singleton.mpr (by decide)⟩
  have whole : propertyLine key value = (key.toList ++ ['=']) ++ value.written.toList := by
    rw [propertyLine_eq, List.append_assoc, List.singleton_append]
  have first
      : (key.toList ++ ['=']) ++ head = propertyLine key (.text (String.ofList head)) := by
    rw [propertyLine_eq, List.append_assoc, List.singleton_append, PropertyValue.written,
      String.toList_ofList]
  refine ⟨String.ofList (strip (PropertyValue.text (String.ofList head)).written.toList), ?_⟩
  rw [textEntries, whole, splitOnP_append_text front, parts, List.modifyHead_cons, first,
    List.filterMap_cons, plain.parse_line]
  exact List.mem_cons_self

end LineKey

theorem textEntries_propertyLine {key : String} {value : PropertyValue} (plain : PlainKey key)
    (legible : Legible value.written.toList)
    : textEntries (propertyLine key value) = [(key, value.written)] := by
  rw [plain.lineKey.textEntries_line legible.unbroken, legible.stripped, String.ofList_toList]

def lineEntries (lines : List Text) : List (String × String) :=
  lines.flatMap (fun line => (line.splitOnP isBreak).filterMap parseProperty)

theorem readProperties_writeLines (lines : List Text)
    : readProperties (writeLines lines) = assigned (lineEntries lines) := by
  unfold readProperties lineEntries
  rw [filterMap_writeLines parseProperty_nil]

theorem lineEntries_append (first second : List Text)
    : lineEntries (first ++ second) = lineEntries first ++ lineEntries second :=
  List.flatMap_append

/-- Entries that their lines give back as they are. -/
def PlainEntries (entries : List (String × PropertyValue)) : Prop :=
  ∀ entry ∈ entries, PlainKey entry.1 ∧ Spaceless entry.2.written.toList

/-- Entries whose lines give back their values, spaces within them included. -/
def LegibleEntries (entries : List (String × PropertyValue)) : Prop :=
  ∀ entry ∈ entries, PlainKey entry.1 ∧ Legible entry.2.written.toList

namespace LegibleEntries

variable {key : String} {first second : List (String × PropertyValue)}

theorem nil : LegibleEntries [] := fun _ member => absurd member List.not_mem_nil

theorem cons {value : PropertyValue} (plain : PlainKey key)
    (legible : Legible value.written.toList) (later : LegibleEntries second)
    : LegibleEntries ((key, value) :: second) :=
  List.forall_mem_cons.mpr ⟨⟨plain, legible⟩, later⟩

theorem append (left : LegibleEntries first) (right : LegibleEntries second)
    : LegibleEntries (first ++ second) :=
  List.forall_mem_append.mpr ⟨left, right⟩

theorem given {Field : Type} {value : Field → PropertyValue} {field : Option Field}
    (plain : PlainKey key)
    (legible : ∀ present, field = some present → Legible (value present).written.toList)
    : LegibleEntries (given key value field) := by
  cases field with
  | none => exact nil
  | some present => exact cons plain (legible present rfl) nil

end LegibleEntries

theorem PlainEntries.legible {entries : List (String × PropertyValue)}
    (plain : PlainEntries entries)
    : LegibleEntries entries :=
  fun entry member => (plain entry member).imp_right Spaceless.legible

def writtenEntries (entries : List (String × PropertyValue)) : List (String × String) :=
  entries.map (fun entry => (entry.1, entry.2.written))

@[simp] theorem writtenEntries_nil : writtenEntries [] = [] := rfl

@[simp] theorem writtenEntries_cons (entry : String × PropertyValue)
    (entries : List (String × PropertyValue))
    : writtenEntries (entry :: entries)
      = (entry.1, entry.2.written) :: writtenEntries entries :=
  List.map_cons

@[simp] theorem writtenEntries_append (first second : List (String × PropertyValue))
    : writtenEntries (first ++ second) = writtenEntries first ++ writtenEntries second :=
  List.map_append

@[simp] theorem assigned_given {Field : Type} (key asked : String)
    (value : Field → PropertyValue) (field : Option Field)
    : assigned (writtenEntries (given key value field)) asked
      = if asked = key then (field.map value).map PropertyValue.written else none := by
  cases field with
  | none => exact (ite_self none).symm
  | some present => exact assigned_cons (key, (value present).written) [] asked

theorem forall_mem_writtenEntries {entries : List (String × PropertyValue)}
    {holds : String × String → Prop}
    : (∀ entry ∈ writtenEntries entries, holds entry)
      ↔ ∀ entry ∈ entries, holds (entry.1, entry.2.written) :=
  List.forall_mem_map

theorem lineEntries_propertyLines {entries : List (String × PropertyValue)}
    (legible : LegibleEntries entries)
    : lineEntries (propertyLines entries) = writtenEntries entries := by
  unfold lineEntries propertyLines writtenEntries
  rw [List.flatMap_map, List.map_eq_flatMap]
  exact List.flatMap_congr fun entry member =>
    textEntries_propertyLine (legible entry member).1 (legible entry member).2

section Setting

variable {key : String}

theorem setsProperty_parsed {line : Text} {entry : String × String}
    (parsed : parseProperty line = some entry)
    : setsProperty key line = decide (entry.1 = key) := by
  unfold parseProperty at parsed
  split at parsed
  · cases parsed
  · rename_i read
    cases parsed
    simp only [Bool.or_eq_true, not_or, Bool.not_eq_true] at read
    simp [setsProperty, read.1]

/-- What lines assign when those of a key are replaced by other assignments, by induction on
them.
-/
theorem assigned_replaced (lines : List Text) {entries : List (String × String)}
    {asked : String} (silent : asked ≠ key → assigned entries asked = none)
    : assigned (lines.flatMap (fun line =>
          if setsProperty key line then entries else (parseProperty line).toList)) asked
      = if asked = key then if lines.any (setsProperty key) then assigned entries key else none
        else assigned (lines.filterMap parseProperty) asked := by
  induction lines with
  | nil => simp [assigned]
  | cons line rest ih =>
      rw [List.flatMap_cons, assigned_append, ih, List.any_cons]
      by_cases own : asked = key
      · rw [if_pos own, if_pos own]
        cases sets : setsProperty key line with
        | true =>
            rw [if_pos rfl, own, Bool.true_or, if_pos rfl]
            cases rest.any (setsProperty key) with
            | true => exact Option.or_self
            | false => exact Option.none_or
        | false =>
            have none : assigned (parseProperty line).toList asked = none := by
              refine assigned_eq_none fun entry member => ?_
              rw [Option.mem_toList] at member
              rw [setsProperty_parsed member, decide_eq_false_iff_not] at sets
              rw [own]
              exact sets
            rw [if_neg Bool.false_ne_true, none, Option.or_none, Bool.false_or]
      · rw [if_neg own, if_neg own]
        cases parsed : parseProperty line with
        | none =>
            rw [List.filterMap_cons_none parsed]
            split
            · rw [silent own, Option.or_none]
            · exact Option.or_none
        | some entry =>
            rw [List.filterMap_cons_some parsed, assigned_cons, setsProperty_parsed parsed]
            congr 1
            by_cases same : entry.1 = key
            · rw [if_pos (decide_eq_true same), silent own, same, if_neg own]
            · rw [if_neg (by simp [same])]
              exact assigned_cons entry [] asked

def setLines (key : String) (value : PropertyValue) (lines : List Text) : List Text :=
  let replaced :=
    lines.map (fun line => if setsProperty key line then propertyLine key value else line)
  if lines.any (setsProperty key) then replaced else replaced ++ [propertyLine key value]

theorem readLines_setServerProperty {value : PropertyValue} (plain : LineKey key)
    (unbroken : ∀ letter ∈ value.written.toList, isBreak letter = false) (text : Text)
    : readLines (setServerProperty key value text) = setLines key value (readLines text) := by
  have whole
      : setServerProperty key value text = writeLines (setLines key value (readLines text)) :=
    rfl
  have replaced : ∀ line ∈ (readLines text).map (fun line =>
      if setsProperty key line then propertyLine key value else line),
      ∀ letter ∈ line, isBreak letter = false := by
    intro line member
    obtain ⟨old, listed, rfl⟩ := List.mem_map.mp member
    split
    · exact plain.unbroken_line unbroken
    · exact unbroken_of_mem_readLines listed
  rw [whole]
  refine readLines_writeLines ?_ ?_
  · rw [setLines]
    cases any : (readLines text).any (setsProperty key) with
    | true =>
        obtain ⟨line, member, -⟩ := List.any_eq_true.mp any
        rw [if_pos rfl]
        exact List.ne_nil_of_mem (List.mem_map_of_mem member)
    | false =>
        rw [if_neg Bool.false_ne_true]
        exact List.append_ne_nil_of_right_ne_nil _ (List.cons_ne_nil _ _)
  · rw [setLines]
    split
    · exact replaced
    · exact List.forall_mem_append.mpr
        ⟨replaced, List.forall_mem_singleton.mpr (plain.unbroken_line unbroken)⟩

theorem textEntries_set (key : String) (value : PropertyValue) (text : Text)
    : textEntries (setServerProperty key value text)
      = (readLines text).flatMap (fun line =>
          if setsProperty key line then textEntries (propertyLine key value)
          else (parseProperty line).toList)
        ++ if (readLines text).any (setsProperty key) then []
          else textEntries (propertyLine key value) := by
  have written
      : textEntries (setServerProperty key value text)
        = (setLines key value (readLines text)).flatMap textEntries := by
    rw [textEntries, ← filterMap_readLines parseProperty_nil]
    exact filterMap_writeLines parseProperty_nil _
  have replaced
      : ((readLines text).map (fun line =>
            if setsProperty key line then propertyLine key value else line)).flatMap textEntries
        = (readLines text).flatMap (fun line =>
          if setsProperty key line then textEntries (propertyLine key value)
          else (parseProperty line).toList) := by
    rw [List.flatMap_map]
    refine List.flatMap_congr fun line member => ?_
    split
    · rfl
    · exact textEntries_unbroken (unbroken_of_mem_readLines member)
  rw [written, setLines]
  split
  · rw [replaced, List.append_nil]
  · rw [List.flatMap_append, replaced, List.flatMap_singleton]

theorem readProperties_set_own (key : String) (value : PropertyValue) (text : Text)
    : readProperties (setServerProperty key value text) key
      = assigned (textEntries (propertyLine key value)) key := by
  rw [readProperties_eq, textEntries_set, assigned_append,
    assigned_replaced _ (fun other => absurd rfl other), if_pos rfl]
  split
  · exact Option.none_or
  · exact Option.or_none

theorem readProperties_set_other {key asked : String} {value : PropertyValue}
    (other : asked ≠ key) (silent : assigned (textEntries (propertyLine key value)) asked = none)
    (text : Text)
    : readProperties (setServerProperty key value text) asked = readProperties text asked := by
  rw [readProperties_eq, textEntries_set, assigned_append,
    assigned_replaced _ (fun _ => silent), if_neg other]
  split
  · exact Option.none_or
  · rw [silent]
    exact Option.none_or

theorem mem_textEntries_set {key : String} {value : PropertyValue} {text : Text}
    {entry : String × String}
    : entry ∈ textEntries (setServerProperty key value text)
      ↔ entry ∈ textEntries (propertyLine key value)
        ∨ entry ∈ textEntries text ∧ entry.1 ≠ key := by
  have lines : textEntries text = (readLines text).filterMap parseProperty :=
    (filterMap_readLines parseProperty_nil text).symm
  rw [textEntries_set, lines, List.mem_append, List.mem_flatMap, List.mem_filterMap]
  constructor
  · rintro (⟨line, listed, member⟩ | member)
    · split at member
      · exact .inl member
      · rename_i silent
        rw [Option.mem_toList] at member
        rw [setsProperty_parsed member, decide_eq_true_eq] at silent
        exact .inr ⟨⟨line, listed, member⟩, silent⟩
    · split at member
      · exact absurd member List.not_mem_nil
      · exact .inl member
  · rintro (own | ⟨⟨line, listed, parsed⟩, other⟩)
    · cases any : (readLines text).any (setsProperty key) with
      | true =>
          obtain ⟨line, listed, sets⟩ := List.any_eq_true.mp any
          exact .inl ⟨line, listed, by rwa [if_pos sets]⟩
      | false => exact .inr (by rwa [if_neg Bool.false_ne_true])
    · refine .inl ⟨line, listed, ?_⟩
      rw [setsProperty_parsed parsed, if_neg (by simp [other])]
      exact Option.mem_toList.mpr parsed

theorem readProperties_set {value : PropertyValue} (plain : LineKey key)
    (unbroken : ∀ letter ∈ value.written.toList, isBreak letter = false) (text : Text)
    : readProperties (setServerProperty key value text)
      = Function.update (readProperties text) key
          (some (String.ofList (strip value.written.toList))) := by
  have line := plain.textEntries_line unbroken
  funext asked
  rw [Function.update_apply]
  by_cases own : asked = key
  · rw [own, if_pos rfl, readProperties_set_own, line, assigned_cons, if_pos rfl]
    rfl
  · rw [if_neg own]
    refine readProperties_set_other own ?_ text
    rw [line, assigned_cons, if_neg own]
    rfl

theorem readProperties_setServerProperty {value : PropertyValue} (plain : PlainKey key)
    (legible : Legible value.written.toList) (text : Text)
    : readProperties (setServerProperty key value text)
      = Function.update (readProperties text) key (some value.written) := by
  rw [readProperties_set plain.lineKey legible.unbroken, legible.stripped, String.ofList_toList]

/-- Setting entries one after the other assigns them, by induction on the entries. -/
theorem readProperties_setAll {entries : List (String × PropertyValue)}
    (legible : LegibleEntries entries) (text : Text) (asked : String)
    : readProperties
        (entries.foldl (fun text entry => setServerProperty entry.1 entry.2 text) text) asked
      = (assigned (writtenEntries entries) asked).or (readProperties text asked) := by
  induction entries generalizing text with
  | nil => rfl
  | cons entry rest ih =>
      obtain ⟨first, later⟩ := List.forall_mem_cons.mp legible
      rw [List.foldl_cons, ih later, readProperties_setServerProperty first.1 first.2,
        writtenEntries_cons, assigned_cons, Option.or_assoc, Function.update_apply]
      split <;> rfl

end Setting

end Blockhost.ServerProperties
