import Blockhost.Agent.NamedUpdates
import Blockhost.Library.Numerals

/-! The properties that users must not change, under all requests that reach the agent: the
ports, which a request may not name, and the number of players, which the plan caps.
-/

namespace Blockhost.ServerProperties

open Library

-- Requests

/-- A dictionary of properties, in its order. -/
structure PropertyDict where
  items : List (String × PropertyValue)
  distinct : (items.map Prod.fst).Nodup

namespace PropertyDict

def get? (props : PropertyDict) (key : String) : Option PropertyValue :=
  (props.items.find? (fun item => item.1 = key)).map Prod.snd

theorem keys_replace (items : List (String × PropertyValue)) (key : String)
    (value : PropertyValue)
    : (items.map (fun item => if item.1 = key then (key, value) else item)).map Prod.fst
      = items.map Prod.fst := by
  rw [List.map_map]
  refine List.map_congr_left fun item _ => ?_
  rw [Function.comp_apply]
  split
  · rename_i same
    exact same.symm
  · rfl

/-- `props[key] = value` for a key that is there, which keeps its place. -/
def replace (props : PropertyDict) (key : String) (value : PropertyValue) : PropertyDict where
  items := props.items.map (fun item => if item.1 = key then (key, value) else item)
  distinct := by
    rw [keys_replace]
    exact props.distinct

end PropertyDict

def blockedKeys : List String := ["server-port", "server-portv6"]

/-- `int(value)`, unless it raises. -/
def PropertyValue.toInt : PropertyValue → Option Int
  | .text value => parseInt value.toList
  | .number value => some value
  | .flag value => some (if value then 1 else 0)

/-- A player number under a key, capped to the plan. -/
def capMaxPlayers (playerLimit : Int) (key : String) (props : PropertyDict)
    : Except HttpError PropertyDict :=
  match props.get? key with
  | none => .ok props
  | some value =>
      match value.toInt with
      | none => .error ⟨422, "Invalid " ++ key ++ " value"⟩
      | some requested =>
          match clampMaxPlayers playerLimit requested with
          | none => .error ⟨402, "An active subscription is required to set max players."⟩
          | some capped => .ok (props.replace key (.number capped))

/-- `update_server_properties`: what it sends to the agent. -/
def updateServerProperties (playerLimit : Int) (props : PropertyDict)
    : Except HttpError PropertyDict :=
  let blocked := blockedKeys.filter (fun key => (props.get? key).isSome)
  if blocked ≠ [] then
    .error ⟨400, "Cannot modify protected properties: " ++ ", ".intercalate blocked⟩
  else do
    let sanitized ← capMaxPlayers playerLimit "max-players" props
    capMaxPlayers playerLimit "max_players" sanitized

inductive PropertyRequest where
  | updateServerProperties (props : PropertyDict)
  | updateServerConfig (flavor : ServerFlavor) (worldName : String)
      (sanitizeVersion : String → Except String (Option String)) (current update : ConfigFields)

/-- What the agent gets of a request that is accepted. -/
def PropertyRequest.sent (playerLimit : Int)
    : PropertyRequest → Except HttpError (List (String × PropertyValue))
  | .updateServerProperties props =>
      (ServerProperties.updateServerProperties playerLimit props).map PropertyDict.items
  | .updateServerConfig flavor worldName sanitizeVersion current update =>
      (ServerProperties.updateServerConfig sanitizeVersion playerLimit current update).map
        (fun result => propertyUpdates flavor worldName playerLimit result.1)

-- Protection

def effectiveMaxPlayers (file : Option Text) : Option Int :=
  (readProperties (file.getD []) "max-players").bind (fun most => parseInt most.toList)

def WithinPlan (playerLimit : Int) (file : Option Text) : Prop :=
  ∀ most, effectiveMaxPlayers file = some most → most ≤ playerLimit

/-- The ports are as before, and the player number is one of the plan. -/
structure KeepsProtected (playerLimit : Int) (before after : Option Text) : Prop where
  ports
    : ∀ port ∈ blockedKeys,
      readProperties (after.getD []) port = readProperties (before.getD []) port
  players : WithinPlan playerLimit after

/-- A text that is sent, on however many lines it is written and whatever its key looks like,
assigns no protected property but its own key.
-/
def Confined (entries : List (String × PropertyValue)) : Prop :=
  ∀ entry ∈ entries, ∀ other ∈ textEntries (propertyLine entry.1 entry.2),
    other.1 ∈ "max-players" :: blockedKeys → other.1 = entry.1

/-- A player number within the plan. -/
def CappedNumber (playerLimit : Int) (value : PropertyValue) : Prop :=
  ∃ most, value = .number most ∧ 1 ≤ most ∧ most ≤ playerLimit

/-- What the guards of both requests see to: no key is sent twice, no port is sent under its
own name, and a player number is within the plan.
-/
structure Guarded (playerLimit : Int) (entries : List (String × PropertyValue)) : Prop where
  distinct : (entries.map Prod.fst).Nodup
  unblocked : ∀ entry ∈ entries, entry.1 ∉ blockedKeys
  capped : ∀ entry ∈ entries, entry.1 = "max-players" → CappedNumber playerLimit entry.2

-- The guards

variable {playerLimit : Int} {entries : List (String × PropertyValue)}

theorem clampMaxPlayers_some {requested capped : Int}
    (clamped : clampMaxPlayers playerLimit requested = some capped)
    : 1 ≤ capped ∧ capped ≤ playerLimit := by
  unfold clampMaxPlayers at clamped
  obtain ⟨paid, same⟩ := Option.ite_none_left_eq_some.mp clamped
  have value := Option.some.inj same
  omega

theorem get?_eq_none {props : PropertyDict} {key : String} (none : props.get? key = none)
    {item : String × PropertyValue} (member : item ∈ props.items)
    : item.1 ≠ key := by
  rw [PropertyDict.get?, Option.map_eq_none_iff, List.find?_eq_none] at none
  simpa using none item member

theorem capMaxPlayers_ok {key : String} {props capped : PropertyDict}
    (passed : capMaxPlayers playerLimit key props = .ok capped)
    : capped.items.map Prod.fst = props.items.map Prod.fst
      ∧ ∀ item ∈ capped.items,
        if item.1 = key then CappedNumber playerLimit item.2 else item ∈ props.items := by
  unfold capMaxPlayers at passed
  split at passed
  · rename_i none
    cases passed
    refine ⟨rfl, fun item member => ?_⟩
    rw [if_neg (get?_eq_none none member)]
    exact member
  · split at passed
    · cases passed
    · split at passed
      · cases passed
      · rename_i most clamped
        cases passed
        refine ⟨PropertyDict.keys_replace .., fun item member => ?_⟩
        obtain ⟨old, listed, rfl⟩ := List.mem_map.mp member
        by_cases own : old.1 = key
        · rw [if_pos own, if_pos rfl]
          exact ⟨most, rfl, clampMaxPlayers_some clamped⟩
        · rw [if_neg own, if_neg own]
          exact listed

/-- The guard of a dictionary: a named port is refused, and both spellings of the player number
are capped.
-/
theorem guarded_updateServerProperties {props sanitized : PropertyDict}
    (accepted : updateServerProperties playerLimit props = .ok sanitized)
    : Guarded playerLimit sanitized.items := by
  unfold updateServerProperties at accepted
  dsimp only at accepted
  split at accepted
  · cases accepted
  rename_i unblocked
  obtain ⟨first, passed, accepted⟩ := except_bind_ok accepted
  obtain ⟨firstKeys, firstItems⟩ := capMaxPlayers_ok passed
  obtain ⟨keys, items⟩ := capMaxPlayers_ok accepted
  refine ⟨sanitized.distinct, fun entry member blocked => ?_, fun entry member own => ?_⟩
  · have listed : entry.1 ∈ props.items.map Prod.fst := by
      rw [← firstKeys, ← keys]
      exact List.mem_map_of_mem member
    obtain ⟨old, there, same⟩ := List.mem_map.mp listed
    exact unblocked (List.ne_nil_of_mem (List.mem_filter.mpr
      ⟨blocked, Option.isSome_iff_ne_none.mpr fun none => get?_eq_none none there same⟩))
  · have kept := items entry member
    rw [own, if_neg (by decide)] at kept
    have capped := firstItems entry kept
    rwa [if_pos own] at capped

theorem mem_given {Field : Type} {key : String} {value : Field → PropertyValue}
    {field : Option Field} {entry : String × PropertyValue}
    (member : entry ∈ given key value field)
    : ∃ present, field = some present ∧ entry = (key, value present) := by
  obtain ⟨present, known, same⟩ := Option.map_eq_some_iff.mp (Option.mem_toList.mp member)
  exact ⟨present, known, same.symm⟩

theorem clampMaxPlayersOr_within {fallback : Option Int} {most : Int}
    (clamped : clampMaxPlayersOr playerLimit none fallback = some most)
    : 1 ≤ most ∧ most ≤ playerLimit := by
  unfold clampMaxPlayersOr at clamped
  obtain ⟨paid, clamped⟩ := Option.ite_none_left_eq_some.mp clamped
  split at clamped
  · cases clamped
    omega
  · exact clampMaxPlayers_some clamped

theorem updateServerConfig_capped {sanitizeVersion : String → Except String (Option String)}
    {current update checked config : ConfigFields}
    (passed : updateServerConfig sanitizeVersion playerLimit current update
      = .ok (checked, config))
    {most : Int} (known : checked.maxPlayers = some most)
    : 1 ≤ most ∧ most ≤ playerLimit := by
  unfold updateServerConfig at passed
  obtain ⟨version, _, passed⟩ := except_bind_ok passed
  obtain ⟨players, capped, passed⟩ := except_bind_ok passed
  cases passed
  have same : players = some most := known
  subst same
  unfold checkMaxPlayers at capped
  split at capped
  · cases capped
  · split at capped
    · cases capped
    · rename_i clamped
      cases capped
      exact clampMaxPlayers_some clamped

theorem guarded_propertyUpdates {sanitizeVersion : String → Except String (Option String)}
    {current update checked config : ConfigFields}
    (passed : updateServerConfig sanitizeVersion playerLimit current update
      = .ok (checked, config))
    (flavor : ServerFlavor) (worldName : String)
    : Guarded playerLimit (propertyUpdates flavor worldName playerLimit checked) := by
  have keys := propertyUpdates_sublist flavor worldName playerLimit checked
  refine ⟨keys.nodup (sentKeys_nodup flavor), fun entry member blocked => ?_,
    fun entry member own => ?_⟩
  · have listed := keys.subset (List.mem_map_of_mem member)
    have free : ∀ key ∈ sentKeys flavor, key ∉ blockedKeys := by
      unfold sentKeys
      split
      · decide
      · decide
    exact free entry.1 listed blocked
  · unfold propertyUpdates at member
    split at member
    · simp only [List.mem_append, List.mem_singleton] at member
      rcases member with (((((rfl | given) | given) | given) | given) | rfl) | given
      · simp at own
      · obtain ⟨_, _, rfl⟩ := mem_given given
        simp at own
      · obtain ⟨_, _, rfl⟩ := mem_given given
        simp at own
      · obtain ⟨most, known, rfl⟩ := mem_given given
        exact ⟨most, rfl, updateServerConfig_capped passed known⟩
      · obtain ⟨_, _, rfl⟩ := mem_given given
        simp at own
      · simp at own
      · obtain ⟨_, _, rfl⟩ := mem_given given
        simp at own
    · simp only [List.mem_append, List.mem_cons, List.not_mem_nil, or_false] at member
      rcases member with (rfl | given) | rfl | rfl | rfl | rfl
      · simp at own
      · obtain ⟨most, known, rfl⟩ := mem_given given
        refine ⟨most, rfl, ?_⟩
        rcases Option.or_eq_some_iff.mp known with named | ⟨-, standIn⟩
        · exact updateServerConfig_capped passed (Option.eq_some_of_filter_eq_some named)
        · exact clampMaxPlayersOr_within standIn
      · simp at own
      · simp at own
      · simp at own
      · simp at own

theorem PropertyRequest.guarded {request : PropertyRequest}
    (accepted : request.sent playerLimit = .ok entries)
    : Guarded playerLimit entries := by
  cases request with
  | updateServerProperties props =>
      obtain ⟨sanitized, passed, rfl⟩ := except_map_ok accepted
      exact guarded_updateServerProperties passed
  | updateServerConfig flavor worldName sanitizeVersion current update =>
      obtain ⟨⟨checked, config⟩, passed, rfl⟩ := except_map_ok accepted
      exact guarded_propertyUpdates passed flavor worldName

-- The file

theorem Confined.silent (confined : Confined entries) {name : String}
    (guarded : name ∈ "max-players" :: blockedKeys) {entry : String × PropertyValue}
    (member : entry ∈ entries) (other : entry.1 ≠ name)
    : assigned (textEntries (propertyLine entry.1 entry.2)) name = none := by
  refine assigned_eq_none fun assignment listed same => other ?_
  rw [← same] at guarded ⊢
  exact (confined entry member assignment listed guarded).symm

theorem confined_of_unbroken
    (unbroken : ∀ entry ∈ entries, LineKey entry.1
      ∧ ∀ letter ∈ entry.2.written.toList, isBreak letter = false)
    : Confined entries := by
  intro entry member other listed _
  obtain ⟨plain, unbroken⟩ := unbroken entry member
  rw [plain.textEntries_line unbroken, List.mem_singleton] at listed
  exact congrArg Prod.fst listed

theorem Guarded.ports_kept_iff (guarded : Guarded playerLimit entries)
    : (∀ file, ∀ port ∈ blockedKeys,
        readProperties ((setProperties entries file).getD []) port
          = readProperties (file.getD []) port)
      ↔ ∀ entry ∈ entries, ∀ other ∈ textEntries (propertyLine entry.1 entry.2),
          other.1 ∉ blockedKeys := by
  constructor
  · intro kept entry member other listed blocked
    have lineKeys : ∀ port ∈ blockedKeys, LineKey port := by
      intro port blocked
      have plain : ∀ port ∈ blockedKeys, PlainKey port := by decide
      exact (plain port blocked).lineKey
    exact readProperties_setProperties_ne_none (fun _ _ _ => lineKeys other.1 blocked) member
      listed none (kept none other.1 blocked)
  · intro free file port blocked
    refine readProperties_setProperties_other (fun entry member => ⟨?_, ?_⟩) file
    · exact fun same => guarded.unblocked entry member (same ▸ blocked)
    · exact assigned_eq_none fun other listed same =>
        free entry member other listed (same ▸ blocked)

theorem Guarded.withinPlan (guarded : Guarded playerLimit entries) (confined : Confined entries)
    {entry : String × PropertyValue} (member : entry ∈ entries) (own : entry.1 = "max-players")
    (file : Option Text)
    : WithinPlan playerLimit (setProperties entries file) := by
  obtain ⟨most, value, positive, within⟩ := guarded.capped entry member own
  obtain ⟨number, rfl⟩ := Int.eq_ofNat_of_zero_le (by omega : 0 ≤ most)
  have digits : (PropertyValue.number number).written.toList = Nat.toDigits 10 number := by
    rw [PropertyValue.written, Int.toString_eq_repr]
    exact Nat.toList_repr
  have line : textEntries (propertyLine entry.1 entry.2)
      = [("max-players", (PropertyValue.number number).written)] := by
    rw [own, value]
    exact textEntries_propertyLine (by decide) (legible_number _)
  have set := readProperties_setProperties_own guarded.distinct member
    (fun other listed differs =>
      confined.silent (by rw [own]; exact List.mem_cons_self) listed differs) file
  rw [line, own, assigned_cons, if_pos rfl] at set
  intro found known
  rw [effectiveMaxPlayers, set, assigned_nil, Option.none_or, Option.bind_some, digits] at known
  rw [parseInt_toDigits_eq known]
  exact within

/-- The guards hold for every request that is accepted. If each text that is sent assigns of
the protected properties only its own key, the ports stay, and the player number is within the
plan exactly if the request sets it or the file had one within the plan. The ports stay in
every file exactly if no text has a line of one.
-/
theorem protected_properties_kept_iff {request : PropertyRequest}
    (accepted : request.sent playerLimit = .ok entries)
    : (Confined entries
        → ∀ file, KeepsProtected playerLimit file (setProperties entries file)
          ↔ (∃ entry ∈ entries, entry.1 = "max-players") ∨ WithinPlan playerLimit file)
      ∧ ((∀ file, ∀ port ∈ blockedKeys,
            readProperties ((setProperties entries file).getD []) port
              = readProperties (file.getD []) port)
          ↔ ∀ entry ∈ entries, ∀ other ∈ textEntries (propertyLine entry.1 entry.2),
              other.1 ∉ blockedKeys) := by
  have guarded := request.guarded accepted
  refine ⟨fun confined file => ?_, guarded.ports_kept_iff⟩
  have ports : ∀ port ∈ blockedKeys,
      readProperties ((setProperties entries file).getD []) port
        = readProperties (file.getD []) port := by
    refine guarded.ports_kept_iff.mpr ?_ file
    intro entry member other listed blocked
    have own := confined entry member other listed (List.mem_cons_of_mem _ blocked)
    exact guarded.unblocked entry member (own ▸ blocked)
  by_cases sets : ∃ entry ∈ entries, entry.1 = "max-players"
  · obtain ⟨entry, member, own⟩ := sets
    exact iff_of_true ⟨ports, guarded.withinPlan confined member own file⟩
      (.inl ⟨entry, member, own⟩)
  · have same : effectiveMaxPlayers (setProperties entries file) = effectiveMaxPlayers file := by
      unfold effectiveMaxPlayers
      rw [readProperties_setProperties_other]
      intro entry member
      have other : entry.1 ≠ "max-players" := fun own => sets ⟨entry, member, own⟩
      exact ⟨other, confined.silent List.mem_cons_self member other⟩
    rw [or_iff_right sets]
    constructor
    · intro kept most known
      exact kept.players most (same.trans known)
    · exact fun within => ⟨ports, fun most known => within most (same.symm.trans known)⟩

private def shopFile : Option Text := some "server-port=19140\nmax-players=20\n".toList

/-- A number beyond the plan is capped, and the port stays. -/
theorem five_hundred_players_are_capped
    : (PropertyRequest.updateServerProperties
          ⟨[("motd", .text "shop"), ("max-players", .text "500")], by simp⟩).sent 10
        = .ok [("motd", .text "shop"), ("max-players", .number 10)]
      ∧ KeepsProtected 10 shopFile
        (setProperties [("motd", .text "shop"), ("max-players", .number 10)] shopFile) := by
  have accepted : (PropertyRequest.updateServerProperties
        ⟨[("motd", .text "shop"), ("max-players", .text "500")], by simp⟩).sent 10
      = .ok [("motd", .text "shop"), ("max-players", .number 10)] := by decide +kernel
  have confined : Confined [("motd", .text "shop"), ("max-players", .number 10)] := by
    refine confined_of_unbroken (List.forall_mem_cons.mpr ⟨?_, List.forall_mem_singleton.mpr ?_⟩)
    · exact ⟨PlainKey.lineKey (by decide), Legible.unbroken (by decide)⟩
    · exact ⟨PlainKey.lineKey (by decide), (legible_number 10).unbroken⟩
  refine ⟨accepted, ((protected_properties_kept_iff accepted).1 confined shopFile).mpr ?_⟩
  exact .inl ⟨_, List.mem_cons_of_mem _ List.mem_cons_self, rfl⟩

/-- A port gets through with a space after its key or on the second line of another value, and
a player number beyond the plan stays if the request does not name it.
-/
theorem ports_get_through
    : (∃ entries,
        (PropertyRequest.updateServerProperties
          ⟨[("server-port ", .number 25565)], by simp⟩).sent 10 = .ok entries
        ∧ ¬ KeepsProtected 10 shopFile (setProperties entries shopFile))
      ∧ (∃ entries,
        (PropertyRequest.updateServerProperties
          ⟨[("motd", .text "shop\nserver-port=25565"), ("max-players", .number 10)],
            by simp⟩).sent 10 = .ok entries
        ∧ ¬ KeepsProtected 10 shopFile (setProperties entries shopFile))
      ∧ ∃ entries,
        (PropertyRequest.updateServerProperties ⟨[("motd", .text "shop")], by simp⟩).sent 10
          = .ok entries
        ∧ ¬ KeepsProtected 10 shopFile (setProperties entries shopFile) := by
  refine ⟨⟨[("server-port ", .number 25565)], by decide +kernel, fun kept => ?_⟩,
    ⟨[("motd", .text "shop\nserver-port=25565"), ("max-players", .number 10)],
      by decide +kernel, fun kept => ?_⟩,
    ⟨[("motd", .text "shop")], by decide +kernel, fun kept => ?_⟩⟩
  · have port := kept.ports "server-port" List.mem_cons_self
    revert port
    decide +kernel
  · have port := kept.ports "server-port" List.mem_cons_self
    revert port
    decide +kernel
  · have most := kept.players 20 (by decide +kernel)
    exact absurd most (by decide)

end Blockhost.ServerProperties
