import Blockhost.Services.BanService

/-! When bans are enforced. A player who joins is kicked by the first line that is looked up, and
lines that follow a lookup of the player on any server within ten seconds are not.
-/

namespace Blockhost.Bans

open Library

variable (dialect : Dialect) (isDecimal : Char → Bool)

-- Runs

/-- A service that has seen no line, with the bans and players of that time. -/
structure Outset where
  bans : Uuid → BanTable
  online : Uuid → String → Bool

def Outset.enforcement (outset : Outset) : Enforcement where
  bans := outset.bans
  online := outset.online

def after (outset : Outset) (events : List BanEvent) : Enforcement :=
  events.foldl (fun state event => (banStep dialect isDecimal state event).1) outset.enforcement

/-- The state in which an event is met. -/
def before (outset : Outset) (events : List BanEvent) (index : Nat) : Enforcement :=
  after dialect isDecimal outset (events.take index)

def kicksAt (outset : Outset) (events : List BanEvent) (index : Nat) : List Kick :=
  (events[index]?).elim [] (fun event =>
    (banStep dialect isDecimal (before dialect isDecimal outset events index) event).2)

def BanEvent.time : BanEvent → Option Instant
  | .log _ _ now => some now
  | _ => none

def Nondecreasing (events : List BanEvent) : Prop :=
  (events.filterMap BanEvent.time).Pairwise (· ≤ ·)

-- The law

def NamesAt (events : List BanEvent) (index : Nat) (server : Uuid) (found : PlayerMatch)
    (now : Instant)
    : Prop :=
  ∃ line, events[index]? = some (.log server line now)
    ∧ searchPlayer isDecimal line.toList = some found

structure JoinsAt (outset : Outset) (events : List BanEvent) (index : Nat) (server : Uuid)
    (playerName xuid : String) (now : Instant)
    : Prop where
  connects
    : NamesAt isDecimal events index server ⟨false, playerName, some xuid⟩ now
  offline : (before dialect isDecimal outset events index).online server xuid = false

/-- A player has an active ban that has not run out. -/
def BannedAt (outset : Outset) (events : List BanEvent) (index : Nat) (server : Uuid)
    (xuid : String) (now : Instant)
    : Prop :=
  ∃ ban, activeBan xuid ((before dialect isDecimal outset events index).bans server) = some ban
    ∧ ban.expired now = false

/-- From an event to a later one a player does not join a server again. -/
def NoJoinUntil (outset : Outset) (events : List BanEvent) (index later : Nat) (server : Uuid)
    (xuid : String)
    : Prop :=
  ∀ between playerName now, index < between → between ≤ later
    → ¬ JoinsAt dialect isDecimal outset events between server playerName xuid now

/-- Every join of a banned player is followed by a kick of the player before the next join. -/
def BansEnforced (outset : Outset) (events : List BanEvent) : Prop :=
  ∀ index server playerName xuid now,
    JoinsAt dialect isDecimal outset events index server playerName xuid now
    → BannedAt dialect isDecimal outset events index server xuid now
    → ∃ later, index ≤ later ∧ NoJoinUntil dialect isDecimal outset events index later server xuid
      ∧ ∃ kick ∈ kicksAt dialect isDecimal outset events later,
          kick.server = server ∧ kick.playerName = playerName

/-- The players that lines name, with the times of the lines, on all servers. -/
def namedUses (events : List BanEvent) : List (String × Int) :=
  events.filterMap (fun event =>
    match event with
    | .log _ line now =>
        (searchPlayer isDecimal line.toList).bind (fun found =>
          found.xuid.map (fun xuid => (xuid, now)))
    | _ => none)

/-- A player is in no window when a line comes, by the earlier lines that name the player. -/
def OpensAt (events : List BanEvent) (index : Nat) (xuid : String) (now : Instant) : Prop :=
  inWindow ttlSeconds now
    (lastWindow ttlSeconds (timesOf xuid (namedUses isDecimal (events.take index)))) = false

/-- A player's ban can be looked up: on SQLite only one without an expiry. -/
def KnownAt (outset : Outset) (events : List BanEvent) (index : Nat) (server : Uuid)
    (xuid : String)
    : Prop :=
  ∀ ban, activeBan xuid ((before dialect isDecimal outset events index).bans server) = some ban
    → dialect = .sqlite → ban.expiresAt = none

/-- The condition: after a join of a banned player, before the next one, there comes a line of the
server with the name of the player that opens a window while the ban is in force and can be looked
up.
-/
def JoinsLookedUp (outset : Outset) (events : List BanEvent) : Prop :=
  ∀ index server playerName xuid now,
    JoinsAt dialect isDecimal outset events index server playerName xuid now
    → BannedAt dialect isDecimal outset events index server xuid now
    → ∃ later, index ≤ later ∧ NoJoinUntil dialect isDecimal outset events index later server xuid
      ∧ ∃ spawned named time,
          NamesAt isDecimal events later server ⟨spawned, playerName, some named⟩ time
          ∧ OpensAt isDecimal events later named time
          ∧ BannedAt dialect isDecimal outset events later server named time
          ∧ KnownAt dialect isDecimal outset events later server named

-- Windows

variable {outset : Outset} {events : List BanEvent} {index : Nat} {server : Uuid}
variable {now : Instant}

theorem banStep_windows (state : Enforcement) (event : BanEvent)
    : (banStep dialect isDecimal state event).1.recentlyProcessed
      = (namedUses isDecimal [event]).foldl (Windows.use ttlSeconds)
          state.recentlyProcessed := by
  cases event with
  | changeBans server bans => rfl
  | offline server xuid => rfl
  | log server line now =>
      simp only [banStep, namedUses, List.filterMap_cons, List.filterMap_nil]
      cases searchPlayer isDecimal line.toList with
      | none => rfl
      | some found =>
          obtain ⟨spawned, playerName, xuid⟩ := found
          cases xuid with
          | none => rfl
          | some xuid =>
              simp only [listener]
              split <;> rfl

/-- The store of the service has the uses of all lines, by induction on the events. -/
theorem after_windows (events : List BanEvent)
    : (after dialect isDecimal outset events).recentlyProcessed
      = (namedUses isDecimal events).foldl (Windows.use ttlSeconds) (fun _ => none) := by
  induction events using List.reverseRecOn with
  | nil => rfl
  | append_singleton events event ih =>
      have joined : namedUses isDecimal (events ++ [event])
          = namedUses isDecimal events ++ namedUses isDecimal [event] :=
        List.filterMap_append
      have taken : after dialect isDecimal outset (events ++ [event])
          = (banStep dialect isDecimal (after dialect isDecimal outset events) event).1 := by
        unfold after
        rw [List.foldl_append]
        rfl
      rw [taken, banStep_windows, ih, joined, List.foldl_append]

/-- The lines that name players are some of the lines, by induction on the events. -/
theorem namedUses_times (events : List BanEvent)
    : ((namedUses isDecimal events).map Prod.snd).Sublist (events.filterMap BanEvent.time) := by
  induction events with
  | nil => exact List.Sublist.refl []
  | cons event rest ih =>
      cases event with
      | changeBans server bans => exact ih
      | offline server xuid => exact ih
      | log server line now =>
          unfold namedUses at ih ⊢
          rw [List.filterMap_cons, List.filterMap_cons]
          dsimp only [BanEvent.time]
          split
          · exact ih.cons now
          · rename_i used named
            obtain ⟨found, _, named⟩ := Option.bind_eq_some_iff.mp named
            obtain ⟨xuid, _, rfl⟩ := Option.map_eq_some_iff.mp named
            exact ih.cons_cons now

theorem Nondecreasing.earlier (ordered : Nondecreasing events) {line : String}
    (found : events[index]? = some (.log server line now))
    : ((namedUses isDecimal (events.take index)).map Prod.snd).Pairwise (· ≤ ·)
      ∧ ∀ used ∈ namedUses isDecimal (events.take index), used.2 ≤ now := by
  obtain ⟨bound, same⟩ := List.getElem?_eq_some_iff.mp found
  have parts := List.take_append_drop index events
  rw [List.drop_eq_getElem_cons bound, same] at parts
  have times := ordered
  unfold Nondecreasing at times
  rw [← parts, List.filterMap_append, List.pairwise_append] at times
  have sublist := namedUses_times isDecimal (events.take index)
  refine ⟨times.1.sublist sublist, ?_⟩
  intro used member
  refine times.2.2 used.2 (sublist.subset (List.mem_map_of_mem member)) now ?_
  exact List.mem_filterMap.mpr ⟨_, List.mem_cons_self, rfl⟩

theorem admits_iff (ordered : Nondecreasing events) {line : String}
    (found : events[index]? = some (.log server line now)) (xuid : String)
    : Windows.admits ttlSeconds now xuid
          (before dialect isDecimal outset events index).recentlyProcessed = true
      ↔ OpensAt isDecimal events index xuid now := by
  obtain ⟨sorted, late⟩ := ordered.earlier isDecimal found
  have tracked
      : ((namedUses isDecimal (events.take index)).foldl (Windows.use ttlSeconds)
            (fun _ => none)).Tracks ttlSeconds now xuid
          (timesOf xuid (namedUses isDecimal (events.take index))) :=
    Windows.tracks_uses sorted late xuid
  unfold before OpensAt
  rw [after_windows, tracked.admits_eq, Bool.not_eq_true']

-- Kicks

theorem runOut_false {ban : BanRow}
    : ban.runOut dialect now = .ok false
      ↔ ban.expired now = false ∧ (dialect = .sqlite → ban.expiresAt = none) := by
  cases dialect with
  | postgresql => simp [BanRow.runOut]
  | sqlite => cases expires : ban.expiresAt <;> simp [BanRow.runOut, expires]

theorem mem_listener {found : Option PlayerMatch} {state : Enforcement} {kick : Kick}
    : kick ∈ (listener dialect server found now state).2
      ↔ ∃ spawned playerName xuid,
          found = some ⟨spawned, playerName, some xuid⟩
          ∧ Windows.admits ttlSeconds now xuid state.recentlyProcessed = true
          ∧ ∃ ban, activeBan xuid (state.bans server) = some ban
            ∧ ban.runOut dialect now = .ok false ∧ kick = ⟨server, playerName, ban.reason⟩ := by
  cases found with
  | none => simp [listener]
  | some found =>
      obtain ⟨spawned, playerName, xuid⟩ := found
      cases xuid with
      | none => simp [listener]
      | some xuid =>
          cases admitted : Windows.admits ttlSeconds now xuid state.recentlyProcessed with
          | false => simp [listener, admitted]
          | true =>
              cases active : activeBan xuid (state.bans server) with
              | none => simp [listener, admitted, checkAndEnforceBan, active]
              | some ban =>
                  cases ran : ban.runOut dialect now with
                  | error refused => simp [listener, admitted, checkAndEnforceBan, active, ran]
                  | ok ended =>
                      cases ended <;>
                        simp [listener, admitted, checkAndEnforceBan, active, ran]

theorem kicksAt_iff (ordered : Nondecreasing events) {playerName : String}
    : (∃ kick ∈ kicksAt dialect isDecimal outset events index,
          kick.server = server ∧ kick.playerName = playerName)
      ↔ ∃ spawned xuid now,
          NamesAt isDecimal events index server ⟨spawned, playerName, some xuid⟩ now
          ∧ OpensAt isDecimal events index xuid now
          ∧ BannedAt dialect isDecimal outset events index server xuid now
          ∧ KnownAt dialect isDecimal outset events index server xuid := by
  constructor
  · rintro ⟨kick, sent, rfl, rfl⟩
    unfold kicksAt at sent
    cases found : events[index]? with
    | none =>
        rw [found] at sent
        cases sent
    | some event =>
        rw [found, Option.elim_some] at sent
        cases event with
        | changeBans server bans => cases sent
        | offline server xuid => cases sent
        | log server line now =>
            obtain ⟨spawned, playerName, xuid, named, admitted, ban, active, ran, rfl⟩ :=
              (mem_listener dialect).mp sent
            obtain ⟨expired, comparable⟩ := (runOut_false dialect).mp ran
            refine ⟨spawned, xuid, now, ⟨line, found, named⟩,
              (admits_iff dialect isDecimal ordered found xuid).mp admitted,
              ⟨ban, active, expired⟩, ?_⟩
            intro other looked
            cases active.symm.trans looked
            exact comparable
  · rintro ⟨spawned, xuid, now, ⟨line, found, named⟩, opens, ⟨ban, active, expired⟩, known⟩
    have admitted
        : Windows.admits ttlSeconds now xuid
            (before dialect isDecimal outset events index).recentlyProcessed = true :=
      (admits_iff dialect isDecimal ordered found xuid).mpr opens
    refine ⟨⟨server, playerName, ban.reason⟩, ?_, rfl, rfl⟩
    unfold kicksAt
    rw [found, Option.elim_some]
    exact (mem_listener dialect).mpr ⟨spawned, playerName, xuid, named, admitted, ban, active,
      (runOut_false dialect).mpr ⟨expired, known ban active⟩, rfl⟩

/-- Bans are enforced exactly under the condition. -/
theorem bans_enforced_iff (ordered : Nondecreasing events)
    : BansEnforced dialect isDecimal outset events
      ↔ JoinsLookedUp dialect isDecimal outset events := by
  unfold BansEnforced JoinsLookedUp
  simp only [kicksAt_iff dialect isDecimal ordered]

private def banOf (xuid : String) : BanRow where
  id := 1
  xuid
  bannedAt := 0

private def bannedOn (server : Uuid) : Outset where
  bans other :=
    if other = server then { rows := [banOf "2535"], unique := by decide }
    else { rows := [], unique := by decide }
  online _ _ := false

private def joinLine : String := "[10:00:00 INFO] Player connected: Steve, xuid: 2535"

private theorem joinLine_found
    : searchPlayer Char.isDigit joinLine.toList = some ⟨false, "Steve", some "2535"⟩ := by
  decide +kernel

/-- A player who comes back after eleven seconds. -/
private def slowReturn : List BanEvent :=
  [.log 7 joinLine 0, .offline 7 "2535", .log 7 joinLine (seconds 11)]

/-- The player is kicked both times. -/
theorem slow_return_is_kicked : BansEnforced .postgresql Char.isDigit (bannedOn 7) slowReturn := by
  have ordered : Nondecreasing slowReturn := by
    unfold Nondecreasing
    decide
  refine (bans_enforced_iff .postgresql Char.isDigit ordered).mpr ?_
  intro index server playerName xuid now joins banned
  obtain ⟨line, found, named⟩ := joins.connects
  refine ⟨index, Nat.le_refl index, ?_, false, xuid, now, joins.connects, ?_, banned, nofun⟩
  · intro between _ _ later earlier
    omega
  · have looked (time : Instant)
        (opens : OpensAt Char.isDigit slowReturn index "2535" time)
        (same : slowReturn[index]? = some (.log 7 joinLine time))
        : OpensAt Char.isDigit slowReturn index xuid now := by
      cases same.symm.trans found
      cases joinLine_found.symm.trans named
      exact opens
    match index, found with
    | 0, _ => exact looked 0 rfl rfl
    | 2, _ => exact looked (seconds 11) (by unfold OpensAt; decide +kernel) rfl

/-- The player joins another server first, and five seconds later the one that bans the player,
where nothing happens.
-/
theorem quick_move_is_not_kicked
    : ∃ outset events, Nondecreasing events
      ∧ ¬ BansEnforced .postgresql Char.isDigit outset events := by
  refine ⟨bannedOn 7, [.log 5 joinLine 0, .log 7 joinLine (seconds 5)], ?_, ?_⟩
  · unfold Nondecreasing
    decide
  · intro enforced
    have quiet
        : kicksAt .postgresql Char.isDigit (bannedOn 7)
          [.log 5 joinLine 0, .log 7 joinLine (seconds 5)] 1
          = [] := by
      decide +kernel
    have connects
        : NamesAt Char.isDigit [.log 5 joinLine 0, .log 7 joinLine (seconds 5)] 1 7
            ⟨false, "Steve", some "2535"⟩ (seconds 5) :=
      ⟨joinLine, rfl, joinLine_found⟩
    obtain ⟨later, order, _, kick, sent, _⟩ :=
      enforced 1 7 "Steve" "2535" (seconds 5) ⟨connects, by decide +kernel⟩
        ⟨banOf "2535", by decide +kernel, rfl⟩
    match later, order with
    | 1, _ =>
        rw [quiet] at sent
        cases sent
    | more + 2, _ => cases sent

end Blockhost.Bans
