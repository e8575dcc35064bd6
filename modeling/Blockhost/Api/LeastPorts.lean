import Blockhost.Api.StartChecks
import Mathlib.Order.Bounds.Basic
import Mathlib.Data.List.Nodup
import Mathlib.Data.List.Flatten

/-! What the port allocator promises: the validation accepts exactly the servers that keep out of
each other's way in the range, and among such servers an allocation gives the least port that is
left.
-/

namespace Blockhost

open Library

-- The specification

/-- Servers that stay within a range and keep their ports to themselves. -/
structure OrderlyPorts (range : PortRange) (servers : List Server) : Prop where
  inside : ∀ server ∈ servers, ∀ port ∈ server.footprint, port ≤ range.finish
  apart
    : servers.Pairwise (fun left right => ∀ port ∈ left.footprint, port ∉ right.footprint)

/-- A port that a new server of a flavor could have. -/
structure UsablePort (settings : Settings) (tests : PortTests) (db : Database)
    (flavor : ServerFlavor) (nodeId : Option Uuid) (port : Int)
    : Prop where
  inside
    : ∀ taken ∈ portFootprint flavor port,
      (portRangeFor settings flavor).start ≤ taken
      ∧ taken ≤ (portRangeFor settings flavor).finish
  free : ∀ taken ∈ portFootprint flavor port, tests.free flavor taken = true
  clear
    : ∀ server ∈ serversInRange db (portRangeFor settings flavor) nodeId,
      ∀ taken ∈ portFootprint flavor port, taken ∉ server.footprint

-- Validation

variable {range : PortRange} {servers : List Server} {server : Server}

theorem portErrors_eq_nil (placed : range.start ≤ server.vmPort ∧ server.vmPort ≤ range.finish)
    : portErrors range server = [] ↔ ∀ port ∈ server.footprint, port ≤ range.finish := by
  have low : ¬ server.vmPort < range.start := by omega
  have high : ¬ range.finish < server.vmPort := by omega
  unfold portErrors Server.footprint portFootprint
  by_cases bedrock : server.flavor = .bedrock
  · simp [bedrock, low, high, placed.2]
  · simp [bedrock, low, high, placed.2]

theorem footprint_nodup (server : Server) : server.footprint.Nodup := by
  unfold Server.footprint portFootprint
  split
  · rw [List.nodup_cons, List.mem_singleton]
    exact ⟨by omega, List.nodup_singleton _⟩
  · exact List.nodup_singleton _

theorem portClaims_ports (inside : ∀ port ∈ server.footprint, port ≤ range.finish)
    : (portClaims range server).map Prod.fst = server.footprint := by
  have kept : server.footprint.filter (fun port => port ≤ range.finish) = server.footprint :=
    List.filter_eq_self.mpr (fun port member => decide_eq_true (inside port member))
  unfold portClaims
  rw [List.map_map]
  exact (List.map_id _).trans kept

theorem sharedClaims_eq_nil (claims : List (Int × Uuid)) (text : Int → List Uuid → String)
    : ((claims.map Prod.fst).eraseDups.filterMap (fun port =>
        let holders := (claims.filter (fun claim => claim.1 = port)).map Prod.snd
        if 1 < holders.length then some (text port holders) else none)) = []
      ↔ (claims.map Prod.fst).Nodup := by
  have counted (port : Int)
      : ((claims.filter (fun claim => claim.1 = port)).map Prod.snd).length
        = (claims.map Prod.fst).count port := by
    rw [List.length_map, ← List.countP_eq_length_filter, List.count, List.countP_map]
    congr 1
  rw [List.filterMap_eq_nil_iff, List.nodup_iff_count_le_one]
  simp only [List.mem_eraseDups, counted]
  constructor
  · intro single port
    by_cases member : port ∈ claims.map Prod.fst
    · by_contra more
      have shared := single port member
      rw [if_pos (by omega)] at shared
      cases shared
    · rw [List.count_eq_zero.mpr member]
      exact Nat.zero_le 1
  · intro single port _
    exact if_neg (by have := single port; omega)

theorem validateServerPortPairs_ok_iff {db : Database} {nodeId : Option Uuid}
    : validateServerPortPairs db range nodeId = .ok ()
      ↔ OrderlyPorts range (serversInRange db range nodeId) := by
  have placed : ∀ server ∈ serversInRange db range nodeId,
      range.start ≤ server.vmPort ∧ server.vmPort ≤ range.finish := by
    intro server member
    have found := (List.mem_filter.mp member).2
    simp only [Bool.and_eq_true, decide_eq_true_eq] at found
    exact found.1
  have empty : validateServerPortPairs db range nodeId = .ok ()
      ↔ (serversInRange db range nodeId).flatMap (portErrors range) = []
        ∧ (((serversInRange db range nodeId).flatMap (portClaims range)).map Prod.fst).Nodup
      := by
    rw [← sharedClaims_eq_nil _ (fun port holders =>
      "Port " ++ toString port ++ " is reserved by multiple servers: "
        ++ ", ".intercalate (holders.map uuidText)), ← List.append_eq_nil_iff]
    unfold validateServerPortPairs
    dsimp only
    split
    · rename_i none
      exact iff_of_true rfl none
    · rename_i some_
      exact iff_of_false nofun some_
  have clean : (serversInRange db range nodeId).flatMap (portErrors range) = []
      ↔ ∀ server ∈ serversInRange db range nodeId,
        ∀ port ∈ server.footprint, port ≤ range.finish := by
    rw [List.flatMap_eq_nil_iff]
    exact forall₂_congr fun server member => portErrors_eq_nil (placed server member)
  have single (inside : ∀ server ∈ serversInRange db range nodeId,
        ∀ port ∈ server.footprint, port ≤ range.finish)
      : (((serversInRange db range nodeId).flatMap (portClaims range)).map Prod.fst).Nodup
        ↔ (serversInRange db range nodeId).Pairwise
          (fun left right => ∀ port ∈ left.footprint, port ∉ right.footprint) := by
    have ports : ((serversInRange db range nodeId).flatMap (portClaims range)).map Prod.fst
        = (serversInRange db range nodeId).flatMap Server.footprint := by
      rw [List.map_flatMap]
      exact List.flatMap_congr fun server member => portClaims_ports (inside server member)
    rw [ports, List.nodup_flatMap]
    exact ⟨And.right, fun apart => ⟨fun server _ => footprint_nodup server, apart⟩⟩
  rw [empty, clean]
  constructor
  · rintro ⟨inside, apart⟩
    exact ⟨inside, (single inside).mp apart⟩
  · rintro ⟨inside, apart⟩
    exact ⟨inside, (single inside).mpr apart⟩
-- The least port

theorem find?_eq_some_iff_isLeast {ports : List Int} (ascending : ports.Pairwise (· < ·))
    (passes : Int → Bool) (port : Int)
    : ports.find? passes = some port
      ↔ IsLeast {other | other ∈ ports ∧ passes other = true} port := by
  have least {first : Int} (found : ports.find? passes = some first)
      : IsLeast {other | other ∈ ports ∧ passes other = true} first := by
    obtain ⟨passed, before, after, rfl, missed⟩ := List.find?_eq_some_iff_append.mp found
    refine ⟨⟨by simp, passed⟩, ?_⟩
    rintro other ⟨member, fits⟩
    rcases List.mem_append.mp member with earlier | later
    · have failed := missed other earlier
      rw [fits] at failed
      cases failed
    · rcases List.mem_cons.mp later with rfl | behind
      · exact le_refl _
      · have rest := (List.pairwise_append.mp ascending).2.1
        exact le_of_lt ((List.pairwise_cons.mp rest).1 other behind)
  constructor
  · exact least
  · intro isLeast
    obtain ⟨first, found⟩ : ∃ first, ports.find? passes = some first := by
      rw [← Option.isSome_iff_exists, List.find?_isSome]
      exact ⟨port, isLeast.1.1, isLeast.1.2⟩
    rw [found, (least found).unique isLeast]

theorem mem_ports_iff {port : Int}
    : port ∈ range.ports ↔ range.start ≤ port ∧ port ≤ range.finish := by
  refine ⟨mem_ports, fun ⟨low, high⟩ => ?_⟩
  refine List.mem_map.mpr ⟨(port - range.start).toNat, List.mem_range.mpr (by omega), ?_⟩
  omega

theorem ports_ascending (range : PortRange) : range.ports.Pairwise (· < ·) := by
  unfold PortRange.ports
  rw [List.pairwise_map]
  exact List.pairwise_lt_range.imp (fun earlier => by omega)

variable {settings : Settings} {tests : PortTests} {db : Database} {flavor : ServerFlavor}
variable {nodeId : Option Uuid}

theorem mem_reserved_iff {port : Int} (high : port ≤ range.finish)
    : port ∈ collectReservedPorts db range nodeId
      ↔ ∃ server ∈ serversInRange db range nodeId, port ∈ server.footprint := by
  constructor
  · intro reserved
    obtain ⟨server, listed, member⟩ := List.mem_flatMap.mp reserved
    refine ⟨server, listed, ?_⟩
    unfold Server.footprint portFootprint
    by_cases bedrock : server.flavor = .bedrock
    · rw [if_pos bedrock]
      split at member
      · exact member
      · rw [List.mem_singleton.mp member]
        exact List.mem_cons_self
    · rw [if_neg bedrock]
      simpa [bedrock] using member
  · rintro ⟨server, listed, occupied⟩
    obtain ⟨stored, placed⟩ := List.mem_filter.mp listed
    simp only [Bool.and_eq_true, Bool.or_eq_true, decide_eq_true_eq, Option.isNone_iff_eq_none]
      at placed
    exact reserved_of_footprint stored placed.2 placed.1.1 occupied high

theorem usablePort_iff {port : Int}
    : UsablePort settings tests db flavor nodeId port
      ↔ ∀ taken ∈ portFootprint flavor port,
        ((portRangeFor settings flavor).start ≤ taken
          ∧ taken ≤ (portRangeFor settings flavor).finish)
        ∧ taken ∉ collectReservedPorts db (portRangeFor settings flavor) nodeId
        ∧ tests.free flavor taken = true := by
  constructor
  · rintro ⟨inside, free, clear⟩ taken member
    refine ⟨inside taken member, ?_, free taken member⟩
    rw [mem_reserved_iff (inside taken member).2]
    rintro ⟨server, listed, occupied⟩
    exact clear server listed taken member occupied
  · intro each
    refine ⟨fun taken member => (each taken member).1,
      fun taken member => (each taken member).2.2, ?_⟩
    intro server listed taken member occupied
    obtain ⟨bounds, unreserved, _⟩ := each taken member
    exact unreserved ((mem_reserved_iff bounds.2).mpr ⟨server, listed, occupied⟩)

theorem usablePort_iff_udp (bedrock : flavor = .bedrock) {port : Int}
    : UsablePort settings tests db flavor nodeId port
      ↔ port ∈ (portRangeFor settings flavor).ports
        ∧ (port + 1 ≤ (portRangeFor settings flavor).finish
          && port ∉ collectReservedPorts db (portRangeFor settings flavor) nodeId
          && port + 1 ∉ collectReservedPorts db (portRangeFor settings flavor) nodeId
          && tests.udpFree port && tests.udpFree (port + 1)) = true := by
  have footprint : portFootprint flavor port = [port, port + 1] := if_pos bedrock
  have free (taken : Int) : tests.free flavor taken = tests.udpFree taken := if_pos bedrock
  rw [usablePort_iff, footprint, mem_ports_iff]
  simp only [free, List.forall_mem_cons, List.not_mem_nil, false_implies, implies_true, and_true,
    Bool.and_eq_true, decide_eq_true_eq]
  constructor
  · rintro ⟨⟨bounds, unreserved, bound⟩, next, unreservedNext, boundNext⟩
    exact ⟨bounds, ⟨⟨⟨next.2, unreserved⟩, unreservedNext⟩, bound⟩, boundNext⟩
  · rintro ⟨bounds, ⟨⟨⟨next, unreserved⟩, unreservedNext⟩, bound⟩, boundNext⟩
    exact ⟨⟨bounds, unreserved, bound⟩, ⟨by omega, next⟩, unreservedNext, boundNext⟩

theorem usablePort_iff_tcp (java : flavor ≠ .bedrock) {port : Int}
    : UsablePort settings tests db flavor nodeId port
      ↔ port ∈ (portRangeFor settings flavor).ports
        ∧ (port ∉ collectReservedPorts db (portRangeFor settings flavor) nodeId
          && tests.tcpFree port) = true := by
  have footprint : portFootprint flavor port = [port] := if_neg java
  have free (taken : Int) : tests.free flavor taken = tests.tcpFree taken := if_neg java
  rw [usablePort_iff, footprint, mem_ports_iff]
  simp only [free, List.forall_mem_cons, List.not_mem_nil, false_implies, implies_true, and_true,
    Bool.and_eq_true, decide_eq_true_eq]

theorem allocatePort_search (tests : PortTests)
    (orderly
      : OrderlyPorts (portRangeFor settings flavor)
        (serversInRange db (portRangeFor settings flavor) nodeId))
    : ∃ passes : Int → Bool,
        (∀ port, allocatePort settings tests db flavor nodeId = .ok port
          ↔ (portRangeFor settings flavor).ports.find? passes = some port)
        ∧ ∀ port, UsablePort settings tests db flavor nodeId port
          ↔ port ∈ (portRangeFor settings flavor).ports ∧ passes port = true := by
  have valid := validateServerPortPairs_ok_iff.mpr orderly
  by_cases bedrock : flavor = .bedrock
  · refine ⟨_, fun port => ?_, fun port => usablePort_iff_udp bedrock⟩
    unfold allocatePort
    dsimp only
    rw [valid, if_pos bedrock]
    exact pickFreeUdpPort_ok_iff
  · refine ⟨_, fun port => ?_, fun port => usablePort_iff_tcp bedrock⟩
    unfold allocatePort
    dsimp only
    rw [valid, if_neg bedrock]
    exact pickFreeTcpPort_ok_iff

section Results

variable
  (orderly
    : OrderlyPorts (portRangeFor settings flavor)
      (serversInRange db (portRangeFor settings flavor) nodeId))
include orderly

theorem allocatePort_ok_iff_isLeast (port : Int)
    : allocatePort settings tests db flavor nodeId = .ok port
      ↔ IsLeast {port | UsablePort settings tests db flavor nodeId port} port := by
  obtain ⟨passes, given, usable⟩ := allocatePort_search tests orderly
  simp only [given, usable]
  exact find?_eq_some_iff_isLeast (ports_ascending _) passes port

theorem allocatePort_fails_iff
    : (∃ failure, allocatePort settings tests db flavor nodeId = .error failure)
      ↔ ∀ port, ¬ UsablePort settings tests db flavor nodeId port := by
  obtain ⟨passes, given, usable⟩ := allocatePort_search tests orderly
  have missed : (∀ port, ¬ UsablePort settings tests db flavor nodeId port)
      ↔ (portRangeFor settings flavor).ports.find? passes = none := by
    rw [List.find?_eq_none]
    simp only [usable, not_and]
  rw [missed]
  cases result : allocatePort settings tests db flavor nodeId with
  | ok port =>
      rw [(given port).mp result]
      exact iff_of_false nofun nofun
  | error failure =>
      refine iff_of_true ⟨failure, rfl⟩ ?_
      cases found : (portRangeFor settings flavor).ports.find? passes with
      | none => rfl
      | some port => cases result.symm.trans ((given port).mpr found)

/-- Among orderly servers an allocation gives the least usable port, and fails exactly when there
is none.
-/
theorem allocatePort_gives_least
    : (∀ port, allocatePort settings tests db flavor nodeId = .ok port
        ↔ IsLeast {port | UsablePort settings tests db flavor nodeId port} port)
      ∧ ((∃ failure, allocatePort settings tests db flavor nodeId = .error failure)
        ↔ ∀ port, ¬ UsablePort settings tests db flavor nodeId port) :=
  ⟨allocatePort_ok_iff_isLeast orderly, allocatePort_fails_iff orderly⟩

end Results

private def firstPair : Database where
  servers := ⟨[{ id := 0, nodeId := some 1, ownerId := 0, worldName := "w", lastActivity := 0 }],
    List.nodup_singleton _⟩

/-- The next Bedrock server of the node gets the next pair of ports. -/
theorem next_server_gets_next_pair
    : allocatePort {} {} firstPair .bedrock (some 1) = .ok 19134
      ∧ IsLeast {port | UsablePort {} {} firstPair .bedrock (some 1) port} 19134 := by
  have orderly : OrderlyPorts (portRangeFor {} .bedrock)
      (serversInRange firstPair (portRangeFor {} .bedrock) (some 1)) :=
    validateServerPortPairs_ok_iff.mp (by decide +kernel)
  have given : allocatePort {} {} firstPair .bedrock (some 1) = .ok 19134 := by decide +kernel
  exact ⟨given, ((allocatePort_gives_least orderly).1 19134).mp given⟩

end Blockhost
