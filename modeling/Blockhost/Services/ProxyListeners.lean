import Blockhost.Services.GameProxy

/-! The listeners of the game proxy after any passes. A pass binds the ports that it adds and no
others, so a port whose bind failed stays without a listener as long as it is routed.
-/

namespace Blockhost.GameProxy

variable {pass : Pass} {past : List Pass} {port : Port} {protocol : Protocol}

def proxyAfter : List Pass → Proxy
  | [] => {}
  | pass :: past => refresh pass (proxyAfter past)

/-- Each routed port has both listeners, and no other port has one. -/
def ListenersMatch (proxy : Proxy) : Prop :=
  ∀ port protocol, proxy.listens port protocol = (proxy.routingTable port).isSome

def AttemptsSucceed (pass : Pass) (proxy : Proxy) : Prop :=
  ∀ rows, pass.rows = some rows
    → ∀ port protocol, portChange proxy.routingTable (loadRoutingTable rows) port = .added
      → proxy.listens port protocol = false → pass.binds port protocol = true

def lastRoutes : List Pass → RoutingTable
  | [] => fun _ => none
  | pass :: past => pass.rows.elim (lastRoutes past) loadRoutingTable

def boundWhenAdded (port : Port) (protocol : Protocol) : List Pass → Bool
  | [] => false
  | pass :: past =>
      match pass.rows with
      | none => boundWhenAdded port protocol past
      | some _ =>
          if (lastRoutes past port).isSome then boundWhenAdded port protocol past
          else pass.binds port protocol

theorem refresh_unloaded (failed : pass.rows = none) (proxy : Proxy)
    : refresh pass proxy = proxy := by
  unfold refresh
  rw [failed]

theorem refresh_routes {rows : List RouteRow} (loaded : pass.rows = some rows) (proxy : Proxy)
    : (refresh pass proxy).routingTable = loadRoutingTable rows := by
  unfold refresh
  rw [loaded]

theorem refresh_listens {rows : List RouteRow} (loaded : pass.rows = some rows) (proxy : Proxy)
    : (refresh pass proxy).listens port protocol
      = refreshTcp (portChange proxy.routingTable (loadRoutingTable rows) port)
          (pass.binds port protocol) (proxy.listens port protocol) := by
  unfold refresh
  rw [loaded]
  cases protocol with
  | tcp => rfl
  | udp =>
      simp only [Proxy.listens, refreshUdp, refreshTcp]
      cases portChange proxy.routingTable (loadRoutingTable rows) port with
      | added =>
          cases proxy.udpTransports port with
          | none => cases pass.binds port .udp <;> rfl
          | some listening => rfl
      | removed => rfl
      | same => rfl

/-- The table of the proxy is the one that was loaded last, by induction on the passes. -/
theorem proxyAfter_routes (past : List Pass)
    : (proxyAfter past).routingTable = lastRoutes past := by
  induction past with
  | nil => rfl
  | cons pass past ih =>
      unfold proxyAfter lastRoutes
      cases loaded : pass.rows with
      | none => rw [refresh_unloaded loaded, ih, Option.elim_none]
      | some rows => rw [refresh_routes loaded, Option.elim_some]

/-- A port has a listener exactly when it is routed and was bound when it was added, by induction
on the passes.
-/
theorem proxyAfter_listens (past : List Pass)
    : (proxyAfter past).listens port protocol
      = ((lastRoutes past port).isSome && boundWhenAdded port protocol past) := by
  induction past with
  | nil => cases protocol <;> rfl
  | cons pass past ih =>
      unfold proxyAfter lastRoutes boundWhenAdded
      cases loaded : pass.rows with
      | none => rw [refresh_unloaded loaded, ih, Option.elim_none]
      | some rows =>
          rw [refresh_listens loaded, ih, proxyAfter_routes, Option.elim_some]
          unfold portChange
          cases (lastRoutes past port).isSome <;> cases (loadRoutingTable rows port).isSome <;>
            simp [refreshTcp]

theorem boundWhenAdded_new (succeeded : AttemptsSucceed pass (proxyAfter past))
    (routed : (lastRoutes (pass :: past) port).isSome = true)
    (unrouted : (lastRoutes past port).isSome = false)
    : boundWhenAdded port protocol (pass :: past) = true := by
  unfold lastRoutes at routed
  unfold boundWhenAdded
  cases loaded : pass.rows with
  | none =>
      rw [loaded, Option.elim_none, unrouted] at routed
      cases routed
  | some rows =>
      rw [loaded, Option.elim_some] at routed
      simp only [unrouted, Bool.false_eq_true, if_false]
      refine succeeded rows loaded port protocol ?_ ?_
      · rw [proxyAfter_routes, portChange, unrouted, routed]
      · rw [proxyAfter_listens, unrouted, Bool.false_and]

theorem boundWhenAdded_old (routed : (lastRoutes past port).isSome = true)
    : boundWhenAdded port protocol (pass :: past) = boundWhenAdded port protocol past := by
  rw [boundWhenAdded]
  cases pass.rows with
  | none => rfl
  | some rows => simp only [routed, if_true]

/-- After a pass whose binds all succeed the listeners match the routes exactly when each port
that was routed before, and still is, was bound in the pass that added it.
-/
theorem listeners_match_iff (succeeded : AttemptsSucceed pass (proxyAfter past))
    : ListenersMatch (proxyAfter (pass :: past))
      ↔ ∀ port protocol, (lastRoutes past port).isSome = true
        → (lastRoutes (pass :: past) port).isSome = true
        → boundWhenAdded port protocol past = true := by
  unfold ListenersMatch
  simp only [proxyAfter_listens, proxyAfter_routes]
  constructor
  · intro matched port protocol before routed
    have bound := matched port protocol
    rw [routed, Bool.true_and, boundWhenAdded_old before] at bound
    exact bound
  · intro bound port protocol
    cases routed : (lastRoutes (pass :: past) port).isSome with
    | false => rfl
    | true =>
        rw [Bool.true_and]
        cases before : (lastRoutes past port).isSome with
        | false => exact boundWhenAdded_new succeeded routed before
        | true =>
            rw [boundWhenAdded_old before]
            exact bound port protocol before routed

private def worldRow : RouteRow where
  serverId := 1
  proxyPort := some 30001
  vmPort := 19132
  state := .running
  nodeIp := some "10.0.0.1"

private def bindingPass (bound : Bool) : Pass where
  rows := some [worldRow]
  binds _ protocol := protocol = .tcp || bound

/-- A route that stays is served after every later pass, if its port was bound at first. -/
theorem bound_port_stays_matched
    : ListenersMatch (proxyAfter [bindingPass true, bindingPass true]) := by
  have succeeded : AttemptsSucceed (bindingPass true) (proxyAfter [bindingPass true]) := by
    intro rows _ port protocol _ _
    cases protocol <;> rfl
  refine (listeners_match_iff succeeded).mpr ?_
  intro port protocol routed _
  have added : boundWhenAdded port protocol [bindingPass true]
      = (bindingPass true).binds port protocol :=
    rfl
  rw [added]
  cases protocol <;> rfl

/-- The UDP bind of a port fails once; no later pass tries again. -/
theorem failed_bind_is_not_retried
    : AttemptsSucceed (bindingPass true) (proxyAfter [bindingPass false])
      ∧ ¬ ListenersMatch (proxyAfter [bindingPass true, bindingPass false]) := by
  constructor
  · intro rows _ port protocol _ _
    cases protocol <;> rfl
  · intro matched
    exact absurd (matched 30001 .udp) (by decide)

end Blockhost.GameProxy
