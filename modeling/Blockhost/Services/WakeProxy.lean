import Blockhost.Api.Domains

/-! How a deployment falls asleep and is woken up: the sleeper leads its active custom domains
to the wake proxy, which starts a provisioning, and the provisioning registers the domains
again.
-/

namespace Blockhost.WakeProxy

open Library
open Ingress (Caddy Route RoutedOnce Target Unrouted registerFallbackRoute serve)
open Domains

-- The sleeper

/-- What one look at a deployment meets: the received bytes that the agent reports, if it
answers with any, whether the request to stop raises, and the answers of Caddy.
-/
structure IdleCheck where
  rxBytes : Option Int
  stopRaises : Bool := false
  replies : String → Ingress.Reply × Ingress.Reply

inductive SleepResult where
  | suspended (site : Domains.Site)
  | counted (rxBytes : Int)
  | unchanged

def suspendDeployment : Change AppDeployment.id where
  apply deployment := { deployment with state := .suspended }

def registerFallbacks (caddy : Caddy) (controlPlaneDial : String)
    (replies : String → Ingress.Reply × Ingress.Reply) (domains : List String)
    (routes : List Route)
    : List Route :=
  domains.foldl
    (fun routes domain =>
      (registerFallbackRoute caddy domain controlPlaneDial (replies domain).1 (replies domain).2
        routes).1)
    routes

def putToSleep (caddy : Caddy) (controlPlaneDial : String)
    (replies : String → Ingress.Reply × Ingress.Reply) (deploymentId : Uuid)
    (site : Domains.Site)
    : Domains.Site :=
  { site with
    db :=
      { site.db with
        appDeployments := site.db.appDeployments.modify deploymentId suspendDeployment }
    routes :=
      registerFallbacks caddy controlPlaneDial replies (activeDomains site deploymentId)
        site.routes }

/-- The part of `_auto_sleeper_cycle` for one deployment, with the bytes of the last look. -/
def sleepDeployment (caddy : Caddy) (controlPlaneDial : String) (check : IdleCheck)
    (lastNetworkRx : Option Int) (deployment : AppDeployment) (site : Domains.Site)
    : SleepResult :=
  if deployment.state = .running
      && (deployment.nodeId.bind site.db.nodes.get?).isSome then
    match check.rxBytes with
    | none => .unchanged
    | some rxBytes =>
        if lastNetworkRx = some rxBytes then
          if check.stopRaises then .unchanged
          else
            .suspended (putToSleep caddy controlPlaneDial check.replies deployment.id site)
        else .counted rxBytes
  else .unchanged

-- The wake proxy

inductive Method where
  | get
  | head
  | post
  | put
  | patch
  | delete
  | options
deriving DecidableEq, Repr

/-- `wake_proxy_handler`: the deployments whose provisioning it schedules, before it answers
with the waiting page.
-/
def wakeProxyHandler (domain : String) (site : Domains.Site) : Except HttpError (List Uuid) :=
  match site.customDomains.rows.find? (fun row => row.domain = domain) with
  | none => .error ⟨404, "Domain not found or not linked to a deployment"⟩
  | some row =>
      match site.db.appDeployments.get? row.deploymentId with
      | none => .error ⟨404, "Deployment not found"⟩
      | some deployment =>
          if deployment.state = .suspended then .ok [deployment.id] else .ok []

/-- The route `/public/wake-proxy/\x7bdomain\x7d` is one for `GET`. -/
def controlPlane (method : Method) (domain : String) (site : Domains.Site)
    : Except HttpError (List Uuid) :=
  match method with
  | .get => wakeProxyHandler domain site
  | _ => .error ⟨405, "Method Not Allowed"⟩

/-- The deployments that a request from outside wakes up. Caddy rewrites the address of a
request that it hands to the wake proxy, not its method.
-/
def wakes (method : Method) (domain : String) (site : Domains.Site) : List Uuid :=
  match serve domain site.routes with
  | some (.wakeProxy _) =>
      match controlPlane method domain site with
      | .ok deployments => deployments
      | .error _ => []
  | _ => []

-- The law

/-- The domain leads to the container of the deployment. -/
def RoutedTo (site : Domains.Site) (deployment : AppDeployment) (domain : String) : Prop :=
  ∃ nodeIp hostPort, liveAddress site.db deployment = some (nodeIp, hostPort)
    ∧ serve domain site.routes = some (.upstream nodeIp hostPort)

/-- The domains of a container lead to the wake proxy while it sleeps, any request for them
wakes it up, and afterwards they lead to the new container.
-/
structure WakesUp (deployment : AppDeployment) (before suspended provisioned : Domains.Site)
    (node : Node) (hostPort : Nat)
    : Prop where
  asleep
    : ∀ domain, RoutedTo before deployment domain
      → ∃ controlPlaneDial, serve domain suspended.routes = some (.wakeProxy controlPlaneDial)
  woken
    : ∀ domain, RoutedTo before deployment domain
      → ∀ method, deployment.id ∈ wakes method domain suspended
  awake
    : ∀ domain, RoutedTo before deployment domain
      → serve domain provisioned.routes = some (.upstream node.ipAddress hostPort)

/-- Once the sleeper has suspended it, the deployment wakes up with whatever container the next
provisioning starts.
-/
def Wakeable (settings : DomainSettings) (caddy : Caddy) (controlPlaneDial : String)
    (check : IdleCheck) (lastNetworkRx : Option Int) (deployment : AppDeployment)
    (site : Domains.Site) (node : Node) (hostPort : Nat) (answers : String → Ingress.Reply)
    : Prop :=
  ∀ suspended,
    sleepDeployment caddy controlPlaneDial check lastNetworkRx deployment site
      = .suspended suspended
    → WakesUp deployment site suspended
        (provisionAppDeployment settings deployment.id node hostPort answers suspended) node
        hostPort

/-- A running deployment on a known node has received nothing since the last look, and the
request to stop does not raise.
-/
def FallsAsleep (check : IdleCheck) (lastNetworkRx : Option Int) (deployment : AppDeployment)
    (site : Domains.Site)
    : Prop :=
  deployment.state = .running ∧ (deployment.nodeId.bind site.db.nodes.get?).isSome = true
  ∧ check.rxBytes.isSome = true ∧ lastNetworkRx = check.rxBytes ∧ check.stopRaises = false

-- Each part

variable {caddy : Caddy} {controlPlaneDial domain : String}
variable {replies : String → Ingress.Reply × Ingress.Reply}
variable {domains : List String} {routes : List Route} {site suspended : Domains.Site}
variable {deployment : AppDeployment}

/-- What serves a domain goes on to serve it while others are registered, by induction on them.
-/
theorem serve_registerDomains {target : Target} (served : serve domain site.routes = some target)
    (deploymentId : Uuid) (nodeIp : String) (hostPort : Nat) (answers : String → Ingress.Reply)
    : serve domain (registerDomains deploymentId nodeIp hostPort answers domains site).routes
      = some target := by
  unfold registerDomains
  induction domains generalizing site with
  | nil => exact served
  | cons first rest ih =>
      refine ih ?_
      unfold Domains.Site.register Ingress.registerRoute
      dsimp only
      rw [Ingress.serve_post, served]
      rfl

theorem serve_provisionAppDeployment {target : Target}
    (served : serve domain site.routes = some target) (settings : DomainSettings)
    (deploymentId : Uuid) (node : Node) (hostPort : Nat) (answers : String → Ingress.Reply)
    : serve domain
        (provisionAppDeployment settings deploymentId node hostPort answers site).routes
      = some target := by
  unfold provisionAppDeployment
  split
  · exact served
  · refine serve_registerDomains ?_ ..
    exact served

theorem not_wakesUp {node : Node} {hostPort : Nat} (routed : RoutedTo site deployment domain)
    (settings : DomainSettings) (answers : String → Ingress.Reply)
    : ¬ WakesUp deployment site suspended
        (provisionAppDeployment settings deployment.id node hostPort answers suspended) node
        hostPort := by
  intro wakes
  obtain ⟨controlPlaneDial, sleeping⟩ := wakes.asleep domain routed
  have stays :=
    serve_provisionAppDeployment sleeping settings deployment.id node hostPort answers
  cases stays.symm.trans (wakes.awake domain routed)

theorem sleepDeployment_suspended_iff {check : IdleCheck} {lastNetworkRx : Option Int}
    : (∃ suspended, sleepDeployment caddy controlPlaneDial check lastNetworkRx deployment site
        = .suspended suspended)
      ↔ FallsAsleep check lastNetworkRx deployment site := by
  unfold sleepDeployment FallsAsleep
  constructor
  · rintro ⟨suspended, result⟩
    split at result
    · rename_i placed
      rw [Bool.and_eq_true, decide_eq_true_eq] at placed
      split at result
      · cases result
      · rename_i rxBytes reported
        split at result
        · rename_i idle
          split at result
          · cases result
          · rename_i answers
            rw [reported]
            exact ⟨placed.1, placed.2, rfl, idle, Bool.eq_false_iff.mpr answers⟩
        · cases result
    · cases result
  · rintro ⟨running, hosted, reported, idle, answers⟩
    obtain ⟨rxBytes, received⟩ := Option.isSome_iff_exists.mp reported
    rw [received] at idle
    simp [running, hosted, received, idle, answers]

/-- A deployment is wakeable exactly when it does not fall asleep or no domain leads to its
container.
-/
theorem wakeable_iff (settings : DomainSettings) (caddy : Caddy) (controlPlaneDial : String)
    (check : IdleCheck) (lastNetworkRx : Option Int) (deployment : AppDeployment)
    (site : Domains.Site) (node : Node) (hostPort : Nat) (answers : String → Ingress.Reply)
    : Wakeable settings caddy controlPlaneDial check lastNetworkRx deployment site node hostPort
        answers
      ↔ (FallsAsleep check lastNetworkRx deployment site
        → ∀ domain, ¬ RoutedTo site deployment domain) := by
  constructor
  · intro wakeable sleeps domain routed
    obtain ⟨suspended, result⟩ := sleepDeployment_suspended_iff.mpr sleeps
    exact not_wakesUp routed settings answers (wakeable suspended result)
  · intro unrouted suspended result
    have none := unrouted (sleepDeployment_suspended_iff.mp ⟨suspended, result⟩)
    exact ⟨fun domain routed => absurd routed (none domain),
      fun domain routed => absurd routed (none domain),
      fun domain routed => absurd routed (none domain)⟩

private def idleApp : AppDeployment where
  id := 0
  ownerId := 1
  nodeId := some 1
  hostPort := some 31000
  state := .running
  volumePath := ""

private def host : Node where
  id := 1
  name := "n"
  ipAddress := "10.0.0.1"
  statusUpdatedAt := 0

private def shopSite : Domains.Site where
  db :=
    { nodes := ⟨[host], List.nodup_singleton _⟩
      appDeployments := ⟨[idleApp], List.nodup_singleton _⟩ }
  customDomains :=
    ⟨[{ id := 0, deploymentId := 0, domain := "shop.example.org", status := .active,
        verificationToken := "token" }], List.nodup_singleton _⟩
  routes := [⟨"shop.example.org", .upstream "10.0.0.1" 31000⟩]

private def sweepingCaddy : Caddy where
  delete id routes := routes.filter (fun route => route.id ≠ id)
  others := Ingress.filtered_others
  single := Ingress.filtered_single

/-- An idle app is woken by a request for its domain, which stays at the wake proxy. -/
theorem woken_app_stays_behind_wake_proxy
    : ¬ Wakeable {} sweepingCaddy "control-plane:8000"
        { rxBytes := some 0, replies := fun _ => (.done, .done) } (some 0) idleApp shopSite
        host 31001 (fun _ => .done) := by
  have routed : RoutedTo shopSite idleApp "shop.example.org" :=
    ⟨"10.0.0.1", 31000, rfl, by decide⟩
  intro wakeable
  exact not_wakesUp routed {} _ (wakeable _ rfl)

end Blockhost.WakeProxy
