import Blockhost.Library.Run
import Mathlib.Logic.Function.Basic

/-! The ingress service, which registers routes with the admin interface of Caddy. Caddy keeps its
routes in order and the first one that matches serves; nothing replaces a route in place.
-/

namespace Blockhost.Ingress

open Library

-- Caddy

inductive Target where
  | upstream (nodeIp : String) (hostPort : Nat)
  | wakeProxy (controlPlaneDial : String)
deriving DecidableEq, Repr

/-- A route of the service; it matches requests for its domain as host. -/
structure Route where
  domain : String
  target : Target
deriving DecidableEq, Repr

/-- The `@id` of the route of a domain. -/
def routeId (domain : String) : String := "domain-" ++ domain

def Route.id (route : Route) : String := routeId route.domain

/-- How Caddy deletes by `@id`. Where an id is there twice, what else goes is left open. -/
structure Caddy where
  delete : String → List Route → List Route
  others
    : ∀ id routes, (delete id routes).filter (fun route => route.id ≠ id)
        = routes.filter (fun route => route.id ≠ id)
  single
    : ∀ id routes, routes.countP (fun route => route.id = id) ≤ 1
      → ∀ route ∈ delete id routes, route.id ≠ id

/-- What becomes of a request: it is carried out, or refused, or never reaches Caddy, or it is
carried out and the answer is lost.
-/
inductive Reply where
  | done
  | refused
  | unreachable
  | lost
deriving DecidableEq, Repr

def Reply.applies : Reply → Bool
  | .done | .lost => true
  | .refused | .unreachable => false

/-- Whether the status of the answer is a good one; `none` where the request raises. -/
def Reply.status : Reply → Option Bool
  | .done => some true
  | .refused => some false
  | .unreachable | .lost => none

def post (reply : Reply) (route : Route) (routes : List Route) : List Route :=
  if reply.applies then routes ++ [route] else routes

def Caddy.deleted (caddy : Caddy) (reply : Reply) (domain : String) (routes : List Route)
    : List Route :=
  if reply.applies then caddy.delete (routeId domain) routes else routes

/-- The target that serves the requests for a domain. -/
def serve (domain : String) (routes : List Route) : Option Target :=
  (routes.find? (fun route => route.domain = domain)).map Route.target

-- Calls

/-- `register_route`; after an exception it returns nothing. -/
def registerRoute (domain nodeIp : String) (hostPort : Nat) (reply : Reply) (routes : List Route)
    : List Route × Option Bool :=
  (post reply { domain, target := .upstream nodeIp hostPort } routes, reply.status)

/-- `register_fallback_route`; the status of the deletion is not looked at. -/
def registerFallbackRoute (caddy : Caddy) (domain controlPlaneDial : String)
    (deletion posting : Reply) (routes : List Route)
    : List Route × Option Bool :=
  let left := caddy.deleted deletion domain routes
  match deletion.status with
  | none => (left, some true)
  | some _ =>
      (post posting { domain, target := .wakeProxy controlPlaneDial } left,
        some (posting.status.getD true))

/-- `unregister_route`; a route that is not found counts as removed. -/
def unregisterRoute (caddy : Caddy) (domain : String) (reply : Reply) (routes : List Route)
    : List Route × Option Bool :=
  (caddy.deleted reply domain routes, some (reply.status.getD true))

inductive Call where
  | registerRoute (domain nodeIp : String) (hostPort : Nat) (reply : Reply)
  | registerFallbackRoute (domain controlPlaneDial : String) (deletion posting : Reply)
  | unregisterRoute (domain : String) (reply : Reply)

def Call.domain : Call → String
  | .registerRoute domain _ _ _ => domain
  | .registerFallbackRoute domain _ _ _ => domain
  | .unregisterRoute domain _ => domain

def Call.target : Call → Option Target
  | .registerRoute _ nodeIp hostPort _ => some (.upstream nodeIp hostPort)
  | .registerFallbackRoute _ controlPlaneDial _ _ => some (.wakeProxy controlPlaneDial)
  | .unregisterRoute _ _ => none

def Call.perform (caddy : Caddy) : Call → List Route → List Route × Option Bool
  | .registerRoute domain nodeIp hostPort reply =>
      Ingress.registerRoute domain nodeIp hostPort reply
  | .registerFallbackRoute domain controlPlaneDial deletion posting =>
      Ingress.registerFallbackRoute caddy domain controlPlaneDial deletion posting
  | .unregisterRoute domain reply => Ingress.unregisterRoute caddy domain reply

/-- The routes of Caddy, with the target of the last successful call for each domain. -/
structure Routing where
  routes : List Route := []
  latest : String → Option Target := fun _ => none

def ingressStep (caddy : Caddy) (call : Call) (ingress : Routing) : Routing :=
  let performed := call.perform caddy ingress.routes
  { routes := performed.1
    latest :=
      if performed.2 = some true then Function.update ingress.latest call.domain call.target
      else ingress.latest }

-- The law

/-- Requests for a domain are served by the target of the last successful registration, and by
none after the domain was unregistered.
-/
def RoutesToLatest (ingress : Routing) : Prop :=
  ∀ domain, serve domain ingress.routes = ingress.latest domain

def Unrouted (domain : String) (routes : List Route) : Prop :=
  ∀ route ∈ routes, route.domain ≠ domain

def RoutedOnce (domain : String) (routes : List Route) : Prop :=
  routes.countP (fun route => route.domain = domain) ≤ 1

/-- The condition of a call: a registration that Caddy appends finds no other target there, and
one whose answer is lost is behind the route that counts; a fallback registration replaces one
route at most, or does nothing; an unregistration removes all there is.
-/
def Orderly (routes : List Route) : Call → Prop
  | .registerRoute domain nodeIp hostPort reply =>
      (reply = .done
        → Unrouted domain routes ∨ serve domain routes = some (.upstream nodeIp hostPort))
      ∧ (reply = .lost → ¬ Unrouted domain routes)
  | .registerFallbackRoute domain _ deletion posting =>
      RoutedOnce domain routes ∧ deletion = .done ∧ posting.applies = true
      ∨ Unrouted domain routes ∧ deletion.status.isSome = true ∧ posting ≠ .unreachable
      ∨ deletion = .refused ∧ posting = .refused
  | .unregisterRoute domain reply =>
      reply = .refused ∨ Unrouted domain routes
      ∨ RoutedOnce domain routes ∧ reply.applies = true

-- What serves

variable {caddy : Caddy} {domain other : String} {routes : List Route} {route : Route}

theorem routeId_inj : routeId domain = routeId other ↔ domain = other :=
  String.append_right_inj _

theorem Route.id_eq : route.id = routeId domain ↔ route.domain = domain :=
  routeId_inj

theorem serve_eq_none : serve domain routes = none ↔ Unrouted domain routes := by
  unfold serve Unrouted
  rw [Option.map_eq_none_iff, List.find?_eq_none]
  simp only [decide_eq_true_eq]

theorem serve_append
    : serve domain (routes ++ [route])
      = (serve domain routes).or (if route.domain = domain then some route.target else none) := by
  unfold serve
  rw [List.find?_append, List.find?_singleton]
  cases routes.find? (fun route => route.domain = domain) with
  | some found => rfl
  | none => by_cases same : route.domain = domain <;> simp [same]

theorem serve_post {reply : Reply}
    : serve domain (post reply route routes)
      = (serve domain routes).or
          (if reply.applies = true ∧ route.domain = domain then some route.target else none) := by
  unfold post
  cases applies : reply.applies with
  | true => simp only [if_true, true_and, serve_append]
  | false => simp

theorem serve_others {id : String} (differs : routeId domain ≠ id)
    : serve domain (routes.filter (fun route => route.id ≠ id)) = serve domain routes := by
  unfold serve
  rw [List.find?_filter]
  congr 2
  funext route
  by_cases same : route.domain = domain
  · have kept : route.id ≠ id := by
      rw [Route.id, same]
      exact differs
    simp [same, kept]
  · simp [same]

theorem serve_deleted_other {reply : Reply} (differs : other ≠ domain)
    : serve other (caddy.deleted reply domain routes) = serve other routes := by
  have ids : routeId other ≠ routeId domain := mt routeId_inj.mp differs
  unfold Caddy.deleted
  split
  · rw [← serve_others ids, caddy.others, serve_others ids]
  · rfl

theorem Unrouted.once (unrouted : Unrouted domain routes) : RoutedOnce domain routes := by
  unfold RoutedOnce
  rw [List.countP_eq_zero.mpr]
  · exact Nat.zero_le 1
  · intro route member same
    exact unrouted route member (of_decide_eq_true same)

theorem RoutedOnce.deleted (once : RoutedOnce domain routes) {reply : Reply}
    (applies : reply.applies = true)
    : Unrouted domain (caddy.deleted reply domain routes) := by
  have counted : routes.countP (fun route => route.id = routeId domain) ≤ 1 := by
    simp only [Route.id_eq]
    exact once
  unfold Caddy.deleted
  rw [if_pos applies]
  intro route member same
  exact caddy.single _ _ counted route member (Route.id_eq.mpr same)

theorem Unrouted.deleted (unrouted : Unrouted domain routes) (reply : Reply)
    : Unrouted domain (caddy.deleted reply domain routes) := by
  cases applies : reply.applies with
  | true => exact unrouted.once.deleted applies
  | false =>
      unfold Caddy.deleted
      rw [applies]
      exact unrouted

-- Runs

theorem perform_other (call : Call) (differs : other ≠ call.domain)
    : serve other (call.perform caddy routes).1 = serve other routes := by
  cases call with
  | registerRoute domain nodeIp hostPort reply =>
      simp only [Call.perform, registerRoute, serve_post]
      rw [if_neg (fun same => differs same.2.symm), Option.or_none]
  | registerFallbackRoute domain controlPlaneDial deletion posting =>
      simp only [Call.perform, registerFallbackRoute]
      cases deletion.status with
      | none => exact serve_deleted_other differs
      | some _ =>
          simp only [serve_post]
          rw [if_neg (fun same => differs same.2.symm), Option.or_none]
          exact serve_deleted_other differs
  | unregisterRoute domain reply => exact serve_deleted_other differs

theorem perform_own (call : Call) (orderly : Orderly routes call)
    : serve call.domain (call.perform caddy routes).1
      = if (call.perform caddy routes).2 = some true then call.target
        else serve call.domain routes := by
  cases call with
  | registerRoute domain nodeIp hostPort reply =>
      obtain ⟨appended, unanswered⟩ := orderly
      simp only [Call.perform, registerRoute, Call.domain, Call.target, serve_post, and_true]
      cases reply with
      | done =>
          rcases appended rfl with unrouted | served
          · rw [serve_eq_none.mpr unrouted]
            rfl
          · rw [served]
            rfl
      | lost =>
          have routed : serve domain routes ≠ none := mt serve_eq_none.mp (unanswered rfl)
          obtain ⟨target, served⟩ := Option.ne_none_iff_exists'.mp routed
          rw [served]
          rfl
      | refused => exact Option.or_none
      | unreachable => exact Option.or_none
  | registerFallbackRoute domain controlPlaneDial deletion posting =>
      simp only [Call.perform, Call.domain, Call.target, registerFallbackRoute]
      rcases orderly with ⟨once, rfl, applies⟩ | ⟨unrouted, answered, reached⟩ | ⟨rfl, rfl⟩
      · have left : serve domain (caddy.deleted .done domain routes) = none :=
          serve_eq_none.mpr (once.deleted rfl)
        simp only [Reply.status, serve_post, left, applies]
        cases posting with
        | done => rfl
        | lost => rfl
        | refused => cases applies
        | unreachable => cases applies
      · have left : serve domain (caddy.deleted deletion domain routes) = none :=
          serve_eq_none.mpr (unrouted.deleted deletion)
        obtain ⟨status, answer⟩ := Option.isSome_iff_exists.mp answered
        simp only [answer, serve_post, left, serve_eq_none.mpr unrouted]
        cases posting with
        | done => rfl
        | lost => rfl
        | refused => rfl
        | unreachable => exact absurd rfl reached
      · simp only [Reply.status, serve_post]
        exact Option.or_none
  | unregisterRoute domain reply =>
      simp only [Call.perform, Call.domain, Call.target, unregisterRoute]
      rcases orderly with rfl | unrouted | ⟨once, applies⟩
      · rfl
      · rw [serve_eq_none.mpr (unrouted.deleted reply), serve_eq_none.mpr unrouted]
        cases reply <;> rfl
      · rw [serve_eq_none.mpr (once.deleted applies)]
        cases reply with
        | done => rfl
        | lost => rfl
        | refused => cases applies
        | unreachable => cases applies

abbrev OrderlyRun (caddy : Caddy) : Routing → List Call → Routing → Prop :=
  Run (fun before call after =>
    after = ingressStep caddy call before ∧ Orderly before.routes call)

/-- In every run of orderly calls the routes lead to the latest target, by induction on the
calls.
-/
theorem orderly_runs_route_to_latest {calls : List Call} {ingress : Routing}
    (run : OrderlyRun caddy {} calls ingress)
    : RoutesToLatest ingress := by
  refine run.invariant RoutesToLatest (fun _ => True) ?_ (fun _ _ => trivial) (fun _ => rfl)
  intro before call after _ taken latest other
  obtain ⟨rfl, orderly⟩ := taken
  unfold ingressStep
  dsimp only
  by_cases own : other = call.domain
  · subst own
    rw [perform_own call orderly]
    split
    · rw [Function.update_self]
    · exact latest call.domain
  · rw [perform_other call own]
    split
    · rw [Function.update_of_ne own]
      exact latest other
    · exact latest other

theorem filtered_others (id : String) (routes : List Route)
    : (routes.filter (fun route => route.id ≠ id)).filter (fun route => route.id ≠ id)
      = routes.filter (fun route => route.id ≠ id) := by
  rw [List.filter_filter]
  simp only [Bool.and_self]

theorem filtered_single (id : String) (routes : List Route)
    (_once : routes.countP (fun route => route.id = id) ≤ 1)
    : ∀ route ∈ routes.filter (fun route => route.id ≠ id), route.id ≠ id :=
  fun _ member => of_decide_eq_true (List.mem_filter.mp member).2

/-- A deletion that removes every route with the `@id`. -/
private def deletingCaddy : Caddy where
  delete id routes := routes.filter (fun route => route.id ≠ id)
  others := filtered_others
  single := filtered_single

private def wokenApp (nodeIp : String) : Call :=
  .registerRoute "app.example.com" nodeIp 31000 .done

private def sleepingApp : Call :=
  .registerFallbackRoute "app.example.com" "control-plane:8000" .done .done

private def after (calls : List Call) : Routing :=
  calls.foldl (fun ingress call => ingressStep deletingCaddy call ingress) {}

/-- An app runs, sleeps, and is unregistered. -/
theorem sleeping_app_is_routed_to_wake_proxy
    : RoutesToLatest (after [wokenApp "10.0.0.1", sleepingApp,
        .unregisterRoute "app.example.com" .done]) := by
  have first : Orderly (after []).routes (wokenApp "10.0.0.1") := by
    refine ⟨fun _ => .inl ?_, nofun⟩
    intro route member
    cases member
  have second : Orderly (after [wokenApp "10.0.0.1"]).routes sleepingApp :=
    .inl ⟨Nat.le_refl 1, rfl, rfl⟩
  have third : Orderly (after [wokenApp "10.0.0.1", sleepingApp]).routes
      (.unregisterRoute "app.example.com" .done) :=
    .inr (.inr ⟨Nat.le_refl 1, rfl⟩)
  have run : OrderlyRun deletingCaddy {}
      [wokenApp "10.0.0.1", sleepingApp, .unregisterRoute "app.example.com" .done] _ :=
    .cons ⟨rfl, first⟩ <| .cons ⟨rfl, second⟩ <| .single ⟨rfl, third⟩
  exact orderly_runs_route_to_latest run

/-- A redeployment to another node is appended behind the old route, which goes on serving. -/
theorem redeployed_app_is_served_by_old_node
    : serve "app.example.com" (after [wokenApp "10.0.0.1", wokenApp "10.0.0.2"]).routes
        = some (.upstream "10.0.0.1" 31000)
      ∧ ¬ RoutesToLatest (after [wokenApp "10.0.0.1", wokenApp "10.0.0.2"]) := by
  refine ⟨rfl, ?_⟩
  intro latest
  exact absurd (latest "app.example.com") (by decide)

end Blockhost.Ingress
