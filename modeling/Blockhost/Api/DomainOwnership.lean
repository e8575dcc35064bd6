import Blockhost.Api.Domains
import Blockhost.Library.Result
import Mathlib.Algebra.Group.Nat.Defs

/-! Whether routes keep to the domains of their users. A verification that passes without the
token says nothing about who controls the name.
-/

namespace Blockhost.Domains

open Library
open Ingress (Caddy)

-- Runs

inductive Event where
  | attach (userId deploymentId : Uuid) (text verificationToken : String)
  | verify (userId domainId : Uuid) (records : DnsRecords) (reply : Ingress.Reply)
  | detach (userId domainId : Uuid) (reply : Ingress.Reply)
  | provision (deploymentId : Uuid) (node : Node) (hostPort : Nat)
      (replies : String → Ingress.Reply)
  | failProvisioning (deploymentId : Uuid) (message : String)

def orKeep (site : Site) : Except HttpError Site → Site
  | .ok next => next
  | .error _ => site

def siteStep (lower : String → String) (settings : DomainSettings) (caddy : Caddy) (site : Site)
    : Event → Site
  | .attach userId deploymentId text verificationToken =>
      orKeep site (attachCustomDomain lower userId deploymentId text verificationToken site)
  | .verify userId domainId records reply =>
      (verifyCustomDomain settings userId domainId records reply site).1
  | .detach userId domainId reply =>
      orKeep site (detachCustomDomain caddy userId domainId reply site)
  | .provision deploymentId node hostPort replies =>
      provisionAppDeployment settings deploymentId node hostPort replies site
  | .failProvisioning deploymentId message => failProvisioning deploymentId message site

-- The law

def ownerOf (db : Database) (deploymentId : Uuid) : Option Uuid :=
  (db.appDeployments.get? deploymentId).map AppDeployment.ownerId

/-- A registration leads to the deployment of a user neither the default domain of another
user's deployment nor a name that the user does not control.
-/
def Exclusive (settings : DomainSettings) (controls : Uuid → String → Prop) (site : Site)
    : Prop :=
  ∀ registration ∈ site.registered, ∀ userId,
    ownerOf site.db registration.deploymentId = some userId
    → (∀ other otherUser, ownerOf site.db other = some otherUser → otherUser ≠ userId
        → defaultAppDomain settings other ≠ some registration.domain)
      ∧ (defaultAppDomain settings registration.deploymentId = some registration.domain
        ∨ controls userId registration.domain)

/-- What DNS answers while a user verifies a domain: default names lead to the ingress, and the
token of a user is found at the user's own names only.
-/
structure Answers (settings : DomainSettings) (controls : Uuid → String → Prop) (userId : Uuid)
    (row : CustomDomain) (records : DnsRecords)
    : Prop where
  wildcard
    : ∀ deploymentId, defaultAppDomain settings deploymentId = some row.domain
      → settings.publicIngressIpv4 ∈ records.a
  token : expectedTxt row.verificationToken ∈ records.txt → controls userId row.domain

/-- A verification that passes without the token is of a name that the user controls. -/
def ClearVerification (settings : DomainSettings) (controls : Uuid → String → Prop)
    (userId : Uuid) (row : CustomDomain) (records : DnsRecords)
    : Prop :=
  testingOverride settings row.domain = true ∨ checksA settings records = true
    ∨ checksCname settings records = true
  → controls userId row.domain

/-- What holds of every verification of a user's own row. -/
def EachVerification
    (holds : (userId : Uuid) → CustomDomain → DnsRecords → Prop) (site : Site) (event : Event)
    : Prop :=
  ∀ userId domainId records reply row deployment, event = .verify userId domainId records reply
    → site.customDomains.get? domainId = some row
    → getDeploymentForUser site.db row.deploymentId userId = .ok deployment
    → holds userId row records

/-- A step of the site while DNS answers so. -/
structure SiteStep (lower : String → String) (settings : DomainSettings) (caddy : Caddy)
    (controls : Uuid → String → Prop) (before : Site) (event : Event) (after : Site)
    : Prop where
  taken : after = siteStep lower settings caddy before event
  answers : EachVerification (Answers settings controls) before event

structure ClearStep (lower : String → String) (settings : DomainSettings) (caddy : Caddy)
    (controls : Uuid → String → Prop) (before : Site) (event : Event) (after : Site)
    : Prop
    extends SiteStep lower settings caddy controls before event after where
  clear : EachVerification (ClearVerification settings controls) before event

/-- Deployments of different users differ in the first twelve characters of their identifiers.
-/
def DistinctNames (db : Database) : Prop :=
  ∀ left right leftUser rightUser, ownerOf db left = some leftUser
    → ownerOf db right = some rightUser → leftUser ≠ rightUser
    → (uuidText left).toList.take 12 ≠ (uuidText right).toList.take 12

-- The invariant

/-- The owners stay, and both the active domains and the registrations are rightful. -/
structure Sound (settings : DomainSettings) (controls : Uuid → String → Prop)
    (owner : Uuid → Option Uuid) (site : Site)
    : Prop where
  owners : ownerOf site.db = owner
  active
    : ∀ row ∈ site.customDomains.rows, row.status = .active
      → ∃ userId, owner row.deploymentId = some userId ∧ controls userId row.domain
  registered
    : ∀ registration ∈ site.registered, ∃ userId,
      owner registration.deploymentId = some userId
      ∧ (defaultAppDomain settings registration.deploymentId = some registration.domain
        ∨ controls userId registration.domain)

variable {lower : String → String} {settings : DomainSettings} {caddy : Caddy}
variable {controls : Uuid → String → Prop} {owner : Uuid → Option Uuid}
variable {site next : Site} {reply : Ingress.Reply} {userId deploymentId domainId : Uuid}

theorem eachVerification_other {holds : (userId : Uuid) → CustomDomain → DnsRecords → Prop}
    {event : Event} (other : ∀ userId domainId records reply,
      event ≠ .verify userId domainId records reply)
    : EachVerification holds site event :=
  fun userId domainId records reply _ _ verifies =>
    absurd verifies (other userId domainId records reply)

theorem ownerOf_modify (db : Database) (deploymentId : Uuid) (change : Change AppDeployment.id)
    (kept : ∀ deployment, (change.apply deployment).ownerId = deployment.ownerId)
    : ownerOf { db with appDeployments := db.appDeployments.modify deploymentId change }
      = ownerOf db := by
  funext other
  unfold ownerOf
  dsimp only
  rw [Table.get?_modify]
  split
  · rw [Option.map_map]
    exact congrArg (Option.map · _) (funext kept)
  · rfl

theorem getDeploymentForUser_owner {db : Database} {deployment : AppDeployment}
    (found : getDeploymentForUser db deploymentId userId = .ok deployment)
    : ownerOf db deploymentId = some userId ∧ deployment.id = deploymentId := by
  unfold getDeploymentForUser at found
  split at found
  · cases found
  · rename_i stored known
    split at found
    · rename_i own
      cases found
      refine ⟨?_, (Table.get?_some known).2⟩
      unfold ownerOf
      rw [known]
      exact congrArg some own
    · cases found

theorem Sound.register (sound : Sound settings controls owner site)
    (owned : owner deploymentId = some userId) {domain : String}
    (rightful : defaultAppDomain settings deploymentId = some domain ∨ controls userId domain)
    (nodeIp : String) (hostPort : Nat) (reply : Ingress.Reply)
    : Sound settings controls owner
        (site.register deploymentId domain nodeIp hostPort reply) where
  owners := sound.owners
  active := sound.active
  registered := by
    intro registration member
    rcases List.mem_append.mp member with earlier | added
    · exact sound.registered registration earlier
    · rw [List.mem_singleton.mp added]
      exact ⟨userId, owned, rightful⟩

/-- Rightful registrations one after the other, by induction on the domains. -/
theorem Sound.registerDomains (sound : Sound settings controls owner site)
    (owned : owner deploymentId = some userId) (domains : List String)
    (rightful : ∀ domain ∈ domains,
      defaultAppDomain settings deploymentId = some domain ∨ controls userId domain)
    (nodeIp : String) (hostPort : Nat) (replies : String → Ingress.Reply)
    : Sound settings controls owner
        (registerDomains deploymentId nodeIp hostPort replies domains site) := by
  unfold Domains.registerDomains
  induction domains generalizing site with
  | nil => exact sound
  | cons domain rest ih =>
      exact ih (sound.register owned (rightful domain List.mem_cons_self) ..)
        fun other member => rightful other (List.mem_cons_of_mem _ member)

-- Single steps

theorem attachCustomDomain_ok {text verificationToken : String}
    (attached
      : attachCustomDomain lower userId deploymentId text verificationToken site = .ok next)
    : ∃ domain,
        next
          = { site with
              customDomains :=
                site.customDomains.create
                  (newCustomDomain deploymentId domain verificationToken) } := by
  unfold attachCustomDomain at attached
  obtain ⟨domain, _, attached⟩ := except_bind_ok attached
  obtain ⟨deployment, found, attached⟩ := except_bind_ok attached
  rw [(getDeploymentForUser_owner found).2] at attached
  split at attached
  · split at attached <;> cases attached
  · cases attached
    exact ⟨domain, rfl⟩

theorem attachCustomDomain_new {text verificationToken domain : String}
    {deployment : AppDeployment} (valid : validateDomainName lower text = .ok domain)
    (own : getDeploymentForUser site.db deploymentId userId = .ok deployment)
    (fresh : ∀ row ∈ site.customDomains.rows, row.domain ≠ domain)
    : attachCustomDomain lower userId deploymentId text verificationToken site
      = .ok
        { site with
          customDomains :=
            site.customDomains.create
              (newCustomDomain deploymentId domain verificationToken) } := by
  have unknown : site.customDomains.rows.find? (fun row => row.domain = domain) = none :=
    List.find?_eq_none.mpr fun row member => by simpa using fresh row member
  unfold attachCustomDomain
  simp only [valid, own, bind, Except.bind, unknown, (getDeploymentForUser_owner own).2]

theorem Sound.attach (sound : Sound settings controls owner site)
    {text verificationToken : String}
    (attached
      : attachCustomDomain lower userId deploymentId text verificationToken site = .ok next)
    : Sound settings controls owner next := by
  obtain ⟨domain, rfl⟩ := attachCustomDomain_ok attached
  refine ⟨sound.owners, ?_, sound.registered⟩
  intro row member activated
  rcases List.mem_append.mp member with earlier | added
  · exact sound.active row earlier activated
  · cases List.mem_singleton.mp added
    cases activated

theorem Sound.detach (sound : Sound settings controls owner site) {reply : Ingress.Reply}
    (detached : detachCustomDomain caddy userId domainId reply site = .ok next)
    : Sound settings controls owner next := by
  unfold detachCustomDomain at detached
  split at detached
  · cases detached
  · obtain ⟨_, _, detached⟩ := except_bind_ok detached
    cases detached
    refine ⟨sound.owners, ?_, sound.registered⟩
    intro row member
    exact sound.active row (List.mem_filter.mp member).1

theorem Sound.modify (sound : Sound settings controls owner site) {row : CustomDomain}
    (stored : row ∈ site.customDomains.rows) (change : Change CustomDomain.id)
    (rightful : (change.apply row).status = .active
      → ∃ userId, owner (change.apply row).deploymentId = some userId
        ∧ controls userId (change.apply row).domain)
    : Sound settings controls owner
        { site with customDomains := site.customDomains.modify row.id change } := by
  refine ⟨sound.owners, ?_, sound.registered⟩
  intro other member activated
  obtain ⟨before, earlier, _, ⟨same, rfl⟩ | ⟨_, rfl⟩⟩ := Table.of_mem_modify member
  · cases site.customDomains.eq_of_key_eq earlier stored same
    exact rightful activated
  · exact sound.active other earlier activated

theorem Sound.verifyRow (sound : Sound settings controls owner site) {row : CustomDomain}
    {deployment : AppDeployment} {records : DnsRecords}
    (stored : row ∈ site.customDomains.rows)
    (own : getDeploymentForUser site.db row.deploymentId userId = .ok deployment)
    (answers : Answers settings controls userId row records)
    (clear : ClearVerification settings controls userId row records)
    : Sound settings controls owner
        (verifyRow settings deployment row records reply site).1 := by
  obtain ⟨owned, same⟩ := getDeploymentForUser_owner own
  rw [sound.owners] at owned
  unfold Domains.verifyRow
  split
  · rename_i passes
    have rightful : controls userId row.domain := by
      unfold verifyDns at passes
      simp only [Bool.or_eq_true, decide_eq_true_eq] at passes
      rcases passes with ((override | address) | name) | token
      · exact clear (.inl override)
      · exact clear (.inr (.inl address))
      · exact clear (.inr (.inr name))
      · exact answers.token token
    have activated := sound.modify stored activateDomain fun _ => ⟨userId, owned, rightful⟩
    dsimp only
    split
    · exact activated
    · rw [same]
      exact activated.register owned (.inr rightful) ..
  · exact sound.modify stored (failDomain row.domain) nofun

theorem Sound.verify (sound : Sound settings controls owner site) {records : DnsRecords}
    (answers : EachVerification (Answers settings controls) site
      (.verify userId domainId records reply))
    (clear : EachVerification (ClearVerification settings controls) site
      (.verify userId domainId records reply))
    : Sound settings controls owner
        (verifyCustomDomain settings userId domainId records reply site).1 := by
  unfold verifyCustomDomain
  split
  · exact sound
  · rename_i row found
    split
    · exact sound
    · rename_i deployment own
      exact sound.verifyRow (Table.get?_some found).1 own
        (answers userId domainId records reply row deployment rfl found own)
        (clear userId domainId records reply row deployment rfl found own)

theorem Sound.provision (sound : Sound settings controls owner site) (node : Node)
    (hostPort : Nat) (replies : String → Ingress.Reply)
    : Sound settings controls owner
        (provisionAppDeployment settings deploymentId node hostPort replies site) := by
  unfold provisionAppDeployment
  split
  · exact sound
  · rename_i deployment stored
    have owned : owner deploymentId = some deployment.ownerId := by
      rw [← sound.owners]
      unfold ownerOf
      rw [stored]
      rfl
    have kept := ownerOf_modify site.db deploymentId (recordContainer node.id hostPort)
      fun _ => rfl
    have running : Sound settings controls owner
        { site with
          db :=
            { site.db with
              appDeployments :=
                site.db.appDeployments.modify deploymentId
                  (recordContainer node.id hostPort) } } :=
      ⟨kept.trans sound.owners, sound.active, sound.registered⟩
    refine running.registerDomains owned _ ?_ ..
    intro domain member
    rcases List.mem_append.mp member with default | custom
    · split at default
      · cases default
      · exact .inl (Option.mem_toList.mp default)
    · obtain ⟨row, listed, rfl⟩ := List.mem_map.mp custom
      obtain ⟨known, passes⟩ := List.mem_filter.mp listed
      rw [Bool.and_eq_true] at passes
      obtain ⟨userId, rowOwned, rightful⟩ :=
        running.active row known (of_decide_eq_true passes.2)
      rw [of_decide_eq_true passes.1, owned] at rowOwned
      cases rowOwned
      exact .inr rightful

theorem Sound.step {event : Event} (sound : Sound settings controls owner site)
    (step : ClearStep lower settings caddy controls site event next)
    : Sound settings controls owner next := by
  have keeps (result : Except HttpError Site)
      (allowed : ∀ next, result = .ok next → Sound settings controls owner next)
      : Sound settings controls owner (orKeep site result) := by
    cases result with
    | error refusal => exact sound
    | ok next => exact allowed next rfl
  rw [step.taken]
  cases event with
  | attach userId deploymentId text verificationToken =>
      exact keeps _ fun _ attached => sound.attach attached
  | verify userId domainId records reply => exact sound.verify step.answers step.clear
  | detach userId domainId reply => exact keeps _ fun _ detached => sound.detach detached
  | provision deploymentId node hostPort replies => exact sound.provision node hostPort replies
  | failProvisioning deploymentId message =>
      exact ⟨(ownerOf_modify _ _ _ fun _ => rfl).trans sound.owners, sound.active,
        sound.registered⟩

-- All runs

theorem defaultAppDomain_take {left right : Uuid} {domain : String}
    (first : defaultAppDomain settings left = some domain)
    (second : defaultAppDomain settings right = some domain)
    : (uuidText left).toList.take 12 = (uuidText right).toList.take 12 := by
  obtain ⟨_, firstText⟩ := Option.ite_none_left_eq_some.mp first
  obtain ⟨_, secondText⟩ := Option.ite_none_left_eq_some.mp second
  have same := Option.some.inj (firstText.trans secondText.symm)
  exact List.append_cancel_right (String.ofList_injective same)

theorem Sound.exclusive (sound : Sound settings controls (ownerOf site.db) site)
    (own : ∀ userId deploymentId domain, defaultAppDomain settings deploymentId = some domain
      → ¬ controls userId domain)
    (distinct : DistinctNames site.db)
    : Exclusive settings controls site := by
  intro registration member userId owned
  obtain ⟨rightfulUser, rightfulOwned, rightful⟩ := sound.registered registration member
  cases owned.symm.trans rightfulOwned
  refine ⟨?_, rightful⟩
  intro other otherUser otherOwned differs default
  rcases rightful with mine | controlled
  · exact distinct _ _ _ _ otherOwned owned differs (defaultAppDomain_take default mine)
  · exact own userId other registration.domain default controlled

/-- In every run in which each verification that passes without the token is of a name that the
user controls, routes keep to the domains of their users.
-/
theorem clear_runs_stay_exclusive (lower : String → String) (settings : DomainSettings)
    (caddy : Caddy) (controls : Uuid → String → Prop)
    (own : ∀ userId deploymentId domain, defaultAppDomain settings deploymentId = some domain
      → ¬ controls userId domain)
    {start finish : Site} {events : List Event} (noDomains : start.customDomains.rows = [])
    (noRoutes : start.registered = []) (distinct : DistinctNames start.db)
    (run : Run (ClearStep lower settings caddy controls) start events finish)
    : Exclusive settings controls finish := by
  have initial : Sound settings controls (ownerOf start.db) start := by
    refine ⟨rfl, ?_, ?_⟩
    · intro row member
      rw [noDomains] at member
      cases member
    · intro registration member
      rw [noRoutes] at member
      cases member
  have sound := run.invariant (Sound settings controls (ownerOf start.db)) (fun _ => True)
    (fun _ step sound => sound.step step) (fun _ _ => trivial) initial
  have owners := sound.owners
  rw [← owners] at sound
  refine sound.exclusive own ?_
  unfold DistinctNames
  rw [owners]
  exact distinct

private def ingressSettings : DomainSettings where
  publicAppBaseDomain := "apps.example.com"
  publicIngressIpv4 := "203.0.113.1"

/-- A deployment of its own user, whose container runs on node 1. -/
private def runningApp (id ownerId : Uuid) : AppDeployment where
  id
  ownerId
  nodeId := some 1
  hostPort := some 31000
  state := .running
  volumePath := ""

private def appNode : Node where
  id := 1
  name := "n"
  ipAddress := "10.0.0.1"
  statusUpdatedAt := 0

/-- The apps of two users; the identifiers differ in the first digit. -/
private def twoApps : Site where
  db :=
    { nodes := ⟨[appNode], List.nodup_singleton _⟩
      appDeployments :=
        ⟨[runningApp 0 1, runningApp (2 ^ 127) 2],
          .cons (fun member => nomatch List.mem_singleton.mp member) (List.nodup_singleton _)⟩ }

private def keepingCaddy : Caddy where
  delete id routes := routes.filter (fun route => route.id ≠ id)
  others := Ingress.filtered_others
  single := Ingress.filtered_single

/-- The site after user 2 has attached a name to the own app. -/
private def attached (domain : String) : Site :=
  { twoApps with
    customDomains :=
      Table.create .empty (newCustomDomain (2 ^ 127) domain "token") }

private theorem attaches {domain : String} (stripped : strip domain.toList = domain.toList)
    (valid : isDomainName domain.toList = true) (settings : DomainSettings)
    : attached domain
      = siteStep id settings keepingCaddy twoApps (.attach 2 (2 ^ 127) domain "token") := by
  have named : validateDomainName id domain = .ok domain := by
    unfold validateDomainName
    simp only [stripped, String.ofList_toList, id, valid, if_true]
  unfold siteStep
  dsimp only
  rw [attachCustomDomain_new named rfl fun _ member => absurd member List.not_mem_nil]
  rfl

private theorem attached_row {domain : String} {domainId : Uuid} {row : CustomDomain}
    (found : (attached domain).customDomains.get? domainId = some row)
    : row = ⟨0, 2 ^ 127, domain, .pendingDns, "token", false, none⟩ :=
  List.mem_singleton.mp (Table.get?_some found).1

/-- A user attaches the default domain of another user's app and verifies it by the wildcard.
-/
theorem default_domain_is_taken_over
    : ∃ finish events,
        Run (SiteStep id ingressSettings keepingCaddy (fun _ _ => False)) twoApps events finish
        ∧ ¬ Exclusive ingressSettings (fun _ _ => False) finish := by
  let victim := "00000000-000.apps.example.com"
  let finish := siteStep id ingressSettings keepingCaddy (attached victim)
    (.verify 2 0 { a := ["203.0.113.1"] } .done)
  have first : SiteStep id ingressSettings keepingCaddy (fun _ _ => False) twoApps
      (.attach 2 (2 ^ 127) victim "token") (attached victim) :=
    ⟨attaches (by decide +kernel) (by decide +kernel) _, eachVerification_other nofun⟩
  have second : SiteStep id ingressSettings keepingCaddy (fun _ _ => False) (attached victim)
      (.verify 2 0 { a := ["203.0.113.1"] } .done) finish := by
    refine ⟨rfl, ?_⟩
    rintro _ _ _ _ row _ ⟨⟩ found _
    cases attached_row found
    exact ⟨fun _ _ => List.mem_cons_self, fun token => absurd token List.not_mem_nil⟩
  have verified : verifyDns ingressSettings victim "token" { a := ["203.0.113.1"] } = true := by
    decide +kernel
  have routed : finish
      = ({ attached victim with
          customDomains :=
            (attached victim).customDomains.modify 0 activateDomain }).register
          (2 ^ 127) victim "10.0.0.1" 31000 .done := by
    change (verifyRow ingressSettings (runningApp (2 ^ 127) 2)
      ⟨0, 2 ^ 127, victim, .pendingDns, "token", false, none⟩ _ _ _).1 = _
    unfold verifyRow
    rw [if_pos verified]
    rfl
  refine ⟨finish, _, (Run.single first).next second, fun exclusive => ?_⟩
  rw [routed] at exclusive
  have other : defaultAppDomain ingressSettings (2 ^ 127) ≠ some victim := by decide +kernel
  rcases (exclusive ⟨victim, 2 ^ 127⟩ List.mem_cons_self 2 rfl).2 with own | none
  · exact other own
  · exact none

private theorem twoApps_owner {deploymentId userId : Uuid}
    (owned : ownerOf twoApps.db deploymentId = some userId)
    : deploymentId = 0 ∧ userId = 1 ∨ deploymentId = 2 ^ 127 ∧ userId = 2 := by
  obtain ⟨app, found, rfl⟩ := Option.map_eq_some_iff.mp owned
  obtain ⟨member, rfl⟩ := Table.get?_some found
  rcases List.mem_cons.mp member with rfl | second
  · exact .inl ⟨rfl, rfl⟩
  · cases List.mem_singleton.mp second
    exact .inr ⟨rfl, rfl⟩

private theorem twoApps_distinct : DistinctNames twoApps.db := by
  have apart : (uuidText 0).toList.take 12 ≠ (uuidText (2 ^ 127)).toList.take 12 := by
    decide +kernel
  intro left right leftUser rightUser leftOwned rightOwned differs
  rcases twoApps_owner leftOwned with ⟨rfl, rfl⟩ | ⟨rfl, rfl⟩
  · rcases twoApps_owner rightOwned with ⟨rfl, rfl⟩ | ⟨rfl, rfl⟩
    · exact absurd rfl differs
    · exact apart
  · rcases twoApps_owner rightOwned with ⟨rfl, rfl⟩ | ⟨rfl, rfl⟩
    · exact apart.symm
    · exact absurd rfl differs

private def shopOwner (userId : Uuid) (domain : String) : Prop :=
  userId = 2 ∧ domain = "shop.example.org"

private theorem shopOwner_no_default (userId deploymentId : Uuid) (domain : String)
    (default : defaultAppDomain ingressSettings deploymentId = some domain)
    : ¬ shopOwner userId domain := by
  rintro ⟨_, rfl⟩
  obtain ⟨_, text⟩ := Option.ite_none_left_eq_some.mp default
  have letters := congrArg String.toList (Option.some.inj text)
  rw [String.toList_ofList] at letters
  have ends := congrArg List.getLast? letters
  rw [List.getLast?_append] at ends
  have base : ('.' :: appBaseDomain ingressSettings).getLast? = some 'm' := by decide +kernel
  rw [base] at ends
  cases ends

/-- A user attaches an own name and verifies it by its address, and the app is deployed. -/
theorem own_domain_is_routed
    : ∃ finish events,
        Run (ClearStep id ingressSettings keepingCaddy shopOwner) twoApps events finish
        ∧ events.length = 3 ∧ Exclusive ingressSettings shopOwner finish := by
  let shop := "shop.example.org"
  have first : ClearStep id ingressSettings keepingCaddy shopOwner twoApps
      (.attach 2 (2 ^ 127) shop "token") (attached shop) :=
    ⟨⟨attaches (by decide +kernel) (by decide +kernel) _, eachVerification_other nofun⟩,
      eachVerification_other nofun⟩
  let verified := siteStep id ingressSettings keepingCaddy (attached shop)
    (.verify 2 0 { a := ["203.0.113.1"] } .done)
  have second : ClearStep id ingressSettings keepingCaddy shopOwner (attached shop)
      (.verify 2 0 { a := ["203.0.113.1"] } .done) verified := by
    refine ⟨⟨rfl, ?_⟩, ?_⟩
    · rintro _ _ _ _ row _ ⟨⟩ found _
      cases attached_row found
      exact ⟨fun _ _ => List.mem_cons_self, fun token => absurd token List.not_mem_nil⟩
    · rintro _ _ _ _ row _ ⟨⟩ found _ _
      cases attached_row found
      exact ⟨rfl, rfl⟩
  let deployed := siteStep id ingressSettings keepingCaddy verified
    (.provision (2 ^ 127) appNode 31001 (fun _ => .done))
  have third : ClearStep id ingressSettings keepingCaddy shopOwner verified
      (.provision (2 ^ 127) appNode 31001 (fun _ => .done)) deployed :=
    ⟨⟨rfl, eachVerification_other nofun⟩, eachVerification_other nofun⟩
  have run := ((Run.single first).next second).next third
  exact ⟨deployed, _, run, rfl,
    clear_runs_stay_exclusive id ingressSettings keepingCaddy shopOwner shopOwner_no_default rfl
      rfl twoApps_distinct run⟩

end Blockhost.Domains
