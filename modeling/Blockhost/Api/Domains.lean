import Blockhost.Api.Schemas
import Blockhost.Database.Identifiers
import Blockhost.Library.Texts
import Blockhost.Services.Ingress

/-! The custom domains of app deployments: their names, their verification by DNS, and the
routes that are registered for them and for the default domains.
-/

namespace Blockhost.Domains

open Library
open Ingress (Caddy Route registerRoute unregisterRoute)

-- Names

/-- The settings of the ingress, with the two environment variables that are read there. -/
structure DomainSettings where
  publicAppBaseDomain : String := ""
  publicIngressDomain : String := ""
  publicIngressIpv4 : String := ""
  appBaseDomainVariable : String := ""
  testing : Bool := false

def appBaseDomain (settings : DomainSettings) : List Char :=
  let base :=
    if settings.publicAppBaseDomain = "" then settings.appBaseDomainVariable
    else settings.publicAppBaseDomain
  stripChars ['.'] (strip base.toList)

/-- `default_app_domain`: the first twelve characters of the identifier under the base. -/
def defaultAppDomain (settings : DomainSettings) (deploymentId : Uuid) : Option String :=
  if appBaseDomain settings = [] then none
  else
    some
      (String.ofList
        ((uuidText deploymentId).toList.take 12 ++ '.' :: appBaseDomain settings))

def isAsciiLetter (letter : Char) : Bool :=
  ('a' ≤ letter && letter ≤ 'z') || ('A' ≤ letter && letter ≤ 'Z')

def isAsciiAlnum (letter : Char) : Bool :=
  isAsciiLetter letter || ('0' ≤ letter && letter ≤ '9')

/-- A label of a name: 63 characters at most, with hyphens inside only. -/
def isLabel (label : List Char) : Bool :=
  1 ≤ label.length && label.length ≤ 63
  && label.all (fun letter => isAsciiAlnum letter || letter = '-')
  && label.head? ≠ some '-' && label.getLast? ≠ some '-'

/-- `_DOMAIN_REGEX`: labels and a last part of at least two letters. -/
def isDomainName (name : List Char) : Bool :=
  match (name.splitOn '.').reverse with
  | [] => false
  | top :: labels =>
      2 ≤ top.length && top.all isAsciiLetter && labels ≠ [] && labels.all isLabel

/-- `validate_domain_name`; `lower` is the `lower()` of texts. -/
def validateDomainName (lower : String → String) (text : String) : Except HttpError String :=
  let domain := lower (String.ofList (strip text.toList))
  if isDomainName domain.toList then .ok domain
  else
    .error
      ⟨422, "Invalid domain name format. Must be a valid hostname like app.example.com"⟩

-- DNS

/-- The records of a name; a lookup that fails has none. -/
structure DnsRecords where
  a : List String := []
  cname : List String := []
  txt : List String := []

/-- What counts as valid without a lookup. -/
def testingOverride (settings : DomainSettings) (domain : String) : Bool :=
  ".test".toList.isSuffixOf domain.toList || ".local".toList.isSuffixOf domain.toList
  || settings.testing

/-- `rstrip(".")` -/
def rstripDots (text : String) : String := String.ofList (text.toList.rdropWhile (· = '.'))

def checksA (settings : DomainSettings) (records : DnsRecords) : Bool :=
  settings.publicIngressIpv4 ≠ "" && settings.publicIngressIpv4 ∈ records.a

def checksCname (settings : DomainSettings) (records : DnsRecords) : Bool :=
  let expected := rstripDots settings.publicIngressDomain
  expected ≠ "" && expected ∈ records.cname.map rstripDots

def expectedTxt (verificationToken : String) : String := "blockhost-verify=" ++ verificationToken

/-- `verify_dns` -/
def verifyDns (settings : DomainSettings) (domain verificationToken : String)
    (records : DnsRecords)
    : Bool :=
  testingOverride settings domain || checksA settings records || checksCname settings records
  || expectedTxt verificationToken ∈ records.txt

-- Rows and routes

inductive DomainStatus where
  | pendingDns
  | active
  | failed
deriving DecidableEq, Repr

structure CustomDomain where
  id : Uuid
  deploymentId : Uuid
  domain : String
  status : DomainStatus := .pendingDns
  verificationToken : String
  sslActive : Bool := false
  errorMessage : Option String := none
deriving DecidableEq, Repr

structure Registration where
  domain : String
  deploymentId : Uuid
deriving DecidableEq, Repr

/-- The tables, the routes of Caddy, and every registration so far. -/
structure Site where
  db : Database := {}
  customDomains : Table CustomDomain.id := .empty
  routes : List Route := []
  registered : List Registration := []

/-- A call of `register_route` for a deployment. -/
def Site.register (site : Site) (deploymentId : Uuid) (domain nodeIp : String) (hostPort : Nat)
    (reply : Ingress.Reply)
    : Site :=
  { site with
    routes := (registerRoute domain nodeIp hostPort reply site.routes).1
    registered := site.registered ++ [⟨domain, deploymentId⟩] }

-- Requests

/-- `_get_deployment_for_user` -/
def getDeploymentForUser (db : Database) (deploymentId userId : Uuid)
    : Except HttpError AppDeployment :=
  match db.appDeployments.get? deploymentId with
  | none => .error ⟨404, "Deployment not found"⟩
  | some deployment =>
      if deployment.ownerId = userId then .ok deployment
      else .error ⟨404, "Deployment not found"⟩

def newCustomDomain (deploymentId : Uuid) (domain verificationToken : String)
    : Template CustomDomain.id where
  make id := { id, deploymentId, domain, verificationToken }
  keyed _ := rfl

/-- `attach_custom_domain`; any name that nobody has attached is taken. -/
def attachCustomDomain (lower : String → String) (userId deploymentId : Uuid)
    (text verificationToken : String) (site : Site)
    : Except HttpError Site := do
  let domain ← validateDomainName lower text
  let deployment ← getDeploymentForUser site.db deploymentId userId
  match site.customDomains.rows.find? (fun row => row.domain = domain) with
  | some existing =>
      if existing.deploymentId = deployment.id then
        .error ⟨409, "Domain is already attached to this deployment"⟩
      else .error ⟨409, "Domain is already registered to another deployment"⟩
  | none =>
      .ok
        { site with
          customDomains :=
            site.customDomains.create
              (newCustomDomain deployment.id domain verificationToken) }

def failDomain (domain : String) : Change CustomDomain.id where
  apply row :=
    { row with
      status := .failed
      errorMessage := some ("DNS record for " ++ domain ++ " does not point to ingress host.") }

def activateDomain : Change CustomDomain.id where
  apply row := { row with status := .active, sslActive := true, errorMessage := none }

/-- The address of a deployment whose container runs. -/
def liveAddress (db : Database) (deployment : AppDeployment) : Option (String × Nat) :=
  match deployment.state, deployment.hostPort, deployment.nodeId with
  | .running, some hostPort, some nodeId =>
      if hostPort = 0 then none
      else
        (db.nodes.get? nodeId).bind (fun node =>
          if node.ipAddress = "" then none else some (node.ipAddress, hostPort.toNat))
  | _, _, _ => none

/-- `verify_custom_domain` for a stored row of the user: what it commits, and its answer. -/
def verifyRow (settings : DomainSettings) (deployment : AppDeployment) (row : CustomDomain)
    (records : DnsRecords) (reply : Ingress.Reply) (site : Site)
    : Site × Except HttpError Unit :=
  if verifyDns settings row.domain row.verificationToken records then
    let activated :=
      { site with customDomains := site.customDomains.modify row.id activateDomain }
    match liveAddress site.db deployment with
    | none => (activated, .ok ())
    | some (nodeIp, hostPort) =>
        (activated.register deployment.id row.domain nodeIp hostPort reply, .ok ())
  else
    ({ site with customDomains := site.customDomains.modify row.id (failDomain row.domain) },
      .error
        ⟨400, "DNS verification failed for " ++ row.domain
          ++ ". Ensure CNAME points to ingress target."⟩)

def verifyCustomDomain (settings : DomainSettings) (userId domainId : Uuid)
    (records : DnsRecords) (reply : Ingress.Reply) (site : Site)
    : Site × Except HttpError Unit :=
  match site.customDomains.get? domainId with
  | none => (site, .error ⟨404, "Domain not found"⟩)
  | some row =>
      match getDeploymentForUser site.db row.deploymentId userId with
      | .error refusal => (site, .error refusal)
      | .ok deployment => verifyRow settings deployment row records reply site

/-- `detach_custom_domain` -/
def detachCustomDomain (caddy : Caddy) (userId domainId : Uuid) (reply : Ingress.Reply)
    (site : Site)
    : Except HttpError Site := do
  match site.customDomains.get? domainId with
  | none => .error ⟨404, "Domain not found"⟩
  | some row =>
      let _ ← getDeploymentForUser site.db row.deploymentId userId
      .ok
        { site with
          routes := (unregisterRoute caddy row.domain reply site.routes).1
          customDomains := site.customDomains.filter (fun other => other.id ≠ domainId) }

-- Provisioning

/-- The rows of a deployment whose container has started. -/
def recordContainer (nodeId : Uuid) (hostPort : Nat) : Change AppDeployment.id where
  apply deployment :=
    { deployment with
      nodeId := some nodeId
      hostPort := some hostPort
      state := .running
      errorMessage := none }

def activeDomains (site : Site) (deploymentId : Uuid) : List String :=
  (site.customDomains.rows.filter
    (fun row => row.deploymentId = deploymentId && row.status = .active)).map
    CustomDomain.domain

/-- The domains that step 4 of `_provision_app_deployment` registers. -/
def provisionedDomains (settings : DomainSettings) (deploymentId : Uuid) (hostPort : Nat)
    (site : Site)
    : List String :=
  (if hostPort = 0 then [] else (defaultAppDomain settings deploymentId).toList)
    ++ activeDomains site deploymentId

/-- Step 4 of `_provision_app_deployment`. -/
def registerDomains (deploymentId : Uuid) (nodeIp : String) (hostPort : Nat)
    (replies : String → Ingress.Reply) (domains : List String) (site : Site)
    : Site :=
  domains.foldl
    (fun site domain => site.register deploymentId domain nodeIp hostPort (replies domain)) site

/-- The steps 3 and 4 of `_provision_app_deployment`, once the agent has started the container.
-/
def provisionAppDeployment (settings : DomainSettings) (deploymentId : Uuid) (node : Node)
    (hostPort : Nat) (replies : String → Ingress.Reply) (site : Site)
    : Site :=
  match site.db.appDeployments.get? deploymentId with
  | none => site
  | some _ =>
      let running :=
        { site with
          db :=
            { site.db with
              appDeployments :=
                site.db.appDeployments.modify deploymentId (recordContainer node.id hostPort) } }
      registerDomains deploymentId node.ipAddress hostPort replies
        (provisionedDomains settings deploymentId hostPort running) running

def failProvisioning (deploymentId : Uuid) (message : String) (site : Site) : Site :=
  { site with
    db :=
      { site.db with
        appDeployments :=
          site.db.appDeployments.modify deploymentId
            { apply := fun deployment =>
                { deployment with state := .error, errorMessage := some message } } } }

end Blockhost.Domains
