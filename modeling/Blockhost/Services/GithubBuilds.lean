import Blockhost.Runtime.DockerRuntime
import Blockhost.Services.ResourceProvisioning
import Mathlib.Logic.Function.Basic

/-! Builds of one deployment from its repository. A run requests a build, polls the table of
the agent for its status and then starts a container; builds run in the background of the
agent. All of them share the entry of the deployment in the table and one image tag.
-/

namespace Blockhost.GithubBuilds

open Library
open DockerRuntime (Calls Docker StartRequest startDeployment)
open ResourceProvisioning (BuildStatus)

def buildTag (deploymentId : String) : String := "blockhost-build-" ++ deploymentId

/-- An entry of `_build_status`. -/
inductive Status where
  | building
  | success
  | error
deriving DecidableEq, Repr

/-- An entry of `_build_results`. -/
inductive BuildResult where
  | imageTag (tag : String)
  | error (text : String)
deriving DecidableEq, Repr

/-- What an image name of the node stands for: what a request has built, or what came from a
registry.
-/
inductive Image where
  | built (request : Nat)
  | pulled
deriving DecidableEq, Repr

/-- Where a requested build is. Its error, if it has one, is known first, kept as its result
then, and at last reported as its status.
-/
inductive Build where
  | accepted
  | begun
  | running
  | concluded (error : Option String)
  | kept (error : Option String)
  | ended (error : Option String)
deriving DecidableEq, Repr

/-- Where a run is: before its request, before a poll, between the two reads of the agent that
answer a poll, before its start, or at an end.
-/
inductive Phase where
  | requesting
  | polling
  | reading (status : Option Status)
  | starting
  | completed (image : Option Image)
  | failed
deriving DecidableEq, Repr

structure AppRun where
  build : Option Nat := none
  phase : Phase := .requesting
deriving DecidableEq, Repr

/-- The builds by the number of their request, the table, the images and containers of the
node, the image of the deployment's row, and the runs.
-/
structure System where
  builds : Nat → Option Build := fun _ => none
  requests : Nat := 0
  status : Option Status := none
  result : Option BuildResult := none
  images : String → Option Image := fun _ => none
  docker : Docker := .empty
  dockerImage : Option String := none
  runs : Nat → Option AppRun := fun _ => none

inductive Event where
  | run (id : Nat)
  | request (id : Nat)
  | beginBuild (number : Nat)
  | clear (number : Nat)
  | build (number : Nat) (error : Option String)
  | keep (number : Nat)
  | report (number : Nat)
  | readStatus (id : Nat)
  | readResult (id : Nat)
  | start (id : Nat) (request : StartRequest) (calls : Calls)
  | interrupt (id : Nat)

/-- The query parameters that `build_github` asks for. `BackgroundTasks` is not imported there,
and a parameter of a type that is not known is one of the query.
-/
def buildGithubQuery : List String := ["background_tasks"]

/-- The status that `build_github` answers with. A value of a query takes no background task. -/
def buildGithub (query : List String) : Nat :=
  if buildGithubQuery.all query.contains then 500 else 422

namespace System

def setBuild (number : Nat) (build : Build) (system : System) : System :=
  { system with builds := Function.update system.builds number (some build) }

def setRun (id : Nat) (run : AppRun) (system : System) : System :=
  { system with runs := Function.update system.runs id (some run) }

/-- A run asks for its build, with no query, and fails at an answer that is an error. A build
that is accepted is to be run in the background.
-/
def request (id : Nat) (run : AppRun) (system : System) : Option System :=
  match run.phase with
  | .requesting =>
      if buildGithub [] < 400 then
        some { (system.setBuild system.requests .accepted).setRun id
          { build := some system.requests, phase := .polling } with
          requests := system.requests + 1 }
      else some (system.setRun id { run with phase := .failed })
  | _ => none

/-- `_run_github_build` up to the call of the runtime, in two steps. -/
def beginBuild (number : Nat) (build : Build) (system : System) : Option System :=
  match build with
  | .accepted => some { system.setBuild number .begun with status := some .building }
  | _ => none

def clear (number : Nat) (build : Build) (system : System) : Option System :=
  match build with
  | .begun => some { system.setBuild number .running with result := none }
  | _ => none

/-- `build_from_github`: without an error the tag is the new image's. -/
def build (deploymentId : String) (number : Nat) (error : Option String) (build : Build)
    (system : System)
    : Option System :=
  match build with
  | .running =>
      let images :=
        if error.isNone then
          Function.update system.images (buildTag deploymentId) (some (.built number))
        else system.images
      some { system.setBuild number (.concluded error) with images := images }
  | _ => none

/-- The result of `_run_github_build`, and then its status. -/
def keep (deploymentId : String) (number : Nat) (build : Build) (system : System)
    : Option System :=
  match build with
  | .concluded error =>
      some { system.setBuild number (.kept error) with
        result := some (error.elim (.imageTag (buildTag deploymentId)) .error) }
  | _ => none

def report (number : Nat) (build : Build) (system : System) : Option System :=
  match build with
  | .kept error =>
      some { system.setBuild number (.ended error) with
        status := some (if error.isNone then .success else .error) }
  | _ => none

/-- `get_build_status` reads the two tables one after the other. -/
def readStatus (id : Nat) (run : AppRun) (system : System) : Option System :=
  match run.phase with
  | .polling => some (system.setRun id { run with phase := .reading system.status })
  | _ => none

/-- What the two reads say together. -/
def buildAnswer : Option Status → Option BuildResult → BuildStatus
  | none, _ => .unknown
  | some .building, _ => .other
  | some .success, some (.imageTag tag) => .success (some tag)
  | some .success, _ => .success none
  | some .error, some (.error text) => .error (some text)
  | some .error, _ => .error none

def readResult (id : Nat) (run : AppRun) (system : System) : Option System :=
  match run.phase with
  | .reading status =>
      match buildAnswer status system.result with
      | .success tag =>
          some { system.setRun id { run with phase := .starting } with
            dockerImage := (tag.filter (· ≠ "")).or system.dockerImage }
      | .error _ | .unknown => some (system.setRun id { run with phase := .failed })
      | .other => some (system.setRun id { run with phase := .polling })
  | _ => none

/-- The start of the container. A pull of a name that no registry has raises; a pull that does
not puts the image of the registry under the name.
-/
def start (published : String → Bool) (deploymentId : String) (id : Nat)
    (request : StartRequest) (calls : Calls) (run : AppRun) (system : System)
    : Option System :=
  match run.phase, system.dockerImage with
  | .starting, none => some (system.setRun id { run with phase := .failed })
  | .starting, some image =>
      if request.deploymentId = deploymentId ∧ request.dockerImage = image
          ∧ (published image ∨ calls.pull.isSome) then
        let images :=
          if calls.list.isNone && calls.pull.isNone then
            Function.update system.images image (some .pulled)
          else system.images
        match startDeployment calls request system.docker with
        | .ok _ docker =>
            some { system.setRun id { run with phase := .completed (images image) } with
              images := images
              docker := docker }
        | .error _ docker =>
            some { system.setRun id { run with phase := .failed } with
              images := images
              docker := docker }
      else none
  | _, _ => none

/-- Something else of a run raises, a request to the agent or a query. -/
def interrupt (id : Nat) (run : AppRun) (system : System) : Option System :=
  match run.phase with
  | .completed _ | .failed => none
  | _ => some (system.setRun id { run with phase := .failed })

def step (published : String → Bool) (deploymentId : String) (system : System)
    : Event → Option System
  | .run id => if (system.runs id).isNone then some (system.setRun id {}) else none
  | .request id => (system.runs id).bind (fun run => system.request id run)
  | .beginBuild number =>
      (system.builds number).bind (fun build => system.beginBuild number build)
  | .clear number => (system.builds number).bind (fun build => system.clear number build)
  | .build number error =>
      (system.builds number).bind (fun build => system.build deploymentId number error build)
  | .keep number =>
      (system.builds number).bind (fun build => system.keep deploymentId number build)
  | .report number => (system.builds number).bind (fun build => system.report number build)
  | .readStatus id => (system.runs id).bind (fun run => system.readStatus id run)
  | .readResult id => (system.runs id).bind (fun run => system.readResult id run)
  | .start id request calls =>
      (system.runs id).bind (fun run => system.start published deploymentId id request calls run)
  | .interrupt id => (system.runs id).bind (fun run => system.interrupt id run)

end System

end Blockhost.GithubBuilds
