import Blockhost.Services.GithubBuilds
import Blockhost.Library.Run

/-! What runs make of their builds. The agent refuses every request of a build, so a run that
asks for one fails there: it has no build, and no container is started for it.
-/

namespace Blockhost.GithubBuilds

open Library
open DockerRuntime (Calls Docker StartRequest)

variable {published : String → Bool} {deploymentId : String} {system before after : System}

def Build.underWay : Build → Bool
  | .accepted | .ended _ => false
  | _ => true

def AppRun.hasEnded (run : AppRun) : Bool :=
  match run.phase with
  | .completed _ | .failed => true
  | _ => false

/-- The run's build, if it has requested one, has ended with an error. -/
def AppRun.BuildFailed (system : System) (run : AppRun) : Prop :=
  ∀ number ∈ run.build, ∃ text, system.builds number = some (.ended (some text))

/-- A run that has ended with a successful build has started a container of its image or of a
later one; no container is of an earlier image; a run has failed only after its build has; and
runs are kept waiting by a build that is under way.
-/
structure Lawful (system : System) : Prop where
  succeeded
    : ∀ id, ∀ run ∈ system.runs id, ∀ number ∈ run.build, run.hasEnded = true
      → system.builds number = some (.ended none)
      → ∃ later, number ≤ later ∧ run.phase = .completed (some (.built later))
  notEarlier
    : ∀ id, ∀ run ∈ system.runs id, ∀ number ∈ run.build, ∀ image,
      run.phase = .completed (some (.built image)) → number ≤ image
  failed : ∀ id, ∀ run ∈ system.runs id, run.phase = .failed → run.BuildFailed system
  waits
    : system.status = some .building
      → ∃ number, ∃ build ∈ system.builds number, build.underWay = true

-- Runs without a build

/-- A run that still is to ask for its build, or has been refused. -/
def AppRun.Unbuilt (run : AppRun) : Prop :=
  run.build = none ∧ (run.phase = .requesting ∨ run.phase = .failed)

/-- No build is known to the agent, and no run has one. -/
structure Unbuilt (system : System) : Prop where
  builds : ∀ number, system.builds number = none
  status : system.status = none
  runs : ∀ id, ∀ run ∈ system.runs id, run.Unbuilt

/-- Of one more run without a build nothing else is to be shown. -/
theorem Unbuilt.setRun {run : AppRun} (unbuilt : Unbuilt system) (id : Nat)
    (fresh : run.Unbuilt)
    : Unbuilt (system.setRun id run) where
  builds := unbuilt.builds
  status := unbuilt.status
  runs other given found := by
    simp only [System.setRun, Function.update_apply] at found
    split at found
    · cases found
      exact fresh
    · exact unbuilt.runs other given found

/-- A build takes no step, since there is none. -/
theorem Unbuilt.no_build {number : Nat} {advance : Build → Option System}
    (unbuilt : Unbuilt before)
    : (before.builds number).bind advance = none := by
  rw [unbuilt.builds number]
  rfl

/-- A request is refused, and its run fails without a build. -/
theorem Unbuilt.request {id : Nat} {run : AppRun} (unbuilt : Unbuilt before)
    (found : before.runs id = some run) (asked : before.request id run = some after)
    : Unbuilt after := by
  unfold System.request at asked
  split at asked
  · rw [if_neg (by decide)] at asked
    cases asked
    exact unbuilt.setRun id ⟨(unbuilt.runs id run found).1, .inr rfl⟩
  · contradiction

/-- Every event leaves the agent without a build: those of builds do not happen, and of a run
that has none only its request does, or what ends it. By the cases of the event.
-/
theorem Unbuilt.step {event : Event} (unbuilt : Unbuilt before)
    (taken : before.step published deploymentId event = some after)
    : Unbuilt after := by
  cases event with
  | run id =>
      simp only [System.step] at taken
      split at taken
      · cases taken
        exact unbuilt.setRun id ⟨rfl, .inl rfl⟩
      · contradiction
  | request id =>
      obtain ⟨run, found, asked⟩ := Option.bind_eq_some_iff.mp taken
      exact unbuilt.request found asked
  | beginBuild number | clear number | build number error | keep number | report number =>
      simp only [System.step, unbuilt.no_build] at taken
      contradiction
  | readStatus id =>
      obtain ⟨run, found, read⟩ := Option.bind_eq_some_iff.mp taken
      obtain ⟨-, phase | phase⟩ := unbuilt.runs id run found <;>
        simp [System.readStatus, phase] at read
  | readResult id =>
      obtain ⟨run, found, read⟩ := Option.bind_eq_some_iff.mp taken
      obtain ⟨-, phase | phase⟩ := unbuilt.runs id run found <;>
        simp [System.readResult, phase] at read
  | start id request calls =>
      obtain ⟨run, found, started⟩ := Option.bind_eq_some_iff.mp taken
      obtain ⟨-, phase | phase⟩ := unbuilt.runs id run found <;>
        simp [System.start, phase] at started
  | interrupt id =>
      obtain ⟨run, found, raised⟩ := Option.bind_eq_some_iff.mp taken
      obtain ⟨unasked, phase | phase⟩ := unbuilt.runs id run found
      · simp only [System.interrupt, phase, Option.some.injEq] at raised
        subst raised
        exact unbuilt.setRun id ⟨unasked, .inr rfl⟩
      · simp [System.interrupt, phase] at raised

/-- Where no run has a build, none has a wrong one. -/
theorem Unbuilt.lawful (unbuilt : Unbuilt system) : Lawful system where
  succeeded id run found number requested _ _ := by
    simp [(unbuilt.runs id run found).1] at requested
  notEarlier id run found number requested _ _ := by
    simp [(unbuilt.runs id run found).1] at requested
  failed id run found _ number requested := by
    simp [(unbuilt.runs id run found).1] at requested
  waits building := by simp [unbuilt.status] at building

/-- A deployment without a run, whatever its row, its images and its containers are. -/
def System.fresh (images : String → Option Image) (docker : Docker)
    (dockerImage : Option String)
    : System where
  images := images
  docker := docker
  dockerImage := dockerImage

end Blockhost.GithubBuilds
