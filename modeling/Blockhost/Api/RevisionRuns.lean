import Blockhost.Api.Deployments
import Blockhost.Library.Run

/-! Requests and provisioning runs of one deployment that overlap in any order, and which of its
revisions are active. The newest revision is the only active one as long as each request has
loaded every active revision, and no run makes an older one active again.
-/

namespace Blockhost.Deployments

open Library

/-- The committed rows, and the sessions of the requests and runs that are under way. -/
structure DeploymentSite where
  rows : Rows
  requests : List PendingRequest := []
  runs : List ProvisioningRun := []

inductive DeploymentEvent where
  | openRequest (request : Request)
  | commitRequest (index : Nat) (id : Uuid) (now : Instant)
  | dropRequest (index : Nat)
  | openRun (node : Option Uuid)
  | announceBuild (index : Nat)
  | recordBuild (index : Nat) (imageTag : String)
  | finishBuild (index : Nat)
  | recordBuildError (index : Nat) (message : String)
  | startContainer (index : Nat)
  | recordStart (index : Nat) (container : StartedContainer) (now : Instant)
  | recordFailure (index : Nat) (message : String)
  | dropRun (index : Nat)
  | otherChange (deployment : AppDeployment)

def DeploymentSite.withRun (site : DeploymentSite) (index : Nat) (run : ProvisioningRun)
    : DeploymentSite :=
  { site with runs := site.runs.set index run }

/-- One commit, or one step of a session. A build that has succeeded may name no image, and then
nothing is committed; one that has failed is noted in its revision before the run fails. A run may
also end without a commit. Handlers that are not modelled change the row of the deployment as they
like.
-/
def performEvent (site : DeploymentSite) : DeploymentEvent → DeploymentSite
  | .openRequest request =>
      match openRequest site.rows request with
      | .error _ => site
      | .ok pending => { site with requests := site.requests ++ [pending] }
  | .commitRequest index id now =>
      match site.requests[index]? with
      | none => site
      | some pending =>
          { site with
            rows := commitRequest pending id now site.rows
            requests := site.requests.eraseIdx index }
  | .dropRequest index => { site with requests := site.requests.eraseIdx index }
  | .openRun node =>
      let rows := assignNode node site.rows
      { site with rows, runs := site.runs ++ [openRun rows] }
  | .announceBuild index =>
      match site.runs[index]? with
      | none => site
      | some run =>
          if run.stage = .building && (run.reload site.rows).state ≠ .building then
            { site.withRun index run.expire with
              rows :=
                { site.rows with deployment := { site.rows.deployment with state := .building } } }
          else site
  | .recordBuild index imageTag =>
      match site.runs[index]? with
      | none => site
      | some run =>
          if run.stage = .building then
            { site.withRun index { run.expire with stage := .ready } with
              rows := recordBuild imageTag run site.rows }
          else site
  | .finishBuild index =>
      match site.runs[index]? with
      | none => site
      | some run =>
          if run.stage = .building then site.withRun index { run with stage := .ready } else site
  | .recordBuildError index message =>
      match site.runs[index]? with
      | none => site
      | some run =>
          match run.stage, run.revision with
          | .building, some id =>
              { site.withRun index run.expire with
                rows :=
                  { site.rows with
                    revisions :=
                      changeRevision id
                        (fun revision => { revision with errorMessage := some message })
                        site.rows.revisions } }
          | _, _ => site
  | .startContainer index =>
      match site.runs[index]? with
      | none => site
      | some run =>
          if run.stage = .ready then
            site.withRun index
              { run with stage := .started, deployment := some (run.reload site.rows) }
          else site
  | .recordStart index container now =>
      match site.runs[index]? with
      | none => site
      | some run =>
          if run.stage = .started then
            { site with
              rows := recordStart container now run site.rows
              runs := site.runs.eraseIdx index }
          else site
  | .recordFailure index message =>
      match site.runs[index]? with
      | none => site
      | some _ =>
          { site with
            rows := recordFailure message site.rows
            runs := site.runs.eraseIdx index }
  | .dropRun index => { site with runs := site.runs.eraseIdx index }
  | .otherChange deployment => { site with rows := { site.rows with deployment } }

/-- New revisions get new identifiers. -/
def Fresh (site : DeploymentSite) : DeploymentEvent → Prop
  | .commitRequest _ id _ => id ∉ site.rows.revisions.map DeploymentRevision.id
  | _ => True

structure RevisionStep (before : DeploymentSite) (event : DeploymentEvent)
    (after : DeploymentSite)
    : Prop where
  fresh : Fresh before event
  performed : after = performEvent before event

/-- What keeps an event from leaving an older revision active. A request that adds a revision has
loaded every active one; a run that writes the mark of its revision, because the attribute has
expired or was loaded as inactive, has the newest one.
-/
def Careful (site : DeploymentSite) : DeploymentEvent → Prop
  | .commitRequest index _ _ =>
      ∀ pending, site.requests[index]? = some pending → pending.added.isSome = true
        → ∀ revision ∈ site.rows.revisions, revision.isActive = true
          → revision.id ∈ pending.deactivated
  | .recordStart index _ _ =>
      ∀ run, site.runs[index]? = some run → run.stage = .started
        → ∀ id, run.revision = some id → run.isActive ≠ some true
          → site.rows.revisions.getLast?.map DeploymentRevision.id = some id
  | _ => True

structure CarefulStep (before : DeploymentSite) (event : DeploymentEvent)
    (after : DeploymentSite)
    : Prop where
  step : RevisionStep before event after
  careful : Careful before event

/-- A deployment that has just been created. -/
structure Created (site : DeploymentSite) : Prop where
  first : ∃ first, site.rows.revisions = [first]
  requests : site.requests = []
  runs : site.runs = []

/-- An active revision is the one that was created last. -/
def NewestActive (revisions : List DeploymentRevision) : Prop :=
  ∀ revision ∈ revisions, revision.isActive = true → revisions.getLast? = some revision

/-- The newest revision is the only active one, and no two revisions have one identifier. -/
structure Ordered (revisions : List DeploymentRevision) : Prop where
  nodup : (revisions.map DeploymentRevision.id).Nodup
  newest : NewestActive revisions

namespace Ordered

variable {revisions : List DeploymentRevision}

theorem map (ordered : Ordered revisions) {change : DeploymentRevision → DeploymentRevision}
    (sameId : ∀ revision, (change revision).id = revision.id)
    (faded : ∀ revision, (change revision).isActive = true → revision.isActive = true)
    : Ordered (revisions.map change) := by
  refine ⟨?_, ?_⟩
  · have same : DeploymentRevision.id ∘ change = DeploymentRevision.id := funext sameId
    rw [List.map_map, same]
    exact ordered.nodup
  · intro revision member active
    obtain ⟨before, stored, rfl⟩ := List.mem_map.mp member
    rw [List.getLast?_map, ordered.newest before stored (faded before active), Option.map_some]

theorem changeRevision (ordered : Ordered revisions) {id : Uuid}
    {change : DeploymentRevision → DeploymentRevision}
    (sameId : ∀ revision, (change revision).id = revision.id)
    (faded : ∀ revision, (change revision).isActive = true → revision.isActive = true)
    : Ordered (changeRevision id change revisions) := by
  refine ordered.map ?_ ?_
  · intro revision
    split
    · exact sameId revision
    · rfl
  · intro revision active
    split at active
    · exact faded revision active
    · exact active

theorem changeNewest (ordered : Ordered revisions) {id : Uuid}
    {change : DeploymentRevision → DeploymentRevision}
    (sameId : ∀ revision, (change revision).id = revision.id)
    (newest : revisions.getLast?.map DeploymentRevision.id = some id)
    : Ordered (Deployments.changeRevision id change revisions) := by
  obtain ⟨last, atEnd, rfl⟩ := Option.map_eq_some_iff.mp newest
  have stored : last ∈ revisions := List.mem_of_getLast? atEnd
  have same (revision : DeploymentRevision)
      : (if revision.id = last.id then change revision else revision).id = revision.id := by
    split
    · exact sameId revision
    · rfl
  refine ⟨?_, ?_⟩
  · have ids : DeploymentRevision.id
          ∘ (fun revision => if revision.id = last.id then change revision else revision)
        = DeploymentRevision.id :=
      funext same
    unfold Deployments.changeRevision
    rw [List.map_map, ids]
    exact ordered.nodup
  · intro revision member active
    obtain ⟨before, known, rfl⟩ := List.mem_map.mp member
    unfold Deployments.changeRevision
    rw [List.getLast?_map, atEnd, Option.map_some]
    by_cases here : before.id = last.id
    · rw [List.inj_on_of_nodup_map ordered.nodup known stored here]
    · rw [if_neg here] at active ⊢
      have ends := ordered.newest before known active
      rw [atEnd] at ends
      exact absurd (congrArg DeploymentRevision.id (Option.some.inj ends)).symm here

theorem append (ordered : Ordered revisions) {loaded : List Uuid}
    (all : ∀ revision ∈ revisions, revision.isActive = true → revision.id ∈ loaded)
    {added : DeploymentRevision} (fresh : added.id ∉ revisions.map DeploymentRevision.id)
    : Ordered (deactivate loaded revisions ++ [added]) := by
  have ids : (deactivate loaded revisions).map DeploymentRevision.id
      = revisions.map DeploymentRevision.id := by
    unfold deactivate
    rw [List.map_map]
    refine List.map_congr_left ?_
    intro revision _
    dsimp only [Function.comp_apply]
    split <;> rfl
  refine ⟨?_, ?_⟩
  · rw [List.map_append, ids, List.map_singleton]
    exact List.nodup_append'.mpr
      ⟨ordered.nodup, List.nodup_singleton _, List.disjoint_singleton.mpr fresh⟩
  · intro revision member active
    rw [List.getLast?_concat]
    rcases List.mem_append.mp member with old | new
    · obtain ⟨before, stored, rfl⟩ := List.mem_map.mp old
      split at active
      · cases active
      · rename_i unread
        exact absurd (all before stored active) unread
    · rw [List.mem_singleton.mp new]

end Ordered

theorem CarefulStep.keeps {before after : DeploymentSite} {event : DeploymentEvent}
    (taken : CarefulStep before event after) (ordered : Ordered before.rows.revisions)
    : Ordered after.rows.revisions := by
  obtain ⟨⟨fresh, rfl⟩, careful⟩ := taken
  cases event with
  | openRequest request =>
      unfold performEvent
      dsimp only
      split <;> exact ordered
  | commitRequest index id now =>
      unfold performEvent
      dsimp only
      split
      · exact ordered
      · rename_i pending found
        unfold commitRequest
        dsimp only
        cases adds : pending.added with
        | none =>
            rw [Option.map_none, Option.toList_none, List.append_nil]
            refine ordered.map ?_ ?_
            · intro revision
              split <;> rfl
            · intro revision active
              split at active
              · cases active
              · exact active
        | some revision =>
            exact ordered.append (careful pending found (by rw [adds]; rfl)) fresh
  | dropRequest index => exact ordered
  | openRun node =>
      unfold performEvent assignNode
      dsimp only
      split <;> exact ordered
  | announceBuild index =>
      unfold performEvent
      dsimp only
      split
      · exact ordered
      · split <;> exact ordered
  | recordBuild index imageTag =>
      unfold performEvent
      dsimp only
      split
      · exact ordered
      · split
        · unfold recordBuild
          dsimp only
          split
          · exact ordered
          · exact ordered.changeRevision (fun _ => rfl) (fun _ active => active)
        · exact ordered
  | finishBuild index =>
      unfold performEvent
      dsimp only
      split
      · exact ordered
      · split <;> exact ordered
  | recordBuildError index message =>
      unfold performEvent
      dsimp only
      split
      · exact ordered
      · split
        · exact ordered.changeRevision (fun _ => rfl) (fun _ active => active)
        · exact ordered
  | startContainer index =>
      unfold performEvent
      dsimp only
      split
      · exact ordered
      · split <;> exact ordered
  | recordStart index container now =>
      unfold performEvent
      dsimp only
      split
      · exact ordered
      · rename_i run found
        split
        · rename_i started
          unfold recordStart
          dsimp only
          cases held : run.revision with
          | none => exact ordered
          | some id =>
              by_cases kept : run.isActive = some true
              · refine ordered.changeRevision (fun _ => rfl) ?_
                intro revision active
                rw [kept, written_unchanged] at active
                exact active
              · exact ordered.changeNewest (fun _ => rfl)
                  (careful run found (of_decide_eq_true (by simpa using started)) id held kept)
        · exact ordered
  | recordFailure index message =>
      unfold performEvent
      dsimp only
      split
      · exact ordered
      · unfold recordFailure
        dsimp only
        split
        · exact ordered
        · exact ordered.changeRevision (fun _ => rfl) (fun _ active => active)
  | dropRun index => exact ordered
  | otherChange deployment => exact ordered

theorem Ordered.at_most_one {revisions : List DeploymentRevision} (ordered : Ordered revisions)
    : (activeRevisions revisions).length ≤ 1 := by
  have distinct : (revisions.filter DeploymentRevision.isActive).Nodup :=
    ordered.nodup.of_map.filter _
  have last : ∀ revision ∈ revisions.filter DeploymentRevision.isActive,
      revisions.getLast? = some revision := by
    intro revision member
    obtain ⟨stored, active⟩ := List.mem_filter.mp member
    exact ordered.newest revision stored active
  unfold activeRevisions
  rw [List.length_map]
  cases active : revisions.filter DeploymentRevision.isActive with
  | nil => exact Nat.zero_le 1
  | cons first rest =>
      rw [active] at distinct last
      cases rest with
      | nil => exact Nat.le_refl 1
      | cons second rest =>
          have atFirst := last first List.mem_cons_self
          rw [last second (List.mem_cons_of_mem _ List.mem_cons_self)] at atFirst
          rw [Option.some.inj atFirst] at distinct
          exact absurd List.mem_cons_self (List.nodup_cons.mp distinct).1

/-- In every run of careful events from the creation of a deployment, at most one revision is
active, and it is the one that was created last.
-/
theorem careful_runs_keep_newest_active {start finish : DeploymentSite}
    {events : List DeploymentEvent} (created : Created start)
    (run : Run CarefulStep start events finish)
    : (activeRevisions finish.rows.revisions).length ≤ 1
      ∧ NewestActive finish.rows.revisions := by
  have initial : Ordered start.rows.revisions := by
    obtain ⟨first, only⟩ := created.first
    rw [only]
    refine ⟨List.nodup_singleton _, ?_⟩
    intro revision member _
    rw [List.mem_singleton.mp member, List.getLast?_singleton]
  have ordered : Ordered finish.rows.revisions :=
    run.invariant (fun site => Ordered site.rows.revisions) (fun _ => True)
      (fun _ taken => taken.keeps) (fun _ _ => trivial) initial
  exact ⟨ordered.at_most_one, ordered.newest⟩

/-- A deployment that has just been created. -/
def newApp : DeploymentSite where
  rows :=
    {
      deployment :=
        { id := 0, ownerId := 7, nodeId := some 1, volumePath := "data", dockerImage := "app:1" },
      revisions := [{ id := 0, deploymentId := 0, isActive := true, createdAt := 0 }]
    }

theorem newApp_created : Created newApp :=
  ⟨⟨_, rfl⟩, rfl, rfl⟩

def deployDuringStart : List DeploymentEvent :=
  [.openRun none, .openRequest .deploy, .commitRequest 0 1 5, .startContainer 0,
    .recordStart 0 ⟨some "container", some 8080⟩ 9]

/-- The first run ends after the deploy request and leaves the new revision active. -/
theorem deploy_during_start_keeps_newest
    : Created newApp
      ∧ Run CarefulStep newApp deployDuringStart
          (deployDuringStart.foldl performEvent newApp)
      ∧ (activeRevisions
            (deployDuringStart.foldl performEvent newApp).rows.revisions).length ≤ 1
      ∧ NewestActive (deployDuringStart.foldl performEvent newApp).rows.revisions := by
  have newId : (1 : Uuid) ∉ [0] := by decide
  have run : Run CarefulStep newApp deployDuringStart
      (deployDuringStart.foldl performEvent newApp) := by
    refine .next (.next (.next (.next (.next .done ⟨⟨trivial, rfl⟩, trivial⟩)
      ⟨⟨trivial, rfl⟩, trivial⟩) ⟨⟨newId, rfl⟩, ?_⟩) ⟨⟨trivial, rfl⟩, trivial⟩)
      ⟨⟨trivial, rfl⟩, ?_⟩
    · intro run found _ _ _ unmarked
      cases found
      exact absurd rfl unmarked
    · intro pending found _ revision member _
      cases found
      cases List.mem_singleton.mp member
      exact List.mem_cons_self
  exact ⟨newApp_created, run, careful_runs_keep_newest_active (newApp_created) run⟩

/-- Two deploy requests that have both loaded the first revision. -/
def overlappingDeploys : List DeploymentEvent :=
  [.openRequest .deploy, .openRequest .deploy, .commitRequest 0 1 5, .commitRequest 0 2 6]

/-- The second request does not know of the revision that the first one has added. -/
theorem overlapping_deploys_activate_both
    : ¬ ∀ start events finish, Created start → Run RevisionStep start events finish
      → (activeRevisions finish.rows.revisions).length ≤ 1
        ∧ NewestActive finish.rows.revisions := by
  intro newest
  have firstId : (1 : Uuid) ∉ [0] := by decide
  have secondId : (2 : Uuid) ∉ [0, 1] := by decide
  have run : Run RevisionStep newApp overlappingDeploys
      (overlappingDeploys.foldl performEvent newApp) :=
    .next (.next (.next (.next .done ⟨trivial, rfl⟩) ⟨trivial, rfl⟩) ⟨firstId, rfl⟩)
      ⟨by exact secondId, rfl⟩
  have one := (newest _ _ _ newApp_created run).1
  exact absurd one (by decide +kernel)

end Blockhost.Deployments
