import Mathlib.Tactic.IntervalCases
import Blockhost.Orchestrator.JobExclusion

/-! Two jobs of one kind exclude each other as far as their lock does: a lease from Redis for an
hour, or without Redis a lock that each thread makes for itself.
-/

namespace Blockhost.Jobs

open Library

variable {Locks : Type} {store : LeaseStore Uuid JobRef Locks}

def UnderWay (world : JobWorld Locks) (kind : JobKind) (serverId : Uuid) (job : JobRef) : Prop :=
  job.kind = kind
  ∧ ∃ state, world.jobs job = some state ∧ state.serverId = serverId ∧ state.stage ≠ .ended

def OnlyJob (world : JobWorld Locks) (job : JobRef) (serverId : Uuid) : Prop :=
  ∀ other, UnderWay world job.kind serverId other → other = job

/-- A job waits while Redis holds its lock for another one. -/
def Granted (store : LeaseStore Uuid JobRef Locks) (pool : JobPool Locks) (action : JobAction)
    (outside : JobOutside)
    : Prop :=
  ∀ job serverId active, action = .acquire job → outside.raises = none
    → outside.redisUp = true → jobRow pool.world.db job = some (serverId, active)
    → (store.acquire serverId job (pool.world.clock + outside.elapsed) lockTimeout
        pool.world.locks).isSome

def JobAction.inserts : JobAction → Option (JobKind × Uuid)
  | .insertBackup server _ => some (.backup, server.id)
  | .insertRestore server _ _ _ => some (.restore, server.id)
  | _ => none

/-- A step does not meet an unfinished job of its kind and server that is without a lease. -/
structure Guarded (pool : JobPool Locks) (action : JobAction) (outside : JobOutside)
    : Prop where
  inserts
    : ∀ kind serverId, action.inserts = some (kind, serverId)
      → ∀ job state, pool.world.jobs job = some state → job.kind = kind
      → state.serverId = serverId → state.inSection → state.leasedAt ≠ none
  threadLocks
    : ∀ job state, action = .acquire job → outside.redisUp = false
      → pool.world.jobs job = some state → state.stage = .queued
      → OnlyJob pool.world job state.serverId
  leasesLast
    : ∀ job state, action = .acquire job → pool.world.jobs job = some state
      → ∀ other otherState since, UnderWay pool.world job.kind state.serverId other
      → pool.world.jobs other = some otherState → otherState.leasedAt = some since
      → pool.world.clock + outside.elapsed < since + lockTimeout
  releases
    : ∀ job state, action = .release job → pool.world.jobs job = some state
      → state.inSection → OnlyJob pool.world job state.serverId

/-- Two jobs of one kind and server are not both in the section. -/
def Exclusive (world : JobWorld Locks) : Prop :=
  ∀ left right leftState rightState, left ≠ right → left.kind = right.kind
    → world.jobs left = some leftState → world.jobs right = some rightState
    → leftState.serverId = rightState.serverId
    → ¬ (leftState.inSection ∧ rightState.inSection)

/-- The leases that the store keeps for the jobs. -/
def LeasesHeld (store : LeaseStore Uuid JobRef Locks) (world : JobWorld Locks) : Prop :=
  ∀ job state since, world.jobs job = some state → state.leasedAt = some since
    → ∀ time, world.clock ≤ time → time < since + lockTimeout
    → store.Held world.locks state.serverId job time

/-- A job in the section has a lease while another job of its kind and server is under way. -/
def ContendersLeased (world : JobWorld Locks) : Prop :=
  ∀ job state other, world.jobs job = some state → state.inSection → other ≠ job
    → UnderWay world job.kind state.serverId other → state.leasedAt ≠ none

-- Changes that take no lock

/-- Jobs come from jobs that were in the section and under way if they are. -/
def JobsFade (world next : JobWorld Locks) : Prop :=
  ∀ job state, next.jobs job = some state
    → ∃ before, world.jobs job = some before ∧ before.serverId = state.serverId
      ∧ (state.inSection → before.inSection)
      ∧ (state.stage ≠ .ended → before.stage ≠ .ended)

def LeasesKept (world next : JobWorld Locks) : Prop :=
  ∀ job state before, next.jobs job = some state → world.jobs job = some before
    → state.leasedAt = before.leasedAt

theorem JobsFade.changeJob {world : JobWorld Locks} {change : JobState → JobState}
    (job : JobRef)
    (keeps : ∀ state, (change state).serverId = state.serverId
      ∧ ((change state).inSection → state.inSection)
      ∧ ((change state).stage ≠ .ended → state.stage ≠ .ended))
    : JobsFade world (world.changeJob job change) := by
  intro other state found
  obtain ⟨before, stored, rfl⟩ := changeJob_some found
  split
  · obtain ⟨server, inside, ended⟩ := keeps before
    exact ⟨before, stored, server.symm, inside, ended⟩
  · exact ⟨before, stored, rfl, id, id⟩

theorem LeasesKept.changeJob {world : JobWorld Locks} {change : JobState → JobState}
    (job : JobRef) (keeps : ∀ state, (change state).leasedAt = state.leasedAt)
    : LeasesKept world (world.changeJob job change) := by
  intro other state before found stored
  obtain ⟨origin, known, rfl⟩ := changeJob_some found
  rw [stored] at known
  cases known
  split
  · exact keeps before
  · rfl

theorem UnderWay.fade {world next : JobWorld Locks} (fades : JobsFade world next)
    {kind : JobKind} {serverId : Uuid} {job : JobRef} (active : UnderWay next kind serverId job)
    : UnderWay world kind serverId job := by
  obtain ⟨sameKind, state, found, server, unfinished⟩ := active
  obtain ⟨before, stored, sameServer, _, ended⟩ := fades job state found
  exact ⟨sameKind, before, stored, sameServer.trans server, ended unfinished⟩

theorem Exclusive.fade {world next : JobWorld Locks} (held : Exclusive world)
    (fades : JobsFade world next)
    : Exclusive next := by
  rintro left right leftState rightState different kind leftFound rightFound same
    ⟨leftInside, rightInside⟩
  obtain ⟨leftBefore, leftStored, leftServer, leftSection, _⟩ := fades left leftState leftFound
  obtain ⟨rightBefore, rightStored, rightServer, rightSection, _⟩ :=
    fades right rightState rightFound
  exact held left right leftBefore rightBefore different kind leftStored rightStored
    (leftServer.trans (same.trans rightServer.symm))
    ⟨leftSection leftInside, rightSection rightInside⟩

theorem ContendersLeased.fade {world next : JobWorld Locks} (held : ContendersLeased world)
    (fades : JobsFade world next) (leases : LeasesKept world next)
    : ContendersLeased next := by
  intro job state other found inside different contends
  obtain ⟨before, stored, server, insideBefore, _⟩ := fades job state found
  rw [leases job state before found stored]
  refine held job before other stored (insideBefore inside) different ?_
  rw [server]
  exact contends.fade fades

theorem LeasesHeld.fade {world next : JobWorld Locks} (held : LeasesHeld store world)
    (fades : JobsFade world next) (leases : LeasesKept world next)
    (locks : next.locks = world.locks) (later : world.clock ≤ next.clock)
    : LeasesHeld store next := by
  intro job state since found leased time now lasts
  obtain ⟨before, stored, server, _, _⟩ := fades job state found
  rw [locks, ← server]
  exact held job before since stored ((leases job state before found stored).symm.trans leased)
    time (later.trans now) lasts

-- Entering the section

theorem inSection_of_enter {leasedAt : Option Instant} {state : JobState}
    (inside : (state.enter leasedAt).inSection)
    : state.stage = .queued ∨ state.inSection := by
  unfold JobState.enter at inside
  split at inside
  · rename_i queued
    exact .inl queued
  · exact .inr inside

theorem enter_of_not_queued {leasedAt : Option Instant} {state : JobState}
    (entered : state.stage ≠ .queued)
    : state.enter leasedAt = state :=
  if_neg entered

theorem UnderWay.changeJob {world : JobWorld Locks} {change : JobState → JobState}
    {job other : JobRef} {kind : JobKind} {serverId : Uuid} (keeps : KeepsJob change)
    (active : UnderWay (world.changeJob job change) kind serverId other)
    : UnderWay world kind serverId other := by
  obtain ⟨sameKind, state, found, server, unfinished⟩ := active
  obtain ⟨before, stored, rfl⟩ := changeJob_some found
  refine ⟨sameKind, before, stored, ?_, ?_⟩
  · split at server
    · exact (keeps.server before).symm.trans server
    · exact server
  · split at unfinished
    · exact fun ended => unfinished ((keeps.ended before).mpr ended)
    · exact unfinished

theorem Exclusive.enter {world : JobWorld Locks} (held : Exclusive world) (job : JobRef)
    (leasedAt : Option Instant)
    (alone : ∀ state other otherState, world.jobs job = some state → state.stage = .queued
      → other ≠ job → other.kind = job.kind → world.jobs other = some otherState
      → otherState.serverId = state.serverId → ¬ otherState.inSection)
    : Exclusive (world.changeJob job (JobState.enter leasedAt)) := by
  have server (state : JobState) (own : Prop) [Decidable own]
      : (if own then state.enter leasedAt else state).serverId = state.serverId := by
    split
    · exact (enter_keeps leasedAt).server state
    · rfl
  have inside {other : JobRef} {state : JobState}
      (entered : (if other = job then state.enter leasedAt else state).inSection)
      : (other = job ∧ state.stage = .queued) ∨ state.inSection := by
    split at entered
    · rename_i own
      exact (inSection_of_enter entered).imp_left (fun queued => ⟨own, queued⟩)
    · exact .inr entered
  rintro left right leftState rightState different kind leftFound rightFound same
    ⟨leftInside, rightInside⟩
  obtain ⟨leftBefore, leftStored, rfl⟩ := changeJob_some leftFound
  obtain ⟨rightBefore, rightStored, rfl⟩ := changeJob_some rightFound
  rw [server, server] at same
  rcases inside leftInside with ⟨rfl, leftQueued⟩ | leftSection
  · rcases inside rightInside with ⟨rfl, _⟩ | rightSection
    · exact different rfl
    · exact alone leftBefore right rightBefore leftStored leftQueued (Ne.symm different)
        kind.symm rightStored same.symm rightSection
  · rcases inside rightInside with ⟨rfl, rightQueued⟩ | rightSection
    · exact alone rightBefore left leftBefore rightStored rightQueued different kind leftStored
        same leftSection
    · exact held left right leftBefore rightBefore different kind leftStored rightStored same
        ⟨leftSection, rightSection⟩

theorem ContendersLeased.enter {world : JobWorld Locks} (held : ContendersLeased world)
    (job : JobRef) (leasedAt : Option Instant)
    (leased : ∀ state, world.jobs job = some state → state.stage = .queued
      → leasedAt = none → OnlyJob world job state.serverId)
    : ContendersLeased (world.changeJob job (JobState.enter leasedAt)) := by
  intro owner state other found inside different contends
  have before_contends := contends.changeJob (enter_keeps leasedAt)
  obtain ⟨before, stored, rfl⟩ := changeJob_some found
  by_cases own : owner = job
  · subst own
    rw [if_pos rfl] at inside before_contends ⊢
    by_cases queued : before.stage = .queued
    · have lease : (before.enter leasedAt).leasedAt = leasedAt := by
        rw [JobState.enter, if_pos queued]
      rw [lease]
      intro missing
      rw [(enter_keeps leasedAt).server] at before_contends
      exact different (leased before stored queued missing other before_contends)
    · rw [enter_of_not_queued queued] at inside before_contends ⊢
      exact held owner before other stored inside different before_contends
  · rw [if_neg own] at inside before_contends ⊢
    exact held owner before other stored inside different before_contends

theorem no_lease_of_acquired (law : store.Lawful) {world : JobWorld Locks}
    (held : LeasesHeld store world) {job other : JobRef} {serverId : Uuid} {locks : Locks}
    (got : store.acquire serverId job world.clock lockTimeout world.locks = some locks)
    {state : JobState} {since : Instant} (stored : world.jobs other = some state)
    (server : state.serverId = serverId) (leased : state.leasedAt = some since)
    : since + lockTimeout ≤ world.clock := by
  by_contra lasts
  have holds := held other state since stored leased world.clock (le_refl _) (not_le.mp lasts)
  rw [server] at holds
  rw [law.exclusive holds] at got
  cases got

theorem LeasesHeld.enter (law : store.Lawful) {world : JobWorld Locks}
    (held : LeasesHeld store world) {job : JobRef} {serverId : Uuid} {locks : Locks}
    (server : ∀ state, world.jobs job = some state → state.serverId = serverId)
    (got : store.acquire serverId job world.clock lockTimeout world.locks = some locks)
    : LeasesHeld store
        { world.changeJob job (JobState.enter (some world.clock)) with locks } := by
  intro other state since found leased time now lasts
  have unchanged {before : JobState} (stored : world.jobs other = some before)
      (leasedBefore : before.leasedAt = some since)
      : store.Held locks before.serverId other time := by
    by_cases sameServer : before.serverId = serverId
    · have expired := no_lease_of_acquired law held got stored sameServer leasedBefore
      exact absurd (lt_of_le_of_lt now lasts) (not_lt.mpr expired)
    · exact law.acquire_other got sameServer
        (held other before since stored leasedBefore time now lasts)
  obtain ⟨before, stored, rfl⟩ := changeJob_some found
  by_cases own : other = job
  · subst own
    rw [if_pos rfl] at leased ⊢
    by_cases queued : before.stage = .queued
    · rw [JobState.enter, if_pos queued] at leased ⊢
      cases leased
      rw [server before stored]
      exact law.granted got time lasts
    · rw [enter_of_not_queued queued] at leased ⊢
      exact unchanged stored leased
  · rw [if_neg own] at leased ⊢
    exact unchanged stored leased

theorem LeasesHeld.enter_without {world : JobWorld Locks} (held : LeasesHeld store world)
    (job : JobRef)
    : LeasesHeld store (world.changeJob job (JobState.enter none)) := by
  intro other state since found leased
  obtain ⟨before, stored, rfl⟩ := changeJob_some found
  by_cases own : other = job
  · rw [if_pos own] at leased ⊢
    by_cases queued : before.stage = .queued
    · rw [JobState.enter, if_pos queued] at leased
      cases leased
    · rw [enter_of_not_queued queued] at leased ⊢
      exact held other before since stored leased
  · rw [if_neg own] at leased ⊢
    exact held other before since stored leased

-- Runs

/-- What the lock and the rows keep. -/
structure LockInvariant (store : LeaseStore Uuid JobRef Locks) (world : JobWorld Locks)
    : Prop where
  rows : RowsActive world
  exclusive : Exclusive world
  held : LeasesHeld store world
  contenders : ContendersLeased world

theorem LockInvariant.advance {world : JobWorld Locks} (kept : LockInvariant store world)
    (elapsed : Nat)
    : LockInvariant store { world with clock := world.clock + elapsed } where
  rows := kept.rows
  exclusive := kept.exclusive
  held job state since found leased time now lasts :=
    kept.held job state since found leased time
      (le_trans (Int.le_add_of_nonneg_right (Int.natCast_nonneg elapsed)) now) lasts
  contenders := kept.contenders

theorem serverId_of_row {world : JobWorld Locks} (rows : RowsActive world) {job : JobRef}
    {serverId : Uuid} {active : Bool} (row : jobRow world.db job = some (serverId, active))
    (state : JobState) (stored : world.jobs job = some state)
    : state.serverId = serverId := by
  obtain ⟨_, found, _⟩ := rows job state stored
  rw [row] at found
  cases found
  rfl

theorem LockInvariant.addJob {world : JobWorld Locks} (kept : LockInvariant store world)
    {job : JobRef} {serverId : Uuid} {db : Database}
    (written : WritesRow world.db db job (some (serverId, true)))
    (leased : ∀ other state, world.jobs other = some state → other.kind = job.kind
      → state.serverId = serverId → state.inSection → state.leasedAt ≠ none)
    : LockInvariant store (world.addJob job serverId db) where
  rows := kept.rows.addJob written
  exclusive := by
    have inside {other : JobRef} {state : JobState}
        (found : (world.addJob job serverId db).jobs other = some state)
        (inSection : state.inSection)
        : world.jobs other = some state := by
      rcases addJob_some found with ⟨_, rfl⟩ | ⟨_, stored⟩
      · rcases inSection with locked | working
        · cases locked
        · cases working
      · exact stored
    rintro left right leftState rightState different kind leftFound rightFound same
      ⟨leftInside, rightInside⟩
    exact kept.exclusive left right leftState rightState different kind
      (inside leftFound leftInside) (inside rightFound rightInside) same
      ⟨leftInside, rightInside⟩
  held := by
    intro other state since found lease time now lasts
    rcases addJob_some found with ⟨_, rfl⟩ | ⟨_, stored⟩
    · cases lease
    · exact kept.held other state since stored lease time now lasts
  contenders := by
    intro owner state other found inside different contends
    rcases addJob_some found with ⟨_, rfl⟩ | ⟨_, stored⟩
    · rcases inside with locked | working
      · cases locked
      · cases working
    · obtain ⟨kind, otherState, otherFound, server, unfinished⟩ := contends
      rcases addJob_some otherFound with ⟨rfl, rfl⟩ | ⟨_, otherStored⟩
      · exact leased owner state stored kind.symm server.symm inside
      · exact kept.contenders owner state other stored inside different
          ⟨kind, otherState, otherStored, server, unfinished⟩

/-- A job takes a lease or makes its own lock. A lease that is granted shows that no other job
has one that lasts, and whoever is in the section has one.
-/
theorem LockInvariant.acquire (law : store.Lawful) {world : JobWorld Locks}
    (kept : LockInvariant store world) {job : JobRef} {redisUp : Bool}
    (granted : ∀ serverId active, redisUp = true → jobRow world.db job = some (serverId, active)
      → (store.acquire serverId job world.clock lockTimeout world.locks).isSome)
    (alone : ∀ state, redisUp = false → world.jobs job = some state → state.stage = .queued
      → OnlyJob world job state.serverId)
    (lasting : ∀ state, world.jobs job = some state
      → ∀ other otherState since, UnderWay world job.kind state.serverId other
      → world.jobs other = some otherState → otherState.leasedAt = some since
      → world.clock < since + lockTimeout)
    : LockInvariant store (acquireLock store redisUp job world) := by
  unfold acquireLock
  split
  · exact kept
  · rename_i serverId active row
    have server := serverId_of_row kept.rows row
    have unfinished {state : JobState} (inside : state.inSection) : state.stage ≠ .ended := by
      rcases inside with locked | working
      · simp [locked]
      · simp [working]
    cases redisUp with
    | false =>
        refine ⟨kept.rows.changeJob job (enter_keeps none), ?_, kept.held.enter_without job, ?_⟩
        · refine kept.exclusive.enter job none ?_
          intro state other otherState stored queued different kind otherStored same inside
          exact different (alone state rfl stored queued other
            ⟨kind, otherState, otherStored, same, unfinished inside⟩)
        · exact kept.contenders.enter job none
            (fun state stored queued _ => alone state rfl stored queued)
    | true =>
        obtain ⟨locks, got⟩ := Option.isSome_iff_exists.mp (granted serverId active rfl row)
        rw [if_pos rfl, got, Option.getD_some]
        refine ⟨?_, ?_, kept.held.enter law server got, ?_⟩
        · exact kept.rows.changeJob job (enter_keeps _)
        · refine kept.exclusive.enter job _ ?_
          intro state other otherState stored queued different kind otherStored same inside
          have contends : UnderWay world other.kind otherState.serverId job :=
            ⟨kind.symm, state, stored, same.symm, by simp [queued]⟩
          have leased := kept.contenders other otherState job otherStored inside
            (Ne.symm different) contends
          obtain ⟨since, leasedAt⟩ := Option.ne_none_iff_exists'.mp leased
          have lasts := lasting state stored other otherState since
            ⟨kind, otherState, otherStored, same, unfinished inside⟩ otherStored leasedAt
          have expired := no_lease_of_acquired law kept.held got otherStored
            (same.trans (server state stored)) leasedAt
          exact absurd lasts (not_lt.mpr expired)
        · exact kept.contenders.enter job _ (fun _ _ _ missing => nomatch missing)

theorem LockInvariant.release (law : store.Lawful) {world : JobWorld Locks}
    (kept : LockInvariant store world) {job : JobRef}
    (alone : ∀ state, world.jobs job = some state → state.inSection
      → OnlyJob world job state.serverId)
    : LockInvariant store (releaseLock store job world) := by
  unfold releaseLock
  split
  · exact kept
  · rename_i serverId active row
    have fades : JobsFade world (world.changeJob job JobState.leave) :=
      .changeJob job (fun _ => ⟨rfl, id, id⟩)
    refine ⟨kept.rows.changeJob job leave_keeps, kept.exclusive.fade fades, ?_, ?_⟩
    · intro other state since found leased time now lasts
      obtain ⟨before, stored, rfl⟩ := changeJob_some found
      by_cases own : other = job
      · rw [if_pos own] at leased
        cases leased
      · rw [if_neg own] at leased ⊢
        refine law.release_other ?_ (kept.held other before since stored leased time now lasts)
        exact fun same => own (Prod.mk.inj same).2
    · intro owner state other found inside different contends
      have contended := contends.fade fades
      obtain ⟨before, stored, rfl⟩ := changeJob_some found
      by_cases own : owner = job
      · subst own
        rw [if_pos rfl] at inside contended
        exact absurd (alone before stored inside other contended) different
      · rw [if_neg own] at inside contended ⊢
        exact kept.contenders owner before other stored inside different contended

theorem LockInvariant.changeJob {world : JobWorld Locks} (kept : LockInvariant store world)
    {job : JobRef} {change : JobState → JobState} {db : Database}
    (rows : RowsActive { world.changeJob job change with db })
    (keeps : ∀ state, (change state).serverId = state.serverId
      ∧ (change state).leasedAt = state.leasedAt
      ∧ ((change state).inSection → state.inSection)
      ∧ ((change state).stage ≠ .ended → state.stage ≠ .ended))
    : LockInvariant store { world.changeJob job change with db } := by
  have fades : JobsFade world (world.changeJob job change) :=
    .changeJob job (fun state => ⟨(keeps state).1, (keeps state).2.2⟩)
  have leases : LeasesKept world (world.changeJob job change) :=
    .changeJob job (fun state => (keeps state).2.1)
  exact ⟨rows, kept.exclusive.fade fades, kept.held.fade fades leases rfl (le_refl _),
    kept.contenders.fade fades leases⟩

theorem LockInvariant.kept (law : store.Lawful) {pool : JobPool Locks} {action : JobAction}
    {outside : JobOutside} {next : JobWorld Locks} (held : LockInvariant store pool.world)
    (granted : Granted store pool action outside) (guarded : Guarded pool action outside)
    (changed : JobChange store
      { pool.world with clock := pool.world.clock + outside.elapsed } outside action next)
    : LockInvariant store next := by
  have later := held.advance outside.elapsed
  have rows := RowsActive.kept changed later.rows
  cases changed with
  | nothing => exact later
  | backup fresh written =>
      exact later.addJob written
        (fun other state found kind server inside =>
          guarded.inserts _ _ rfl other state found kind server inside)
  | restore fresh written =>
      exact later.addJob written
        (fun other state found kind server inside =>
          guarded.inserts _ _ rfl other state found kind server inside)
  | @acquire job calm =>
      exact later.acquire law
        (fun serverId active up row => granted job serverId active rfl calm up row)
        (fun state down stored queued => guarded.threadLocks job state rfl down stored queued)
        (fun state stored => guarded.leasesLast job state rfl stored)
  | @release job calm =>
      exact later.release law
        (fun state stored inside => guarded.releases job state rfl stored inside)
  | @pass job serverId active row unopposed =>
      refine later.changeJob rows (fun state => ⟨pass_keeps.server state, ?_, ?_, ?_⟩)
      · unfold JobState.pass
        split <;> rfl
      · intro inside
        unfold JobState.pass at inside
        split at inside
        · rename_i locked
          exact .inl locked
        · exact inside
      · exact fun unfinished ended => unfinished ((pass_keeps.ended state).mpr ended)
  | @status _ job active db written =>
      refine later.changeJob rows (fun state => ?_)
      cases active with
      | true => exact ⟨rfl, rfl, id, id⟩
      | false =>
          refine ⟨rfl, rfl, ?_, fun unfinished => absurd rfl unfinished⟩
          rintro (locked | working)
          · cases locked
          · cases working

theorem lockInvariant_start (db : Database) (locks : Locks)
    : LockInvariant store (.start db locks) :=
  ⟨rowsActive_start db locks, nofun, nofun, nofun⟩

/-- In every run whose steps are guarded, two jobs of one kind and server are never both between
taking the lock and their terminal status.
-/
theorem same_kind_exclusive (law : store.Lawful) {db : Database} {locks : Locks}
    {finish : JobPool Locks}
    (reached : Reachable
      (Pool.StepWhen (jobMachine store) JobHandler
        (fun pool action outside =>
          Granted store pool action outside ∧ Guarded pool action outside))
      ⟨.start db locks, []⟩ finish)
    {left right : JobRef} {leftState rightState : JobState} (different : left ≠ right)
    (sameKind : left.kind = right.kind)
    (leftFound : finish.world.jobs left = some leftState)
    (rightFound : finish.world.jobs right = some rightState)
    (sameServer : leftState.serverId = rightState.serverId)
    : ¬ (leftState.inSection ∧ rightState.inSection) := by
  have kept : LockInvariant store finish.world := by
    refine Pool.world_invariant (LockInvariant store) ?_ reached (lockInvariant_start db locks)
    intro pool action outside met held
    exact held.kept law met.1 met.2 (performJobAction_changes action outside _)
  exact kept.exclusive left right leftState rightState different sameKind leftFound rightFound
    sameServer

def Waiting (jobs : JobRef → Option JobState) : Prop :=
  ∀ job state, jobs job = some state → state.stage = .queued ∧ state.leasedAt = none

theorem waiting_none : Waiting (fun _ => none) := nofun

theorem Waiting.insert {jobs : JobRef → Option JobState} (waiting : Waiting jobs) (job : JobRef)
    (serverId : Uuid)
    : Waiting (fun other => if other = job then some { serverId } else jobs other) := by
  intro other state found
  dsimp only at found
  split at found
  · cases found
    exact ⟨rfl, rfl⟩
  · exact waiting other state found

theorem Waiting.guarded {pool : JobPool Locks} {outside : JobOutside}
    (waiting : Waiting pool.world.jobs) (up : outside.redisUp = true) (action : JobAction)
    : Guarded pool action outside where
  inserts := by
    intro kind serverId _ job state found _ _ inside
    rcases inside with locked | working
    · rw [(waiting job state found).1] at locked
      cases locked
    · rw [(waiting job state found).1] at working
      cases working
  threadLocks := by
    intro job state _ down
    rw [up] at down
    cases down
  leasesLast := by
    intro job state _ _ other otherState since _ found leased
    rw [(waiting other otherState found).2] at leased
    cases leased
  releases := by
    intro job state _ found inside
    rcases inside with locked | working
    · rw [(waiting job state found).1] at locked
      cases locked
    · rw [(waiting job state found).1] at working
      cases working

theorem granted_of_free {pool : JobPool (Uuid → Option (JobRef × Instant))}
    (free : pool.world.locks = fun _ => none) (action : JobAction) (outside : JobOutside)
    : Granted expiringKeys pool action outside := by
  intro job serverId active _ _ _ _
  rw [free]
  rfl

def dispatches : List (JobProgram Unit) := [dispatchSchedule 0 7 false, dispatchSchedule 0 7 false]

theorem dispatches_known : ∀ program ∈ dispatches, JobHandler program := by
  simp [dispatches, JobHandler.schedule]

/-- Two dispatches insert a job each, and the first job takes the lock. -/
def dispatched (count : Nat) : JobPool (Uuid → Option (JobRef × Instant)) :=
  (([0, 1, 0, 1, 0, 1, 0, 0].map (fun index => (index, ({} : JobOutside)))).take count).foldl
    (Pool.advance (jobMachine expiringKeys)) ⟨.start backedUpServer noLeases, dispatches⟩

theorem dispatched_jobs_exclusive
    : ∃ leftState rightState,
      (dispatched 8).world.jobs ⟨.backup, 0⟩ = some leftState
      ∧ (dispatched 8).world.jobs ⟨.backup, 1⟩ = some rightState
      ∧ leftState.stage = .locked ∧ rightState.stage = .queued
      ∧ ¬ (leftState.inSection ∧ rightState.inSection) := by
  have one := waiting_none.insert ⟨.backup, 0⟩ 0
  have two := one.insert ⟨.backup, 1⟩ 0
  have waiting : ∀ count < 8, (dispatched count).world.locks = (fun _ => none)
      ∧ Waiting (dispatched count).world.jobs := by
    intro count early
    interval_cases count
    · exact ⟨rfl, waiting_none⟩
    · exact ⟨rfl, waiting_none⟩
    · exact ⟨rfl, waiting_none⟩
    · exact ⟨rfl, waiting_none⟩
    · exact ⟨rfl, waiting_none⟩
    · exact ⟨rfl, one⟩
    · exact ⟨rfl, two⟩
    · exact ⟨rfl, two⟩
  have reached : Reachable (Pool.StepWhen (jobMachine expiringKeys) JobHandler
      (fun pool action outside =>
        Granted expiringKeys pool action outside ∧ Guarded pool action outside))
      ⟨.start backedUpServer noLeases, []⟩ (dispatched 8) := by
    refine (Pool.reachable_starts dispatches dispatches_known _).trans
      (Pool.reachable_schedule _ _ ?_)
    intro count turn found action _ _
    obtain ⟨early, _⟩ := List.getElem?_eq_some_iff.mp found
    obtain ⟨free, waits⟩ := waiting count early
    obtain ⟨index, _, rfl⟩ := List.mem_map.mp (List.mem_of_mem_take (List.mem_of_getElem? found))
    exact ⟨granted_of_free free action _, waits.guarded rfl action⟩
  have isLeft : (dispatched 8).world.jobs ⟨.backup, 0⟩ = some ⟨0, .locked, some 0⟩ := by
    decide +kernel
  have isRight : (dispatched 8).world.jobs ⟨.backup, 1⟩ = some ⟨0, .queued, none⟩ := by
    decide +kernel
  have different : (⟨.backup, 0⟩ : JobRef) ≠ ⟨.backup, 1⟩ := by simp
  exact ⟨_, _, isLeft, isRight, rfl, rfl,
    same_kind_exclusive expiringKeys_lawful reached different rfl isLeft isRight rfl⟩

-- Locks of two threads

def twoRequests : List (JobProgram Unit) :=
  [createBackup jobOwner (uuidText 0), createBackup jobOwner (uuidText 0)]

theorem twoRequests_known : ∀ program ∈ twoRequests, JobHandler program := by
  simp [twoRequests, JobHandler.backup]

/-- Two requests for a backup take turns while Redis is away. -/
def threadLocked : JobPool (Uuid → Option (JobRef × Instant)) :=
  ((List.replicate 8 [0, 1]).flatten.map (fun index => (index, { redisUp := false }))).foldl
    (Pool.advance (jobMachine expiringKeys)) ⟨.start backedUpServer noLeases, twoRequests⟩

/-- Both jobs of the requests are in the section. -/
theorem thread_locks_shared
    : Reachable (Pool.StepWhen (jobMachine expiringKeys) JobHandler (Granted expiringKeys))
        ⟨.start backedUpServer noLeases, []⟩ threadLocked
      ∧ ∃ leftState rightState,
        threadLocked.world.jobs ⟨.backup, 0⟩ = some leftState
        ∧ threadLocked.world.jobs ⟨.backup, 1⟩ = some rightState
        ∧ leftState.serverId = rightState.serverId
        ∧ leftState.inSection ∧ rightState.inSection := by
  refine ⟨?_, ⟨0, .locked, none⟩, ⟨0, .locked, none⟩, by decide +kernel, by decide +kernel, rfl,
    .inl rfl, .inl rfl⟩
  refine (Pool.reachable_starts twoRequests twoRequests_known _).trans
    (Pool.reachable_schedule _ _ ?_)
  intro count turn found action _ _ job serverId active _ _ up
  obtain ⟨index, _, rfl⟩ := List.mem_map.mp (List.mem_of_getElem? found)
  cases up

end Blockhost.Jobs
