import Blockhost.Database.Schema
import Blockhost.Library.Run

/-! The deployments' half of the auto-sleeper's cycle, for one deployment. What its container has
received is compared with the counter that an earlier cycle has stored.
-/

namespace Blockhost.DeploymentSleeper

open Library

structure Container where
  id : Nat
  starts : Nat := 0
  counter : Nat := 0
  received : Nat := 0
deriving DecidableEq, Repr

/-- The row and the active container of a deployment, with what is known of its measurements: the
containers as earlier cycles have measured them, and the one that the stored counter is from.
-/
structure World where
  state : DeploymentState
  lastNetworkRx : Option Int := none
  container : Option Container := none
  issued : Nat := 0
  measured : List Container := []
  origin : Option Container := none

/-- What an answer with status 200 reports: the container's counter, the agent's 0 for an error of
Docker, or another value of an erroneous agent.
-/
inductive Reading where
  | stats
  | apiError
  | other (value : Option Int)
deriving DecidableEq, Repr

/-- `get_network_rx_bytes`, as the cycle reads it. -/
def rxBytes (container : Option Container) : Reading → Option Int
  | .stats =>
      match container with
      | none => some 0
      | some active => some active.counter
  | .apiError => some 0
  | .other value => value

def measuredContainer (container : Option Container) : Reading → Option Container
  | .stats => container
  | .apiError | .other _ => none

inductive StopAnswer where
  | raises
  | answers (status : Nat)
deriving DecidableEq, Repr

/-- What a cycle meets at the deployment: whether its query found the row running, which other
requests may have changed since, and whether the node is still stored. `reading` is what an answer
with status 200 reports, and `commits` tells whether the fallback routes and the commit succeed.
-/
structure Visit where
  found : Bool := true
  onNode : Bool := true
  reading : Option Reading
  stop : StopAnswer := .raises
  commits : Bool := true

/-- What happens in between has events of its own: traffic, a start of the same container again,
another container or none, and other changes of the row's state.
-/
inductive Event where
  | visit (visit : Visit)
  | receive (bytes : Nat)
  | restart
  | replace (present : Bool)
  | change (state : DeploymentState)

/-- The counter is the stored one, and the deployment is taken for idle. -/
def takenForIdle (world : World) (reading : Reading) : Bool :=
  world.lastNetworkRx.isSome && rxBytes world.container reading = world.lastNetworkRx

/-- The deployment in a run of `_auto_sleeper_cycle`; an exception rolls the row back. -/
def World.visited (visit : Visit) (world : World) : World :=
  match visit.reading with
  | none => world
  | some reading =>
      if visit.found ∧ visit.onNode then
        let measured :=
          (measuredContainer world.container reading).toList ++ world.measured
        if takenForIdle world reading then
          match visit.stop with
          | .answers _ =>
              { world with
                measured
                state := if visit.commits then .suspended else world.state }
          | .raises => { world with measured }
        else if visit.commits then
          { world with
            measured
            lastNetworkRx := rxBytes world.container reading
            origin := measuredContainer world.container reading }
        else { world with measured }
      else world

def World.perform (world : World) : Event → World
  | .visit visit => world.visited visit
  | .receive bytes =>
      { world with
        container := world.container.map (fun active =>
          { active with
            counter := active.counter + bytes
            received := active.received + bytes }) }
  | .restart =>
      { world with
        container := world.container.map (fun active =>
          { active with starts := active.starts + 1, counter := 0 }) }
  | .replace present =>
      { world with
        container := if present then some { id := world.issued } else none
        issued := world.issued + 1 }
  | .change state => { world with state }

def Step (before : World) (event : Event) (after : World) : Prop := after = before.perform event

def fresh (state : DeploymentState) : World where
  state := state

/-- A cycle leaves the state as it is, or suspends a deployment whose container has received
nothing since an earlier cycle measured it, and whose stop the agent has acknowledged.
-/
def Lawful (before : World) (event : Event) (after : World) : Prop :=
  match event with
  | .visit visit =>
      after.state = before.state
      ∨ after.state = .suspended ∧ visit.stop = .answers 200 ∧ visit.reading = some .stats
        ∧ ∃ active earlier, before.container = some active ∧ earlier ∈ before.measured
          ∧ earlier.id = active.id ∧ earlier.received = active.received
  | _ => True

/-- When a cycle takes the deployment for idle and commits, both counters were read from the same
container, which was not started again in between, and the stop was acknowledged.
-/
def Careful (before : World) (event : Event) : Prop :=
  match event with
  | .visit visit =>
      ∀ reading status, visit.found = true → visit.onNode = true
        → visit.reading = some reading → takenForIdle before reading = true
        → visit.stop = .answers status → visit.commits = true
        → reading = .stats ∧ status = 200
          ∧ ∃ active read, before.container = some active ∧ before.origin = some read
            ∧ read.id = active.id ∧ read.starts = active.starts
  | _ => True

-- What is known of the stored counter

/-- The same container since its measurement: without a start its counter has grown by what it has
received.
-/
structure Later (read active : Container) : Prop where
  starts : read.starts ≤ active.starts
  grown
    : read.starts = active.starts → active.counter + read.received = read.counter + active.received

structure Sound (world : World) : Prop where
  origin
    : ∀ read, world.origin = some read
      → read ∈ world.measured ∧ world.lastNetworkRx = some read.counter ∧ read.id < world.issued
  active : ∀ active, world.container = some active → active.id < world.issued
  later
    : ∀ read active, world.origin = some read → world.container = some active
      → read.id = active.id → Later read active

theorem sound_fresh (state : DeploymentState) : Sound (fresh state) := ⟨nofun, nofun, nofun⟩

variable {world before after : World} {event : Event}

theorem Sound.of_same {next : World} (sound : Sound world) (origin : next.origin = world.origin)
    (stored : next.lastNetworkRx = world.lastNetworkRx)
    (container : next.container = world.container) (issued : next.issued = world.issued)
    (measured : world.measured ⊆ next.measured)
    : Sound next where
  origin read known := by
    rw [origin] at known
    obtain ⟨member, same, old⟩ := sound.origin read known
    exact ⟨measured member, stored.trans same, issued ▸ old⟩
  active active now := issued ▸ sound.active active (container ▸ now)
  later read active known now :=
    sound.later read active (origin ▸ known) (container ▸ now)

theorem Sound.of_container {change : Container → Container} (sound : Sound world)
    (same : ∀ active, (change active).id = active.id)
    (later : ∀ read active, Later read active → Later read (change active))
    : Sound { world with container := world.container.map change } where
  origin := sound.origin
  active active now := by
    obtain ⟨old, known, rfl⟩ := Option.map_eq_some_iff.mp now
    exact (same old).symm ▸ sound.active old known
  later read active known now sameId := by
    obtain ⟨old, was, rfl⟩ := Option.map_eq_some_iff.mp now
    exact later read old (sound.later read old known was (sameId.trans (same old)))

theorem measuredContainer_some {container : Option Container} {reading : Reading}
    {read : Container} (measured : measuredContainer container reading = some read)
    : reading = .stats ∧ container = some read := by
  cases reading with
  | stats => exact ⟨rfl, measured⟩
  | apiError => cases measured
  | other value => cases measured

theorem Sound.visited (sound : Sound world) (visit : Visit) : Sound (world.visited visit) := by
  unfold World.visited
  split
  · exact sound
  · rename_i reading _
    have more : world.measured ⊆
        (measuredContainer world.container reading).toList ++ world.measured :=
      List.subset_append_right _ _
    split
    · dsimp only
      split
      · split <;> exact sound.of_same rfl rfl rfl rfl more
      · split
        · refine ⟨fun read known => ?_, sound.active, fun read active known now _ => ?_⟩
          · obtain ⟨rfl, now⟩ := measuredContainer_some known
            refine ⟨List.mem_append_left _ ?_, ?_, sound.active read now⟩
            · simp [measuredContainer, now]
            · simp [rxBytes, now]
          · obtain ⟨rfl, was⟩ := measuredContainer_some known
            cases was.symm.trans now
            exact ⟨Nat.le_refl _, fun _ => rfl⟩
        · exact sound.of_same rfl rfl rfl rfl more
    · exact sound

theorem Sound.perform (sound : Sound world) (event : Event) : Sound (world.perform event) := by
  cases event with
  | visit visit => exact sound.visited visit
  | receive bytes =>
      refine sound.of_container (fun _ => rfl)
        fun read active later => ⟨later.starts, fun same => ?_⟩
      have grown := later.grown same
      dsimp only
      omega
  | restart =>
      refine sound.of_container (fun _ => rfl) fun read active later => ⟨?_, fun same => ?_⟩
      · exact later.starts.trans (Nat.le_succ _)
      · have starts := later.starts
        dsimp only at same
        omega
  | replace present =>
      refine ⟨fun read known => ?_, fun active now => ?_, fun read active known now same => ?_⟩
      · obtain ⟨member, stored, old⟩ := sound.origin read known
        exact ⟨member, stored, Nat.lt_succ_of_lt old⟩
      · cases present <;> cases now
        exact Nat.lt_succ_self _
      · cases present <;> cases now
        exact absurd same (Nat.ne_of_lt (sound.origin read known).2.2)
  | change state => exact sound.of_same rfl rfl rfl rfl (List.Subset.refl _)

/-- A counter that has not grown since a measurement tells that nothing was received. -/
theorem Sound.lawful (sound : Sound before) (taken : Step before event after)
    (careful : Careful before event)
    : Lawful before event after := by
  subst taken
  cases event with
  | visit visit =>
      cases asked : visit.reading with
      | none => exact .inl (by simp [World.perform, World.visited, asked])
      | some reading =>
          by_cases idle : (visit.found ∧ visit.onNode)
              ∧ takenForIdle before reading = true ∧ visit.commits = true
          · obtain ⟨listed, same, commits⟩ := idle
            cases stopped : visit.stop with
            | raises =>
                exact .inl (by simp [World.perform, World.visited, asked, listed, same, stopped])
            | answers status =>
                obtain ⟨rfl, rfl, active, read, now, origin, own, starts⟩ :=
                  careful reading status listed.1 listed.2 asked same stopped commits
                obtain ⟨member, stored, _⟩ := sound.origin read origin
                have grown := (sound.later read active origin now own).grown starts
                have equal : active.counter = read.counter := by
                  have both : (active.counter : Int) = read.counter := by
                    simpa [takenForIdle, rxBytes, now, stored] using same
                  exact Int.ofNat.inj both
                refine .inr ⟨?_, stopped, asked, active, read, now, member, own, by omega⟩
                simp [World.perform, World.visited, asked, listed, same, stopped, commits]
          · refine .inl ?_
            simp only [World.perform, World.visited, asked]
            split
            · rename_i listed
              split
              · rename_i same
                split
                · simp [show visit.commits = false by
                    simpa using fun commits => idle ⟨listed, same, commits⟩]
                · rfl
              · split <;> rfl
            · rfl
  | _ => trivial

/-- In a careful run every cycle suspends only what is idle and stopped. -/
theorem careful_cycles_suspend_idle (state : DeploymentState) {events : List Event}
    (run : Run (fun before event after => Step before event after ∧ Careful before event)
      (fresh state) events after)
    : Run (fun before event after => Step before event after ∧ Lawful before event after)
        (fresh state) events after := by
  have whole : Run (fun before event after => Step before event after ∧ Lawful before event after)
      (fresh state) events after ∧ Sound after := by
    induction run with
    | done => exact ⟨.done, sound_fresh state⟩
    | next _ taken ih =>
        obtain ⟨earlier, sound⟩ := ih
        exact ⟨earlier.next ⟨taken.1, sound.lawful taken.1 taken.2⟩,
          taken.1 ▸ sound.perform _⟩
  exact whole.1

def served : World := ((fresh .running).perform (.replace true)).perform (.receive 5)

/-- A deployment without traffic between two cycles is suspended. -/
theorem idle_deployment_suspended
    : Run (fun before event after => Step before event after ∧ Lawful before event after)
        (fresh .running)
        [.replace true, .receive 5, .visit { reading := some .stats },
          .visit { reading := some .stats, stop := .answers 200 }]
        ((served.visited { reading := some .stats }).visited
          { reading := some .stats, stop := .answers 200 }) := by
  have received : Run (fun before event after => Step before event after ∧ Careful before event)
      (fresh .running) [.replace true, .receive 5] served :=
    (Run.single ⟨rfl, trivial⟩).next ⟨rfl, trivial⟩
  have first : Careful served (.visit { reading := some .stats }) := by
    intro _ _ _ _ _ idle
    simp [takenForIdle, served, World.perform, fresh] at idle
  have measured := received.next ⟨rfl, first⟩
  refine careful_cycles_suspend_idle .running (measured.next ⟨rfl, ?_⟩)
  intro reading status _ _ asked _ stopped _
  cases asked
  cases stopped
  exact ⟨rfl, rfl, _, _, rfl, rfl, rfl, rfl⟩

/-- Two errors of Docker suspend a deployment that is served all the time. -/
theorem errors_suspend_served_deployment
    : ¬ ∀ (state : DeploymentState) (events : List Event) (before after : World) (event : Event),
        Run Step (fresh state) events before → Step before event after
        → Lawful before event after := by
  intro lawful
  have run : Run Step (fresh .running)
      [.replace true, .visit { reading := some .apiError }, .receive 5] _ :=
    .next (.next (.next .done rfl) rfl) rfl
  rcases lawful .running _ _ _ (.visit { reading := some .apiError, stop := .answers 200 }) run rfl
    with same | ⟨_, _, measured, _⟩
  · cases same
  · cases measured

end Blockhost.DeploymentSleeper
