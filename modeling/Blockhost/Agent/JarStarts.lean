import Blockhost.Agent.JavaJars

/-! Which jar a start hands to the runtime. A start that finds a finished jar of its own flavor
under the name of its version, or downloads it alone, hands over the release that it was asked
for.
-/

namespace Blockhost.JavaJars

open Library

variable {release : ServerFlavor → String → Bytes} {node before after : AgentNode}

/-- Whatever was handed to the runtime is the whole release of its flavor and version. -/
def OwnJars (release : ServerFlavor → String → Bytes) (node : AgentNode) : Prop :=
  ∀ handed ∈ node.handed, handed.executable = some (release handed.flavor handed.version)

/-- The start has found no jar and has not finished its download. -/
def StartRequest.downloads (start : StartRequest) : Bool :=
  match start.phase with
  | .missing | .writing .. => true
  | _ => false

/-- What the jars need from the starts. A start checks for its jar while no other start
downloads under that name, and finds nothing or the whole release of its flavor there; a stream
does not end early without an error; and no directory is cleaned up between another start's
link in it and that start's end.
-/
def Undisturbed (release : ServerFlavor → String → Bytes) (node : AgentNode) : Event → Prop
  | .check id =>
      ∀ start ∈ node.starts id,
        (∀ number, ∀ other ∈ node.starts number, other.downloads = true
          → other.version ≠ start.version)
        ∧ ∀ jar ∈ node.jar start.version, jar = release start.flavor start.version
  | .endStream id =>
      ∀ start ∈ node.starts id, ∀ file written rest, start.phase = .writing file written rest
        → rest = []
  | .clean id _ =>
      ∀ start ∈ node.starts id, ∀ number, ∀ other ∈ node.starts number,
        other.phase = .linked → other.serverId ≠ start.serverId
  | _ => True

def undisturbedStep (release : ServerFlavor → String → Bytes) (before : AgentNode)
    (event : Event) (after : AgentNode)
    : Prop :=
  before.step release event = some after ∧ Undisturbed release before event

-- The invariant

/-- A download has written the beginning of its release under the name of its version; a start
after it finds the whole release there, in the end through its link.
-/
def StartRequest.Sound (release : ServerFlavor → String → Bytes) (node : AgentNode)
    (start : StartRequest)
    : Prop :=
  match start.phase with
  | .asked | .missing => True
  | .writing file written rest =>
      node.jars start.version = some file ∧ written = (node.files file).length
      ∧ node.files file ++ rest = release start.flavor start.version
  | .ready | .cleaned =>
      node.jar start.version = some (release start.flavor start.version)
  | .linked =>
      node.jar start.version = some (release start.flavor start.version)
      ∧ node.links start.serverId start.version = true

/-- While one of two starts of a version downloads, the other has not checked yet. -/
def StartRequest.Apart (start other : StartRequest) : Prop :=
  start.version = other.version
  → (start.downloads = true → other.phase = .asked)
    ∧ (other.downloads = true → start.phase = .asked)

theorem StartRequest.Apart.symm {start other : StartRequest} (apart : start.Apart other)
    : other.Apart start :=
  fun same => (apart same.symm).symm

structure Sound (release : ServerFlavor → String → Bytes) (node : AgentNode) : Prop where
  named : ∀ version file, node.jars version = some file → file < node.next
  distinct
    : ∀ version other file, node.jars version = some file → node.jars other = some file
      → version = other
  starts : ∀ id, ∀ start ∈ node.starts id, start.Sound release node
  apart
    : ∀ id other, id ≠ other → ∀ start ∈ node.starts id, ∀ second ∈ node.starts other,
      start.Apart second
  handed : OwnJars release node

theorem Sound.setStart (sound : Sound release node) {id : Nat} {start : Option StartRequest}
    (own : ∀ given ∈ start, given.Sound release node)
    (apart : ∀ given ∈ start, ∀ other ≠ id, ∀ second ∈ node.starts other, given.Apart second)
    : Sound release (node.setStart id start) where
  named := sound.named
  distinct := sound.distinct
  starts other given found := by
    simp only [AgentNode.setStart, Function.update_apply] at found
    split at found
    · exact own given found
    · exact sound.starts other given found
  apart first second different given found other stored := by
    simp only [AgentNode.setStart, Function.update_apply] at found stored
    split at found <;> split at stored
    next here there => exact absurd (here.trans there.symm) different
    next _ away => exact apart given found second away other stored
    next away _ => exact (apart other stored first away given found).symm
    next => exact sound.apart first second different given found other stored
  handed := sound.handed

theorem Sound.advance (sound : Sound release node) {id : Nat} {start : StartRequest}
    (found : node.starts id = some start) {phase : Phase} (begun : start.phase ≠ .asked)
    (own : StartRequest.Sound release node { start with phase := phase })
    (fewer : StartRequest.downloads { start with phase := phase } = true
      → start.downloads = true)
    : Sound release (node.setStart id (some { start with phase := phase })) := by
  refine sound.setStart ?_ ?_
  · rintro given ⟨⟩
    exact own
  · rintro given ⟨⟩ other away second stored same
    have apart := sound.apart id other away.symm start found second stored same
    exact ⟨fun downloads => apart.1 (fewer downloads), fun downloads =>
      absurd (apart.2 downloads) begun⟩

theorem StartRequest.Sound.frame {start : StartRequest} (sound : start.Sound release before)
    (jars : after.jars start.version = before.jars start.version)
    (files : ∀ file, before.jars start.version = some file
      → after.files file = before.files file)
    (links : start.phase = .linked → before.links start.serverId start.version = true
      → after.links start.serverId start.version = true)
    : start.Sound release after := by
  have jar : after.jar start.version = before.jar start.version := by
    unfold AgentNode.jar
    rw [jars]
    cases named : before.jars start.version with
    | none => rfl
    | some file => simp [files file named]
  unfold StartRequest.Sound at sound ⊢
  cases phase : start.phase with
  | asked => trivial
  | missing => trivial
  | writing file written rest =>
      rw [phase] at sound
      obtain ⟨named, length, content⟩ := sound
      simp only [files file named]
      exact ⟨jars.trans named, length, content⟩
  | ready =>
      rw [phase] at sound
      exact jar.trans sound
  | cleaned =>
      rw [phase] at sound
      exact jar.trans sound
  | linked =>
      rw [phase] at sound
      exact ⟨jar.trans sound.1, links phase sound.2⟩

theorem Sound.disk (sound : Sound release before) {id : Nat} {start : StartRequest}
    (after : AgentNode) (found : before.starts id = some start)
    (downloads : start.downloads = true)
    (starts : after.starts = before.starts) (links : after.links = before.links)
    (handed : after.handed = before.handed)
    (named : ∀ version file, after.jars version = some file → file < after.next)
    (distinct : ∀ version other file, after.jars version = some file
      → after.jars other = some file → version = other)
    (frame : ∀ version, version ≠ start.version → after.jars version = before.jars version
      ∧ ∀ file, before.jars version = some file → after.files file = before.files file)
    {next : Option StartRequest}
    (own : ∀ given ∈ next, given.Sound release after ∧ given.version = start.version)
    : Sound release (after.setStart id next) := by
  have asked : ∀ other ≠ id, ∀ second ∈ before.starts other, second.version = start.version
      → second.phase = .asked :=
    fun other away second stored same =>
      (sound.apart other id away second stored start found same).2 downloads
  refine ⟨named, distinct, ?_, ?_, fun shown member => sound.handed shown (handed ▸ member)⟩
  · intro other given stored
    simp only [AgentNode.setStart, Function.update_apply, starts] at stored
    split at stored
    · exact (own given stored).1
    next away =>
      by_cases same : given.version = start.version
      · simp [StartRequest.Sound, asked other away given stored same]
      · obtain ⟨kept, content⟩ := frame given.version same
        refine (sound.starts other given stored).frame kept content fun _ linked => ?_
        simpa [AgentNode.setStart, links] using linked
  · have alone : ∀ given ∈ next, ∀ other ≠ id, ∀ second ∈ before.starts other,
        given.Apart second := by
      intro given chosen other away second stored same
      have unchecked := asked other away second stored (same.symm.trans (own given chosen).2)
      exact ⟨fun _ => unchecked, fun downloads => by
        simp [StartRequest.downloads, unchecked] at downloads⟩
    intro first second different given chosen other stored
    simp only [AgentNode.setStart, Function.update_apply, starts] at chosen stored
    split at chosen <;> split at stored
    next here there => exact absurd (here.trans there.symm) different
    next _ away => exact alone given chosen second away other stored
    next away _ => exact (alone other stored first away given chosen).symm
    next => exact sound.apart first second different given chosen other stored

-- One event

theorem sound_ask (sound : Sound release before) {id : Nat} {server : Server}
    (asked : before.ask id server = some after)
    : Sound release after := by
  unfold AgentNode.ask at asked
  split at asked
  · cases asked
    refine sound.setStart ?_ ?_
    · rintro given ⟨⟩
      trivial
    · rintro given ⟨⟩ other _ second stored same
      exact ⟨fun downloads => absurd downloads (by simp [StartRequest.downloads]), fun _ => rfl⟩
  · contradiction

theorem sound_check (sound : Sound release before) {id : Nat} {start : StartRequest}
    (undisturbed : Undisturbed release before (.check id))
    (found : before.starts id = some start) (checked : before.check id start = some after)
    : Sound release after := by
  obtain ⟨quiet, whole⟩ := undisturbed start found
  unfold AgentNode.check at checked
  split at checked
  next phase =>
    cases checked
    cases named : before.jars start.version with
    | none =>
        refine sound.setStart ?_ ?_
        · rintro given ⟨⟩
          trivial
        · rintro given ⟨⟩ other away second stored same
          have free := quiet other second stored
          have own := sound.starts other second stored
          have nothing : before.jar second.version = none := by
            simp [AgentNode.jar, ← same, named]
          refine ⟨fun _ => ?_, fun downloads => absurd same.symm (free downloads)⟩
          cases phase : second.phase with
          | asked => rfl
          | missing =>
              exact absurd same.symm (free (by simp [StartRequest.downloads, phase]))
          | writing =>
              exact absurd same.symm (free (by simp [StartRequest.downloads, phase]))
          | ready => simp [StartRequest.Sound, phase, nothing] at own
          | cleaned => simp [StartRequest.Sound, phase, nothing] at own
          | linked => simp [StartRequest.Sound, phase, nothing] at own
    | some file =>
        have jar : before.jar start.version = some (before.files file) := by
          simp [AgentNode.jar, named]
        refine sound.setStart ?_ ?_
        · rintro given ⟨⟩
          simp only [StartRequest.Sound, Option.isSome_some, if_true, jar, whole _ jar]
        · rintro given ⟨⟩ other away second stored same
          refine ⟨fun downloads => by simp [StartRequest.downloads] at downloads, ?_⟩
          intro downloads
          exact absurd same.symm (quiet other second stored downloads)
  next => contradiction

theorem sound_openFile (sound : Sound release before) {id : Nat} {start : StartRequest}
    (found : before.starts id = some start)
    (opened : before.openFile release id start = some after)
    : Sound release after := by
  unfold AgentNode.openFile at opened
  split at opened
  next phase =>
    cases opened
    have downloads : start.downloads = true := by simp [StartRequest.downloads, phase]
    cases named : before.jars start.version with
    | some file =>
        simp only [AgentNode.openJar, named]
        refine sound.disk (before.setFile file []) found downloads rfl rfl rfl sound.named
          sound.distinct ?_ ?_
        · refine fun version other => ⟨rfl, fun kept stored => ?_⟩
          have different : kept ≠ file := by
            rintro rfl
            exact other (sound.distinct version start.version kept stored named)
          simp [AgentNode.setFile, different]
        · rintro given ⟨⟩
          exact ⟨⟨named, by simp [AgentNode.setFile], by simp [AgentNode.setFile]⟩, rfl⟩
    | none =>
        simp only [AgentNode.openJar, named]
        refine sound.disk
          { (before.setFile before.next []).setJar start.version (some before.next) with
            next := before.next + 1 } found downloads rfl rfl rfl ?_ ?_ ?_ ?_
        · intro version file stored
          simp only [AgentNode.setJar, AgentNode.setFile, Function.update_apply] at stored ⊢
          split at stored
          · cases stored
            exact Nat.lt_succ_self _
          · exact Nat.lt_succ_of_lt (sound.named version file stored)
        · intro version other file stored second
          simp only [AgentNode.setJar, AgentNode.setFile, Function.update_apply] at stored second
          split at stored <;> split at second
          next same there => exact same.trans there.symm
          next =>
            cases stored
            exact absurd (sound.named other _ second) (Nat.lt_irrefl _)
          next =>
            cases second
            exact absurd (sound.named version _ stored) (Nat.lt_irrefl _)
          next => exact sound.distinct version other file stored second
        · refine fun version other => ⟨by simp [AgentNode.setJar, AgentNode.setFile, other], ?_⟩
          intro kept stored
          have different : kept ≠ before.next := (sound.named version kept stored).ne
          simp [AgentNode.setJar, AgentNode.setFile, different]
        · rintro given ⟨⟩
          refine ⟨⟨?_, ?_, ?_⟩, rfl⟩ <;> simp [AgentNode.setJar, AgentNode.setFile]
  next => contradiction

theorem writeAt_length (chunk content : Bytes)
    : writeAt content.length chunk content = content ++ chunk := by
  simp [writeAt]

theorem sound_receive (sound : Sound release before) {id size : Nat} {start : StartRequest}
    (found : before.starts id = some start)
    (received : before.receive id size start = some after)
    : Sound release after := by
  unfold AgentNode.receive at received
  split at received
  next file written rest phase =>
    cases received
    have own := sound.starts id start found
    simp only [StartRequest.Sound, phase] at own
    obtain ⟨named, rfl, whole⟩ := own
    refine sound.disk (before.setFile file _) found (by simp [StartRequest.downloads, phase]) rfl
      rfl rfl sound.named sound.distinct ?_ ?_
    · refine fun version other => ⟨rfl, fun kept stored => ?_⟩
      have different : kept ≠ file := by
        rintro rfl
        exact other (sound.distinct version start.version kept stored named)
      simp [AgentNode.setFile, different]
    · rintro given ⟨⟩
      refine ⟨⟨named, ?_, ?_⟩, rfl⟩
      · simp [AgentNode.setFile, writeAt_length]
      · simp [AgentNode.setFile, writeAt_length, whole]
  next => contradiction

theorem sound_endStream (sound : Sound release before) {id : Nat} {start : StartRequest}
    (undisturbed : Undisturbed release before (.endStream id))
    (found : before.starts id = some start) (ended : before.endStream id start = some after)
    : Sound release after := by
  unfold AgentNode.endStream at ended
  split at ended
  next file written rest phase =>
    cases ended
    have own := sound.starts id start found
    simp only [StartRequest.Sound, phase] at own
    obtain ⟨named, -, whole⟩ := own
    obtain rfl := undisturbed start found file written rest phase
    refine sound.advance found (by simp [phase]) ?_ (by simp [StartRequest.downloads])
    simpa [StartRequest.Sound, AgentNode.jar, named] using whole
  next => contradiction

theorem sound_failDownload (sound : Sound release before) {id : Nat} {start : StartRequest}
    (found : before.starts id = some start)
    (failed : before.failDownload id start = some after)
    : Sound release after := by
  have removed : start.downloads = true
      → Sound release ((before.setJar start.version none).setStart id none) := by
    intro downloads
    refine sound.disk (before.setJar start.version none) found downloads rfl rfl rfl ?_ ?_ ?_
      (by simp)
    · intro version file stored
      simp only [AgentNode.setJar, Function.update_apply] at stored
      split at stored
      · contradiction
      · exact sound.named version file stored
    · intro version other file stored second
      simp only [AgentNode.setJar, Function.update_apply] at stored second
      split at stored <;> split at second
      · contradiction
      · contradiction
      · contradiction
      · exact sound.distinct version other file stored second
    · exact fun version other => ⟨by simp [AgentNode.setJar, other], fun _ _ => rfl⟩
  unfold AgentNode.failDownload at failed
  split at failed
  next phase =>
    cases failed
    exact removed (by simp [StartRequest.downloads, phase])
  next phase =>
    cases failed
    exact removed (by simp [StartRequest.downloads, phase])
  next => contradiction

theorem Sound.setLinks (sound : Sound release before) {serverId : Uuid} {links : String → Bool}
    (kept : ∀ id, ∀ start ∈ before.starts id, start.phase = .linked → start.serverId = serverId
      → before.links serverId start.version = true → links start.version = true)
    : Sound release (before.setLinks serverId links) where
  named := sound.named
  distinct := sound.distinct
  starts id start found := by
    refine (sound.starts id start found).frame rfl (fun _ _ => rfl) fun phase linked => ?_
    simp only [AgentNode.setLinks, Function.update_apply]
    split
    next same => exact kept id start found phase same (same ▸ linked)
    next => exact linked
  apart := sound.apart
  handed := sound.handed

theorem sound_clean (sound : Sound release before) {id : Nat} {kept : List String}
    {start : StartRequest} (undisturbed : Undisturbed release before (.clean id kept))
    (found : before.starts id = some start) (cleaned : before.clean id kept start = some after)
    : Sound release after := by
  unfold AgentNode.clean at cleaned
  split at cleaned
  next phase =>
    cases cleaned
    have own := sound.starts id start found
    simp only [StartRequest.Sound, phase] at own
    refine (sound.setLinks ?_).advance found (by simp [phase]) own
      (by simp [StartRequest.downloads])
    exact fun number other stored linked same =>
      absurd same (undisturbed start found number other stored linked)
  next => contradiction

theorem sound_link (sound : Sound release before) {id : Nat} {start : StartRequest}
    (found : before.starts id = some start) (linked : before.link id start = some after)
    : Sound release after := by
  unfold AgentNode.link at linked
  split at linked
  next phase =>
    have own := sound.starts id start found
    simp only [StartRequest.Sound, phase] at own
    split at linked
    next leads =>
      cases linked
      refine sound.advance found (by simp [phase]) ⟨own, ?_⟩ (by simp [StartRequest.downloads])
      unfold AgentNode.executable at leads
      split at leads
      · assumption
      · contradiction
    next =>
      split at linked
      · cases linked
        exact sound.setStart (by simp) (by simp)
      · cases linked
        refine (sound.setLinks ?_).advance found (by simp [phase]) ⟨own, ?_⟩
          (by simp [StartRequest.downloads])
        · intro number other stored _ _ already
          simp only [Function.update_apply]
          split
          · rfl
          · exact already
        · simp [AgentNode.setLinks]
  next => contradiction

theorem sound_hand (sound : Sound release before) {id : Nat} {start : StartRequest}
    (found : before.starts id = some start) (given : before.hand id start = some after)
    : Sound release after := by
  unfold AgentNode.hand at given
  split at given
  next phase =>
    cases given
    have own := sound.starts id start found
    simp only [StartRequest.Sound, phase] at own
    have ended : Sound release (before.setStart id none) := sound.setStart (by simp) (by simp)
    refine ⟨ended.named, ended.distinct, ended.starts, ended.apart, fun handed member => ?_⟩
    rcases List.mem_append.mp member with old | new
    · exact sound.handed handed old
    · obtain rfl := List.mem_singleton.mp new
      simp [AgentNode.executable, own]
  next => contradiction

theorem sound_raise (sound : Sound release before) {id : Nat} {start : StartRequest}
    (raised : before.raise id start = some after)
    : Sound release after := by
  unfold AgentNode.raise at raised
  split at raised
  · contradiction
  · contradiction
  · cases raised
    exact sound.setStart (by simp) (by simp)

theorem sound_step {event : Event} (taken : undisturbedStep release before event after)
    (sound : Sound release before)
    : Sound release after := by
  obtain ⟨performed, undisturbed⟩ := taken
  cases event with
  | ask id server => exact sound_ask sound performed
  | check id =>
      obtain ⟨start, found, checked⟩ := Option.bind_eq_some_iff.mp performed
      exact sound_check sound undisturbed found checked
  | openFile id =>
      obtain ⟨start, found, opened⟩ := Option.bind_eq_some_iff.mp performed
      exact sound_openFile sound found opened
  | receive id size =>
      obtain ⟨start, found, received⟩ := Option.bind_eq_some_iff.mp performed
      exact sound_receive sound found received
  | endStream id =>
      obtain ⟨start, found, ended⟩ := Option.bind_eq_some_iff.mp performed
      exact sound_endStream sound undisturbed found ended
  | failDownload id =>
      obtain ⟨start, found, failed⟩ := Option.bind_eq_some_iff.mp performed
      exact sound_failDownload sound found failed
  | clean id kept =>
      obtain ⟨start, found, cleaned⟩ := Option.bind_eq_some_iff.mp performed
      exact sound_clean sound undisturbed found cleaned
  | link id =>
      obtain ⟨start, found, linked⟩ := Option.bind_eq_some_iff.mp performed
      exact sound_link sound found linked
  | hand id =>
      obtain ⟨start, found, handed⟩ := Option.bind_eq_some_iff.mp performed
      exact sound_hand sound found handed
  | raise id =>
      obtain ⟨start, found, raised⟩ := Option.bind_eq_some_iff.mp performed
      exact sound_raise sound raised
  | crash =>
      cases performed
      exact ⟨sound.named, sound.distinct, by simp, by simp, sound.handed⟩

theorem sound_new : Sound release {} where
  named := by simp
  distinct := by simp
  starts := by simp
  apart := by simp
  handed := by simp [OwnJars]

/-- In a run of undisturbed events every jar handed to a runtime is the whole release that the
start was asked for, by induction on the run.
-/
theorem undisturbed_starts_hand_own_jars {events : List Event}
    (run : Run (undisturbedStep release) {} events node)
    : OwnJars release node := by
  have kept := run.invariant (Sound release) (fun _ => True) (fun _ => sound_step)
    (fun _ _ => trivial) sound_new
  exact kept.handed

-- Two servers of one version

def javaServer (id : Uuid) (flavor : ServerFlavor) : Server where
  id := id
  nodeId := some 1
  ownerId := 1
  worldName := "world"
  flavor := flavor
  mcVersion := some "1.21.4"
  lastActivity := 0

def sampleRelease : ServerFlavor → String → Bytes
  | .paper, _ => [80, 75]
  | _, _ => [80]

theorem undisturbed_check (id : Nat) (alone : ∀ number ≠ id, node.starts number = none)
    (own : ∀ start ∈ node.starts id, start.downloads = false
      ∧ ∀ jar ∈ node.jar start.version, jar = release start.flavor start.version)
    : Undisturbed release node (.check id) := by
  refine fun start found => ⟨fun number other stored downloads => ?_, (own start found).2⟩
  by_cases same : number = id
  · subst same
    exact absurd downloads (by simp [(own other stored).1])
  · simp [alone number same] at stored

theorem undisturbed_clean (id : Nat) (kept : List String)
    (alone : ∀ number ≠ id, node.starts number = none)
    (own : ∀ start ∈ node.starts id, start.phase ≠ .linked)
    : Undisturbed release node (.clean id kept) := by
  intro start found number other stored linked
  by_cases same : number = id
  · subst same
    exact absurd linked (own other stored)
  · simp [alone number same] at stored

/-- Two servers of one flavor and version, the second one after the download of the first. -/
theorem paper_servers_get_paper_jar
    : ∃ events node, Run (undisturbedStep sampleRelease) {} events node
      ∧ node.handed.length = 2 ∧ OwnJars sampleRelease node := by
  let first := javaServer 7 .paper
  let second := javaServer 8 .paper
  have asked : Run (undisturbedStep sampleRelease) {} [.ask 0 first] _ :=
    .of_foldlM_allowed _ (by simp [Undisturbed]) rfl
  have missed : Run (undisturbedStep sampleRelease) {} [.ask 0 first, .check 0] _ :=
    asked.next ⟨rfl, undisturbed_check 0 (by rintro (_ | _) _ <;> trivial)
      (by rintro start ⟨⟩; exact ⟨rfl, nofun⟩)⟩
  have written := missed.append
    (.of_foldlM_allowed [.openFile 0, .receive 0 1, .receive 0 1] (by simp [Undisturbed]) rfl)
  have downloaded : Run (undisturbedStep sampleRelease) {}
      [.ask 0 first, .check 0, .openFile 0, .receive 0 1, .receive 0 1, .endStream 0] _ :=
    written.next ⟨rfl, by rintro start ⟨⟩ file written rest ⟨⟩; rfl⟩
  have cleaned : Run (undisturbedStep sampleRelease) {}
      [.ask 0 first, .check 0, .openFile 0, .receive 0 1, .receive 0 1, .endStream 0,
        .clean 0 []] _ :=
    downloaded.next ⟨rfl, undisturbed_clean 0 [] (by rintro (_ | _) _ <;> trivial)
      (by rintro start ⟨⟩; nofun)⟩
  have handed := cleaned.append
    (.of_foldlM_allowed [.link 0, .hand 0, .ask 1 second] (by simp [Undisturbed]) rfl)
  have found : Run (undisturbedStep sampleRelease) {}
      [.ask 0 first, .check 0, .openFile 0, .receive 0 1, .receive 0 1, .endStream 0,
        .clean 0 [], .link 0, .hand 0, .ask 1 second, .check 1] _ :=
    handed.next ⟨rfl, undisturbed_check 1 (by rintro (_ | _ | _) _ <;> trivial)
      (by rintro start ⟨⟩; exact ⟨rfl, by rintro jar ⟨⟩; rfl⟩)⟩
  have again : Run (undisturbedStep sampleRelease) {}
      [.ask 0 first, .check 0, .openFile 0, .receive 0 1, .receive 0 1, .endStream 0,
        .clean 0 [], .link 0, .hand 0, .ask 1 second, .check 1, .clean 1 []] _ :=
    found.next ⟨rfl, undisturbed_clean 1 [] (by rintro (_ | _ | _) _ <;> trivial)
      (by rintro start ⟨⟩; nofun)⟩
  have last := again.append (.of_foldlM_allowed [.link 1, .hand 1] (by simp [Undisturbed]) rfl)
  exact ⟨_, _, last, rfl, undisturbed_starts_hand_own_jars last⟩

/-- A start after one of the other flavor hands over the other jar. -/
theorem purpur_server_gets_paper_jar
    : ∃ events node,
      Run (fun before event after => before.step sampleRelease event = some after)
        ({} : AgentNode) events node
      ∧ ¬ OwnJars sampleRelease node := by
  let events : List Event :=
    [.ask 0 (javaServer 7 .paper), .check 0, .openFile 0, .receive 0 1, .receive 0 1,
      .endStream 0, .clean 0 [], .link 0, .hand 0,
      .ask 1 (javaServer 8 .purpur), .check 1, .clean 1 [], .link 1, .hand 1]
  let last := events.foldlM (AgentNode.step sampleRelease) {}
  have handed
      : last.map AgentNode.handed
        = some [⟨.paper, "1.21.4", some [80, 75]⟩, ⟨.purpur, "1.21.4", some [80, 75]⟩] := by
    decide +kernel
  obtain ⟨node, performed, handed⟩ := Option.map_eq_some_iff.mp handed
  refine ⟨events, node, .of_foldlM events (fun _ _ _ _ taken => taken) performed, fun own => ?_⟩
  have other := own ⟨.purpur, "1.21.4", some [80, 75]⟩ (by simp [handed])
  exact absurd other (by decide)

end Blockhost.JavaJars
