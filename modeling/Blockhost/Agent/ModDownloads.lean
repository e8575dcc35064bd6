import Blockhost.Agent.ServerFiles

/-! The downloads of mods into the folders of a server, with every content that a jar takes in
between. A transfer is cut where the network cuts it and ends in the ways that the handler tells
apart.
-/

namespace Blockhost.ModDownloads

variable {Byte : Type}

abbrev JarPath := String × String

abbrev Jars (Byte : Type) := JarPath → Option (List Byte)

/-- A piece of a body; `aiter_bytes` yields no empty one. -/
abbrev Chunk (Byte : Type) := { bytes : List Byte // bytes ≠ [] }

def joined (chunks : List (Chunk Byte)) : List Byte := chunks.flatMap Subtype.val

/-- The end of a transfer whose file is open. -/
inductive Ending where
  | complete
  | networkError (text : String)
  /-- A cancellation, an error of the disk or the end of the process. -/
  | stopped
deriving DecidableEq, Repr

/-- What happens to a download. -/
inductive Transfer (Byte : Type) where
  /-- It ends before the file is opened and before the network is asked, or `open` fails. -/
  | notStarted (error : Option HttpError)
  | refused (status : Nat)
  | unreachable (text : String)
  | streams (chunks : List (Chunk Byte)) (ending : Ending)

/-- The pieces of a transfer are the first ones of the file, and all of it when it completes. -/
def Transfer.Delivers (complete : List Byte) : Transfer Byte → Prop
  | .streams chunks .complete => joined chunks = complete
  | .streams chunks _ => joined chunks <+: complete
  | _ => True

/-- A requested file, with the complete file that its address has. -/
structure ModTransfer (Byte : Type) where
  url : String
  filename : String
  subdir : String
  complete : List Byte
  transfer : Transfer Byte
  delivers : transfer.Delivers complete

def ModTransfer.path (file : ModTransfer Byte) : JarPath := (file.subdir, file.filename)

def ModTransfer.error (file : ModTransfer Byte) : Option HttpError :=
  (modUrlError file.url <|> modFilenameError file.filename) <|> modSubdirError file.subdir

inductive Outcome where
  | saved
  | failed (error : HttpError)
  | stopped
deriving DecidableEq, Repr

/-- The contents that a file takes one after another, and how its download ends. -/
abbrev Moments (Byte : Type) := List (Option (List Byte)) × Outcome

def tooLarge (limit : Nat) (filename : String) : HttpError :=
  ⟨413, "Mod " ++ pyRepr filename ++ " exceeds size limit ("
    ++ toString (limit / (1024 * 1024)) ++ " MB)"⟩

def networkFailure (filename text : String) : HttpError :=
  ⟨502, "Network error downloading " ++ pyRepr filename ++ ": " ++ text⟩

/-- Write the chunks behind what is written; a file that grows too large or whose transfer fails is
removed.
-/
def writeChunks (limit : Nat) (filename : String) (ending : Ending)
    : List Byte → List (Chunk Byte) → Moments Byte
  | _, [] =>
      match ending with
      | .complete => ([], .saved)
      | .networkError text => ([none], .failed (networkFailure filename text))
      | .stopped => ([], .stopped)
  | written, chunk :: rest =>
      if limit < (written ++ chunk.val).length then ([none], .failed (tooLarge limit filename))
      else
        let later := writeChunks limit filename ending (written ++ chunk.val) rest
        (some (written ++ chunk.val) :: later.1, later.2)

/-- One download; the file is opened for writing in place. -/
def download (limit : Nat) (file : ModTransfer Byte) : Moments Byte :=
  match file.transfer with
  | .notStarted none => ([], .stopped)
  | .notStarted (some error) => ([], .failed error)
  | .refused status =>
      ([none],
        .failed ⟨502, "CDN returned " ++ toString status ++ " for " ++ pyRepr file.filename⟩)
  | .unreachable text => ([none], .failed (networkFailure file.filename text))
  | .streams chunks ending =>
      let written := writeChunks limit file.filename ending [] chunks
      (some [] :: written.1, written.2)

def jarsDuring (limit : Nat) (file : ModTransfer Byte) (jars : Jars Byte) : List (Jars Byte) :=
  (download limit file).1.map (Function.update jars file.path)

def jarsAfter (limit : Nat) (file : ModTransfer Byte) (jars : Jars Byte) : Jars Byte :=
  (jarsDuring limit file jars).getLastD jars

abbrev Attempt (Byte : Type) := Jars Byte × ModTransfer Byte

/-- The loop of `agent_download_mods`; a download that is not saved is the last one. Nothing is
answered when the process stops.
-/
def downloadAll (limit : Nat)
    : Nat → List (ModTransfer Byte) → Jars Byte
      → List (Attempt Byte) × Option (Except HttpError Nat)
  | downloaded, [], _ => ([], some (.ok downloaded))
  | downloaded, file :: rest, jars =>
      match (download limit file).2 with
      | .failed error => ([(jars, file)], some (.error error))
      | .stopped => ([(jars, file)], none)
      | .saved =>
          let later := downloadAll limit (downloaded + 1) rest (jarsAfter limit file jars)
          ((jars, file) :: later.1, later.2)

/-- `agent_download_mods`, with the downloads that it attempts; every file of the request is
checked before the first one.
-/
def agentDownloadMods (limit : Nat) (serverId : String) (files : List (ModTransfer Byte))
    (jars : Jars Byte)
    : List (Attempt Byte) × Option (Except HttpError Nat) :=
  if !validateServerId serverId then ([], some (.error ⟨400, "Invalid server ID format"⟩))
  else
    match files.findSome? ModTransfer.error with
    | some error => ([], some (.error error))
    | none => downloadAll limit 0 files jars

-- Atomic downloads

/-- At every moment of a download every jar is absent, what it was before or the complete new file,
and a download that is not saved leaves what was there.
-/
structure Atomic (limit : Nat) (attempt : Attempt Byte) : Prop where
  whole
    : ∀ jars ∈ jarsDuring limit attempt.2 attempt.1, ∀ path,
      jars path = none ∨ jars path = attempt.1 path
        ∨ path = attempt.2.path ∧ jars path = some attempt.2.complete
  kept
    : (download limit attempt.2).2 ≠ .saved
      → jarsAfter limit attempt.2 attempt.1 attempt.2.path = attempt.1 attempt.2.path

/-- A download that is refused, not reached or broken off finds no jar that it would remove, and
one that opens its file has nothing to write, or one piece for a file that was empty.
-/
def Harmless (limit : Nat) (attempt : Attempt Byte) : Prop :=
  let stored := attempt.1 attempt.2.path
  match attempt.2.transfer with
  | .notStarted _ => True
  | .refused _ | .unreachable _ => stored = none
  | .streams chunks .complete =>
      chunks = [] ∨ stored = some [] ∧ chunks.length = 1 ∧ attempt.2.complete.length ≤ limit
  | .streams _ (.networkError _) => stored = none ∧ attempt.2.complete = []
  | .streams chunks .stopped => stored = some [] ∧ chunks = []

variable {limit : Nat} {attempt : Attempt Byte}

theorem getLastD_map_update (contents : List (Option (List Byte))) (jars : Jars Byte)
    (path : JarPath)
    : (contents.map (Function.update jars path)).getLastD jars path
      = contents.getLastD (jars path) := by
  rw [List.getLastD_eq_getLast?, List.getLast?_map, List.getLastD_eq_getLast?]
  cases contents.getLast? with
  | none => rfl
  | some content => exact Function.update_self ..

theorem atomic_iff
    : Atomic limit attempt
      ↔ (∀ content ∈ (download limit attempt.2).1,
          content = none ∨ content = attempt.1 attempt.2.path
            ∨ content = some attempt.2.complete)
        ∧ ((download limit attempt.2).2 ≠ .saved
          → (download limit attempt.2).1.getLastD (attempt.1 attempt.2.path)
            = attempt.1 attempt.2.path) := by
  have last := getLastD_map_update (download limit attempt.2).1 attempt.1 attempt.2.path
  constructor
  · rintro ⟨whole, kept⟩
    refine ⟨fun content taken => ?_, fun unsaved => last.symm.trans (kept unsaved)⟩
    have here := whole _ (List.mem_map_of_mem taken) attempt.2.path
    rw [Function.update_self] at here
    exact here.imp_right (Or.imp_right And.right)
  · rintro ⟨whole, kept⟩
    refine ⟨fun jars during path => ?_, fun unsaved => last.trans (kept unsaved)⟩
    obtain ⟨content, taken, rfl⟩ := List.mem_map.mp during
    by_cases same : path = attempt.2.path
    · subst same
      rw [Function.update_self]
      exact (whole content taken).imp_right (Or.imp_right (And.intro rfl))
    · exact .inr (.inl (Function.update_of_ne same ..))

/-- A transfer that breaks off removes its file, by induction on the chunks. -/
theorem writeChunks_broken (limit : Nat) (filename text : String) (written : List Byte)
    (chunks : List (Chunk Byte)) (before : Option (List Byte))
    : (writeChunks limit filename (.networkError text) written chunks).1.getLastD before = none
      ∧ (writeChunks limit filename (.networkError text) written chunks).2 ≠ .saved := by
  induction chunks generalizing written before with
  | nil => exact ⟨rfl, nofun⟩
  | cons chunk rest ih =>
      rw [writeChunks]
      split
      · exact ⟨rfl, nofun⟩
      · have later := ih (written ++ chunk.val) (some (written ++ chunk.val))
        exact ⟨by rw [List.getLastD_cons]; exact later.1, later.2⟩

theorem joined_cons_ne_nil (first : Chunk Byte) (rest : List (Chunk Byte))
    : joined (first :: rest) ≠ [] := by
  intro empty
  exact first.2 (List.append_eq_nil_iff.mp empty).1

theorem joined_eq_nil {chunks : List (Chunk Byte)} (empty : joined chunks = []) : chunks = [] := by
  cases chunks with
  | nil => rfl
  | cons first rest => exact absurd empty (joined_cons_ne_nil first rest)

/-- What a download does to its own jar. -/
def AtomicFor (stored : Option (List Byte)) (complete : List Byte) (moments : Moments Byte)
    : Prop :=
  (∀ content ∈ moments.1, content = none ∨ content = stored ∨ content = some complete)
  ∧ (moments.2 ≠ .saved → moments.1.getLastD stored = stored)

theorem removed_atomic_iff {stored : Option (List Byte)} {complete : List Byte} {error : HttpError}
    : AtomicFor stored complete ([none], .failed error) ↔ stored = none := by
  constructor
  · intro atomic
    exact (atomic.2 nofun).symm
  · rintro rfl
    exact ⟨fun content taken => .inl (List.mem_singleton.mp taken), fun _ => rfl⟩

variable {stored : Option (List Byte)} {complete : List Byte} {filename : String}

theorem AtomicFor.opened {contents : List (Option (List Byte))} {outcome : Outcome}
    (atomic : AtomicFor stored complete (some [] :: contents, outcome))
    : stored = some [] ∨ complete = [] := by
  rcases atomic.1 (some []) List.mem_cons_self with absent | same | whole
  · cases absent
  · exact .inl same.symm
  · exact .inr (Option.some.inj whole).symm

theorem AtomicFor.single {ending : Ending} {first : Chunk Byte} {rest : List (Chunk Byte)}
    (atomic
      : AtomicFor stored complete
          (some [] :: (writeChunks limit filename ending [] (first :: rest)).1,
            (writeChunks limit filename ending [] (first :: rest)).2))
    (delivers : joined (first :: rest) <+: complete)
    : stored = some [] ∧ rest = [] ∧ first.val = complete ∧ first.val.length ≤ limit := by
  have grows : complete ≠ [] := by
    rintro rfl
    exact joined_cons_ne_nil first rest (List.prefix_nil.mp delivers)
  have empty := atomic.opened.resolve_right grows
  subst empty
  rw [writeChunks, List.nil_append] at atomic
  by_cases large : limit < first.val.length
  · rw [if_pos large] at atomic
    cases atomic.2 nofun
  · rw [if_neg large] at atomic
    have whole : first.val = complete := by
      rcases atomic.1 (some first.val) (.tail _ List.mem_cons_self) with absent | same | whole
      · cases absent
      · exact absurd (Option.some.inj same) first.2
      · exact Option.some.inj whole
    refine ⟨rfl, joined_eq_nil ?_, whole, Nat.le_of_not_lt large⟩
    have length := delivers.length_le
    rw [← whole, joined, List.flatMap_cons, List.length_append] at length
    exact List.length_eq_zero_iff.mp (by rw [joined]; omega)

theorem completed_atomic_iff {chunks : List (Chunk Byte)} (delivers : joined chunks = complete)
    : AtomicFor stored complete
        (some [] :: (writeChunks limit filename .complete [] chunks).1,
          (writeChunks limit filename .complete [] chunks).2)
      ↔ chunks = [] ∨ stored = some [] ∧ chunks.length = 1 ∧ complete.length ≤ limit := by
  cases chunks with
  | nil =>
      refine iff_of_true ⟨fun content taken => ?_, fun unsaved => absurd rfl unsaved⟩ (.inl rfl)
      rw [List.mem_singleton.mp taken, ← delivers]
      exact .inr (.inr rfl)
  | cons first rest =>
      constructor
      · intro atomic
        obtain ⟨empty, rfl, whole, small⟩ := atomic.single ⟨[], by rw [delivers, List.append_nil]⟩
        exact .inr ⟨empty, rfl, by rwa [← whole]⟩
      · rintro (none | ⟨rfl, single, small⟩)
        · cases none
        · obtain rfl := List.length_eq_zero_iff.mp (Nat.succ.inj single)
          have whole : first.val = complete := by rw [← delivers, joined, List.flatMap_singleton]
          rw [← whole] at small ⊢
          have fits : ¬limit < ([] ++ first.val).length := Nat.not_lt.mpr small
          rw [writeChunks, if_neg fits]
          refine ⟨fun content taken => ?_, fun unsaved => absurd rfl unsaved⟩
          rcases List.mem_pair.mp taken with rfl | rfl
          · exact .inr (.inl rfl)
          · exact .inr (.inr rfl)

theorem broken_atomic_iff {chunks : List (Chunk Byte)} {text : String}
    (delivers : joined chunks <+: complete)
    : AtomicFor stored complete
        (some [] :: (writeChunks limit filename (.networkError text) [] chunks).1,
          (writeChunks limit filename (.networkError text) [] chunks).2)
      ↔ stored = none ∧ complete = [] := by
  constructor
  · intro atomic
    obtain ⟨removed, unsaved⟩ := writeChunks_broken limit filename text [] chunks (some [])
    have kept := atomic.2 unsaved
    rw [List.getLastD_cons, removed] at kept
    subst kept
    exact ⟨rfl, atomic.opened.resolve_left nofun⟩
  · rintro ⟨rfl, rfl⟩
    obtain rfl := joined_eq_nil (List.prefix_nil.mp delivers)
    refine ⟨fun content taken => ?_, fun _ => rfl⟩
    rcases List.mem_pair.mp taken with rfl | rfl
    · exact .inr (.inr rfl)
    · exact .inl rfl

theorem stopped_atomic_iff {chunks : List (Chunk Byte)} (delivers : joined chunks <+: complete)
    : AtomicFor stored complete
        (some [] :: (writeChunks limit filename .stopped [] chunks).1,
          (writeChunks limit filename .stopped [] chunks).2)
      ↔ stored = some [] ∧ chunks = [] := by
  cases chunks with
  | nil =>
      constructor
      · intro atomic
        exact ⟨(atomic.2 nofun).symm, rfl⟩
      · rintro ⟨rfl, _⟩
        exact ⟨fun content taken => .inr (.inl (List.mem_singleton.mp taken)), fun _ => rfl⟩
  | cons first rest =>
      refine iff_of_false (fun atomic => ?_) nofun
      obtain ⟨rfl, rfl, _, small⟩ := atomic.single delivers
      have fits : ¬limit < ([] ++ first.val).length := Nat.not_lt.mpr small
      have kept := atomic.2
      rw [writeChunks, if_neg fits] at kept
      exact first.2 (Option.some.inj (kept nofun))

theorem attempt_atomic_iff : Atomic limit attempt ↔ Harmless limit attempt := by
  rw [atomic_iff]
  obtain ⟨jars, url, filename, subdir, complete, transfer, delivers⟩ := attempt
  cases transfer with
  | notStarted error =>
      cases error <;> exact iff_of_true ⟨nofun, fun _ => rfl⟩ trivial
  | refused status => exact removed_atomic_iff
  | unreachable text => exact removed_atomic_iff
  | streams chunks ending =>
      cases ending with
      | complete => exact completed_atomic_iff delivers
      | networkError text => exact broken_atomic_iff delivers
      | stopped => exact stopped_atomic_iff delivers

/-- Every download of a request is atomic exactly when every one is harmless for the jars that it
finds.
-/
theorem request_atomic_iff (limit : Nat) (serverId : String) (files : List (ModTransfer Byte))
    (jars : Jars Byte)
    : (∀ attempt ∈ (agentDownloadMods limit serverId files jars).1, Atomic limit attempt)
      ↔ ∀ attempt ∈ (agentDownloadMods limit serverId files jars).1, Harmless limit attempt :=
  forall₂_congr fun _ _ => attempt_atomic_iff

def newerMod : ModTransfer Nat where
  url := "https://cdn.modrinth.com/data/gvQqBUqZ/lithium.jar"
  filename := "lithium.jar"
  subdir := "mods"
  complete := [2]
  transfer := .refused 503
  delivers := trivial

/-- The refused download removes the installed version of the mod. -/
theorem refused_update_removes_mod
    : ¬ ∀ (limit : Nat) (serverId : String) (files : List (ModTransfer Nat)) (jars : Jars Nat),
        ∀ attempt ∈ (agentDownloadMods limit serverId files jars).1, Atomic limit attempt := by
  intro atomic
  let installed : Jars Nat := fun _ => some [1]
  let serverId := "12345678123456781234567812345678"
  have checked : (validateServerId serverId, newerMod.error) = (true, none) := by decide +kernel
  obtain ⟨valid, allowed⟩ := Prod.mk.inj checked
  have attempted
      : (agentDownloadMods 1 serverId [newerMod] installed).1 = [(installed, newerMod)] := by
    rw [agentDownloadMods, valid]
    simp only [List.findSome?_cons, allowed, List.findSome?_nil]
    rfl
  have kept := (atomic 1 serverId [newerMod] installed (installed, newerMod)
    (by rw [attempted]; exact List.mem_singleton_self _)).kept nofun
  have removed : jarsAfter 1 newerMod installed newerMod.path = none :=
    getLastD_map_update (download 1 newerMod).1 installed newerMod.path
  cases removed.symm.trans kept

end Blockhost.ModDownloads
