import Blockhost.Api.Servers
import Blockhost.Library.Run

/-! The collaborators of a server. A request reads the server and the row of the collaborator, and
commits later; other requests may commit in between.
-/

namespace Blockhost.Collaborators

open Library

-- Requests

structure ServerCollaboratorCreate where
  email : String
  permissions : List String

def findCollaborator (db : Database) (serverId userId : Uuid) : Option ServerCollaborator :=
  db.serverCollaborators.rows.find? (fun collaborator =>
    collaborator.serverId = serverId && collaborator.userId = userId)

/-- What the session of a request writes when it commits. -/
inductive Flush where
  | update (row : ServerCollaborator) (permissions : List String)
  | add (serverId userId : Uuid) (permissions : List String)
  | delete (row : ServerCollaborator)
deriving DecidableEq

def onlyOwner : HttpError := ⟨403, "Only the server owner can manage collaborators"⟩

def ownedServer (db : Database) (serverId : Uuid) (user : User) : Except HttpError Server :=
  match db.servers.get? serverId with
  | none => .error onlyOwner
  | some server => if server.ownerId = user.id then .ok server else .error onlyOwner

def inviteCollaborator (db : Database) (serverId : String) (payload : ServerCollaboratorCreate)
    (user : User)
    : Except HttpError Flush :=
  match parseUuid serverId with
  | none => .error ⟨404, "Server not found"⟩
  | some serverUuid => do
      let server ← ownedServer db serverUuid user
      match db.users.rows.find? (fun row => row.email = payload.email) with
      | none => .error ⟨404, "User with this email not found"⟩
      | some targetUser =>
          if targetUser.id = user.id then .error ⟨400, "Cannot invite yourself"⟩
          else
            match findCollaborator db server.id targetUser.id with
            | some collab => .ok (.update collab payload.permissions)
            | none => .ok (.add server.id targetUser.id payload.permissions)

/-- Nothing is written where there is no row. -/
def removeCollaborator (db : Database) (serverId userId : String) (user : User)
    : Except HttpError (Option Flush) :=
  match parseUuid serverId, parseUuid userId with
  | some serverUuid, some targetUserUuid => do
      let server ← ownedServer db serverUuid user
      return (findCollaborator db server.id targetUserUuid).map .delete
  | _, _ => .error ⟨404, "Not found"⟩

-- Commits

def setPermissions (permissions : List String) : Change ServerCollaborator.id where
  apply row := { row with permissions }

/-- The rows after a commit with the primary key of a new row; none where it writes nothing: the
row has the permissions already when it is read, the row or the server is gone, or there is a row
of the server and the user.
-/
def Flush.commit (id : Uuid) (db : Database) : Flush → Option (Table ServerCollaborator.id)
  | .update row permissions =>
      if row.permissions ≠ permissions ∧ (db.serverCollaborators.get? row.id).isSome then
        some (db.serverCollaborators.modify row.id (setPermissions permissions))
      else none
  | .add serverId userId permissions =>
      if (db.servers.get? serverId).isNone || (findCollaborator db serverId userId).isSome then none
      else db.serverCollaborators.insert? { id, serverId, userId, permissions }
  | .delete row =>
      if (db.serverCollaborators.get? row.id).isSome then
        some (db.serverCollaborators.filter (fun other => other.id ≠ row.id))
      else none

/-- The row that a request has read. -/
def Flush.row? : Flush → Option ServerCollaborator
  | .update row _ | .delete row => some row
  | .add .. => none

/-- The row that a commit leaves. -/
def Flush.left (id : Uuid) : Flush → Option ServerCollaborator
  | .update row permissions => some { row with permissions }
  | .add serverId userId permissions => some { id, serverId, userId, permissions }
  | .delete _ => none

/-- The server and the user of a row; there is one row of each pair. -/
def pairOf (row : ServerCollaborator) : Uuid × Uuid := (row.serverId, row.userId)

def Flush.pair : Flush → Uuid × Uuid
  | .update row _ | .delete row => pairOf row
  | .add serverId userId _ => (serverId, userId)

-- Interleavings

/-- A user's request between its reads and its commit. -/
structure Pending where
  userId : Uuid
  flush : Flush

structure World where
  db : Database
  waiting : List Pending := []

inductive Event where
  | read
  | commit (pending : Pending) (id : Uuid)
  | other

/-- The turns of a run in which one server stays or is deleted; primary keys are never used again.
-/
inductive Step (serverId : Uuid) : World → Event → World → Prop where
  | invite {world : World} {user : User} {text : String} {payload : ServerCollaboratorCreate}
      {flush : Flush} (reads : inviteCollaborator world.db text payload user = .ok flush)
      : Step serverId world .read { world with waiting := world.waiting ++ [⟨user.id, flush⟩] }
  | remove {world : World} {user : User} {text userText : String} {flush : Flush}
      (reads : removeCollaborator world.db text userText user = .ok (some flush))
      : Step serverId world .read { world with waiting := world.waiting ++ [⟨user.id, flush⟩] }
  | commit {world : World} {index : Nat} {pending : Pending} {id : Uuid}
      {rows : Table ServerCollaborator.id} (turn : world.waiting[index]? = some pending)
      (fresh : ∀ other ∈ world.waiting, ∀ row, other.flush.row? = some row → row.id ≠ id)
      (written : pending.flush.commit id world.db = some rows)
      : Step serverId world (.commit pending id)
          ⟨{ world.db with serverCollaborators := rows }, world.waiting.eraseIdx index⟩
  /-- A request ends without a write. -/
  | fail {world : World} (index : Nat)
      : Step serverId world .other { world with waiting := world.waiting.eraseIdx index }
  /-- Servers change and go, and take their collaborators with them. -/
  | other {world : World} {next : Database}
      (owner
        : ∀ server, next.servers.get? serverId = some server
          → ∃ old, world.db.servers.get? serverId = some old ∧ old.ownerId = server.ownerId)
      (cascade
        : next.serverCollaborators.rows
          = world.db.serverCollaborators.rows.filter
              (fun row => (next.servers.get? row.serverId).isSome))
      : Step serverId world .other { world with db := next }

def permissionsOf (db : Database) (serverId userId : Uuid) : Option (List String) :=
  (findCollaborator db serverId userId).map ServerCollaborator.permissions

/-- The permissions that the commits of a run leave to a user: the last one decides. -/
def granted (serverId userId : Uuid) (known : Option (List String))
    : List Event → Option (List String) :=
  List.foldl (fun known event =>
    match event with
    | .commit pending id =>
        if pending.flush.pair = (serverId, userId) then
          (pending.flush.left id).map ServerCollaborator.permissions
        else known
    | _ => known) known

-- What a commit does

def Unique (db : Database) : Prop :=
  ∀ left ∈ db.serverCollaborators.rows, ∀ right ∈ db.serverCollaborators.rows,
    pairOf left = pairOf right → left = right

/-- The row that a request has read still belongs to its server and user, if it is there. -/
def Flush.Fits (db : Database) (flush : Flush) : Prop :=
  ∀ row, flush.row? = some row → ∀ stored ∈ db.serverCollaborators.rows, stored.id = row.id
    → pairOf stored = pairOf row

variable {db : Database} {serverId userId id : Uuid} {flush : Flush} {row : ServerCollaborator}
variable {rows : Table ServerCollaborator.id}

theorem findCollaborator_eq_none
    : findCollaborator db serverId userId = none
      ↔ ∀ row ∈ db.serverCollaborators.rows, pairOf row ≠ (serverId, userId) := by
  simp [findCollaborator, List.find?_eq_none, pairOf]

theorem findCollaborator_mem (found : findCollaborator db serverId userId = some row)
    : row ∈ db.serverCollaborators.rows ∧ pairOf row = (serverId, userId) :=
  ⟨List.mem_of_find?_eq_some found, by simpa [pairOf] using List.find?_some found⟩

theorem findCollaborator_eq_some (unique : Unique db)
    : findCollaborator db serverId userId = some row
      ↔ row ∈ db.serverCollaborators.rows ∧ pairOf row = (serverId, userId) := by
  refine ⟨findCollaborator_mem, ?_⟩
  rintro ⟨stored, own⟩
  cases found : findCollaborator db serverId userId with
  | none => exact absurd own (findCollaborator_eq_none.mp found row stored)
  | some first =>
      obtain ⟨known, same⟩ := findCollaborator_mem found
      rw [unique first known row stored (same.trans own.symm)]

theorem stored_of_isSome (present : (db.serverCollaborators.get? id).isSome)
    : ∃ row ∈ db.serverCollaborators.rows, row.id = id := by
  obtain ⟨row, found⟩ := Option.isSome_iff_exists.mp present
  exact ⟨row, Table.get?_some found⟩

theorem id_eq_iff {read : ServerCollaborator} (unique : Unique db) (fits : flush.Fits db)
    (reads : flush.row? = some read) (present : (db.serverCollaborators.get? read.id).isSome)
    (stored : row ∈ db.serverCollaborators.rows)
    : row.id = read.id ↔ pairOf row = pairOf read := by
  refine ⟨fits read reads row stored, fun same => ?_⟩
  obtain ⟨old, known, here⟩ := stored_of_isSome present
  exact unique row stored old known (same.trans (fits read reads old known here).symm) ▸ here

/-- A commit replaces the row of its server and user and leaves all other rows. -/
theorem mem_commit (unique : Unique db) (fits : flush.Fits db)
    (written : flush.commit id db = some rows) (row : ServerCollaborator)
    : row ∈ rows.rows
      ↔ row ∈ db.serverCollaborators.rows ∧ pairOf row ≠ flush.pair
        ∨ flush.left id = some row := by
  cases flush with
  | update read permissions =>
      obtain ⟨⟨_, present⟩, ⟨⟩⟩ := Option.ite_none_right_eq_some.mp written
      have same {row : ServerCollaborator} (stored : row ∈ db.serverCollaborators.rows)
          : row.id = read.id ↔ pairOf row = pairOf read :=
        id_eq_iff unique fits rfl present stored
      have changed {old : ServerCollaborator} (stored : old ∈ db.serverCollaborators.rows)
          (here : old.id = read.id)
          : (setPermissions permissions).apply old = { read with permissions } := by
        obtain ⟨server, user⟩ := Prod.mk.inj ((same stored).mp here)
        simp [setPermissions, here, server, user]
      rw [Table.rows_modify, List.mem_map]
      constructor
      · rintro ⟨old, stored, rfl⟩
        by_cases here : old.id = read.id
        · rw [if_pos here, changed stored here]
          exact .inr rfl
        · rw [if_neg here]
          exact .inl ⟨stored, fun own => here ((same stored).mpr own)⟩
      · rintro (⟨stored, other⟩ | left)
        · exact ⟨row, stored, if_neg fun here => other ((same stored).mp here)⟩
        · obtain ⟨old, stored, here⟩ := stored_of_isSome present
          refine ⟨old, stored, ?_⟩
          rw [if_pos here, changed stored here]
          exact Option.some.inj left
  | add server user permissions =>
      obtain ⟨free, added⟩ := Option.ite_none_left_eq_some.mp written
      obtain ⟨_, rfl⟩ := Table.insert?_some added
      simp only [Bool.or_eq_true, not_or, Option.not_isSome_iff_eq_none] at free
      have others := findCollaborator_eq_none.mp free.2
      rw [Table.rows_insert, List.mem_append, List.mem_singleton, Flush.left,
        Option.some_inj, eq_comm (a := row)]
      exact or_congr_left ⟨fun stored => ⟨stored, others row stored⟩, And.left⟩
  | delete read =>
      obtain ⟨present, ⟨⟩⟩ := Option.ite_none_right_eq_some.mp written
      rw [Table.rows_filter, List.mem_filter, decide_eq_true_eq]
      constructor
      · rintro ⟨stored, other⟩
        exact .inl ⟨stored, fun own => other ((id_eq_iff unique fits rfl present stored).mpr own)⟩
      · rintro (⟨stored, other⟩ | left)
        · exact ⟨stored, fun here => other ((id_eq_iff unique fits rfl present stored).mp here)⟩
        · cases left

theorem pair_left (left : flush.left id = some row) : pairOf row = flush.pair := by
  cases flush <;> cases left <;> rfl

theorem unique_commit (unique : Unique db) (fits : flush.Fits db)
    (written : flush.commit id db = some rows)
    : Unique { db with serverCollaborators := rows } := by
  intro left first right second same
  have member := mem_commit unique fits written
  rcases (member left).mp first with ⟨stored, other⟩ | new
  · rcases (member right).mp second with ⟨known, _⟩ | new
    · exact unique left stored right known same
    · exact absurd (same.trans (pair_left new)) other
  · rcases (member right).mp second with ⟨_, other⟩ | newer
    · exact absurd (same.symm.trans (pair_left new)) other
    · exact Option.some.inj (new.symm.trans newer)

theorem findCollaborator_commit (unique : Unique db) (fits : flush.Fits db)
    (written : flush.commit id db = some rows) (serverId userId : Uuid)
    : findCollaborator { db with serverCollaborators := rows } serverId userId
      = if flush.pair = (serverId, userId) then flush.left id
        else findCollaborator db serverId userId := by
  refine Option.ext fun row => ?_
  have member := mem_commit unique fits written row
  rw [findCollaborator_eq_some (unique_commit unique fits written)]
  split
  · rename_i own
    constructor
    · rintro ⟨stored, same⟩
      exact (member.mp stored).resolve_left fun old => old.2 (same.trans own.symm)
    · intro left
      exact ⟨member.mpr (.inr left), (pair_left left).trans own⟩
  · rename_i other
    rw [findCollaborator_eq_some unique]
    constructor
    · rintro ⟨stored, same⟩
      have old := (member.mp stored).resolve_right fun left =>
        other ((pair_left left).symm.trans same)
      exact ⟨old.1, same⟩
    · rintro ⟨stored, same⟩
      exact ⟨member.mpr (.inl ⟨stored, fun own => other (own.symm.trans same)⟩), same⟩

-- Requests

/-- What a request's reads establish. -/
def Flush.Read (db : Database) (user : User) (flush : Flush) : Prop :=
  (∃ server, db.servers.get? flush.pair.1 = some server ∧ server.ownerId = user.id)
  ∧ ∀ row, flush.row? = some row → row ∈ db.serverCollaborators.rows

theorem ownedServer_ok {user : User} {server : Server}
    (owned : ownedServer db serverId user = .ok server)
    : db.servers.get? serverId = some server ∧ server.id = serverId
      ∧ server.ownerId = user.id := by
  unfold ownedServer at owned
  split at owned
  · cases owned
  · rename_i found
    split at owned
    · rename_i own
      cases owned
      exact ⟨found, (Table.get?_some found).2, own⟩
    · cases owned

theorem read_of_found {user : User} {server : Server}
    (found : db.servers.get? serverId = some server) (own : server.ownerId = user.id)
    (known : findCollaborator db serverId userId = some row) (reads : flush.row? = some row)
    : flush.Read db user := by
  obtain ⟨stored, same⟩ := findCollaborator_mem known
  have pair : flush.pair = pairOf row := by cases flush <;> cases reads <;> rfl
  refine ⟨⟨server, ?_, own⟩, fun read also => ?_⟩
  · rw [pair, same]
    exact found
  · cases reads.symm.trans also
    exact stored

theorem inviteCollaborator_reads {text : String} {payload : ServerCollaboratorCreate} {user : User}
    (reads : inviteCollaborator db text payload user = .ok flush)
    : flush.Read db user := by
  unfold inviteCollaborator at reads
  split at reads
  · cases reads
  · rename_i serverUuid _
    cases owned : ownedServer db serverUuid user with
    | error failure =>
        rw [owned] at reads
        cases reads
    | ok server =>
        obtain ⟨found, rfl, own⟩ := ownedServer_ok owned
        rw [owned] at reads
        simp only [bind, Except.bind] at reads
        split at reads
        · cases reads
        · split at reads
          · cases reads
          · split at reads
            · rename_i row known
              cases reads
              exact read_of_found found own known rfl
            · cases reads
              exact ⟨⟨server, found, own⟩, fun _ none => by cases none⟩

theorem removeCollaborator_reads {text userText : String} {user : User}
    (reads : removeCollaborator db text userText user = .ok (some flush))
    : flush.Read db user := by
  unfold removeCollaborator at reads
  split at reads
  · rename_i serverUuid targetUuid _ _
    cases owned : ownedServer db serverUuid user with
    | error failure =>
        rw [owned] at reads
        cases reads
    | ok server =>
        obtain ⟨found, rfl, own⟩ := ownedServer_ok owned
        rw [owned] at reads
        obtain ⟨row, known, rfl⟩ := Option.map_eq_some_iff.mp (Except.ok.inj reads)
        exact read_of_found found own known rfl
  · cases reads

theorem Flush.Read.fits {user : User} (read : flush.Read db user) : flush.Fits db := by
  intro row reads stored member same
  rw [db.serverCollaborators.eq_of_key_eq member (read.2 row reads) same]

theorem fits_commit {other : Flush} (unique : Unique db) (fits : flush.Fits db)
    (written : flush.commit id db = some rows)
    (fresh : ∀ row, other.row? = some row → row.id ≠ id) (kept : other.Fits db)
    : other.Fits { db with serverCollaborators := rows } := by
  intro read reads stored member same
  rcases (mem_commit unique fits written stored).mp member with ⟨old, _⟩ | left
  · exact kept read reads stored old same
  · cases flush with
    | update row permissions =>
        obtain ⟨⟨_, present⟩, _⟩ := Option.ite_none_right_eq_some.mp written
        obtain ⟨old, known, here⟩ := stored_of_isSome present
        cases left
        exact (fits row rfl old known here).symm.trans (kept read reads old known (here.trans same))
    | add server user permissions =>
        cases left
        exact absurd same.symm (fresh read reads)
    | delete row => cases left

-- Runs

structure Sound (serverId : Uuid) (world : World) : Prop where
  unique : Unique world.db
  fits : ∀ pending ∈ world.waiting, pending.flush.Fits world.db
  owner
    : ∀ pending ∈ world.waiting, pending.flush.pair.1 = serverId
      → ∀ server, world.db.servers.get? serverId = some server → server.ownerId = pending.userId

variable {before after start finish : World} {event : Event} {events : List Event}

theorem Sound.read (sound : Sound serverId before) {user : User} (read : flush.Read before.db user)
    : Sound serverId { before with waiting := before.waiting ++ [⟨user.id, flush⟩] } where
  unique := sound.unique
  fits := by
    intro pending member
    rcases List.mem_append.mp member with old | new
    · exact sound.fits pending old
    · cases List.mem_singleton.mp new
      exact read.fits
  owner := by
    intro pending member
    rcases List.mem_append.mp member with old | new
    · exact sound.owner pending old
    · cases List.mem_singleton.mp new
      rintro rfl server found
      obtain ⟨row, known, own⟩ := read.1
      rw [Option.some.inj (found.symm.trans known)]
      exact own

theorem Sound.step (sound : Sound serverId before) (taken : Step serverId before event after)
    : Sound serverId after := by
  cases taken with
  | invite reads => exact sound.read (inviteCollaborator_reads reads)
  | remove reads => exact sound.read (removeCollaborator_reads reads)
  | @commit index pending id rows turn fresh written =>
      have fits := sound.fits pending (List.mem_of_getElem? turn)
      refine ⟨unique_commit sound.unique fits written, fun other member => ?_, fun other member =>
        sound.owner other (List.mem_of_mem_eraseIdx member)⟩
      have waiting := List.mem_of_mem_eraseIdx member
      exact fits_commit sound.unique fits written (fresh other waiting) (sound.fits other waiting)
  | fail index =>
      exact ⟨sound.unique, fun other member => sound.fits other (List.mem_of_mem_eraseIdx member),
        fun other member => sound.owner other (List.mem_of_mem_eraseIdx member)⟩
  | @other next owner cascade =>
      have stored {row : ServerCollaborator} (member : row ∈ next.serverCollaborators.rows)
          : row ∈ before.db.serverCollaborators.rows := by
        rw [cascade] at member
        exact List.mem_of_mem_filter member
      refine ⟨fun left first right second => sound.unique left (stored first) right
        (stored second), fun pending member row reads other here =>
          sound.fits pending member row reads other (stored here), ?_⟩
      intro pending member own server found
      obtain ⟨old, known, same⟩ := owner server found
      exact same ▸ sound.owner pending member own old known

theorem Step.permissions (sound : Sound serverId before) (taken : Step serverId before event after)
    (stays : (after.db.servers.get? serverId).isSome) (userId : Uuid)
    : permissionsOf after.db serverId userId
      = granted serverId userId (permissionsOf before.db serverId userId) [event] := by
  cases taken with
  | invite | remove | fail => rfl
  | @commit index pending id rows turn fresh written =>
      have fits := sound.fits pending (List.mem_of_getElem? turn)
      rw [permissionsOf, findCollaborator_commit sound.unique fits written]
      simp only [granted, List.foldl_cons, List.foldl_nil]
      split <;> rfl
  | @other next owner cascade =>
      change permissionsOf next serverId userId = permissionsOf before.db serverId userId
      unfold permissionsOf findCollaborator
      rw [cascade, List.find?_filter]
      congr 2
      funext row
      by_cases own : row.serverId = serverId
      · simp [own, stays]
      · simp [own]

/-- Along a run, the server is still there only if it always was. -/
theorem Step.stays (taken : Step serverId before event after)
    (present : (after.db.servers.get? serverId).isSome)
    : (before.db.servers.get? serverId).isSome := by
  cases taken with
  | invite | remove | fail | commit => exact present
  | other owner cascade =>
      obtain ⟨server, found⟩ := Option.isSome_iff_exists.mp present
      obtain ⟨old, known, _⟩ := owner server found
      exact Option.isSome_iff_exists.mpr ⟨old, known⟩

theorem Step.owner (taken : Step serverId before event after) {old server : Server}
    (known : before.db.servers.get? serverId = some old)
    (found : after.db.servers.get? serverId = some server)
    : old.ownerId = server.ownerId := by
  cases taken with
  | invite | remove | fail | commit => rw [Option.some.inj (known.symm.trans found)]
  | other owner cascade =>
      obtain ⟨row, same, kept⟩ := owner server found
      rw [Option.some.inj (known.symm.trans same)]
      exact kept

theorem getServerForUser_iff {server : Server} (found : db.servers.get? serverId = some server)
    (user : User) (permission : String)
    : getServerForUser db serverId user permission = .ok server
      ↔ server.ownerId = user.id
        ∨ ∃ permissions, permissionsOf db serverId user.id = some permissions
          ∧ permission ∈ permissions := by
  have listed
      : db.serverCollaborators.rows.find? (fun collaborator =>
          collaborator.serverId = server.id && collaborator.userId = user.id)
        = findCollaborator db serverId user.id := by
    rw [(Table.get?_some found).2]
    rfl
  unfold getServerForUser permissionsOf
  rw [found]
  dsimp only
  rw [listed]
  by_cases own : server.ownerId = user.id
  · simp [own]
  · cases findCollaborator db serverId user.id with
    | none => simp [own]
    | some row => by_cases given : permission ∈ row.permissions <;> simp [own, given]

theorem Sound.run (sound : Sound serverId start) (run : Run (Step serverId) start events finish)
    {server : Server} (found : finish.db.servers.get? serverId = some server)
    : Sound serverId finish
      ∧ (∀ userId, permissionsOf finish.db serverId userId
        = granted serverId userId (permissionsOf start.db serverId userId) events)
      ∧ ∀ pending id, .commit pending id ∈ events → pending.flush.pair.1 = serverId
        → pending.userId = server.ownerId := by
  induction run generalizing server with
  | done => exact ⟨sound, fun _ => rfl, fun _ _ none => by cases none⟩
  | @next middle finish events event _ taken ih =>
      obtain ⟨old, known⟩ :=
        Option.isSome_iff_exists.mp (taken.stays (Option.isSome_iff_exists.mpr ⟨server, found⟩))
      obtain ⟨reached, permissions, actors⟩ := ih known
      refine ⟨reached.step taken, fun userId => ?_, fun pending id member about => ?_⟩
      · rw [taken.permissions reached (Option.isSome_iff_exists.mpr ⟨server, found⟩),
          permissions]
        exact List.foldl_append.symm
      · have kept : old.ownerId = server.ownerId := taken.owner known found
        rcases List.mem_append.mp member with earlier | now
        · rw [← kept]
          exact actors pending id earlier about
        · cases List.mem_singleton.mp now
          cases taken with
          | commit turn =>
              rw [← kept]
              exact (reached.owner pending (List.mem_of_getElem? turn) about old known).symm

/-- A user has a permission on a server exactly when the user owns it or the last commit of the
run about the user, which a request of the owner made, left this permission.
-/
theorem access_follows_grants (unique : Unique start.db) (idle : start.waiting = [])
    (run : Run (Step serverId) start events finish) {server : Server}
    (found : finish.db.servers.get? serverId = some server) (user : User) (permission : String)
    : (getServerForUser finish.db serverId user permission = .ok server
        ↔ server.ownerId = user.id
          ∨ ∃ permissions,
            granted serverId user.id (permissionsOf start.db serverId user.id) events
              = some permissions
            ∧ permission ∈ permissions)
      ∧ ∀ pending id, .commit pending id ∈ events → pending.flush.pair.1 = serverId
        → pending.userId = server.ownerId := by
  have sound : Sound serverId start :=
    ⟨unique, fun _ member => by simp [idle] at member, fun _ member => by simp [idle] at member⟩
  obtain ⟨_, permissions, actors⟩ := sound.run run found
  rw [getServerForUser_iff found, permissions]
  exact ⟨Iff.rfl, actors⟩

private def host : User where
  id := 1
  email := "host@example.com"
  authHash := ""
  nickname := "host"

private def guest : User where
  id := 2
  email := "guest@example.com"
  authHash := ""
  nickname := "guest"

private def sharedServer : Server where
  id := 0
  nodeId := none
  ownerId := 1
  worldName := "world"
  lastActivity := 0

private def sharedDatabase : Database where
  users := ⟨[host, guest], by decide⟩
  servers := ⟨[sharedServer], by decide⟩

private def invitation : Pending := ⟨host.id, .add 0 2 ["console"]⟩

theorem guest_gains_console
    : ∃ finish,
        Run (Step 0) ⟨sharedDatabase, []⟩ [.read, .commit invitation 0] finish
          ∧ getServerForUser finish.db 0 guest "console" = .ok sharedServer := by
  have reads
      : inviteCollaborator sharedDatabase (uuidText 0) ⟨"guest@example.com", ["console"]⟩ host
        = .ok invitation.flush := by
    decide +kernel
  have stored
      : invitation.flush.commit 0 sharedDatabase
        = some ⟨[⟨0, 0, 2, ["console"]⟩], by decide⟩ :=
    rfl
  have asked : Step 0 ⟨sharedDatabase, []⟩ .read ⟨sharedDatabase, [invitation]⟩ := .invite reads
  have written : Step 0 ⟨sharedDatabase, [invitation]⟩ (.commit invitation 0) _ :=
    .commit (List.getElem?_cons_zero ..) (by simp [invitation, Flush.row?]) stored
  have run := Run.cons asked (.single written)
  have access :=
    access_follows_grants (by simp [Unique, sharedDatabase]) rfl run rfl guest "console"
  exact ⟨_, run, access.1.mpr (.inr ⟨["console"], rfl, by decide⟩)⟩

end Blockhost.Collaborators
