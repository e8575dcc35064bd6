import Blockhost.Library.Uri
import Blockhost.Services.PlacementRuns

/-! The request that creates a database instance, up to its answer, and the identifiers that two
programs write from the stored credentials.
-/

namespace Blockhost.DatabaseUrls

open Library

/-- A request with the texts of the new database; the limits of the processor and of the volume
only go into the row.
-/
structure NamedDatabaseRequest extends CreateDatabaseRequest where
  name : { name : String // name.length ≤ 100 }
  version : { version : String // version.length ≤ 32 }

def passwordAlphabet : List Char :=
  "abcdefghijklmnopqrstuvwxyzABCDEFGHIJKLMNOPQRSTUVWXYZ0123456789-_".toList

/-- What `_generate_password` returns. -/
abbrev GeneratedPassword :=
  { password : List Char // password.length = 16 ∧ ∀ letter ∈ password, letter ∈ passwordAlphabet }

/-- `text.replace(mark, "_")` for one letter -/
def underscore (mark : Char) (text : List Char) : List Char :=
  text.map (fun letter => if letter = mark then '_' else letter)

/-- The credentials of a new database, where `lower` is `str.lower`. -/
def newCredentials (lower : String → String) (name : String) (password : GeneratedPassword)
    : DatabaseCredentials where
  dbName := String.ofList (underscore '-' (underscore ' ' (lower name).toList) ++ "_db".toList)
  dbUsername := String.ofList ((underscore ' ' (lower name).toList).take 16)
  dbPassword := String.ofList password.val

/-- `_connection_scheme` -/
def connectionScheme : DatabaseEngine → String
  | .postgresql => "postgresql"
  | .mysql => "mysql"
  | .mariadb => "mariadb"
  | .redis => "redis"

def internalPort : DatabaseEngine → Nat
  | .mysql | .mariadb => 3306
  | .redis => 6379
  | .postgresql => 5432

/-- The name of the container's host, from the first digits of the identifier. -/
def internalHostname (id : Uuid) : String :=
  String.ofList ("db-".toList ++ (uuidDigits id).take 8 ++ ".internal".toList)

def portDigits (port : Nat) : List Char := (toString port).toList

/-- The identifier that a new database is announced with. -/
def connectionUrl (row : DatabaseInstance) : List Char :=
  Uri.write (connectionScheme row.engine).toList row.dbUsername.toList row.dbPassword.toList
    (internalHostname row.id).toList (some (portDigits (internalPort row.engine)))
    row.dbName.toList

/-- The identifier that the agent passes to `pg_dump` and `psql`. -/
def agentUrl (row : DatabaseInstance) : List Char :=
  Uri.write "postgresql".toList row.dbUsername.toList row.dbPassword.toList
    "127.0.0.1".toList none row.dbName.toList

-- The answer

structure DatabaseCreateOut where
  row : DatabaseInstance
  name : String
  version : String
  connectionUrl : List Char

/-- The fields of `DatabaseOut` and `DatabaseCreateOut`, none of which has a default. -/
def databaseCreateOutFields : List String :=
  ["id", "project_id", "name", "engine", "version", "internal_hostname", "internal_port",
    "db_name", "db_username", "ram_limit_mb", "cpu_limit", "storage_limit_mb", "state",
    "created_at", "updated_at", "db_password", "connection_url"]

/-- The attributes of a row of `database_instances`. -/
def databaseInstanceAttributes : List String :=
  ["id", "project_id", "node_id", "name", "engine", "version", "db_name", "db_username",
    "db_password", "internal_hostname", "internal_port", "ram_limit_mb", "cpu_limit",
    "storage_limit_mb", "volume_path", "template_id", "state", "created_at", "updated_at",
    "project", "node"]

/-- `DatabaseCreateOut.model_validate(db_instance)`, which reads every field from an attribute of
that name. The error names the fields that are missing.
-/
def modelValidate (payload : NamedDatabaseRequest) (row : DatabaseInstance)
    : Except (List String) DatabaseCreateOut :=
  match databaseCreateOutFields.filter (fun field => !databaseInstanceAttributes.contains field)
  with
  | [] =>
      .ok { row, name := payload.name.val, version := payload.version.val, connectionUrl := [] }
  | missing => .error missing

/-- `create_database` from the check of the project to the answer; a model that does not validate
is an unhandled exception after the commit.
-/
def answerCreate (lower : String → String) (settings : Settings) (now : Instant) (user : User)
    (payload : NamedDatabaseRequest) (password : GeneratedPassword) (db : Database)
    : Database × Except HttpError DatabaseCreateOut :=
  let credentials := newCredentials lower payload.name password
  match createDatabase settings now user payload.toCreateDatabaseRequest credentials db with
  | .error failure => (db, .error failure)
  | .ok (next, _) =>
      match next.databaseInstances.get? db.databaseInstances.freshKey with
      | none => (next, .error internalError)
      | some row =>
          match modelValidate payload row with
          | .error _ => (next, .error internalError)
          | .ok out => (next, .ok { out with connectionUrl := connectionUrl row })

-- What the credentials go through

/-- The parts that an identifier should have. -/
def storedParts (scheme host : String) (port : Option (List Char)) (row : DatabaseInstance)
    : Uri.Parts where
  scheme := scheme.toList
  user := encodeText row.dbUsername.toList
  password := encodeText row.dbPassword.toList
  host := encodeText host.toList
  port := port
  database := encodeText row.dbName.toList

/-- An accepted request is answered with the stored row and an identifier that reads as the stored
credentials, and so do the identifiers of the agent.
-/
def CredentialsSurvive (lower : String → String) (settings : Settings) (now : Instant)
    (user : User) (payload : NamedDatabaseRequest) (password : GeneratedPassword) (db : Database)
    : Prop :=
  let credentials := newCredentials lower payload.name password
  ∀ placed, createDatabase settings now user payload.toCreateDatabaseRequest credentials db
      = .ok placed
    → ∃ out, answerCreate lower settings now user payload password db = (placed.1, .ok out)
      ∧ out.row ∈ placed.1.databaseInstances.rows
      ∧ Uri.Parses out.connectionUrl
          (storedParts (connectionScheme out.row.engine) (internalHostname out.row.id)
            (some (portDigits (internalPort out.row.engine))) out.row)
      ∧ Uri.Parses (agentUrl out.row) (storedParts "postgresql" "127.0.0.1" none out.row)

theorem isPlain_password (password : GeneratedPassword)
    : ∀ letter ∈ password.val, Uri.isPlain letter := by
  have plain : passwordAlphabet.all Uri.isPlain = true := by decide
  exact fun letter member => List.all_eq_true.mp plain letter (password.2.2 letter member)

theorem isPlain_internalHostname (id : Uuid)
    : ∀ letter ∈ (internalHostname id).toList, Uri.isPlain letter := by
  intro letter member
  have digit : ∀ value < 16, Uri.isPlain (Nat.digitChar value) := by decide
  have words : ("db-".toList ++ ".internal".toList).all Uri.isPlain = true := by decide
  rw [internalHostname, String.toList_ofList, List.mem_append, List.mem_append] at member
  rcases member with (first | drawn) | last
  · exact List.all_eq_true.mp words letter (List.mem_append_left _ first)
  · obtain ⟨place, _, rfl⟩ := List.mem_map.mp (List.mem_of_mem_take drawn)
    exact digit _ (Nat.mod_lt _ (by decide))
  · exact List.all_eq_true.mp words letter (List.mem_append_right _ last)

theorem mem_underscore {mark : Char} {plain : Char → Bool} (kept : plain '_' = true)
    {text : List Char}
    : (∀ letter ∈ underscore mark text, plain letter)
      ↔ ∀ letter ∈ text, letter = mark ∨ plain letter := by
  simp only [underscore, List.forall_mem_map]
  refine forall₂_congr fun letter _ => ?_
  by_cases same : letter = mark
  · simp [same, kept]
  · simp [same]

/-- Letters of a lower-cased name that stay what they are in both identifiers. -/
def Literal (text : List Char) : Prop :=
  (∀ letter ∈ text.take 16, letter = ' ' ∨ Uri.isPlain letter)
  ∧ ∀ letter ∈ text, letter = ' ' ∨ Uri.isPathLetter letter

theorem literal_iff (lower : String → String) (name : String) (password : GeneratedPassword)
    : (∀ letter ∈ (newCredentials lower name password).dbUsername.toList, Uri.isPlain letter)
        ∧ (∀ letter ∈ (newCredentials lower name password).dbName.toList,
            Uri.isPathLetter letter)
      ↔ Literal (lower name).toList := by
  refine and_congr ?_ ?_
  · rw [newCredentials, String.toList_ofList, underscore, ← List.map_take]
    exact mem_underscore (by decide)
  · have ending : "_db".toList.all Uri.isPathLetter = true := by decide
    rw [newCredentials, String.toList_ofList, List.forall_mem_append,
      and_iff_left (List.all_eq_true.mp ending), mem_underscore (by decide)]
    refine Iff.trans ?_ (mem_underscore (by decide))
    refine forall₂_congr fun letter _ => or_iff_right_of_imp ?_
    rintro rfl
    decide

/-- The identifiers of both programs read as the stored credentials exactly when the letters of the
name need no escape.
-/
theorem urls_parse_iff (lower : String → String) (name : String) (password : GeneratedPassword)
    {row : DatabaseInstance}
    (username : row.dbUsername = (newCredentials lower name password).dbUsername)
    (stored : row.dbPassword = (newCredentials lower name password).dbPassword)
    (database : row.dbName = (newCredentials lower name password).dbName)
    : (Uri.Parses (connectionUrl row)
          (storedParts (connectionScheme row.engine) (internalHostname row.id)
            (some (portDigits (internalPort row.engine))) row)
        ↔ Literal (lower name).toList)
      ∧ (Uri.Parses (agentUrl row) (storedParts "postgresql" "127.0.0.1" none row)
        ↔ Literal (lower name).toList) := by
  have letters := literal_iff lower name password
  rw [← username, ← database] at letters
  have plain : ∀ letter ∈ row.dbPassword.toList, Uri.isPlain letter := by
    rw [stored, newCredentials, String.toList_ofList]
    exact isPlain_password password
  constructor
  · refine (Uri.parses_write_iff ?_ plain (isPlain_internalHostname row.id) ?_).trans letters
    · cases row.engine <;> decide
    · rintro number ⟨⟩
      cases row.engine <;> decide
  · have host : "127.0.0.1".toList.all Uri.isPlain = true := by decide
    exact (Uri.parses_write_iff (by decide) plain (List.all_eq_true.mp host) (by simp)).trans
      letters

theorem modelValidate_eq (payload : NamedDatabaseRequest) (row : DatabaseInstance)
    : modelValidate payload row = .error ["connection_url"] := by
  have missing
      : databaseCreateOutFields.filter (fun field => !databaseInstanceAttributes.contains field)
        = ["connection_url"] := by
    decide
  rw [modelValidate, missing]

variable {lower : String → String} {settings : Settings} {now : Instant} {user : User}
variable {payload : NamedDatabaseRequest} {password : GeneratedPassword} {db : Database}
variable {placed : Placed}

theorem answerCreate_accepted
    (accepted
      : createDatabase settings now user payload.toCreateDatabaseRequest
          (newCredentials lower payload.name password) db
        = .ok placed)
    : answerCreate lower settings now user payload password db
      = (placed.1, .error internalError) := by
  unfold answerCreate
  dsimp only
  rw [accepted]
  dsimp only
  split
  · rfl
  · rw [modelValidate_eq]

/-- Every accepted request leaves its row behind and fails after that. -/
theorem accepted_request_fails
    (accepted
      : createDatabase settings now user payload.toCreateDatabaseRequest
          (newCredentials lower payload.name password) db
        = .ok placed)
    : answerCreate lower settings now user payload password db
        = (placed.1, .error internalError)
      ∧ ¬ CredentialsSurvive lower settings now user payload password db := by
  have fails := answerCreate_accepted accepted
  refine ⟨fails, fun survive => ?_⟩
  obtain ⟨out, answered, _⟩ := survive placed accepted
  cases fails.symm.trans answered

theorem accepted_ram : (256 : Int) ≤ 4096 := by decide

def shopRequest : NamedDatabaseRequest where
  projectId := 0
  engine := .postgresql
  ramLimitMb := ⟨4096, accepted_ram⟩
  name := ⟨"shop", by decide⟩
  version := ⟨"16", by decide⟩

def drawnPassword : GeneratedPassword :=
  ⟨List.replicate 16 'a', rfl, fun letter drawn => by
    rw [List.eq_of_mem_replicate drawn]
    decide⟩

/-- The row that announces and backs up a database named "shop". -/
def shopRow : DatabaseInstance where
  id := 0
  projectId := 0
  nodeId := none
  dbName := (newCredentials id "shop" drawnPassword).dbName
  dbUsername := (newCredentials id "shop" drawnPassword).dbUsername
  dbPassword := (newCredentials id "shop" drawnPassword).dbPassword

theorem shop_urls_parse
    : Uri.Parses (agentUrl shopRow) (storedParts "postgresql" "127.0.0.1" none shopRow) := by
  have plain : "shop".toList.all Uri.isPlain = true := by decide
  have path : "shop".toList.all Uri.isPathLetter = true := by decide
  refine (urls_parse_iff id "shop" drawnPassword rfl rfl rfl).2.mpr ⟨?_, ?_⟩
  · exact fun letter member =>
      .inr (List.all_eq_true.mp plain letter (List.mem_of_mem_take member))
  · exact fun letter member => .inr (List.all_eq_true.mp path letter member)

theorem shop_accepted
    : ∃ placed, createDatabase {} 0 projectOwner shopRequest.toCreateDatabaseRequest
        (newCredentials id "shop" drawnPassword) emptyNodeDatabase
      = .ok placed := by
  have free : selectBestNode {} emptyNodeDatabase 0 4096 ≠ none := by decide +kernel
  obtain ⟨node, selected⟩ := Option.ne_none_iff_exists'.mp free
  exact ⟨_, by
    unfold createDatabase nodeForWorkload shopRequest
    rw [selected]
    rfl⟩

theorem shop_request_fails
    : ∃ stored, answerCreate id {} 0 projectOwner shopRequest drawnPassword emptyNodeDatabase
        = (stored, .error internalError) := by
  obtain ⟨placed, accepted⟩ := shop_accepted
  exact ⟨placed.1, (accepted_request_fails accepted).1⟩

/-- The request for "shop" stores its row and is answered with a server error. -/
theorem shop_loses_credentials
    : ¬ ∀ (lower : String → String) (settings : Settings) (now : Instant) (user : User)
        (payload : NamedDatabaseRequest) (password : GeneratedPassword) (db : Database),
        CredentialsSurvive lower settings now user payload password db := by
  intro survive
  obtain ⟨placed, accepted⟩ := shop_accepted
  obtain ⟨out, answered, _⟩ :=
    survive id {} 0 projectOwner shopRequest drawnPassword emptyNodeDatabase placed accepted
  cases (answerCreate_accepted accepted).symm.trans answered

end Blockhost.DatabaseUrls
