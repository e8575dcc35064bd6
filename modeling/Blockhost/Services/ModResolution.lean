import Blockhost.Library.BreadthFirst
import Blockhost.Library.Lines
import Blockhost.Library.Result

/-! The resolver of the mods that an installation downloads. It follows the required dependencies
of a project in breadth-first order, and takes a project for installed when a file without its
version suffix has the name of another file without its own.
-/

namespace Blockhost.Modrinth

open Library

-- Names of files

/-- What the language knows of characters: which ones `\d` matches, and `lower()`. -/
structure LetterFunctions where
  isDecimal : Char → Bool
  lower : String → String

/-- `[\d.]` -/
def isVersionMark (functions : LetterFunctions) (letter : Char) : Bool :=
  letter = '.' || functions.isDecimal letter

/-- `[a-z0-9+._-]` when case is ignored; four letters beyond ASCII fold to small ones. -/
def isVersionLetter (letter : Char) : Bool :=
  letter.isAlphanum || letter ∈ ['+', '.', '_', '-', '\u0130', '\u0131', '\u017F', '\u212A']

/-- `[\d.]+[a-z0-9+._-]*`, on a whole text. -/
def isVersion (functions : LetterFunctions) (text : Text) : Bool :=
  (text.head?.any (isVersionMark functions))
  && (text.dropWhile (isVersionMark functions)).all isVersionLetter

/-- A text up to `\.jar$`, where the end may come before a last line break. -/
def beforeJar (text : Text) : Option (Text × Text) :=
  let (body, ending) :=
    if text.getLast? = some '\n' then (text.dropLast, ['\n']) else (text, [])
  let stem := body.take (body.length - 4)
  if (body.drop (body.length - 4)).map Char.toLower = ".jar".toList then some (stem, ending)
  else none

/-- A text up to the first hyphen before a version. -/
def beforeVersion (functions : LetterFunctions) : Text → Option Text
  | [] => none
  | letter :: rest =>
      if letter = '-' && isVersion functions rest then some []
      else (beforeVersion functions rest).map (fun front => letter :: front)

/-- `_VERSION_SUFFIX_RE.sub("", filename)` -/
def removeVersionSuffix (functions : LetterFunctions) (filename : Text) : Text :=
  match beforeJar filename with
  | none => filename
  | some (stem, ending) =>
      match beforeVersion functions stem with
      | none => filename
      | some front => front ++ ending

/-- `removesuffix(".jar")` -/
def removeJar (text : Text) : Text :=
  if ".jar".toList.isSuffixOf text then text.take (text.length - 4) else text

def modSlugFromFilename (functions : LetterFunctions) (filename : String) : String :=
  let stem := removeJar filename.toList
  let cleaned := removeJar (removeVersionSuffix functions filename.toList)
  functions.lower (String.ofList (if cleaned = [] then stem else cleaned))

-- Versions

structure VersionFile where
  url : String
  filename : String
  primary : Bool := false
  size : Int := 0
  sha512 : Option String := none
deriving DecidableEq

structure VersionDependency where
  dependencyType : String := ""
  projectId : Option String := none

structure Version where
  id : String
  files : List VersionFile := []
  dependencies : List VersionDependency := []

structure ModFile where
  url : String
  filename : String
  sizeBytes : Int
  sha512 : Option String
deriving DecidableEq

/-- A request that the service does not answer with data. -/
inductive Outage where
  | unavailable
  | status (code : Nat)
  | other
deriving DecidableEq

/-- The exceptions of the resolver; the first two are a `ModVersionNotFoundError`. -/
inductive Failure where
  | noCompatibleVersion (projectId : String)
  | noDownloadableFile (versionId : String)
  | unexpectedUrl (url : String)
  | outage (outage : Outage)
deriving DecidableEq

/-- What the service says about the projects, newest versions first, for one loader and one
version of the game.
-/
structure Service where
  projects : List (String × Except Outage (List Version))
  versions : List (String × Except Outage Version)

/-- Whatever the service does not know has not been found. -/
def answerOf {Answer : Type} (table : List (String × Except Outage Answer)) (name : String)
    : Except Failure Answer :=
  match (table.lookup name).getD (.error (.status 404)) with
  | .error outage => .error (.outage outage)
  | .ok answer => .ok answer

def getVersion (service : Service) (versionId : String) : Except Failure Version :=
  answerOf service.versions versionId

def getBestVersion (service : Service) (projectId : String) : Except Failure Version := do
  match ← answerOf service.projects projectId with
  | [] => throw (.noCompatibleVersion projectId)
  | newest :: _ => pure newest

def isSafeCdnUrl (url : String) : Bool :=
  "https://cdn.modrinth.com/".toList.isPrefixOf url.toList

def pickPrimaryFile (version : Version) : Except Failure ModFile :=
  match (version.files.find? VersionFile.primary).or version.files.head? with
  | none => .error (.noDownloadableFile version.id)
  | some file =>
      if isSafeCdnUrl file.url then
        .ok
          { url := file.url
            filename := file.filename
            sizeBytes := file.size
            sha512 := file.sha512 }
      else .error (.unexpectedUrl file.url)

def requiredProjects (version : Version) : List String :=
  version.dependencies.filterMap (fun dependency =>
    if dependency.dependencyType = "required" then
      dependency.projectId.filter (fun projectId => projectId ≠ "")
    else none)

-- The resolver

/-- A project to install, perhaps in a version of its own. -/
structure Request where
  projectId : String
  rootVersionId : Option String := none

/-- A file in the folder of the mods, and the project that it comes from; the resolver sees the
name alone.
-/
structure InstalledFile where
  filename : String
  projectId : Option String

structure Gathered where
  installedSlugs : List String
  toDownload : List ModFile := []
  alreadyPresent : List String := []

def versionFor (service : Service) (request : Request) (projectId : String)
    : Except Failure Version :=
  match request.rootVersionId.filter (fun versionId => versionId ≠ "") with
  | some versionId =>
      if projectId = request.projectId then getVersion service versionId
      else getBestVersion service projectId
  | none => getBestVersion service projectId

def gather (functions : LetterFunctions) (gathered : Gathered) (file : ModFile) : Gathered :=
  let slug := modSlugFromFilename functions file.filename
  if slug ∈ gathered.installedSlugs then
    { gathered with alreadyPresent := gathered.alreadyPresent ++ [file.filename] }
  else
    { gathered with
      toDownload := gathered.toDownload ++ [file]
      installedSlugs := gathered.installedSlugs ++ [slug] }

/-- One round for a new project: its required projects, and what has been gathered. A project
without a compatible version is skipped.
-/
def visitProject (functions : LetterFunctions) (service : Service) (request : Request)
    (projectId : String) (gathered : Gathered)
    : Except Failure (List String × Gathered) :=
  match versionFor service request projectId with
  | .error (.noCompatibleVersion _) => .ok ([], gathered)
  | .error failure => .error failure
  | .ok version => do
      let file ← pickPrimaryFile version
      pure (requiredProjects version, gather functions gathered file)

def resolveLoop (functions : LetterFunctions) (service : Service) (request : Request)
    : Nat → List String → List String → Gathered
      → Option (List String × Except Failure Gathered)
  | 0, _, _, _ => none
  | _ + 1, [], visited, gathered => some (visited, .ok gathered)
  | rounds + 1, projectId :: queue, visited, gathered =>
      if projectId ∈ visited then
        resolveLoop functions service request rounds queue visited gathered
      else
        match visitProject functions service request projectId gathered with
        | .error failure => some (visited ++ [projectId], .error failure)
        | .ok (required, gathered) =>
            resolveLoop functions service request rounds
              (queue ++ required.filter (fun other => other ∉ visited ++ [projectId]))
              (visited ++ [projectId]) gathered

def requiredBy (service : Service) (request : Request) (projectId : String) : List String :=
  match versionFor service request projectId with
  | .ok version => requiredProjects version
  | .error _ => []

def knownProjects (service : Service) (request : Request) : List String :=
  request.projectId :: service.projects.map Prod.fst

def roundLimit (service : Service) (request : Request) : Nat :=
  BreadthFirst.edges (requiredBy service request) (knownProjects service request) [] + 2

def installedSlugs (functions : LetterFunctions) (installed : List InstalledFile)
    : List String :=
  installed.map (fun file => modSlugFromFilename functions file.filename)

/-- `resolve_install_files`, with the projects that it queries. -/
def resolveInstallFiles (functions : LetterFunctions) (service : Service) (request : Request)
    (installed : List InstalledFile)
    : Option (List String × Except Failure Gathered) :=
  resolveLoop functions service request (roundLimit service request) [request.projectId] []
    { installedSlugs := installedSlugs functions installed }

end Blockhost.Modrinth

/-! What the resolver finds: it ends, queries no project twice and downloads no file twice. It
leaves a required project out when the name of another file takes its place.
-/

namespace Blockhost.Modrinth

open Library
open Library.BreadthFirst (visits Leads)

-- Required projects

def offered (service : Service) (request : Request) (projectId : String) : Option ModFile :=
  match versionFor service request projectId with
  | .ok version => (pickPrimaryFile version).toOption
  | .error _ => none

/-- The service answers for a project: with a version that has a file of the content network, or
with no compatible version.
-/
def Answered (service : Service) (request : Request) (projectId : String) : Prop :=
  (∃ name, versionFor service request projectId = .error (.noCompatibleVersion name))
  ∨ ∃ version file, versionFor service request projectId = .ok version
    ∧ pickPrimaryFile version = .ok file

/-- A project that the root requires, or one that it requires requires, and so on. -/
abbrev Required (service : Service) (request : Request) (projectId : String) : Prop :=
  Leads (requiredBy service request) request.projectId projectId

def requiredOrder (service : Service) (request : Request) : List String :=
  (visits (requiredBy service request) (roundLimit service request) [request.projectId] []).getD []

variable {functions : LetterFunctions} {service : Service} {request : Request}
variable {rounds : Nat} {queue visited order : List String}

theorem requiredBy_leaves (projectId : String)
    (unknown : projectId ∉ knownProjects service request)
    : requiredBy service request projectId = [] := by
  have other : projectId ≠ request.projectId :=
    fun same => unknown (same ▸ List.mem_cons_self)
  have missing : service.projects.lookup projectId = none := by
    rw [List.lookup_eq_none_iff]
    intro entry member
    rw [bne_iff_ne]
    exact fun same => unknown (List.mem_cons_of_mem _ (same ▸ List.mem_map_of_mem member))
  have unanswered : getBestVersion service projectId = .error (.outage (.status 404)) := by
    simp [getBestVersion, answerOf, missing, bind, Except.bind]
  have failed : versionFor service request projectId = .error (.outage (.status 404)) := by
    unfold versionFor
    cases request.rootVersionId.filter (fun versionId => decide (versionId ≠ "")) with
    | none => exact unanswered
    | some versionId => exact (if_neg other).trans unanswered
  unfold requiredBy
  rw [failed]

theorem visitProject_answered {projectId : String} {gathered : Gathered}
    (answered : Answered service request projectId)
    : visitProject functions service request projectId gathered
      = .ok (requiredBy service request projectId,
          (offered service request projectId).toList.foldl (gather functions) gathered) := by
  unfold visitProject requiredBy offered
  rcases answered with ⟨name, found⟩ | ⟨version, file, found, picked⟩
  · rw [found]
    rfl
  · simp only [found, picked, Except.toOption]
    rfl

theorem visitProject_fails {projectId : String} {gathered : Gathered}
    (failed : ¬ Answered service request projectId)
    : ∃ failure, visitProject functions service request projectId gathered = .error failure := by
  unfold visitProject
  cases found : versionFor service request projectId with
  | error failure =>
      cases failure with
      | noCompatibleVersion name => exact absurd (.inl ⟨name, found⟩) failed
      | noDownloadableFile versionId => exact ⟨_, rfl⟩
      | unexpectedUrl url => exact ⟨_, rfl⟩
      | outage outage => exact ⟨_, rfl⟩
  | ok version =>
      cases picked : pickPrimaryFile version with
      | error failure => exact ⟨failure, by simp [picked, bind, Except.bind]⟩
      | ok file => exact absurd (.inr ⟨version, file, found, picked⟩) failed

-- The loop is a breadth-first search

theorem resolveLoop_visits {gathered : Gathered}
    (found : visits (requiredBy service request) rounds queue visited = some order)
    (answered : ∀ projectId ∈ order, Answered service request projectId)
    : resolveLoop functions service request rounds queue visited gathered
      = some (visited ++ order,
          .ok ((order.filterMap (offered service request)).foldl (gather functions) gathered)) := by
  fun_induction visits (requiredBy service request) rounds queue visited
    generalizing order gathered with
  | case1 => cases found
  | case2 =>
      cases found
      simp [resolveLoop]
  | case3 rounds projectId queue visited known ih =>
      simp only [resolveLoop, known, if_true]
      exact ih found answered
  | case4 rounds projectId queue visited new ih =>
      obtain ⟨later, searched, rfl⟩ := Option.map_eq_some_iff.mp found
      obtain ⟨own, rest⟩ := List.forall_mem_cons.mp answered
      simp only [resolveLoop, new, if_false, visitProject_answered own]
      rw [ih searched rest, List.append_assoc, List.singleton_append]
      cases offer : offered service request projectId <;> simp [offer]

theorem resolveLoop_fails {gathered : Gathered} {projectId : String}
    (found : visits (requiredBy service request) rounds queue visited = some order)
    (member : projectId ∈ order) (failed : ¬ Answered service request projectId)
    : ∃ queries failure, resolveLoop functions service request rounds queue visited gathered
        = some (queries, .error failure) := by
  fun_induction visits (requiredBy service request) rounds queue visited
    generalizing order gathered with
  | case1 => cases found
  | case2 =>
      cases found
      exact absurd member List.not_mem_nil
  | case3 rounds first queue visited known ih =>
      simp only [resolveLoop, known, if_true]
      exact ih found member
  | case4 rounds first queue visited new ih =>
      obtain ⟨later, searched, rfl⟩ := Option.map_eq_some_iff.mp found
      simp only [resolveLoop, new, if_false]
      by_cases answered : Answered service request first
      · rw [visitProject_answered answered]
        refine ih searched ((List.mem_cons.mp member).resolve_left ?_)
        exact fun same => failed (same ▸ answered)
      · obtain ⟨failure, raised⟩ := visitProject_fails answered
        rw [raised]
        exact ⟨_, failure, rfl⟩

theorem visits_requiredOrder (service : Service) (request : Request)
    : visits (requiredBy service request) (roundLimit service request) [request.projectId] []
      = some (requiredOrder service request) := by
  have enough : [request.projectId].length
        + BreadthFirst.edges (requiredBy service request) (knownProjects service request) []
      < roundLimit service request := by
    rw [roundLimit, List.length_singleton]
    omega
  obtain ⟨order, found⟩ := BreadthFirst.visits_ends requiredBy_leaves enough
  unfold requiredOrder
  rw [found, Option.getD_some]

theorem mem_requiredOrder_iff {projectId : String}
    : projectId ∈ requiredOrder service request ↔ Required service request projectId :=
  BreadthFirst.mem_visits_iff (visits_requiredOrder service request)

-- What is gathered

def ModFile.slug (functions : LetterFunctions) (file : ModFile) : String :=
  modSlugFromFilename functions file.filename

def gatherAll (functions : LetterFunctions) (slugs : List String) (files : List ModFile)
    : Gathered :=
  files.foldl (gather functions) { installedSlugs := slugs }

theorem gatherAll_append (functions : LetterFunctions) (slugs : List String)
    (files : List ModFile) (last : ModFile)
    : gatherAll functions slugs (files ++ [last])
      = gather functions (gatherAll functions slugs files) last :=
  List.foldl_append

@[simp] theorem mem_gather_slugs {gathered : Gathered} {file : ModFile} {slug : String}
    : slug ∈ (gather functions gathered file).installedSlugs
      ↔ slug ∈ gathered.installedSlugs ∨ file.slug functions = slug := by
  unfold gather ModFile.slug
  dsimp only
  split
  · rename_i known
    exact ⟨.inl, fun found => found.elim id (fun same => same ▸ known)⟩
  · rw [List.mem_append, List.mem_singleton, eq_comm]

theorem gather_toDownload (gathered : Gathered) (file : ModFile)
    : (gather functions gathered file).toDownload
      = if file.slug functions ∈ gathered.installedSlugs then gathered.toDownload
        else gathered.toDownload ++ [file] := by
  unfold gather ModFile.slug
  dsimp only
  split <;> rfl

/-- The slugs that count as installed are those from before and those of the files, by induction
from the last file.
-/
theorem mem_gatherAll_slugs {slugs : List String} {files : List ModFile} {slug : String}
    : slug ∈ (gatherAll functions slugs files).installedSlugs
      ↔ slug ∈ slugs ∨ ∃ file ∈ files, file.slug functions = slug := by
  induction files using List.reverseRecOn with
  | nil => simp [gatherAll]
  | append_singleton files last ih =>
      rw [gatherAll_append, mem_gather_slugs, ih]
      simp only [List.mem_append, List.mem_singleton, or_and_right, exists_or, exists_eq_left,
        or_assoc]

/-- A file is downloaded exactly when it is the first one of its slug and the slug is not
installed; by induction from the last file.
-/
theorem mem_gatherAll_iff {slugs : List String} {files : List ModFile} {file : ModFile}
    : file ∈ (gatherAll functions slugs files).toDownload
      ↔ file.slug functions ∉ slugs
        ∧ files.find? (fun other => other.slug functions = file.slug functions) = some file := by
  induction files using List.reverseRecOn with
  | nil => simp [gatherAll]
  | append_singleton files last ih =>
      rw [gatherAll_append, gather_toDownload, List.find?_append]
      cases earlier : files.find? (fun other => other.slug functions = file.slug functions) with
      | some first =>
          rw [earlier] at ih
          rw [Option.some_or, ← ih]
          split
          · exact Iff.rfl
          · rename_i new
            refine ⟨fun member => ?_, List.mem_append_left _⟩
            rcases List.mem_append.mp member with old | own
            · exact old
            · cases List.mem_singleton.mp own
              have named := List.find?_some earlier
              exact absurd (mem_gatherAll_slugs.mpr (.inr
                ⟨first, List.mem_of_find?_eq_some earlier, of_decide_eq_true named⟩)) new
      | none =>
          have absent : file ∉ (gatherAll functions slugs files).toDownload := by
            rw [ih, earlier]
            exact fun found => nomatch found.2
          have unnamed : ∀ other ∈ files, other.slug functions ≠ file.slug functions := by
            simpa using earlier
          rw [Option.none_or]
          split
          · rename_i taken
            refine iff_of_false absent ?_
            rintro ⟨free, found⟩
            cases List.mem_singleton.mp (List.mem_of_find?_eq_some found)
            rcases mem_gatherAll_slugs.mp taken with old | ⟨other, member, same⟩
            · exact free old
            · exact unnamed other member same
          · rename_i new
            rw [List.mem_append, or_iff_right absent, List.mem_singleton]
            constructor
            · rintro rfl
              exact ⟨fun old => new (mem_gatherAll_slugs.mpr (.inl old)), by simp⟩
            · rintro ⟨_, found⟩
              exact List.mem_singleton.mp (List.mem_of_find?_eq_some found)

theorem gatherAll_nodup (functions : LetterFunctions) (slugs : List String)
    (files : List ModFile)
    : (((gatherAll functions slugs files).toDownload).map (ModFile.slug functions)).Nodup := by
  induction files using List.reverseRecOn with
  | nil => exact List.nodup_nil
  | append_singleton files last ih =>
      rw [gatherAll_append, gather_toDownload]
      split
      · exact ih
      · rename_i new
        rw [List.map_append, List.map_singleton, ← List.concat_eq_append]
        refine ih.concat ?_
        intro again
        obtain ⟨file, member, same⟩ := List.mem_map.mp again
        have stored := List.mem_of_find?_eq_some (mem_gatherAll_iff.mp member).2
        exact new (mem_gatherAll_slugs.mpr (.inr ⟨file, stored, same⟩))

theorem gatherAll_sublist (functions : LetterFunctions) (slugs : List String)
    (files : List ModFile)
    : (gatherAll functions slugs files).toDownload.Sublist files := by
  induction files using List.reverseRecOn with
  | nil => exact .slnil
  | append_singleton files last ih =>
      rw [gatherAll_append, gather_toDownload]
      split
      · exact ih.trans (List.sublist_append_left _ _)
      · exact ih.append (List.Sublist.refl _)

-- Resolutions

def Installed (installed : List InstalledFile) (projectId : String) : Prop :=
  ∃ file ∈ installed, file.projectId = some projectId

/-- No project is queried twice, no file downloaded twice and none for two projects, and each
required project that has a version is downloaded or installed.
-/
structure Closed (service : Service) (request : Request) (installed : List InstalledFile)
    (queries : List String) (toDownload : List ModFile)
    : Prop where
  queries : queries.Nodup
  files : (toDownload.map ModFile.filename).Nodup
  projects
    : ∃ projects : List String, projects.Nodup
      ∧ toDownload = projects.filterMap (offered service request)
  complete
    : ∀ projectId, Required service request projectId
      → ∀ version, versionFor service request projectId = .ok version
      → (∃ file ∈ toDownload, pickPrimaryFile version = .ok file)
        ∨ Installed installed projectId

/-- The resolver returns a closed set of downloads. -/
def Resolves (functions : LetterFunctions) (service : Service) (request : Request)
    (installed : List InstalledFile)
    : Prop :=
  ∃ queries gathered,
    resolveInstallFiles functions service request installed = some (queries, .ok gathered)
    ∧ Closed service request installed queries gathered.toDownload

/-- Each required project is answered; and unless a file from it is installed, no installed file
has the slug of its file, and that file is the first one of its slug among those that the required
projects offer in breadth-first order.
-/
structure Unconfused (functions : LetterFunctions) (service : Service) (request : Request)
    (installed : List InstalledFile)
    : Prop where
  answered : ∀ projectId, Required service request projectId → Answered service request projectId
  named
    : ∀ projectId, Required service request projectId → ¬ Installed installed projectId
      → ∀ file, offered service request projectId = some file
      → file.slug functions ∉ installedSlugs functions installed
        ∧ ((requiredOrder service request).filterMap (offered service request)).find?
            (fun other => other.slug functions = file.slug functions) = some file

theorem resolveInstallFiles_answered (functions : LetterFunctions)
    (installed : List InstalledFile)
    (answered : ∀ projectId, Required service request projectId
      → Answered service request projectId)
    : resolveInstallFiles functions service request installed
      = some (requiredOrder service request,
          .ok (gatherAll functions (installedSlugs functions installed)
            ((requiredOrder service request).filterMap (offered service request)))) :=
  resolveLoop_visits (visits_requiredOrder service request)
    (fun projectId member => answered projectId (mem_requiredOrder_iff.mp member))

theorem resolveInstallFiles_ends (functions : LetterFunctions) (service : Service)
    (request : Request) (installed : List InstalledFile)
    : ∃ queries result,
        resolveInstallFiles functions service request installed = some (queries, result)
        ∧ ((∃ gathered, result = .ok gathered)
          ↔ ∀ projectId, Required service request projectId
            → Answered service request projectId) := by
  by_cases answered : ∀ projectId, Required service request projectId
      → Answered service request projectId
  · exact ⟨_, _, resolveInstallFiles_answered functions installed answered,
      iff_of_true ⟨_, rfl⟩ answered⟩
  · obtain ⟨projectId, required, failed⟩ : ∃ projectId, Required service request projectId
        ∧ ¬ Answered service request projectId := by
      simpa using answered
    obtain ⟨queries, failure, raised⟩
        : ∃ queries failure, resolveInstallFiles functions service request installed
          = some (queries, .error failure) :=
      resolveLoop_fails (visits_requiredOrder service request)
        (mem_requiredOrder_iff.mpr required) failed
    exact ⟨queries, .error failure, raised, iff_of_false nofun answered⟩

theorem offered_eq_some_iff {projectId : String} {file : ModFile}
    : offered service request projectId = some file
      ↔ ∃ version, versionFor service request projectId = .ok version
        ∧ pickPrimaryFile version = .ok file := by
  unfold offered
  cases versionFor service request projectId with
  | error failure => simp
  | ok version => cases picked : pickPrimaryFile version <;> simp [picked, Except.toOption]

/-- The resolver returns a closed set of downloads exactly when each required project is answered
and no other file takes its name.
-/
theorem resolves_iff (functions : LetterFunctions) (service : Service) (request : Request)
    (installed : List InstalledFile)
    : Resolves functions service request installed
      ↔ Unconfused functions service request installed := by
  constructor
  · rintro ⟨queries, gathered, ran, closed⟩
    obtain ⟨_, result, ended, raises⟩ :=
      resolveInstallFiles_ends functions service request installed
    cases ran.symm.trans ended
    have answered := raises.mp ⟨gathered, rfl⟩
    cases ran.symm.trans (resolveInstallFiles_answered functions installed answered)
    refine ⟨answered, ?_⟩
    intro projectId required missing file offer
    obtain ⟨version, found, picked⟩ := offered_eq_some_iff.mp offer
    obtain ⟨other, member, same⟩ :=
      (closed.complete projectId required version found).resolve_right missing
    cases picked.symm.trans same
    exact mem_gatherAll_iff.mp member
  · rintro ⟨answered, named⟩
    refine ⟨_, _, resolveInstallFiles_answered functions installed answered, ?_⟩
    have distinct := (BreadthFirst.visits_nodup (visits_requiredOrder service request)).1
    constructor
    · exact distinct
    · refine List.Nodup.of_map (modSlugFromFilename functions) ?_
      rw [List.map_map]
      exact gatherAll_nodup ..
    · obtain ⟨projects, part, same⟩ := List.sublist_filterMap_iff.mp (gatherAll_sublist functions
        (installedSlugs functions installed)
        ((requiredOrder service request).filterMap (offered service request)))
      exact ⟨projects, distinct.sublist part, same⟩
    · intro projectId required version found
      by_cases present : Installed installed projectId
      · exact .inr present
      · rcases answered projectId required with ⟨name, none⟩ | ⟨_, file, same, picked⟩
        · cases found.symm.trans none
        · cases found.symm.trans same
          have offer : offered service request projectId = some file :=
            offered_eq_some_iff.mpr ⟨version, found, picked⟩
          have first := named projectId required present file offer
          exact .inl ⟨file, mem_gatherAll_iff.mpr first, picked⟩

def asciiLetters : LetterFunctions where
  isDecimal := Char.isDigit
  lower text := String.ofList (text.toList.map Char.toLower)

/-- A project without dependencies whose name goes on after a number. -/
def numberedModels : Service where
  projects :=
    [("models", .ok
      [{ id := "release"
         files :=
          [{ url := "https://cdn.modrinth.com/better-3d-models-1.0.jar"
             filename := "better-3d-models-1.0.jar"
             primary := true }] }])]
  versions := []

/-- A file of another project, whose name ends before the number. -/
def betterInstalled : List InstalledFile :=
  [{ filename := "better-1.2.jar", projectId := some "better" }]

/-- Both names lose everything from their first number on, and the project is left out. -/
theorem numbered_models_left_out
    : ¬ ∀ (functions : LetterFunctions) (service : Service) (request : Request)
        (installed : List InstalledFile),
      (∀ projectId, Required service request projectId → Answered service request projectId)
      → Resolves functions service request installed := by
  intro closed
  have alone (projectId : String) (required : Required numberedModels ⟨"models", none⟩ projectId)
      : projectId = "models" := by
    induction required with
    | refl => rfl
    | tail _ follows ih =>
        subst ih
        exact absurd follows List.not_mem_nil
  have answered (projectId : String)
      (required : Required numberedModels ⟨"models", none⟩ projectId)
      : Answered numberedModels ⟨"models", none⟩ projectId := by
    rw [alone projectId required]
    exact .inr ⟨_, _, rfl, rfl⟩
  obtain ⟨queries, gathered, ran, found⟩ :=
    closed asciiLetters numberedModels ⟨"models", none⟩ betterInstalled answered
  have nothing : (resolveInstallFiles asciiLetters numberedModels ⟨"models", none⟩
      betterInstalled).map (fun found => found.2.toOption.map Gathered.toDownload)
        = some (some []) := by
    decide +kernel
  rw [ran] at nothing
  have none : gathered.toDownload = [] := Option.some.inj (Option.some.inj nothing)
  rcases found.complete "models" .refl _ rfl with ⟨file, member, _⟩ | ⟨file, member, owner⟩
  · rw [none] at member
    exact List.not_mem_nil member
  · cases List.mem_singleton.mp member
    exact absurd owner (by decide)

end Blockhost.Modrinth
