import Blockhost.Api.FilePaths

/-! Where the path checks of the control plane and of the agent agree: both read the same names
from a path, but the control plane resolves the text as it was written, with the space around it.
-/

namespace Blockhost.FilePaths

open Library

-- The law

/-- The root of a listing, a place in a folder of the policy, or a file of the policy. -/
def AllowedPlace (server : ServerRoot) (policy : FileAccessPolicy) (operation : FileOperation)
    (place : Location)
    : Prop :=
  operation = .list ∧ place = server.root
  ∨ ∃ first rest, place = server.root ++ first :: rest
    ∧ (policy.roots.contains first = true
      ∨ rest = [] ∧ policy.rootFiles.contains first = true)

structure PathsAgree (server : ServerRoot) (flavor : ServerFlavor) (operation : FileOperation)
    (path : String)
    : Prop where
  accepted
    : (∃ place, controlLocates server flavor operation path = .ok place)
      ↔ ∃ place,
          agentLocates server (agentPolicyParams (fileAccessPolicy flavor)) operation path
            = .ok place
  same
    : ∀ control agent, controlLocates server flavor operation path = .ok control
      → agentLocates server (agentPolicyParams (fileAccessPolicy flavor)) operation path
        = .ok agent
      → control = agent
  allowed
    : ∀ place,
        controlLocates server flavor operation path = .ok place
          ∨ agentLocates server (agentPolicyParams (fileAccessPolicy flavor)) operation path
            = .ok place
        → AllowedPlace server (fileAccessPolicy flavor) operation place

/-- Where names lead from the server's directory, if that is below it. -/
def ServerRoot.leads (server : ServerRoot) (parts : RawPath) : Option Location :=
  (server.resolve (server.root ++ parts)).filter (fun place => server.root.isPrefixOf place)

def writtenParts (path : String) : RawPath :=
  pathParts (String.ofList (path.toList.dropWhile isSlash))

def permits (policy : FileAccessPolicy) (allowRoot allowRootFile : Bool)
    : List String → Bool
  | [] => allowRoot
  | first :: rest =>
      if rest = [] ∧ policy.rootFiles.contains first then allowRootFile
      else policy.roots.contains first

/-- The condition, for a path that the policy permits: written names lead where the parsed names
lead, which is an allowed place or none below the server's directory. A listing without names is
one that the agent takes for the root, or both refuse it.
-/
def ChecksCoincide (server : ServerRoot) (flavor : ServerFlavor) (operation : FileOperation)
    (path : String)
    : Prop :=
  ∀ parts, parseRelativeParts path = .ok parts
    → permits (fileAccessPolicy flavor) operation.allowRoot operation.allowRootFile parts = true
    → (parts = [] → listsRoot path = true)
      ∧ server.leads (writtenParts path) = server.leads parts
      ∧ (∀ place, server.leads parts = some place
        → AllowedPlace server (fileAccessPolicy flavor) operation place)
    ∨ parts = [] ∧ listsRoot path = false ∧ server.leads (writtenParts path) = none

-- Names

variable {server : ServerRoot} {flavor : ServerFlavor} {operation : FileOperation}
variable {path : String} {parts : List String} {place : Location}

structure PlainName (name : String) : Prop where
  real : name.toList ≠ []
  single : '/' ∉ name.toList
  notHere : name ≠ "."
  notParent : name ≠ ".."

theorem parsed_plain (parsed : parseRelativeParts path = .ok parts)
    : ∀ name ∈ parts, PlainName name := by
  unfold parseRelativeParts at parsed
  dsimp only at parsed
  split at parsed
  · cases parsed
  · rename_i clean
    cases parsed
    rw [Bool.or_eq_true, not_or] at clean
    intro name member
    obtain ⟨part, listed, rfl⟩ := List.mem_map.mp member
    obtain ⟨real, single⟩ := mem_segments listed
    refine ⟨by simpa using real, by simpa using single, ?_, ?_⟩
    · intro same
      exact clean.1 (List.contains_iff_mem.mpr (same ▸ member))
    · intro same
      exact clean.2 (List.contains_iff_mem.mpr (same ▸ member))

theorem joinPath_relative {base : RawPath} {text : String} (relative : isAbsolute text = false)
    : joinPath base text = base ++ pathParts text := by
  unfold joinPath
  rw [relative]
  rfl

theorem joinPath_written (base : RawPath) (path : String)
    : joinPath base (String.ofList (path.toList.dropWhile isSlash))
      = base ++ writtenParts path := by
  refine joinPath_relative ?_
  unfold isAbsolute
  rw [String.toList_ofList, decide_eq_false_iff_not]
  intro first
  have kept := List.head?_dropWhile_not isSlash path.toList
  rw [first] at kept
  exact absurd kept (by decide)

theorem pathParts_joinParts (plain : ∀ name ∈ parts, PlainName name)
    : pathParts (joinParts parts) = parts := by
  cases parts with
  | nil => rfl
  | cons first rest =>
      have single : ∀ text ∈ (first :: rest).map String.toList, '/' ∉ text := by
        intro text member
        obtain ⟨name, known, rfl⟩ := List.mem_map.mp member
        exact (plain name known).single
      have split := List.splitOn_intercalate '/' single (by simp)
      unfold pathParts joinParts
      rw [String.toList_ofList, split, List.map_map, List.filter_eq_self.mpr]
      · simp [Function.comp_def]
      · intro name member
        obtain ⟨original, known, rfl⟩ := List.mem_map.mp member
        have isName := plain original known
        have real : original ≠ "" := fun empty => isName.real (by rw [empty]; rfl)
        simp [real, isName.notHere]

theorem joinPath_joinParts (base : RawPath) (plain : ∀ name ∈ parts, PlainName name)
    : joinPath base (joinParts parts) = base ++ parts := by
  rw [joinPath_relative, pathParts_joinParts plain]
  cases parts with
  | nil => rfl
  | cons first rest =>
      have isName := plain first List.mem_cons_self
      unfold isAbsolute joinParts
      rw [String.toList_ofList, decide_eq_false_iff_not]
      intro slash
      obtain ⟨letter, letters, text⟩ := List.exists_cons_of_ne_nil isName.real
      rw [List.map_cons, text] at slash
      have same : letter = '/' := by
        cases rest with
        | nil => simpa using slash
        | cons second more => simpa [List.intercalate_cons_cons] using slash
      exact isName.single (by rw [text, same]; exact List.mem_cons_self)

-- Checks

theorem leads_root : server.leads [] = some server.root := by
  unfold ServerRoot.leads
  rw [List.append_nil, server.resolved]
  simp

theorem follow_ok {text : String} {names : RawPath}
    (joined : joinPath server.root text = server.root ++ names)
    : server.follow text = .ok place ↔ server.leads names = some place := by
  unfold ServerRoot.follow ServerRoot.leads
  rw [joined]
  cases server.resolve (server.root ++ names) with
  | none => simp
  | some found =>
      rw [Option.filter_some]
      dsimp only
      split
      · exact ⟨fun same => congrArg some (Except.ok.inj same),
          fun same => congrArg Except.ok (Option.some.inj same)⟩
      · exact ⟨nofun, nofun⟩

section Permits

variable {policy : FileAccessPolicy} {allowRoot allowRootFile : Bool} {first : String}
variable {rest : List String}

theorem permits_file (isFile : rest = [] ∧ policy.rootFiles.contains first = true)
    : permits policy allowRoot allowRootFile (first :: rest) = allowRootFile :=
  if_pos isFile

theorem permits_root (noFile : ¬ (rest = [] ∧ policy.rootFiles.contains first = true))
    : permits policy allowRoot allowRootFile (first :: rest) = policy.roots.contains first :=
  if_neg noFile

end Permits

theorem checkFilePolicy_eq (policy : FileAccessPolicy) (allowRoot allowRootFile : Bool)
    (parts : List String)
    : checkFilePolicy policy allowRoot allowRootFile parts
      = if permits policy allowRoot allowRootFile parts then .ok parts
        else .error accessDenied := by
  cases parts with
  | nil => rfl
  | cons first rest =>
      by_cases isFile : rest = [] ∧ policy.rootFiles.contains first = true
      · rw [permits_file isFile]
        exact if_pos isFile
      · rw [permits_root isFile]
        refine (if_neg isFile).trans ?_
        cases policy.roots.contains first <;> rfl

theorem agentCheckParts_eq (policy : FileAccessPolicy) (allowRoot allowRootFile : Bool)
    (parts : List String)
    : agentCheckParts policy.roots policy.rootFiles allowRoot allowRootFile parts
      = if permits policy allowRoot allowRootFile parts then .ok ()
        else .error accessDenied := by
  cases parts with
  | nil => cases allowRoot <;> rfl
  | cons first rest =>
      by_cases isFile : rest = [] ∧ policy.rootFiles.contains first = true
      · rw [permits_file isFile]
        refine (if_pos isFile).trans ?_
        cases allowRootFile <;> rfl
      · rw [permits_root isFile]
        refine (if_neg isFile).trans ?_
        cases policy.roots.contains first <;> rfl

theorem permits_sorted (policy : FileAccessPolicy) (allowRoot allowRootFile : Bool)
    (parts : List String)
    : permits
        { roots := policy.roots.insertionSort (· ≤ ·)
          rootFiles := policy.rootFiles.insertionSort (· ≤ ·) }
        allowRoot allowRootFile parts
      = permits policy allowRoot allowRootFile parts := by
  have sorted (names : List String) (name : String)
      : (names.insertionSort (· ≤ ·)).contains name = names.contains name := by
    rw [Bool.eq_iff_iff, List.contains_iff_mem, List.contains_iff_mem, List.mem_insertionSort]
  cases parts with
  | nil => rfl
  | cons first rest => simp only [permits, sorted]

theorem controlLocates_ok
    : controlLocates server flavor operation path = .ok place
      ↔ ∃ parts, parseRelativeParts path = .ok parts
        ∧ permits (fileAccessPolicy flavor) operation.allowRoot operation.allowRootFile parts
          = true
        ∧ server.leads (writtenParts path) = some place := by
  have follows
      : server.follow (String.ofList (path.toList.dropWhile isSlash)) = .ok place
        ↔ server.leads (writtenParts path) = some place :=
    follow_ok (joinPath_written server.root path)
  unfold controlLocates validateSafePath validateFilePolicyPath
  cases parsed : parseRelativeParts path with
  | error failure => exact ⟨nofun, nofun⟩
  | ok parts =>
      simp only [bind, Except.bind, checkFilePolicy_eq]
      cases permitted : permits (fileAccessPolicy flavor) operation.allowRoot
          operation.allowRootFile parts with
      | false => simp [permitted]
      | true => simp [permitted, follows]

/-- The agent permits the names that the control plane permits, except for a listing without
names.
-/
theorem agentValidateSafePath_ok
    : agentValidateSafePath server path
          (parseAllowedCsv (agentPolicyParams (fileAccessPolicy flavor)).allowedRoots
            allowedRoots)
          (parseAllowedCsv (agentPolicyParams (fileAccessPolicy flavor)).allowedFiles
            allowedRootFiles)
          false operation.allowRootFile = .ok place
      ↔ ∃ parts, parseRelativeParts path = .ok parts
        ∧ permits (fileAccessPolicy flavor) false operation.allowRootFile parts = true
        ∧ server.leads parts = some place := by
  obtain ⟨roots, files⟩ := parsed_policy flavor
  have real := policy_ne_nil flavor
  have rootsReal : (fileAccessPolicy flavor).roots.insertionSort (· ≤ ·) ≠ [] := by
    rw [← List.length_pos_iff_ne_nil, List.length_insertionSort, List.length_pos_iff_ne_nil]
    exact real.1
  have filesReal : (fileAccessPolicy flavor).rootFiles.insertionSort (· ≤ ·) ≠ [] := by
    rw [← List.length_pos_iff_ne_nil, List.length_insertionSort, List.length_pos_iff_ne_nil]
    exact real.2
  unfold agentValidateSafePath
  rw [roots, files]
  dsimp only
  rw [if_neg rootsReal, if_neg filesReal]
  cases parsed : parseRelativeParts path with
  | error failure => exact ⟨nofun, nofun⟩
  | ok parts =>
      have follows
          : server.follow (joinParts parts) = .ok place ↔ server.leads parts = some place :=
        follow_ok (joinPath_joinParts server.root (parsed_plain parsed))
      have checked := agentCheckParts_eq
        { roots := (fileAccessPolicy flavor).roots.insertionSort (· ≤ ·)
          rootFiles := (fileAccessPolicy flavor).rootFiles.insertionSort (· ≤ ·) }
        false operation.allowRootFile parts
      rw [permits_sorted] at checked
      simp only [bind, Except.bind, checked]
      cases permitted : permits (fileAccessPolicy flavor) false operation.allowRootFile parts with
      | false => simp [permitted]
      | true => simp [permitted, follows]

theorem parsed_of_listsRoot (lists : listsRoot path = true)
    : parseRelativeParts path = .ok [] := by
  have bare : (strip path.toList).dropWhile isSlash = [] := by
    rcases Bool.or_eq_true_iff.mp lists with empty | slash
    · rw [of_decide_eq_true empty]
      rfl
    · rw [of_decide_eq_true slash]
      rfl
  unfold parseRelativeParts
  rw [bare]
  rfl

theorem permits_named (policy : FileAccessPolicy) (allowRootFile : Bool) (named : parts ≠ [])
    (allowRoot : Bool)
    : permits policy allowRoot allowRootFile parts = permits policy false allowRootFile parts := by
  cases parts with
  | nil => exact absurd rfl named
  | cons first rest => rfl

theorem agentLocates_ok
    : agentLocates server (agentPolicyParams (fileAccessPolicy flavor)) operation path = .ok place
      ↔ ∃ parts, parseRelativeParts path = .ok parts
        ∧ permits (fileAccessPolicy flavor) operation.allowRoot operation.allowRootFile parts
          = true
        ∧ (parts = [] → listsRoot path = true)
        ∧ server.leads parts = some place := by
  unfold agentLocates
  dsimp only
  by_cases root : operation = .list ∧ listsRoot path = true
  · have parsed := parsed_of_listsRoot root.2
    rw [if_pos root]
    constructor
    · intro same
      cases same
      refine ⟨[], parsed, ?_, fun _ => root.2, leads_root⟩
      rw [root.1]
      rfl
    · rintro ⟨parts, names, _, _, led⟩
      cases parsed.symm.trans names
      rw [Option.some.inj (leads_root.symm.trans led)]
  · rw [if_neg root, agentValidateSafePath_ok]
    constructor
    · rintro ⟨parts, parsed, permitted, led⟩
      have named : parts ≠ [] := by
        rintro rfl
        cases permitted
      refine ⟨parts, parsed, ?_, fun none => absurd none named, led⟩
      rw [permits_named _ _ named]
      exact permitted
    · rintro ⟨parts, parsed, permitted, lists, led⟩
      have named : parts ≠ [] := by
        intro none
        rw [none] at permitted
        exact root ⟨of_decide_eq_true permitted, lists none⟩
      rw [permits_named _ _ named] at permitted
      exact ⟨parts, parsed, permitted, led⟩

-- Agreement

/-- The two checks agree exactly under the condition. -/
theorem paths_agree_iff
    : PathsAgree server flavor operation path ↔ ChecksCoincide server flavor operation path := by
  constructor
  · intro agree parts parsed permitted
    have control (place : Location) (led : server.leads (writtenParts path) = some place)
        : controlLocates server flavor operation path = .ok place :=
      controlLocates_ok.mpr ⟨parts, parsed, permitted, led⟩
    have agent (place : Location) (lists : parts = [] → listsRoot path = true)
        (led : server.leads parts = some place)
        : agentLocates server (agentPolicyParams (fileAccessPolicy flavor)) operation path
          = .ok place :=
      agentLocates_ok.mpr ⟨parts, parsed, permitted, lists, led⟩
    by_cases lists : parts = [] → listsRoot path = true
    · refine .inl ⟨lists, ?_, fun place led => agree.allowed place (.inr (agent place lists led))⟩
      cases led : server.leads parts with
      | some place =>
          have found := agent place lists led
          obtain ⟨other, located⟩ := agree.accepted.mpr ⟨place, found⟩
          obtain ⟨_, _, _, written⟩ := controlLocates_ok.mp located
          rw [written, agree.same other place located found]
      | none =>
          cases written : server.leads (writtenParts path) with
          | none => rfl
          | some place =>
              obtain ⟨other, located⟩ := agree.accepted.mp ⟨place, control place written⟩
              obtain ⟨names, same, _, _, found⟩ := agentLocates_ok.mp located
              cases parsed.symm.trans same
              cases led.symm.trans found
    · obtain ⟨none, unlisted⟩ := Classical.not_imp.mp lists
      refine .inr ⟨none, Bool.eq_false_iff.mpr unlisted, ?_⟩
      cases written : server.leads (writtenParts path) with
      | none => rfl
      | some place =>
          obtain ⟨other, located⟩ := agree.accepted.mp ⟨place, control place written⟩
          obtain ⟨names, same, _, listed, _⟩ := agentLocates_ok.mp located
          cases parsed.symm.trans same
          exact absurd (listed none) unlisted
  · intro coincide
    have both (place : Location)
        : (controlLocates server flavor operation path = .ok place
            ↔ agentLocates server (agentPolicyParams (fileAccessPolicy flavor)) operation path
              = .ok place)
          ∧ (controlLocates server flavor operation path = .ok place
            → AllowedPlace server (fileAccessPolicy flavor) operation place) := by
      rw [controlLocates_ok, agentLocates_ok]
      constructor
      · constructor
        · rintro ⟨parts, parsed, permitted, written⟩
          rcases coincide parts parsed permitted with ⟨lists, same, _⟩ | ⟨_, _, nowhere⟩
          · exact ⟨parts, parsed, permitted, lists, same.symm.trans written⟩
          · cases nowhere.symm.trans written
        · rintro ⟨parts, parsed, permitted, lists, led⟩
          rcases coincide parts parsed permitted with ⟨_, same, _⟩ | ⟨none, unlisted, _⟩
          · exact ⟨parts, parsed, permitted, same.trans led⟩
          · cases unlisted.symm.trans (lists none)
      · rintro ⟨parts, parsed, permitted, written⟩
        rcases coincide parts parsed permitted with ⟨_, same, allowed⟩ | ⟨_, _, nowhere⟩
        · exact allowed place (same.symm.trans written)
        · cases nowhere.symm.trans written
    refine ⟨exists_congr fun place => (both place).1, ?_, ?_⟩
    · intro control agent located found
      cases located.symm.trans ((both agent).1.mpr found)
      rfl
    · rintro place (located | found)
      · exact (both place).2 located
      · exact (both place).2 ((both place).1.mpr found)

/-- A disk without links, on which the servers lie in one directory. -/
private def plainDisk : ServerRoot where
  root := ["srv", "blockhost"]
  resolve path := some (normalizePath path)
  resolved := rfl

/-- Both programs take a path with a space before it for a path in `worlds`; the control plane
resolves it to another folder, which no policy opens.
-/
theorem padded_path_leads_elsewhere
    : controlLocates plainDisk .bedrock .read " worlds/level.dat"
        = .ok ["srv", "blockhost", " worlds", "level.dat"]
      ∧ agentLocates plainDisk (agentPolicyParams (fileAccessPolicy .bedrock)) .read
          " worlds/level.dat"
        = .ok ["srv", "blockhost", "worlds", "level.dat"]
      ∧ ¬ PathsAgree plainDisk .bedrock .read " worlds/level.dat" := by
  have control : controlLocates plainDisk .bedrock .read " worlds/level.dat"
      = .ok ["srv", "blockhost", " worlds", "level.dat"] := by
    decide +kernel
  have agent : agentLocates plainDisk (agentPolicyParams (fileAccessPolicy .bedrock)) .read
      " worlds/level.dat"
      = .ok ["srv", "blockhost", "worlds", "level.dat"] := by
    decide +kernel
  refine ⟨control, agent, ?_⟩
  intro agree
  exact absurd (agree.same _ _ control agent) (by decide)

end Blockhost.FilePaths
