import Blockhost.Api.Schemas
import Blockhost.Library.FileTree
import Blockhost.Library.Run

/-! The directory of a Bedrock server over many starts. A start links or copies the assets of a
version wherever nothing is there yet, so what is there was laid out by any earlier start.
-/

namespace Blockhost.VersionLayout

open Library

variable {Content : Type}

-- Versions

/-- A child of a version's directory; special files are neither folders nor regular files. -/
inductive Asset (Content : Type) where
  | folder
  | file (content : Content)
  | special

def Asset.isFolder : Asset Content → Bool
  | .folder => true
  | .file _ | .special => false

/-- An installed version, with the children of its directory in any order. -/
structure Version (Content : Type) where
  children : List (String × Asset Content)
  distinct : (children.map Prod.fst).Nodup

def Version.asset (version : Version Content) (name : String) : Option (Asset Content) :=
  version.children.lookup name

abbrev Store (Content : Type) := String → Option (Version Content)

/-- `_BINARY_NAMES` -/
def binaryNames : List String :=
  ["bedrock_server", "bedrock_server.exe", "bedrock_server_symbols.debug"]

/-- `_SO_RE`, whose end may come before a last line break. -/
def isSharedLibrary (name : String) : Bool :=
  let text := name.toList
  let line := if text.getLast? = some '\n' then text.dropLast else text
  "lib".toList.isPrefixOf line && !line.contains '\n'
    && (line.drop 3).tails.any (fun rest =>
      ".so".toList.isPrefixOf rest && (rest.drop 3).head?.all (fun letter => letter = '.'))

def isStatic (name : String) : Asset Content → Bool
  | .folder => true
  | .file _ => binaryNames.contains name || isSharedLibrary name
  | .special => false

def isMarker (name : String) : Bool := ".blockhost".toList.isPrefixOf name.toList

-- Directories

inductive ServerFile (Content : Type) where
  | own (content : Content)
  | link (version asset : String)
deriving DecidableEq, Repr

abbrev ServerTree (Content : Type) := FileTree (ServerFile Content)

def linkAt (tree : ServerTree Content) (path : Location) (version asset : String) : Prop :=
  tree.lookup path = some (.file (.link version asset))

/-- `target.exists()`, which follows a link. -/
def present (store : Store Content) (tree : ServerTree Content) (path : Location) : Bool :=
  match tree.lookup path with
  | none => false
  | some (.file (.link version asset)) =>
      (store version).any (fun installed => (installed.asset asset).isSome)
  | some _ => true

/-- What a start puts under a name, if anything. -/
def placed (version name : String) (asset : Asset Content) : Option (ServerFile Content) :=
  match asset with
  | .folder => some (.link version name)
  | .file content =>
      if isStatic name asset then some (.link version name) else some (.own content)
  | .special => none

/-- One child of the version. An operating system error is passed over, such as the one for a link
in place of another one.
-/
def placeChild (store : Store Content) (version : String) (fails : String → Bool)
    (child : String × Asset Content) (tree : ServerTree Content)
    : ServerTree Content :=
  if isMarker child.1 || present store tree [child.1] || fails child.1
      || tree.exists? [child.1] then tree
  else
    match placed version child.1 child.2 with
    | none => tree
    | some file => (tree.writeFile [child.1] file).getD tree

def placeChildren (store : Store Content) (version : String) (fails : String → Bool)
    : List (String × Asset Content) → ServerTree Content → ServerTree Content
  | [], tree => tree
  | child :: rest, tree =>
      placeChildren store version fails rest (placeChild store version fails child tree)

/-- The answer of the download site. -/
inductive Download (Content : Type) where
  | installs (version : Version Content)
  | unavailable
  | fails (error : HttpError)

/-- What a start meets outside the disk, and the names for which a link or a copy fails. -/
structure StartInputs (Content : Type) where
  download : String → Download Content
  latest : Except String String
  fails : String → Bool := fun _ => false

def chooseVersion (store : Store Content) (inputs : StartInputs Content) (requested : String)
    : Except HttpError (Store Content × String) :=
  if (store requested).isSome then .ok (store, requested)
  else
    match inputs.download requested with
    | .installs version => .ok (Function.update store requested (some version), requested)
    | .fails failure => .error failure
    | .unavailable =>
        match inputs.latest with
        | .error text =>
            .error ⟨502, "Requested version unavailable and failed to fetch latest: " ++ text⟩
        | .ok latest =>
            if (store latest).isSome then .ok (store, latest)
            else
              match inputs.download latest with
              | .installs version => .ok (Function.update store latest (some version), latest)
              | .fails failure => .error failure
              | .unavailable => .error internalError

/-- An agent's versions and the directory of one server, whose links lead to assets. Installed
versions stay as they are.
-/
structure World (Content : Type) where
  store : Store Content
  tree : ServerTree Content
  live
    : ∀ path version asset, linkAt tree path version asset
      → ∃ installed, store version = some installed ∧ (installed.asset asset).isSome = true

-- What one start leaves

variable {store : Store Content} {version : String} {fails : String → Bool}
variable {tree : ServerTree Content} {inputs : StartInputs Content}

/-- A start changes nothing but missing names, and puts there what belongs to its version. -/
def Lays (version : String) (children : List (String × Asset Content))
    (before after : ServerTree Content)
    : Prop :=
  ∀ path, after.lookup path = before.lookup path
    ∨ before.lookup path = none
      ∧ ∃ name asset file, (name, asset) ∈ children ∧ path = [name]
        ∧ placed version name asset = some file ∧ after.lookup path = some (.file file)

theorem placeChild_lays (store : Store Content) (fails : String → Bool)
    (child : String × Asset Content)
    : Lays version [child] tree (placeChild store version fails child tree) := by
  intro path
  unfold placeChild
  split
  · exact .inl rfl
  · rename_i passes
    simp only [Bool.or_eq_true, not_or] at passes
    cases puts : placed version child.1 child.2 with
    | none => exact .inl rfl
    | some file =>
        have writable : tree.Writable [child.1] := by
          refine ⟨List.cons_ne_nil _ _, FileTree.isDir_eq_true.mpr tree.root, ?_⟩
          rw [Bool.eq_false_iff, ne_eq, FileTree.isDir_eq_true]
          intro stored
          exact passes.2 (FileTree.exists?_eq_true.mpr (by rw [stored]; nofun))
        obtain ⟨next, written⟩ := writable.writes file
        have missing : tree.lookup [child.1] = none := by
          simpa [FileTree.exists?] using passes.2
        dsimp only
        rw [written, Option.getD_some, (FileTree.writeFile_some written).2]
        by_cases same : path = [child.1]
        · subst same
          exact .inr ⟨missing, child.1, child.2, file, List.mem_singleton_self _, rfl, puts,
            if_pos rfl⟩
        · exact .inl (if_neg same)

/-- By induction on the children. -/
theorem placeChildren_lays (store : Store Content) (fails : String → Bool)
    (children : List (String × Asset Content)) (tree : ServerTree Content)
    : Lays version children tree (placeChildren store version fails children tree) := by
  induction children generalizing tree with
  | nil => exact fun _ => .inl rfl
  | cons child rest ih =>
      intro path
      rcases ih (placeChild store version fails child tree) path with kept | laid
      · rcases placeChild_lays store fails child path with same | first
        · exact .inl (kept.trans same)
        · obtain ⟨missing, name, asset, file, member, here, puts, found⟩ := first
          exact .inr ⟨missing, name, asset, file,
            List.mem_cons.mpr (.inl (List.mem_singleton.mp member)), here, puts,
            kept.trans found⟩
      · obtain ⟨missing, name, asset, file, member, here, puts, found⟩ := laid
        refine .inr ⟨?_, name, asset, file, List.mem_cons_of_mem _ member, here, puts, found⟩
        rcases placeChild_lays store fails child path with same | first
        · exact same.symm.trans missing
        · exact first.1

theorem placed_link {name target asset : String} {kind : Asset Content}
    (puts : placed version name kind = some (.link target asset))
    : target = version ∧ asset = name := by
  cases kind with
  | folder =>
      cases puts
      exact ⟨rfl, rfl⟩
  | file content =>
      by_cases linked : isStatic name (.file content) = true
      · cases (if_pos linked).symm.trans puts
        exact ⟨rfl, rfl⟩
      · cases (if_neg linked).symm.trans puts
  | special => cases puts

theorem placed_static {name : String} {asset : Asset Content}
    (isLinked : isStatic name asset = true)
    : placed version name asset = some (.link version name) := by
  cases asset with
  | folder => rfl
  | file content => exact if_pos isLinked
  | special => cases isLinked

theorem Lays.links {children : List (String × Asset Content)} {before after : ServerTree Content}
    (lays : Lays version children before after) {path : Location} {other asset : String}
    (link : linkAt after path other asset)
    : linkAt before path other asset
      ∨ other = version ∧ ∃ kind, (asset, kind) ∈ children := by
  rcases lays path with kept | ⟨_, name, kind, file, member, rfl, puts, found⟩
  · exact .inl (kept.symm.trans link)
  · have same : file = .link other asset := Entry.file.inj (Option.some.inj (found.symm.trans link))
    subst same
    obtain ⟨rfl, rfl⟩ := placed_link puts
    exact .inr ⟨rfl, kind, member⟩

theorem Lays.kept {children : List (String × Asset Content)} {before after : ServerTree Content}
    (lays : Lays version children before after) {path : Location}
    (stored : before.lookup path ≠ none)
    : after.lookup path = before.lookup path := by
  rcases lays path with same | ⟨missing, _⟩
  · exact same
  · exact absurd missing stored

/-- By induction on the children. -/
theorem Version.asset_eq_some {installed : Version Content} {name : String} {kind : Asset Content}
    : installed.asset name = some kind ↔ (name, kind) ∈ installed.children := by
  obtain ⟨children, distinct⟩ := installed
  unfold asset
  dsimp only
  induction children with
  | nil => simp
  | cons child rest ih =>
      obtain ⟨first, others⟩ := List.nodup_cons.mp distinct
      rw [List.lookup_cons, List.mem_cons]
      by_cases same : name = child.1
      · subst same
        simp only [beq_self_eq_true, Option.some.injEq]
        constructor
        · rintro rfl
          exact .inl rfl
        · rintro (whole | member)
          · exact (congrArg Prod.snd whole).symm
          · exact absurd (List.mem_map_of_mem member) first
      · rw [beq_false_of_ne same]
        refine (ih others).trans ?_
        constructor
        · exact .inr
        · rintro (rfl | member)
          · exact absurd rfl same
          · exact member

theorem chooseVersion_ok {store next : Store Content} {requested actual : String}
    (chosen : chooseVersion store inputs requested = .ok (next, actual))
    : (∃ installed, next actual = some installed)
      ∧ ∀ other installed, store other = some installed → next other = some installed := by
  have grown (name : String) (version : Version Content) (missing : store name = none)
      : (∃ installed, Function.update store name (some version) name = some installed)
        ∧ ∀ other installed, store other = some installed
          → Function.update store name (some version) other = some installed := by
    refine ⟨⟨version, Function.update_self ..⟩, ?_⟩
    intro other installed known
    rw [Function.update_of_ne, known]
    rintro rfl
    cases missing.symm.trans known
  unfold chooseVersion at chosen
  split at chosen
  · rename_i there
    cases chosen
    exact ⟨Option.isSome_iff_exists.mp there, fun _ _ known => known⟩
  · rename_i missing
    split at chosen
    · cases chosen
      exact grown requested _ (by simpa using missing)
    · cases chosen
    · split at chosen
      · cases chosen
      · split at chosen
        · rename_i there
          cases chosen
          exact ⟨Option.isSome_iff_exists.mp there, fun _ _ known => known⟩
        · rename_i absent
          split at chosen
          · cases chosen
            exact grown _ _ (by simpa using absent)
          · cases chosen
          · cases chosen

def obtained (store : Store Content) (inputs : StartInputs Content) (requested : String)
    : Option (Version Content) :=
  match store requested, inputs.download requested with
  | some installed, _ => some installed
  | none, .installs version => some version
  | none, .unavailable => none
  | none, .fails _ => none

theorem chooseVersion_requested {requested : String} {installed : Version Content}
    : (∃ next, chooseVersion store inputs requested = .ok (next, requested)
        ∧ next requested = some installed)
      ↔ obtained store inputs requested = some installed := by
  unfold chooseVersion obtained
  cases stored : store requested with
  | some known => simp [stored]
  | none =>
      cases answer : inputs.download requested with
      | installs version => simp
      | fails failure => simp
      | unavailable =>
          cases inputs.latest with
          | error text => simp
          | ok latest =>
              by_cases same : latest = requested
              · subst same
                simp [stored, answer]
              · simp only [Option.isSome_none, Bool.false_eq_true, if_false, reduceCtorEq,
                  iff_false, not_exists, not_and]
                intro next chosen
                split at chosen
                · cases chosen
                  contradiction
                · split at chosen <;> cases chosen
                  contradiction

def childrenOf (store : Store Content) (version : String) : List (String × Asset Content) :=
  ((store version).map Version.children).getD []

/-- The directory after a start with a version. -/
def layOut (store : Store Content) (version : String) (fails : String → Bool)
    (tree : ServerTree Content)
    : ServerTree Content :=
  placeChildren store version fails (childrenOf store version) tree

theorem layOut_live {world : World Content} {next : Store Content} {requested actual : String}
    (chosen : chooseVersion world.store inputs requested = .ok (next, actual))
    : ∀ path version asset, linkAt (layOut next actual inputs.fails world.tree) path version asset
      → ∃ installed, next version = some installed ∧ (installed.asset asset).isSome = true := by
  intro path version asset link
  obtain ⟨⟨installed, found⟩, grows⟩ := chooseVersion_ok chosen
  rcases (placeChildren_lays next inputs.fails _ world.tree).links link with old
    | ⟨rfl, kind, member⟩
  · obtain ⟨other, known, shipped⟩ := world.live path version asset old
    exact ⟨other, grows version other known, shipped⟩
  · rw [childrenOf, found] at member
    exact ⟨installed, found, Option.isSome_iff_exists.mpr ⟨kind, Version.asset_eq_some.mpr member⟩⟩

/-- `_ensure_server_layout`, with the version that it uses. -/
def ensureServerLayout (inputs : StartInputs Content) (requested : String) (world : World Content)
    : World Content × Except HttpError String :=
  match chosen : chooseVersion world.store inputs requested with
  | .error failure => (world, .error failure)
  | .ok (store, actual) =>
      ({ store
         tree := layOut store actual inputs.fails world.tree
         live := layOut_live chosen },
        .ok actual)

-- Switches

def isUserPath : Location → Bool
  | [name] => ["worlds", "server.properties", "allowlist.json", "permissions.json"].contains name
  | first :: _ => first = "worlds"
  | [] => false

/-- A start takes effect: every static asset of the version that the directory exposes is that of
the version, no link leads to another version, and what users have there is as before.
-/
structure Effective (version : String) (installed : Version Content) (store : Store Content)
    (before after : ServerTree Content)
    : Prop where
  static
    : ∀ name kind, installed.asset name = some kind → isMarker name = false
      → isStatic name kind = true → present store after [name] = true
      → linkAt after [name] version name
  links : ∀ path other asset, linkAt after path other asset → other = version
  kept
    : ∀ path, isUserPath path = true → before.lookup path ≠ none
      → after.lookup path = before.lookup path

/-- A directory is ready for a version: its links lead to that version, and nothing else is there
in place of a static asset.
-/
structure Ready (version : String) (installed : Version Content) (before : ServerTree Content)
    : Prop where
  links : ∀ path other asset, linkAt before path other asset → other = version
  free
    : ∀ name kind, installed.asset name = some kind → isMarker name = false
      → isStatic name kind = true → before.lookup [name] ≠ none
      → linkAt before [name] version name

theorem layOut_effective_iff (world : World Content) {next : Store Content}
    {requested actual : String} {installed : Version Content}
    (chosen : chooseVersion world.store inputs requested = .ok (next, actual))
    (found : next actual = some installed)
    : Effective actual installed next world.tree (layOut next actual inputs.fails world.tree)
      ↔ Ready actual installed world.tree := by
  have lays : Lays actual installed.children world.tree
      (layOut next actual inputs.fails world.tree) := by
    have children : childrenOf next actual = installed.children := by
      rw [childrenOf, found]
      rfl
    rw [← children]
    exact placeChildren_lays next inputs.fails _ world.tree
  obtain ⟨_, grows⟩ := chooseVersion_ok chosen
  constructor
  · intro effective
    constructor
    · intro path other asset link
      have stays : (layOut next actual inputs.fails world.tree).lookup path
          = world.tree.lookup path :=
        lays.kept (by rw [link]; nofun)
      exact effective.links path other asset (stays.trans link)
    · intro name kind ships unmarked linked stored
      have stays := lays.kept stored
      refine stays.symm.trans (effective.static name kind ships unmarked linked ?_)
      unfold present
      rw [stays]
      split
      · contradiction
      · rename_i other asset link
        obtain ⟨owner, known, shipped⟩ := world.live _ other asset link
        rw [grows other owner known]
        exact shipped
      · rfl
  · intro ready
    constructor
    · intro name kind ships unmarked linked exposed
      by_cases stored : world.tree.lookup [name] = none
      · rcases lays [name] with kept | ⟨_, other, otherKind, file, member, here, puts, laid⟩
        · rw [present, kept, stored] at exposed
          cases exposed
        · cases here
          cases (Version.asset_eq_some.mpr member).symm.trans ships
          cases (placed_static linked).symm.trans puts
          exact laid
      · exact (lays.kept stored).trans (ready.free name kind ships unmarked linked stored)
    · intro path other asset link
      rcases lays.links link with old | ⟨same, _⟩
      · exact ready.links path other asset old
      · exact same
    · exact fun path _ stored => lays.kept stored

/-- A start of the server, or any other change of its directory, by the game or by its users. -/
inductive LayoutEvent (Content : Type) where
  | start (requested : String) (inputs : StartInputs Content)
  | change

inductive LayoutStep : World Content → LayoutEvent Content → World Content → Prop where
  | start {world : World Content} {requested : String} {inputs : StartInputs Content}
      : LayoutStep world (.start requested inputs) (ensureServerLayout inputs requested world).1
  | change {before after : World Content} (store : after.store = before.store)
      : LayoutStep before .change after

/-- A start that gets the requested version takes effect. -/
def StartEffective (before : World Content) (event : LayoutEvent Content) (after : World Content)
    : Prop :=
  match event with
  | .change => True
  | .start requested inputs =>
      (ensureServerLayout inputs requested before).2 = .ok requested
      → ∀ installed, after.store requested = some installed
        → Effective requested installed after.store before.tree after.tree

/-- A start that can get the requested version finds a directory that is ready for it. -/
def StartReady (before : World Content) (event : LayoutEvent Content) : Prop :=
  match event with
  | .change => True
  | .start requested inputs =>
      ∀ installed, obtained before.store inputs requested = some installed
        → Ready requested installed before.tree

theorem ensureServerLayout_cases (inputs : StartInputs Content) (requested : String)
    (world : World Content)
    : (∃ failure, chooseVersion world.store inputs requested = .error failure
        ∧ ensureServerLayout inputs requested world = (world, .error failure))
      ∨ ∃ next actual, ∃ chosen : chooseVersion world.store inputs requested = .ok (next, actual),
        ensureServerLayout inputs requested world
          = (⟨next, layOut next actual inputs.fails world.tree, layOut_live chosen⟩,
            .ok actual) := by
  unfold ensureServerLayout
  split
  · rename_i failure failed
    exact .inl ⟨failure, failed, rfl⟩
  · rename_i next actual chosen
    exact .inr ⟨next, actual, chosen, rfl⟩

theorem start_effective_iff {before after : World Content} {event : LayoutEvent Content}
    (taken : LayoutStep before event after)
    : StartEffective before event after ↔ StartReady before event := by
  cases taken with
  | change => exact Iff.rfl
  | @start requested inputs =>
      rcases ensureServerLayout_cases inputs requested before with
        ⟨failure, failed, ends⟩ | ⟨next, actual, chosen, ends⟩
      · constructor
        · intro _ installed had
          obtain ⟨_, chosen, _⟩ := chooseVersion_requested.mpr had
          cases failed.symm.trans chosen
        · intro _ answered
          rw [ends] at answered
          cases answered
      · simp only [StartEffective, ends]
        constructor
        · intro effective installed had
          obtain ⟨_, again, found⟩ := chooseVersion_requested.mpr had
          cases chosen.symm.trans again
          exact (layOut_effective_iff before chosen found).mp (effective rfl installed found)
        · intro ready answered installed found
          cases answered
          exact (layOut_effective_iff before chosen found).mpr
            (ready installed (chooseVersion_requested.mp ⟨next, chosen, found⟩))

/-- Along a run of starts every start takes effect exactly when each finds a directory that is ready
for its version.
-/
theorem starts_effective_iff {start finish : World Content} {events : List (LayoutEvent Content)}
    : Run (fun before event after => LayoutStep before event after
          ∧ StartEffective before event after) start events finish
      ↔ Run (fun before event after => LayoutStep before event after
          ∧ StartReady before event) start events finish :=
  Run.congr fun _ _ _ => and_congr_right start_effective_iff

/-- A version of the game with its binary alone. -/
def release (binary : Nat) : Version Nat where
  children := [("bedrock_server", .file binary)]
  distinct := List.nodup_singleton _

/-- Two installed versions, and a server that has not been started yet. -/
def twoReleases : World Nat where
  store version :=
    if version = "1.0" then some (release 0)
    else if version = "1.1" then some (release 1)
    else none
  tree := FileTree.empty
  live path version asset link := by
    unfold linkAt FileTree.empty at link
    dsimp only at link
    split at link <;> cases link

def offline : StartInputs Nat where
  download _ := .unavailable
  latest := .error "offline"

/-- After a switch from one version to the next one the server has the binary of the first. -/
theorem switch_keeps_old_binary
    : ¬ ∀ (start before after : World Nat) (events : List (LayoutEvent Nat))
        (event : LayoutEvent Nat),
        Run LayoutStep start events before → LayoutStep before event after
        → StartEffective before event after := by
  intro effective
  have first : Run LayoutStep twoReleases [.start "1.0" offline]
      (ensureServerLayout offline "1.0" twoReleases).1 :=
    Run.single .start
  have second := effective _ _ _ _ (.start "1.1" offline) first .start rfl (release 1) rfl
  have stale : linkAt
      (ensureServerLayout offline "1.1" (ensureServerLayout offline "1.0" twoReleases).1).1.tree
      ["bedrock_server"] "1.0" "bedrock_server" := rfl
  exact absurd (second.links _ _ _ stale) (by decide)

end Blockhost.VersionLayout
