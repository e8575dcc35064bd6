import Blockhost.Api.ServersBans

/-! Bans of one player over any sequence of operations. Only the latest row can be active; every
other one has ended, and the unique constraint leaves room for one row that has ended.
-/

namespace Blockhost.Bans

open Library

variable {dialect : Dialect} {xuid : String} {now later : Instant} {bans changed : BanTable}
variable {ban : BanRow}

-- Bans in force

/-- The most recent ban, when nobody lifted it and it has not expired. -/
def inForce (now : Instant) (bans : BanTable) : Option BanRow :=
  bans.rows.getLast?.filter (fun ban =>
    ban.unbannedByUserId.isNone && !ban.expired now)

def BanOperation.Meaningful (now : Instant) (bans : BanTable) : BanOperation → Prop
  | .create request _ _ =>
      inForce now bans = none ∧ ∃ expiresAt, requestedExpiry request now = .ok expiresAt
  | .lift _ banId => ∃ ban, inForce now bans = some ban ∧ ban.id = banId
  | .list | .history | .check _ => True

def BanOperation.OnPlayer (xuid : String) : BanOperation → Prop
  | .create request _ _ => request.xuid = xuid
  | .check checked => checked = xuid
  | _ => True

/-- An operation succeeds if it is meaningful, and a check tells whether a ban is in force. -/
structure Meets (dialect : Dialect) (now : Instant) (operation : BanOperation) (bans : BanTable)
    : Prop where
  succeeds
    : operation.Meaningful now bans
      → ∃ reply, (perform dialect now operation bans).answer = .ok reply
  reports
    : ∀ ban, (perform dialect now operation bans).answer = .ok (.checked ban)
      → ban.isSome = (inForce now bans).isSome

/-- A ban that has run out unnoticed can be stored as ended: no other ban has ended. -/
def CanExpire (now : Instant) (bans : BanTable) : Prop :=
  bans.rows.any (fun ban => ban.active && ban.expired now) = false
  ∨ bans.rows.all BanRow.active = true

/-- A session of SQLite cannot compare the expiry of an active ban with the time. -/
def Comparable (dialect : Dialect) (bans : BanTable) : Prop :=
  dialect = .sqlite → ∀ ban ∈ bans.rows, ban.active = true → ban.expiresAt = none

/-- When an operation does what it should. Every answer that contains a ban fails, so no
meaningful creation or lift succeeds.
-/
def BanOperation.Allowed (dialect : Dialect) (now : Instant) (bans : BanTable)
    : BanOperation → Prop
  | .create request _ _ =>
      inForce now bans = none → ∀ expiresAt, requestedExpiry request now ≠ .ok expiresAt
  | .lift _ banId => ∀ ban, inForce now bans = some ban → ban.id ≠ banId
  | .list => CanExpire now bans ∧ inForce now bans = none
  | .history => bans.rows = []
  | .check _ => Comparable dialect bans ∧ CanExpire now bans

-- Reachable tables

/-- The tables after operations on one player at times that never go back. -/
inductive Reachable (dialect : Dialect) (xuid : String) : Instant → BanTable → Prop where
  | start (now : Instant) : Reachable dialect xuid now .empty
  | step {now later : Instant} {bans : BanTable} {operation : BanOperation}
      (before : Reachable dialect xuid now bans) (onPlayer : operation.OnPlayer xuid)
      (order : now ≤ later)
      : Reachable dialect xuid later (perform dialect later operation bans).bans

/-- A row ends when someone lifts it or its time is over. -/
structure Ended (now : Instant) (ban : BanRow) : Prop where
  inactive : ban.active = false
  cause : ban.unbannedByUserId.isSome = true ∨ ban.expired now = true

/-- What the rows of one player look like: all before the last one have ended. -/
structure Orderly (xuid : String) (now : Instant) (bans : BanTable) : Prop where
  player : ∀ ban ∈ bans.rows, ban.xuid = xuid
  unique : UniqueActive bans
  earlier
    : ∀ older last, bans.rows = older ++ [last] → ∀ ban ∈ older, ban.active = false
  latest
    : ∀ last, bans.rows.getLast? = some last
      → last.active = true ∧ last.unbannedByUserId = none ∨ Ended now last

/-- What an operation can do to the rows of a player. -/
inductive Alters (xuid : String) (now : Instant) (bans changed : BanTable) : Prop where
  | same (same : changed = bans)
  | created (ban : BanRow) (rows : changed.rows = bans.rows ++ [ban]) (player : ban.xuid = xuid)
      (active : ban.active = true) (fresh : ban.unbannedByUserId = none)
      (ended : ∀ other ∈ bans.rows, other.active = false) (unique : UniqueActive changed)
  | ended (f : BanRow → BanRow) (rows : changed.rows = bans.rows.map f)
      (player : ∀ ban, (f ban).xuid = ban.xuid)
      (ends : ∀ ban ∈ bans.rows, f ban = ban ∨ ban.active = true ∧ Ended now (f ban))
      (unique : UniqueActive changed)

theorem expired_later (expired : ban.expired now = true) (order : now ≤ later)
    : ban.expired later = true := by
  unfold BanRow.expired at expired ⊢
  rw [Option.any_eq_true] at expired ⊢
  obtain ⟨expiresAt, found, passed⟩ := expired
  exact ⟨expiresAt, found, decide_eq_true ((of_decide_eq_true passed).trans order)⟩

theorem Ended.at_later (ended : Ended now ban) (order : now ≤ later) : Ended later ban :=
  ⟨ended.inactive, ended.cause.imp_right fun expired => expired_later expired order⟩

theorem Orderly.at_later (orderly : Orderly xuid now bans) (order : now ≤ later)
    : Orderly xuid later bans where
  player := orderly.player
  unique := orderly.unique
  earlier := orderly.earlier
  latest last found := (orderly.latest last found).imp_right fun ended => ended.at_later order

theorem orderly_empty : Orderly xuid now .empty where
  player := nofun
  unique := List.nodup_nil
  earlier older last split := absurd split (by simp)
  latest last found := absurd found (by simp)

theorem Orderly.altered (orderly : Orderly xuid now bans) (alters : Alters xuid now bans changed)
    : Orderly xuid now changed := by
  cases alters with
  | same same => exact same ▸ orderly
  | created ban rows player active fresh ended unique =>
      refine ⟨?_, unique, ?_, ?_⟩
      · intro other member
        rw [rows] at member
        rcases List.mem_append.mp member with known | added
        · exact orderly.player other known
        · exact List.mem_singleton.mp added ▸ player
      · intro older last split
        rw [rows] at split
        obtain ⟨rfl, _⟩ := List.append_inj' split rfl
        exact ended
      · intro last found
        rw [rows, List.getLast?_concat] at found
        cases found
        exact .inl ⟨active, fresh⟩
  | ended f rows player ends unique =>
      refine ⟨?_, unique, ?_, ?_⟩
      · intro other member
        rw [rows] at member
        obtain ⟨known, stored, rfl⟩ := List.mem_map.mp member
        exact (player known).trans (orderly.player known stored)
      · intro older last split other member
        rw [rows] at split
        obtain ⟨before, final, same, rfl, single⟩ := List.map_eq_append_iff.mp split
        obtain ⟨row, rfl, _⟩ := List.map_eq_singleton_iff.mp single
        obtain ⟨known, stored, rfl⟩ := List.mem_map.mp member
        have inactive := orderly.earlier before row same known stored
        have listed : known ∈ bans.rows := same ▸ List.mem_append_left _ stored
        rcases ends known listed with kept | ⟨active, _⟩
        · rw [kept, inactive]
        · cases inactive.symm.trans active
      · intro last found
        rw [rows, List.getLast?_map] at found
        obtain ⟨row, was, rfl⟩ := Option.map_eq_some_iff.mp found
        rcases ends row (List.mem_of_getLast? was) with kept | ⟨_, ended⟩
        · rw [kept]
          exact orderly.latest row was
        · exact .inr ended

theorem storeBans_ok {table : BanTable} (stored : storeBans table = .ok changed)
    : changed = table ∧ UniqueActive changed := by
  unfold storeBans at stored
  split at stored
  · rename_i unique
    cases stored
    exact ⟨rfl, unique⟩
  · cases stored

theorem addBan_ok (added : addBan ban bans = .ok changed)
    : changed.rows = bans.rows ++ [ban] ∧ UniqueActive changed := by
  unfold addBan Table.insert? at added
  split at added
  · cases added
  · obtain ⟨rfl, unique⟩ := storeBans_ok added
    exact ⟨rfl, unique⟩

theorem alters_modify {change : Change BanRow.id} (stored : ban ∈ bans.rows)
    (active : ban.active = true) (player : ∀ row, (change.apply row).xuid = row.xuid)
    (ended : Ended now (change.apply ban))
    (kept : storeBans (bans.modify ban.id change) = .ok changed)
    : Alters xuid now bans changed := by
  obtain ⟨rfl, unique⟩ := storeBans_ok kept
  refine .ended (change.at ban.id).apply rfl ?_ ?_ unique
  · intro row
    unfold Change.at
    dsimp only
    split
    · exact player row
    · rfl
  · intro row member
    by_cases same : row.id = ban.id
    · have found := bans.eq_of_key_eq member stored same
      rw [found, Change.at_same change rfl]
      exact .inr ⟨active, ended⟩
    · exact .inl (Change.at_other change same)

theorem activeBan_some (found : activeBan xuid bans = some ban)
    : ban ∈ bans.rows ∧ ban.active = true := by
  have passed := List.find?_some found
  rw [Bool.and_eq_true] at passed
  exact ⟨List.mem_of_find?_eq_some found, passed.2⟩

theorem Orderly.inactive (orderly : Orderly xuid now bans) (absent : activeBan xuid bans = none)
    : ∀ other ∈ bans.rows, other.active = false := by
  intro other member
  have failed := List.find?_eq_none.mp absent other member
  simpa [orderly.player other member] using failed

theorem runOut_ok (comparable : dialect = .sqlite → ban.expiresAt = none)
    : ban.runOut dialect now = .ok (ban.expired now) := by
  unfold BanRow.runOut
  split
  · rename_i expires
    cases (comparable rfl).symm.trans expires
  · rfl

theorem expired_of_runOut (ended : ban.runOut dialect now = .ok true)
    : ban.expired now = true := by
  unfold BanRow.runOut at ended
  split at ended
  · cases ended
  · exact Except.ok.inj ended

theorem resolveActiveBan_alters {result : Option BanRow}
    (resolved : resolveActiveBan dialect xuid now bans = .ok (result, changed))
    : Alters xuid now bans changed := by
  unfold resolveActiveBan at resolved
  split at resolved
  · cases resolved
    exact .same rfl
  · rename_i ban found
    obtain ⟨stored, active⟩ := activeBan_some found
    split at resolved
    · cases resolved
    · cases resolved
      exact .same rfl
    · rename_i ended
      split at resolved
      · cases resolved
      · rename_i kept
        cases resolved
        exact alters_modify stored active (fun _ => rfl) ⟨rfl, .inr (expired_of_runOut ended)⟩ kept

theorem expireExpiredBans_alters (swept : expireExpiredBans now bans = .ok changed)
    : Alters xuid now bans changed := by
  obtain ⟨rfl, unique⟩ := storeBans_ok swept
  refine .ended _ rfl ?_ ?_ unique
  · intro row
    unfold Change.when
    dsimp only
    split <;> rfl
  · intro row member
    unfold Change.when
    dsimp only
    split
    · rename_i ends
      rw [Bool.and_eq_true] at ends
      exact .inr ⟨ends.1, rfl, .inr ends.2⟩
    · exact .inl rfl

theorem perform_alters {operation : BanOperation} (orderly : Orderly xuid now bans)
    (onPlayer : operation.OnPlayer xuid)
    : Alters xuid now bans (perform dialect now operation bans).bans := by
  cases operation with
  | create request userId banId =>
      cases onPlayer
      unfold perform createBan
      dsimp only
      split
      · exact .same rfl
      · split
        · exact .same rfl
        · rename_i absent
          split
          · exact .same rfl
          · rename_i kept
            obtain ⟨rows, unique⟩ := addBan_ok kept
            refine .created _ rows rfl rfl rfl (orderly.inactive ?_) unique
            exact Option.not_isSome_iff_eq_none.mp absent
  | list =>
      unfold perform listBans
      dsimp only
      split
      · exact .same rfl
      · exact expireExpiredBans_alters ‹_›
  | history =>
      unfold perform listBanHistory
      dsimp only
      split
      · exact .same rfl
      · exact expireExpiredBans_alters ‹_›
  | check checked =>
      cases onPlayer
      unfold perform checkBan
      dsimp only
      split
      · exact .same rfl
      · exact resolveActiveBan_alters ‹_›
  | lift userId banId =>
      unfold perform deleteBan
      dsimp only
      split
      · exact .same rfl
      · rename_i ban found
        obtain ⟨stored, same⟩ := Table.get?_some found
        split
        · split
          · exact .same rfl
          · rename_i active _ _ kept
            exact alters_modify stored active (fun _ => rfl) ⟨rfl, .inl rfl⟩ (same ▸ kept)
        · exact .same rfl

/-- Every reachable table is orderly, by induction on the operations. -/
theorem reachable_orderly (reachable : Reachable dialect xuid now bans)
    : Orderly xuid now bans := by
  induction reachable with
  | start => exact orderly_empty
  | step before onPlayer order ih =>
      have orderly := ih.at_later order
      exact orderly.altered (perform_alters orderly onPlayer)

theorem Orderly.shape (orderly : Orderly xuid now bans)
    : bans.rows = [] ∨ (∃ last, bans.rows = [last])
      ∨ ∃ first last, bans.rows = [first, last] ∧ first.active = false ∧ last.active = true := by
  have unique := orderly.unique
  unfold UniqueActive at unique
  rcases List.eq_nil_or_concat bans.rows with none | ⟨older, last, rows⟩
  · exact .inl none
  rw [List.concat_eq_append] at rows
  have inactive := orderly.earlier older last rows
  have player (ban : BanRow) (member : ban ∈ older ++ [last]) : ban.xuid = xuid :=
    orderly.player ban (rows ▸ member)
  match older with
  | [] => exact .inr (.inl ⟨last, rows⟩)
  | [first] =>
      refine .inr (.inr ⟨first, last, rows, inactive first List.mem_cons_self, ?_⟩)
      rw [rows] at unique
      simp only [List.cons_append, List.nil_append, List.map_cons, List.map_nil, List.nodup_cons,
        List.mem_singleton, Prod.mk.injEq, not_and] at unique
      have differs := unique.1 ((player first (by simp)).trans (player last (by simp)).symm)
      rw [inactive first List.mem_cons_self] at differs
      simpa using differs
  | first :: second :: rest =>
      rw [rows] at unique
      simp only [List.cons_append, List.map_cons, List.nodup_cons, List.mem_cons, not_or] at unique
      refine absurd ?_ unique.1.1
      rw [inactive first (by simp), inactive second (by simp), player first (by simp),
        player second (by simp)]

-- Operations that meet the law

theorem listed_answer (rows : List BanRow)
    : (∃ reply, (listed bans rows).answer = .ok reply) ↔ rows = [] := by
  have sorted : newestFirst rows = [] ↔ rows = [] := by
    rw [← List.length_eq_zero_iff, ← List.length_eq_zero_iff, newestFirst,
      List.length_insertionSort]
  rw [← sorted]
  unfold listed
  cases newestFirst rows with
  | nil => exact iff_of_true ⟨.many [], rfl⟩ rfl
  | cons ban rest =>
      refine iff_of_false ?_ (List.cons_ne_nil _ _)
      rintro ⟨reply, answered⟩
      rw [List.mapM_cons, banToOut_error] at answered
      cases answered

/-- The rows after a sweep, which ends those that have run out. -/
def sweptRows (now : Instant) (bans : BanTable) : List BanRow :=
  bans.rows.map ((expireBan (some now)).when (fun ban => ban.active && ban.expired now)).apply

theorem expireExpiredBans_ok (orderly : Orderly xuid now bans)
    : (CanExpire now bans
        ∧ ∃ changed, expireExpiredBans now bans = .ok changed
          ∧ changed.rows = sweptRows now bans)
      ∨ ¬ CanExpire now bans
        ∧ ∃ refused, expireExpiredBans now bans = .error refused := by
  have stored : UniqueActive (bans.update ((expireBan (some now)).when (fun ban =>
      ban.active && ban.expired now))) ↔ CanExpire now bans := by
    have player := orderly.player
    unfold UniqueActive CanExpire
    rw [Table.rows_update]
    rcases orderly.shape with rows | ⟨last, rows⟩ | ⟨first, last, rows, inactive, active⟩
    · simp [rows]
    · cases runs : last.active && last.expired now with
      | false => simp [rows, runs]
      | true =>
          rw [Bool.and_eq_true] at runs
          simp [rows, runs]
    · rw [rows] at player
      have same : first.xuid = last.xuid :=
        (player first (by simp)).trans (player last (by simp)).symm
      cases expired : last.expired now with
      | false => simp [rows, inactive, active, expired, Change.when]
      | true => simp [rows, inactive, active, expired, Change.when, expireBan, same]
  unfold expireExpiredBans storeBans
  by_cases can : CanExpire now bans
  · rw [if_pos (stored.mpr can)]
    exact .inl ⟨can, _, rfl, rfl⟩
  · rw [if_neg (fun unique => can (stored.mp unique))]
    exact .inr ⟨can, _, rfl⟩

theorem inForce_eq_find (orderly : Orderly xuid now bans)
    : inForce now bans = (activeBan xuid bans).filter (fun ban => !ban.expired now) := by
  have player := orderly.player
  have latest := orderly.latest
  unfold inForce activeBan
  rcases orderly.shape with rows | ⟨last, rows⟩ | ⟨first, last, rows, inactive, active⟩
  · simp [rows]
  · rw [rows] at player latest
    rw [rows]
    have own := player last (by simp)
    rcases latest last rfl with ⟨active, unlifted⟩ | ended
    · simp [own, active, unlifted, Option.filter_some]
    · rcases ended.cause with lifted | expired
      · obtain ⟨userId, by_user⟩ := Option.isSome_iff_exists.mp lifted
        simp [own, ended.inactive, by_user]
      · simp [own, ended.inactive, expired]
  · rw [rows] at player latest
    rw [rows]
    have own := player last (by simp)
    rcases latest last rfl with ⟨_, unlifted⟩ | ended
    · simp [own, inactive, active, unlifted, Option.filter_some]
    · cases active.symm.trans ended.inactive

/-- An active ban that cannot be compared with the time is the one that is looked up. -/
theorem resolveActiveBan_incomparable (orderly : Orderly xuid now bans)
    (incomparable : ¬ Comparable dialect bans)
    : ∃ refused, resolveActiveBan dialect xuid now bans = .error refused := by
  simp only [Comparable, not_forall] at incomparable
  obtain ⟨rfl, ban, member, active, expires⟩ := incomparable
  obtain ⟨expiresAt, expires⟩ := Option.ne_none_iff_exists'.mp expires
  have player := orderly.player
  have found : activeBan xuid bans = some ban := by
    rcases orderly.shape with rows | ⟨last, rows⟩ | ⟨first, last, rows, inactive, _⟩
    · simp [rows] at member
    · rw [rows] at member player
      cases List.mem_singleton.mp member
      simp [activeBan, rows, active, player ban (by simp)]
    · rw [rows] at member player
      rcases List.mem_pair.mp member with rfl | rfl
      · cases inactive.symm.trans active
      · simp [activeBan, rows, inactive, active, player ban (by simp)]
  exact ⟨internalError, by simp [resolveActiveBan, found, BanRow.runOut, expires]⟩

theorem resolveActiveBan_ok (orderly : Orderly xuid now bans)
    (comparable : Comparable dialect bans)
    : (CanExpire now bans
        ∧ ∃ changed, resolveActiveBan dialect xuid now bans = .ok (inForce now bans, changed))
      ∨ ¬ CanExpire now bans
        ∧ ∃ refused, resolveActiveBan dialect xuid now bans = .error refused := by
  rw [inForce_eq_find orderly]
  have player := orderly.player
  have known (active : BanRow) (found : activeBan xuid bans = some active)
      : active.runOut dialect now = .ok (active.expired now) :=
    runOut_ok (fun sqlite =>
      comparable sqlite active (activeBan_some found).1 (activeBan_some found).2)
  unfold CanExpire resolveActiveBan
  rcases orderly.shape with rows | ⟨last, rows⟩ | ⟨first, last, rows, inactive, active⟩
  · exact .inl ⟨by simp [rows], bans, by simp [activeBan, rows]⟩
  · rw [rows] at player
    have own := player last (by simp)
    cases active : last.active with
    | false =>
        have absent : activeBan xuid bans = none := by simp [activeBan, rows, active]
        rw [absent]
        exact .inl ⟨by simp [rows, active], bans, rfl⟩
    | true =>
        have found : activeBan xuid bans = some last := by simp [activeBan, rows, active, own]
        rw [found]
        simp only [known last found]
        refine .inl ⟨by simp [rows, active], ?_⟩
        cases expired : last.expired now with
        | false => exact ⟨bans, by simp [expired, Option.filter_some]⟩
        | true =>
            have unique : UniqueActive (bans.modify last.id (expireBan last.expiresAt)) := by
              simp [UniqueActive, rows]
            refine ⟨bans.modify last.id (expireBan last.expiresAt), ?_⟩
            simp [storeBans, unique, expired, Option.filter_some]
  · rw [rows] at player
    have own := player last (by simp)
    have same : first.xuid = last.xuid := (player first (by simp)).trans own.symm
    have found : activeBan xuid bans = some last := by
      simp [activeBan, rows, inactive, active, own]
    rw [found]
    simp only [known last found]
    cases expired : last.expired now with
    | false =>
        exact .inl ⟨by simp [rows, inactive, expired], bans,
          by simp [expired, Option.filter_some]⟩
    | true =>
        refine .inr ⟨by simp [rows, inactive, active, expired], internalError, ?_⟩
        have other : first.id ≠ last.id := by
          intro equal
          have one := bans.eq_of_key_eq (by simp [rows]) (by simp [rows]) equal
          rw [one, active] at inactive
          cases inactive
        have clash : ¬ UniqueActive (bans.modify last.id (expireBan last.expiresAt)) := by
          simp [UniqueActive, rows, other, inactive, same, expireBan]
        simp [storeBans, clash]

/-- A check is answered, with what is in force, exactly when the ban can be compared and ended. -/
theorem checkBan_cases (orderly : Orderly xuid now bans)
    : (Comparable dialect bans ∧ CanExpire now bans)
        ∧ (checkBan dialect xuid now bans).answer = .ok (.checked (inForce now bans))
      ∨ ¬ (Comparable dialect bans ∧ CanExpire now bans)
        ∧ ∃ refused, (checkBan dialect xuid now bans).answer = .error refused := by
  unfold checkBan
  by_cases comparable : Comparable dialect bans
  · rcases resolveActiveBan_ok orderly comparable with
      ⟨can, changed, resolved⟩ | ⟨cannot, refused, failed⟩
    · exact .inl ⟨⟨comparable, can⟩, by rw [resolved]⟩
    · exact .inr ⟨fun both => cannot both.2, refused, by rw [failed]⟩
  · obtain ⟨refused, failed⟩ := resolveActiveBan_incomparable orderly comparable
    exact .inr ⟨fun both => comparable both.1, refused, by rw [failed]⟩

theorem create_fails {request : BanCreateRequest} {userId banId : Uuid} {reply : BanReply}
    : (createBan request userId banId now bans).answer ≠ .ok reply := by
  unfold createBan
  split
  · exact nofun
  split
  · exact nofun
  split
  · exact nofun
  rw [banToOut_error]
  exact nofun

theorem lift_fails {userId banId : Uuid} {reply : BanReply}
    : (deleteBan userId banId now bans).answer ≠ .ok reply := by
  unfold deleteBan
  split
  · exact nofun
  split
  · split
    · exact nofun
    rw [banToOut_error]
    exact nofun
  · rw [banToOut_error]
    exact nofun

theorem list_answers (orderly : Orderly xuid now bans)
    : (∃ reply, (listBans now bans).answer = .ok reply)
      ↔ CanExpire now bans ∧ inForce now bans = none := by
  unfold listBans
  rcases expireExpiredBans_ok orderly with
    ⟨can, changed, swept, rows⟩ | ⟨cannot, refused, failed⟩
  · rw [swept]
    dsimp only
    rw [listed_answer, rows, inForce_eq_find orderly]
    simp only [can, true_and]
    have player := orderly.player
    unfold sweptRows activeBan
    rcases orderly.shape with rows | ⟨last, rows⟩ | ⟨first, last, rows, inactive, active⟩
    · simp [rows]
    · rw [rows] at player
      have own := player last (by simp)
      cases active : last.active <;> cases expired : last.expired now <;>
        simp [rows, own, active, expired, Change.when, expireBan, Option.filter_some]
    · rw [rows] at player
      have own := player last (by simp)
      cases expired : last.expired now <;>
        simp [rows, own, inactive, active, expired, Change.when, expireBan, Option.filter_some]
  · rw [failed]
    refine iff_of_false ?_ (fun both => cannot both.1)
    rintro ⟨_, answered⟩
    cases answered

theorem history_answers (orderly : Orderly xuid now bans)
    : (∃ reply, (listBanHistory now bans).answer = .ok reply) ↔ bans.rows = [] := by
  unfold listBanHistory
  rcases expireExpiredBans_ok orderly with
    ⟨can, changed, swept, rows⟩ | ⟨cannot, refused, failed⟩
  · rw [swept]
    dsimp only
    rw [listed_answer, rows, sweptRows, List.map_eq_nil_iff]
  · rw [failed]
    refine iff_of_false (fun ⟨_, answered⟩ => nomatch answered) ?_
    intro none
    exact cannot (.inl (by simp [none]))

theorem listed_ne_checked {rows : List BanRow} {checked : Option BanRow}
    : (listed bans rows).answer ≠ .ok (.checked checked) := by
  unfold listed
  cases (newestFirst rows).mapM banToOut with
  | error refused => exact nofun
  | ok items => exact nofun

/-- Over every sequence of operations on one player, an operation meets the law exactly when it
is allowed, by cases of the operation.
-/
theorem ban_operation_meets_iff (reachable : Reachable dialect xuid now bans) (order : now ≤ later)
    (operation : BanOperation) (onPlayer : operation.OnPlayer xuid)
    : Meets dialect later operation bans ↔ operation.Allowed dialect later bans := by
  have orderly := (reachable_orderly reachable).at_later order
  cases operation with
  | create request userId banId =>
      constructor
      · intro meets free expiresAt valid
        obtain ⟨reply, answered⟩ := meets.succeeds ⟨free, expiresAt, valid⟩
        exact create_fails answered
      · intro allowed
        refine ⟨?_, fun ban answered => absurd answered create_fails⟩
        rintro ⟨free, expiresAt, valid⟩
        exact absurd valid (allowed free expiresAt)
  | list =>
      rw [BanOperation.Allowed, ← list_answers orderly]
      constructor
      · exact fun meets => meets.succeeds trivial
      · refine fun answers => ⟨fun _ => answers, ?_⟩
        intro ban answered
        unfold perform listBans at answered
        dsimp only at answered
        split at answered
        · cases answered
        · exact absurd answered listed_ne_checked
  | history =>
      rw [BanOperation.Allowed, ← history_answers orderly]
      constructor
      · exact fun meets => meets.succeeds trivial
      · refine fun answers => ⟨fun _ => answers, ?_⟩
        intro ban answered
        unfold perform listBanHistory at answered
        dsimp only at answered
        split at answered
        · cases answered
        · exact absurd answered listed_ne_checked
  | check checked =>
      cases onPlayer
      rcases checkBan_cases orderly with ⟨allowed, answered⟩ | ⟨refusing, refused, failed⟩
      · refine iff_of_true ⟨fun _ => ⟨_, answered⟩, ?_⟩ allowed
        intro ban answer
        cases answered.symm.trans answer
        rfl
      · refine iff_of_false ?_ refusing
        intro meets
        obtain ⟨reply, answered⟩ := meets.succeeds trivial
        cases failed.symm.trans answered
  | lift userId banId =>
      constructor
      · intro meets ban found same
        obtain ⟨reply, answered⟩ := meets.succeeds ⟨ban, found, same⟩
        exact lift_fails answered
      · intro allowed
        refine ⟨?_, fun ban answered => absurd answered lift_fails⟩
        rintro ⟨ban, found, same⟩
        exact absurd same (allowed ban found)

-- Runs

private def banRequest : BanCreateRequest where
  xuid := "2535"
  durationSeconds := some 60

/-- A player is banned for a minute; a check on PostgreSQL tells so, although the creation was not
answered.
-/
theorem check_after_ban_meets
    : Meets .postgresql (seconds 5) (.check "2535")
        (perform .postgresql 0 (.create banRequest 2 7) .empty).bans := by
  have banned
      : Reachable .postgresql "2535" 0
          (perform .postgresql 0 (.create banRequest 2 7) .empty).bans := by
    refine .step (.start 0) ?_ le_rfl
    exact rfl
  exact (ban_operation_meets_iff banned (by decide) (.check "2535") rfl).mpr
    ⟨nofun, .inl (by decide)⟩

/-- The very first ban of a player is stored and answered with an error. -/
theorem first_ban_fails : ¬ Meets .postgresql 0 (.create banRequest 2 7) .empty := by
  intro meets
  obtain ⟨reply, answered⟩ := meets.succeeds ⟨rfl, some (seconds 60), rfl⟩
  exact create_fails answered

/-- After a lifted ban and one that has run out, no check is answered. -/
example
    : (perform .postgresql (seconds 90) (.check "2535")
        (perform .postgresql (seconds 20) (.create banRequest 2 8)
          (perform .postgresql (seconds 10) (.lift 2 7)
            (perform .postgresql 0 (.create banRequest 2 7) .empty).bans).bans).bans).answer
      = .error internalError := by
  decide +kernel

end Blockhost.Bans
