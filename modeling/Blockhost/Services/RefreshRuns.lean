import Blockhost.Services.AuthTokens

/-! Every history of issuing, refreshing and revoking tokens. A token is accepted exactly while
it stands, where the database gives times back with their offset.
-/

namespace Blockhost.RefreshTokens

open Library

variable {Token : Type} {jose : Jose Token} {dialect : Dialect} {settings : Settings}

/-- Calls of the service that came to an end. A call that stores no token and revokes none,
such as a ban, a new account or a login that failed, happens elsewhere.
-/
inductive Event (Token : Type) where
  | issue (userId : Uuid) (claims : TokenClaims)
  | refresh (token : Token)
  | logout (token : Token)
  | logoutAll (userId : Uuid)
  | elsewhere

structure Service where
  db : Database
  now : Instant
  answered : List TokenClaims

/-- Signatures cannot be forged: a text that verifies was an answer of the service. -/
def Unforged (jose : Jose Token) (service : Service) (token : Token) : Prop :=
  ∀ claims, jose.verify token = some claims → claims ∈ service.answered

inductive Step (jose : Jose Token) (dialect : Dialect) (settings : Settings)
    : Service → Event Token → Service → Prop
  | issue {before : Service} {now : Instant} {userId : Uuid} {jti accessJti : String}
      {lifetime : Int} {db : Database} {claims : TokenClaims}
      : before.now ≤ now
        → issueRefreshToken jose settings now userId jti before.db = .ok (db, claims)
        → Step jose dialect settings before (.issue userId claims)
          ⟨db, now, claims :: createAccessToken (uuidText userId) lifetime now accessJti
            :: before.answered⟩
  | refresh {before : Service} {now : Instant} {token : Token} {jti : String} {lifetime : Int}
      : before.now ≤ now
        → Unforged jose before token
        → Step jose dialect settings before (.refresh token)
          ⟨before.db, now,
            (refresh jose dialect lifetime now jti token before.db).toOption.toList
              ++ before.answered⟩
  | logout {before : Service} {now : Instant} {token : Token}
      : before.now ≤ now
        → Unforged jose before token
        → Step jose dialect settings before (.logout token)
          ⟨revokeRefreshToken jose now token before.db, now, before.answered⟩
  | logoutAll {before : Service} {now : Instant} {userId : Uuid}
      : before.now ≤ now
        → Step jose dialect settings before (.logoutAll userId)
          ⟨(revokeAllRefreshTokens now userId before.db).1, now, before.answered⟩
  | elsewhere {before : Service} {now : Instant} {db : Database}
      : before.now ≤ now
        → db.refreshTokens = before.db.refreshTokens
        → Step jose dialect settings before .elsewhere ⟨db, now, before.answered⟩

/-- A service that has not issued a token yet. -/
structure Fresh (service : Service) : Prop where
  stored : service.db.refreshTokens.rows = []
  answered : service.answered = []

-- What a history says of a token

def Revokes (jose : Jose Token) (userId : Uuid) (claims : TokenClaims) : Event Token → Prop
  | .logout token => jose.verify token = some claims
  | .logoutAll user => user = userId
  | _ => False

/-- The token was issued, and no later call revoked it. -/
def Standing (jose : Jose Token) (events : List (Event Token)) (userId : Uuid)
    (claims : TokenClaims)
    : Prop :=
  ∃ earlier later, events = earlier ++ .issue userId claims :: later
    ∧ ∀ event ∈ later, ¬ Revokes jose userId claims event

/-- A standing token before its expiry, of a user who is not deleted. -/
def Valid (jose : Jose Token) (events : List (Event Token)) (now : Instant) (db : Database)
    (token : Token) (user : User)
    : Prop :=
  ∃ claims, jose.verify token = some claims
    ∧ Standing jose events user.id claims
    ∧ now < seconds claims.exp
    ∧ db.users.get? user.id = some user
    ∧ user.deletedAt = none

theorem standing_concat {events : List (Event Token)} {event : Event Token} {userId : Uuid}
    {claims : TokenClaims}
    : Standing jose (events ++ [event]) userId claims
      ↔ event = .issue userId claims
        ∨ Standing jose events userId claims ∧ ¬ Revokes jose userId claims event := by
  constructor
  · rintro ⟨earlier, later, same, none⟩
    rcases List.eq_nil_or_concat later with rfl | ⟨later, last, rfl⟩
    · exact .inl (List.singleton_inj.mp (List.append_inj' same rfl).2)
    · rw [List.concat_eq_append, ← List.cons_append, ← List.append_assoc] at same
      obtain ⟨first, final⟩ := List.append_inj' same rfl
      cases final
      refine .inr ⟨⟨earlier, later, first, fun event member => none event ?_⟩, none event ?_⟩
        <;> simp_all
  · rintro (rfl | ⟨⟨earlier, later, rfl, none⟩, kept⟩)
    · exact ⟨events, [], rfl, fun _ member => nomatch member⟩
    · refine ⟨earlier, later ++ [event], by simp, ?_⟩
      intro other member
      rcases List.mem_append.mp member with old | last
      · exact none other old
      · exact List.mem_singleton.mp last ▸ kept

theorem Standing.issued {events : List (Event Token)} {userId : Uuid} {claims : TokenClaims}
    (standing : Standing jose events userId claims)
    : .issue userId claims ∈ events := by
  obtain ⟨earlier, later, rfl, _⟩ := standing
  simp

-- What one call does to rows

theorem decode_some {now : Instant} {token : Token} {claims : TokenClaims}
    : jose.decode now token = some claims
      ↔ jose.verify token = some claims ∧ timestamp now ≤ claims.exp := by
  unfold Jose.decode
  cases jose.verify token with
  | none => simp
  | some found =>
      by_cases past : found.exp < timestamp now
      · simp only [if_pos past, reduceCtorEq, false_iff, not_and, Option.some.injEq]
        rintro rfl
        exact not_le.mpr past
      · simp only [if_neg past, Option.some.injEq]
        constructor
        · rintro rfl
          exact ⟨rfl, not_lt.mp past⟩
        · exact fun same => same.1

theorem decodeToken_ok {now : Instant} {token : Token} {claims : TokenClaims}
    : decodeToken jose now token .refresh = .ok claims
      ↔ jose.verify token = some claims ∧ timestamp now ≤ claims.exp
        ∧ claims.tokenType = .refresh ∧ claims.sub ≠ "" := by
  unfold decodeToken
  rw [← and_assoc, ← decode_some]
  cases jose.decode now token with
  | none => simp
  | some found =>
      simp only [Option.some.injEq]
      split_ifs with type subject
      · simp only [false_iff, not_and]
        rintro rfl right
        exact absurd right type
      · simp only [false_iff, not_and]
        rintro rfl _ named
        exact named subject
      · simp only [Except.ok.injEq]
        constructor
        · rintro rfl
          exact ⟨rfl, not_not.mp type, subject⟩
        · exact fun same => same.1

theorem tokenRow_jti {db : Database} {jti : String} {row : RefreshToken}
    (found : tokenRow db jti = some row)
    : row ∈ db.refreshTokens.rows ∧ row.jti = jti :=
  ⟨List.mem_of_find?_eq_some found, by simpa using List.find?_some found⟩

theorem tokenRow_revokeRows (now : Instant) (test : RefreshToken → Bool) (db : Database)
    (jti : String)
    : tokenRow (revokeRows now test db) jti
      = (tokenRow db jti).map ((revoked now).when test).apply := by
  have jtis : ((fun row : RefreshToken => decide (row.jti = jti))
      ∘ ((revoked now).when test).apply) = fun row => decide (row.jti = jti) := by
    funext row
    by_cases passes : test row = true
      <;> simp [Function.comp, Change.when, revoked, passes]
  simp only [tokenRow, revokeRows, Table.rows_update, List.find?_map, jtis]

structure Describes (row : RefreshToken) (userId : Uuid) (claims : TokenClaims) : Prop where
  owner : row.userId = userId
  jti : row.jti = claims.jti
  expiry : row.expiresAt = seconds claims.exp
  tokenType : claims.tokenType = .refresh
  subject : claims.sub ≠ ""

theorem Describes.when {row : RefreshToken} {userId : Uuid} {claims : TokenClaims}
    (describes : Describes row userId claims) (now : Instant) (test : RefreshToken → Bool)
    : Describes (((revoked now).when test).apply row) userId claims := by
  obtain ⟨owner, jti, expiry, type, subject⟩ := describes
  by_cases passes : test row = true
    <;> simp only [Change.when, passes, if_true, revoked]
    <;> exact ⟨owner, jti, expiry, type, subject⟩

theorem uuidText_ne_empty (id : Uuid) : uuidText id ≠ "" := by
  intro same
  have letters := congrArg (List.length ∘ String.toList) same
  have long := length_le_hyphenate [8, 4, 4, 4] (uuidDigits id)
  have digits : (uuidDigits id).length = 32 := by
    rw [uuidDigits, List.length_map, List.length_range]
  simp only [Function.comp_apply, uuidText, String.toList_ofList] at letters
  have none : ("".toList).length = 0 := by decide
  omega

theorem issueRefreshToken_fresh {now : Instant} {userId : Uuid} {jti : String} {db : Database}
    (absent : tokenRow db jti = none)
    (lives : timestamp now ≤ timestamp (now + seconds settings.jwtRefreshTokenExpireSeconds))
    : issueRefreshToken jose settings now userId jti db
      = .ok
        ({ db with
            refreshTokens :=
              db.refreshTokens.create ⟨newRefreshToken settings now userId jti, fun _ => rfl⟩ },
          createRefreshToken (uuidText userId) settings.jwtRefreshTokenExpireSeconds now
            jti) := by
  have opened := decodeToken_ok.mpr
    ⟨jose.verify_encode (createRefreshToken (uuidText userId)
      settings.jwtRefreshTokenExpireSeconds now jti), lives, rfl, uuidText_ne_empty userId⟩
  have stored : storeRefreshToken settings now userId jti db
      = .ok
        { db with
          refreshTokens :=
            db.refreshTokens.create
              ⟨newRefreshToken settings now userId jti, fun _ => rfl⟩ } := by
    simp only [storeRefreshToken, absent]
  simp only [issueRefreshToken, opened, bind, Except.bind, pure, Except.pure]
  rw [show (createRefreshToken (uuidText userId) settings.jwtRefreshTokenExpireSeconds now
    jti).jti = jti from rfl, stored]

theorem issueRefreshToken_ok {now : Instant} {userId : Uuid} {jti : String}
    {db stored : Database} {claims : TokenClaims}
    (issued : issueRefreshToken jose settings now userId jti db = .ok (stored, claims))
    : tokenRow db claims.jti = none
      ∧ (∃ row, tokenRow stored claims.jti = some row
        ∧ Describes row userId claims ∧ row.revokedAt = none)
      ∧ ∀ other, other ≠ claims.jti → tokenRow stored other = tokenRow db other := by
  unfold issueRefreshToken at issued
  simp only [bind, Except.bind, pure, Except.pure] at issued
  split at issued
  · cases issued
  next decoded opened =>
    have same := (decodeToken_ok.mp opened).1
    rw [jose.verify_encode] at same
    cases same
    split at issued
    · cases issued
    next kept storing =>
      cases issued
      unfold storeRefreshToken at storing
      split at storing
      · cases storing
      next absent =>
        cases storing
        refine ⟨absent, ⟨newRefreshToken settings now userId jti db.refreshTokens.freshKey,
          ?_, ⟨rfl, rfl, rfl, rfl, uuidText_ne_empty userId⟩, rfl⟩, ?_⟩
        · unfold tokenRow at absent ⊢
          rw [Table.rows_create, List.find?_append, absent]
          simp [newRefreshToken, createRefreshToken, createToken]
        · intro other differs
          unfold tokenRow
          rw [Table.rows_create, List.find?_append]
          have fresh : ∀ id, (newRefreshToken settings now userId (createRefreshToken
              (uuidText userId) settings.jwtRefreshTokenExpireSeconds now jti).jti id).jti
                ≠ other :=
            fun _ same => differs same.symm
          simp [fresh]

-- What the rows know of a history

/-- Each issued token has its row, revoked unless the token stands. A token that expired before
it was to be revoked has a row that is not.
-/
structure Tracks (jose : Jose Token) (events : List (Event Token)) (service : Service)
    : Prop where
  stored
    : ∀ userId claims, .issue userId claims ∈ events
      → ∃ row, tokenRow service.db claims.jti = some row ∧ Describes row userId claims
        ∧ (Standing jose events userId claims → row.revokedAt = none)
        ∧ (row.revokedAt = none
          → Standing jose events userId claims ∨ claims.exp < timestamp service.now)
  single
    : ∀ userId claims other otherClaims, .issue userId claims ∈ events
      → .issue other otherClaims ∈ events → claims.jti = otherClaims.jti
      → claims = otherClaims
  answered
    : ∀ claims ∈ service.answered, claims.tokenType = .refresh
      → ∃ userId, .issue userId claims ∈ events

theorem Fresh.tracks {service : Service} (fresh : Fresh service) : Tracks jose [] service where
  stored := by simp
  single := by simp
  answered := by simp [fresh.answered]

variable {events : List (Event Token)} {before after : Service} {event : Event Token}

/-- A call that issues nothing keeps rows, and revokes those that it should while their tokens
can still be decoded.
-/
theorem Tracks.unissued (tracks : Tracks jose events before)
    (unissued : ∀ userId claims, .issue userId claims ≠ event)
    (later : before.now ≤ after.now)
    (kept : ∀ userId claims row, .issue userId claims ∈ events
      → tokenRow before.db claims.jti = some row → Describes row userId claims
      → ∃ other, tokenRow after.db claims.jti = some other ∧ Describes other userId claims
        ∧ (¬ Revokes jose userId claims event → other.revokedAt = row.revokedAt)
        ∧ (Revokes jose userId claims event → other.revokedAt = none
          → claims.exp < timestamp after.now))
    (answered : ∀ claims ∈ after.answered, claims.tokenType = .refresh
      → claims ∈ before.answered)
    : Tracks jose (events ++ [event]) after := by
  have earlier : ∀ userId claims, .issue userId claims ∈ events ++ [event]
      ↔ .issue userId claims ∈ events := by
    intro userId claims
    rw [List.mem_append, List.mem_singleton, or_iff_left (unissued userId claims)]
  refine ⟨?_, ?_, ?_⟩
  · intro userId claims issued
    rw [earlier] at issued
    obtain ⟨row, found, describes, open_, closed⟩ := tracks.stored userId claims issued
    obtain ⟨other, placed, still, spared, hit⟩ :=
      kept userId claims row issued found describes
    refine ⟨other, placed, still, ?_, ?_⟩
    · intro standing
      rcases standing_concat.mp standing with made | ⟨standing, survives⟩
      · exact absurd made.symm (unissued userId claims)
      · rw [spared survives, open_ standing]
    · intro unrevoked
      by_cases revokes : Revokes jose userId claims event
      · exact .inr (hit revokes unrevoked)
      · rw [spared revokes] at unrevoked
        rcases closed unrevoked with standing | past
        · exact .inl (standing_concat.mpr (.inr ⟨standing, revokes⟩))
        · exact .inr (past.trans_le (timestamp_mono later))
  · intro userId claims other otherClaims issued also
    rw [earlier] at issued also
    exact tracks.single userId claims other otherClaims issued also
  · intro claims member type
    obtain ⟨userId, issued⟩ := tracks.answered claims (answered claims member type) type
    exact ⟨userId, (earlier userId claims).mpr issued⟩

theorem Tracks.untouched (tracks : Tracks jose events before)
    (unissued : ∀ userId claims, .issue userId claims ≠ event)
    (harmless : ∀ userId claims, ¬ Revokes jose userId claims event)
    (later : before.now ≤ after.now)
    (rows : after.db.refreshTokens = before.db.refreshTokens)
    (answered : ∀ claims ∈ after.answered, claims.tokenType = .refresh
      → claims ∈ before.answered)
    : Tracks jose (events ++ [event]) after := by
  refine tracks.unissued unissued later ?_ answered
  intro userId claims row _ found describes
  refine ⟨row, ?_, describes, fun _ => rfl, fun revokes => absurd revokes (harmless _ _)⟩
  rw [← found, tokenRow, tokenRow, rows]

theorem Tracks.issue (tracks : Tracks jose events before) {now : Instant} {userId : Uuid}
    {jti : String} {db : Database} {claims access : TokenClaims}
    (later : before.now ≤ now) (other : access.tokenType = .access)
    (issued : issueRefreshToken jose settings now userId jti before.db = .ok (db, claims))
    : Tracks jose (events ++ [.issue userId claims])
      ⟨db, now, claims :: access :: before.answered⟩ := by
  obtain ⟨absent, ⟨row, found, describes, unrevoked⟩, others⟩ := issueRefreshToken_ok issued
  have fresh : ∀ user old, .issue user old ∈ events → old.jti ≠ claims.jti := by
    intro user old member same
    obtain ⟨row, found, _⟩ := tracks.stored user old member
    rw [same, absent] at found
    cases found
  have members : ∀ user old, .issue user old ∈ events ++ [.issue userId claims]
      → .issue user old ∈ events ∨ user = userId ∧ old = claims := by
    intro user old member
    rcases List.mem_append.mp member with member | last
    · exact .inl member
    · cases List.mem_singleton.mp last
      exact .inr ⟨rfl, rfl⟩
  refine ⟨?_, ?_, ?_⟩
  · intro user old member
    rcases members user old member with member | ⟨rfl, rfl⟩
    · obtain ⟨row, found, describes, open_, closed⟩ := tracks.stored user old member
      have distinct := fresh user old member
      refine ⟨row, (others _ distinct).trans found, describes, ?_, ?_⟩
      · intro standing
        rcases standing_concat.mp standing with made | ⟨standing, _⟩
        · cases made
          exact absurd rfl distinct
        · exact open_ standing
      · intro unrevoked
        rcases closed unrevoked with standing | past
        · exact .inl (standing_concat.mpr (.inr ⟨standing, id⟩))
        · exact .inr (past.trans_le (timestamp_mono later))
    · exact ⟨row, found, describes, fun _ => unrevoked,
        fun _ => .inl (standing_concat.mpr (.inl rfl))⟩
  · intro user old other next first second same
    rcases members user old first with held | ⟨_, made⟩
    · rcases members other next second with also | ⟨_, last⟩
      · exact tracks.single user old other next held also same
      · exact absurd (last ▸ same) (fresh user old held)
    · rcases members other next second with also | ⟨_, last⟩
      · exact absurd (made ▸ same.symm) (fresh other next also)
      · exact made.trans last.symm
  · intro given member type
    rcases List.mem_cons.mp member with rfl | member
    · exact ⟨userId, by simp⟩
    · rcases List.mem_cons.mp member with rfl | member
      · rw [other] at type
        cases type
      · obtain ⟨user, old⟩ := tracks.answered given member type
        exact ⟨user, List.mem_append_left _ old⟩

theorem Tracks.logout (tracks : Tracks jose events before) {now : Instant} {token : Token}
    (later : before.now ≤ now) (unforged : Unforged jose before token)
    : Tracks jose (events ++ [.logout token])
      ⟨revokeRefreshToken jose now token before.db, now, before.answered⟩ := by
  refine tracks.unissued (fun _ _ same => nomatch same) later ?_ fun _ member _ => member
  intro userId claims row issued found describes
  unfold revokeRefreshToken
  cases opened : decodeToken jose now token .refresh with
  | error failure =>
      refine ⟨row, found, describes, fun _ => rfl, fun verified _ => ?_⟩
      by_contra current
      have decoded := decodeToken_ok.mpr
        ⟨verified, not_lt.mp current, describes.tokenType, describes.subject⟩
      rw [opened] at decoded
      cases decoded
  | ok decoded =>
      obtain ⟨verified, _, type, _⟩ := decodeToken_ok.mp opened
      obtain ⟨owner, own⟩ := tracks.answered decoded (unforged decoded verified) type
      obtain ⟨hit, placed, _, _⟩ := tracks.stored owner decoded own
      simp only [placed]
      refine ⟨_, by rw [tokenRow_revokeRows, found, Option.map_some],
        describes.when now _, ?_, ?_⟩
      · intro spared
        have distinct : row.id ≠ hit.id := by
          intro same
          have equal := Table.eq_of_key_eq before.db.refreshTokens (tokenRow_jti found).1
            (tokenRow_jti placed).1 same
          have jtis : claims.jti = decoded.jti := by
            rw [← describes.jti, equal, (tokenRow_jti placed).2]
          rw [← tracks.single _ _ _ _ issued own jtis] at verified
          exact spared verified
        simp [Change.when, distinct]
      · intro revokes unrevoked
        rw [Revokes, verified, Option.some.injEq] at revokes
        rw [revokes, found, Option.some.injEq] at placed
        simp [Change.when, placed, revoked] at unrevoked

theorem Tracks.logoutAll (tracks : Tracks jose events before) {now : Instant} {user : Uuid}
    (later : before.now ≤ now)
    : Tracks jose (events ++ [.logoutAll user])
      ⟨(revokeAllRefreshTokens now user before.db).1, now, before.answered⟩ := by
  refine tracks.unissued (fun _ _ same => nomatch same) later ?_ fun _ member _ => member
  intro userId claims row issued found describes
  refine ⟨_, by rw [revokeAllRefreshTokens, tokenRow_revokeRows, found, Option.map_some],
    describes.when now _, ?_, ?_⟩
  · intro spared
    have differs : row.userId ≠ user := fun same => spared (same.symm.trans describes.owner)
    simp [Change.when, differs]
  · intro revokes unrevoked
    have same : row.userId = user := describes.owner.trans revokes.symm
    simp [Change.when, same, revoked] at unrevoked

theorem refresh_access {lifetime : Int} {now : Instant} {jti : String} {token : Token}
    {db : Database} {claims : TokenClaims}
    (given : claims ∈ (refresh jose dialect lifetime now jti token db).toOption.toList)
    : claims.tokenType ≠ .refresh := by
  unfold refresh at given
  split at given
  · rw [List.mem_singleton.mp given]
    exact TokenType.noConfusion
  · cases given
  · cases given

theorem Tracks.step (tracks : Tracks jose events before)
    (taken : Step jose dialect settings before event after)
    : Tracks jose (events ++ [event]) after := by
  cases taken with
  | issue later issued => exact tracks.issue later rfl issued
  | refresh later _ =>
      refine tracks.untouched (fun _ _ same => nomatch same) (fun _ _ => id) later rfl ?_
      intro claims member type
      rcases List.mem_append.mp member with given | old
      · exact absurd type (refresh_access given)
      · exact old
  | logout later unforged => exact tracks.logout later unforged
  | logoutAll later => exact tracks.logoutAll later
  | elsewhere later rows =>
      exact tracks.untouched (fun _ _ same => nomatch same) (fun _ _ => id) later rows
        fun _ member _ => member

/-- The rows know every history that starts without tokens, by induction on the run. -/
theorem tracks_run {start service : Service} (fresh : Fresh start)
    (run : Run (Step jose dialect settings) start events service)
    : Tracks jose events service := by
  induction run with
  | done => exact fresh.tracks
  | next _ taken ih => exact ih.step taken

-- Accepted tokens

theorem isPast_false {now expiresAt : Instant}
    : isPast dialect now expiresAt = .ok false ↔ dialect = .postgresql ∧ now < expiresAt := by
  cases dialect <;> simp [isPast]

theorem validateRefreshToken_ok {now : Instant} {token : Token} {db : Database} {user : User}
    : validateRefreshToken jose dialect now token db = .ok user
      ↔ ∃ claims row, decodeToken jose now token .refresh = .ok claims
        ∧ tokenRow db claims.jti = some row
        ∧ row.revokedAt = none
        ∧ dialect = .postgresql
        ∧ now < row.expiresAt
        ∧ db.users.get? row.userId = some user
        ∧ user.deletedAt = none := by
  constructor
  · intro accepted
    unfold validateRefreshToken at accepted
    split at accepted
    · cases accepted
    next claims opened =>
      split at accepted
      · cases accepted
      next row found =>
        split_ifs at accepted with marked
        split at accepted
        · cases accepted
        · cases accepted
        next early =>
          split at accepted
          · cases accepted
          next owner account =>
            split_ifs at accepted with deleted
            cases accepted
            obtain ⟨keeps, early⟩ := isPast_false.mp early
            exact ⟨claims, row, opened, found, by simpa using marked, keeps, early, account,
              by simpa using deleted⟩
  · rintro ⟨claims, row, opened, found, unrevoked, keeps, early, account, present⟩
    have past := isPast_false.mpr ⟨keeps, early⟩
    simp [validateRefreshToken, opened, found, unrevoked, past, account, present]

theorem Tracks.accepts_iff (tracks : Tracks jose events before) {now : Instant} {token : Token}
    {user : User} (later : before.now ≤ now) (unforged : Unforged jose before token)
    : validateRefreshToken jose dialect now token before.db = .ok user
      ↔ dialect = .postgresql ∧ Valid jose events now before.db token user := by
  rw [validateRefreshToken_ok]
  constructor
  · rintro ⟨claims, row, opened, found, unrevoked, keeps, early, account, present⟩
    obtain ⟨verified, current, type, _⟩ := decodeToken_ok.mp opened
    obtain ⟨userId, issued⟩ := tracks.answered claims (unforged claims verified) type
    obtain ⟨stored, placed, describes, _, closed⟩ := tracks.stored userId claims issued
    cases found.symm.trans placed
    have owner : userId = user.id :=
      describes.owner.symm.trans (Table.get?_some account).2.symm
    rw [describes.owner, owner] at account
    rw [describes.expiry] at early
    refine ⟨keeps, claims, verified, ?_, early, account, present⟩
    rcases closed unrevoked with standing | past
    · exact owner ▸ standing
    · exact absurd (past.trans_le (timestamp_mono later)) (not_lt.mpr current)
  · rintro ⟨keeps, claims, verified, standing, early, account, present⟩
    obtain ⟨row, found, describes, stands, _⟩ := tracks.stored _ _ standing.issued
    have current : timestamp now ≤ claims.exp := timestamp_le_of_lt early
    refine ⟨claims, row, decodeToken_ok.mpr ⟨verified, current, describes.tokenType,
      describes.subject⟩, found, stands standing, keeps, ?_, ?_, present⟩
    · rw [describes.expiry]
      exact early
    · rw [describes.owner]
      exact account

/-- After every history validation accepts exactly the valid tokens, unless the database gives
times back without their offset and there is one to accept: comparing times raises then.
-/
theorem validation_agrees_iff {start service : Service} {now : Instant} {token : Token}
    (fresh : Fresh start) (run : Run (Step jose dialect settings) start events service)
    (later : service.now ≤ now) (unforged : Unforged jose service token)
    : (∀ user, validateRefreshToken jose dialect now token service.db = .ok user
        ↔ Valid jose events now service.db token user)
      ↔ dialect = .postgresql ∨ ∀ user, ¬ Valid jose events now service.db token user := by
  have accepts : ∀ user, validateRefreshToken jose dialect now token service.db = .ok user
      ↔ dialect = .postgresql ∧ Valid jose events now service.db token user :=
    fun _ => (tracks_run fresh run).accepts_iff later unforged
  constructor
  · intro agree
    by_cases keeps : dialect = .postgresql
    · exact .inl keeps
    · exact .inr fun user valid => keeps ((accepts user).mp ((agree user).mpr valid)).1
  · rintro (keeps | refused) user
    · rw [accepts, and_iff_right keeps]
    · rw [accepts, and_iff_right_of_imp fun valid => absurd valid (refused user)]

def plainJose : Jose TokenClaims where
  encode := id
  verify := some
  verify_encode _ := rfl

def tokenUser : User where
  id := 1
  email := "steve@example.com"
  authHash := ""
  nickname := "steve"

def newService : Service where
  db := { users := ⟨[tokenUser], List.nodup_singleton _⟩ }
  now := 0
  answered := []

def loginClaims (now : Instant) (jti : String) : TokenClaims :=
  createRefreshToken (uuidText 1) 2592000 now jti

def loggedIn (now : Instant) (jti : String) (service : Service) : Service where
  db :=
    { service.db with
      refreshTokens :=
        service.db.refreshTokens.create ⟨newRefreshToken {} now 1 jti, fun _ => rfl⟩ }
  now := now
  answered :=
    loginClaims now jti :: createAccessToken (uuidText 1) 900 now "access" :: service.answered

theorem step_loggedIn {now : Instant} {jti : String} {service : Service}
    (later : service.now ≤ now) (absent : tokenRow service.db jti = none)
    : Step plainJose dialect {} service (.issue 1 (loginClaims now jti))
      (loggedIn now jti service) := by
  refine .issue later (issueRefreshToken_fresh absent (timestamp_mono ?_))
  exact Int.le_add_of_nonneg_right (by decide)

theorem newService_fresh : Fresh newService := ⟨rfl, rfl⟩

/-- A login, a revocation of all tokens, and another login. -/
def loggedInAgain : Service :=
  loggedIn 20000000 "b"
    ⟨(revokeAllRefreshTokens 10000000 1 (loggedIn 0 "a" newService).db).1, 10000000,
      (loggedIn 0 "a" newService).answered⟩

theorem loggedInAgain_run
    : Run (Step plainJose dialect {}) newService
      [.issue 1 (loginClaims 0 "a"), .logoutAll 1, .issue 1 (loginClaims 20000000 "b")]
      loggedInAgain := by
  have first : Step plainJose dialect {} newService (.issue 1 (loginClaims 0 "a"))
      (loggedIn 0 "a" newService) :=
    step_loggedIn (by decide) rfl
  have second : Step plainJose dialect {} (loggedIn 0 "a" newService) (.logoutAll 1)
      ⟨(revokeAllRefreshTokens 10000000 1 (loggedIn 0 "a" newService).db).1, 10000000,
        (loggedIn 0 "a" newService).answered⟩ :=
    .logoutAll (by decide)
  exact ((Run.single first).next second).next (step_loggedIn (by decide) rfl)

/-- The token of the second login is accepted. -/
theorem second_login_accepted
    : validateRefreshToken plainJose .postgresql 30000000 (loginClaims 20000000 "b")
        loggedInAgain.db
      = .ok tokenUser := by
  have agrees := (validation_agrees_iff newService_fresh
    (loggedInAgain_run : Run (Step plainJose .postgresql {}) _ _ _)
    (by decide : loggedInAgain.now ≤ 30000000)
    (fun _ verified => Option.some.inj verified ▸ List.mem_cons_self
      : Unforged plainJose loggedInAgain (loginClaims 20000000 "b"))).mpr (.inl rfl)
  exact (agrees tokenUser).mpr
    ⟨loginClaims 20000000 "b", rfl, ⟨[_, _], [], rfl, nofun⟩, by decide, rfl, rfl⟩

/-- SQLite: the token of a login stands, and validation raises. -/
theorem sqlite_refuses_standing_token
    : Fresh newService
      ∧ Run (Step plainJose .sqlite {}) newService [.issue 1 (loginClaims 0 "a")]
        (loggedIn 0 "a" newService)
      ∧ Unforged plainJose (loggedIn 0 "a" newService) (loginClaims 0 "a")
      ∧ Valid plainJose [.issue 1 (loginClaims 0 "a")] 1000000 (loggedIn 0 "a" newService).db
        (loginClaims 0 "a") tokenUser
      ∧ validateRefreshToken plainJose .sqlite 1000000 (loginClaims 0 "a")
          (loggedIn 0 "a" newService).db
        = .error (.typeError "can't compare offset-naive and offset-aware datetimes") := by
  refine ⟨newService_fresh, .single (step_loggedIn (by decide) rfl), ?_, ?_, ?_⟩
  · intro claims verified
    cases verified
    exact List.mem_cons_self
  · refine ⟨loginClaims 0 "a", rfl, ⟨[], [], rfl, nofun⟩, by decide, rfl, rfl⟩
  · rfl

end Blockhost.RefreshTokens
