import Blockhost.Api.AuthRuns
import Blockhost.Services.RateLimitAgreement
import Mathlib

/-! The codes of an address over a run of the account endpoints. The row of the account holds
the last code that was issued until it is used, so a code works once, and only the newest does.
-/

namespace Blockhost

open Library RateLimit

-- The limiter of the endpoints

/-- The counters in Redis and the buckets of the process. -/
structure AuthLimiter where
  counters : String → Option (Counter Instant) := fun _ => none
  buckets : Buckets Instant := fun _ => []

/-- The address that a call comes from, the clock of the limiters, and what becomes of the
question to Redis.
-/
structure Caller where
  clientIp : String := "unknown"
  clock : Instant := 0
  reply : RedisReply := .unreachable

/-- `auth_rate_limit`: whether a call is let through, and the limiters after it. -/
def authRateLimit (settings : Settings) (caller : Caller) (limiter : AuthLimiter)
    : Bool × AuthLimiter :=
  let key := "rl:auth:" ++ caller.clientIp
  let limit := settings.rateLimitAuthPerMinute
  let (answer, stored) := redisCheck (fun deadline now => deadline ≤ now) limit (seconds 60)
    caller.clock (limiter.counters key)
  let (allowed, buckets) := localCheck ⟨key, limit, seconds 60, caller.clock⟩ limiter.buckets
  let counters := Function.update limiter.counters key stored
  match caller.reply with
  | .answered => (answer, { limiter with counters })
  | .lost => (allowed, { counters, buckets })
  | .unreachable => (allowed, { limiter with buckets })

-- The history of an address

/-- A call with its time, its random values and where it comes from. -/
structure AuthEvent where
  call : AuthCall
  now : Instant
  draws : Draws
  caller : Caller := {}

structure AuthSite where
  db : Database := {}
  limiter : AuthLimiter := {}

def AuthEvent.result (functions : AuthFunctions) (settings : Settings) (db : Database)
    (event : AuthEvent)
    : AuthResult :=
  serveAuth functions settings event.now event.draws db event.call

/-- The answer of the endpoint, with the limiter before it. -/
def AuthEvent.answered (functions : AuthFunctions) (settings : Settings) (site : AuthSite)
    (event : AuthEvent)
    : AuthResult :=
  handleAuth functions settings event.now event.draws
    (!(authRateLimit settings event.caller site.limiter).1) site.db event.call

/-- A new code with its expiry time, or the use of one. -/
inductive CodeNote where
  | issued (otp : String) (expiresAt : Instant)
  | consumed
deriving DecidableEq, Repr

def issuesCode (functions : AuthFunctions) (email : String) (result : AuthResult)
    : AuthCall → Bool
  | .signup payload => functions.lower payload.email = email && result.answer.isOk
  | .login address _ =>
      functions.lower address = email
        && (match result.answer with
          | .error refusal => refusal.status = 403
          | .ok _ => false)
  | .resendVerification address => functions.lower address = email && !result.mails.isEmpty
  | .verifyEmail _ _ | .googleLogin _ _ => false

/-- A successful verification uses a code. -/
def consumesCode (functions : AuthFunctions) (email : String) (result : AuthResult)
    : AuthCall → Bool
  | .verifyEmail address _ => functions.lower address = email && result.answer.isOk
  | .signup _ | .login _ _ | .resendVerification _ | .googleLogin _ _ => false

/-- What a call does to the codes of an address. -/
def codeNotes (functions : AuthFunctions) (settings : Settings) (email : String)
    (event : AuthEvent) (result : AuthResult)
    : List CodeNote :=
  if issuesCode functions email result event.call then
    [.issued event.draws.otp
      (event.now + seconds settings.emailVerificationOtpExpireSeconds)]
  else if consumesCode functions email result event.call then [.consumed]
  else []

/-- The site after some calls, and what they did to the codes of an address. -/
def authRun (functions : AuthFunctions) (settings : Settings) (email : String)
    : List AuthEvent → AuthSite → AuthSite × List CodeNote
  | [], site => (site, [])
  | event :: events, site =>
      let result := event.answered functions settings site
      let limiter := (authRateLimit settings event.caller site.limiter).2
      let (last, notes) := authRun functions settings email events { db := result.db, limiter }
      (last, codeNotes functions settings email event result ++ notes)

/-- A code is the last that was issued, nobody has used it since, and it has not expired. -/
def Usable (notes : List CodeNote) (now : Instant) (otp : String) : Prop :=
  ∃ earlier expiresAt, notes = earlier ++ [.issued otp expiresAt] ∧ now ≤ expiresAt

/-- The address has no account, or one that is not deleted and has no code. -/
def Codeless (db : Database) (email : String) : Prop :=
  ∀ user, userByEmail db email = some user
    → user.deletedAt = none ∧ user.emailVerificationOtpHash = none

-- Rows

variable {functions : AuthFunctions} {settings : Settings} {email : String} {db : Database}
variable {notes : List CodeNote}

def HoldsCode (functions : AuthFunctions) (user : User) : Option CodeNote → Prop
  | some (.issued otp expiresAt) =>
      user.emailVerificationOtpHash = some (verificationOtpHash functions user.email otp)
      ∧ user.emailVerificationExpiresAt = some expiresAt
  | some .consumed | none => user.emailVerificationOtpHash = none

/-- The rows agree with what happened to the codes of an address. -/
structure Agrees (functions : AuthFunctions) (db : Database) (email : String)
    (notes : List CodeNote)
    : Prop where
  absent : userByEmail db email = none → notes = []
  present
    : ∀ user, userByEmail db email = some user
      → user.deletedAt = none ∧ HoldsCode functions user notes.getLast?

theorem Codeless.agrees (codeless : Codeless db email) : Agrees functions db email [] where
  absent _ := rfl
  present := codeless

theorem Agrees.congr {next : Database} (agrees : Agrees functions db email notes)
    (same : userByEmail next email = userByEmail db email)
    : Agrees functions next email notes where
  absent missing := agrees.absent (same ▸ missing)
  present user found := agrees.present user (same ▸ found)

/-- A change of users that keeps their address, their code and that they are not deleted. -/
structure KeepsCode (change : User → User) : Prop where
  email : ∀ user, (change user).email = user.email
  deleted : ∀ user, (change user).deletedAt = user.deletedAt
  hash : ∀ user, (change user).emailVerificationOtpHash = user.emailVerificationOtpHash
  expires : ∀ user, (change user).emailVerificationExpiresAt = user.emailVerificationExpiresAt

theorem keepsCode_confirmEmail (now : Instant) : KeepsCode (confirmEmail now) :=
  ⟨fun _ => rfl, fun _ => rfl, fun _ => rfl, fun _ => rfl⟩

theorem keepsCode_linkGoogle (now : Instant) (googleSub : String)
    : KeepsCode (linkGoogle now googleSub) :=
  ⟨fun _ => rfl, fun _ => rfl, fun _ => rfl, fun _ => rfl⟩

theorem KeepsCode.holds {change : User → User} (keeps : KeepsCode change) {user : User}
    {note : Option CodeNote}
    : HoldsCode functions (change user) note ↔ HoldsCode functions user note := by
  unfold HoldsCode
  rw [keeps.email, keeps.hash, keeps.expires]

theorem Agrees.changeUser {userId : Uuid} {change : Change User.id}
    (agrees : Agrees functions db email notes) (keeps : KeepsCode change.apply)
    : Agrees functions (changeUser userId change db) email notes := by
  have found := userByEmail_changeUser db email userId change keeps.email
  constructor
  · intro missing
    rw [found, Option.map_eq_none_iff] at missing
    exact agrees.absent missing
  · intro changed stored
    rw [found] at stored
    obtain ⟨user, own, rfl⟩ := Option.map_eq_some_iff.mp stored
    obtain ⟨kept, holds⟩ := agrees.present user own
    by_cases same : user.id = userId
    · rw [Change.at_same change same]
      exact ⟨(keeps.deleted user).trans kept, keeps.holds.mpr holds⟩
    · rw [Change.at_other change same]
      exact ⟨kept, holds⟩

theorem userByEmail_changeOther {other : String} {user : User} {change : Change User.id}
    (addresses : ∀ user, (change.apply user).email = user.email)
    (found : userByEmail db other = some user) (differs : other ≠ email)
    : userByEmail (Blockhost.changeUser user.id change db) email = userByEmail db email := by
  rw [userByEmail_changeUser db email user.id change addresses]
  cases own : userByEmail db email with
  | none => rfl
  | some owner =>
      obtain ⟨stored, named⟩ := userByEmail_some found
      obtain ⟨kept, address⟩ := userByEmail_some own
      refine congrArg some (Change.at_other change ?_)
      intro same
      exact differs (named.symm.trans ((congrArg User.email
        (db.users.eq_of_key_eq kept stored same)).symm.trans address))

theorem userByEmail_changeOwn {user : User} {change : Change User.id}
    (addresses : ∀ user, (change.apply user).email = user.email)
    (found : userByEmail db email = some user)
    : userByEmail (Blockhost.changeUser user.id change db) email = some (change.apply user) := by
  rw [userByEmail_changeUser db email user.id change addresses, found, Option.map_some,
    Change.at_same change rfl]

theorem userByEmail_addUser (db : Database) (email : String) (user : Uuid → User)
    (keyed : ∀ id, (user id).id = id) (referredById : Option Uuid)
    : userByEmail (addUser user keyed referredById db) email
      = (userByEmail db email).or
          (if (user db.users.freshKey).email = email then some (user db.users.freshKey)
          else none) := by
  unfold userByEmail addUser
  rw [Table.rows_create, List.find?_append]
  refine congrArg _ ?_
  by_cases same : (user db.users.freshKey).email = email
  · simp [same]
  · simp [same]

theorem Agrees.addUser (agrees : Agrees functions db email notes) {user : Uuid → User}
    {keyed : ∀ id, (user id).id = id} {referredById : Option Uuid}
    (kept
      : (user db.users.freshKey).email = email → userByEmail db email = none
        → (user db.users.freshKey).deletedAt = none
          ∧ (user db.users.freshKey).emailVerificationOtpHash = none)
    : Agrees functions (addUser user keyed referredById db) email notes := by
  constructor
  · intro missing
    rw [userByEmail_addUser, Option.or_eq_none_iff] at missing
    exact agrees.absent missing.1
  · intro found stored
    rw [userByEmail_addUser] at stored
    cases own : userByEmail db email with
    | some owner =>
        rw [own] at stored
        cases stored
        exact agrees.present found own
    | none =>
        rw [own, Option.none_or] at stored
        split at stored
        · rename_i named
          cases stored
          rw [agrees.absent own]
          exact kept named own
        · cases stored

-- Calls

theorem signup_outcome (functions : AuthFunctions) (settings : Settings) (now : Instant)
    (draws : Draws) (payload : SignupRequest) (db : Database)
    : (∃ refusal, signup functions settings now draws payload db
        = { db, answer := .error refusal })
      ∨ userByEmail db (functions.lower payload.email) = none
        ∧ ∃ code referredById mails, signup functions settings now draws payload db
          = { db :=
                addUser (signupUser functions settings now draws payload code referredById)
                  (fun _ => rfl) referredById db
              mails
              answer := .ok (.verificationRequired (functions.lower payload.email)) } := by
  unfold signup
  cases userByEmail db (functions.lower payload.email) with
  | some user => exact .inl ⟨_, rfl⟩
  | none =>
      cases uniqueReferrerCode db draws.referrerCodes with
      | none => exact .inl ⟨_, rfl⟩
      | some code => exact .inr ⟨rfl, code, _, _, rfl⟩

def newCode (functions : AuthFunctions) (settings : Settings) (now : Instant) (otp : String)
    : Change User.id where
  apply := issueEmailVerification functions settings now otp

theorem login_outcome (functions : AuthFunctions) (settings : Settings) (now : Instant)
    (draws : Draws) (address password : String) (db : Database)
    : (∃ detail, login functions settings now draws address password db
        = { db, answer := .error ⟨401, detail⟩ })
      ∨ (∃ user detail, userByEmail db (functions.lower address) = some user
        ∧ login functions settings now draws address password db
          = { db := changeUser user.id (newCode functions settings now draws.otp) db
              answer := .error ⟨403, detail⟩ })
      ∨ ∃ userId, login functions settings now draws address password db
        = issueAuthResponse settings now draws userId db := by
  unfold login
  cases userByEmail db (functions.lower address) with
  | none => exact .inl ⟨_, rfl⟩
  | some user =>
      dsimp only
      split
      · exact .inl ⟨_, rfl⟩
      · split
        · exact .inr (.inl ⟨user, _, rfl, rfl⟩)
        · exact .inr (.inr ⟨user.id, rfl⟩)

theorem verifyEmail_outcome (functions : AuthFunctions) (settings : Settings) (now : Instant)
    (draws : Draws) (address otp : String) (db : Database)
    : (∃ refusal, verifyEmail functions settings now draws address otp db
        = { db, answer := .error refusal })
      ∨ ∃ user, userByEmail db (functions.lower address) = some user
        ∧ verifyEmail functions settings now draws address otp db
          = issueAuthResponse settings now draws user.id
              (changeUser user.id ⟨markVerified now, fun _ => rfl⟩ db) := by
  unfold verifyEmail
  cases userByEmail db (functions.lower address) with
  | none => exact .inl ⟨_, rfl⟩
  | some user =>
      dsimp only
      split
      · exact .inl ⟨_, rfl⟩
      · exact .inr ⟨user, rfl, rfl⟩

theorem resendVerification_outcome (functions : AuthFunctions) (settings : Settings)
    (now : Instant) (draws : Draws) (address : String) (db : Database)
    : resendVerification functions settings now draws address db
        = { db, answer := .ok .resendAccepted }
      ∨ ∃ user mail, userByEmail db (functions.lower address) = some user
        ∧ resendVerification functions settings now draws address db
          = { db := changeUser user.id (newCode functions settings now draws.otp) db
              mails := [mail]
              answer := .ok .resendAccepted } := by
  unfold resendVerification
  cases userByEmail db (functions.lower address) with
  | none => exact .inl rfl
  | some user =>
      dsimp only
      split
      · exact .inr ⟨user, _, rfl, rfl⟩
      · exact .inl rfl

theorem Agrees.newCode {user : User} (agrees : Agrees functions db email notes)
    (found : userByEmail db email = some user) (now : Instant) (otp : String)
    : Agrees functions
        (Blockhost.changeUser user.id (Blockhost.newCode functions settings now otp) db) email
        (notes ++ [.issued otp
          (now + seconds settings.emailVerificationOtpExpireSeconds)]) := by
  have own
      : userByEmail
          (Blockhost.changeUser user.id (Blockhost.newCode functions settings now otp) db) email
        = some (issueEmailVerification functions settings now otp user) :=
    userByEmail_changeOwn (fun _ => rfl) found
  constructor
  · intro missing
    cases own.symm.trans missing
  · intro changed stored
    cases own.symm.trans stored
    rw [List.getLast?_append]
    exact ⟨(agrees.present user found).1, rfl, rfl⟩

theorem Agrees.markVerified {user : User} (agrees : Agrees functions db email notes)
    (found : userByEmail db email = some user) (now : Instant)
    : Agrees functions
        (Blockhost.changeUser user.id ⟨Blockhost.markVerified now, fun _ => rfl⟩ db) email
        (notes ++ [.consumed]) := by
  have own
      : userByEmail
          (Blockhost.changeUser user.id ⟨Blockhost.markVerified now, fun _ => rfl⟩ db) email
        = some (Blockhost.markVerified now user) :=
    userByEmail_changeOwn (fun _ => rfl) found
  constructor
  · intro missing
    cases own.symm.trans missing
  · intro changed stored
    cases own.symm.trans stored
    rw [List.getLast?_append]
    exact ⟨(agrees.present user found).1, rfl⟩

theorem Agrees.after {event : AuthEvent} {result : AuthResult} {added : List CodeNote}
    (agrees : Agrees functions result.db email (notes ++ added))
    (same : event.result functions settings db = result)
    (noted : codeNotes functions settings email event result = added)
    : Agrees functions (event.result functions settings db).db email
        (notes ++ codeNotes functions settings email event
          (event.result functions settings db)) := by
  rw [same, noted]
  exact agrees

theorem Agrees.silent {event : AuthEvent} {result : AuthResult}
    (agrees : Agrees functions result.db email notes)
    (same : event.result functions settings db = result)
    (noted : codeNotes functions settings email event result = [])
    : Agrees functions (event.result functions settings db).db email
        (notes ++ codeNotes functions settings email event
          (event.result functions settings db)) := by
  refine Agrees.after ?_ same noted
  rw [List.append_nil]
  exact agrees

theorem agrees_signedUp {payload : SignupRequest}
    (missing : userByEmail db (functions.lower payload.email) = none) (now : Instant)
    (draws : Draws) (code : String) (referredById : Option Uuid)
    : Agrees functions
        (addUser (signupUser functions settings now draws payload code referredById)
          (fun _ => rfl) referredById db)
        (functions.lower payload.email)
        (notes ++ [.issued draws.otp
          (now + seconds settings.emailVerificationOtpExpireSeconds)]) := by
  have added := userByEmail_addUser db (functions.lower payload.email)
    (signupUser functions settings now draws payload code referredById) (fun _ => rfl)
    referredById
  rw [missing, Option.none_or] at added
  have first := added.trans (if_pos rfl)
  constructor
  · intro absent
    cases first.symm.trans absent
  · intro user stored
    cases first.symm.trans stored
    rw [List.getLast?_append]
    exact ⟨rfl, rfl, rfl⟩

theorem Agrees.signup (agrees : Agrees functions db email notes) (now : Instant)
    (draws : Draws) (caller : Caller) (payload : SignupRequest)
    : let event : AuthEvent := ⟨.signup payload, now, draws, caller⟩
      Agrees functions (event.result functions settings db).db email
        (notes ++ codeNotes functions settings email event
          (event.result functions settings db)) := by
  intro event
  rcases signup_outcome functions settings now draws payload db with
    ⟨refusal, refused⟩ | ⟨missing, code, referredById, mails, added⟩
  · refine agrees.silent refused ?_
    simp [codeNotes, issuesCode, consumesCode, event, Except.isOk, Except.toBool]
  · by_cases own : functions.lower payload.email = email
    · subst own
      refine Agrees.after (agrees_signedUp missing now draws code referredById) added ?_
      simp [codeNotes, issuesCode, event, Except.isOk, Except.toBool]
    · refine Agrees.silent (agrees.addUser (fun named => absurd named own)) added ?_
      simp [codeNotes, issuesCode, consumesCode, event, own]

theorem Agrees.login (agrees : Agrees functions db email notes) (now : Instant)
    (draws : Draws) (caller : Caller) (address password : String)
    : let event : AuthEvent := ⟨.login address password, now, draws, caller⟩
      Agrees functions (event.result functions settings db).db email
        (notes ++ codeNotes functions settings email event
          (event.result functions settings db)) := by
  intro event
  rcases login_outcome functions settings now draws address password db with
    ⟨detail, refused⟩ | ⟨user, detail, found, asked⟩ | ⟨userId, accepted⟩
  · refine agrees.silent refused ?_
    simp [codeNotes, issuesCode, consumesCode, event]
  · by_cases own : functions.lower address = email
    · refine Agrees.after (agrees.newCode (own ▸ found) now draws.otp) asked ?_
      simp [codeNotes, issuesCode, event, own]
    · refine Agrees.silent
        (agrees.congr (userByEmail_changeOther (fun _ => rfl) found own)) asked ?_
      simp [codeNotes, issuesCode, consumesCode, event, own]
  · refine Agrees.silent (agrees.congr rfl) accepted ?_
    simp [codeNotes, issuesCode, consumesCode, event, issueAuthResponse]

theorem Agrees.resendVerification (agrees : Agrees functions db email notes) (now : Instant)
    (draws : Draws) (caller : Caller) (address : String)
    : let event : AuthEvent := ⟨.resendVerification address, now, draws, caller⟩
      Agrees functions (event.result functions settings db).db email
        (notes ++ codeNotes functions settings email event
          (event.result functions settings db)) := by
  intro event
  rcases resendVerification_outcome functions settings now draws address db with
    ignored | ⟨user, mail, found, sent⟩
  · refine agrees.silent ignored ?_
    simp [codeNotes, issuesCode, consumesCode, event]
  · by_cases own : functions.lower address = email
    · refine Agrees.after (agrees.newCode (own ▸ found) now draws.otp) sent ?_
      simp [codeNotes, issuesCode, event, own]
    · refine Agrees.silent
        (agrees.congr (userByEmail_changeOther (fun _ => rfl) found own)) sent ?_
      simp [codeNotes, issuesCode, consumesCode, event, own]

theorem Agrees.verifyEmail (agrees : Agrees functions db email notes) (now : Instant)
    (draws : Draws) (caller : Caller) (address otp : String)
    : let event : AuthEvent := ⟨.verifyEmail address otp, now, draws, caller⟩
      Agrees functions (event.result functions settings db).db email
        (notes ++ codeNotes functions settings email event
          (event.result functions settings db)) := by
  intro event
  rcases verifyEmail_outcome functions settings now draws address otp db with
    ⟨refusal, refused⟩ | ⟨user, found, accepted⟩
  · refine agrees.silent refused ?_
    simp [codeNotes, issuesCode, consumesCode, event, Except.isOk, Except.toBool]
  · by_cases own : functions.lower address = email
    · refine Agrees.after ((agrees.markVerified (own ▸ found) now).congr rfl) accepted ?_
      simp [codeNotes, issuesCode, consumesCode, event, own, issueAuthResponse, Except.isOk,
        Except.toBool]
    · refine Agrees.silent
        (agrees.congr (userByEmail_changeOther (fun _ => rfl) found own)) accepted ?_
      simp [codeNotes, issuesCode, consumesCode, event, own]

theorem Agrees.finishGoogleLogin {user : User} (agrees : Agrees functions db email notes)
    (now : Instant) (draws : Draws)
    : Agrees functions (Blockhost.finishGoogleLogin settings now draws user db).db email
        notes := by
  unfold Blockhost.finishGoogleLogin
  split
  · exact agrees
  · have confirmed : Agrees functions
        (Blockhost.changeUser user.id ⟨confirmEmail now, fun _ => rfl⟩ db) email notes :=
      agrees.changeUser (keepsCode_confirmEmail now)
    exact confirmed.congr rfl

theorem Agrees.googleLogin (agrees : Agrees functions db email notes) (now : Instant)
    (draws : Draws) (caller : Caller) (token : Option GoogleToken) (referrerCode : Option String)
    : let event : AuthEvent := ⟨.googleLogin token referrerCode, now, draws, caller⟩
      Agrees functions (event.result functions settings db).db email
        (notes ++ codeNotes functions settings email event
          (event.result functions settings db)) := by
  intro event
  have noted : codeNotes functions settings email event (event.result functions settings db)
      = [] := by
    simp [codeNotes, issuesCode, consumesCode, event]
  rw [noted, List.append_nil]
  change Agrees functions
    (Blockhost.googleLogin functions settings now draws token referrerCode db).db email notes
  unfold Blockhost.googleLogin
  cases token with
  | none => exact agrees
  | some token =>
      dsimp only
      cases token.identity functions with
      | error refusal => exact agrees
      | ok account =>
          obtain ⟨googleSub, address⟩ := account
          dsimp only
          cases userByGoogleSub db googleSub with
          | some user => exact agrees.finishGoogleLogin now draws
          | none =>
              cases userByEmail db address with
              | some user =>
                  have linked : Agrees functions
                      (Blockhost.changeUser user.id ⟨linkGoogle now googleSub, fun _ => rfl⟩ db)
                      email notes :=
                    agrees.changeUser (keepsCode_linkGoogle now googleSub)
                  exact linked.finishGoogleLogin now draws
              | none =>
                  cases uniqueReferrerCode db draws.referrerCodes with
                  | none => exact agrees
                  | some code =>
                      refine Agrees.finishGoogleLogin ?_ now draws
                      exact agrees.addUser (fun _ _ => ⟨rfl, rfl⟩)

theorem Agrees.result (settings : Settings) (agrees : Agrees functions db email notes)
    (event : AuthEvent)
    : Agrees functions (event.result functions settings db).db email
        (notes ++ codeNotes functions settings email event
          (event.result functions settings db)) := by
  obtain ⟨call, now, draws, caller⟩ := event
  cases call with
  | signup payload => exact agrees.signup now draws caller payload
  | login address password => exact agrees.login now draws caller address password
  | verifyEmail address otp => exact agrees.verifyEmail now draws caller address otp
  | resendVerification address => exact agrees.resendVerification now draws caller address
  | googleLogin token referrerCode =>
      exact agrees.googleLogin now draws caller token referrerCode

/-- A call that the limiter refuses leaves the codes alone. -/
theorem Agrees.call {site : AuthSite} (settings : Settings)
    (agrees : Agrees functions site.db email notes) (event : AuthEvent)
    : Agrees functions (event.answered functions settings site).db email
        (notes ++ codeNotes functions settings email event
          (event.answered functions settings site)) := by
  unfold AuthEvent.answered handleAuth
  split
  · have silent (answer : AuthResult) (failure : HttpError) (status : failure.status = 429)
        (same : answer = { db := site.db, answer := .error failure })
        : codeNotes functions settings email event answer = [] := by
      subst same
      obtain ⟨call, now, draws, caller⟩ := event
      cases call <;> simp [codeNotes, issuesCode, consumesCode, status, Except.isOk, Except.toBool]
    rw [silent _ _ rfl rfl, List.append_nil]
    exact agrees
  · exact agrees.result settings event

/-- A run keeps the agreement, by induction on its calls. -/
theorem Agrees.run {site : AuthSite} (agrees : Agrees functions site.db email notes)
    (events : List AuthEvent)
    : Agrees functions (authRun functions settings email events site).1.db email
        (notes ++ (authRun functions settings email events site).2) := by
  induction events generalizing site notes with
  | nil =>
      change Agrees functions site.db email (notes ++ [])
      rw [List.append_nil]
      exact agrees
  | cons event events ih =>
      let limiter := (authRateLimit settings event.caller site.limiter).2
      let next : AuthSite := { db := (event.answered functions settings site).db, limiter }
      have called : Agrees functions next.db email _ := agrees.call settings event
      have later := ih called
      rw [List.append_assoc] at later
      exact later

-- Verifications

theorem usable_iff {now : Instant} {otp : String}
    : Usable notes now otp
      ↔ ∃ expiresAt, notes.getLast? = some (.issued otp expiresAt) ∧ now ≤ expiresAt := by
  constructor
  · rintro ⟨earlier, expiresAt, rfl, early⟩
    exact ⟨expiresAt, List.getLast?_concat, early⟩
  · rintro ⟨expiresAt, last, early⟩
    obtain ⟨earlier, rfl⟩ := List.getLast?_eq_some_iff.mp last
    exact ⟨earlier, expiresAt, rfl, early⟩

theorem verifyEmail_ok_iff (agrees : Agrees functions db email notes)
    (injective : Function.Injective (verificationOtpHash functions email)) (now : Instant)
    (draws : Draws) {address : String} (otp : String) (own : functions.lower address = email)
    : (∃ answer, (verifyEmail functions settings now draws address otp db).answer = .ok answer)
      ↔ Usable notes now otp := by
  subst own
  rw [usable_iff]
  unfold verifyEmail
  cases found : userByEmail db (functions.lower address) with
  | none =>
      rw [agrees.absent found]
      refine iff_of_false ?_ ?_
      · rintro ⟨answer, refused⟩
        cases refused
      · rintro ⟨expiresAt, last, _⟩
        cases last
  | some user =>
      obtain ⟨present, holds⟩ := agrees.present user found
      obtain ⟨_, named⟩ := userByEmail_some found
      have accepts
          : (user.deletedAt.isSome
              || user.emailVerificationOtpHash
                ≠ some (verificationOtpHash functions (functions.lower address) otp)
              || isExpired now user.emailVerificationExpiresAt) = false
            ↔ ∃ expiresAt, notes.getLast? = some (.issued otp expiresAt) ∧ now ≤ expiresAt := by
        cases last : notes.getLast? with
        | none =>
            rw [last] at holds
            simp [holds.trans rfl]
        | some note =>
            rw [last] at holds
            cases note with
            | consumed => simp [holds.trans rfl]
            | issued code expiresAt =>
                obtain ⟨hash, expires⟩ := holds
                rw [named] at hash
                simp only [present, hash, expires, isExpired, Option.isSome_none, ne_eq,
                  Option.some.injEq, injective.eq_iff, CodeNote.issued.injEq]
                simp
      rw [← accepts]
      dsimp only
      split
      · rename_i refused
        refine iff_of_false ?_ (Bool.eq_false_iff.not.mpr (not_not.mpr refused))
        rintro ⟨answer, ok⟩
        cases ok
      · rename_i accepted
        exact iff_of_true ⟨_, rfl⟩ (Bool.eq_false_iff.mpr accepted)

/-- A code works exactly once: a verification that the limiter lets through succeeds exactly for
the last code that was issued to the address, until it expires or is used. `email` is any address
without a code at first.
-/
theorem verification_iff_usable (functions : AuthFunctions) (settings : Settings)
    (email : String) (injective : Function.Injective (verificationOtpHash functions email))
    (events : List AuthEvent) (start : AuthSite) (codeless : Codeless start.db email)
    (now : Instant) (draws : Draws) (caller : Caller) (address otp : String)
    (own : functions.lower address = email)
    : let run := authRun functions settings email events start
      let event : AuthEvent := ⟨.verifyEmail address otp, now, draws, caller⟩
      (∃ answer, (event.answered functions settings run.1).answer = .ok answer)
        ↔ (authRateLimit settings caller run.1.limiter).1 = true ∧ Usable run.2 now otp := by
  intro run event
  have agrees : Agrees functions run.1.db email run.2 := codeless.agrees.run events
  rw [← verifyEmail_ok_iff agrees injective now draws otp own]
  unfold AuthEvent.answered handleAuth
  change (∃ answer, (if (!(authRateLimit settings caller run.1.limiter).1) = true then _
    else _ : AuthResult).answer = .ok answer) ↔ _
  cases (authRateLimit settings caller run.1.limiter).1 with
  | true =>
      rw [and_iff_right rfl]
      rfl
  | false =>
      refine iff_of_false ?_ (fun both => Bool.false_ne_true both.1)
      rintro ⟨answer, refused⟩
      cases refused

/-- Functions that leave every text as it is. -/
private def identityFunctions : AuthFunctions where
  lower := id
  strip := id
  sha256 := id
  hash := fun _ password => password
  verify := fun password passwordHash => password = passwordHash

theorem injective_identityFunctions (email : String)
    : Function.Injective (verificationOtpHash identityFunctions email) :=
  fun _ _ same => (String.append_right_inj _).mp same

private def ownerSignup : AuthEvent where
  call :=
    .signup { email := "owner@example.com", password := "secret", nickname := "owner" }
  now := 0
  draws := { otp := "123456", referrerCodes := ["A"] }

private def wrongCode (clock : Instant) : AuthEvent where
  call := .verifyEmail "owner@example.com" "000000"
  now := clock
  draws := {}
  caller := { clock }

/-- The code of a signup still works at its expiry time, after a wrong one. -/
theorem signup_code_verifies
    : ∃ answer,
        (AuthEvent.answered identityFunctions {}
          (authRun identityFunctions {} "owner@example.com" [ownerSignup, wrongCode 1] {}).1
          ⟨.verifyEmail "owner@example.com" "123456", days 1, {}, { clock := days 1 }⟩).answer
        = .ok answer :=
  (verification_iff_usable identityFunctions {} "owner@example.com"
    (injective_identityFunctions _) [ownerSignup, wrongCode 1] {}
    (fun user found => nomatch found) (days 1) {} { clock := days 1 } "owner@example.com"
    "123456" rfl).mpr
    ⟨by decide +kernel, [], days 1, by decide +kernel, le_refl _⟩

/-- After five calls within a minute the limiter of production refuses the right code. -/
theorem sixth_call_refuses_code
    : ¬ ∀ (functions : AuthFunctions) (settings : Settings) (email : String),
        Function.Injective (verificationOtpHash functions email)
        → ∀ (events : List AuthEvent) (start : AuthSite), Codeless start.db email
        → ∀ (now : Instant) (draws : Draws) (caller : Caller) (address otp : String),
          functions.lower address = email
          → let run := authRun functions settings email events start
            let event : AuthEvent := ⟨.verifyEmail address otp, now, draws, caller⟩
            (∃ answer, (event.answered functions settings run.1).answer = .ok answer)
              ↔ Usable run.2 now otp := by
  intro all
  let settings : Settings := { rateLimitAuthPerMinute := 5 }
  let events := [ownerSignup, wrongCode 1, wrongCode 2, wrongCode 3, wrongCode 4]
  obtain ⟨answer, accepted⟩ := (all identityFunctions settings "owner@example.com"
    (injective_identityFunctions _) events {} (fun user found => nomatch found) 5 {}
    { clock := 5 } "owner@example.com" "123456" rfl).mpr ⟨[], days 1, by decide +kernel, by decide⟩
  have refused
      : (authRateLimit settings { clock := 5 }
          (authRun identityFunctions settings "owner@example.com" events {}).1.limiter).1
        = false := by
    decide +kernel
  unfold AuthEvent.answered handleAuth at accepted
  rw [refused] at accepted
  cases accepted

end Blockhost
