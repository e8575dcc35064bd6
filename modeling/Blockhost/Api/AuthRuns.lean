import Blockhost.Api.Auth
import Blockhost.Library.Run

/-! Runs of the account endpoints. From a signup to the first successful verification of its
address, the account is a local one without a verified address, which refuses its password; only
a Google login that links such an account ends this without a verification.
-/

namespace Blockhost

open Library

inductive AuthCall where
  | signup (payload : SignupRequest)
  | login (email password : String)
  | verifyEmail (email otp : String)
  | resendVerification (email : String)
  | googleLogin (token : Option GoogleToken) (referrerCode : Option String)

/-- A call with its time, its random values, whether the rate limiter refuses it, and its answer.
-/
structure AuthEntry where
  call : AuthCall
  now : Instant
  draws : Draws
  limited : Bool := false
  answer : Except HttpError AuthAnswer

def AuthEntry.succeeded (entry : AuthEntry) : Prop := ∃ answer, entry.answer = .ok answer

/-- The handler of a call that the rate limiter lets through. -/
def serveAuth (functions : AuthFunctions) (settings : Settings) (now : Instant)
    (draws : Draws) (db : Database)
    : AuthCall → AuthResult
  | .signup payload => signup functions settings now draws payload db
  | .login email password => login functions settings now draws email password db
  | .verifyEmail email otp => verifyEmail functions settings now draws email otp db
  | .resendVerification email => resendVerification functions settings now draws email db
  | .googleLogin token referrerCode =>
      googleLogin functions settings now draws token referrerCode db

def handleAuth (functions : AuthFunctions) (settings : Settings) (now : Instant)
    (draws : Draws) (limited : Bool) (db : Database) (call : AuthCall)
    : AuthResult :=
  if limited then { db, answer := .error ⟨429, "Too many requests. Please try again later."⟩ }
  else serveAuth functions settings now draws db call

theorem handleAuth_ok {functions : AuthFunctions} {settings : Settings} {now : Instant}
    {draws : Draws} {limited : Bool} {db : Database} {call : AuthCall} {answer : AuthAnswer}
    (accepted : (handleAuth functions settings now draws limited db call).answer = .ok answer)
    : handleAuth functions settings now draws limited db call
      = serveAuth functions settings now draws db call := by
  cases limited with
  | true => cases accepted
  | false => rfl

def AuthStep (functions : AuthFunctions) (settings : Settings) (before : Database)
    (entry : AuthEntry) (after : Database)
    : Prop :=
  let result :=
    handleAuth functions settings entry.now entry.draws entry.limited before entry.call
  after = result.db ∧ entry.answer = result.answer

/-- A Google login with a new Google identity finds an account by its address, and nobody has
verified that address yet.
-/
def LinksUnverified (functions : AuthFunctions) (db : Database) (call : AuthCall) : Prop :=
  ∃ token referrerCode googleSub email user,
    call = .googleLogin (some token) referrerCode
    ∧ token.identity functions = .ok (googleSub, email)
    ∧ userByGoogleSub db googleSub = none
    ∧ userByEmail db email = some user
    ∧ user.emailVerifiedAt = none

/-- A step that links no unverified account. -/
def GuardedStep (functions : AuthFunctions) (settings : Settings) (before : Database)
    (entry : AuthEntry) (after : Database)
    : Prop :=
  AuthStep functions settings before entry after
  ∧ (entry.limited = false → ¬ LinksUnverified functions before entry.call)

def AuthEntry.verifies (functions : AuthFunctions) (email : String) (entry : AuthEntry)
    : Prop :=
  (∃ address otp, entry.call = .verifyEmail address otp ∧ functions.lower address = email)
  ∧ entry.succeeded

/-- Every successful login with the password of an earlier successful signup comes after a
successful verification of the account in between.
-/
def PasswordProved (functions : AuthFunctions) (history : List AuthEntry) : Prop :=
  ∀ before signedUp middle loggedIn after,
    history = before ++ signedUp :: (middle ++ loggedIn :: after)
  → ∀ payload email,
    signedUp.call = .signup payload → signedUp.succeeded
  → loggedIn.call = .login email payload.password
  → functions.lower email = functions.lower payload.email → loggedIn.succeeded
  → ∃ proof ∈ middle, proof.verifies functions (functions.lower payload.email)

/-- A local account whose address nobody has verified. -/
structure User.Unproved (user : User) : Prop where
  provider : user.authProvider = .localAccount
  unverified : user.emailVerifiedAt = none
  unlinked : user.googleSub = none

/-- The address has an account, and it is unproved. -/
structure Pending (db : Database) (email : String) : Prop where
  registered : ∃ user ∈ db.users.rows, user.email = email
  unproved : ∀ user ∈ db.users.rows, user.email = email → user.Unproved

theorem userByEmail_some {db : Database} {email : String} {user : User}
    (found : userByEmail db email = some user)
    : user ∈ db.users.rows ∧ user.email = email :=
  ⟨List.mem_of_find?_eq_some found, by simpa using List.find?_some found⟩

theorem userByGoogleSub_some {db : Database} {googleSub : String} {user : User}
    (found : userByGoogleSub db googleSub = some user)
    : user ∈ db.users.rows ∧ user.googleSub = some googleSub :=
  ⟨List.mem_of_find?_eq_some found, by simpa using List.find?_some found⟩

theorem userByEmail_none {db : Database} {email : String}
    (missing : userByEmail db email = none)
    : ∀ user ∈ db.users.rows, user.email ≠ email := by
  intro user member same
  exact List.find?_eq_none.mp missing user member (by simp [same])

theorem Pending.changeUser {db : Database} {email : String} {userId : Uuid}
    {change : Change User.id} (pending : Pending db email)
    (addresses : ∀ user, (change.apply user).email = user.email)
    (harmless
      : ∀ user ∈ db.users.rows, user.id = userId → user.email = email
        → (change.apply user).Unproved)
    : Pending (changeUser userId change db) email := by
  have address (user : User) : ((change.at userId).apply user).email = user.email := by
    by_cases same : user.id = userId
    · rw [Change.at_same change same, addresses]
    · rw [Change.at_other change same]
  obtain ⟨owner, stored, own⟩ := pending.registered
  constructor
  · exact ⟨_, List.mem_map_of_mem stored, (address owner).trans own⟩
  · intro user member named
    obtain ⟨source, known, rfl⟩ := List.mem_map.mp member
    rw [address] at named
    by_cases same : source.id = userId
    · rw [Change.at_same change same]
      exact harmless source known same named
    · rw [Change.at_other change same]
      exact pending.unproved source known named

/-- The rows of one user have another address. -/
def Apart (db : Database) (userId : Uuid) (email : String) : Prop :=
  ∀ user ∈ db.users.rows, user.id = userId → user.email ≠ email

theorem apart_of_mem {db : Database} {email : String} {user : User}
    (member : user ∈ db.users.rows) (other : user.email ≠ email)
    : Apart db user.id email := by
  intro stored known same
  rw [db.users.eq_of_key_eq known member same]
  exact other

theorem Pending.changeOther {db : Database} {email : String} {userId : Uuid}
    {change : Change User.id} (pending : Pending db email)
    (addresses : ∀ user, (change.apply user).email = user.email)
    (apart : Apart db userId email)
    : Pending (Blockhost.changeUser userId change db) email :=
  pending.changeUser addresses (fun user member same own =>
    absurd own (apart user member same))

theorem Apart.changeUser {db : Database} {email : String} {userId : Uuid}
    {change : Change User.id} (apart : Apart db userId email)
    (addresses : ∀ user, (change.apply user).email = user.email)
    : Apart (Blockhost.changeUser userId change db) userId email := by
  intro changed known same
  obtain ⟨stored, kept, rfl⟩ := List.mem_map.mp known
  rw [(change.at userId).kept] at same
  rw [Change.at_same change same, addresses]
  exact apart stored kept same

theorem Pending.addUser {db : Database} {email : String} (pending : Pending db email)
    (user : Uuid → User) (keyed : ∀ id, (user id).id = id) (referredById : Option Uuid)
    (harmless
      : (user db.users.freshKey).email = email → (user db.users.freshKey).Unproved)
    : Pending (addUser user keyed referredById db) email := by
  obtain ⟨owner, stored, own⟩ := pending.registered
  constructor
  · exact ⟨owner, List.mem_append_left _ stored, own⟩
  · intro other member named
    rcases List.mem_append.mp member with old | new
    · exact pending.unproved other old named
    · rw [List.mem_singleton.mp new] at named ⊢
      exact harmless named

theorem Pending.issueAuthResponse {db : Database} {email : String} (settings : Settings)
    (now : Instant) (draws : Draws) (userId : Uuid) (pending : Pending db email)
    : Pending (Blockhost.issueAuthResponse settings now draws userId db).db email :=
  ⟨pending.registered, pending.unproved⟩

theorem Pending.issueEmailVerification {db : Database} {email : String} {userId : Uuid}
    (functions : AuthFunctions) (settings : Settings) (now : Instant) (otp : String)
    (pending : Pending db email)
    : Pending
        (Blockhost.changeUser userId
          ⟨Blockhost.issueEmailVerification functions settings now otp, fun _ => rfl⟩ db)
        email :=
  pending.changeUser (fun _ => rfl) (fun user member _ named =>
    let unproved := pending.unproved user member named
    ⟨unproved.provider, unproved.unverified, unproved.unlinked⟩)

theorem signup_pending {functions : AuthFunctions} {settings : Settings} {now : Instant}
    {draws : Draws} {payload : SignupRequest} {db : Database} {answer : AuthAnswer}
    (accepted : (signup functions settings now draws payload db).answer = .ok answer)
    : Pending (signup functions settings now draws payload db).db
        (functions.lower payload.email) := by
  unfold signup at accepted ⊢
  cases taken : userByEmail db (functions.lower payload.email) with
  | some user => simp [taken] at accepted
  | none =>
      cases drawn : uniqueReferrerCode db draws.referrerCodes with
      | none => simp [taken, drawn] at accepted
      | some code =>
          refine ⟨⟨_, List.mem_append_right _ (List.mem_singleton_self _), rfl⟩, ?_⟩
          intro user member named
          rcases List.mem_append.mp member with old | new
          · exact absurd named (userByEmail_none taken user old)
          · rw [List.mem_singleton.mp new]
            exact ⟨rfl, rfl, rfl⟩

theorem Pending.signup {db : Database} {email : String} (functions : AuthFunctions)
    (settings : Settings) (now : Instant) (draws : Draws) (payload : SignupRequest)
    (pending : Pending db email)
    : Pending (Blockhost.signup functions settings now draws payload db).db email := by
  unfold Blockhost.signup
  cases userByEmail db (functions.lower payload.email) with
  | some user => exact pending
  | none =>
      cases uniqueReferrerCode db draws.referrerCodes with
      | none => exact pending
      | some code => exact pending.addUser _ _ _ (fun _ => ⟨rfl, rfl, rfl⟩)

theorem Pending.login {db : Database} {email : String} (functions : AuthFunctions)
    (settings : Settings) (now : Instant) (draws : Draws) (address password : String)
    (pending : Pending db email)
    : Pending (Blockhost.login functions settings now draws address password db).db email := by
  unfold Blockhost.login
  cases userByEmail db (functions.lower address) with
  | none => exact pending
  | some user =>
      dsimp only
      split
      · exact pending
      · split
        · exact pending.issueEmailVerification functions settings now draws.otp
        · exact pending.issueAuthResponse settings now draws user.id

theorem Pending.login_refused {db : Database} {email : String} (functions : AuthFunctions)
    (settings : Settings) (now : Instant) (draws : Draws) {address : String}
    (password : String) (pending : Pending db email) (names : functions.lower address = email)
    : ∃ refusal,
        (Blockhost.login functions settings now draws address password db).answer
          = .error refusal := by
  unfold Blockhost.login
  cases found : userByEmail db (functions.lower address) with
  | none => exact ⟨_, rfl⟩
  | some user =>
      obtain ⟨member, named⟩ := userByEmail_some found
      have unproved := pending.unproved user member (named.trans names)
      dsimp only
      split
      · exact ⟨_, rfl⟩
      · rw [if_pos (by simp [unproved.provider, unproved.unverified])]
        exact ⟨_, rfl⟩

theorem Pending.verifyEmail {db : Database} {email : String} (functions : AuthFunctions)
    (settings : Settings) (now : Instant) (draws : Draws) (address otp : String)
    (pending : Pending db email)
    (apart
      : functions.lower address ≠ email
        ∨ ∀ answer,
            (Blockhost.verifyEmail functions settings now draws address otp db).answer
              ≠ .ok answer)
    : Pending (Blockhost.verifyEmail functions settings now draws address otp db).db email := by
  unfold Blockhost.verifyEmail at apart ⊢
  cases found : userByEmail db (functions.lower address) with
  | none => exact pending
  | some user =>
      dsimp only
      split
      · exact pending
      · rename_i accepted
        simp only [found, if_neg accepted] at apart
        rcases apart with other | refused
        · obtain ⟨member, named⟩ := userByEmail_some found
          have kept
              : Pending (Blockhost.changeUser user.id ⟨markVerified now, fun _ => rfl⟩ db)
                  email :=
            pending.changeOther (fun _ => rfl) (apart_of_mem member (named ▸ other))
          exact kept.issueAuthResponse settings now draws user.id
        · exact absurd rfl (refused _)

theorem Pending.resendVerification {db : Database} {email : String}
    (functions : AuthFunctions) (settings : Settings) (now : Instant) (draws : Draws)
    (address : String) (pending : Pending db email)
    : Pending (Blockhost.resendVerification functions settings now draws address db).db
        email := by
  unfold Blockhost.resendVerification
  cases userByEmail db (functions.lower address) with
  | none => exact pending
  | some user =>
      dsimp only
      split
      · exact pending.issueEmailVerification functions settings now draws.otp
      · exact pending

theorem Pending.finishGoogleLogin {db : Database} {email : String} (settings : Settings)
    (now : Instant) (draws : Draws) {user : User} (pending : Pending db email)
    (apart : Apart db user.id email)
    : Pending (Blockhost.finishGoogleLogin settings now draws user db).db email := by
  unfold Blockhost.finishGoogleLogin
  split
  · exact pending
  · have kept
        : Pending (Blockhost.changeUser user.id ⟨confirmEmail now, fun _ => rfl⟩ db)
            email :=
      pending.changeOther (fun _ => rfl) apart
    exact kept.issueAuthResponse settings now draws user.id

theorem Pending.googleLogin {db : Database} {email : String} (functions : AuthFunctions)
    (settings : Settings) (now : Instant) (draws : Draws) (token : Option GoogleToken)
    (referrerCode : Option String) (pending : Pending db email)
    (guarded : ¬ LinksUnverified functions db (.googleLogin token referrerCode))
    : Pending (Blockhost.googleLogin functions settings now draws token referrerCode db).db
        email := by
  unfold Blockhost.googleLogin
  cases token with
  | none => exact pending
  | some token =>
      dsimp only
      cases identity : token.identity functions with
      | error refusal => exact pending
      | ok account =>
          obtain ⟨googleSub, address⟩ := account
          dsimp only
          cases bySub : userByGoogleSub db googleSub with
          | some user =>
              obtain ⟨member, linked⟩ := userByGoogleSub_some bySub
              refine pending.finishGoogleLogin settings now draws ?_
              intro stored known same own
              have equal : stored = user := db.users.eq_of_key_eq known member same
              have unlinked := (pending.unproved stored known own).unlinked
              rw [equal, linked] at unlinked
              contradiction
          | none =>
              cases byEmail : userByEmail db address with
              | some user =>
                  obtain ⟨member, named⟩ := userByEmail_some byEmail
                  have other : user.email ≠ email := by
                    intro own
                    have unproved := pending.unproved user member own
                    exact guarded ⟨token, referrerCode, googleSub, address, user, rfl, identity,
                      bySub, byEmail, unproved.unverified⟩
                  have apart : Apart db user.id email := apart_of_mem member other
                  have linked
                      : Pending
                          (Blockhost.changeUser user.id
                            ⟨linkGoogle now googleSub, fun _ => rfl⟩ db)
                          email :=
                    pending.changeOther (fun _ => rfl) apart
                  exact linked.finishGoogleLogin settings now draws
                    (apart.changeUser (fun _ => rfl))
              | none =>
                  obtain ⟨owner, stored, own⟩ := pending.registered
                  have other : address ≠ email := by
                    intro same
                    exact userByEmail_none byEmail owner stored (own.trans same.symm)
                  cases uniqueReferrerCode db draws.referrerCodes with
                  | none => exact pending
                  | some code =>
                      have added := pending.addUser
                        (googleUser now token googleSub address code
                          (referrerId db referrerCode))
                        (fun _ => rfl) (referrerId db referrerCode)
                        (fun named => absurd named other)
                      refine added.finishGoogleLogin settings now draws ?_
                      intro known member same
                      rcases List.mem_append.mp member with old | new
                      · have below := db.users.lt_freshKey old
                        rw [same] at below
                        exact absurd below (lt_irrefl _)
                      · rw [List.mem_singleton.mp new]
                        exact other

theorem Pending.step {functions : AuthFunctions} {settings : Settings} {before after : Database}
    {entry : AuthEntry} {email : String}
    (unverified : ¬ entry.verifies functions email)
    (taken : GuardedStep functions settings before entry after) (pending : Pending before email)
    : Pending after email := by
  obtain ⟨⟨rfl, answered⟩, guarded⟩ := taken
  obtain ⟨call, now, draws, limited, answer⟩ := entry
  cases limited with
  | true => exact pending
  | false =>
  cases call with
  | signup payload => exact pending.signup functions settings now draws payload
  | login address password => exact pending.login functions settings now draws address password
  | verifyEmail address otp =>
      refine pending.verifyEmail functions settings now draws address otp ?_
      rw [or_iff_not_imp_left, not_not]
      intro same result accepted
      exact unverified ⟨⟨address, otp, rfl, same⟩, result, answered.trans accepted⟩
  | resendVerification address =>
      exact pending.resendVerification functions settings now draws address
  | googleLogin token referrerCode =>
      exact pending.googleLogin functions settings now draws token referrerCode (guarded rfl)

/-- A run that never verifies the address and links no unverified account keeps its account
unproved.
-/
theorem Pending.run {functions : AuthFunctions} {settings : Settings} {start finish : Database}
    {history : List AuthEntry} {email : String} (pending : Pending start email)
    (run : Run (GuardedStep functions settings) start history finish)
    (unverified : ∀ entry ∈ history, ¬ entry.verifies functions email)
    : Pending finish email :=
  run.invariant (Pending · email) (fun entry => ¬ entry.verifies functions email)
    (fun allowed taken kept => kept.step allowed taken) unverified pending

/-- While no Google login links an unverified account, a password of a signup logs in only after
a verification that follows the signup: until then the account stays unproved.
-/
theorem guarded_run_password_proved (functions : AuthFunctions) (settings : Settings)
    {start finish : Database} {history : List AuthEntry}
    (run : Run (GuardedStep functions settings) start history finish)
    : PasswordProved functions history := by
  rintro before signedUp middle loggedIn after rfl payload email registered signupOk loggingIn
    names loginOk
  by_contra unproved
  obtain ⟨_, _, later⟩ := run.split before
  obtain ⟨registeredDb, signupStep, rest⟩ := later.first
  obtain ⟨loginDb, between, closing⟩ := rest.split middle
  obtain ⟨_, loginStep, _⟩ := closing.first
  obtain ⟨⟨rfl, signupAnswer⟩, _⟩ := signupStep
  obtain ⟨answer, accepted⟩ := signupOk
  have served := handleAuth_ok (signupAnswer.symm.trans accepted)
  rw [served, registered] at signupAnswer between
  have pending : Pending _ (functions.lower payload.email) :=
    signup_pending (signupAnswer.symm.trans accepted)
  have kept := pending.run between (fun entry member proof => unproved ⟨entry, member, proof⟩)
  obtain ⟨⟨_, loginAnswer⟩, _⟩ := loginStep
  obtain ⟨granted, success⟩ := loginOk
  rw [handleAuth_ok (loginAnswer.symm.trans success), loggingIn] at loginAnswer
  obtain ⟨refusal, refused⟩ := kept.login_refused functions settings loggedIn.now loggedIn.draws
    payload.password names
  rw [success] at loginAnswer
  exact absurd (loginAnswer.trans refused) (by simp)

section Links

variable (functions : AuthFunctions) (settings : Settings)

theorem userByEmail_changeUser (db : Database) (email : String) (userId : Uuid)
    (change : Change User.id) (addresses : ∀ user, (change.apply user).email = user.email)
    : userByEmail (changeUser userId change db) email
      = (userByEmail db email).map (change.at userId).apply := by
  have address (user : User) : ((change.at userId).apply user).email = user.email := by
    by_cases same : user.id = userId
    · rw [Change.at_same change same, addresses]
    · rw [Change.at_other change same]
  simp only [userByEmail, changeUser, Table.modify, Table.rows_update, List.find?_map,
    Function.comp_def, address]

end Links

/-- Functions that keep their text, and a hash that shows its password. -/
private def plainFunctions : AuthFunctions where
  lower := id
  strip := id
  sha256 := id
  hash _ password := password
  verify password passwordHash := password == passwordHash

private def strangerSignup : SignupRequest where
  email := "owner@example.com"
  password := "stranger"
  nickname := "stranger"

private def answered (db : Database) (call : AuthCall) (now : Instant) (draws : Draws)
    : AuthEntry where
  call := call
  now := now
  draws := draws
  answer := (handleAuth plainFunctions {} now draws false db call).answer

private def afterSignup : Database :=
  (handleAuth plainFunctions {} 0 { otp := "1", referrerCodes := ["A"] } false {}
    (.signup strangerSignup)).db

private def signupEntry : AuthEntry :=
  answered {} (.signup strangerSignup) 0 { otp := "1", referrerCodes := ["A"] }

private def afterVerification : Database :=
  (handleAuth plainFunctions {} 1 { jti := "first" } false afterSignup
    (.verifyEmail "owner@example.com" "1")).db

private def verificationEntry : AuthEntry :=
  answered afterSignup (.verifyEmail "owner@example.com" "1") 1 { jti := "first" }

private def loginCall : AuthCall := .login "owner@example.com" "stranger"

/-- A signup, a verification and a login prove the password of the signup. -/
theorem verified_signup_password_proved
    : PasswordProved plainFunctions
        [signupEntry, verificationEntry,
          answered afterVerification loginCall 2 { jti := "second" }] := by
  have unlinked (db : Database) (call : AuthCall)
      (local_ : ∀ token referrerCode, call ≠ .googleLogin token referrerCode)
      : ¬ LinksUnverified plainFunctions db call := by
    rintro ⟨token, referrerCode, _, _, _, same, _⟩
    exact local_ _ _ same
  have run
      : Run (GuardedStep plainFunctions {}) {}
          [signupEntry, verificationEntry,
            answered afterVerification loginCall 2 { jti := "second" }] _ :=
    .cons ⟨⟨rfl, rfl⟩, fun _ => unlinked {} _ (by rintro _ _ ⟨⟩)⟩
      (.cons ⟨⟨rfl, rfl⟩, fun _ => unlinked afterSignup _ (by rintro _ _ ⟨⟩)⟩
        (.single ⟨⟨rfl, rfl⟩, fun _ => unlinked afterVerification _ (by rintro _ _ ⟨⟩)⟩))
  exact guarded_run_password_proved plainFunctions {} run

private def ownerToken : GoogleToken where
  sub := some "google"
  email := some "owner@example.com"
  emailVerified := true

private def afterLink : Database :=
  (handleAuth plainFunctions {} 1 { jti := "first" } false afterSignup
    (.googleLogin (some ownerToken) none)).db

private def linkEntry : AuthEntry :=
  answered afterSignup (.googleLogin (some ownerToken) none) 1 { jti := "first" }

private def strangerLogin : AuthEntry :=
  answered afterLink loginCall 2 { jti := "second" }

/-- A stranger signs up with an address, its owner links a Google account, and the stranger's
password logs in though nobody entered a code.
-/
theorem linked_signup_password_unproved
    : ¬ ∀ (functions : AuthFunctions) (settings : Settings) (start finish : Database)
        (history : List AuthEntry),
        Run (AuthStep functions settings) start history finish
        → PasswordProved functions history := by
  intro proved
  have run : Run (AuthStep plainFunctions {}) {} [signupEntry, linkEntry, strangerLogin] _ :=
    .cons ⟨rfl, rfl⟩ (.cons ⟨rfl, rfl⟩ (.single ⟨rfl, rfl⟩))
  obtain ⟨entry, member, ⟨_, _, verification, _⟩, _⟩ :=
    proved plainFunctions {} {} _ _ run [] signupEntry [linkEntry] strangerLogin [] rfl
      strangerSignup "owner@example.com" rfl ⟨_, rfl⟩ rfl rfl ⟨_, rfl⟩
  rw [List.mem_singleton.mp member] at verification
  contradiction

end Blockhost
