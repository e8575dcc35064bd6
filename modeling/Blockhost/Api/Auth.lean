import Blockhost.Api.Schemas
import Blockhost.Config.Settings

/-! Accounts: signup, login, e-mail verification and Google login. An endpoint may commit and
still answer with an error, so each returns the database together with its answer.
-/

namespace Blockhost

open Library

/-- Text and hash functions that the endpoints call. -/
structure AuthFunctions where
  lower : String → String
  strip : String → String
  sha256 : String → String
  hash : (salt password : String) → String
  verify : (password passwordHash : String) → Bool

/-- The random values of one call. -/
structure Draws where
  otp : String := ""
  salt : String := ""
  jti : String := ""
  referrerCodes : List String := []

/-- A verification code on its way to an address. -/
structure Mail where
  toEmail : String
  nickname : String
  otp : String
deriving DecidableEq, Repr

inductive AuthAnswer where
  | verificationRequired (email : String)
  | authenticated (userId : Uuid) (refreshJti : String)
  | resendAccepted
deriving DecidableEq, Repr

/-- What a call commits, the mails that it sends after a normal answer, and the answer. -/
structure AuthResult where
  db : Database
  mails : List Mail := []
  answer : Except HttpError AuthAnswer

/-- An empty hash verifies no password; an exception of the library counts as a mismatch. -/
def verifyPassword (functions : AuthFunctions) (password passwordHash : String) : Bool :=
  passwordHash ≠ "" && functions.verify password passwordHash

def verificationOtpHash (functions : AuthFunctions) (email otp : String) : String :=
  functions.sha256 (functions.strip (functions.lower email) ++ ":" ++ otp)

def userByEmail (db : Database) (email : String) : Option User :=
  db.users.rows.find? (fun user => user.email = email)

def userByGoogleSub (db : Database) (googleSub : String) : Option User :=
  db.users.rows.find? (fun user => user.googleSub = some googleSub)

/-- The first of twenty drawn codes that no user has. -/
def uniqueReferrerCode (db : Database) (codes : List String) : Option String :=
  (codes.take 20).find? (fun code => db.users.rows.all (fun user => user.referrerCode ≠ code))

def referrerId (db : Database) (referrerCode : Option String) : Option Uuid :=
  match referrerCode with
  | none | some "" => none
  | some code =>
      (db.users.rows.find? (fun user => user.referrerCode = code)).map User.id

/-- A new code replaces the one of the account. -/
def issueEmailVerification (functions : AuthFunctions) (settings : Settings) (now : Instant)
    (otp : String) (user : User)
    : User :=
  { user with
    emailVerificationOtpHash := some (verificationOtpHash functions user.email otp)
    emailVerificationExpiresAt :=
      some (now + seconds settings.emailVerificationOtpExpireSeconds) }

def verificationMail (user : User) (otp : String) : Mail where
  toEmail := user.email
  nickname := user.nickname
  otp := otp

def changeUser (userId : Uuid) (change : Change User.id) (db : Database) : Database :=
  { db with users := db.users.modify userId change }

def newRefreshToken (settings : Settings) (now : Instant) (userId : Uuid) (jti : String)
    (id : Uuid)
    : RefreshToken where
  id := id
  userId := userId
  jti := jti
  expiresAt :=
    seconds ((now + seconds settings.jwtRefreshTokenExpireSeconds) / 1000000)

def issueAuthResponse (settings : Settings) (now : Instant) (draws : Draws) (userId : Uuid)
    (db : Database)
    : AuthResult where
  db :=
    { db with
      refreshTokens :=
        db.refreshTokens.create ⟨newRefreshToken settings now userId draws.jti, fun _ => rfl⟩ }
  answer := .ok (.authenticated userId draws.jti)

def addUser (user : Uuid → User) (keyed : ∀ id, (user id).id = id) (referredById : Option Uuid)
    (db : Database)
    : Database :=
  { db with
    users := db.users.create ⟨user, keyed⟩
    blockcoinLedger :=
      match referredById with
      | none => db.blockcoinLedger
      | some referredBy =>
          db.blockcoinLedger
            ++ [{ userId := db.users.freshKey, amount := 100, reason := .referral referredBy }] }

def openingBalance (referredById : Option Uuid) : Int :=
  if referredById.isSome then 100 else 0

structure SignupRequest where
  email : String
  password : String
  nickname : String
  referrerCode : Option String := none

/-- The row of a new local account, with its first code. -/
def signupUser (functions : AuthFunctions) (settings : Settings) (now : Instant)
    (draws : Draws) (payload : SignupRequest) (referrerCode : String)
    (referredById : Option Uuid) (id : Uuid)
    : User :=
  issueEmailVerification functions settings now draws.otp
    {
      id,
      email := functions.lower payload.email,
      authHash := functions.hash draws.salt payload.password,
      nickname := payload.nickname,
      referrerCode,
      referredById,
      blockcoinBalance := openingBalance referredById
    }

def signup (functions : AuthFunctions) (settings : Settings) (now : Instant) (draws : Draws)
    (payload : SignupRequest) (db : Database)
    : AuthResult :=
  match userByEmail db (functions.lower payload.email) with
  | some _ => { db, answer := .error ⟨409, "Email already registered"⟩ }
  | none =>
      match uniqueReferrerCode db draws.referrerCodes with
      | none => { db, answer := .error ⟨500, "Failed to generate unique referrer code"⟩ }
      | some code =>
          let referredById := referrerId db payload.referrerCode
          let user := signupUser functions settings now draws payload code referredById
          {
            db := addUser user (fun _ => rfl) referredById db,
            mails := [verificationMail (user db.users.freshKey) draws.otp],
            answer := .ok (.verificationRequired (functions.lower payload.email))
          }

/-- A right password of an unverified local account replaces the code and answers 403; the mail
with the new code is a background task of the answer that the exception discards.
-/
def login (functions : AuthFunctions) (settings : Settings) (now : Instant) (draws : Draws)
    (email password : String) (db : Database)
    : AuthResult :=
  match userByEmail db (functions.lower email) with
  | none => { db, answer := .error ⟨401, "Invalid credentials"⟩ }
  | some user =>
      if user.deletedAt.isSome || !verifyPassword functions password user.authHash then
        { db, answer := .error ⟨401, "Invalid credentials"⟩ }
      else if user.authProvider = .localAccount && user.emailVerifiedAt.isNone then
        {
          db := changeUser user.id
            ⟨issueEmailVerification functions settings now draws.otp, fun _ => rfl⟩ db,
          answer := .error ⟨403, "Email not verified. A new verification code has been sent "
            ++ "to your email."⟩
        }
      else issueAuthResponse settings now draws user.id db

def markVerified (now : Instant) (user : User) : User :=
  { user with
    emailVerifiedAt := some now
    emailVerificationOtpHash := none
    emailVerificationExpiresAt := none }

def isExpired (now : Instant) (expiresAt : Option Instant) : Bool :=
  match expiresAt with
  | none => true
  | some expiry => expiry < now

def verifyEmail (functions : AuthFunctions) (settings : Settings) (now : Instant)
    (draws : Draws) (email otp : String) (db : Database)
    : AuthResult :=
  let refusal : HttpError := ⟨400, "Invalid or expired verification code"⟩
  match userByEmail db (functions.lower email) with
  | none => { db, answer := .error refusal }
  | some user =>
      if user.deletedAt.isSome
          || user.emailVerificationOtpHash
            ≠ some (verificationOtpHash functions (functions.lower email) otp)
          || isExpired now user.emailVerificationExpiresAt then
        { db, answer := .error refusal }
      else
        issueAuthResponse settings now draws user.id
          (changeUser user.id ⟨markVerified now, fun _ => rfl⟩ db)

def resendVerification (functions : AuthFunctions) (settings : Settings) (now : Instant)
    (draws : Draws) (email : String) (db : Database)
    : AuthResult :=
  match userByEmail db (functions.lower email) with
  | none => { db, answer := .ok .resendAccepted }
  | some user =>
      if user.deletedAt.isNone && user.authProvider = .localAccount
          && user.emailVerifiedAt.isNone then
        {
          db := changeUser user.id
            ⟨issueEmailVerification functions settings now draws.otp, fun _ => rfl⟩ db,
          mails := [verificationMail user draws.otp],
          answer := .ok .resendAccepted
        }
      else { db, answer := .ok .resendAccepted }

/-- The claims of a Google token whose signature and audience are right. -/
structure GoogleToken where
  sub : Option String
  email : Option String
  emailVerified : Bool := false
  name : Option String := none

/-- The account and address of a token that may log in. -/
def GoogleToken.identity (functions : AuthFunctions) (token : GoogleToken)
    : Except HttpError (String × String) :=
  match token.sub, token.email with
  | some googleSub, some email =>
      if token.emailVerified then .ok (googleSub, functions.lower email)
      else .error ⟨401, "Google email not verified"⟩
  | _, _ => .error ⟨401, "Incomplete Google token payload"⟩

/-- The first verification time stays. -/
def confirmEmail (now : Instant) (user : User) : User :=
  { user with emailVerifiedAt := user.emailVerifiedAt.or (some now) }

/-- An account found by its address becomes a Google account; its password hash stays. -/
def linkGoogle (now : Instant) (googleSub : String) (user : User) : User :=
  { confirmEmail now user with googleSub := some googleSub, authProvider := .google }

def googleNickname (token : GoogleToken) (email : String) : String :=
  match token.name with
  | none | some "" => String.ofList (email.toList.takeWhile (· ≠ '@'))
  | some name => name

def googleUser (now : Instant) (token : GoogleToken) (googleSub email referrerCode : String)
    (referredById : Option Uuid) (id : Uuid)
    : User where
  id := id
  email := email
  authHash := ""
  nickname := googleNickname token email
  referrerCode := referrerCode
  referredById := referredById
  blockcoinBalance := openingBalance referredById
  googleSub := some googleSub
  authProvider := .google
  emailVerifiedAt := some now

/-- The last part of a Google login: suspended accounts are refused, after the account may
already have been linked.
-/
def finishGoogleLogin (settings : Settings) (now : Instant) (draws : Draws) (user : User)
    (db : Database)
    : AuthResult :=
  if user.deletedAt.isSome then { db, answer := .error ⟨403, "Account suspended"⟩ }
  else
    issueAuthResponse settings now draws user.id
      (changeUser user.id ⟨confirmEmail now, fun _ => rfl⟩ db)

/-- `token` is what the Google library makes of the request's token, if it accepts it. -/
def googleLogin (functions : AuthFunctions) (settings : Settings) (now : Instant)
    (draws : Draws) (token : Option GoogleToken) (referrerCode : Option String)
    (db : Database)
    : AuthResult :=
  match token with
  | none => { db, answer := .error ⟨401, "Invalid Google token"⟩ }
  | some token =>
      match token.identity functions with
      | .error refusal => { db, answer := .error refusal }
      | .ok (googleSub, email) =>
          match userByGoogleSub db googleSub, userByEmail db email with
          | some user, _ => finishGoogleLogin settings now draws user db
          | none, some user =>
              finishGoogleLogin settings now draws user
                (changeUser user.id ⟨linkGoogle now googleSub, fun _ => rfl⟩ db)
          | none, none =>
              match uniqueReferrerCode db draws.referrerCodes with
              | none =>
                  { db, answer := .error ⟨500, "Failed to generate unique referrer code"⟩ }
              | some code =>
                  let referredById := referrerId db referrerCode
                  let user := googleUser now token googleSub email code referredById
                  finishGoogleLogin settings now draws (user db.users.freshKey)
                    (addUser user (fun _ => rfl) referredById db)

end Blockhost
