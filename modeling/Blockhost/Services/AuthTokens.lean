import Blockhost.Api.Auth
import Blockhost.Database.Identifiers
import Blockhost.Library.Run

/-! Refresh tokens: signed claims, and a row for each token that says whether it is revoked.
Validation is compared with the history of the calls that were made.
-/

namespace Blockhost.RefreshTokens

open Library

inductive TokenType where
  | access
  | refresh
deriving DecidableEq, Repr

/-- What a token says, with its times in seconds. -/
structure TokenClaims where
  sub : String
  tokenType : TokenType
  iat : Int
  exp : Int
  jti : String
deriving DecidableEq, Repr

def timestamp (now : Instant) : Int := now / 1000000

theorem timestamp_mono {earlier later : Instant} (le : earlier ≤ later)
    : timestamp earlier ≤ timestamp later :=
  Int.ediv_le_ediv (by decide) le

theorem timestamp_le_of_lt {now : Instant} {second : Int} (early : now < seconds second)
    : timestamp now ≤ second :=
  Int.ediv_le_of_le_mul (by decide) (le_of_lt early)

variable {Token : Type}

/-- The signing library under the service's key. `verify` gives the claims of a token whose
signature is right.
-/
structure Jose (Token : Type) where
  encode : TokenClaims → Token
  verify : Token → Option TokenClaims
  verify_encode : ∀ claims, verify (encode claims) = some claims

/-- Decoding checks the signature and, in whole seconds, the expiry. -/
def Jose.decode (jose : Jose Token) (now : Instant) (token : Token) : Option TokenClaims :=
  match jose.verify token with
  | none => none
  | some claims => if claims.exp < timestamp now then none else some claims

def createToken (subject : String) (expiresSeconds : Int) (tokenType : TokenType)
    (now : Instant) (jti : String)
    : TokenClaims where
  sub := subject
  tokenType := tokenType
  iat := timestamp now
  exp := timestamp (now + seconds expiresSeconds)
  jti := jti

def createAccessToken (subject : String) (expiresSeconds : Int) (now : Instant) (jti : String)
    : TokenClaims :=
  createToken subject expiresSeconds .access now jti

def createRefreshToken (subject : String) (expiresSeconds : Int) (now : Instant)
    (jti : String)
    : TokenClaims :=
  createToken subject expiresSeconds .refresh now jti

/-- What a call may raise. -/
inductive Failure where
  | tokenError (message : String)
  | integrityError
  | typeError (message : String)
deriving DecidableEq, Repr

def decodeToken (jose : Jose Token) (now : Instant) (token : Token) (expectedType : TokenType)
    : Except Failure TokenClaims :=
  match jose.decode now token with
  | none => .error (.tokenError "Invalid token")
  | some payload =>
      if payload.tokenType ≠ expectedType then .error (.tokenError "Invalid token type")
      else if payload.sub = "" then .error (.tokenError "Missing subject")
      else .ok payload

/-- `expires_at <= utcnow()` for a time read from a row. -/
def isPast (dialect : Dialect) (now expiresAt : Instant) : Except Failure Bool :=
  match dialect with
  | .postgresql => .ok (expiresAt ≤ now)
  | .sqlite => .error (.typeError "can't compare offset-naive and offset-aware datetimes")

def tokenRow (db : Database) (jti : String) : Option RefreshToken :=
  db.refreshTokens.rows.find? (fun row => row.jti = jti)

/-- Two rows with one `jti` break a constraint of the table. -/
def storeRefreshToken (settings : Settings) (now : Instant) (userId : Uuid) (jti : String)
    (db : Database)
    : Except Failure Database :=
  match tokenRow db jti with
  | some _ => .error .integrityError
  | none =>
      .ok
        { db with
          refreshTokens :=
            db.refreshTokens.create ⟨newRefreshToken settings now userId jti, fun _ => rfl⟩ }

def issueRefreshToken (jose : Jose Token) (settings : Settings) (now : Instant)
    (userId : Uuid) (jti : String) (db : Database)
    : Except Failure (Database × TokenClaims) := do
  let claims :=
    createRefreshToken (uuidText userId) settings.jwtRefreshTokenExpireSeconds now jti
  let decoded ← decodeToken jose now (jose.encode claims) .refresh
  let stored ← storeRefreshToken settings now userId decoded.jti db
  return (stored, claims)

def validateRefreshToken (jose : Jose Token) (dialect : Dialect) (now : Instant)
    (token : Token) (db : Database)
    : Except Failure User :=
  match decodeToken jose now token .refresh with
  | .error _ => .error (.tokenError "Invalid refresh token")
  | .ok decoded =>
      match tokenRow db decoded.jti with
      | none => .error (.tokenError "Refresh token revoked or unknown")
      | some row =>
          if row.revokedAt.isSome then
            .error (.tokenError "Refresh token revoked or unknown")
          else
            match isPast dialect now row.expiresAt with
            | .error failure => .error failure
            | .ok true => .error (.tokenError "Refresh token expired")
            | .ok false =>
                match db.users.get? row.userId with
                | none => .error (.tokenError "User not found")
                | some user =>
                    if user.deletedAt.isSome then .error (.tokenError "User not found")
                    else .ok user

/-- Rows that are revoked keep the time of it. -/
def revoked (now : Instant) : Change RefreshToken.id where
  apply row := { row with revokedAt := row.revokedAt.or (some now) }

def revokeRows (now : Instant) (test : RefreshToken → Bool) (db : Database) : Database :=
  { db with refreshTokens := db.refreshTokens.update ((revoked now).when test) }

/-- A token that does not decode is left alone, an expired one too. -/
def revokeRefreshToken (jose : Jose Token) (now : Instant) (token : Token) (db : Database)
    : Database :=
  match decodeToken jose now token .refresh with
  | .error _ => db
  | .ok decoded =>
      match tokenRow db decoded.jti with
      | none => db
      | some row => revokeRows now (fun stored => stored.id = row.id) db

def revokeAllRefreshTokens (now : Instant) (userId : Uuid) (db : Database) : Database × Nat :=
  (revokeRows now (fun row => row.userId = userId) db,
    db.refreshTokens.rows.countP
      (fun row => row.userId = userId && row.revokedAt.isNone))

/-- The endpoint behind `/refresh`: its access token, or an answer with an error. -/
def refresh (jose : Jose Token) (dialect : Dialect) (lifetime : Int) (now : Instant)
    (jti : String) (token : Token) (db : Database)
    : Except HttpError TokenClaims :=
  match validateRefreshToken jose dialect now token db with
  | .ok user => .ok (createAccessToken (uuidText user.id) lifetime now jti)
  | .error (.tokenError _) => .error ⟨401, "Invalid refresh token"⟩
  | .error _ => .error ⟨500, "Internal Server Error"⟩

end Blockhost.RefreshTokens
