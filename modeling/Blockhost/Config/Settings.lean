/-! The settings of the control plane that the modelled functions read, with the defaults
of the source.
-/

namespace Blockhost

/-- The databases that the service runs on. SQLite gives times back without their offset, and
has no sum of a time and an interval.
-/
inductive Dialect where
  | postgresql
  | sqlite
deriving DecidableEq, Repr

structure Settings where
  dialect : Dialect := .sqlite
  jwtRefreshTokenExpireSeconds : Int := 60 * 60 * 24 * 30
  emailVerificationOtpExpireSeconds : Int := 60 * 60 * 24
  subscriptionGracePeriodDays : Int := 3
  maxServersPerUser : Int := 5
  workerAgentToken : String := "change-me-in-dev"
  allowAutoNodeRegistration : Bool := true
  productionMode : Bool := false
  minecraftPublicHost : String := ""
  bedrockPortRangeStart : Int := 19132
  bedrockPortRangeEnd : Int := 19232
  javaPortRangeStart : Int := 25565
  javaPortRangeEnd : Int := 25665
  migrationCooldownSeconds : Int := 300
  maxMigrationsPerHour : Int := 10
  rateLimitAuthPerMinute : Int := 120
deriving Repr

end Blockhost
