import Blockhost.Api.Auth
import Blockhost.Library.Run
import Blockhost.Library.Session
import Blockhost.Library.Total

/-! The Blockcoin balances next to their ledger, with signups, Google signups and grants of
administrators in flight. A transaction reads what is committed when it begins, and stores its
rows when it commits.
-/

namespace Blockhost.BlockcoinLedger

open Library

-- Transactions

structure NewAccount where
  user : Uuid → User
  keyed : ∀ id, (user id).id = id
  referredById : Option Uuid
  opened : ∀ id, (user id).blockcoinBalance = openingBalance referredById

/-- A transaction in flight. A grant holds the balance that it has read. -/
inductive Underway where
  | signup (account : NewAccount)
  | grant (userId : Uuid) (balance amount : Int) (grantedBy : Uuid)

theorem signupUser_keyed (functions : AuthFunctions) (settings : Settings) (now : Instant)
    (draws : Draws) (payload : SignupRequest) (code : String) (referredById : Option Uuid)
    (id : Uuid)
    : (signupUser functions settings now draws payload code referredById id).id = id :=
  rfl

def signupAccount (functions : AuthFunctions) (settings : Settings) (now : Instant)
    (draws : Draws) (payload : SignupRequest) (db : Database)
    : Except HttpError NewAccount :=
  match userByEmail db (functions.lower payload.email) with
  | some _ => .error ⟨409, "Email already registered"⟩
  | none =>
      match uniqueReferrerCode db draws.referrerCodes with
      | none => .error ⟨500, "Failed to generate unique referrer code"⟩
      | some code =>
          let referredById := referrerId db payload.referrerCode
          .ok {
            user := signupUser functions settings now draws payload code referredById,
            keyed := signupUser_keyed functions settings now draws payload code referredById,
            referredById,
            opened := fun _ => rfl
          }

/-- The account that a Google login creates for a token it accepts, if neither the Google account
nor the address is known.
-/
def googleAccount (functions : AuthFunctions) (now : Instant) (draws : Draws)
    (token : GoogleToken) (referrerCode : Option String) (db : Database)
    : Except HttpError (Option NewAccount) :=
  match token.identity functions with
  | .error refusal => .error refusal
  | .ok (googleSub, email) =>
      match userByGoogleSub db googleSub, userByEmail db email with
      | none, none =>
          match uniqueReferrerCode db draws.referrerCodes with
          | none => .error ⟨500, "Failed to generate unique referrer code"⟩
          | some code =>
              let referredById := referrerId db referrerCode
              .ok (some {
                user := googleUser now token googleSub email code referredById,
                keyed := fun _ => rfl,
                referredById,
                opened := fun _ => rfl
              })
      | _, _ => .ok none

/-- A finite amount loses its fraction; `int` raises for the other floats. -/
def amountInt : Option Rat → Option Int :=
  Option.map (fun amount => amount.num.tdiv amount.den)

def adminGrantBlockcoins (userId : Uuid) (amount : Option Rat) (admin : Uuid) (db : Database)
    : Except HttpError Underway :=
  match db.users.get? userId with
  | none => .error ⟨404, "User not found"⟩
  | some user =>
      match amountInt amount with
      | none => .error ⟨500, "Internal Server Error"⟩
      | some amount => .ok (.grant userId user.blockcoinBalance amount admin)

/-- The unique columns of the users. -/
def admitsAccount (db : Database) (user : User) : Bool :=
  db.users.rows.all (fun other =>
    other.email ≠ user.email ∧ other.referrerCode ≠ user.referrerCode
    ∧ (user.googleSub = none ∨ other.googleSub ≠ user.googleSub))

def grantBlockcoins (balance amount : Int) : Change User.id where
  apply user :=
    { user with
      blockcoinBalance := written (some balance) (balance + amount) user.blockcoinBalance }

def storeGrant (userId : Uuid) (balance amount : Int) (grantedBy : Uuid) (db : Database)
    : Database :=
  { db with
    users := db.users.modify userId (grantBlockcoins balance amount)
    blockcoinLedger :=
      db.blockcoinLedger ++ [{ userId, amount, reason := .adminAdjustment grantedBy }] }

/-- What a commit stores, unless the database refuses it. -/
def Underway.store (db : Database) : Underway → Option Database
  | .signup account =>
      if admitsAccount db (account.user db.users.freshKey) then
        some (addUser account.user account.keyed account.referredById db)
      else none
  | .grant userId balance amount grantedBy =>
      if (db.users.get? userId).isSome then
        some (storeGrant userId balance amount grantedBy db)
      else none

-- Interleavings

/-- What is committed, and the transactions in flight. -/
structure Bank where
  db : Database := {}
  underway : List Underway := []

inductive Event where
  | signup (now : Instant) (draws : Draws) (payload : SignupRequest)
  | googleLogin (now : Instant) (draws : Draws) (token : GoogleToken)
      (referrerCode : Option String)
  | grant (userId : Uuid) (amount : Option Rat) (admin : Uuid)
  | commit (index : Nat)
  | rollback (index : Nat)

def Bank.start (bank : Bank) : Except HttpError (Option Underway) → Bank
  | .ok (some transaction) => { bank with underway := bank.underway ++ [transaction] }
  | _ => bank

def step (functions : AuthFunctions) (settings : Settings) (bank : Bank) : Event → Option Bank
  | .signup now draws payload =>
      some (bank.start
        ((signupAccount functions settings now draws payload bank.db).map
          (fun account => some (.signup account))))
  | .googleLogin now draws token referrerCode =>
      some (bank.start
        ((googleAccount functions now draws token referrerCode bank.db).map
          (fun account => account.map .signup)))
  | .grant userId amount admin =>
      some (bank.start ((adminGrantBlockcoins userId amount admin bank.db).map some))
  | .commit index =>
      (bank.underway[index]?).bind (fun transaction =>
        (transaction.store bank.db).map (fun db => ⟨db, bank.underway.eraseIdx index⟩))
  | .rollback index =>
      if index < bank.underway.length then
        some { bank with underway := bank.underway.eraseIdx index }
      else none

abbrev BankStep (functions : AuthFunctions) (settings : Settings) (before : Bank) (event : Event)
    (after : Bank)
    : Prop :=
  step functions settings before event = some after

-- The law

def ledgerTotal (db : Database) (userId : Uuid) : Int :=
  total (fun row => row.userId = userId) BlockcoinTransaction.amount db.blockcoinLedger

/-- Every balance is the sum of its ledger. -/
def Balanced (db : Database) : Prop :=
  ∀ user ∈ db.users.rows, user.blockcoinBalance = ledgerTotal db user.id

def Referenced (db : Database) : Prop :=
  ∀ row ∈ db.blockcoinLedger, row.userId ∈ db.users.rows.map User.id

/-- A grant that commits adds nothing, or finds the balance that it has read. -/
def ClearEvent (bank : Bank) (event : Event) : Prop :=
  ∀ index userId balance amount grantedBy, event = .commit index
    → bank.underway[index]? = some (.grant userId balance amount grantedBy)
    → amount = 0
      ∨ ∀ user, bank.db.users.get? userId = some user → user.blockcoinBalance = balance

-- Single steps

variable {functions : AuthFunctions} {settings : Settings}
variable {db next : Database} {bank after : Bank} {event : Event}

theorem ledgerTotal_append (row : BlockcoinTransaction)
    (ledger : next.blockcoinLedger = db.blockcoinLedger ++ [row]) (userId : Uuid)
    : ledgerTotal next userId
      = ledgerTotal db userId + if row.userId = userId then row.amount else 0 := by
  unfold ledgerTotal
  rw [ledger, total_append, total_cons, total_nil, Int.add_zero]
  simp [weight]

theorem Referenced.total_fresh (referenced : Referenced db)
    : ledgerTotal db db.users.freshKey = 0 := by
  refine total_weightless ?_
  intro row member
  refine weight_fail (decide_eq_false ?_)
  intro fresh
  exact db.users.freshKey_notMem (fresh ▸ referenced row member)

theorem Referenced.store {transaction : Underway} (referenced : Referenced db)
    (stored : transaction.store db = some next)
    : Referenced next := by
  cases transaction with
  | signup account =>
      obtain ⟨_, ⟨⟩⟩ := Option.ite_none_right_eq_some.mp stored
      intro row member
      refine ((db.users.keys_create _).symm ▸ List.mem_append.mpr ?_)
      unfold addUser at member
      cases referred : account.referredById with
      | none =>
          rw [referred] at member
          exact .inl (referenced row member)
      | some referrer =>
          rw [referred] at member
          rcases List.mem_append.mp member with earlier | added
          · exact .inl (referenced row earlier)
          · rw [List.mem_singleton.mp added]
            exact .inr (List.mem_singleton.mpr rfl)
  | grant userId balance amount grantedBy =>
      obtain ⟨found, ⟨⟩⟩ := Option.ite_none_right_eq_some.mp stored
      intro row member
      refine ((db.users.keys_modify userId _).symm ▸ ?_)
      rcases List.mem_append.mp member with earlier | added
      · exact referenced row earlier
      · rw [List.mem_singleton.mp added]
        obtain ⟨user, known⟩ := Option.isSome_iff_exists.mp found
        obtain ⟨member, same⟩ := Table.get?_some known
        exact List.mem_map.mpr ⟨user, member, same⟩

theorem ledgerTotal_addUser (account : NewAccount) (userId : Uuid)
    : ledgerTotal (addUser account.user account.keyed account.referredById db) userId
      = ledgerTotal db userId
        + if db.users.freshKey = userId then openingBalance account.referredById else 0 := by
  unfold addUser openingBalance
  cases account.referredById with
  | none =>
      rw [Option.isSome_none, if_neg Bool.false_ne_true, ite_self, Int.add_zero]
      rfl
  | some referrer => exact ledgerTotal_append ⟨_, 100, .referral referrer, none⟩ rfl userId

theorem ledgerTotal_storeGrant (userId : Uuid) (balance amount : Int) (grantedBy other : Uuid)
    : ledgerTotal (storeGrant userId balance amount grantedBy db) other
      = ledgerTotal db other + if userId = other then amount else 0 :=
  ledgerTotal_append ⟨userId, amount, .adminAdjustment grantedBy, none⟩ rfl other

theorem Balanced.signup (balanced : Balanced db) (referenced : Referenced db)
    (account : NewAccount)
    : Balanced (addUser account.user account.keyed account.referredById db) := by
  intro user member
  rw [ledgerTotal_addUser]
  rcases List.mem_append.mp member with earlier | added
  · have other : db.users.freshKey ≠ user.id :=
      fun same => db.users.freshKey_notMem (same ▸ List.mem_map_of_mem earlier)
    rw [if_neg other, Int.add_zero]
    exact balanced user earlier
  · cases List.mem_singleton.mp added
    change (account.user db.users.freshKey).blockcoinBalance
      = ledgerTotal db (account.user db.users.freshKey).id
        + if db.users.freshKey = (account.user db.users.freshKey).id then _ else 0
    rw [account.keyed, if_pos rfl, referenced.total_fresh, Int.zero_add, account.opened]

theorem written_add_iff {loaded amount stored : Int}
    : written (some loaded) (loaded + amount) stored = stored + amount
      ↔ amount = 0 ∨ stored = loaded := by
  unfold written
  split
  · rename_i same
    have none : amount = 0 := by
      have := Option.some.inj same
      omega
    simp [none]
  · rename_i differs
    have added : amount ≠ 0 := fun none => differs (by rw [none, Int.add_zero])
    omega

/-- A grant keeps the balances exactly when it adds nothing or finds the balance that it has
read.
-/
theorem Balanced.grant_iff {userId grantedBy : Uuid} {balance amount : Int}
    (balanced : Balanced db)
    (stored : (Underway.grant userId balance amount grantedBy).store db = some next)
    : Balanced next
      ↔ amount = 0 ∨ ∀ user, db.users.get? userId = some user
        → user.blockcoinBalance = balance := by
  obtain ⟨found, ⟨⟩⟩ := Option.ite_none_right_eq_some.mp stored
  obtain ⟨user, known⟩ := Option.isSome_iff_exists.mp found
  obtain ⟨member, rfl⟩ := Table.get?_some known
  have paid : ((grantBlockcoins balance amount).apply user).blockcoinBalance
        = ledgerTotal (storeGrant user.id balance amount grantedBy db)
          ((grantBlockcoins balance amount).apply user).id
      ↔ amount = 0 ∨ user.blockcoinBalance = balance := by
    rw [ledgerTotal_storeGrant, (grantBlockcoins balance amount).kept, if_pos rfl,
      ← balanced user member]
    exact written_add_iff
  rw [known]
  constructor
  · intro kept
    refine (paid.mp (kept _ (db.users.mem_modify _ member))).imp_right ?_
    rintro current _ ⟨⟩
    exact current
  · intro clear other stored
    obtain ⟨before, earlier, _, ⟨same, rfl⟩ | ⟨different, rfl⟩⟩ := Table.of_mem_modify stored
    · cases db.users.eq_of_key_eq earlier member same
      exact paid.mpr (clear.imp_right fun current => current user rfl)
    · rw [ledgerTotal_storeGrant, if_neg (Ne.symm different), Int.add_zero]
      exact balanced other earlier

theorem step_db (taken : BankStep functions settings bank event after)
    : after.db = bank.db ∧ (∀ index, event ≠ .commit index)
      ∨ ∃ index transaction, event = .commit index ∧ bank.underway[index]? = some transaction
        ∧ transaction.store bank.db = some after.db := by
  have started (result : Except HttpError (Option Underway))
      : (bank.start result).db = bank.db := by
    unfold Bank.start
    split <;> rfl
  cases event with
  | signup | googleLogin | grant =>
      cases taken
      exact .inl ⟨started _, nofun⟩
  | rollback index =>
      obtain ⟨_, ⟨⟩⟩ := Option.ite_none_right_eq_some.mp taken
      exact .inl ⟨rfl, nofun⟩
  | commit index =>
      obtain ⟨transaction, found, committed⟩ := Option.bind_eq_some_iff.mp taken
      obtain ⟨db, stored, rfl⟩ := Option.map_eq_some_iff.mp committed
      exact .inr ⟨index, transaction, rfl, found, stored⟩

theorem step_referenced (taken : BankStep functions settings bank event after)
    (referenced : Referenced bank.db)
    : Referenced after.db := by
  rcases step_db taken with ⟨same, _⟩ | ⟨_, _, _, _, stored⟩
  · exact same ▸ referenced
  · exact referenced.store stored

theorem step_balanced_iff (taken : BankStep functions settings bank event after)
    (referenced : Referenced bank.db) (balanced : Balanced bank.db)
    : Balanced after.db ↔ ClearEvent bank event := by
  rcases step_db taken with ⟨same, quiet⟩ | ⟨index, transaction, rfl, found, stored⟩
  · rw [same]
    exact iff_of_true balanced fun index _ _ _ _ commits => absurd commits (quiet index)
  · cases transaction with
    | signup account =>
        obtain ⟨_, created⟩ := Option.ite_none_right_eq_some.mp stored
        rw [← Option.some.inj created]
        refine iff_of_true (balanced.signup referenced account) ?_
        rintro _ _ _ _ _ ⟨⟩ grant
        cases found.symm.trans grant
    | grant userId balance amount grantedBy =>
        rw [balanced.grant_iff stored]
        constructor
        · rintro clear _ _ _ _ _ ⟨⟩ grant
          cases found.symm.trans grant
          exact clear
        · intro clear
          exact clear index userId balance amount grantedBy rfl found

-- Runs

theorem step_decided (before : Bank) (event : Event) (after other : Bank)
    (first : BankStep functions settings before event after)
    (second : BankStep functions settings before event other)
    : after = other :=
  Option.some.inj (first.symm.trans second)

/-- From balances that are right, they are right in every committed state of a run exactly when
every event of the run is clear.
-/
theorem balances_equal_ledgers_iff {events : List Event} {start finish : Bank}
    (referenced : Referenced start.db) (balanced : Balanced start.db)
    (run : Run (BankStep functions settings) start events finish)
    : (∀ earlier later, events = earlier ++ later → ∀ reached : Bank,
        Run (BankStep functions settings) start earlier reached → Balanced reached.db)
      ↔ ∀ earlier event later, events = earlier ++ event :: later → ∀ reached,
        Run (BankStep functions settings) start earlier reached → ClearEvent reached event :=
  run.throughout_iff (fun bank => Referenced bank.db) (fun bank => Balanced bank.db) ClearEvent
    step_decided
    (fun _ _ _ taken => step_referenced taken)
    (fun _ _ _ taken sound held => step_balanced_iff taken sound held) referenced balanced

private def oneUser : Database where
  users :=
    ⟨[{ id := 0, email := "a", authHash := "", nickname := "a" }], List.nodup_singleton _⟩

private def authFunctions : AuthFunctions where
  lower := id
  strip := id
  sha256 := id
  hash salt password := salt ++ password
  verify _ _ := false

private theorem oneUser_referenced : Referenced oneUser :=
  fun _ member => absurd member List.not_mem_nil

private theorem oneUser_balanced : Balanced oneUser := by
  intro user member
  rw [List.mem_singleton.mp member]
  rfl

private theorem performed {events : List Event} {finish : Bank}
    (done : events.foldlM (step authFunctions {}) ⟨oneUser, []⟩ = some finish)
    : Run (BankStep authFunctions {}) ⟨oneUser, []⟩ events finish :=
  .of_foldlM events (fun _ _ _ _ taken => taken) done

/-- A grant after another one keeps the balance right. -/
theorem grants_in_turn_keep_balance
    : ∃ finish : Bank,
        Run (BankStep authFunctions {}) ⟨oneUser, []⟩
          [.grant 0 (some 5) 0, .commit 0, .grant 0 (some 3) 0, .commit 0] finish
        ∧ Balanced finish.db := by
  have run : Run (BankStep authFunctions {}) ⟨oneUser, []⟩
      [.grant 0 (some 5) 0, .commit 0, .grant 0 (some 3) 0, .commit 0] _ :=
    performed rfl
  refine ⟨_, run, ?_⟩
  refine (balances_equal_ledgers_iff oneUser_referenced oneUser_balanced run).mpr ?_ _ []
    (List.append_nil _).symm _ run
  intro earlier event later same reached before index userId balance amount grantedBy commits
    found
  rcases earlier with _ | ⟨_, _ | ⟨_, _ | ⟨_, _ | ⟨_, rest⟩⟩⟩⟩
  · cases same
    cases commits
  · cases same
    cases commits
    cases before.unique step_decided (performed rfl)
    cases found
    refine .inr fun user known => ?_
    cases known
    rfl
  · cases same
    cases commits
  · cases same
    cases commits
    cases before.unique step_decided (performed rfl)
    cases found
    refine .inr fun user known => ?_
    cases known
    rfl
  · cases rest <;> cases same

/-- Of two grants that have read the same balance the ledger keeps both and the balance one. -/
theorem overlapping_grants_lose_one
    : ∃ finish : Bank,
        Run (BankStep authFunctions {}) ⟨oneUser, []⟩
          [.grant 0 (some 5) 0, .grant 0 (some 3) 0, .commit 0, .commit 0] finish
        ∧ ¬ Balanced finish.db := by
  refine ⟨_, performed rfl, fun balanced => ?_⟩
  have lost : (3 : Int) = 5 + (3 + 0) := balanced _ List.mem_cons_self
  cases lost

end Blockhost.BlockcoinLedger
