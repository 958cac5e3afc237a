import Bifrostnms.Backend.ProbeConfiguration
import Bifrostnms.Lib.Table

/-!
# Secrets for one use (`auth/two_factor.py`, `auth/account_lifecycle.py`, `auth/webauthn.py`)

A recovery code, the challenge of a login, the token of an e-mail and the
challenge of a passkey are rows with a column that says when they were used. A
call selects a row whose column is empty, decides whether it accepts it, and
fills the column with a statement of its own before it returns.

Any number of calls run at the same time; the database executes one statement
at a time, of any of them, or one of the statements by which other requests
create, withdraw and delete such rows. Instants are microseconds in UTC, and
every statement comes with what the clock shows when its answer is there.
-/

namespace Bifrostnms.Backend

open Bifrostnms.Lib

/-! ## Rows (`models/auth.py`) -/

structure UserRow where
  id : Uuid
  isActive : Bool := true
  isSuperuser : Bool := false
  sessionVersion : ℤ := 1

structure RecoveryCodeRow where
  id : Uuid
  userId : Uuid
  codeHash : String
  usedAt : Option ℤ := none

structure TwoFactorMethodRow where
  id : Uuid
  userId : Uuid
  methodType : String := "totp"
  secretEncrypted : String
  isEnabled : Bool := false
  lastUsedAt : Option ℤ := none

/-- The values of `challenge_type`. -/
inductive ChallengeType where
  | twoFactorLogin
  | emailVerification
  | passwordReset
  | webauthnRegistration
  | webauthnAuthentication
deriving DecidableEq

structure AuthenticationChallengeRow where
  id : Uuid
  userId : Option Uuid := none
  challengeType : ChallengeType
  challengeHash : String
  expiresAt : ℤ
  consumedAt : Option ℤ := none
  /-- `metadata["challenge"]`, which only the challenges of passkeys have. -/
  challenge : Option String := none

structure WebAuthnCredentialRow where
  id : Uuid
  userId : Uuid
  credentialId : String
  publicKey : String
  signCount : ℤ := 0
  deviceType : String := ""
  backedUp : Bool := false
  lastUsedAt : Option ℤ := none

structure AuthTables where
  users : Table UserRow.id := {}
  recoveryCodes : Table RecoveryCodeRow.id := {}
  methods : Table TwoFactorMethodRow.id := {}
  challenges : Table AuthenticationChallengeRow.id := {}
  credentials : Table WebAuthnCredentialRow.id := {}
  /-- The ids of recovery codes and challenges so far, those of deleted rows
  among them. -/
  issued : List Uuid := []

/-! ## What the calls use -/

/-- A verified assertion of a passkey. -/
structure Verification where
  newSignCount : ℤ
  credentialDeviceType : String
  credentialBackedUp : Bool

/-- Which of the rows that match comes first is up to the database. -/
structure FirstRow (ρ : Type) where
  first : List ρ → Option ρ
  mem_of_first : ∀ {rows r}, first rows = some r → r ∈ rows
  isSome_first : ∀ {rows}, rows ≠ [] → (first rows).isSome

structure AuthContext where
  txt : PyText
  /-- The hexadecimal SHA-256 of a text. -/
  hashToken : String → String
  decryptSecret : String → Except String String
  /-- `pyotp.TOTP(secret).verify(code, valid_window=1)` -/
  verifyTotp : (secret code : String) → (now : ℤ) → Bool
  /-- `verify_authentication_response` for the credential, the challenge and the
  public key as they are stored, and the sign count. -/
  verifyAuthenticationResponse : Json JsonNum → (challenge publicKey : String) →
    (signCount : ℤ) → Except String Verification
  firstRecoveryCode : FirstRow RecoveryCodeRow

def AuthContext.hashRecoveryCode (ctx : AuthContext) (code : String) : String :=
  let normalized := ctx.txt.upper (ctx.txt.strip code)
  ctx.hashToken (String.ofList (normalized.toList.filter (· ≠ ' ')))

/-- A row that may be used once. -/
inductive Secret where
  | recoveryCode (id : Uuid)
  | challenge (id : Uuid)
deriving DecidableEq

def Secret.id : Secret → Uuid
  | .recoveryCode id | .challenge id => id

/-! ## Calls -/

inductive SecretCall where
  | verifyTwoFactor (userId : Uuid) (code : String) (recovery : Bool)
  | consumeLoginChallenge (token : String)
  | consumeAccountToken (token : String) (challengeType : ChallengeType)
  | verifyAuthentication (challengeId : Uuid) (credential : Json JsonNum)

inductive SecretOutcome where
  /-- `True`, or a user. A code of an authenticator app is no row of its own. -/
  | accepted (userId : Uuid) (secret : Option Secret)
  /-- `False`, or `None`. -/
  | refused
  | raised (message : String)
deriving DecidableEq

/-- A call, by the statement it executes next. -/
inductive SecretPhase where
  | select
  | saveRecoveryCode (row : RecoveryCodeRow) (usedAt : ℤ)
  | saveMethod (row : TwoFactorMethodRow)
  | selectCredential (challenge : AuthenticationChallengeRow) (credentialId : String)
  | saveCredential (challenge : AuthenticationChallengeRow)
      (stored : WebAuthnCredentialRow)
  | saveChallenge (row : AuthenticationChallengeRow) (consumedAt : ℤ)
      (userId : Uuid)
  | returned (outcome : SecretOutcome)

namespace AuthTables

variable (t : AuthTables)

/-! `save` updates the row that has the id, if there is one. -/

def saveRecoveryCode (id : Uuid) (usedAt : ℤ) : AuthTables :=
  { t with
    recoveryCodes := t.recoveryCodes.update
      (fun r => if r.id = id then { r with usedAt := some usedAt } else r)
      (by intro r; split <;> rfl) }

def saveMethod (row : TwoFactorMethodRow) : AuthTables :=
  { t with
    methods := t.methods.update
      (fun r => if r.id = row.id then { r with lastUsedAt := row.lastUsedAt } else r)
      (by intro r; split <;> rfl) }

def saveChallenge (id : Uuid) (consumedAt : ℤ) : AuthTables :=
  { t with
    challenges := t.challenges.update
      (fun r => if r.id = id then { r with consumedAt := some consumedAt } else r)
      (by intro r; split <;> rfl) }

def saveCredential (row : WebAuthnCredentialRow) : AuthTables :=
  { t with
    credentials := t.credentials.update
      (fun r => if r.id = row.id then { r with
          signCount := row.signCount
          lastUsedAt := row.lastUsedAt
          deviceType := row.deviceType
          backedUp := row.backedUp }
        else r)
      (by intro r; split <;> rfl) }

/-- `select_related("user")` -/
def userOf (challenge : AuthenticationChallengeRow) : Option UserRow :=
  challenge.userId.bind t.users.find?

end AuthTables

namespace SecretCall

/-- The first statement of a call. Nothing is written by it. -/
def select (ctx : AuthContext) (t : AuthTables) (now : ℤ) : SecretCall → SecretPhase
  | .verifyTwoFactor userId code true =>
    match ctx.firstRecoveryCode.first (t.recoveryCodes.rows.filter fun row =>
        row.userId = userId && row.codeHash = ctx.hashRecoveryCode code && row.usedAt.isNone) with
    | none => .returned .refused
    | some row => .saveRecoveryCode row now
  | .verifyTwoFactor userId code false =>
    match t.methods.rows.find? fun row => row.userId = userId &&
        row.methodType = "totp" && row.isEnabled with
    | none => .returned .refused
    | some method =>
      match ctx.decryptSecret method.secretEncrypted with
      | .error message => .returned (.raised message)
      | .ok secret =>
        if ctx.verifyTotp secret (ctx.txt.strip code) now then
          .saveMethod { method with lastUsedAt := some now }
        else .returned .refused
  | .consumeLoginChallenge token =>
    match t.challenges.rows.find? fun row =>
        row.challengeType = .twoFactorLogin &&
          row.challengeHash = ctx.hashToken token && row.consumedAt.isNone with
    | none => .returned .refused
    | some challenge =>
      if challenge.expiresAt ≤ now then .returned .refused
      else
        match t.userOf challenge with
        | none => .returned .refused
        | some user => .saveChallenge challenge now user.id
  | .consumeAccountToken token challengeType =>
    match t.challenges.rows.find? fun row =>
        row.challengeType = challengeType &&
          row.challengeHash = ctx.hashToken token && row.consumedAt.isNone &&
          now < row.expiresAt with
    | none => .returned .refused
    | some challenge =>
      match t.userOf challenge with
      | none => .returned .refused
      | some user =>
        if user.isActive then .saveChallenge challenge now user.id
        else .returned .refused
  | .verifyAuthentication challengeId credential =>
    match t.challenges.rows.find? fun row => row.id = challengeId &&
        row.challengeType = .webauthnAuthentication && row.consumedAt.isNone with
    | none => .returned (.raised "WebAuthn challenge expired")
    | some challenge =>
      if challenge.expiresAt ≤ now then
        .returned (.raised "WebAuthn challenge expired")
      else
        match credential.members.lookup "id" with
        | some (.str credentialId) => .selectCredential challenge credentialId
        | _ => .returned (.raised "Invalid passkey response")

/-- After the credential was selected. -/
def verify (ctx : AuthContext) (now : ℤ) (credential : Json JsonNum)
    (challenge : AuthenticationChallengeRow) : Option WebAuthnCredentialRow → SecretPhase
  | none => .returned (.raised "Passkey is not registered")
  | some stored =>
    match challenge.challenge with
    | none => .returned (.raised "'challenge'")
    | some expected =>
      match ctx.verifyAuthenticationResponse credential expected
          stored.publicKey stored.signCount with
      | .error message => .returned (.raised message)
      | .ok verification => .saveCredential challenge { stored with
          signCount := verification.newSignCount
          lastUsedAt := some now
          deviceType := verification.credentialDeviceType
          backedUp := verification.credentialBackedUp }

/-- The credential that a call was given. -/
def credential : SecretCall → Json JsonNum
  | .verifyAuthentication _ credential => credential
  | _ => .null

/-- The next statement of a call. -/
def step (ctx : AuthContext) (t : AuthTables) (now : ℤ) (call : SecretCall) :
    SecretPhase → SecretPhase × AuthTables
  | .select => (call.select ctx t now, t)
  | .saveRecoveryCode row usedAt =>
    (.returned (.accepted row.userId (some (.recoveryCode row.id))),
      t.saveRecoveryCode row.id usedAt)
  | .saveMethod row =>
    (.returned (.accepted row.userId none), t.saveMethod row)
  | .selectCredential challenge credentialId =>
    (verify ctx now call.credential challenge
      (t.credentials.rows.find? fun row => row.credentialId = credentialId), t)
  | .saveCredential challenge stored =>
    (.saveChallenge challenge now stored.userId, t.saveCredential stored)
  | .saveChallenge row consumedAt userId =>
    (.returned (.accepted userId (some (.challenge row.id))), t.saveChallenge row.id consumedAt)
  | .returned outcome => (.returned outcome, t)

end SecretCall

/-! ## Statements of other requests -/

inductive AuthStatement where
  /-- `create_login_challenge`, `create_account_token` and `_store_challenge`
  create a challenge. -/
  | createChallenge (row : AuthenticationChallengeRow)
  /-- `create_login_challenge` deletes the open challenges of the user. -/
  | deleteLoginChallenges (userId : Uuid)
  /-- `create_account_token` consumes the open tokens of the user. -/
  | withdrawTokens (userId : Uuid) (challengeType : ChallengeType)
  /-- `verify_registration` consumes its challenge. -/
  | consumeRegistration (id : Uuid)
  /-- `verify_totp_setup` creates the codes of a user. -/
  | createRecoveryCode (row : RecoveryCodeRow)
  /-- `verify_totp_setup` and `disable_totp` delete them. -/
  | deleteRecoveryCodes (userId : Uuid)
  /-- A user is created or changed. -/
  | saveUser (row : UserRow)
  /-- `create_totp_setup` and `verify_totp_setup` -/
  | saveMethod (row : TwoFactorMethodRow)
  | deleteMethods (userId : Uuid)
  /-- `verify_registration` -/
  | createCredential (row : WebAuthnCredentialRow)
  | deleteCredential (id : Uuid)

namespace AuthTables

/-- A statement of another request. An id of a code or challenge is drawn, and
never drawn again; a challenge whose hash is taken is not created. -/
def execute (t : AuthTables) (now : ℤ) : AuthStatement → Option AuthTables
  | .createChallenge row =>
    if row.id ∈ t.issued ∨
        t.challenges.rows.any (fun r => r.challengeHash = row.challengeHash) then none
    else some { t with
      challenges := t.challenges.insert { row with consumedAt := none }
      issued := row.id :: t.issued }
  | .deleteLoginChallenges userId =>
    some { t with challenges := t.challenges.delete fun r =>
      r.userId = some userId && r.challengeType = .twoFactorLogin && r.consumedAt.isNone }
  | .withdrawTokens userId challengeType =>
    some { t with
      challenges := t.challenges.update
        (fun r => if r.userId = some userId ∧ r.challengeType = challengeType ∧
            r.consumedAt = none then { r with consumedAt := some now } else r)
        (by intro r; split <;> rfl) }
  | .consumeRegistration id => some (t.saveChallenge id now)
  | .createRecoveryCode row =>
    if row.id ∈ t.issued then none
    else some { t with
      recoveryCodes := t.recoveryCodes.insert { row with usedAt := none }
      issued := row.id :: t.issued }
  | .deleteRecoveryCodes userId =>
    some { t with recoveryCodes := t.recoveryCodes.delete (·.userId = userId) }
  | .saveUser row =>
    some { t with users := (t.users.delete (·.id = row.id)).insert row }
  | .saveMethod row =>
    some { t with methods := (t.methods.delete (·.id = row.id)).insert row }
  | .deleteMethods userId =>
    some { t with methods := t.methods.delete (·.userId = userId) }
  | .createCredential row =>
    some { t with credentials := t.credentials.insert row }
  | .deleteCredential id =>
    some { t with credentials := t.credentials.delete (·.id = id) }

end AuthTables

/-! ## Calls at the same time -/

structure SecretTraffic where
  tables : AuthTables
  calls : List (SecretCall × SecretPhase) := []

inductive SecretEvent where
  | call (call : SecretCall)
  /-- The next statement of a call. -/
  | statement (index : ℕ) (now : ℤ)
  | other (statement : AuthStatement) (now : ℤ)

def SecretTraffic.step (ctx : AuthContext) (s : SecretTraffic) : SecretEvent → Option SecretTraffic
  | .call call => some { s with calls := s.calls ++ [(call, .select)] }
  | .statement index now =>
    match s.calls[index]? with
    | none | some (_, .returned _) => none
    | some (call, phase) =>
      let (next, tables) := call.step ctx s.tables now phase
      some ⟨tables, s.calls.set index (call, next)⟩
  | .other statement now =>
    (s.tables.execute now statement).map fun tables => { s with tables := tables }

/-- The secret that a call was accepted with. -/
def SecretPhase.usedSecret : SecretPhase → Option Secret
  | .returned (.accepted _ secret) => secret
  | _ => none

/-- The successful uses so far. -/
def SecretTraffic.uses (s : SecretTraffic) : List Secret :=
  s.calls.filterMap fun c => c.2.usedSecret

end Bifrostnms.Backend
