import Bifrostnms.Backend.ProbeConfiguration
import Bifrostnms.Lib.Calls
import Bifrostnms.Lib.Table
import Bifrostnms.Lib.Trim

/-!
# Signup (`api/auth.py`, `models/auth.py`)

A signup looks for the email, creates a user, looks for a slug that is free, and creates a
realm and a membership. Each of these is a statement of its own, and nothing is in a
transaction, so the statements of all signups take turns. A statement may fail by a check
of the model or by a constraint of the database; it may also not reach the database, or be
executed without an answer. What comes after the membership is left out.

The rows have the columns that `signup` writes; `create` runs the length checks of the
columns before the insert.
-/

namespace Bifrostnms.Backend

open Bifrostnms.Lib

/-- The payload, with the bounds that the schema checks. -/
structure SignupRequest where
  email : String
  password : String
  firstName : String
  lastName : String
  realmName : Option String := none
  passwordLength : 12 ≤ password.length ∧ password.length ≤ 256
  firstNameLength : 1 ≤ firstName.length ∧ firstName.length ≤ 150
  lastNameLength : 1 ≤ lastName.length ∧ lastName.length ≤ 150
  realmNameLength : ∀ name ∈ realmName, name.length ≤ 200

structure SignupUser where
  id : Uuid
  email : String
  passwordHash : String
  firstName : String
  lastName : String

structure SignupRealm where
  id : Uuid
  name : String
  slug : String

structure SignupMembership where
  id : Uuid
  userId : Uuid
  realmId : Uuid
  role : String

/-- `unique_together` -/
def SignupMembership.pair (row : SignupMembership) : Uuid × Uuid := (row.userId, row.realmId)

structure SignupTables where
  users : Table SignupUser.email := {}
  realms : Table SignupRealm.slug := {}
  memberships : Table SignupMembership.pair := {}

inductive SignupError where
  /-- `HTTPException(409, "An account already exists for that email")` -/
  | accountExists
  /-- `ValidationError` of a column. -/
  | validation (column : String)
  | integrity
  /-- The connection to the database. -/
  | connection
deriving DecidableEq

/-! ## `create` -/

/-- `CharField(max_length=limit)` -/
def maxLength (column : String) (limit : ℕ) (value : String) : Except SignupError Unit :=
  if limit < value.length then .error (.validation column) else .ok ()

namespace SignupTables

def hasUser (t : SignupTables) (id : Uuid) : Bool := t.users.rows.any fun row => row.id = id

def hasRealm (t : SignupTables) (id : Uuid) : Bool := t.realms.rows.any fun row => row.id = id

def createUser (t : SignupTables) (row : SignupUser) : Except SignupError SignupTables := do
  maxLength "email" 320 row.email
  maxLength "password_hash" 255 row.passwordHash
  maxLength "first_name" 150 row.firstName
  maxLength "last_name" 150 row.lastName
  if t.users.has row.email || t.hasUser row.id then .error .integrity
  else .ok { t with users := t.users.insert row }

def createRealm (t : SignupTables) (row : SignupRealm) : Except SignupError SignupTables := do
  maxLength "name" 200 row.name
  maxLength "slug" 120 row.slug
  if t.realms.has row.slug || t.hasRealm row.id then .error .integrity
  else .ok { t with realms := t.realms.insert row }

def createMembership (t : SignupTables) (row : SignupMembership) :
    Except SignupError SignupTables := do
  maxLength "role" 32 row.role
  if t.memberships.has row.pair || (t.memberships.rows.any fun other => other.id = row.id) ||
      !t.hasUser row.userId || !t.hasRealm row.realmId then .error .integrity
  else .ok { t with memberships := t.memberships.insert row }

end SignupTables

/-! ## `slugify` -/

def slugCharacter (c : Char) : Bool := ('a' ≤ c ∧ c ≤ 'z') ∨ ('0' ≤ c ∧ c ≤ '9')

/-- `re.sub(r"[^a-z0-9]+", "-", value)`, inside or outside a run of other characters. -/
def hyphenate (inside : Bool) : List Char → List Char
  | [] => []
  | c :: rest =>
    if slugCharacter c then c :: hyphenate false rest
    else if inside then hyphenate true rest
    else '-' :: hyphenate true rest

def slugify (txt : PyText) (value : String) : String :=
  let slug := trim (· == '-') (hyphenate false (txt.lower (txt.strip value)).toList)
  if slug = [] then "realm" else String.ofList slug

/-! ## `signup` -/

/-- A request, with what is drawn while it runs. -/
structure SignupCall where
  request : SignupRequest
  /-- `hash_password(payload.password)` -/
  passwordHash : String
  userId : Uuid
  realmId : Uuid
  membershipId : Uuid

namespace SignupCall

section

variable (txt : PyText) (call : SignupCall)

/-- `normalize_email(str(payload.email))` -/
def email : String := txt.lower (txt.strip call.request.email)

def user : SignupUser where
  id := call.userId
  email := call.email txt
  passwordHash := call.passwordHash
  firstName := txt.strip call.request.firstName
  lastName := txt.strip call.request.lastName

def realmName : String :=
  match call.request.realmName with
  | some name => if name = "" then txt.strip call.request.firstName ++ "'s Realm" else name
  | none => txt.strip call.request.firstName ++ "'s Realm"

def baseSlug : String := slugify txt (call.realmName txt)

def realm (slug : String) : SignupRealm where
  id := call.realmId
  name := call.realmName txt
  slug := slug

def membership : SignupMembership where
  id := call.membershipId
  userId := call.userId
  realmId := call.realmId
  role := "owner"

end

end SignupCall

/-- The statement that is next, or how the signup has ended. One that has failed has the
record of what it had created; no statement reads it. -/
inductive SignupPhase where
  | checkEmail
  | createUser
  | searchSlug (slug : String) (counter : ℕ)
  | createRealm (slug : String)
  | createMembership
  /-- The membership exists. -/
  | joined
  | failed (error : SignupError) (userCreated realmCreated : Bool)
deriving DecidableEq

namespace SignupPhase

def userCreated : SignupPhase → Bool
  | .checkEmail | .createUser => false
  | .searchSlug _ _ | .createRealm _ | .createMembership | .joined => true
  | .failed _ userCreated _ => userCreated

def realmCreated : SignupPhase → Bool
  | .checkEmail | .createUser | .searchSlug _ _ | .createRealm _ => false
  | .createMembership | .joined => true
  | .failed _ _ realmCreated => realmCreated

def ended : SignupPhase → Bool
  | .joined | .failed _ _ _ => true
  | _ => false

/-- The exception that ends the signup. -/
def raise (phase : SignupPhase) (error : SignupError) : SignupPhase :=
  .failed error phase.userCreated phase.realmCreated

/-- The statement was executed and the answer is lost. -/
def unanswered : SignupPhase → SignupPhase
  | .joined => .joined
  | phase => phase.raise .connection

end SignupPhase

/-- The statement of a phase in the database, and the phase that follows. -/
def SignupCall.execute (txt : PyText) (call : SignupCall) (t : SignupTables) :
    SignupPhase → Except SignupError (SignupPhase × SignupTables)
  | .checkEmail =>
    if t.users.has (call.email txt) then .error .accountExists else .ok (.createUser, t)
  | .createUser =>
    (t.createUser (call.user txt)).map fun t' => (.searchSlug (call.baseSlug txt) 2, t')
  | .searchSlug slug counter =>
    if t.realms.has slug then
      .ok (.searchSlug (call.baseSlug txt ++ "-" ++ toString counter) (counter + 1), t)
    else .ok (.createRealm slug, t)
  | .createRealm slug =>
    (t.createRealm (call.realm txt slug)).map fun t' => (.createMembership, t')
  | .createMembership =>
    (t.createMembership call.membership).map fun t' => (.joined, t')
  | phase => .ok (phase, t)

def SignupCall.step (txt : PyText) (call : SignupCall) (t : SignupTables)
    (fate : StatementFate) (phase : SignupPhase) : SignupPhase × SignupTables :=
  match fate, call.execute txt t phase with
  | .answered, .ok next => next
  | .answered, .error error => (phase.raise error, t)
  | .notExecuted, _ => (phase.raise .connection, t)
  | .answerLost, .ok (next, t') => (next.unanswered, t')
  | .answerLost, .error _ => (phase.raise .connection, t)

/-! ## Signups that take turns -/

structure SignupState where
  tables : SignupTables := {}
  calls : List (SignupCall × SignupPhase) := []

inductive SignupEvent where
  | start (call : SignupCall)
  | statement (index : ℕ) (fate : StatementFate)

def SignupState.step (txt : PyText) (s : SignupState) : SignupEvent → Option SignupState
  | .start call => some { s with calls := s.calls ++ [(call, .checkEmail)] }
  | .statement index fate =>
    match s.calls[index]? with
    | none => none
    | some (call, phase) =>
      if phase.ended then none
      else
        let next := call.step txt s.tables fate phase
        some { tables := next.2, calls := s.calls.set index (call, next.1) }

end Bifrostnms.Backend
