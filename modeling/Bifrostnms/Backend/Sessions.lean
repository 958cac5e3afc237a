import Bifrostnms.Backend.SingleUse

/-!
# Sessions (`auth/security.py`, `api/auth.py`)

The session of a token is one value in Redis. A request that is authenticated
gets the whole session, checks the user, chooses a realm if the session has
none, and sets the whole session again, with the time of the last activity. A
realm is activated by a second set after that. To log out deletes the key.

Any number of requests use the token at the same time. Redis and the database
execute one operation at a time, of any of them; the key may expire, and other
requests change the database. A stored session reads back as it was written, so
the JSON text is left out, and so are the reads by which an answer is put
together at the end of a request.
-/

namespace Bifrostnms.Backend

open Bifrostnms.Lib

structure SessionData where
  userId : Uuid
  activeRealmId : Option Uuid
  authMethod : String := "password"
  createdAt : ℤ := 0
  lastActivity : ℤ := 0
  userAgent : String := ""
  ipAddress : Option String := none
  userSessionVersion : ℤ := 1
deriving DecidableEq

structure RealmRow where
  id : Uuid
  isActive : Bool := true
  createdAt : ℤ := 0

structure RealmMembershipRow where
  id : Uuid
  userId : Uuid
  realmId : Uuid

structure SessionDatabase where
  users : Table UserRow.id := {}
  realms : Table RealmRow.id := {}
  memberships : Table RealmMembershipRow.id := {}

/-- `Realm.filter(is_active=True).order_by("created_at")`: the rows that may come
first. -/
def SessionDatabase.oldestRealms (db : SessionDatabase) : List RealmRow :=
  let active := db.realms.rows.filter (·.isActive)
  active.filter fun realm => active.all fun other => realm.createdAt ≤ other.createdAt

structure SessionContext where
  firstMembership : FirstRow RealmMembershipRow
  firstRealm : FirstRow RealmRow

/-! ## Requests -/

inductive SessionRequest where
  /-- An endpoint that calls `get_session_user` and nothing else on the session. -/
  | getSessionUser
  | activateRealm (realmId : Uuid)
  | logout

def SessionRequest.switches : SessionRequest → Bool
  | .activateRealm _ => true
  | _ => false

inductive SessionOutcome where
  | authenticated (user : UserRow) (session : SessionData)
  /-- `HTTPException(401, "Session expired")` -/
  | sessionExpired
  /-- `HTTPException(404, "Realm not found")`, of an authenticated request. -/
  | realmNotFound (session : SessionData)
  | loggedOut

/-- A request, by the operation it executes next. It holds the session as it was
read until it sets it. -/
inductive SessionPhase where
  /-- Get or delete the key. -/
  | begin
  | selectUser (session : SessionData)
  /-- The user is gone, or has another session version. -/
  | deleteKey
  /-- `_initial_realm_id` -/
  | selectMembership (user : UserRow) (session : SessionData)
  | selectRealm (user : UserRow) (session : SessionData)
  /-- The set of `get_session_user`, with the realm for a session without one. -/
  | setSession (user : UserRow) (session : SessionData) (initial : Option Uuid)
  /-- `activate_realm` looks for the realm. -/
  | selectActivated (user : UserRow) (session : SessionData)
  /-- The set of `set_active_realm`. -/
  | setActive (user : UserRow) (session : SessionData) (realmId : Uuid)
  | returned (outcome : SessionOutcome)

namespace SessionRequest

/-- The first operation. -/
def first (stored : Option SessionData) : SessionRequest → SessionPhase × Option SessionData
  | .logout => (.returned .loggedOut, none)
  | .getSessionUser | .activateRealm _ =>
    match stored with
    | none => (.returned .sessionExpired, stored)
    | some session => (.selectUser session, stored)

/-- After `get_session_user` has returned. -/
def authenticated (user : UserRow) (session : SessionData) : SessionRequest → SessionPhase
  | .activateRealm _ => .selectActivated user session
  | .getSessionUser | .logout => .returned (.authenticated user session)

/-- The realm that a user may activate. -/
def activated (db : SessionDatabase) (user : UserRow) : SessionRequest → Option Uuid
  | .activateRealm realmId =>
    if user.isSuperuser then
      ((db.realms.find? realmId).filter (·.isActive)).map (·.id)
    else
      (db.memberships.rows.find? fun row =>
        row.userId = user.id && row.realmId = realmId).map (·.realmId)
  | _ => none

/-- The next operation of a request. -/
def step (ctx : SessionContext) (db : SessionDatabase) (now : ℤ)
    (stored : Option SessionData) (request : SessionRequest) :
    SessionPhase → SessionPhase × Option SessionData
  | .begin => request.first stored
  | .selectUser session =>
    match (db.users.find? session.userId).filter (·.isActive) with
    | none => (.deleteKey, stored)
    | some user =>
      if session.userSessionVersion ≠ user.sessionVersion then (.deleteKey, stored)
      else if session.activeRealmId.isNone then
        (.selectMembership user session, stored)
      else (.setSession user session none, stored)
  | .deleteKey => (.returned .sessionExpired, none)
  | .selectMembership user session =>
    match ctx.firstMembership.first
        (db.memberships.rows.filter (·.userId = user.id)) with
    | some membership => (.setSession user session (some membership.realmId), stored)
    | none =>
      if user.isSuperuser then (.selectRealm user session, stored)
      else (.setSession user session none, stored)
  | .selectRealm user session =>
    (.setSession user session ((ctx.firstRealm.first db.oldestRealms).map (·.id)), stored)
  | .setSession user session initial =>
    let session := { session with
      activeRealmId := session.activeRealmId.or initial
      lastActivity := now }
    (request.authenticated user session, some session)
  | .selectActivated user session =>
    match request.activated db user with
    | none => (.returned (.realmNotFound session), stored)
    | some realmId => (.setActive user session realmId, stored)
  | .setActive user session realmId =>
    let session := { session with
      activeRealmId := some realmId
      lastActivity := now }
    (.returned (.authenticated user session), some session)
  | .returned outcome => (.returned outcome, stored)

end SessionRequest

/-! ## Requests at the same time -/

structure SessionTraffic where
  stored : Option SessionData
  database : SessionDatabase
  requests : List (SessionRequest × SessionPhase) := []

inductive SessionEvent where
  | request (request : SessionRequest)
  /-- The next operation of a request. -/
  | operation (index : ℕ) (now : ℤ)
  | expire
  /-- Other requests change the tables. -/
  | database (db : SessionDatabase)

def SessionTraffic.step (ctx : SessionContext) (s : SessionTraffic) :
    SessionEvent → Option SessionTraffic
  | .request request => some { s with requests := s.requests ++ [(request, .begin)] }
  | .operation index now =>
    match s.requests[index]? with
    | none | some (_, .returned _) => none
    | some (request, phase) =>
      let (next, stored) := request.step ctx s.database now s.stored phase
      some { s with
        stored := stored
        requests := s.requests.set index (request, next) }
  | .expire => some { s with stored := none }
  | .database db => some { s with database := db }

/-- The session of a request that is authenticated. -/
def SessionPhase.session : SessionPhase → Option SessionData
  | .selectActivated _ session | .setActive _ session _
  | .returned (.authenticated _ session) | .returned (.realmNotFound session) =>
    some session
  | _ => none

end Bifrostnms.Backend
