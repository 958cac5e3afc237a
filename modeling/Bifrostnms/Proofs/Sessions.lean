import Bifrostnms.Backend.Sessions
import Bifrostnms.Lib.Calls
import Bifrostnms.Lib.Runs

/-!
# Sessions under concurrent requests

A request sets the session it has read some operations before. If the key was
deleted in the meantime, the set brings the session back, and a request after
the logout is authenticated; if the realm was switched in the meantime, the set
switches it back (`stale_session_set`).

When every set finds the key in place, and `get_session_user` finds the active
realm it has read (`setsCurrent`), a logout is final and a switch lasts until the
next one (`sessions_current`).
-/

namespace Bifrostnms.Proofs

open Bifrostnms.Lib Bifrostnms.Backend

/-! ## The condition and the two events -/

/-- The set that is next finds the session as the request has read it. -/
def findsCurrent (stored : Option SessionData) : SessionPhase → Bool
  | .setSession _ session _ =>
    stored.any fun x => x.activeRealmId = session.activeRealmId
  | .setActive _ _ _ => stored.isSome
  | _ => true

def setsCurrent (s : SessionTraffic) : SessionEvent → Bool
  | .operation index _ => (s.requests[index]?).all fun q => findsCurrent s.stored q.2
  | _ => true

/-- `delete_session` deletes the key. -/
def deletesSession (s : SessionTraffic) : SessionEvent → Bool
  | .operation index _ =>
    match s.requests[index]? with
    | some (.logout, .begin) => true
    | _ => false
  | _ => false

/-- `set_active_realm` sets the session; the switch is made when it returns. -/
def switchesTo (s : SessionTraffic) : SessionEvent → Option Uuid
  | .operation index _ =>
    match s.requests[index]? with
    | some (_, .setActive _ _ realmId) => some realmId
    | _ => none
  | _ => none

/-- No request to switch the realm begins. -/
def startsNoSwitch : SessionEvent → Bool
  | .request request => !request.switches
  | _ => true

/-- The phases after `get_session_user` of a request to switch the realm. -/
def activating : SessionPhase → Bool
  | .selectActivated _ _ | .setActive _ _ _ => true
  | _ => false

def isReturned : SessionPhase → Bool
  | .returned _ => true
  | _ => false

/-! ## One operation -/

section Operation

variable {ctx : SessionContext} {s s' : SessionTraffic} {index : ℕ} {now : ℤ}

theorem step_operation (h : s.step ctx (.operation index now) = some s') :
    ∃ request phase, s.requests[index]? = some (request, phase) ∧ isReturned phase = false ∧
      s' = { s with
        stored := (request.step ctx s.database now s.stored phase).2
        requests := s.requests.set index
          (request, (request.step ctx s.database now s.stored phase).1) } := by
  simp only [SessionTraffic.step] at h
  split at h
  · cases h
  · cases h
  · next request phase hreturned hget =>
      obtain rfl := Option.some.inj h
      refine ⟨request, phase, hget, ?_, rfl⟩
      cases phase with
      | returned outcome => exact absurd rfl (hreturned outcome)
      | _ => rfl

end Operation

/-! ## After a logout -/

/-- The request has not begun, or was turned away. -/
inductive TurnedAway : SessionPhase → Prop where
  | begin : TurnedAway .begin
  | sessionExpired : TurnedAway (.returned .sessionExpired)
  | loggedOut : TurnedAway (.returned .loggedOut)

theorem TurnedAway.session_eq_none {phase : SessionPhase} (h : TurnedAway phase) :
    phase.session = none := by
  cases h <;> rfl

/-- The key is gone, and requests from a place on are turned away. -/
structure LoggedOut (n : ℕ) (s : SessionTraffic) : Prop where
  stored : s.stored = none
  later : ∀ j q, s.requests[j]? = some q → n ≤ j → TurnedAway q.2

section Logout

variable {ctx : SessionContext} {db : SessionDatabase} {now : ℤ}
  {request : SessionRequest} {phase : SessionPhase}

/-- Without a key, no operation but a set creates it. -/
theorem stored_of_none (hfinds : findsCurrent none phase = true) :
    (request.step ctx db now none phase).2 = none := by
  cases phase with
  | begin => cases request <;> rfl
  | setSession user session initial => cases hfinds
  | setActive user session realmId => cases hfinds
  | deleteKey | selectRealm user session | returned outcome => rfl
  | selectUser session | selectMembership user session | selectActivated user session =>
    simp only [SessionRequest.step]
    repeat' split
    all_goals rfl

theorem TurnedAway.step (h : TurnedAway phase) :
    TurnedAway (request.step ctx db now none phase).1 := by
  cases h with
  | begin =>
    cases request with
    | logout => exact .loggedOut
    | _ => exact .sessionExpired
  | sessionExpired => exact .sessionExpired
  | loggedOut => exact .loggedOut

theorem step_loggedOut {s s' : SessionTraffic} {e : SessionEvent} {n : ℕ}
    (hs : LoggedOut n s) (hcondition : setsCurrent s e = true)
    (hstep : s.step ctx e = some s') : LoggedOut n s' := by
  cases e with
  | request request =>
    obtain rfl := Option.some.inj hstep
    exact ⟨hs.stored, forall_append hs.later fun _ => .begin⟩
  | expire =>
    obtain rfl := Option.some.inj hstep
    exact ⟨rfl, hs.later⟩
  | database db =>
    obtain rfl := Option.some.inj hstep
    exact ⟨hs.stored, hs.later⟩
  | operation index now =>
    obtain ⟨request, phase, hget, -, rfl⟩ := step_operation hstep
    have hfinds : findsCurrent none phase = true := by
      simpa [setsCurrent, hget, hs.stored] using hcondition
    rw [hs.stored]
    exact ⟨stored_of_none hfinds, forall_set hs.later fun hn => (hs.later index _ hget hn).step⟩

end Logout

/-! ## After a switch -/

/-- Only a request to switch the realm gets to the activation of one. -/
def OnlySwitchesActivate (s : SessionTraffic) : Prop :=
  ∀ (j : ℕ) (q : SessionRequest × SessionPhase), s.requests[j]? = some q →
    activating q.2 = true → q.1.switches = true

/-- The session that a request has read, or was authenticated with. -/
def heldSession : SessionPhase → Option SessionData
  | .selectUser session | .selectMembership _ session | .selectRealm _ session
  | .setSession _ session _ => some session
  | phase => phase.session

theorem mem_heldSession {phase : SessionPhase} {session : SessionData}
    (h : session ∈ phase.session) : session ∈ heldSession phase := by
  cases phase with
  | selectUser x | selectMembership user x | selectRealm user x
  | setSession user x initial => cases h
  | _ => exact h

/-- The active realm is the one that was switched to, in the stored session and
for requests from a place on, and no switch is in progress. -/
structure Switched (n : ℕ) (realmId : Uuid) (s : SessionTraffic) : Prop where
  stored : ∀ x ∈ s.stored, x.activeRealmId = some realmId
  later : ∀ j q, s.requests[j]? = some q → n ≤ j →
    ∀ x ∈ heldSession q.2, x.activeRealmId = some realmId
  settled : ∀ (j : ℕ) (q : SessionRequest × SessionPhase), s.requests[j]? = some q →
    q.1.switches = true → isReturned q.2 = true

section Switch

variable {ctx : SessionContext} {db : SessionDatabase} {now : ℤ}
  {stored : Option SessionData} {request : SessionRequest} {phase : SessionPhase}
  {realmId : Uuid} {s s' : SessionTraffic} {e : SessionEvent}

theorem switches_of_activating
    (hphase : activating phase = true → request.switches = true)
    (h : activating (request.step ctx db now stored phase).1 = true) : request.switches = true := by
  cases request with
  | activateRealm id => rfl
  | getSessionUser | logout =>
    have hidle : activating phase = false := by
      rw [← Bool.not_eq_true]
      intro hactive
      cases hphase hactive
    revert h
    cases phase with
    | selectActivated user session | setActive user session id => cases hidle
    | setSession user session initial | deleteKey | selectRealm user session
    | returned outcome => exact fun h => h
    | begin =>
      cases stored <;> exact fun h => h
    | selectUser session | selectMembership user session =>
      simp only [SessionRequest.step]
      repeat' split
      all_goals exact fun h => h

theorem step_onlySwitchesActivate (hs : OnlySwitchesActivate s)
    (hstep : s.step ctx e = some s') : OnlySwitchesActivate s' := by
  cases e with
  | request request =>
    obtain rfl := Option.some.inj hstep
    exact forall_append hs fun h => (by cases h)
  | expire | database db =>
    obtain rfl := Option.some.inj hstep
    exact hs
  | operation index now =>
    obtain ⟨request, phase, hget, -, rfl⟩ := step_operation hstep
    exact forall_set hs (switches_of_activating (hs index _ hget))

/-- An operation of a request that does not switch keeps the realm. -/
theorem step_keepsRealm (hstored : ∀ x ∈ stored, x.activeRealmId = some realmId)
    (hfinds : findsCurrent stored phase = true) (hswitch : request.switches = false)
    (hidle : activating phase = false) : (∀ x ∈ (request.step ctx db now stored phase).2,
      x.activeRealmId = some realmId) ∧ ((∀ x ∈ heldSession phase, x.activeRealmId = some realmId) →
      ∀ x ∈ heldSession (request.step ctx db now stored phase).1,
        x.activeRealmId = some realmId) := by
  cases phase with
  | begin =>
    cases request with
    | activateRealm id => cases hswitch
    | logout => exact ⟨fun x hx => (by cases hx), fun _ x hx => (by cases hx)⟩
    | getSessionUser =>
      cases stored with
      | none => exact ⟨hstored, fun _ x hx => (by cases hx)⟩
      | some session => exact ⟨hstored, fun _ => hstored⟩
  | selectUser session =>
    simp only [SessionRequest.step]
    repeat' split
    · exact ⟨hstored, fun _ x hx => (by cases hx)⟩
    · exact ⟨hstored, fun _ x hx => (by cases hx)⟩
    · exact ⟨hstored, fun hheld => hheld⟩
    · exact ⟨hstored, fun hheld => hheld⟩
  | deleteKey => exact ⟨fun x hx => (by cases hx), fun _ x hx => (by cases hx)⟩
  | selectMembership user session =>
    simp only [SessionRequest.step]
    repeat' split
    all_goals exact ⟨hstored, fun hheld => hheld⟩
  | selectRealm user session => exact ⟨hstored, fun hheld => hheld⟩
  | setSession user session initial =>
    -- the realm that was read is the stored one, and a realm is never replaced
    obtain ⟨x, hx, hcurrent⟩ := (Option.any_eq_true _ _).mp hfinds
    rw [decide_eq_true_eq, hstored x hx] at hcurrent
    have hkept : session.activeRealmId.or initial = some realmId := by
      rw [← hcurrent]
      rfl
    refine ⟨?_, fun _ => ?_⟩
    · rintro x ⟨⟩
      exact hkept
    · cases request with
      | activateRealm id => cases hswitch
      | getSessionUser | logout =>
        rintro x ⟨⟩
        exact hkept
  | selectActivated user session | setActive user session id => cases hidle
  | returned outcome => exact ⟨hstored, fun hheld => hheld⟩

theorem step_switched {n : ℕ} (hs : Switched n realmId s)
    (honly : OnlySwitchesActivate s) (hcondition : setsCurrent s e = true)
    (hstarts : startsNoSwitch e = true) (hstep : s.step ctx e = some s') :
    Switched n realmId s' := by
  cases e with
  | request request =>
    obtain rfl := Option.some.inj hstep
    refine ⟨hs.stored, forall_append hs.later fun _ x hx => (by cases hx),
      forall_append hs.settled fun hswitches => ?_⟩
    rw [startsNoSwitch, hswitches] at hstarts
    cases hstarts
  | expire =>
    obtain rfl := Option.some.inj hstep
    exact ⟨fun x hx => (by cases hx), hs.later, hs.settled⟩
  | database db =>
    obtain rfl := Option.some.inj hstep
    exact ⟨hs.stored, hs.later, hs.settled⟩
  | operation index now =>
    obtain ⟨request, phase, hget, hactive, rfl⟩ := step_operation hstep
    have hfinds : findsCurrent s.stored phase = true := by
      simpa [setsCurrent, hget] using hcondition
    -- a switch that has not returned would be in progress
    have hswitch : request.switches = false := by
      rw [← Bool.not_eq_true]
      intro hswitches
      have hreturned := hs.settled index _ hget hswitches
      rw [hactive] at hreturned
      cases hreturned
    have hidle : activating phase = false := by
      rw [← Bool.not_eq_true]
      intro hactivating
      have hswitches := honly index _ hget hactivating
      rw [hswitch] at hswitches
      cases hswitches
    obtain ⟨hstored, hheld⟩ := step_keepsRealm hs.stored hfinds hswitch hidle
    refine ⟨hstored, forall_set hs.later fun hn => hheld (hs.later index _ hget hn),
      forall_set hs.settled fun hswitches => ?_⟩
    rw [hswitch] at hswitches
    cases hswitches

end Switch

/-! ## Runs -/

section Runs

variable {ctx : SessionContext} {s s₁ s₂ : SessionTraffic} {e : SessionEvent}
  {events : List SessionEvent}

theorem step_deletesSession (hstep : s.step ctx e = some s₁)
    (h : deletesSession s e = true) : LoggedOut s₁.requests.length s₁ := by
  cases e with
  | request request | expire | database db => cases h
  | operation index now =>
    obtain ⟨request, phase, hget, -, rfl⟩ := step_operation hstep
    simp only [deletesSession, hget] at h
    split at h
    · next heq =>
        cases heq
        refine ⟨rfl, fun j q hq hj => ?_⟩
        rw [List.getElem?_eq_none hj] at hq
        cases hq
    · cases h

theorem step_switchesTo {realmId : Uuid} (hstep : s.step ctx e = some s₁)
    (h : switchesTo s e = some realmId)
    (hsettled : ∀ q ∈ s₁.requests, q.1.switches = true → isReturned q.2 = true) :
    Switched s₁.requests.length realmId s₁ := by
  have hlater : ∀ j q, s₁.requests[j]? = some q → s₁.requests.length ≤ j →
      ∀ x ∈ heldSession q.2, x.activeRealmId = some realmId := by
    intro j q hq hj
    rw [List.getElem?_eq_none hj] at hq
    cases hq
  refine ⟨?_, hlater, fun j q hq => hsettled q (List.mem_of_getElem? hq)⟩
  cases e with
  | request request | expire | database db => cases h
  | operation index now =>
    obtain ⟨request, phase, hget, -, rfl⟩ := step_operation hstep
    simp only [switchesTo, hget] at h
    split at h
    · next heq =>
        cases heq
        cases h
        rintro x ⟨⟩
        rfl
    · cases h

/-- After a logout, no request that begins later is authenticated. After a
switch, with no other one in progress or to come, every later request that is
authenticated has the realm that was switched to. -/
theorem sessions_current {s₀ : SessionTraffic} {before : List SessionEvent}
    (hstart : s₀.requests = []) (hbefore : runSteps (SessionTraffic.step ctx) before s₀ = some s)
    (hstep : s.step ctx e = some s₁) (hrun : runSteps (SessionTraffic.step ctx) events s₁ = some s₂)
    (hmeets : Meets (SessionTraffic.step ctx) (fun s e => setsCurrent s e = true)
      events s₁) : (deletesSession s e = true → ∀ j q, s₂.requests[j]? = some q →
      s₁.requests.length ≤ j → q.2.session = none) ∧ (∀ realmId, switchesTo s e = some realmId →
      (∀ q ∈ s₁.requests, q.1.switches = true → isReturned q.2 = true) →
      (∀ e' ∈ events, startsNoSwitch e' = true) →
      ∀ j q, s₂.requests[j]? = some q → s₁.requests.length ≤ j →
        ∀ session ∈ q.2.session, session.activeRealmId = some realmId) := by
  constructor
  · intro hdeletes j q hq hj
    have hend : LoggedOut s₁.requests.length s₂ :=
      runSteps_invariant (P := LoggedOut s₁.requests.length) step_loggedOut
        (step_deletesSession hstep hdeletes) hmeets hrun
    exact (hend.later j q hq hj).session_eq_none
  · intro realmId hswitches hsettled hstarts j q hq hj session hsession
    have honly₀ : OnlySwitchesActivate s₀ := by
      intro j q hq
      rw [hstart] at hq
      cases hq
    have honly : OnlySwitchesActivate s₁ := step_onlySwitchesActivate
      (runSteps_preserves (P := OnlySwitchesActivate) step_onlySwitchesActivate
        honly₀ hbefore) hstep
    have hend : OnlySwitchesActivate s₂ ∧ Switched s₁.requests.length realmId s₂ :=
      runSteps_invariant
        (P := fun s => OnlySwitchesActivate s ∧ Switched s₁.requests.length realmId s)
        (fun hs hcondition hnext => ⟨step_onlySwitchesActivate hs.1 hnext,
          step_switched hs.2 hs.1 hcondition.1 hcondition.2 hnext⟩)
        ⟨honly, step_switchesTo hstep hswitches hsettled⟩
        (hmeets.and_of_forall hstarts) hrun
    exact hend.2.later j q hq hj session (mem_heldSession hsession)

end Runs

/-! ## Stale sets -/

def memberContext : SessionContext where
  firstMembership := ⟨List.head?, List.mem_of_head?, List.isSome_head?.mpr⟩
  firstRealm := ⟨List.head?, List.mem_of_head?, List.isSome_head?.mpr⟩

/-- A member of two realms, with a session in the first. -/
def memberTraffic : SessionTraffic where
  stored := some { userId := .ofByte 1, activeRealmId := some (.ofByte 2) }
  database := {
    users := Table.insert {} { id := .ofByte 1 }
    realms := (Table.insert {} { id := .ofByte 2 }).insert { id := .ofByte 3 }
    memberships := (Table.insert {}
      { id := .ofByte 4, userId := .ofByte 1, realmId := .ofByte 2 }).insert
      { id := .ofByte 5, userId := .ofByte 1, realmId := .ofByte 3 } }

/-- Operations of a request, one after the other. -/
def operations (index count : ℕ) : List SessionEvent :=
  List.replicate count (.operation index 0)

/-- A run with an event in the middle. After the event, every event meets the
condition. -/
def runAround (condition : SessionTraffic → SessionEvent → Bool)
    (before : List SessionEvent) (e : SessionEvent) (events : List SessionEvent)
    (p : SessionTraffic → SessionTraffic → SessionTraffic → Bool) : Bool :=
  (runSteps (SessionTraffic.step memberContext) before memberTraffic).any fun s =>
    (s.step memberContext e).any fun s₁ =>
      (checkedRun (SessionTraffic.step memberContext)
        (fun s e => condition s e = true) events s₁).any fun s₂ => p s s₁ s₂

theorem exists_of_runAround {condition : SessionTraffic → SessionEvent → Bool}
    {before : List SessionEvent} {e : SessionEvent} {events : List SessionEvent}
    {p : SessionTraffic → SessionTraffic → SessionTraffic → Bool}
    (h : runAround condition before e events p = true) : ∃ s s₁ s₂,
      runSteps (SessionTraffic.step memberContext) before memberTraffic = some s ∧
      s.step memberContext e = some s₁ ∧ Meets (SessionTraffic.step memberContext)
        (fun s e => condition s e = true) events s₁ ∧
      runSteps (SessionTraffic.step memberContext) events s₁ = some s₂ ∧ p s s₁ s₂ = true := by
  obtain ⟨s, hs, h₁⟩ := (Option.any_eq_true _ _).mp h
  obtain ⟨s₁, hs₁, h₂⟩ := (Option.any_eq_true _ _).mp h₁
  obtain ⟨s₂, hmeets, hs₂, hp⟩ := exists_of_checkedRun h₂
  exact ⟨s, s₁, s₂, hs, hs₁, hmeets, hs₂, hp⟩

/-- No switch is in progress. -/
def allSettled (s : SessionTraffic) : Bool :=
  s.requests.all fun q => !q.1.switches || isReturned q.2

theorem settled_of_allSettled {s : SessionTraffic} (h : allSettled s = true) :
    ∀ q ∈ s.requests, q.1.switches = true → isReturned q.2 = true := by
  intro q hq hswitches
  have hq' := List.all_eq_true.mp h q hq
  rwa [hswitches] at hq'

/-- A logout, or a switch, between the operations of a request that has read the
session before. -/
theorem stale_session_set : (∃ before e events s s₁ s₂,
      runSteps (SessionTraffic.step memberContext) before memberTraffic = some s ∧
      s.step memberContext e = some s₁ ∧ deletesSession s e = true ∧
      runSteps (SessionTraffic.step memberContext) events s₁ = some s₂ ∧
      ∃ j q, s₂.requests[j]? = some q ∧ s₁.requests.length ≤ j ∧ q.2.session.isSome = true) ∧
    ∃ before e events s s₁ s₂ realmId,
      runSteps (SessionTraffic.step memberContext) before memberTraffic = some s ∧
      s.step memberContext e = some s₁ ∧ switchesTo s e = some realmId ∧
      (∀ q ∈ s₁.requests, q.1.switches = true → isReturned q.2 = true) ∧
      (∀ e' ∈ events, startsNoSwitch e' = true) ∧
      runSteps (SessionTraffic.step memberContext) events s₁ = some s₂ ∧
      ∃ j q, s₂.requests[j]? = some q ∧ s₁.requests.length ≤ j ∧
        ∃ session ∈ q.2.session, session.activeRealmId ≠ some realmId := by
  constructor
  · have hrun : runAround (fun _ _ => true)
        ([.request .getSessionUser] ++ operations 0 2 ++ [.request .logout])
        (.operation 1 0)
        ([.operation 0 0, .request .getSessionUser] ++ operations 2 3)
        (fun s s₁ s₂ => deletesSession s (.operation 1 0) && s₁.requests.length = 2 &&
          (s₂.requests[2]?).any fun q => q.2.session.isSome) = true := by
      decide +kernel
    obtain ⟨s, s₁, s₂, hs, hs₁, -, hs₂, hp⟩ := exists_of_runAround hrun
    simp only [Bool.and_eq_true, decide_eq_true_eq, Option.any_eq_true] at hp
    obtain ⟨⟨hdeletes, hlength⟩, q, hq, hsession⟩ := hp
    exact ⟨_, _, _, s, s₁, s₂, hs, hs₁, hdeletes, hs₂, 2, q, hq, hlength.le, hsession⟩
  · have hrun : runAround (fun _ _ => true)
        ([.request .getSessionUser] ++ operations 0 2 ++
          [.request (.activateRealm (.ofByte 3))] ++ operations 1 4)
        (.operation 1 0)
        ([.operation 0 0, .request .getSessionUser] ++ operations 2 3)
        (fun s s₁ s₂ => switchesTo s (.operation 1 0) = some (.ofByte 3) &&
          allSettled s₁ && s₁.requests.length = 2 &&
          (s₂.requests[2]?).any fun q => q.2.session.any fun session =>
            session.activeRealmId ≠ some (.ofByte 3)) = true := by
      decide +kernel
    obtain ⟨s, s₁, s₂, hs, hs₁, -, hs₂, hp⟩ := exists_of_runAround hrun
    simp only [Bool.and_eq_true, decide_eq_true_eq, Option.any_eq_true] at hp
    obtain ⟨⟨⟨hswitches, hsettled⟩, hlength⟩, q, hq, session, hsession, hother⟩ := hp
    exact ⟨_, _, _, s, s₁, s₂, _, hs, hs₁, hswitches, settled_of_allSettled hsettled,
      by decide, hs₂, 2, q, hq, hlength.le, session, hsession, hother⟩

/-- A request that is done before the logout, and one that is done before the
switch; another one comes after. -/
theorem sessions_current_member : (∃ s s₁ s₂, runSteps (SessionTraffic.step memberContext)
        ([.request .getSessionUser] ++ operations 0 3 ++ [.request .logout])
        memberTraffic = some s ∧ s.step memberContext (.operation 1 0) = some s₁ ∧
      runSteps (SessionTraffic.step memberContext)
        ([.request .getSessionUser] ++ operations 2 1) s₁ = some s₂ ∧
      s₂.requests.length = s₁.requests.length + 1 ∧
      ∀ j q, s₂.requests[j]? = some q → s₁.requests.length ≤ j → q.2.session = none) ∧ ∃ s s₁ s₂,
      runSteps (SessionTraffic.step memberContext) ([.request .getSessionUser] ++ operations 0 3 ++
          [.request (.activateRealm (.ofByte 3))] ++ operations 1 4)
        memberTraffic = some s ∧ s.step memberContext (.operation 1 0) = some s₁ ∧
      runSteps (SessionTraffic.step memberContext)
        ([.request .getSessionUser] ++ operations 2 3) s₁ = some s₂ ∧
      s₂.requests.length = s₁.requests.length + 1 ∧
      ∀ j q, s₂.requests[j]? = some q → s₁.requests.length ≤ j →
        ∀ session ∈ q.2.session, session.activeRealmId = some (.ofByte 3) := by
  constructor
  · have hrun : runAround setsCurrent
        ([.request .getSessionUser] ++ operations 0 3 ++ [.request .logout])
        (.operation 1 0) ([.request .getSessionUser] ++ operations 2 1)
        (fun s s₁ s₂ => deletesSession s (.operation 1 0) &&
          s₂.requests.length = s₁.requests.length + 1) = true := by
      decide +kernel
    obtain ⟨s, s₁, s₂, hs, hs₁, hmeets, hs₂, hp⟩ := exists_of_runAround hrun
    simp only [Bool.and_eq_true, decide_eq_true_eq] at hp
    exact ⟨s, s₁, s₂, hs, hs₁, hs₂, hp.2, (sessions_current rfl hs hs₁ hs₂ hmeets).1 hp.1⟩
  · have hrun : runAround setsCurrent
        ([.request .getSessionUser] ++ operations 0 3 ++
          [.request (.activateRealm (.ofByte 3))] ++ operations 1 4)
        (.operation 1 0) ([.request .getSessionUser] ++ operations 2 3)
        (fun s s₁ s₂ => switchesTo s (.operation 1 0) = some (.ofByte 3) &&
          allSettled s₁ && s₂.requests.length = s₁.requests.length + 1) = true := by
      decide +kernel
    obtain ⟨s, s₁, s₂, hs, hs₁, hmeets, hs₂, hp⟩ := exists_of_runAround hrun
    simp only [Bool.and_eq_true, decide_eq_true_eq] at hp
    exact ⟨s, s₁, s₂, hs, hs₁, hs₂, hp.2, (sessions_current rfl hs hs₁ hs₂ hmeets).2 _ hp.1.1
        (settled_of_allSettled hp.1.2) (by decide)⟩

end Bifrostnms.Proofs
