import Bifrostnms.Backend.Signup
import Bifrostnms.Lib.Checks
import Bifrostnms.Lib.Runs
import Bifrostnms.Proofs.NameNormalization

/-!
# What a failed signup leaves behind

Nothing removes a row, so a signup that has created its user must not fail any more. It
does if its slug is too long, if another signup creates a realm of that slug between the
search and the insert, or if the database does not answer. `Kept` says this of a statement
and the tables before it, and the signups leave nothing behind exactly in the runs in which
every statement is so (`signups_clean_iff`).
-/

namespace Bifrostnms.Proofs

open Bifrostnms.Lib Bifrostnms.Backend

variable {txt : PyText} {t t' : SignupTables} {call : SignupCall} {phase : SignupPhase}
  {fate : StatementFate}

/-! ## Inserts -/

/-- The row passes the checks of its columns and has no value that must be unique and is
taken. -/
def userFits (t : SignupTables) (row : SignupUser) : Bool :=
  row.email.length ≤ 320 ∧ row.passwordHash.length ≤ 255 ∧ row.firstName.length ≤ 150 ∧
    row.lastName.length ≤ 150 ∧ t.users.has row.email = false ∧ t.hasUser row.id = false

def realmFits (t : SignupTables) (row : SignupRealm) : Bool :=
  row.name.length ≤ 200 ∧ row.slug.length ≤ 120 ∧ t.realms.has row.slug = false ∧
    t.hasRealm row.id = false

def membershipFits (t : SignupTables) (row : SignupMembership) : Bool :=
  t.memberships.has row.pair = false ∧ ∀ other ∈ t.memberships.rows, other.id ≠ row.id

theorem maxLength_eq_ok {column value : String} {limit : ℕ} {u : Unit} :
    maxLength column limit value = .ok u ↔ value.length ≤ limit := by
  unfold maxLength
  split
  · next hlong => simp [hlong]
  · next hshort => simpa using hshort

theorem createUser_eq_ok (t : SignupTables) (row : SignupUser) (t' : SignupTables) :
    t.createUser row = .ok t' ↔
      userFits t row = true ∧ { t with users := t.users.insert row } = t' := by
  simp [SignupTables.createUser, bind_eq_ok, maxLength_eq_ok, ite_error_eq_ok, userFits, and_assoc]

theorem createRealm_eq_ok (t : SignupTables) (row : SignupRealm) (t' : SignupTables) :
    t.createRealm row = .ok t' ↔
      realmFits t row = true ∧ { t with realms := t.realms.insert row } = t' := by
  simp [SignupTables.createRealm, bind_eq_ok, maxLength_eq_ok, ite_error_eq_ok, realmFits, and_assoc]

theorem createMembership_eq_ok (huser : t.hasUser call.userId = true)
    (hrealm : t.hasRealm call.realmId = true) (t' : SignupTables) :
    t.createMembership call.membership = .ok t' ↔ membershipFits t call.membership = true ∧
        { t with memberships := t.memberships.insert call.membership } = t' := by
  have hrole : call.membership.role.length ≤ 32 := by
    show "owner".length ≤ 32
    decide
  have huser' : t.hasUser call.membership.userId = true := huser
  have hrealm' : t.hasRealm call.membership.realmId = true := hrealm
  simp [SignupTables.createMembership, bind_eq_ok, maxLength_eq_ok, ite_error_eq_ok,
    membershipFits, hrole, huser', hrealm', and_assoc]

/-- An insert that succeeds exactly if the row fits succeeds, or fails. -/
theorem insert_cases {x : Except SignupError SignupTables} {fits : Bool} {added : SignupTables}
    (h : ∀ t', x = .ok t' ↔ fits = true ∧ added = t') :
    fits = true ∧ x = .ok added ∨ fits = false ∧ ∃ error, x = .error error := by
  cases x with
  | ok t' =>
    obtain ⟨hfits, rfl⟩ := (h t').mp rfl
    exact .inl ⟨hfits, rfl⟩
  | error error =>
    refine .inr ⟨?_, error, rfl⟩
    cases fits with
    | false => rfl
    | true => exact absurd ((h added).mpr ⟨rfl, rfl⟩) (by simp)

/-! ## One statement -/

/-- The rows that the signup has created exist. -/
structure RowsExist (t : SignupTables) (call : SignupCall) (phase : SignupPhase) : Prop where
  user : phase.userCreated = true → t.hasUser call.userId = true
  realm : phase.realmCreated = true → t.hasRealm call.realmId = true

/-- What the statement of a phase may do. -/
inductive Executed (txt : PyText) (t : SignupTables) (call : SignupCall) :
    SignupPhase → Except SignupError (SignupPhase × SignupTables) → Prop where
  | accountExists : Executed txt t call .checkEmail (.error .accountExists)
  | emailFree : Executed txt t call .checkEmail (.ok (.createUser, t))
  | userCreated : userFits t (call.user txt) = true →
      Executed txt t call .createUser (.ok (.searchSlug (call.baseSlug txt) 2,
        { t with users := t.users.insert (call.user txt) }))
  | userRefused (error : SignupError) : userFits t (call.user txt) = false →
      Executed txt t call .createUser (.error error)
  | slugTaken (slug : String) (counter : ℕ) (next : String) :
      Executed txt t call (.searchSlug slug counter) (.ok (.searchSlug next (counter + 1), t))
  | slugFree (slug : String) (counter : ℕ) :
      Executed txt t call (.searchSlug slug counter) (.ok (.createRealm slug, t))
  | realmCreated (slug : String) : realmFits t (call.realm txt slug) = true →
      Executed txt t call (.createRealm slug) (.ok (.createMembership,
        { t with realms := t.realms.insert (call.realm txt slug) }))
  | realmRefused (slug : String) (error : SignupError) : realmFits t (call.realm txt slug) = false →
      Executed txt t call (.createRealm slug) (.error error)
  | joined : membershipFits t call.membership = true →
      Executed txt t call .createMembership (.ok (.joined,
        { t with memberships := t.memberships.insert call.membership }))
  | membershipRefused (error : SignupError) : membershipFits t call.membership = false →
      Executed txt t call .createMembership (.error error)

variable (txt) in
theorem executed (hrows : RowsExist t call phase) (hended : phase.ended = false) :
    Executed txt t call phase (call.execute txt t phase) := by
  cases phase with
  | checkEmail =>
    rw [SignupCall.execute]
    split
    · exact .accountExists
    · exact .emailFree
  | createUser =>
    have hinsert := insert_cases (createUser_eq_ok t (call.user txt))
    rw [SignupCall.execute]
    rcases hinsert with ⟨hfits, hcreate⟩ | ⟨hfits, error, hcreate⟩
    · rw [hcreate]
      exact .userCreated hfits
    · rw [hcreate]
      exact .userRefused error hfits
  | searchSlug slug counter =>
    rw [SignupCall.execute]
    split
    · exact .slugTaken slug counter _
    · exact .slugFree slug counter
  | createRealm slug =>
    have hinsert := insert_cases (createRealm_eq_ok t (call.realm txt slug))
    rw [SignupCall.execute]
    rcases hinsert with ⟨hfits, hcreate⟩ | ⟨hfits, error, hcreate⟩
    · rw [hcreate]
      exact .realmCreated slug hfits
    · rw [hcreate]
      exact .realmRefused slug error hfits
  | createMembership =>
    have hinsert := insert_cases
      (createMembership_eq_ok (hrows.user rfl) (hrows.realm rfl))
    rw [SignupCall.execute]
    rcases hinsert with ⟨hfits, hcreate⟩ | ⟨hfits, error, hcreate⟩
    · rw [hcreate]
      exact .joined hfits
    · rw [hcreate]
      exact .membershipRefused error hfits
  | joined => cases hended
  | failed error userCreated realmCreated => cases hended

/-- The signup has failed and has left rows behind. -/
def leftovers : SignupPhase → Bool
  | .failed _ userCreated realmCreated => userCreated || realmCreated
  | _ => false

/-- The statement does not end a signup that has created rows. -/
def kept (txt : PyText) (t : SignupTables) (call : SignupCall) (fate : StatementFate) :
    SignupPhase → Bool
  | .createUser => fate ≠ .answerLost || !userFits t (call.user txt)
  | .searchSlug _ _ => fate = .answered
  | .createRealm slug => fate = .answered && realmFits t (call.realm txt slug)
  | .createMembership => fate ≠ .notExecuted && membershipFits t call.membership
  | _ => true

variable (txt fate) in
theorem leftovers_step (hrows : RowsExist t call phase) (hended : phase.ended = false) :
    leftovers (call.step txt t fate phase).1 = !kept txt t call fate phase := by
  have h := executed txt hrows hended
  unfold SignupCall.step
  generalize call.execute txt t phase = outcome at h
  cases h <;> cases fate <;>
    simp [leftovers, SignupPhase.raise, SignupPhase.unanswered, SignupPhase.userCreated,
      SignupPhase.realmCreated, kept, *]

/-- No row is removed. -/
structure Grows (t t' : SignupTables) : Prop where
  users : ∀ id, t.hasUser id = true → t'.hasUser id = true
  realms : ∀ id, t.hasRealm id = true → t'.hasRealm id = true

theorem Grows.refl (t : SignupTables) : Grows t t := ⟨fun _ h => h, fun _ h => h⟩

theorem RowsExist.mono (h : RowsExist t call phase) (hgrows : Grows t t') :
    RowsExist t' call phase :=
  ⟨fun huser => hgrows.users _ (h.user huser), fun hrealm => hgrows.realms _ (h.realm hrealm)⟩

theorem grows_insertUser (t : SignupTables) (row : SignupUser) :
    Grows t { t with users := t.users.insert row } := by
  refine ⟨fun id h => ?_, fun _ h => h⟩
  obtain ⟨other, hother, hid⟩ := List.any_eq_true.mp h
  exact List.any_eq_true.mpr ⟨other, Table.mem_insert.mpr (.inl hother), hid⟩

theorem grows_insertRealm (t : SignupTables) (row : SignupRealm) :
    Grows t { t with realms := t.realms.insert row } := by
  refine ⟨fun _ h => h, fun id h => ?_⟩
  obtain ⟨other, hother, hid⟩ := List.any_eq_true.mp h
  exact List.any_eq_true.mpr ⟨other, Table.mem_insert.mpr (.inl hother), hid⟩

theorem hasUser_insert {row : SignupUser} (h : userFits t row = true) :
    ({ t with users := t.users.insert row } : SignupTables).hasUser row.id = true := by
  have hfree : t.users.has row.email = false := by
    simp only [userFits, decide_eq_true_eq] at h
    exact h.2.2.2.2.1
  exact List.any_eq_true.mpr ⟨row, Table.mem_insert.mpr (.inr ⟨rfl, hfree⟩), decide_eq_true rfl⟩

theorem hasRealm_insert {row : SignupRealm} (h : realmFits t row = true) :
    ({ t with realms := t.realms.insert row } : SignupTables).hasRealm row.id = true := by
  have hfree : t.realms.has row.slug = false := by
    simp only [realmFits, decide_eq_true_eq] at h
    exact h.2.2.1
  exact List.any_eq_true.mpr ⟨row, Table.mem_insert.mpr (.inr ⟨rfl, hfree⟩), decide_eq_true rfl⟩

/-- What a statement that succeeds has created is there. -/
theorem Executed.rowsExist {next : SignupPhase}
    (h : Executed txt t call phase (.ok (next, t'))) (hrows : RowsExist t call phase) :
    Grows t t' ∧ RowsExist t' call next := by
  cases h with
  | emailFree => exact ⟨.refl t, Bool.noConfusion, Bool.noConfusion⟩
  | userCreated hfits =>
    exact ⟨grows_insertUser t _, fun _ => hasUser_insert hfits, Bool.noConfusion⟩
  | slugTaken slug counter next => exact ⟨.refl t, hrows.user, Bool.noConfusion⟩
  | slugFree slug counter => exact ⟨.refl t, hrows.user, Bool.noConfusion⟩
  | realmCreated slug hfits =>
    have hgrows := grows_insertRealm t (call.realm txt slug)
    exact ⟨hgrows, fun _ => hgrows.users _ (hrows.user rfl), fun _ => hasRealm_insert hfits⟩
  | joined _ => exact ⟨⟨fun _ h => h, fun _ h => h⟩, hrows.user, hrows.realm⟩

theorem RowsExist.raise (h : RowsExist t call phase) (error : SignupError) :
    RowsExist t call (phase.raise error) :=
  ⟨h.user, h.realm⟩

theorem RowsExist.unanswered (h : RowsExist t call phase) : RowsExist t call phase.unanswered := by
  cases phase with
  | joined => exact h
  | _ => exact h.raise .connection

variable (txt fate) in
theorem rowsExist_step (hrows : RowsExist t call phase) (hended : phase.ended = false) :
    Grows t (call.step txt t fate phase).2 ∧
      RowsExist (call.step txt t fate phase).2 call (call.step txt t fate phase).1 := by
  have h := executed txt hrows hended
  unfold SignupCall.step
  generalize call.execute txt t phase = outcome at h
  cases outcome with
  | error error => cases fate <;> exact ⟨.refl t, hrows.raise _⟩
  | ok next =>
    obtain ⟨hgrows, hnext⟩ := h.rowsExist hrows
    cases fate with
    | answered => exact ⟨hgrows, hnext⟩
    | notExecuted => exact ⟨.refl t, hrows.raise _⟩
    | answerLost => exact ⟨hgrows, hnext.unanswered⟩

/-! ## Runs -/

/-- A signup that has failed has left no user and no realm behind. -/
def Clean (s : SignupState) : Prop :=
  ∀ (i : ℕ) (call : SignupCall) (error : SignupError) (userCreated realmCreated : Bool),
    s.calls[i]? = some (call, .failed error userCreated realmCreated) →
      (userCreated = true → s.tables.hasUser call.userId = false) ∧
      (realmCreated = true → s.tables.hasRealm call.realmId = false)

/-- The statement does not end a signup that has created rows. -/
def Kept (txt : PyText) (s : SignupState) : SignupEvent → Prop
  | .start _ => True
  | .statement index fate => ∀ entry ∈ s.calls[index]?,
      kept txt s.tables entry.1 fate entry.2 = true

instance (s : SignupState) : (event : SignupEvent) → Decidable (Kept txt s event)
  | .start _ => .isTrue trivial
  | .statement index fate => inferInstanceAs (Decidable (∀ entry ∈ s.calls[index]?,
      kept txt s.tables entry.1 fate entry.2 = true))

theorem step_statement {s s' : SignupState} {index : ℕ}
    (h : s.step txt (.statement index fate) = some s') :
    ∃ call phase, s.calls[index]? = some (call, phase) ∧ phase.ended = false ∧
      s' = { tables := (call.step txt s.tables fate phase).2
             calls := s.calls.set index (call, (call.step txt s.tables fate phase).1) } := by
  rw [SignupState.step] at h
  split at h
  · cases h
  · next call phase hcall =>
      split at h
      · cases h
      · next hended =>
          exact ⟨call, phase, hcall, eq_false_of_ne_true hended, (Option.some.inj h).symm⟩

/-- The rows of the signups are in the tables. -/
def AllRowsExist (s : SignupState) : Prop :=
  ∀ (i : ℕ) (entry : SignupCall × SignupPhase), s.calls[i]? = some entry →
    RowsExist s.tables entry.1 entry.2

theorem allRowsExist_step {s s' : SignupState} {event : SignupEvent} (h : AllRowsExist s)
    (hstep : s.step txt event = some s') : AllRowsExist s' := by
  cases event with
  | start call =>
    cases hstep
    exact forall_append h ⟨Bool.noConfusion, Bool.noConfusion⟩
  | statement index fate =>
    obtain ⟨call, phase, hcall, hended, rfl⟩ := step_statement hstep
    obtain ⟨hgrows, hrows⟩ := rowsExist_step txt fate (h index _ hcall) hended
    exact forall_set (fun i entry hentry => (h i entry hentry).mono hgrows) hrows

/-- With the rows of the signups in the tables, what is left behind is on record. -/
theorem clean_iff {s : SignupState} (h : AllRowsExist s) :
    Clean s ↔ ∀ (i : ℕ) (entry : SignupCall × SignupPhase), s.calls[i]? = some entry →
      leftovers entry.2 = false := by
  constructor
  · rintro hclean i ⟨call, phase⟩ hentry
    cases phase with
    | failed error userCreated realmCreated =>
      have hrows := h i _ hentry
      obtain ⟨huser, hrealm⟩ := hclean i call error userCreated realmCreated hentry
      refine Bool.or_eq_false_iff.mpr ⟨?_, ?_⟩
      · refine eq_false_of_ne_true fun hcreated => ?_
        have hrow : s.tables.hasUser call.userId = true := hrows.user hcreated
        rw [huser hcreated] at hrow
        exact Bool.noConfusion hrow
      · refine eq_false_of_ne_true fun hcreated => ?_
        have hrow : s.tables.hasRealm call.realmId = true := hrows.realm hcreated
        rw [hrealm hcreated] at hrow
        exact Bool.noConfusion hrow
    | _ => rfl
  · intro hnone i call error userCreated realmCreated hentry
    have hfailed := hnone i _ hentry
    obtain ⟨rfl, rfl⟩ := Bool.or_eq_false_iff.mp hfailed
    exact ⟨Bool.noConfusion, Bool.noConfusion⟩

/-- One event: a signup that ends is kept if it leaves nothing behind. -/
theorem clean_step {s s' : SignupState} {event : SignupEvent} (h : AllRowsExist s)
    (hstep : s.step txt event = some s') : Clean s' ↔ Clean s ∧ Kept txt s event := by
  rw [clean_iff (allRowsExist_step h hstep), clean_iff h]
  cases event with
  | start call =>
    cases hstep
    constructor
    · intro hnone
      refine ⟨fun i entry hentry => hnone i entry ?_, trivial⟩
      exact List.getElem?_append_left (List.getElem?_eq_some_iff.mp hentry).1 ▸ hentry
    · rintro ⟨hnone, -⟩
      exact forall_append hnone rfl
  | statement index fate =>
    obtain ⟨call, phase, hcall, hended, rfl⟩ := step_statement hstep
    have hleft := leftovers_step txt fate (h index _ hcall) hended
    have hkept : Kept txt s (.statement index fate) ↔ kept txt s.tables call fate phase = true := by
      simp [Kept, hcall]
    have hindex := (List.getElem?_eq_some_iff.mp hcall).1
    rw [hkept]
    constructor
    · intro hnone
      have hnew := hnone index _ (List.getElem?_set_self hindex)
      rw [hleft, Bool.not_eq_false'] at hnew
      refine ⟨fun i entry hentry => ?_, hnew⟩
      by_cases hi : i = index
      · subst hi
        rw [hcall, Option.some.injEq] at hentry
        subst hentry
        cases phase <;> first | rfl | cases hended
      · exact hnone i entry (by rwa [List.getElem?_set_ne (Ne.symm hi)])
    · rintro ⟨hnone, hnew⟩
      refine forall_set hnone ?_
      rw [hleft, hnew]
      rfl

/-- Signups that take turns, over any tables: those that have failed have left nothing
behind exactly if no statement ended one that had created rows. -/
theorem signups_clean_iff (txt : PyText) {s s' : SignupState} {events : List SignupEvent}
    (hstart : s.calls = []) (hrun : runSteps (SignupState.step txt) events s = some s') :
    Clean s' ↔ Meets (SignupState.step txt) (Kept txt) events s := by
  have hnone : ∀ (i : ℕ) (entry : SignupCall × SignupPhase), s.calls[i]? ≠ some entry := by
    intro i entry hentry
    rw [hstart, List.getElem?_nil] at hentry
    cases hentry
  have hrows : AllRowsExist s := fun i entry hentry => absurd hentry (hnone i entry)
  have hclean : Clean s := fun i _ _ _ _ hentry => absurd hentry (hnone i _)
  rw [runSteps_iff_meets allRowsExist_step clean_step hrows hrun]
  exact and_iff_right hclean

/-- A signup for a realm of the name. -/
def realmSignup (realmName : String) (h : realmName.length ≤ 200) : SignupCall where
  request :=
    { email := "ada@example.org"
      password := "correct horse"
      firstName := "Ada"
      lastName := "L"
      realmName := some realmName
      passwordLength := by decide
      firstNameLength := by decide
      lastNameLength := by decide
      realmNameLength := fun _ hname => Option.mem_some_iff.mp hname ▸ h }
  passwordHash := "$argon2id$"
  userId := .ofByte 1
  realmId := .ofByte 2
  membershipId := .ofByte 3

variable (txt) in
theorem email_realmSignup (realmName : String) (h : realmName.length ≤ 200) :
    (realmSignup realmName h).email txt = txt.lower (txt.strip "ada@example.org") := rfl

/-- The statements of the signup at the index, all answered. -/
def answered (index count : ℕ) : List SignupEvent :=
  List.replicate count (.statement index .answered)

/-- A signup that gets its membership, and a second one with its email. -/
def homeSignups : List SignupEvent :=
  .start (realmSignup "Home" (by decide)) :: answered 0 5 ++
    .start (realmSignup "Home" (by decide)) :: answered 1 1

theorem signups_clean_home : ∃ s', runSteps (SignupState.step asciiText) homeSignups {} = some s' ∧
      s'.calls.map Prod.snd = [.joined, .failed .accountExists false false] ∧ Clean s' := by
  have hcheck : (checkedRun (SignupState.step asciiText) (Kept asciiText) homeSignups {}).any
      (fun s => s.calls.map Prod.snd = [.joined, .failed .accountExists false false]) = true := by
    decide +kernel
  obtain ⟨s', hmeets, hrun, hphases⟩ := exists_of_checkedRun hcheck
  exact ⟨s', hrun, of_decide_eq_true hphases, (signups_clean_iff asciiText rfl hrun).mpr hmeets⟩

/-- A signup alone whose slug is too long for its column: the user stays behind, and the
next signup with the email fails. -/
theorem long_slug_fails (again : SignupCall) (hemail : again.email txt = call.email txt)
    (huser : userFits {} (call.user txt) = true) (hname : (call.realmName txt).length ≤ 200)
    (hslug : 120 < (call.baseSlug txt).length) : runSteps (SignupState.step txt)
        (.start call :: answered 0 4 ++ .start again :: answered 1 1) {} =
      some { tables := { users := Table.insert {} (call.user txt) }
             calls := [(call, .failed (.validation "slug") true false),
               (again, .failed .accountExists false false)] } := by
  have hcreate := (createUser_eq_ok {} (call.user txt) _).mpr ⟨huser, rfl⟩
  have hrealm : ∀ t : SignupTables, t.createRealm (call.realm txt (call.baseSlug txt)) =
      .error (.validation "slug") := by
    intro t
    simp [SignupTables.createRealm, maxLength, SignupCall.realm, hslug, not_lt.mpr hname, bind,
      Except.bind]
  have hhas : (Table.insert {} (call.user txt) : Table SignupUser.email).has
      (again.email txt) = true := by
    rw [hemail, Table.has_eq_true]
    exact ⟨call.user txt, Table.mem_insert.mpr (.inr ⟨rfl, rfl⟩), rfl⟩
  have husers : ∀ email, ({} : Table SignupUser.email).has email = false := fun _ => rfl
  have hrealms : ∀ slug, ({} : Table SignupRealm.slug).has slug = false := fun _ => rfl
  simp [answered, runSteps, SignupState.step, SignupPhase.ended, SignupCall.step,
    SignupCall.execute, hcreate, hrealm, hhas, husers, hrealms, Except.map, SignupPhase.raise,
    SignupPhase.userCreated, SignupPhase.realmCreated]

/-- A realm name that the schema accepts, and whose slug is too long for the column. -/
def longRealmName : String := String.ofList (List.replicate 121 'a')

theorem length_longRealmName : longRealmName.length = 121 := by
  unfold longRealmName
  rw [String.length_ofList, List.length_replicate]

theorem slugify_longRealmName : slugify asciiText longRealmName = longRealmName := by
  have hletters : trim (· == '-') (hyphenate false
      ((trim isPySpace (List.replicate 121 'a')).map Char.toLower)) = List.replicate 121 'a' := by
    decide +kernel
  have htext : (asciiText.lower (asciiText.strip longRealmName)).toList =
      (trim isPySpace (List.replicate 121 'a')).map Char.toLower := by
    unfold asciiText longRealmName
    dsimp only
    rw [String.toList_ofList, String.toList_ofList, String.toList_ofList]
  have hne : List.replicate 121 'a' ≠ [] := List.replicate_succ_ne_nil
  unfold slugify
  rw [htext, hletters]
  exact if_neg hne

/-- A signup with the name, and another attempt with a shorter one. -/
def longSignups : List SignupEvent :=
  .start (realmSignup longRealmName (by rw [length_longRealmName]; decide)) :: answered 0 4 ++
    .start (realmSignup "Home" (by decide)) :: answered 1 1

/-- The user stays behind, and the email cannot be used again. -/
theorem signup_leaves_user : ∃ s',
    runSteps (SignupState.step asciiText) longSignups {} = some s' ∧ ¬ Clean s' ∧
      s'.calls.map Prod.snd =
        [.failed (.validation "slug") true false, .failed .accountExists false false] := by
  have hrealm : (realmSignup longRealmName (by rw [length_longRealmName]; decide)).realmName
      asciiText = longRealmName := by
    have hne : longRealmName ≠ "" := by
      intro heq
      have hlength := length_longRealmName
      rw [heq] at hlength
      cases hlength
    simp [SignupCall.realmName, realmSignup, hne]
  have hemail := (email_realmSignup asciiText "Home" (by decide)).trans
    (email_realmSignup asciiText longRealmName (by rw [length_longRealmName]; decide)).symm
  refine ⟨_, long_slug_fails _ hemail (by decide +kernel) ?_ ?_, ?_, rfl⟩
  · rw [hrealm, length_longRealmName]
    decide
  · rw [SignupCall.baseSlug, hrealm, slugify_longRealmName, length_longRealmName]
    decide
  · intro hclean
    have huser := (hclean 0 _ _ _ _ rfl).1 rfl
    revert huser
    decide +kernel

end Bifrostnms.Proofs
