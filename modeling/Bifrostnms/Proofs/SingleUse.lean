import Bifrostnms.Backend.SingleUse
import Bifrostnms.Lib.Runs
import Bifrostnms.Proofs.ConfigurationHash

/-!
# How often a secret is used

A call that has selected a secret is going to be accepted with it, whatever
happens before it marks the row. So two calls that select the same row before
either of them has marked it are both accepted (`secrets_used_twice`), for each
of the four kinds of secrets; the sign count of a passkey does not help, because
it is selected before the other call has saved it.

No statement clears a mark, and the id of a deleted row does not come back. A
secret that was used can therefore never be found unused again, and if every
statement that marks a row finds it unused (`marksUnused`), no secret is used
twice (`secrets_used_once`).
-/

namespace Bifrostnms.Proofs

open Bifrostnms.Lib Bifrostnms.Backend

/-! ## Marks -/

/-- The row is there and has no mark. -/
def unused (t : AuthTables) : Secret → Bool
  | .recoveryCode id => (t.recoveryCodes.find? id).any (·.usedAt.isNone)
  | .challenge id => (t.challenges.find? id).any (·.consumedAt.isNone)

/-- The secret whose row the next statement of a call marks. -/
def marks : SecretPhase → Option Secret
  | .saveRecoveryCode row _ => some (.recoveryCode row.id)
  | .saveChallenge row _ _ => some (.challenge row.id)
  | _ => none

/-- A statement that marks a row finds it unused. -/
def marksUnused (s : SecretTraffic) : SecretEvent → Bool
  | .statement index _ =>
    match s.calls[index]? with
    | none => true
    | some c => (marks c.2).all (unused s.tables)
  | _ => true

/-- The ids of the rows are among those that were drawn. -/
structure AllIssued (t : AuthTables) : Prop where
  recoveryCodes : ∀ row ∈ t.recoveryCodes.rows, row.id ∈ t.issued
  challenges : ∀ row ∈ t.challenges.rows, row.id ∈ t.issued

theorem AllIssued.of_unused {t : AuthTables} (h : AllIssued t) {secret : Secret}
    (hsecret : unused t secret = true) : secret.id ∈ t.issued := by
  cases secret with
  | recoveryCode id =>
    obtain ⟨row, hrow, -⟩ := (Option.any_eq_true _ _).mp hsecret
    obtain ⟨hmem, rfl⟩ := Table.find?_eq_some.mp hrow
    exact h.recoveryCodes row hmem
  | challenge id =>
    obtain ⟨row, hrow, -⟩ := (Option.any_eq_true _ _).mp hsecret
    obtain ⟨hmem, rfl⟩ := Table.find?_eq_some.mp hrow
    exact h.challenges row hmem

/-- What a statement may do: a row that is unused afterwards was so before, or
has an id that is new. -/
structure UsesUp (t t' : AuthTables) : Prop where
  issued : ∀ id ∈ t.issued, id ∈ t'.issued
  unused : ∀ secret, unused t' secret = true → unused t secret = true ∨
    (secret.id ∉ t.issued ∧ secret.id ∈ t'.issued)

namespace UsesUp

variable {t t' : AuthTables}

theorem of_unused (hissued : t'.issued = t.issued)
    (h : ∀ secret, Proofs.unused t' secret = true → Proofs.unused t secret = true) : UsesUp t t' :=
  ⟨fun _ hid => hissued ▸ hid, fun secret hsecret => .inl (h secret hsecret)⟩

/-- Statements on users, methods and credentials. -/
theorem of_eq (hcodes : t'.recoveryCodes = t.recoveryCodes)
    (hchallenges : t'.challenges = t.challenges) (hissued : t'.issued = t.issued) :
    UsesUp t t' := by
  refine of_unused hissued fun secret hsecret => ?_
  cases secret with
  | recoveryCode id => simpa only [Proofs.unused, hcodes] using hsecret
  | challenge id => simpa only [Proofs.unused, hchallenges] using hsecret

end UsesUp

section Tables

variable {t : AuthTables} {secret : Secret} {id : Uuid}

theorem unused_saveRecoveryCode {usedAt : ℤ}
    (h : unused (t.saveRecoveryCode id usedAt) secret = true) :
    unused t secret = true ∧ secret ≠ .recoveryCode id := by
  cases secret with
  | challenge other => exact ⟨h, by simp⟩
  | recoveryCode other =>
    obtain ⟨row, hrow, hne, hnone⟩ := Table.exists_of_any_find?_update
      (by intro r; split <;> rfl) h fun _ => rfl
    have hid : row.id = other := (Table.find?_eq_some.mp hrow).2
    refine ⟨(Option.any_eq_true _ _).mpr ⟨row, hrow, hnone⟩, ?_⟩
    rintro ⟨⟩
    exact hne hid

theorem unused_saveChallenge {consumedAt : ℤ}
    (h : unused (t.saveChallenge id consumedAt) secret = true) :
    unused t secret = true ∧ secret ≠ .challenge id := by
  cases secret with
  | recoveryCode other => exact ⟨h, by simp⟩
  | challenge other =>
    obtain ⟨row, hrow, hne, hnone⟩ := Table.exists_of_any_find?_update
      (by intro r; split <;> rfl) h fun _ => rfl
    have hid : row.id = other := (Table.find?_eq_some.mp hrow).2
    refine ⟨(Option.any_eq_true _ _).mpr ⟨row, hrow, hnone⟩, ?_⟩
    rintro ⟨⟩
    exact hne hid

end Tables

/-- A statement of another request. -/
theorem execute_usesUp {t t' : AuthTables} {now : ℤ} {statement : AuthStatement}
    (h : t.execute now statement = some t') : UsesUp t t' := by
  cases statement with
  | createChallenge row =>
    simp only [AuthTables.execute] at h
    split at h
    · cases h
    · next hnew =>
        obtain rfl := Option.some.inj h
        refine ⟨fun id hid => List.mem_cons_of_mem _ hid, fun secret hsecret => ?_⟩
        cases secret with
        | recoveryCode id => exact .inl hsecret
        | challenge id =>
          obtain ⟨r, hr, hnone⟩ := (Option.any_eq_true _ _).mp hsecret
          rcases Table.find?_of_find?_insert hr with hold | rfl
          · exact .inl ((Option.any_eq_true _ _).mpr ⟨r, hold, hnone⟩)
          · obtain rfl : row.id = id := (Table.find?_eq_some.mp hr).2
            exact .inr ⟨fun hid => hnew (.inl hid), List.mem_cons_self⟩
  | deleteLoginChallenges userId =>
    obtain rfl := Option.some.inj h
    refine .of_unused rfl fun secret hsecret => ?_
    cases secret with
    | recoveryCode id => exact hsecret
    | challenge id =>
      obtain ⟨r, hr, hnone⟩ := (Option.any_eq_true _ _).mp hsecret
      exact (Option.any_eq_true _ _).mpr
        ⟨r, Table.find?_of_find?_delete hr, hnone⟩
  | withdrawTokens userId challengeType =>
    obtain rfl := Option.some.inj h
    refine .of_unused rfl fun secret hsecret => ?_
    cases secret with
    | recoveryCode id => exact hsecret
    | challenge id =>
      obtain ⟨r, hr, -, hnone⟩ := Table.exists_of_any_find?_update
        (by intro r; split <;> rfl) hsecret fun _ => rfl
      exact (Option.any_eq_true _ _).mpr ⟨r, hr, hnone⟩
  | consumeRegistration id =>
    obtain rfl := Option.some.inj h
    exact .of_unused rfl fun secret hsecret => (unused_saveChallenge hsecret).1
  | createRecoveryCode row =>
    simp only [AuthTables.execute] at h
    split at h
    · cases h
    · next hnew =>
        obtain rfl := Option.some.inj h
        refine ⟨fun id hid => List.mem_cons_of_mem _ hid, fun secret hsecret => ?_⟩
        cases secret with
        | challenge id => exact .inl hsecret
        | recoveryCode id =>
          obtain ⟨r, hr, hnone⟩ := (Option.any_eq_true _ _).mp hsecret
          rcases Table.find?_of_find?_insert hr with hold | rfl
          · exact .inl ((Option.any_eq_true _ _).mpr ⟨r, hold, hnone⟩)
          · obtain rfl : row.id = id := (Table.find?_eq_some.mp hr).2
            exact .inr ⟨hnew, List.mem_cons_self⟩
  | deleteRecoveryCodes userId =>
    obtain rfl := Option.some.inj h
    refine .of_unused rfl fun secret hsecret => ?_
    cases secret with
    | challenge id => exact hsecret
    | recoveryCode id =>
      obtain ⟨r, hr, hnone⟩ := (Option.any_eq_true _ _).mp hsecret
      exact (Option.any_eq_true _ _).mpr
        ⟨r, Table.find?_of_find?_delete hr, hnone⟩
  | saveUser row | saveMethod row | deleteMethods userId | createCredential row
  | deleteCredential id =>
    obtain rfl := Option.some.inj h
    exact .of_eq rfl rfl rfl

/-! ## One statement of a call -/

section Calls

variable {ctx : AuthContext} {t t' : AuthTables} {now : ℤ} {call : SecretCall}
  {phase next : SecretPhase}

/-- No call is accepted before it has marked its secret. -/
theorem usedSecret_select : (call.select ctx t now).usedSecret = none := by
  unfold SecretCall.select
  repeat' split
  all_goals rfl

theorem usedSecret_verify {credential : Json JsonNum}
    {challenge : AuthenticationChallengeRow} {stored : Option WebAuthnCredentialRow} :
    (SecretCall.verify ctx now credential challenge stored).usedSecret = none := by
  unfold SecretCall.verify
  repeat' split
  all_goals rfl

/-- A call that has not returned is accepted with a secret by the statement that
marks it, and by no other. -/
theorem step_marks (h : call.step ctx t now phase = (next, t')) (hphase : phase.usedSecret = none) :
    UsesUp t t' ∧ next.usedSecret = marks phase ∧
      ∀ secret ∈ marks phase, unused t' secret = false := by
  cases phase with
  | select =>
    obtain ⟨rfl, rfl⟩ := Prod.mk.inj h
    exact ⟨.of_eq rfl rfl rfl, usedSecret_select, by simp [marks]⟩
  | selectCredential challenge credentialId =>
    obtain ⟨rfl, rfl⟩ := Prod.mk.inj h
    exact ⟨.of_eq rfl rfl rfl, usedSecret_verify, by simp [marks]⟩
  | saveMethod row | saveCredential challenge stored =>
    obtain ⟨rfl, rfl⟩ := Prod.mk.inj h
    exact ⟨.of_eq rfl rfl rfl, rfl, by simp [marks]⟩
  | saveRecoveryCode row usedAt =>
    obtain ⟨rfl, rfl⟩ := Prod.mk.inj h
    refine ⟨.of_unused rfl fun _ hs => (unused_saveRecoveryCode hs).1, rfl, ?_⟩
    rintro secret ⟨⟩
    rw [← Bool.not_eq_true]
    intro hs
    exact (unused_saveRecoveryCode hs).2 rfl
  | saveChallenge row consumedAt userId =>
    obtain ⟨rfl, rfl⟩ := Prod.mk.inj h
    refine ⟨.of_unused rfl fun _ hs => (unused_saveChallenge hs).1, rfl, ?_⟩
    rintro secret ⟨⟩
    rw [← Bool.not_eq_true]
    intro hs
    exact (unused_saveChallenge hs).2 rfl
  | returned outcome =>
    obtain ⟨rfl, rfl⟩ := Prod.mk.inj h
    exact ⟨.of_eq rfl rfl rfl, hphase, by simp [marks]⟩

/-- Replacing an item that counted for nothing. -/
theorem filterMap_set_perm {α β : Type} {f : α → Option β} {l : List α} {i : ℕ}
    {a b : α} (h : l[i]? = some a) (ha : f a = none) :
    ((l.set i b).filterMap f).Perm ((f b).toList ++ l.filterMap f) := by
  induction l generalizing i with
  | nil => cases h
  | cons x xs ih =>
    cases i with
    | zero =>
      obtain rfl : x = a := by simpa using h
      rw [List.set_cons_zero, List.filterMap_cons_none ha]
      cases hb : f b with
      | none => rw [List.filterMap_cons_none hb]; rfl
      | some c => rw [List.filterMap_cons_some hb]; rfl
    | succ i =>
      have hperm := ih (i := i) (by simpa using h)
      rw [List.set_cons_succ]
      cases hx : f x with
      | none =>
        rw [List.filterMap_cons_none hx, List.filterMap_cons_none hx]
        exact hperm
      | some c =>
        rw [List.filterMap_cons_some hx, List.filterMap_cons_some hx]
        exact (hperm.cons c).trans List.perm_middle.symm

end Calls

/-! ## Runs -/

/-- Every secret that was used has its mark, or its row is gone. -/
structure Spent (s : SecretTraffic) : Prop where
  issued : ∀ secret, unused s.tables secret = true → secret.id ∈ s.tables.issued
  used : ∀ secret ∈ s.uses, secret.id ∈ s.tables.issued ∧ unused s.tables secret = false
  once : s.uses.Nodup

section Runs

variable {ctx : AuthContext} {s s' : SecretTraffic} {e : SecretEvent}

/-- What is left of the invariant when only the tables change. -/
theorem Spent.of_usesUp (hs : Spent s) {t' : AuthTables}
    (h : UsesUp s.tables t') : Spent { s with tables := t' } where
  issued secret hsecret := by
    rcases h.unused secret hsecret with hold | ⟨-, hnew⟩
    · exact h.issued _ (hs.issued secret hold)
    · exact hnew
  used secret hsecret := by
    obtain ⟨hid, hmarked⟩ := hs.used secret hsecret
    refine ⟨h.issued _ hid, ?_⟩
    rw [← Bool.not_eq_true]
    intro hunused
    rcases h.unused secret hunused with hold | ⟨hnew, -⟩
    · rw [hmarked] at hold
      cases hold
    · exact hnew hid
  once := hs.once

/-- A call is accepted with a secret that was unused up to its mark. -/
theorem Spent.of_perm (hs : Spent s) {t' : AuthTables} {marked : Option Secret}
    {calls : List (SecretCall × SecretPhase)} (h : UsesUp s.tables t')
    (hunused : ∀ secret ∈ marked, unused s.tables secret = true)
    (hmarked : ∀ secret ∈ marked, unused t' secret = false)
    (huses : (SecretTraffic.uses ⟨t', calls⟩).Perm (marked.toList ++ s.uses)) :
    Spent ⟨t', calls⟩ where
  issued := (hs.of_usesUp h).issued
  used secret hsecret := by
    rw [huses.mem_iff, List.mem_append, Option.mem_toList] at hsecret
    rcases hsecret with hnew | hold
    · exact ⟨h.issued _ (hs.issued secret (hunused secret hnew)), hmarked secret hnew⟩
    · exact (hs.of_usesUp h).used secret hold
  once := by
    rw [huses.nodup_iff]
    refine List.Nodup.append ?_ hs.once ?_
    · cases marked with
      | none => exact List.nodup_nil
      | some secret => exact List.nodup_singleton secret
    · intro secret hnew hold
      rw [Option.mem_toList] at hnew
      have hfalse := (hs.used secret hold).2
      rw [hunused secret hnew] at hfalse
      cases hfalse

theorem step_spent (hs : Spent s) (hcondition : marksUnused s e = true)
    (hstep : s.step ctx e = some s') : Spent s' := by
  cases e with
  | call call =>
    obtain rfl := Option.some.inj hstep
    have huses : SecretTraffic.uses { s with calls := s.calls ++ [(call, .select)] } = s.uses := by
      simp [SecretTraffic.uses, SecretPhase.usedSecret]
    exact ⟨hs.issued, by rw [huses]; exact hs.used, by rw [huses]; exact hs.once⟩
  | other statement now =>
    obtain ⟨t', ht', rfl⟩ := Option.map_eq_some_iff.mp hstep
    exact hs.of_usesUp (execute_usesUp ht')
  | statement index now =>
    simp only [SecretTraffic.step] at hstep
    split at hstep
    · cases hstep
    · cases hstep
    · next call phase hreturned hcall =>
        have hphase : phase.usedSecret = none := by
          cases phase with
          | returned outcome => exact absurd rfl (hreturned outcome)
          | _ => rfl
        obtain rfl := Option.some.inj hstep
        obtain ⟨next, t', hnext⟩ : ∃ next t',
            call.step ctx s.tables now phase = (next, t') := ⟨_, _, rfl⟩
        obtain ⟨husesUp, hused, hmarked⟩ := step_marks hnext hphase
        rw [hnext]
        have hperm := filterMap_set_perm (f := fun c => c.2.usedSecret)
          (b := (call, next)) hcall hphase
        rw [hused] at hperm
        have hunused : ∀ secret ∈ marks phase, unused s.tables secret = true := by
          simpa [marksUnused, hcall, Option.all_eq_true] using hcondition
        exact hs.of_perm husesUp hunused hmarked hperm

/-- In a run in which every mark finds its row unused, no secret is used twice. -/
theorem secrets_used_once {events : List SecretEvent} (hcalls : s.calls = [])
    (hissued : AllIssued s.tables) (hrun : runSteps (SecretTraffic.step ctx) events s = some s')
    (hmeets : Meets (SecretTraffic.step ctx)
      (fun s e => marksUnused s e = true) events s) (secret : Secret) :
    s'.uses.count secret ≤ 1 := by
  have huses : s.uses = [] := by rw [SecretTraffic.uses, hcalls]; rfl
  have hstart : Spent s := by
    refine ⟨fun _ => hissued.of_unused, ?_, ?_⟩
    · rw [huses]
      intro secret hsecret
      exact absurd hsecret List.not_mem_nil
    · rw [huses]
      exact List.nodup_nil
  have hend : Spent s' := runSteps_invariant (P := Spent) step_spent hstart hmeets hrun
  exact List.nodup_iff_count_le_one.mp hend.once secret

end Runs

/-! ## Two calls side by side -/

/-- The oldest row comes first. -/
def oldestFirst : FirstRow RecoveryCodeRow where
  first := List.head?
  mem_of_first := List.mem_of_head?
  isSome_first := List.isSome_head?.mpr

/-- Nothing is hashed or encrypted. An assertion counts the passkey up to 5. -/
def plainAuth : AuthContext where
  txt := plainText
  hashToken := id
  decryptSecret := .ok
  verifyTotp := fun secret code _ => secret = code
  verifyAuthenticationResponse := fun _ _ _ signCount =>
    if signCount < 5 then .ok ⟨5, "single_device", false⟩
    else .error "Response sign count of 5 was not greater than current count"
  firstRecoveryCode := oldestFirst

/-- A user with a secret of each kind. -/
def userTraffic : SecretTraffic where
  tables := {
    users := Table.insert {} { id := .ofByte 1 }
    recoveryCodes := Table.insert {}
      { id := .ofByte 2, userId := .ofByte 1, codeHash := "AAAA-BBBB-CCCC" }
    challenges :=
      [({ id := .ofByte 3, userId := some (.ofByte 1),
          challengeType := .twoFactorLogin, challengeHash := "login",
          expiresAt := 300 } : AuthenticationChallengeRow),
        { id := .ofByte 4, userId := some (.ofByte 1),
          challengeType := .passwordReset, challengeHash := "reset", expiresAt := 300 },
        { id := .ofByte 5, challengeType := .webauthnAuthentication,
          challengeHash := "digest", expiresAt := 300,
          challenge := some "passkey" }].foldl Table.insert {}
    credentials := Table.insert {}
      { id := .ofByte 6, userId := .ofByte 1, credentialId := "key",
        publicKey := "", signCount := 4 }
    issued := [.ofByte 2, .ofByte 3, .ofByte 4, .ofByte 5] }

/-- Two equal calls whose statements take turns. -/
def sideBySide (call : SecretCall) (statements : ℕ) : List SecretEvent :=
  [.call call, .call call] ++ (List.replicate statements [.statement 0 0, .statement 1 0]).flatten

/-- Both of the calls are accepted. -/
def acceptedTwice (call : SecretCall) (statements : ℕ) (secret : Secret) : Bool :=
  (runSteps (SecretTraffic.step plainAuth) (sideBySide call statements)
    userTraffic).any fun s => s.uses = [secret, secret]

/-- A run of two calls in which a secret is used more than once. -/
def UsedTwice (call : SecretCall) (secret : Secret) : Prop :=
  ∃ statements s, runSteps (SecretTraffic.step plainAuth) (sideBySide call statements)
    userTraffic = some s ∧ 1 < s.uses.count secret

theorem usedTwice_of_acceptedTwice {call : SecretCall} {secret : Secret} (statements : ℕ)
    (h : acceptedTwice call statements secret = true) : UsedTwice call secret := by
  obtain ⟨s, hs, huses⟩ := (Option.any_eq_true _ _).mp h
  rw [decide_eq_true_eq] at huses
  exact ⟨statements, s, hs, by simp [huses]⟩

/-- Each kind of secret can be used twice. -/
theorem secrets_used_twice : UsedTwice (.verifyTwoFactor (.ofByte 1) "AAAA-BBBB-CCCC" true)
      (.recoveryCode (.ofByte 2)) ∧
    UsedTwice (.consumeLoginChallenge "login") (.challenge (.ofByte 3)) ∧
    UsedTwice (.consumeAccountToken "reset" .passwordReset) (.challenge (.ofByte 4)) ∧
    UsedTwice (.verifyAuthentication (.ofByte 5) (.obj [("id", .str "key")]))
      (.challenge (.ofByte 5)) := by
  refine ⟨usedTwice_of_acceptedTwice 2 ?_, usedTwice_of_acceptedTwice 2 ?_,
    usedTwice_of_acceptedTwice 2 ?_, usedTwice_of_acceptedTwice 4 ?_⟩
  · decide +kernel
  · decide +kernel
  · decide +kernel
  · decide +kernel

theorem userTraffic_issued : AllIssued userTraffic.tables :=
  ⟨by decide +kernel, by decide +kernel⟩

/-- One call after the other. -/
theorem secrets_used_once_inTurn : ∃ s, runSteps (SecretTraffic.step plainAuth)
      [.call (.consumeLoginChallenge "login"), .statement 0 0, .statement 0 0,
        .call (.consumeLoginChallenge "login"), .statement 1 0] userTraffic =
      some s ∧ s.uses = [.challenge (.ofByte 3)] ∧ ∀ secret, s.uses.count secret ≤ 1 := by
  have hrun : ((checkedRun (SecretTraffic.step plainAuth)
      (fun s e => marksUnused s e = true)
      [.call (.consumeLoginChallenge "login"), .statement 0 0, .statement 0 0,
        .call (.consumeLoginChallenge "login"), .statement 1 0]
      userTraffic).any fun s => s.uses = [.challenge (.ofByte 3)]) = true := by
    decide +kernel
  obtain ⟨s, hmeets, hs, huses⟩ := exists_of_checkedRun hrun
  exact ⟨s, hs, of_decide_eq_true huses, secrets_used_once rfl userTraffic_issued hs hmeets⟩

end Bifrostnms.Proofs
