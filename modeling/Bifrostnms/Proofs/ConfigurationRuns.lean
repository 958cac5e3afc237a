import Bifrostnms.Agent.ConfigurationTransactions
import Bifrostnms.Lib.Checks
import Bifrostnms.Lib.Runs
import Bifrostnms.Proofs.ConfigurationTable

/-!
# Sequences of activations

`ActivateConfiguration` as the source has it, call by call of the driver, is the
function on tables: it returns without an error exactly if the function does and
the driver does not fail, and with an error it leaves the table as it was
(`activation_cases`). In a table that only activations have written every row is
validated, so of the inactive rows the last statement leaves the one with the
highest revision. With increasing revisions the active row is the highest, so it
is the one that is retained (`configuration_activations`).
-/

namespace Bifrostnms.Proofs

open Bifrostnms.Lib Bifrostnms.Lib.TxProgram Bifrostnms.Agent

variable {t t' : ConfigurationTable} {snapshot row : ConfigurationSnapshot}
  {rows : List ConfigurationSnapshot}

/-! ## The transaction -/

theorem write_of_keyed (h : Keyed rows) :
    ConfigurationTable.write rows = .ok ((), ⟨rows, h⟩) := dif_pos h

theorem keyed_ensured (h : Keyed rows)
    (hens : ensureConfigurationContent rows snapshot = .ok rows') : Keyed rows' := by
  refine ⟨h.ensure hens, ?_⟩
  obtain ⟨-, rfl⟩ := (ensureConfigurationContent_eq_ok h.revision).mp hens
  have hactive : ∀ a ∈ ensured rows snapshot, a.active = true → a ∈ rows := by
    intro a ha hact
    unfold ensured at ha
    split at ha
    · exact ha
    · rcases List.mem_append.mp ha with ha | ha
      · exact ha
      · rw [List.mem_singleton.mp ha] at hact
        cases hact
  exact fun a ha b hb hact hact' =>
    h.active a (hactive a ha hact) b (hactive b hb hact') hact hact'

/-- The rows with none active. -/
def cleared (rows : List ConfigurationSnapshot) : List ConfigurationSnapshot :=
  rows.map fun row => if row.active then { row with active := false } else row

theorem cleared_row (row : ConfigurationSnapshot) :
    (if row.active then { row with active := false } else row) = { row with active := false } := by
  cases row with
  | mk revision contentHash schemaVersion canonicalPayload downloadedAt validatedAt
      activatedAt active => cases active <;> rfl

theorem keyed_cleared (h : (rows.map ConfigurationSnapshot.revision).Nodup) :
    Keyed (cleared rows) := by
  have hrevision : ConfigurationSnapshot.revision ∘ (fun row : ConfigurationSnapshot =>
      if row.active then { row with active := false } else row) =
      ConfigurationSnapshot.revision := by
    funext row
    show ConfigurationSnapshot.revision (ite _ _ _) = _
    rw [cleared_row]
  refine ⟨?_, fun a ha b hb hact => ?_⟩
  · unfold cleared
    rw [List.map_map, hrevision]
    exact h
  · obtain ⟨row, -, rfl⟩ := List.mem_map.mp ha
    rw [cleared_row] at hact
    cases hact

theorem activateRow_cleared : ((cleared rows).map fun row =>
      if row.revision = snapshot.revision then activated snapshot row else row) =
      markActive snapshot rows := by
  unfold cleared markActive
  rw [List.map_map]
  refine List.map_congr_left fun row _ => ?_
  rw [Function.comp_apply, cleared_row]
  rfl

/-- `ensureConfigurationContentTx` once the row was looked up. -/
def ensuredAs (snapshot : ConfigurationSnapshot) :
    Option ConfigurationSnapshot → ConfigurationTable → Except String (Unit × ConfigurationTable)
  | some row, t =>
    if row.contentHash ≠ snapshot.contentHash ∨ row.payloadBytes ≠ snapshot.payloadBytes then
      .error "configuration revision has different content"
    else .ok ((), t)
  | none, t => (t.insertSnapshot snapshot).mapError ("store configuration snapshot: " ++ ·)

theorem ensureConfigurationContentTx_does (hvalid : Activatable snapshot) :
    Does (ensureConfigurationContentTx snapshot) fun t =>
      ensureConfigurationContent t.rows snapshot >>= ConfigurationTable.write := by
  refine Does.of_eq (Does.bind (does_query _ _) (g := ensuredAs snapshot) fun found => ?_)
    fun t => ?_
  · cases found with
    | none => exact does_exec _ _
    | some row =>
      unfold ensuredAs
      dsimp only
      split
      · exact does_fail _
      · exact does_pure ()
  · show ensuredAs snapshot (t.rows.find? _) t = _
    unfold ensuredAs
    cases hens : ensureConfigurationContent t.rows snapshot with
    | error e =>
      unfold ensureConfigurationContent at hens
      split at hens
      · next row hfind =>
          rw [hfind]
          dsimp only
          split at hens
          · next hother =>
              rw [if_pos hother]
              cases hens
              rfl
          · cases hens
      · cases hens
    | ok rows =>
      have hkeyed := keyed_ensured t.keyed hens
      have hwrite : ((Except.ok rows : Except String _) >>= ConfigurationTable.write) =
          .ok ((), ⟨rows, hkeyed⟩) := write_of_keyed hkeyed
      rw [hwrite]
      unfold ensureConfigurationContent at hens
      split at hens
      · next row hfind =>
          rw [hfind]
          dsimp only
          split at hens
          · cases hens
          · next hsame =>
              rw [if_neg hsame]
              cases hens
              rfl
      · next hfind =>
          have hchecks : ¬(snapshot.revision ≤ 0 ∨ snapshot.schemaVersion ≤ 0) := by
            have := hvalid.revision
            have := hvalid.schemaVersion
            omega
          rw [hfind]
          dsimp only [ConfigurationTable.insertSnapshot]
          rw [if_neg hchecks]
          cases hens
          rw [write_of_keyed hkeyed]
          rfl

theorem activateConfigurationTx_refines (snapshot : ConfigurationSnapshot) :
    Refines (activateConfigurationTx snapshot) fun t =>
      (t.activateConfiguration snapshot).map fun t' => ((), t') := by
  unfold activateConfigurationTx
  split
  · next hfields =>
      refine (refines_fail _).of_eq fun t => ?_
      unfold ConfigurationTable.activateConfiguration
      rw [if_pos hfields]
      rfl
  · next hfields =>
      have hvalid : Activatable snapshot := by
        simp only [not_or, not_lt] at hfields
        exact ⟨hfields.1, hfields.2.1, hfields.2.2.1, hfields.2.2.2.1, hfields.2.2.2.2.1,
          hfields.2.2.2.2.2⟩
      refine Refines.of_eq (Commits.transaction _
        (Does.bindCommits (ensureConfigurationContentTx_does hvalid) fun _ =>
          Does.bindCommits (does_exec _ _) fun _ =>
            Does.bindCommits (does_exec _ _) fun _ =>
              Does.bindCommits (does_exec _ _) fun _ => commits_commit _)) fun t => ?_
      cases hactivate : t.activateConfiguration snapshot with
      | error e =>
        unfold ConfigurationTable.activateConfiguration at hactivate
        rw [if_neg hfields] at hactivate
        split at hactivate
        · next hens =>
            cases hactivate
            rw [hens]
            rfl
        · cases hactivate
      | ok t' =>
        unfold ConfigurationTable.activateConfiguration at hactivate
        rw [if_neg hfields] at hactivate
        split at hactivate
        · cases hactivate
        · next rows hens =>
            cases hactivate
            have hkeyed := keyed_ensured t.keyed hens
            have hmarked : Keyed (markActive snapshot rows) := Keyed.mark hkeyed.revision
            have hstart : (ensureConfigurationContent t.rows snapshot >>=
                ConfigurationTable.write) = .ok ((), ⟨rows, hkeyed⟩) := by
              rw [hens]
              exact write_of_keyed hkeyed
            rw [hstart]
            show ((ConfigurationTable.write (cleared rows)).mapError _ >>= _) = _
            rw [write_of_keyed (keyed_cleared hkeyed.revision)]
            show ((ConfigurationTable.write ((cleared rows).map fun row =>
              if row.revision = snapshot.revision then activated snapshot row else row)
                ).mapError _ >>= _) = _
            rw [activateRow_cleared, write_of_keyed hmarked]
            show ((ConfigurationTable.write (pruneRetired (markActive snapshot rows))
              ).mapError _ >>= _) = _
            rw [write_of_keyed hmarked.prune]
            rfl

/-- A call activates its snapshot, or returns an error and leaves the table as
it was. -/
theorem activation_cases (t : ConfigurationTable) (call : ActivationCall) :
    (∃ message, t.perform call = (.error message, t)) ∨ ∃ t', t.perform call = (.ok (), t') ∧
        t.activateConfiguration call.snapshot = .ok t' := by
  unfold ConfigurationTable.perform
  obtain ⟨message, c, hrun, hcommitted, -⟩ | ⟨_, c, hrun, heffect⟩ :=
    (activateConfigurationTx_refines call.snapshot).perform t call.failures
  · rw [hrun]
    dsimp only
    rw [hcommitted]
    exact .inl ⟨message, rfl⟩
  · rw [hrun]
    obtain ⟨t', ht', hpair⟩ := map_eq_ok.mp heffect
    cases hpair
    exact .inr ⟨c.committed, rfl, ht'⟩

theorem activation_ok (h : t.activateConfiguration snapshot = .ok t') :
    t.perform ⟨snapshot, []⟩ = (.ok (), t') := by
  unfold ConfigurationTable.perform
  obtain ⟨message, c, hrun, -, herror⟩ | ⟨_, c, hrun, heffect⟩ :=
    (activateConfigurationTx_refines snapshot).perform t []
  · have herror := herror rfl
    rw [h] at herror
    cases herror
  · rw [h] at heffect
    rw [hrun]
    cases heffect
    rfl

theorem activation_of_ok {call : ActivationCall} (h : (t.perform call).1 = .ok ()) :
    t.activateConfiguration call.snapshot = .ok (t.perform call).2 := by
  obtain ⟨message, hperform⟩ | ⟨t', hperform, hactivate⟩ := activation_cases t call
  · rw [hperform] at h
    cases h
  · rw [hperform]
    exact hactivate

/-! ## Runs -/

/-- Every row is validated. -/
def AllValidated (t : ConfigurationTable) : Prop :=
  ∀ row ∈ t.rows, row.validatedAt.isSome = true

theorem AllValidated.activated (h : AllValidated t)
    (hactivate : t.activateConfiguration snapshot = .ok t') : AllValidated t' := by
  intro row hrow
  rcases (mem_activated h hactivate).mp hrow with ⟨x, -, -, rfl⟩ | ⟨x, hx, -, rfl, -⟩
  · exact Option.isSome_iff_ne_none.mpr (activateConfiguration_eq_ok.mp hactivate).1.validatedAt
  · exact h x hx

theorem AllValidated.perform (h : AllValidated t) (call : ActivationCall) :
    AllValidated (t.perform call).2 := by
  obtain ⟨message, hperform⟩ | ⟨t', hperform, hactivate⟩ := activation_cases t call
  · rw [hperform]
    exact h
  · rw [hperform]
    exact h.activated hactivate

theorem allValidated_run {calls : List ActivationCall}
    (hrun : runSteps activationStep calls emptyTable = some t) : AllValidated t :=
  runSteps_preserves (fun h hstep => Option.some.inj hstep ▸ h.perform _)
    (fun _ hrow => absurd hrow List.not_mem_nil) hrun

/-- An inactive row after an activation. -/
theorem inactive_activated (h : AllValidated t)
    (hactivate : t.activateConfiguration snapshot = .ok t') :
    row ∈ t'.rows ∧ row.active = false ↔ Retained t snapshot.revision row := by
  rw [mem_activated h hactivate]
  constructor
  · rintro ⟨⟨x, -, -, rfl⟩ | hretained, hinactive⟩
    · cases hinactive
    · exact hretained
  · intro hretained
    obtain ⟨x, -, -, hrow, -⟩ := id hretained
    rw [hrow] at hretained ⊢
    exact ⟨.inr hretained, rfl⟩

theorem retained_unique {revision : ℤ} {r r' : ConfigurationSnapshot}
    (h : Retained t revision r) (h' : Retained t revision r') : r = r' := by
  obtain ⟨x, hx, hrev, rfl, hhighest⟩ := h
  obtain ⟨y, hy, hrev', rfl, hhighest'⟩ := h'
  have hsame : x.revision = y.revision :=
    le_antisymm (hhighest' x hx hrev) (hhighest y hy hrev')
  rw [List.inj_on_of_nodup_map t.keyed.revision hx hy hsame]

/-- The active row has the highest revision, and no revision is above the
bound. -/
structure Newest (t : ConfigurationTable) (bound : ℤ) : Prop where
  active : ∀ x ∈ t.rows, x.active = true → ∀ y ∈ t.rows, y.revision ≤ x.revision
  exists_active : t.rows ≠ [] → ∃ x ∈ t.rows, x.active = true
  bound : ∀ x ∈ t.rows, x.revision ≤ bound

theorem Newest.perform {bound : ℤ} (h : Newest t bound) (hvalidated : AllValidated t)
    {call : ActivationCall} (hless : bound < call.snapshot.revision) :
    Newest (t.perform call).2 call.snapshot.revision := by
  obtain ⟨message, hperform⟩ | ⟨t', hperform, hactivate⟩ := activation_cases t call
  · rw [hperform]
    exact ⟨h.active, h.exists_active, fun x hx => (h.bound x hx).trans hless.le⟩
  · rw [hperform]
    have hbound : ∀ x ∈ t'.rows, x.revision ≤ call.snapshot.revision := by
      intro x hx
      rcases (mem_activated hvalidated hactivate).mp hx with ⟨y, -, hrev, rfl⟩ |
        ⟨y, hy, -, rfl, -⟩
      · exact hrev.le
      · exact (h.bound y hy).trans hless.le
    refine ⟨fun x hx hact y hy => ?_, fun _ => ?_, hbound⟩
    · rcases (mem_activated hvalidated hactivate).mp hx with ⟨z, -, hrev, rfl⟩ |
        ⟨z, hz, -, rfl, -⟩
      · exact (hbound y hy).trans hrev.ge
      · cases hact
    · obtain ⟨x, hx, hrev⟩ := exists_ensured t.rows call.snapshot
      exact ⟨activated call.snapshot x,
        (mem_activated hvalidated hactivate).mpr (.inl ⟨x, hx, hrev, rfl⟩), rfl⟩

theorem newest_run {calls : List ActivationCall} {bound : ℤ} (h : Newest t bound)
    (hvalidated : AllValidated t)
    (hincreasing : calls.Pairwise fun a b => a.snapshot.revision < b.snapshot.revision)
    (hbound : ∀ call ∈ calls, bound < call.snapshot.revision)
    (hrun : runSteps activationStep calls t = some t') :
    ∃ bound', Newest t' bound' ∧ ∀ revision, bound < revision →
      (∀ call ∈ calls, call.snapshot.revision < revision) → bound' < revision := by
  induction calls generalizing t bound with
  | nil =>
    cases hrun
    exact ⟨bound, h, fun revision hless _ => hless⟩
  | cons call calls ih =>
    obtain ⟨u, hstep, hrest⟩ := runSteps_cons.mp hrun
    obtain rfl := Option.some.inj hstep
    obtain ⟨hfirst, hincreasing⟩ := List.pairwise_cons.mp hincreasing
    obtain ⟨bound', hnewest, hless⟩ := ih
      (h.perform hvalidated (hbound call List.mem_cons_self)) (hvalidated.perform call)
      hincreasing hfirst hrest
    refine ⟨bound', hnewest, fun revision _ hall => hless revision ?_ ?_⟩
    · exact hall call List.mem_cons_self
    · exact fun c hc => hall c (List.mem_cons_of_mem call hc)

theorem exists_below (l : List ℤ) : ∃ bound, ∀ x ∈ l, bound < x := by
  induction l with
  | nil => exact ⟨0, by simp⟩
  | cons x l ih =>
    obtain ⟨bound, hbound⟩ := ih
    refine ⟨min bound (x - 1), List.forall_mem_cons.mpr ⟨by omega, fun y hy => ?_⟩⟩
    have := hbound y hy
    omega

/-- With increasing revisions the active row is the one that is left. -/
theorem retained_of_increasing {calls : List ActivationCall} {call : ActivationCall}
    (hrun : runSteps activationStep calls emptyTable = some t)
    (hincreasing : (calls ++ [call]).Pairwise fun a b =>
      a.snapshot.revision < b.snapshot.revision) : Retained t call.snapshot.revision row ↔
      ∃ x ∈ t.rows, x.active = true ∧ row = { x with active := false } := by
  obtain ⟨hcalls, -, hlast⟩ := List.pairwise_append.mp hincreasing
  obtain ⟨bound, hbound⟩ := exists_below
    ((calls ++ [call]).map fun c => c.snapshot.revision)
  have hbelow : ∀ c ∈ calls ++ [call], bound < c.snapshot.revision :=
    fun c hc => hbound _ (List.mem_map_of_mem hc)
  have hempty : Newest emptyTable bound :=
    ⟨fun _ hx => absurd hx List.not_mem_nil, fun h => absurd rfl h,
      fun _ hx => absurd hx List.not_mem_nil⟩
  obtain ⟨bound', hnewest, hless⟩ := newest_run hempty
    (fun _ hx => absurd hx List.not_mem_nil) hcalls
    (fun c hc => hbelow c (List.mem_append_left _ hc)) hrun
  have hnew : bound' < call.snapshot.revision :=
    hless _ (hbelow call (by simp)) fun c hc => hlast c hc call (List.mem_singleton.mpr rfl)
  have hother : ∀ x ∈ t.rows, x.revision ≠ call.snapshot.revision := by
    intro x hx
    have := hnewest.bound x hx
    omega
  constructor
  · rintro ⟨x, hx, -, rfl, hhighest⟩
    obtain ⟨y, hy, hact⟩ := hnewest.exists_active (List.ne_nil_of_mem hx)
    have hsame : x.revision = y.revision :=
      le_antisymm (hnewest.active y hy hact x hx) (hhighest y hy (hother y hy))
    obtain rfl := List.inj_on_of_nodup_map t.keyed.revision hx hy hsame
    exact ⟨x, hx, hact, rfl⟩
  · rintro ⟨x, hx, hact, rfl⟩
    exact ⟨x, hx, hother x hx, rfl, fun y hy _ => hnewest.active x hx hact y hy⟩

/-- For every sequence of calls from an empty table, and one more: after a
success exactly one row is active, with the given revision and content, and of
the others the one with the highest revision is left; a revision that is stored
with other content is refused; the active revision stays active when it is
activated again; and with increasing revisions the row that is left is the one
that was active. -/
theorem configuration_activations (calls : List ActivationCall) (t : ConfigurationTable)
    (hrun : runSteps activationStep calls emptyTable = some t) (call : ActivationCall) :
    ((t.perform call).1 = .ok () → (∃ row ∈ (t.perform call).2.rows, row.active = true ∧
        row.revision = call.snapshot.revision ∧ SameContent row call.snapshot ∧
        ∀ r ∈ (t.perform call).2.rows, r.active = true → r = row) ∧
      (∀ r ∈ (t.perform call).2.rows, ∀ r' ∈ (t.perform call).2.rows,
        r.active = false → r'.active = false → r = r') ∧
      ∀ r, r ∈ (t.perform call).2.rows ∧ r.active = false ↔ Retained t call.snapshot.revision r) ∧
    (∀ row ∈ t.rows, row.revision = call.snapshot.revision →
      ¬SameContent row call.snapshot → ∃ message, t.perform call = (.error message, t)) ∧
    (∀ row ∈ t.rows, row.active = true → row.revision = call.snapshot.revision →
      SameContent row call.snapshot → (∃ row' ∈ (t.perform call).2.rows, row'.active = true ∧
        row'.revision = row.revision ∧ SameContent row' row) ∧
      (Activatable call.snapshot → call.failures = [] → (t.perform call).1 = .ok ())) ∧
    ((calls ++ [call]).Pairwise (fun a b => a.snapshot.revision < b.snapshot.revision) →
      (t.perform call).1 = .ok () → ∀ r, r ∈ (t.perform call).2.rows ∧ r.active = false ↔
        ∃ x ∈ t.rows, x.active = true ∧ r = { x with active := false }) := by
  have hvalidated := allValidated_run hrun
  refine ⟨fun hok => ?_, fun row hrow hrev hother => ?_, fun row hrow hact hrev hsame => ?_,
    fun hincreasing hok r => ?_⟩
  · have hactivate := activation_of_ok hok
    obtain ⟨-, hcontent, -⟩ := activateConfiguration_eq_ok.mp hactivate
    refine ⟨?_, fun r hr r' hr' hinactive hinactive' => ?_,
      fun r => inactive_activated hvalidated hactivate⟩
    · obtain ⟨x, hx, hrev⟩ := exists_ensured t.rows call.snapshot
      have hmem := (mem_activated hvalidated hactivate).mpr (.inl ⟨x, hx, hrev, rfl⟩)
      have hsame := sameContent_ensured hcontent hx hrev
      refine ⟨activated call.snapshot x, hmem, rfl, hrev, hsame, fun r hr hact => ?_⟩
      exact List.inj_on_of_nodup_map (t.perform call).2.keyed.revision hr hmem
        ((t.perform call).2.keyed.active r hr _ hmem hact rfl)
    · exact retained_unique
        ((inactive_activated hvalidated hactivate).mp ⟨hr, hinactive⟩)
        ((inactive_activated hvalidated hactivate).mp ⟨hr', hinactive'⟩)
  · obtain herror | ⟨t', -, hactivate⟩ := activation_cases t call
    · exact herror
    · exact absurd ((activateConfiguration_eq_ok.mp hactivate).2.1 row hrow hrev) hother
  · constructor
    · obtain ⟨message, hperform⟩ | ⟨t', hperform, hactivate⟩ := activation_cases t call
      · rw [hperform]
        exact ⟨row, hrow, hact, rfl, rfl, rfl⟩
      · rw [hperform]
        exact ⟨activated call.snapshot row, (mem_activated hvalidated hactivate).mpr
          (.inl ⟨row, mem_ensured.mpr (.inl hrow), hrev, rfl⟩), rfl, rfl, rfl, rfl⟩
    · intro hvalid hfailures
      have hcontent : ∀ r ∈ t.rows, r.revision = call.snapshot.revision →
          SameContent r call.snapshot := by
        intro r hr hrrev
        rw [List.inj_on_of_nodup_map t.keyed.revision hr hrow (hrrev.trans hrev.symm)]
        exact hsame
      cases hactivate : t.activateConfiguration call.snapshot with
      | error e =>
        unfold ConfigurationTable.activateConfiguration at hactivate
        split at hactivate
        · next hfields =>
            have := hvalid.revision
            have := hvalid.schemaVersion
            exact absurd hfields (by simp [hvalid.contentHash, hvalid.payload,
              hvalid.validatedAt, hvalid.activatedAt]; omega)
        · split at hactivate
          · next hens =>
              rw [(ensureConfigurationContent_eq_ok t.keyed.revision).mpr
                ⟨hcontent, rfl⟩] at hens
              cases hens
          · cases hactivate
      | ok t' =>
        obtain ⟨snapshot, failures⟩ := call
        obtain rfl : failures = [] := hfailures
        rw [activation_ok hactivate]
  · rw [inactive_activated hvalidated (activation_of_ok hok)]
    exact retained_of_increasing hrun hincreasing

/-- A snapshot of a revision. -/
def snapshotOf (revision : ℤ) : ConfigurationSnapshot where
  revision := revision
  contentHash := ['a']
  schemaVersion := 1
  canonicalPayload := .null
  downloadedAt := 0
  validatedAt := some 0
  activatedAt := some 0
  active := false

/-- Three activations: the second snapshot is left next to the third. -/
theorem configuration_activations_three :
    ∃ t, runSteps activationStep [⟨snapshotOf 1, []⟩, ⟨snapshotOf 2, []⟩] emptyTable = some t ∧
      (t.perform ⟨snapshotOf 3, []⟩).1 = .ok () ∧
      (∃ r ∈ (t.perform ⟨snapshotOf 3, []⟩).2.rows, r.active = false ∧ r.revision = 2) := by
  obtain ⟨t, hrun, hok, x, hx, hact, hrev⟩ : ∃ t,
      runSteps activationStep [⟨snapshotOf 1, []⟩, ⟨snapshotOf 2, []⟩] emptyTable = some t ∧
      (t.perform ⟨snapshotOf 3, []⟩).1 = .ok () ∧ ∃ x ∈ t.rows, x.active = true ∧ x.revision = 2 :=
    ⟨_, rfl, rfl, activated (snapshotOf 2) (snapshotOf 2), .tail _ (.head _), rfl, rfl⟩
  obtain ⟨-, -, -, hincreasing⟩ := configuration_activations _ t hrun ⟨snapshotOf 3, []⟩
  have hkept := (hincreasing (by decide) hok { x with active := false }).mpr ⟨x, hx, hact, rfl⟩
  exact ⟨t, hrun, hok, _, hkept.1, rfl, hrev⟩

end Bifrostnms.Proofs
