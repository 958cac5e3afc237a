import Bifrostnms.Agent.Configuration

/-!
# What an activation leaves in the table

An activation succeeds if its fields are there and the revision is not stored
with another content (`activateConfiguration_eq_ok`). The table then has the row
of the revision, active, and of the rows with other revisions the one with the
highest (`mem_activated`).
-/

namespace Bifrostnms.Proofs

open Bifrostnms.Lib Bifrostnms.Agent

theorem find?_active {rows : List ConfigurationSnapshot}
    {row : ConfigurationSnapshot} (h : Keyed rows) (hrow : row ∈ rows)
    (hact : row.active = true) : rows.find? (fun r => r.active) = some row := by
  cases hfind : rows.find? fun r => r.active with
  | none => exact absurd hact (List.find?_eq_none.mp hfind row hrow)
  | some found =>
    have hmem := List.mem_of_find?_eq_some hfind
    have hfound : found.active = true := List.find?_some hfind
    have hrev := h.active found hmem row hrow hfound hact
    rw [List.inj_on_of_nodup_map h.revision hmem hrow hrev]

def emptyTable : ConfigurationTable := ⟨[], List.nodup_nil, by simp⟩

/-- What `ActivateConfiguration` asks of a snapshot. -/
structure Activatable (snapshot : ConfigurationSnapshot) : Prop where
  revision : 1 ≤ snapshot.revision
  contentHash : snapshot.contentHash ≠ []
  payload : snapshot.payloadBytes ≠ []
  schemaVersion : 1 ≤ snapshot.schemaVersion
  validatedAt : snapshot.validatedAt ≠ none
  activatedAt : snapshot.activatedAt ≠ none

/-- What `ensureConfigurationContent` compares. -/
def SameContent (a b : ConfigurationSnapshot) : Prop :=
  a.contentHash = b.contentHash ∧ a.payloadBytes = b.payloadBytes

theorem payload_of_bytes {a b : ConfigurationSnapshot} (h : a.payloadBytes = b.payloadBytes) :
    a.canonicalPayload = b.canonicalPayload :=
  JsonText.textEncoder_inj (utf8_inj.mp h)

/-- A snapshot as it is inserted. -/
def inserted (snapshot : ConfigurationSnapshot) : ConfigurationSnapshot :=
  { snapshot with validatedAt := none, activatedAt := none, active := false }

/-- The rows, with one for the revision. -/
def ensured (rows : List ConfigurationSnapshot) (snapshot : ConfigurationSnapshot) :
    List ConfigurationSnapshot :=
  if ∃ row ∈ rows, row.revision = snapshot.revision then rows
  else rows ++ [inserted snapshot]

/-- The row of the revision after an activation. -/
def activated (snapshot row : ConfigurationSnapshot) : ConfigurationSnapshot :=
  { row with
    validatedAt := snapshot.validatedAt
    activatedAt := snapshot.activatedAt
    active := true }

variable {t t' : ConfigurationTable} {rows rows' : List ConfigurationSnapshot}
  {snapshot row : ConfigurationSnapshot}

theorem find?_revision (h : (rows.map ConfigurationSnapshot.revision).Nodup)
    (hrow : row ∈ rows) (hrev : row.revision = snapshot.revision) :
    rows.find? (fun r => r.revision == snapshot.revision) = some row := by
  cases hfind : rows.find? fun r => r.revision == snapshot.revision with
  | none => exact absurd (beq_iff_eq.mpr hrev) (List.find?_eq_none.mp hfind row hrow)
  | some found =>
    have hbeq := List.find?_some hfind
    have hfound : found.revision = snapshot.revision := beq_iff_eq.mp hbeq
    rw [List.inj_on_of_nodup_map h (List.mem_of_find?_eq_some hfind) hrow
      (hfound.trans hrev.symm)]

theorem ensureConfigurationContent_eq_ok
    (h : (rows.map ConfigurationSnapshot.revision).Nodup) :
    ensureConfigurationContent rows snapshot = .ok rows' ↔
      (∀ row ∈ rows, row.revision = snapshot.revision → SameContent row snapshot) ∧
        rows' = ensured rows snapshot := by
  unfold ensureConfigurationContent ensured
  by_cases hstored : ∃ row ∈ rows, row.revision = snapshot.revision
  · rw [if_pos hstored]
    obtain ⟨row, hrow, hrev⟩ := hstored
    rw [find?_revision h hrow hrev]
    dsimp only
    split
    · next hother =>
        refine ⟨(fun h => by cases h), fun ⟨hsame, _⟩ => ?_⟩
        obtain ⟨hhash, hpayload⟩ := hsame row hrow hrev
        rcases hother with hother | hother
        · exact absurd hhash hother
        · exact absurd hpayload hother
    · next hsame =>
        rw [not_or, not_not, not_not] at hsame
        constructor
        · intro hok
          refine ⟨fun r hr hrev' => ?_, (Except.ok.inj hok).symm⟩
          rw [List.inj_on_of_nodup_map h hr hrow (hrev'.trans hrev.symm)]
          exact hsame
        · rintro ⟨-, rfl⟩
          rfl
  · rw [if_neg hstored]
    have hnone : rows.find? (fun r => r.revision == snapshot.revision) = none :=
      List.find?_eq_none.mpr fun row hrow hrev => hstored ⟨row, hrow, beq_iff_eq.mp hrev⟩
    rw [hnone]
    constructor
    · intro hok
      exact ⟨fun row hrow hrev => absurd ⟨row, hrow, hrev⟩ hstored, (Except.ok.inj hok).symm⟩
    · rintro ⟨-, rfl⟩
      rfl

theorem activateConfiguration_eq_ok : t.activateConfiguration snapshot = .ok t' ↔
    Activatable snapshot ∧
      (∀ row ∈ t.rows, row.revision = snapshot.revision → SameContent row snapshot) ∧
      t'.rows = pruneRetired (markActive snapshot (ensured t.rows snapshot)) := by
  unfold ConfigurationTable.activateConfiguration
  split
  · next hfields =>
      refine ⟨(fun h => by cases h), fun ⟨h, _⟩ => ?_⟩
      obtain ⟨h1, h2, h3, h4, h5, h6⟩ := h
      rcases hfields with h | h | h | h | h | h
      · omega
      · exact absurd h h2
      · exact absurd h h3
      · omega
      · exact absurd h h5
      · exact absurd h h6
  · next hfields =>
      simp only [not_or, not_lt] at hfields
      have hvalid : Activatable snapshot := ⟨hfields.1, hfields.2.1, hfields.2.2.1,
        hfields.2.2.2.1, hfields.2.2.2.2.1, hfields.2.2.2.2.2⟩
      split
      · next hens =>
          refine ⟨(fun h => by cases h), fun ⟨_, hsame, _⟩ => ?_⟩
          rw [(ensureConfigurationContent_eq_ok t.keyed.revision).mpr ⟨hsame, rfl⟩] at hens
          cases hens
      · next rows hens =>
          obtain ⟨hsame, rfl⟩ :=
            (ensureConfigurationContent_eq_ok t.keyed.revision).mp hens
          constructor
          · intro h
            cases h
            exact ⟨hvalid, hsame, rfl⟩
          · rintro ⟨-, -, hrows⟩
            cases t'
            cases hrows
            rfl

theorem mem_ensured : row ∈ ensured t.rows snapshot ↔ row ∈ t.rows ∨
    (∀ r ∈ t.rows, r.revision ≠ snapshot.revision) ∧ row = inserted snapshot := by
  unfold ensured
  split
  · next hstored =>
      obtain ⟨r, hr, hrev⟩ := hstored
      exact ⟨.inl, fun h => h.resolve_right fun h => h.1 r hr hrev⟩
  · next hnone =>
      rw [List.mem_append, List.mem_singleton]
      refine or_congr_right ⟨fun h => ⟨fun r hr hrev => hnone ⟨r, hr, hrev⟩, h⟩, fun h => h.2⟩

theorem exists_ensured (rows : List ConfigurationSnapshot) (snapshot : ConfigurationSnapshot) :
    ∃ row ∈ ensured rows snapshot, row.revision = snapshot.revision := by
  unfold ensured
  split
  · assumption
  · exact ⟨inserted snapshot, List.mem_append_right _ (List.mem_singleton.mpr rfl), rfl⟩

/-- The row is the one with the highest revision of those with another one. -/
def Retained (t : ConfigurationTable) (revision : ℤ) (row : ConfigurationSnapshot) : Prop :=
  ∃ x ∈ t.rows, x.revision ≠ revision ∧ row = { x with active := false } ∧
    ∀ y ∈ t.rows, y.revision ≠ revision → y.revision ≤ x.revision

theorem mem_markActive_iff : row ∈ markActive snapshot rows ↔
    (∃ x ∈ rows, x.revision = snapshot.revision ∧ row = activated snapshot x) ∨
      ∃ x ∈ rows, x.revision ≠ snapshot.revision ∧ row = { x with active := false } := by
  unfold markActive
  rw [List.mem_map]
  constructor
  · rintro ⟨x, hx, rfl⟩
    by_cases hrev : x.revision = snapshot.revision
    · rw [if_pos hrev]
      exact .inl ⟨x, hx, hrev, rfl⟩
    · rw [if_neg hrev]
      exact .inr ⟨x, hx, hrev, rfl⟩
  · rintro (⟨x, hx, hrev, rfl⟩ | ⟨x, hx, hrev, rfl⟩)
    · exact ⟨x, hx, if_pos hrev⟩
    · exact ⟨x, hx, if_neg hrev⟩

/-- An activated row is not among those that may be deleted. -/
theorem retired_markActive (hvalidated : ∀ x ∈ rows, x.revision ≠ snapshot.revision →
      x.validatedAt.isSome = true) (hrow : row ∈ markActive snapshot rows) :
    retired row = true ↔ row.revision ≠ snapshot.revision := by
  rcases mem_markActive_iff.mp hrow with ⟨x, hx, hrev, rfl⟩ | ⟨x, hx, hrev, rfl⟩
  · exact iff_of_false Bool.false_ne_true (fun h => h hrev)
  · exact iff_of_true (hvalidated x hx hrev) hrev

/-- The rows after an activation. -/
theorem mem_activated (hvalidated : ∀ x ∈ t.rows, x.validatedAt.isSome = true)
    (h : t.activateConfiguration snapshot = .ok t') : row ∈ t'.rows ↔
      (∃ x ∈ ensured t.rows snapshot, x.revision = snapshot.revision ∧
        row = activated snapshot x) ∨ Retained t snapshot.revision row := by
  obtain ⟨-, -, hrows⟩ := activateConfiguration_eq_ok.mp h
  have hother : ∀ x ∈ ensured t.rows snapshot, x.revision ≠ snapshot.revision → x ∈ t.rows := by
    intro x hx hrev
    rcases mem_ensured.mp hx with hx | ⟨-, rfl⟩
    · exact hx
    · exact absurd rfl hrev
  have hretired : ∀ {r}, r ∈ markActive snapshot (ensured t.rows snapshot) →
      (retired r = true ↔ r.revision ≠ snapshot.revision) :=
    retired_markActive fun x hx hrev => hvalidated x (hother x hx hrev)
  rw [hrows, pruneRetired, List.mem_filter, Bool.or_eq_true, Bool.not_eq_true', beq_iff_eq]
  constructor
  · rintro ⟨hmark, hkept⟩
    rcases mem_markActive_iff.mp hmark with hactive | ⟨x, hx, hrev, rfl⟩
    · exact .inl hactive
    · have hret : retired { x with active := false } = true := (hretired hmark).mpr hrev
      rw [hret] at hkept
      have hnewest := hkept.resolve_left Bool.noConfusion
      rw [List.max?_eq_some_iff] at hnewest
      refine .inr ⟨x, hother x hx hrev, hrev, rfl, fun y hy hyrev => ?_⟩
      have hmarked : { y with active := false } ∈ markActive snapshot (ensured t.rows snapshot) :=
        mem_markActive_iff.mpr (.inr ⟨y, mem_ensured.mpr (.inl hy), hyrev, rfl⟩)
      exact hnewest.2 y.revision (List.mem_map.mpr ⟨_, List.mem_filter.mpr
        ⟨hmarked, (hretired hmarked).mpr hyrev⟩, rfl⟩)
  · rintro (⟨x, hx, hrev, rfl⟩ | ⟨x, hx, hrev, rfl, hhighest⟩)
    · exact ⟨mem_markActive_iff.mpr (.inl ⟨x, hx, hrev, rfl⟩), .inl rfl⟩
    · have hmarked : { x with active := false } ∈ markActive snapshot (ensured t.rows snapshot) :=
        mem_markActive_iff.mpr (.inr ⟨x, mem_ensured.mpr (.inl hx), hrev, rfl⟩)
      refine ⟨hmarked, .inr ?_⟩
      rw [List.max?_eq_some_iff]
      refine ⟨List.mem_map.mpr ⟨_, List.mem_filter.mpr
        ⟨hmarked, (hretired hmarked).mpr hrev⟩, rfl⟩, fun revision hmem => ?_⟩
      obtain ⟨r, hr, rfl⟩ := List.mem_map.mp hmem
      obtain ⟨hr, hret⟩ := List.mem_filter.mp hr
      have hrrev := (hretired hr).mp hret
      rcases mem_markActive_iff.mp hr with ⟨y, -, hy, rfl⟩ | ⟨y, hy, hyrev, rfl⟩
      · exact absurd hy hrrev
      · exact hhighest y (hother y hy hyrev) hyrev

/-- The content under the revision is the one that is activated. -/
theorem sameContent_ensured
    (hsame : ∀ row ∈ t.rows, row.revision = snapshot.revision → SameContent row snapshot)
    {x : ConfigurationSnapshot} (hx : x ∈ ensured t.rows snapshot)
    (hrev : x.revision = snapshot.revision) : SameContent x snapshot := by
  rcases mem_ensured.mp hx with hx | ⟨-, rfl⟩
  · exact hsame x hx hrev
  · exact ⟨rfl, rfl⟩

/-- After a successful activation the active row has the revision and the
payload that were given. -/
theorem activateConfiguration_active (h : t.activateConfiguration snapshot = .ok t') :
    ∃ row, t'.activeConfiguration = some row ∧ row.revision = snapshot.revision ∧
      row.canonicalPayload = snapshot.canonicalPayload := by
  obtain ⟨-, hsame, hrows⟩ := activateConfiguration_eq_ok.mp h
  obtain ⟨x, hx, hrev⟩ := exists_ensured t.rows snapshot
  refine ⟨activated snapshot x, find?_active t'.keyed ?_ rfl, hrev,
    payload_of_bytes (sameContent_ensured hsame hx hrev).2⟩
  rw [hrows]
  exact List.mem_filter.mpr ⟨mem_markActive_iff.mpr (.inl ⟨x, hx, hrev, rfl⟩), rfl⟩

/-- A revision is never activated with another payload than its row has. -/
theorem payload_of_activateConfiguration
    (h : t.activateConfiguration snapshot = .ok t') (hrow : row ∈ t.rows)
    (hrev : row.revision = snapshot.revision) : row.canonicalPayload = snapshot.canonicalPayload :=
  payload_of_bytes ((activateConfiguration_eq_ok.mp h).2.1 row hrow hrev).2

end Bifrostnms.Proofs
