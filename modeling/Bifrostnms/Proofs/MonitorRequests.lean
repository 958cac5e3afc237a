import Bifrostnms.Backend.MonitorRequests
import Bifrostnms.Proofs.DesiredRevision
import Bifrostnms.Proofs.ProbeConfiguration

/-!
# Which rejections become a response

What the validators of a schema raise comes out as a `ValidationError`, and the schedule
has an exception of its own; the handlers catch both. Two checks are made after the schema
and raise a plain `ValueError`, which no handler catches: body assertions of an HTTP monitor
with `HEAD`, and an ICMP sequence that does not fit into the timeout. So a rejection is
answered with 422 exactly if the configuration passes these two, or does not get there
(`rejections_handled_iff`).
-/

namespace Bifrostnms.Proofs

open Bifrostnms.Lib Bifrostnms.Backend

/-! ## The exceptions of the validators -/

/-- The error comes out as a `ValidationError`. -/
def wrapped : ConfigurationError → Bool
  | .plain _ => false
  | _ => true

/-- All errors of a check come out as a `ValidationError`. -/
abbrev Wrapped {α : Type} (x : Except ConfigurationError α) : Prop :=
  FailsWith (fun e => wrapped e = true) x

theorem wrapped_require {error : ConfigurationError} (h : wrapped error = true) (ok : Bool) :
    Wrapped (require error ok) := by
  intro e he
  unfold require at he
  split at he
  · cases he
  · cases he
    exact h

theorem wrapped_between (name : String) (low high n : ℤ) : Wrapped (between name low high n) :=
  wrapped_require rfl _

theorem wrapped_lengthBetween (name : String) (low high n : ℕ) :
    Wrapped (lengthBetween name low high n) :=
  wrapped_require rfl _

theorem wrapped_icmp (c : IcmpProbeConfiguration) : Wrapped c.validate := by
  unfold IcmpProbeConfiguration.validate
  refine .bind (wrapped_between _ _ _ _) fun _ => ?_
  refine .bind (wrapped_between _ _ _ _) fun _ => ?_
  refine .bind (.optionForM (fun _ => wrapped_between _ _ _ _) _) fun _ => ?_
  refine .bind (wrapped_between _ _ _ _) fun _ => ?_
  refine .bind (.optionForM (fun _ => wrapped_require rfl _) _) fun _ => ?_
  refine .bind (.optionForM (fun _ => wrapped_require rfl _) _) fun _ => ?_
  exact .pure c

theorem wrapped_validateRequestHeader (header : String × String) :
    Wrapped (validateRequestHeader header) := by
  unfold validateRequestHeader
  refine .bind (wrapped_require rfl _) fun _ => ?_
  refine .bind (wrapped_require rfl _) fun _ => ?_
  exact wrapped_require rfl _

theorem wrapped_headerAssertion (a : HttpHeaderAssertion) : Wrapped a.validate := by
  unfold HttpHeaderAssertion.validate
  refine .bind (wrapped_lengthBetween _ _ _ _) fun _ => ?_
  refine .bind (wrapped_require rfl _) fun _ => ?_
  refine .bind (wrapped_lengthBetween _ _ _ _) fun _ => ?_
  exact wrapped_require rfl _

theorem wrapped_http (c : HttpProbeConfiguration) : Wrapped c.validate := by
  unfold HttpProbeConfiguration.validate
  refine .bind (.optionForM (fun _ => wrapped_between _ _ _ _) _) fun _ => ?_
  refine .bind (wrapped_lengthBetween _ _ _ _) fun _ => ?_
  refine .bind (wrapped_require rfl _) fun _ => ?_
  refine .bind (wrapped_require rfl _) fun _ => ?_
  refine .bind (wrapped_between _ _ _ _) fun _ => ?_
  refine .bind (.optionForM (fun _ => .bind (wrapped_lengthBetween _ _ _ _)
    fun _ => wrapped_require rfl _) _) fun _ => ?_
  refine .bind (.forM (fun _ => .bind (wrapped_lengthBetween _ _ _ _)
    fun _ => wrapped_lengthBetween _ _ _ _) _) fun _ => ?_
  refine .bind (wrapped_lengthBetween _ _ _ _) fun _ => ?_
  refine .bind (.forM wrapped_validateRequestHeader _) fun _ => ?_
  refine .bind (wrapped_lengthBetween _ _ _ _) fun _ => ?_
  refine .bind (wrapped_require rfl _) fun _ => ?_
  refine .bind (wrapped_require rfl _) fun _ => ?_
  refine .bind (.forM wrapped_headerAssertion _) fun _ => ?_
  refine .bind (wrapped_lengthBetween _ _ _ _) fun _ => ?_
  refine .bind (.forM (fun _ => wrapped_lengthBetween _ _ _ _) _) fun _ => ?_
  refine .bind (wrapped_lengthBetween _ _ _ _) fun _ => ?_
  refine .bind (wrapped_require rfl _) fun _ => ?_
  refine .bind (wrapped_between _ _ _ _) fun _ => ?_
  exact .pure c

theorem wrapped_tcp (c : TcpProbeConfiguration) : Wrapped c.validate := by
  unfold TcpProbeConfiguration.validate
  exact .bind (wrapped_between _ _ _ _) fun _ => .pure c

theorem wrapped_validateResolverAddress (txt : PyText) (mode : ResolverMode)
    (value : Option String) : Wrapped (validateResolverAddress txt mode value) := by
  intro e he
  unfold validateResolverAddress at he
  split at he
  · cases he
    rfl
  · exact wrapped_require rfl _ e he
  · cases he
    rfl
  · cases he

theorem wrapped_normalizeQueryName (txt : PyText) (value : String) :
    Wrapped (normalizeQueryName txt value) := by
  unfold normalizeQueryName
  exact .bind (wrapped_require rfl _) fun _ => .pure _

theorem wrapped_dns (txt : PyText) (c : DnsProbeConfiguration) : Wrapped (c.validate txt) := by
  unfold DnsProbeConfiguration.validate
  refine .bind (.optionForM (fun _ => wrapped_lengthBetween _ _ _ _) _) fun _ => ?_
  refine .bind (wrapped_validateResolverAddress txt _ _) fun _ => ?_
  refine .bind (wrapped_between _ _ _ _) fun _ => ?_
  refine .bind (wrapped_require rfl _) fun _ => ?_
  refine .bind (.optionForM (fun _ => wrapped_lengthBetween _ _ _ _) _) fun _ => ?_
  refine .bind (.optionMapM (wrapped_normalizeQueryName txt) _) fun _ => ?_
  refine .bind (wrapped_lengthBetween _ _ _ _) fun _ => ?_
  refine .bind (wrapped_require rfl _) fun _ => ?_
  refine .bind (wrapped_require rfl _) fun _ => ?_
  refine .bind (.forM (fun _ => .bind (wrapped_lengthBetween _ _ _ _)
    fun _ => wrapped_require rfl _) _) fun _ => ?_
  refine .bind (wrapped_lengthBetween _ _ _ _) fun _ => ?_
  exact .pure _

theorem wrapped_normalizeServerName (txt : PyText) (value : String) :
    Wrapped (normalizeServerName txt value) := by
  unfold normalizeServerName
  refine .bind (wrapped_require rfl _) fun _ => ?_
  exact .bind (wrapped_require rfl _) fun _ => .pure _

theorem wrapped_tls (txt : PyText) (c : TlsProbeConfiguration) : Wrapped (c.validate txt) := by
  unfold TlsProbeConfiguration.validate
  refine .bind (wrapped_between _ _ _ _) fun _ => ?_
  refine .bind (.optionForM (fun _ => wrapped_lengthBetween _ _ _ _) _) fun _ => ?_
  refine .bind (.optionMapM (wrapped_normalizeServerName txt) _) fun _ => ?_
  refine .bind (wrapped_between _ _ _ _) fun _ => ?_
  exact .pure _

/-! ## The checks after a schema -/

/-- `validate_python`, of fields that were read. -/
def validateSchema (txt : PyText) :
    TypedProbeConfiguration → Except ConfigurationError TypedProbeConfiguration
  | .icmp c => .icmp <$> c.validate
  | .http c => .http <$> c.validate
  | .tcp c => .tcp <$> c.validate
  | .dns c => .dns <$> c.validate txt
  | .tls c => .tls <$> c.validate txt

theorem wrapped_validateSchema (txt : PyText) (c : TypedProbeConfiguration) :
    Wrapped (validateSchema txt c) := by
  have hmap : ∀ {α : Type} {x : Except ConfigurationError α}
      (f : α → TypedProbeConfiguration), Wrapped x → Wrapped (f <$> x) := by
    intro α x f hx
    cases x with
    | error e => exact fun e' he => by cases he; exact hx e rfl
    | ok a => exact .pure (f a)
  cases c with
  | icmp c => exact hmap _ (wrapped_icmp c)
  | http c => exact hmap _ (wrapped_http c)
  | tcp c => exact hmap _ (wrapped_tcp c)
  | dns c => exact hmap _ (wrapped_dns txt c)
  | tls c => exact hmap _ (wrapped_tls txt c)

/-- An HTTP configuration with `HEAD` has no body assertions, and the packets of an ICMP
configuration fit into the timeout. -/
def passesLater (seconds : ℤ) : TypedProbeConfiguration → Bool
  | .http c => !(c.method == .head && !c.expectedBodyContains.isEmpty)
  | .icmp c => 1 ≤ availableMs c seconds ∧ packetTimeoutMs c seconds ≤ availableMs c seconds
  | _ => true

/-- What `serialize_probe_configuration` does with a configuration that its schema accepts. -/
def serializeLater (seconds : ℤ) :
    TypedProbeConfiguration → Except ConfigurationError (Json JsonNum)
  | .icmp c => (fun c => (TypedProbeConfiguration.icmp c).modelDump) <$> c.materialize seconds
  | .http c => do
      require (.plain "HTTP HEAD monitors cannot contain body assertions")
        (passesLater seconds (.http c))
      return (TypedProbeConfiguration.http c).modelDump
  | c => .ok c.modelDump

theorem serializeProbeConfiguration_eq (txt : PyText) (c : TypedProbeConfiguration) (seconds : ℤ) :
    serializeProbeConfiguration txt c (some seconds) =
      validateSchema txt c >>= serializeLater seconds := by
  rw [serializeProbeConfiguration]
  cases c with
  | icmp c =>
    rw [validateProbeConfiguration, validateSchema]
    cases c.validate with
    | error e => rfl
    | ok c =>
      show (c.materialize seconds >>= _) = (c.materialize seconds).map _
      cases c.materialize seconds <;> rfl
  | http c =>
    rw [validateProbeConfiguration, validateSchema]
    cases c.validate with
    | error e => rfl
    | ok c =>
      show (require _ (passesLater seconds (.http c)) >>= _) >>= _ =
        require _ (passesLater seconds (.http c)) >>= _
      cases passesLater seconds (.http c) <;> rfl
  | tcp c =>
    rw [validateProbeConfiguration, validateSchema]
    cases c.validate <;> rfl
  | dns c =>
    rw [validateProbeConfiguration, validateSchema]
    cases c.validate txt <;> rfl
  | tls c =>
    rw [validateProbeConfiguration, validateSchema]
    cases c.validate txt <;> rfl

theorem materialize_eq_error {c : IcmpProbeConfiguration} {seconds : ℤ}
    (h : ¬ (1 ≤ availableMs c seconds ∧ packetTimeoutMs c seconds ≤ availableMs c seconds)) :
    c.materialize seconds =
      .error (.plain "ICMP packet sequence does not fit within monitor timeout") := by
  have hfails : (!(decide (availableMs c seconds < 1) ||
      decide (packetTimeoutMs c seconds > availableMs c seconds))) = false := by
    rw [Bool.not_eq_false', Bool.or_eq_true, decide_eq_true_eq, decide_eq_true_eq]
    omega
  show require _ (!(decide (availableMs c seconds < 1) ||
    decide (packetTimeoutMs c seconds > availableMs c seconds))) >>= _ = _
  rw [hfails]
  rfl

/-- The later checks raise a plain `ValueError`, or the dump is returned. -/
theorem serializeLater_cases (seconds : ℤ) (v : TypedProbeConfiguration) :
    (passesLater seconds v = true ∧ ∃ dump, serializeLater seconds v = .ok dump) ∨
      (passesLater seconds v = false ∧
        ∃ message, serializeLater seconds v = .error (.plain message)) := by
  cases v with
  | icmp c =>
    cases hpasses : passesLater seconds (.icmp c) with
    | true =>
      have hfits := of_decide_eq_true hpasses
      have hok := (materialize_eq_ok (c := c)).mpr ⟨hfits, rfl⟩
      exact .inl ⟨rfl, _, by rw [serializeLater, hok]; rfl⟩
    | false =>
      have herror := materialize_eq_error (of_decide_eq_false hpasses)
      exact .inr ⟨rfl, _, by rw [serializeLater, herror]; rfl⟩
  | http c =>
    cases hpasses : passesLater seconds (.http c) with
    | true => exact .inl ⟨rfl, _, by rw [serializeLater, hpasses]; rfl⟩
    | false => exact .inr ⟨rfl, _, by rw [serializeLater, hpasses]; rfl⟩
  | tcp | dns | tls => exact .inl ⟨rfl, _, rfl⟩

/-! ## Both requests -/

section Requests

variable {ctx : DomainContext} {reader : SchemaReader} {body : MonitorBody} {s : NamedMonitors}
  {realmId monitorId : Uuid} {monitor : MonitorRow} {target : TargetRow}

/-- The configuration passes the two checks after its schema, if it gets there. -/
def PassesLater (txt : PyText) (reader : SchemaReader) (body : MonitorBody) : Prop :=
  ∀ c v, validateSchedule body.intervalSeconds body.timeoutSeconds = .ok () →
    reader.read body.probeType body.configuration = .ok c → validateSchema txt c = .ok v →
    passesLater body.timeoutSeconds v = true

/-- The error is a plain `ValueError`. -/
def escapes : DomainError → Bool
  | .monitoring (.configuration (.plain _)) => true
  | _ => false

theorem escapes_eq_false {e : DomainError}
    (h : ∀ message, e = .monitoring (.configuration (.plain message)) → False) :
    escapes e = false := by
  unfold escapes
  split
  · next message => exact absurd rfl (h message)
  · rfl

theorem response_eq_iff (e : DomainError) :
    e.response = .httpError 422 e.message ↔ escapes e = false := by
  unfold DomainError.response
  split
  · next message =>
      refine iff_of_false (fun h => ?_) Bool.noConfusion
      simp [serverError] at h
  · next h => exact iff_of_true rfl (escapes_eq_false h)

theorem validateSchedule_error {interval timeout : ℤ} {e : MonitoringDomainError}
    (h : validateSchedule interval timeout = .error e) : escapes (.monitoring e) = false := by
  unfold validateSchedule at h
  split at h
  · cases h
    rfl
  · split at h
    · cases h
      rfl
    · cases h

/-- A rejection escapes exactly if it is one of the later checks. -/
theorem normalize_escapes_iff (txt : PyText) (reader : SchemaReader) (body : MonitorBody) :
    (∀ e, body.normalize txt reader = .error e → escapes e = false) ↔
      PassesLater txt reader body := by
  rw [MonitorBody.normalize]
  cases hschedule : validateSchedule body.intervalSeconds body.timeoutSeconds with
  | error e =>
    refine iff_of_true (fun e' he => ?_) fun c v hok => ?_
    · cases he
      exact validateSchedule_error hschedule
    · rw [hschedule] at hok
      cases hok
  | ok u =>
    cases hread : reader.read body.probeType body.configuration with
    | error path =>
      refine iff_of_true (fun e' he => ?_) fun c v _ hok => ?_
      · cases he
        rfl
      · rw [hread] at hok
        cases hok
    | ok c =>
      dsimp only
      rw [serializeProbeConfiguration_eq]
      cases hschema : validateSchema txt c with
      | error e =>
        refine iff_of_true (fun e' he => ?_) fun c' v _ hc hok => ?_
        · have hwrapped := wrapped_validateSchema txt c e hschema
          cases he
          cases e <;> first | rfl | cases hwrapped
        · rw [hread, Except.ok.injEq] at hc
          rw [← hc, hschema] at hok
          cases hok
      | ok v =>
        have hv : PassesLater txt reader body ↔ passesLater body.timeoutSeconds v = true := by
          refine ⟨fun h => h c v hschedule hread hschema, fun h c' v' _ hc hok => ?_⟩
          rw [hread, Except.ok.injEq] at hc
          rw [← hc, hschema, Except.ok.injEq] at hok
          exact hok ▸ h
        have hbind : (Except.ok v >>= serializeLater body.timeoutSeconds) =
            serializeLater body.timeoutSeconds v := rfl
        rw [hv, hbind]
        rcases serializeLater_cases body.timeoutSeconds v with
          ⟨hpasses, dump, hok⟩ | ⟨hpasses, message, herror⟩
        · rw [hok]
          exact iff_of_true (fun e he => by cases he) hpasses
        · rw [herror, hpasses]
          refine iff_of_false (fun h => ?_) Bool.noConfusion
          exact Bool.noConfusion (h _ rfl)

/-- Both requests get to the validation of the body: the rows are found, the target is
enabled and the name is free. -/
structure ReachesValidation (ctx : DomainContext) (s : NamedMonitors)
    (realmId monitorId : Uuid) (body : MonitorBody) (monitor : MonitorRow)
    (target : TargetRow) : Prop where
  monitor_found : s.selectMonitor realmId monitorId = some monitor
  target_found : body.selectActiveTarget s realmId = some target
  enabled : target.enabled = true
  name_free : s.taken realmId monitor.id (ctx.txt.strip body.name) = false

theorem selectTarget_of_active (h : body.selectActiveTarget s realmId = some target) :
    body.selectTarget s realmId = some target ∧ target.realmId = realmId ∧
      target.archived = false := by
  have hfound := List.find?_some h
  have hmem := List.mem_of_find?_eq_some h
  simp only [Bool.and_eq_true, decide_eq_true_eq, Bool.not_eq_true'] at hfound
  obtain ⟨⟨hid, hrealm⟩, harchived⟩ := hfound
  refine ⟨?_, hrealm, harchived⟩
  unfold MonitorBody.selectTarget
  cases hselect : s.tables.targets.rows.find? fun row =>
      row.id = body.targetId && row.realmId = realmId with
  | none =>
    have hnone := List.find?_eq_none.mp hselect target hmem
    simp [hid, hrealm] at hnone
  | some row =>
    -- the id is the key of the table
    have hrow := List.find?_some hselect
    simp only [Bool.and_eq_true, decide_eq_true_eq] at hrow
    rw [Table.eq_of_key (List.mem_of_find?_eq_some hselect) hmem (hrow.1.trans hid.symm)]

theorem createMonitorEndpoint_error
    (h : ReachesValidation ctx s realmId monitorId body monitor target) (newId : Uuid)
    {e : DomainError} (he : body.normalize ctx.txt reader = .error e) :
    body.createMonitorEndpoint ctx reader s realmId newId = .error e.response := by
  obtain ⟨hselect, hrealm, harchived⟩ := selectTarget_of_active h.target_found
  simp [MonitorBody.createMonitorEndpoint, MonitorBody.createMonitor, hselect, hrealm, harchived,
    h.enabled, he, requireSameRealm, requireActive, bind, Except.bind, Except.mapError]

theorem updateMonitorEndpoint_error
    (h : ReachesValidation ctx s realmId monitorId body monitor target)
    {e : DomainError} (he : body.normalize ctx.txt reader = .error e) :
    body.updateMonitorEndpoint ctx reader s realmId monitorId = .error e.response := by
  obtain ⟨-, hrealm, harchived⟩ := selectTarget_of_active h.target_found
  have hmonitor := List.find?_some h.monitor_found
  simp only [Bool.and_eq_true, decide_eq_true_eq, Bool.not_eq_true'] at hmonitor
  obtain ⟨⟨-, hmonitorRealm⟩, hmonitorArchived⟩ := hmonitor
  simp [MonitorBody.updateMonitorEndpoint, MonitorBody.updateMonitorBehavior, h.monitor_found,
    h.target_found, h.name_free, hrealm, harchived, hmonitorRealm, hmonitorArchived,
    h.enabled, he, requireSameRealm, requireActive, bind, Except.bind, Except.mapError]

/-- Every body that gets to the validation: all its rejections are answered with 422 by both
requests exactly if it passes the two checks that are made after the schema. -/
theorem rejections_handled_iff
    (h : ReachesValidation ctx s realmId monitorId body monitor target) (newId : Uuid)
    (reader : SchemaReader) : (∀ e, body.normalize ctx.txt reader = .error e →
      body.createMonitorEndpoint ctx reader s realmId newId = .error (.httpError 422 e.message) ∧
        body.updateMonitorEndpoint ctx reader s realmId monitorId =
          .error (.httpError 422 e.message)) ↔ PassesLater ctx.txt reader body := by
  rw [← normalize_escapes_iff]
  refine forall_congr' fun e => imp_congr_right fun he => ?_
  rw [createMonitorEndpoint_error h newId he, updateMonitorEndpoint_error h he, ← response_eq_iff]
  simp

end Requests

/-! ## Two bodies -/

/-- The site with its monitor. -/
def siteMonitors : NamedMonitors := { tables := site }

/-- A body for the monitor of the site. -/
def siteBody (probeType : ProbeType) (configuration : List (String × Json JsonNum)) :
    MonitorBody where
  targetId := .ofByte 3
  name := "edge"
  probeType := probeType
  intervalSeconds := 30
  timeoutSeconds := 5
  configuration := configuration
  nameLength := by decide
  intervalPositive := by decide
  timeoutPositive := by decide

theorem siteBody_reachesValidation (probeType : ProbeType)
    (configuration : List (String × Json JsonNum)) :
    ReachesValidation siteContext siteMonitors (.ofByte 9) (.ofByte 4)
      (siteBody probeType configuration) siteMonitor
      { id := .ofByte 3, realmId := .ofByte 9, address := "router.example" } :=
  ⟨rfl, rfl, rfl, rfl⟩

/-- A TCP monitor without a port. -/
theorem rejections_handled_port :
    (siteBody .tcp [("port", jsonInt 0)]).createMonitorEndpoint siteContext documentReader
        siteMonitors (.ofByte 9) (.ofByte 8) = .error (.httpError 422 "port") ∧
      (siteBody .tcp [("port", jsonInt 0)]).updateMonitorEndpoint siteContext documentReader
        siteMonitors (.ofByte 9) (.ofByte 4) = .error (.httpError 422 "port") := by
  refine (rejections_handled_iff (siteBody_reachesValidation _ _) (.ofByte 8)
    documentReader).mpr ?_ (.monitoring (.configuration (.field "port"))) rfl
  intro c v _ hread hschema
  cases hread
  cases hschema

/-- A probe with `HEAD` that expects a body. -/
def headConfiguration : List (String × Json JsonNum) :=
  [("method", .str "HEAD"), ("expected_status_codes", .arr [jsonInt 200]),
    ("expected_body_contains", .arr [.str "ok"])]

def headBody : MonitorBody := siteBody .http headConfiguration

/-- Both requests end with an exception that nothing catches. -/
theorem rejection_escapes :
    ReachesValidation siteContext siteMonitors (.ofByte 9) (.ofByte 4) headBody siteMonitor
      { id := .ofByte 3, realmId := .ofByte 9, address := "router.example" } ∧
    headBody.normalize siteContext.txt documentReader = .error (.monitoring (.configuration
      (.plain "HTTP HEAD monitors cannot contain body assertions"))) ∧
    headBody.createMonitorEndpoint siteContext documentReader siteMonitors (.ofByte 9)
      (.ofByte 8) = .error serverError ∧
    headBody.updateMonitorEndpoint siteContext documentReader siteMonitors (.ofByte 9)
      (.ofByte 4) = .error serverError := by
  have hreaches := siteBody_reachesValidation .http headConfiguration
  have hnormalize : headBody.normalize siteContext.txt documentReader =
      .error (.monitoring (.configuration
        (.plain "HTTP HEAD monitors cannot contain body assertions"))) := by
    rfl
  exact ⟨hreaches, hnormalize, createMonitorEndpoint_error hreaches _ hnormalize,
    updateMonitorEndpoint_error hreaches hnormalize⟩

end Bifrostnms.Proofs
