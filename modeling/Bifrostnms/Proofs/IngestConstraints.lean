import Bifrostnms.Proofs.Ingest

/-!
# When an upload that passes the schema violates a constraint

The observation schemas and the tables were written separately, and the
schemas do not imply the constraints. What the tables ask beyond them is
`commonStorable` and `resultStorable`: timestamps that exist in UTC, texts
without a NUL, integers of the width of their column, a packet loss that is
a number, and an address for every TCP and DNS result.

The rest of the constraints follow from the schema, table by table
(`admits_common`, `admits_result`). An upload therefore returns exactly when
each of its items that is not turned away satisfies them, where a typed row
is only written for the first item of an identity
(`ingestObservations_returns_iff`). One item that does not raises, and takes
the batch with it (`ingestObservations_unresolved_address`).
-/

namespace Bifrostnms.Proofs

open Bifrostnms.Lib Bifrostnms.Protocol Bifrostnms.Backend

/-! ## What the tables ask beyond the schema -/

def commonStorable (o : AgentObservation) : Bool :=
  o.scheduledAt.inUtc && o.startedAt.inUtc && o.finishedAt.inUtc &&
    o.errorCode.all Sql.noNul && o.errorMessage.all Sql.noNul &&
    o.agentClockOffsetMs.all (Sql.fits 32)

def resultStorable (inet : String → Bool) : ObservationResult → Bool
  | .icmp r => !r.packetLossPercent.isNan
  | .http r => r.responseSizeBytes.all (Sql.fits 64) && r.finalUrlRedacted.all Sql.noNul
  | .tcp r => r.addressUsed.any inet
  | .dns r => r.resolverAddress.any inet && Sql.noNul r.queryName && r.responseCode.all Sql.noNul &&
      r.answers.all fun a => Sql.noNul a.name && Sql.noNul a.value
  | .tls r => Sql.noNul r.serverName && r.protocolVersion.all Sql.noNul &&
      r.cipherSuite.all Sql.noNul && r.notBefore.all DateTime.inUtc &&
      r.notAfter.all DateTime.inUtc && r.subjectName.all Sql.noNul &&
      r.issuerName.all Sql.noNul && r.serialNumber.all Sql.noNul

/-! ## The common row -/

variable {ctx : IngestContext}

theorem noNul_hex (bs : List UInt8) : Sql.noNul (String.ofList (hexText bs)) = true := by
  rw [Sql.noNul, String.toList_ofList, List.all_eq_true]
  intro c hc
  obtain ⟨n, hn, rfl⟩ := isHex_of_mem_hexText hc
  interval_cases n <;> decide

theorem length_canonicalHash {o : AgentObservation} (hsha : ∀ b, (ctx.sha256 b).length = 32) :
    (canonicalHash ctx.sha256 o).length ≤ 64 := by
  rw [canonicalHash, String.length_ofList, length_hexText, hsha]

theorem probeType_text (p : ProbeType) : p.text.length ≤ 16 ∧ Sql.noNul p.text = true ∧
      ["icmp", "http", "tcp", "dns", "tls"].contains p.text = true := by
  cases p <;> decide

theorem executionStatus_text (e : ExecutionStatus) : e.text.length ≤ 16 ∧ Sql.noNul e.text = true ∧
      ["completed", "failed"].contains e.text = true := by
  cases e <;> decide

theorem assessment_text (a : Assessment) : a.text.length ≤ 16 ∧ Sql.noNul a.text = true ∧
      ["healthy", "unhealthy", "unknown"].contains a.text = true := by
  cases a <;> decide

theorem errorCategory_text (e : ErrorCategory) : e.text.length ≤ 32 ∧ Sql.noNul e.text = true ∧
      ["timeout", "resolution", "connection", "tls", "protocol", "assertion",
        "permission", "invalid_configuration", "resource_limit",
        "internal"].contains e.text = true := by
  cases e <;> decide

/-- A text of a bounded field fits the column of that length, up to NULs. -/
theorem all_varchar {n : ℕ} {field : Option String} (h : field.all (sized 0 n) = true) :
    (field.all fun s => decide (s.length ≤ n) && Sql.noNul s) = field.all Sql.noNul := by
  cases field with
  | none => rfl
  | some s =>
    simp only [Option.all_some, sized, decide_eq_true_eq] at h
    simp [h.2]

theorem admits_common {o : AgentObservation} (hvalid : o.valid = true)
    (hsha : ∀ b, (ctx.sha256 b).length = 32) (hrev : Sql.fits 64 ctx.agentConfigRevision = true)
    (hpos : 1 ≤ ctx.agentConfigRevision) (hmon : Sql.fits 64 o.monitorRevision = true) :
    observationsTable.admits ctx.inet (commonValues ctx o) = commonStorable o := by
  simp only [AgentObservation.valid, Bool.and_eq_true, decide_eq_true_eq] at hvalid
  obtain ⟨⟨⟨⟨⟨⟨hmonpos, hcode⟩, hmessage⟩, -⟩, hstart⟩, hfinish⟩, -⟩ := hvalid
  have hcategory : (o.errorCategory.all fun e =>
      decide (e.text.length ≤ 32) && Sql.noNul e.text) = true := by
    cases o.errorCategory with
    | none => rfl
    | some e => simp [errorCategory_text e]
  have hcolumns : (observationsTable.columns.all fun c =>
      c.type.accepts ctx.inet (Sql.get (commonValues ctx o) c.name) &&
        !(c.notNull && (Sql.get (commonValues ctx o) c.name).isNull)) = commonStorable o := by
    simp [observationsTable, required, nullable, Sql.get, commonValues,
      List.lookup_cons, hrev, hmon, probeType_text,
      executionStatus_text, assessment_text, all_varchar hcode,
      all_varchar hmessage, hcategory, length_canonicalHash hsha]
    have hnul : Sql.noNul (canonicalHash ctx.sha256 o) = true := noNul_hex _
    rw [hnul, commonStorable]
    simp [Bool.and_assoc]
  have hchecks : (observationsTable.checks.all fun check =>
      Sql.holds check (commonValues ctx o)) = true := by
    simp only [observationsTable, List.all_cons, List.all_nil, Sql.holds_both,
      Sql.holds_either, Bool.and_true, Bool.and_eq_true]
    refine ⟨?_, ?_, ?_, ?_, ⟨?_, ?_⟩, ?_, ?_⟩
    · rw [Sql.holds_oneOf (s := o.probeType.text) rfl]
      exact (probeType_text _).2.2
    · rw [Sql.holds_oneOf (s := o.executionStatus.text) rfl]
      exact (executionStatus_text _).2.2
    · rw [Sql.holds_oneOf (s := o.assessment.text) rfl]
      exact (assessment_text _).2.2
    · refine Sql.holds_isNull_or (o := o.errorCategory) rfl fun e he => ?_
      rw [Sql.holds_oneOf
        (Sql.get_of_some (f := fun e : ErrorCategory => .text e.text) rfl he)]
      exact (errorCategory_text e).2.2
    · rw [Sql.holds_atLeast_int rfl, decide_eq_true hmonpos]
    · rw [Sql.holds_atLeast_int rfl, decide_eq_true hpos]
    · rw [Sql.holds_notBefore_timestamp rfl rfl, decide_eq_true hstart]
    · rw [Sql.holds_notBefore_timestamp rfl rfl, decide_eq_true hfinish]
  rw [Sql.Table.admits, hcolumns, hchecks, Bool.and_true]

/-! ## The typed rows -/

theorem fits_of_inRange {low high n : ℤ} (h : inRange low high n = true)
    (hlow : -2147483648 ≤ low) (hhigh : high ≤ 2147483647) : Sql.fits 32 n = true := by
  simp only [inRange, decide_eq_true_eq] at h
  simp only [Sql.fits, decide_eq_true_eq]
  omega

theorem doubleGe_zero {x : Double} (h : nonNegative x = true) : Sql.doubleGe x (0 : ℤ) = true := by
  simp only [nonNegative, Bool.not_eq_true'] at h
  simp [Sql.doubleGe, h]

theorem httpMethod_text (m : HttpMethod) : m.text.length ≤ 8 ∧ Sql.noNul m.text = true ∧
      ["GET", "HEAD"].contains m.text = true := by
  cases m <;> decide

theorem httpScheme_text (s : HttpScheme) : s.text.length ≤ 8 ∧ Sql.noNul s.text = true ∧
      ["http", "https"].contains s.text = true := by
  cases s <;> decide

theorem queryType_text (q : DnsQueryType) : q.text.length ≤ 16 ∧ Sql.noNul q.text = true ∧
      ["A", "AAAA", "CNAME", "MX", "NS", "PTR", "SOA", "TXT"].contains q.text = true := by
  cases q <;> decide

/-- `c IS NULL OR c >= 0` on a duration of the schema. -/
theorem holds_duration {r : Sql.Row} {c : String} {x : Option Double}
    (hget : Sql.get r c = .ofOption .double x) (hx : x.all nonNegative = true) :
    Sql.holds (Sql.either (Sql.isNull c) (Sql.atLeast c 0)) r = true := by
  rw [Sql.holds_either]
  refine Sql.holds_isNull_or hget fun y hy => ?_
  subst hy
  rw [Sql.holds_atLeast_double hget]
  exact doubleGe_zero hx

variable {o : AgentObservation}

theorem admits_icmp {r : IcmpObservationResult} (hvalid : r.valid = true)
    (htime : o.scheduledAt.inUtc = true) :
    icmpResults.admits ctx.inet (typedValues ctx o (.icmp r)) =
      resultStorable ctx.inet (.icmp r) := by
  simp only [IcmpObservationResult.valid, Bool.and_eq_true,
    decide_eq_true_eq, Bool.not_eq_true', beq_iff_eq] at hvalid
  obtain ⟨⟨⟨⟨⟨⟨⟨⟨⟨⟨⟨⟨⟨hsent, hreceived⟩, hloss⟩, hloss'⟩, hmin⟩, -⟩, -⟩, -⟩, -⟩,
    -⟩, -⟩, -⟩, hle⟩, hcount⟩ := hvalid
  have hcolumns : (icmpResults.columns.all fun c =>
      c.type.accepts ctx.inet (Sql.get (typedValues ctx o (.icmp r)) c.name) &&
        !(c.notNull && (Sql.get (typedValues ctx o (.icmp r)) c.name).isNull)) = true := by
    simp [icmpResults, identityColumns, required, nullable, Sql.get,
      typedValues, resultValues, List.lookup_cons, htime,
      fits_of_inRange hsent, fits_of_inRange hreceived]
  simp only [inRange, decide_eq_true_eq] at hsent hreceived
  have hcounts : Sql.holds (Sql.both (Sql.between "packets_sent" 1 100)
      (Sql.both (Sql.both (Sql.atLeast "packets_received" 0)
        (Sql.notBefore "packets_sent" "packets_received"))
        (Sql.cardinality "rtt_samples_ms" "packets_received")))
      (typedValues ctx o (.icmp r)) = true := by
    rw [Sql.between, Sql.holds_both, Sql.holds_both, Sql.holds_both,
      Sql.holds_both, Sql.holds_atLeast_int rfl, Sql.holds_atMost_int rfl,
      Sql.holds_atLeast_int rfl, Sql.holds_notBefore_int rfl rfl,
      Sql.holds_cardinality rfl rfl, decide_eq_true hsent.1,
      decide_eq_true hsent.2, decide_eq_true hreceived.1, decide_eq_true hle, decide_eq_true hcount]
    rfl
  have hpercent : Sql.holds (Sql.between "packet_loss_percent" 0 100)
      (typedValues ctx o (.icmp r)) = !r.packetLossPercent.isNan := by
    rw [Sql.between, Sql.holds_both, Sql.holds_atLeast_double rfl,
      Sql.holds_atMost_double rfl, doubleGe_zero hloss, Bool.true_and, Sql.doubleLe]
    simp [hloss']
  have hrtt : Sql.holds (Sql.either (Sql.isNull "min_rtt_ms")
      (Sql.atLeast "min_rtt_ms" 0)) (typedValues ctx o (.icmp r)) = true :=
    holds_duration rfl hmin
  rw [Sql.Table.admits, hcolumns, Bool.true_and]
  simp only [icmpResults, List.all_cons, List.all_nil, hcounts, hpercent, hrtt,
    Bool.and_true, Bool.true_and]
  rfl

theorem admits_http {r : HttpObservationResult} (hvalid : r.valid = true)
    (htime : o.scheduledAt.inUtc = true) :
    httpResults.admits ctx.inet (typedValues ctx o (.http r)) =
      resultStorable ctx.inet (.http r) := by
  simp only [HttpObservationResult.valid, Bool.and_eq_true, decide_eq_true_eq] at hvalid
  obtain ⟨⟨⟨⟨⟨⟨⟨⟨⟨⟨⟨hstatus, hredirects⟩, hsize⟩, -⟩, -⟩, -⟩, -⟩, -⟩, htotal⟩,
    hfailed⟩, hurl⟩, hle⟩ := hvalid
  have hcolumns : (httpResults.columns.all fun c =>
      c.type.accepts ctx.inet (Sql.get (typedValues ctx o (.http r)) c.name) &&
        !(c.notNull && (Sql.get (typedValues ctx o (.http r)) c.name).isNull)) =
      resultStorable ctx.inet (.http r) := by
    have hfits : (r.statusCode.all fun n => Sql.fits 32 n) = true := by
      cases hcode : r.statusCode with
      | none => rfl
      | some n =>
        rw [hcode] at hstatus
        exact fits_of_inRange hstatus (by decide) (by decide)
    simp [httpResults, identityColumns, required, nullable, Sql.get,
      typedValues, resultValues, List.lookup_cons, htime,
      fits_of_inRange hredirects, fits_of_inRange htotal,
      fits_of_inRange hfailed, httpMethod_text, httpScheme_text, hfits,
      all_varchar hurl, resultStorable]
  simp only [inRange, decide_eq_true_eq] at hredirects htotal hfailed
  have hchecks : (httpResults.checks.all fun check =>
      Sql.holds check (typedValues ctx o (.http r))) = true := by
    simp only [httpResults, List.all_cons, List.all_nil, Sql.holds_both,
      Sql.holds_either, Bool.and_true, Bool.and_eq_true]
    refine ⟨?_, ?_, ?_, ?_, ?_, ⟨?_, ?_⟩, ?_⟩
    · rw [Sql.holds_oneOf (s := r.method.text) rfl]
      exact (httpMethod_text _).2.2
    · rw [Sql.holds_oneOf (s := r.scheme.text) rfl]
      exact (httpScheme_text _).2.2
    · refine Sql.holds_isNull_or (o := r.statusCode) rfl fun n hn => ?_
      have hget := Sql.get_of_some
        (show Sql.get (typedValues ctx o (.http r)) "status_code" = _ from rfl) hn
      rw [hn] at hstatus
      simp only [Option.all_some, inRange, decide_eq_true_eq] at hstatus
      rw [Sql.between, Sql.holds_both, Sql.holds_atLeast_int hget,
        Sql.holds_atMost_int hget, decide_eq_true hstatus.1, decide_eq_true hstatus.2]
      rfl
    · rw [Sql.holds_atLeast_int rfl, decide_eq_true hredirects.1]
    · rw [Sql.holds_atLeast_int rfl, decide_eq_true htotal.1]
    · rw [Sql.holds_atLeast_int rfl, decide_eq_true hfailed.1]
    · rw [Sql.holds_notBefore_int rfl rfl, decide_eq_true hle]
    · refine Sql.holds_isNull_or (o := r.responseSizeBytes) rfl fun n hn => ?_
      rw [hn] at hsize
      rw [Sql.holds_atLeast_int (Sql.get_of_some rfl hn)]
      exact hsize
  rw [Sql.Table.admits, hcolumns, hchecks, Bool.and_true]

theorem admits_tcp {r : TcpObservationResult} (hvalid : r.valid = true)
    (htime : o.scheduledAt.inUtc = true) : tcpResults.admits ctx.inet (typedValues ctx o (.tcp r)) =
      resultStorable ctx.inet (.tcp r) := by
  simp only [TcpObservationResult.valid, Bool.and_eq_true] at hvalid
  obtain ⟨⟨hport, -⟩, hconnect⟩ := hvalid
  have hcolumns : (tcpResults.columns.all fun c =>
      c.type.accepts ctx.inet (Sql.get (typedValues ctx o (.tcp r)) c.name) &&
        !(c.notNull && (Sql.get (typedValues ctx o (.tcp r)) c.name).isNull)) =
      resultStorable ctx.inet (.tcp r) := by
    -- The column is `NOT NULL`, the field is optional.
    cases h : r.addressUsed <;> simp [tcpResults, identityColumns, required,
      nullable, Sql.get, typedValues, resultValues, List.lookup_cons, htime,
      fits_of_inRange hport, resultStorable, h]
  have hchecks : (tcpResults.checks.all fun check =>
      Sql.holds check (typedValues ctx o (.tcp r))) = true := by
    simp only [inRange, decide_eq_true_eq] at hport
    simp only [tcpResults, List.all_cons, List.all_nil, Bool.and_true, Bool.and_eq_true]
    refine ⟨?_, holds_duration rfl hconnect⟩
    rw [Sql.between, Sql.holds_both, Sql.holds_atLeast_int rfl,
      Sql.holds_atMost_int rfl, decide_eq_true hport.1, decide_eq_true hport.2]
    rfl
  rw [Sql.Table.admits, hcolumns, hchecks, Bool.and_true]

theorem strings_answers (answers : List DnsAnswer) :
    (Json.arr (answers.map answerJson)).strings.all Sql.noNul =
      answers.all fun a => Sql.noNul a.name && Sql.noNul a.value := by
  have hkeys : ∀ k ∈ ["type", "name", "ttl", "value"], Sql.noNul k = true := by
    decide
  simp only [List.forall_mem_cons] at hkeys
  rw [Json.strings]
  induction answers with
  | nil => rfl
  | cons a answers ih =>
    have httl : (jsonOption jsonInt a.ttl).strings = [] := by
      cases a.ttl <;> rfl
    simp only [List.map_cons, Json.stringsItems, List.all_append, ih, List.all_cons]
    simp [answerJson, Json.strings, Json.stringsMembers, httl, hkeys, (queryType_text a.type).2.1]

theorem admits_dns {r : DnsObservationResult} (hvalid : r.valid = true)
    (htime : o.scheduledAt.inUtc = true) : dnsResults.admits ctx.inet (typedValues ctx o (.dns r)) =
      resultStorable ctx.inet (.dns r) := by
  simp only [DnsObservationResult.valid, Bool.and_eq_true, decide_eq_true_eq, beq_iff_eq] at hvalid
  obtain ⟨⟨⟨⟨⟨⟨⟨⟨⟨⟨-, hname⟩, hcode⟩, hms⟩, hcount⟩, -⟩, -⟩, htotal⟩, hfailed⟩, -⟩, hle⟩ := hvalid
  simp only [sized, decide_eq_true_eq] at hname
  have hcolumns : (dnsResults.columns.all fun c =>
      c.type.accepts ctx.inet (Sql.get (typedValues ctx o (.dns r)) c.name) &&
        !(c.notNull && (Sql.get (typedValues ctx o (.dns r)) c.name).isNull)) =
      resultStorable ctx.inet (.dns r) := by
    cases h : r.resolverAddress <;> simp [dnsResults, identityColumns, required,
      nullable, Sql.get, typedValues, resultValues, List.lookup_cons, htime,
      fits_of_inRange hcount, fits_of_inRange htotal, fits_of_inRange hfailed,
      queryType_text, all_varchar hcode, hname.2, strings_answers,
      resultStorable, h, Bool.and_assoc]
  simp only [inRange, decide_eq_true_eq] at hcount htotal hfailed
  have hchecks : (dnsResults.checks.all fun check =>
      Sql.holds check (typedValues ctx o (.dns r))) = true := by
    simp only [dnsResults, List.all_cons, List.all_nil, Sql.holds_both,
      Bool.and_true, Bool.and_eq_true]
    refine ⟨?_, holds_duration rfl hms, ?_, rfl, ?_, ?_, ?_⟩
    · rw [Sql.holds_oneOf (s := r.queryType.text) rfl]
      exact (queryType_text _).2.2
    · rw [Sql.holds_atLeast_int rfl, decide_eq_true hcount.1]
    · rw [Sql.holds_atLeast_int rfl, decide_eq_true htotal.1]
    · rw [Sql.holds_atLeast_int rfl, decide_eq_true hfailed.1]
    · rw [Sql.holds_notBefore_int rfl rfl, decide_eq_true hle]
  rw [Sql.Table.admits, hcolumns, hchecks, Bool.and_true]

theorem all_fingerprint {field : Option String} (h : field.all fingerprint = true) :
    (field.all fun s => decide (s.length ≤ 64) && Sql.noNul s) = true := by
  cases field with
  | none => rfl
  | some s =>
    simp only [Option.all_some, fingerprint, Bool.and_eq_true, beq_iff_eq, List.all_eq_true] at h ⊢
    refine ⟨by simp [h.1], ?_⟩
    rw [Sql.noNul, List.all_eq_true]
    intro c hc
    rw [bne_iff_ne]
    intro hzero
    have hnul : c = Char.ofNat 0 := Char.toNat_inj.mp hzero
    subst hnul
    exact absurd (h.2 _ hc) (by decide)

theorem admits_tls {r : TlsObservationResult} (hvalid : r.valid = true)
    (htime : o.scheduledAt.inUtc = true) : tlsResults.admits ctx.inet (typedValues ctx o (.tls r)) =
      resultStorable ctx.inet (.tls r) := by
  simp only [TlsObservationResult.valid, Bool.and_eq_true] at hvalid
  obtain ⟨⟨⟨⟨⟨⟨⟨⟨⟨hport, hname⟩, hversion⟩, hcipher⟩, hhandshake⟩, hsubject⟩,
    hissuer⟩, hserial⟩, hprint⟩, hdates⟩ := hvalid
  simp only [sized, decide_eq_true_eq] at hname
  have hcolumns : (tlsResults.columns.all fun c =>
      c.type.accepts ctx.inet (Sql.get (typedValues ctx o (.tls r)) c.name) &&
        !(c.notNull && (Sql.get (typedValues ctx o (.tls r)) c.name).isNull)) =
      resultStorable ctx.inet (.tls r) := by
    simp [tlsResults, identityColumns, required,
      nullable, Sql.get, typedValues, resultValues, List.lookup_cons, htime,
      fits_of_inRange hport, all_varchar hversion, all_varchar hcipher,
      all_varchar hsubject, all_varchar hissuer, all_varchar hserial,
      all_fingerprint hprint, hname.2, resultStorable, Bool.and_assoc]
  simp only [inRange, decide_eq_true_eq] at hport
  have hchecks : (tlsResults.checks.all fun check =>
      Sql.holds check (typedValues ctx o (.tls r))) = true := by
    simp only [tlsResults, List.all_cons, List.all_nil, Bool.and_true, Bool.and_eq_true]
    refine ⟨?_, holds_duration rfl hhandshake, ?_⟩
    · rw [Sql.between, Sql.holds_both, Sql.holds_atLeast_int rfl,
        Sql.holds_atMost_int rfl, decide_eq_true hport.1, decide_eq_true hport.2]
      rfl
    · rw [Sql.holds_either]
      refine Sql.holds_isNull_or (o := r.notBefore) rfl fun t ht => ?_
      rw [Sql.holds_either]
      refine Sql.holds_isNull_or (o := r.notAfter) rfl fun u hu => ?_
      rw [ht, hu] at hdates
      rw [Sql.holds_notBefore_timestamp (Sql.get_of_some rfl hu)
        (Sql.get_of_some rfl ht)]
      exact hdates
  rw [Sql.Table.admits, hcolumns, hchecks, Bool.and_true]

theorem admits_result {result : ObservationResult}
    (hvalid : result.valid = true) (htime : o.scheduledAt.inUtc = true) :
    (typedTable result.probeType).admits ctx.inet (typedValues ctx o result) =
      resultStorable ctx.inet result := by
  cases result with
  | icmp r => exact admits_icmp hvalid htime
  | http r => exact admits_http hvalid htime
  | tcp r => exact admits_tcp hvalid htime
  | dns r => exact admits_dns hvalid htime
  | tls r => exact admits_tls hvalid htime

/-! ## Tables that uploads can leave behind -/

/-- Tables that any number of uploads, of any agents, have filled. -/
inductive Reachable : Database → Prop where
  | empty : Reachable {}
  | upload {inet : String → Bool} {sha256 : List UInt8 → List UInt8}
      {snapshots : List StoredSnapshot} {now : ℤ}
      {authentication : Authentication} {upload : AgentObservationUpload}
      {outcome : Except IngestError (List AgentObservationResult)}
      {db db' : Database} (h : Reachable db)
      (hrun : ingestObservations inet sha256 snapshots now authentication
        upload db = (outcome, db')) : Reachable db'

/-- Every typed row belongs to a common row. -/
def Consistent (db : Database) : Prop :=
  ∀ typed ∈ db.results, ∃ row ∈ db.observations, row.identity = typed.identity

theorem consistent_insertRows {db : Database} (h : Consistent db) :
    Consistent (insertRows ctx db o) := by
  intro typed htyped
  rcases List.mem_append.mp htyped with htyped | htyped
  · obtain ⟨row, hrow, hid⟩ := h typed htyped
    exact ⟨row, List.mem_append_left _ hrow, hid⟩
  · refine ⟨commonRow ctx o, by simp [insertRows], ?_⟩
    rw [mem_typedRows htyped]
    rfl

theorem Handled.consistent {monitors : List MonitorConfiguration} {now : ℤ}
    {r : AgentObservationResult} {db db' : Database}
    (h : Handled ctx monitors now o db r db') (hdb : Consistent db) : Consistent db' := by
  cases h with
  | accepted => exact consistent_insertRows hdb
  | duplicate | conflict | turnedAway => exact hdb

theorem Ingested.consistent {monitors : List MonitorConfiguration} {now : ℤ}
    {os : List AgentObservation} {rs : List AgentObservationResult}
    {db db' : Database} (h : Ingested ctx monitors now os db rs db')
    (hdb : Consistent db) : Consistent db' := by
  induction h with
  | nil => exact hdb
  | cons hone _ ih => exact ih (hone.consistent hdb)

theorem Reachable.consistent {db : Database} (h : Reachable db) : Consistent db := by
  induction h with
  | empty => intro typed htyped; cases htyped
  | @upload _ _ _ _ _ _ outcome _ _ _ hrun ih =>
    cases outcome with
    | error e =>
      rw [ingestObservations_error hrun]
      exact ih
    | ok rs =>
      rcases ingestObservations_ok hrun with ⟨rfl, -⟩ | ⟨_, -, h⟩
      · exact ih
      · exact h.consistent ih

/-! ## When one item raises -/

/-- What the statements of an upload need to know about the context. -/
structure ContextOk (ctx : IngestContext) : Prop where
  hash_length : ∀ b, (ctx.sha256 b).length = 32
  revision_fits : Sql.fits 64 ctx.agentConfigRevision = true
  revision_pos : 1 ≤ ctx.agentConfigRevision

variable {monitors : List MonitorConfiguration} {now : ℤ} {db db' : Database}

/-- A valid observation's result is of its own probe type. -/
theorem result_of_valid (hvalid : o.valid = true) {result : ObservationResult}
    (hresult : o.result = some result) : result.valid = true ∧ result.probeType = o.probeType := by
  simp only [AgentObservation.valid, Bool.and_eq_true] at hvalid
  obtain ⟨⟨⟨⟨-, hres⟩, -⟩, -⟩, hstatus⟩ := hvalid
  rw [hresult] at hres hstatus
  refine ⟨hres, ?_⟩
  split at hstatus
  · simpa using hstatus
  · cases hstatus

/-- An item that is not turned away names a configured monitor and carries
its revision. -/
theorem monitorRevision_of_eligible (hr : rejection monitors now o = none) :
    ∃ m ∈ monitors, o.monitorRevision = m.monitorRevision := by
  unfold rejection at hr
  split at hr
  · cases hr
  · next m hm =>
      refine ⟨m, ?_, ?_⟩
      · exact List.mem_reverse.mp (List.mem_of_find?_eq_some hm)
      · split at hr
        · cases hr
        · split at hr
          · cases hr
          · next h => exact (not_not.mp h).symm

theorem fits_wide {n : ℤ} (h : Sql.fits 32 n = true) : Sql.fits 64 n = true := by
  simp only [Sql.fits, decide_eq_true_eq] at h ⊢
  omega

/-- The item's rows may be stored: the common row always, the typed row when
the identity is new. -/
def itemStorable (inet : String → Bool) (db : Database) (o : AgentObservation) : Prop :=
  commonStorable o = true ∧ (db.findCommon o.identity = none →
    o.result.all (resultStorable inet) = true)

theorem insertCommon_eq (hctx : ContextOk ctx) (hvalid : o.valid = true)
    (hmon : Sql.fits 64 o.monitorRevision = true) : insertCommon ctx o db =
      if !commonStorable o then (.error (.constraint none), db)
      else if (db.findCommon o.identity).isSome then (.ok false, db)
      else (.ok true, { db with observations := db.observations ++ [commonRow ctx o] }) := by
  rw [insertCommon, admits_common hvalid hctx.hash_length hctx.revision_fits
    hctx.revision_pos hmon]

theorem insertTypedResult_ok_iff (hvalid : o.valid = true) (htime : o.scheduledAt.inUtc = true)
    (hnone : ∀ row ∈ db.results, row.identity ≠ o.identity) :
    (∃ db', insertTypedResult ctx o db = (.ok (), db')) ↔
      o.result.all (resultStorable ctx.inet) = true := by
  unfold insertTypedResult
  cases hresult : o.result with
  | none => simp
  | some result =>
    obtain ⟨hres, htype⟩ := result_of_valid hvalid hresult
    have hunique : (db.results.any fun r =>
        r.result.probeType == o.probeType && r.identity == o.identity) = false := by
      simp only [List.any_eq_false, Bool.and_eq_true, beq_iff_eq, not_and]
      exact fun row hrow _ => hnone row hrow
    simp only [← htype, ne_eq, not_true, if_false, admits_result hres htime, Option.all_some]
    rw [htype, hunique]
    cases resultStorable ctx.inet result <;> simp

theorem ingestOne_ok_iff (hctx : ContextOk ctx) (hvalid : o.valid = true)
    (hmons : ∀ m ∈ monitors, Sql.fits 32 m.monitorRevision = true) (hdb : Consistent db) :
    (∃ r db', ingestOne ctx monitors now o db = (.ok r, db')) ↔
      (rejection monitors now o = none → itemStorable ctx.inet db o) := by
  unfold ingestOne
  cases hr : rejection monitors now o with
  | some code => simp
  | none =>
    obtain ⟨m, hm, hrev⟩ := monitorRevision_of_eligible hr
    have hmon : Sql.fits 64 o.monitorRevision = true := by
      rw [hrev]
      exact fits_wide (hmons m hm)
    rw [insertCommon_eq hctx hvalid hmon]
    cases hcommon : commonStorable o with
    | false => simp [itemStorable, hcommon]
    | true =>
      have htime : o.scheduledAt.inUtc = true := by
        simp only [commonStorable, Bool.and_eq_true] at hcommon
        exact hcommon.1.1.1.1.1
      cases hfind : db.findCommon o.identity with
      | some row =>
        simp only [itemStorable, hcommon, hfind]
        simp only [Bool.not_true, Bool.false_eq_true, if_false,
          Option.isSome_some, if_true, reduceCtorEq, false_imp_iff,
          and_true, true_imp_iff, iff_true]
        split <;> exact ⟨_, _, rfl⟩
      | none =>
        -- A typed row of this identity would have a common row.
        have hnone : ∀ row ∈ db.results, row.identity ≠ o.identity := by
          intro typed htyped heq
          obtain ⟨row, hrow, hid⟩ := hdb typed htyped
          exact findCommon_eq_none.mp hfind row hrow (hid.trans heq)
        have htyped : (∃ db', insertTypedResult ctx o
            { db with observations := db.observations ++ [commonRow ctx o] } = (.ok (), db')) ↔ _ :=
          insertTypedResult_ok_iff hvalid htime hnone
        have hitem : itemStorable ctx.inet db o ↔
            o.result.all (resultStorable ctx.inet) = true := by
          simp [itemStorable, hcommon, hfind]
        rw [forall_prop_of_true rfl, hitem, ← htyped]
        simp only [Bool.not_true, Bool.false_eq_true, if_false, Option.isSome_none]
        generalize insertTypedResult ctx o _ = out
        rcases out with ⟨_ | ⟨⟩, db''⟩ <;> simp

/-! ## When a batch raises -/

/-- After an item, its identity is there if and only if it was before or the
item was not turned away. -/
theorem Handled.findCommon_eq_none {r : AgentObservationResult}
    (h : Handled ctx monitors now o db r db') (k : Identity) :
    db'.findCommon k = none ↔ db.findCommon k = none ∧
      (rejection monitors now o = none → o.identity ≠ k) := by
  simp only [Proofs.findCommon_eq_none]
  cases h with
  | accepted hr hnew =>
    simp only [insertRows, List.forall_mem_append, List.forall_mem_singleton, hr, true_imp_iff]
    exact Iff.rfl
  | duplicate row hr hrow _ | conflict row hr hrow _ =>
    obtain ⟨hmem, hid⟩ := findCommon_eq_some hrow
    refine ⟨fun h => ⟨h, fun _ => hid ▸ h row hmem⟩, fun h => h.1⟩
  | turnedAway code hr => simp [hr]

/-- Every item that is not turned away can be stored, its typed row only if
no earlier one of the batch took the identity. -/
def batchStorable (inet : String → Bool) (monitors : List MonitorConfiguration)
    (now : ℤ) (db : Database) (os : List AgentObservation) : Prop :=
  ∀ before o after, os = before ++ o :: after → rejection monitors now o = none →
    commonStorable o = true ∧ (db.findCommon o.identity = none →
        (∀ o' ∈ before, rejection monitors now o' = none → o'.identity ≠ o.identity) →
        o.result.all (resultStorable inet) = true)

theorem batchStorable_cons {os : List AgentObservation}
    {r : AgentObservationResult} {inet : String → Bool}
    (hitem : rejection monitors now o = none → itemStorable inet db o)
    (h : Handled ctx monitors now o db r db') : batchStorable inet monitors now db (o :: os) ↔
      batchStorable inet monitors now db' os := by
  constructor
  · intro hbatch before o' after hos hr'
    obtain ⟨hc, ht⟩ := hbatch (o :: before) o' after (by rw [hos]; rfl) hr'
    refine ⟨hc, fun hnone hbefore => ?_⟩
    obtain ⟨hdb, ho⟩ := (h.findCommon_eq_none _).mp hnone
    exact ht hdb (List.forall_mem_cons.mpr ⟨ho, hbefore⟩)
  · intro hbatch before o' after hos hr'
    cases before with
    | nil =>
      obtain ⟨rfl, -⟩ := List.cons.inj hos
      obtain ⟨hc, ht⟩ := hitem hr'
      exact ⟨hc, fun hnone _ => ht hnone⟩
    | cons x before =>
      obtain ⟨rfl, hrest⟩ := List.cons.inj hos
      obtain ⟨hc, ht⟩ := hbatch before o' after hrest hr'
      refine ⟨hc, fun hnone hbefore => ?_⟩
      obtain ⟨ho, hbefore⟩ := List.forall_mem_cons.mp hbefore
      exact ht ((h.findCommon_eq_none _).mpr ⟨hnone, ho⟩) hbefore

theorem ingestLoop_ok_iff (hctx : ContextOk ctx)
    (hmons : ∀ m ∈ monitors, Sql.fits 32 m.monitorRevision = true)
    {os : List AgentObservation} (hvalid : ∀ o ∈ os, o.valid = true) (hdb : Consistent db) :
    (∃ rs db', ingestLoop ctx monitors now os db = (.ok rs, db')) ↔
      batchStorable ctx.inet monitors now db os := by
  induction os generalizing db with
  | nil =>
    refine ⟨fun _ before o after h => ?_, fun _ => ⟨[], db, rfl⟩⟩
    simp at h
  | cons o os ih =>
    obtain ⟨ho, hos⟩ := List.forall_mem_cons.mp hvalid
    have hone : (∃ r db', ingestOne ctx monitors now o db = (.ok r, db')) ↔ _ :=
      ingestOne_ok_iff hctx ho hmons hdb
    by_cases hitem : rejection monitors now o = none → itemStorable ctx.inet db o
    · obtain ⟨r, db₁, hrun⟩ := hone.mpr hitem
      have hhandled := ingestOne_cases hrun
      rw [batchStorable_cons hitem hhandled, ← ih hos (hhandled.consistent hdb)]
      simp only [ingestLoop, hrun]
      generalize ingestLoop ctx monitors now os db₁ = out
      rcases out with ⟨_ | rs, db''⟩ <;> simp
    · constructor
      · rintro ⟨rs, db', hrun⟩
        simp only [ingestLoop] at hrun
        split at hrun
        · cases hrun
        · next r db₁ hrun₁ => exact absurd (hone.mp ⟨r, db₁, hrun₁⟩) hitem
      · intro hbatch
        refine absurd (fun hr => ?_) hitem
        obtain ⟨hc, ht⟩ := hbatch [] o os rfl hr
        exact ⟨hc, fun hnone => ht hnone (by simp)⟩

/-! ## Uploads -/

section Upload

variable {inet : String → Bool} {sha256 : List UInt8 → List UInt8}
  {snapshots : List StoredSnapshot} {authentication : Authentication}
  {upload : AgentObservationUpload}

/-- An upload that passes the schema returns if and only if its revision is a
`BIGINT` and, should that revision have been issued, each of its items that
is not turned away can be stored. -/
theorem ingestObservations_returns_iff (hvalid : upload.valid = true)
    (hdb : Reachable db) (hsha : ∀ b, (sha256 b).length = 32)
    (hsnapshots : ∀ s ∈ snapshots, ∀ m ∈ s.monitors, Sql.fits 32 m.monitorRevision = true) :
    (∃ rs db', ingestObservations inet sha256 snapshots now authentication
        upload db = (.ok rs, db')) ↔ Sql.fits 64 upload.agentConfigRevision = true ∧
        ∀ snapshot, findSnapshot snapshots authentication
            upload.agentConfigRevision = .ok (some snapshot) →
          batchStorable inet snapshot.monitors now db upload.observations := by
  simp only [AgentObservationUpload.valid, Bool.and_eq_true,
    decide_eq_true_eq, List.all_eq_true] at hvalid
  obtain ⟨⟨⟨⟨-, hpos⟩, hobservations⟩, -⟩, -⟩ := hvalid
  unfold ingestObservations
  by_cases hfits : Sql.fits 64 upload.agentConfigRevision = true
  · have hfound : ∃ found, findSnapshot snapshots authentication
        upload.agentConfigRevision = .ok found ∧ ∀ s, found = some s → s ∈ snapshots := by
      refine ⟨_, if_pos hfits, fun s hs => List.mem_of_find?_eq_some hs⟩
    obtain ⟨found, hfound, hmem⟩ := hfound
    rw [hfound]
    cases found with
    | none => simp [hfits]
    | some snapshot =>
      have hloop : (∃ rs db', ingestLoop
          ⟨inet, sha256, authentication, upload.agentConfigRevision⟩
          snapshot.monitors now upload.observations db = (.ok rs, db')) ↔
            batchStorable inet snapshot.monitors now db upload.observations :=
        ingestLoop_ok_iff ⟨hsha, hfits, hpos⟩
          (hsnapshots snapshot (hmem snapshot rfl)) hobservations hdb.consistent
      simp only [hfits, true_and, Except.ok.injEq, Option.some.injEq,
        forall_eq', ← hloop, inTransaction]
      generalize ingestLoop _ _ _ _ _ = out
      rcases out with ⟨_ | rs, db''⟩ <;> simp
  · simp [findSnapshot, hfits]

end Upload

/-! A TCP connection that failed before an address was chosen, uploaded
together with an execution that could have been stored. -/

def unresolvedObservation : AgentObservation where
  scheduledAt := failedObservation.finishedAt
  observationId := .ofByte 7
  monitorId := .ofByte 1
  monitorRevision := 1
  probeType := .tcp
  startedAt := failedObservation.finishedAt
  finishedAt := sampleTime 2500000 (by decide)
  executionStatus := .completed
  assessment := .unhealthy
  errorCategory := some .resolution
  result := some (.tcp { port := 22 })

def unresolvedUpload : AgentObservationUpload :=
  ⟨1, 1, 1, .ofByte 6, [failedObservation, unresolvedObservation]⟩

theorem ingestObservations_unresolved_address : unresolvedUpload.valid = true ∧ Reachable {} ∧
      ingestObservations (fun _ => true) shortHash [tcpSnapshot] 3000000
        ⟨.ofByte 4, .ofByte 3⟩ unresolvedUpload {} = (.error (.constraint (some .tcp)), {}) :=
  ⟨by decide, .empty, rfl⟩

theorem shortHash_length (bytes : List UInt8) : (shortHash bytes).length = 32 := by
  simp [shortHash]

/-- The other execution alone is stored. -/
theorem ingestObservations_storable_upload :
    ∃ rs db', ingestObservations (fun _ => true) shortHash [tcpSnapshot] 3000000
      ⟨.ofByte 4, .ofByte 3⟩ failedUpload {} = (.ok rs, db') := by
  refine (ingestObservations_returns_iff (by decide) .empty shortHash_length
    (by decide)).mpr ⟨by decide, fun snapshot hfound => ?_⟩
  intro before o after hos hr
  have ho : o ∈ [failedObservation] := by
    rw [show [failedObservation] = before ++ o :: after from hos]
    simp
  rw [List.mem_singleton] at ho
  subst ho
  exact ⟨by decide, fun _ _ => rfl⟩

end Bifrostnms.Proofs
