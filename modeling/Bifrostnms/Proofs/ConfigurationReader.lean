import Bifrostnms.Backend.ConfigurationReader
import Bifrostnms.Lib.Checks

/-!
# A dumped configuration is read back

A dump has every field with a value of its type, so it is read, and what is read is the
configuration that was dumped (`parse_modelDump`); two configurations of one type have
different dumps (`modelDump_inj`). A JSON column keeps the value of a number and not its
spelling. Integers are spelled in one way, so only the two thresholds of an ICMP
configuration can come back as other decimals (`parse_mapNum`).
-/

namespace Bifrostnms.Proofs

open Bifrostnms.Lib Bifrostnms.Backend

/-! ## Numbers that are read again -/

/-- Other decimals for the thresholds. -/
def mapThresholds (f : Decimal → Decimal) : TypedProbeConfiguration → TypedProbeConfiguration
  | .icmp c => .icmp { c with
      maximumPacketLossPercent := c.maximumPacketLossPercent.map f
      maximumAverageRttMs := c.maximumAverageRttMs.map f }
  | c => c

theorem mapThresholds_id (c : TypedProbeConfiguration) : mapThresholds id c = c := by
  cases c with
  | icmp c => rw [mapThresholds, Option.map_id, id, id]
  | http | tcp | dns | tls => rfl

/-! ## Values -/

section Values

variable {α β : Type} {read : JsonNum → JsonNum}

theorem parseInt_jsonInt (hread : ∀ n, read (.int n) = .int n) (n : ℤ) :
    parseInt ((jsonInt n).mapNum read) = some n := by
  rw [jsonInt, Json.mapNum, hread, parseInt]

theorem parseStr_str (s : String) : parseStr ((Json.str s).mapNum read) = some s := rfl

theorem parseBool_bool (b : Bool) : parseBool ((Json.bool b).mapNum read) = some b := rfl

theorem parseOptional_jsonOption {parse : Json JsonNum → Option β} {f : α → Json JsonNum}
    {g : α → β} {o : Option α}
    (h : ∀ a, parseOptional parse ((f a).mapNum read) = some (some (g a))) :
    parseOptional parse ((jsonOption f o).mapNum read) = some (o.map g) := by
  cases o with
  | none => rfl
  | some a => exact h a

theorem parseOptional_int (hread : ∀ n, read (.int n) = .int n) (o : Option ℤ) :
    parseOptional parseInt ((jsonOption jsonInt o).mapNum read) = some o := by
  have h : ∀ n, parseOptional parseInt ((jsonInt n).mapNum read) = some (some n) := by
    intro n
    rw [jsonInt, Json.mapNum, hread]
    rfl
  rw [parseOptional_jsonOption h, Option.map_id']

theorem parseOptional_str (o : Option String) :
    parseOptional parseStr ((jsonOption .str o).mapNum read) = some o := by
  rw [parseOptional_jsonOption fun _ => rfl, Option.map_id']

theorem parseOptional_float (o : Option Decimal) :
    parseOptional parseFloat ((jsonOption (fun d => .num (.float d)) o).mapNum read) =
      some (o.map fun d => JsonText.readFloat64 (read (.float d))) :=
  parseOptional_jsonOption fun _ => rfl

theorem parseList_map {parse : Json JsonNum → Option α} {f : α → Json JsonNum}
    (h : ∀ a, parse ((f a).mapNum read) = some a) (l : List α) :
    parseList parse ((Json.arr (l.map f)).mapNum read) = some l := by
  show (Json.mapNumItems read (l.map f)).mapM parse = some l
  induction l with
  | nil => rfl
  | cons a l ih =>
    rw [List.map_cons, Json.mapNumItems, List.mapM_cons, h, ih]
    rfl

theorem parseDict_members (l : List (String × String)) :
    parseDict ((Json.obj (l.map fun h => (h.1, .str h.2))).mapNum read) = some l := by
  show (Json.mapNumMembers read (l.map fun h => (h.1, .str h.2))).mapM _ = some l
  induction l with
  | nil => rfl
  | cons a l ih =>
    rw [List.map_cons, Json.mapNumMembers, List.mapM_cons, ih]
    rfl

end Values

/-! ## Fields -/

section Fields

variable {α β : Type} {members : List (String × Json JsonNum)} {name : String}
  {parse : Json JsonNum → Option α} {default? : Option α} {document : Json JsonNum} {a : α}

/-- A field that is there, and the fields after it. -/
theorem bind_parseField {next : α → Except ConfigurationError β} {r : Except ConfigurationError β}
    (hlookup : members.lookup name = some document) (hparse : parse document = some a)
    (hnext : next a = r) : (parseField members name parse default? >>= next) = r := by
  simp only [parseField, hlookup, hparse]
  exact hnext

theorem bind_forbidExtra {names : List String} {next : Unit → Except ConfigurationError β}
    {r : Except ConfigurationError β}
    (hnames : (members.find? fun member => !names.contains member.1) = none)
    (hnext : next () = r) : (forbidExtra names members >>= next) = r := by
  rw [forbidExtra, hnames]
  exact hnext

end Fields

/-! ## Schemas -/

section Schemas

variable {read : JsonNum → JsonNum}

theorem parseSchemaVersion_bind {β : Type} (hread : ∀ n, read (.int n) = .int n)
    {members : List (String × Json JsonNum)} {next : Unit → Except ConfigurationError β}
    {r : Except ConfigurationError β}
    (hlookup : members.lookup "schema_version" = some ((jsonInt 1).mapNum read))
    (hnext : next () = r) : (parseSchemaVersion members >>= next) = r :=
  bind_parseField hlookup (if_pos (parseInt_jsonInt hread 1)) hnext

theorem parseAddressFamily_text (family : AddressFamily) :
    parseAddressFamily ((Json.str family.text).mapNum read) = some family := by
  cases family <;> rfl

/-- The members of a dump whose numbers are read again. -/
def rereadMembers (read : JsonNum → JsonNum) (c : TypedProbeConfiguration) :
    List (String × Json JsonNum) :=
  match c.modelDump with
  | .obj members => Json.mapNumMembers read members
  | _ => []

theorem parse_icmp (hread : ∀ n, read (.int n) = .int n) (c : IcmpProbeConfiguration) :
    IcmpProbeConfiguration.parse (rereadMembers read (.icmp c)) = .ok { c with
      maximumPacketLossPercent := c.maximumPacketLossPercent.map fun d =>
        JsonText.readFloat64 (read (.float d))
      maximumAverageRttMs := c.maximumAverageRttMs.map fun d =>
        JsonText.readFloat64 (read (.float d)) } := by
  refine bind_forbidExtra rfl ?_
  refine parseSchemaVersion_bind hread rfl ?_
  refine bind_parseField rfl (parseInt_jsonInt hread _) ?_
  refine bind_parseField rfl (parseInt_jsonInt hread _) ?_
  refine bind_parseField rfl (parseOptional_int hread _) ?_
  refine bind_parseField rfl (parseInt_jsonInt hread _) ?_
  refine bind_parseField rfl (parseAddressFamily_text _) ?_
  refine bind_parseField rfl (parseOptional_float _) ?_
  refine bind_parseField rfl (parseOptional_float _) ?_
  rfl

theorem parse_http (hread : ∀ n, read (.int n) = .int n) (c : HttpProbeConfiguration) :
    HttpProbeConfiguration.parse (rereadMembers read (.http c)) = .ok c := by
  have hscheme : parseLiteral HttpScheme.text [.http, .https]
      ((Json.str c.scheme.text).mapNum read) = some c.scheme := by
    cases c.scheme <;> rfl
  have hmethod : parseLiteral HttpMethod.text [.get, .head]
      ((Json.str c.method.text).mapNum read) = some c.method := by
    cases c.method <;> rfl
  refine bind_forbidExtra rfl ?_
  refine parseSchemaVersion_bind hread rfl ?_
  refine bind_parseField rfl hscheme ?_
  refine bind_parseField rfl (parseOptional_int hread _) ?_
  refine bind_parseField rfl (parseStr_str _) ?_
  refine bind_parseField rfl hmethod ?_
  refine bind_parseField rfl (parseBool_bool _) ?_
  refine bind_parseField rfl (parseInt_jsonInt hread _) ?_
  refine bind_parseField rfl (parseOptional_str _) ?_
  refine bind_parseField rfl (parseDict_members _) ?_
  refine bind_parseField rfl (parseList_map (parseInt_jsonInt hread) _) ?_
  refine bind_parseField rfl (parseList_map (fun _ => rfl) _) ?_
  refine bind_parseField rfl (parseList_map parseStr_str _) ?_
  refine bind_parseField rfl (parseInt_jsonInt hread _) ?_
  refine bind_parseField rfl (parseAddressFamily_text _) ?_
  rfl

theorem parse_tcp (hread : ∀ n, read (.int n) = .int n) (c : TcpProbeConfiguration) :
    TcpProbeConfiguration.parse (rereadMembers read (.tcp c)) = .ok c := by
  refine bind_forbidExtra rfl ?_
  refine parseSchemaVersion_bind hread rfl ?_
  refine bind_parseField rfl (parseInt_jsonInt hread _) ?_
  refine bind_parseField rfl (parseAddressFamily_text _) ?_
  rfl

theorem parse_dns (hread : ∀ n, read (.int n) = .int n) (c : DnsProbeConfiguration) :
    DnsProbeConfiguration.parse (rereadMembers read (.dns c)) = .ok c := by
  have hmode : parseLiteral ResolverMode.text [.system, .explicit]
      ((Json.str c.resolverMode.text).mapNum read) = some c.resolverMode := by
    cases c.resolverMode <;> rfl
  have htransport : parseLiteral DnsTransport.text [.udpWithTcpFallback, .tcp]
      ((Json.str c.transport.text).mapNum read) = some c.transport := by
    cases c.transport <;> rfl
  have htype : parseLiteral DnsQueryType.text [.a, .aaaa, .cname, .mx, .ns, .txt, .ptr]
      ((Json.str c.queryType.text).mapNum read) = some c.queryType := by
    cases c.queryType <;> rfl
  refine bind_forbidExtra rfl ?_
  refine parseSchemaVersion_bind hread rfl ?_
  refine bind_parseField rfl hmode ?_
  refine bind_parseField rfl (parseOptional_str _) ?_
  refine bind_parseField rfl (parseInt_jsonInt hread _) ?_
  refine bind_parseField rfl htransport ?_
  refine bind_parseField rfl (parseOptional_str _) ?_
  refine bind_parseField rfl htype ?_
  refine bind_parseField rfl (parseBool_bool _) ?_
  refine bind_parseField rfl (parseList_map parseStr_str _) ?_
  refine bind_parseField rfl (parseList_map (fun _ => rfl) _) ?_
  rfl

theorem parse_tls (hread : ∀ n, read (.int n) = .int n) (c : TlsProbeConfiguration) :
    TlsProbeConfiguration.parse (rereadMembers read (.tls c)) = .ok c := by
  have hversion : parseLiteral TlsVersion.text [.v12, .v13]
      ((Json.str c.minimumTlsVersion.text).mapNum read) = some c.minimumTlsVersion := by
    cases c.minimumTlsVersion <;> rfl
  refine bind_forbidExtra rfl ?_
  refine parseSchemaVersion_bind hread rfl ?_
  refine bind_parseField rfl (parseInt_jsonInt hread _) ?_
  refine bind_parseField rfl (parseOptional_str _) ?_
  refine bind_parseField rfl (parseAddressFamily_text _) ?_
  refine bind_parseField rfl hversion ?_
  refine bind_parseField rfl (parseInt_jsonInt hread _) ?_
  rfl

/-- What is read of a dump whose numbers came back from a column. -/
theorem parse_mapNum (hread : ∀ n, read (.int n) = .int n) (c : TypedProbeConfiguration) :
    parseProbeConfiguration c.probeType (c.modelDump.mapNum read) =
      .ok (mapThresholds (fun d => JsonText.readFloat64 (read (.float d))) c) := by
  cases c with
  | icmp c =>
    show (IcmpProbeConfiguration.parse (rereadMembers read (.icmp c)) >>= _) = _
    rw [parse_icmp hread]
    rfl
  | http c =>
    show (HttpProbeConfiguration.parse (rereadMembers read (.http c)) >>= _) = _
    rw [parse_http hread]
    rfl
  | tcp c =>
    show (TcpProbeConfiguration.parse (rereadMembers read (.tcp c)) >>= _) = _
    rw [parse_tcp hread]
    rfl
  | dns c =>
    show (DnsProbeConfiguration.parse (rereadMembers read (.dns c)) >>= _) = _
    rw [parse_dns hread]
    rfl
  | tls c =>
    show (TlsProbeConfiguration.parse (rereadMembers read (.tls c)) >>= _) = _
    rw [parse_tls hread]
    rfl

end Schemas

theorem parse_modelDump (c : TypedProbeConfiguration) :
    parseProbeConfiguration c.probeType c.modelDump = .ok c := by
  have h : parseProbeConfiguration c.probeType (c.modelDump.mapNum id) =
      .ok (mapThresholds id c) := parse_mapNum (fun _ => rfl) c
  rwa [Json.mapNum_id, mapThresholds_id] at h

/-- A dump determines its configuration. -/
theorem modelDump_inj {c c' : TypedProbeConfiguration} (htype : c.probeType = c'.probeType)
    (h : c.modelDump = c'.modelDump) : c = c' := by
  have hparse := parse_modelDump c
  rw [htype, h, parse_modelDump] at hparse
  exact (Except.ok.inj hparse).symm

end Bifrostnms.Proofs
