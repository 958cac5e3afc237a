import Bifrostnms.Agent.DnsExchange
import Bifrostnms.Proofs.DnsProbe

/-!
# Whose response it is

A run reads the first message of a socket and takes it for the response to its query:
`parseResponse` reads the ID and the questions and compares neither. So each message
that is read influences the result, since any other message in its place could have
been malformed, or not (`influences_of_read`), and a message that is not read does not
(`read_of_influences`). That only messages that match the query are assessed and
influence the result is then a matter of who is first (`explicit_matches_iff`).
-/

namespace Bifrostnms.Proofs

open Bifrostnms.Lib Bifrostnms.Agent

/-! ## Messages -/

/-- The message has the ID of the query, and its question. -/
def MatchesQuery (m : Dns.Message) (query : Dns.Query) : Prop :=
  m.header.map Prod.fst = some query.id ∧ m.questions = some [query.question]

/-- The header asks for another exchange over TCP. -/
def truncatedMessage (m : Dns.Message) : Bool := m.header.any fun header => header.2.truncated

inductive SocketName where
  | udp | tcp
deriving DecidableEq

def socketOf (network : Dns.Network) : SocketName → Dns.Socket
  | .udp => network.udp
  | .tcp => network.tcp

/-- Another message instead of one that arrives. -/
def replaceIn (network : Dns.Network) (name : SocketName) (i : ℕ) (m : Dns.Message) : Dns.Network :=
  match name with
  | .udp => { network with udp.arriving := network.udp.arriving.set i m }
  | .tcp => { network with tcp.arriving := network.tcp.arriving.set i m }

/-- The message that a read returns. -/
def received (socket : Dns.Socket) : Option Dns.Message :=
  if socket.broken.isSome then none else socket.arriving.head?

/-- The sockets that an exchange reads. -/
def socketsRead (transport : Dns.Transport) (network : Dns.Network) : List SocketName :=
  match transport with
  | .tcp => [.tcp]
  | .udpWithTcpFallback =>
    if (received network.udp).any truncatedMessage then [.udp, .tcp] else [.udp]

/-- On every socket that is read, the message of the resolver is the first. -/
def ResolverFirst (transport : Dns.Transport) (query : Dns.Query) (network : Dns.Network) : Prop :=
  ∀ name ∈ socketsRead transport network, ∀ m ∈ received (socketOf network name),
    MatchesQuery m query

/-! ## Exchanges -/

/-- The message that an exchange returns. -/
def exchangeMessage (transport : Dns.Transport) (network : Dns.Network) :
    Except Dns.Error Dns.Message :=
  match transport with
  | .tcp => Dns.exchangeTcp network.tcp
  | .udpWithTcpFallback =>
    match Dns.exchangeUdp network.udp with
    | .error err => .error err
    | .ok m =>
      if m.header.isNone then .error {}
      else if truncatedMessage m then Dns.exchangeTcp network.tcp else .ok m

theorem exchange_eq (transport : Dns.Transport) (network : Dns.Network) :
    Dns.exchange transport ((Dns.exchangeUdp network.udp).map Dns.Message.content)
        ((Dns.exchangeTcp network.tcp).map Dns.Message.content) =
      (exchangeMessage transport network).map Dns.Message.content := by
  cases transport with
  | tcp => rfl
  | udpWithTcpFallback =>
    unfold exchangeMessage Dns.exchange
    dsimp only
    cases Dns.exchangeUdp network.udp with
    | error err => rfl
    | ok m =>
      cases hheader : m.header with
      | none => simp [Except.map, Dns.Message.content, hheader]
      | some header =>
        cases htruncated : header.2.truncated <;>
          simp [Except.map, Dns.Message.content, truncatedMessage, hheader, htruncated]

section Runs

variable (run : Dns.Run) (configuration : Dns.Configuration) (queryName : List Char)
  (address : String) (transport : Dns.Transport)

/-- What a run makes of an exchange. -/
def explicitOutcome : Except Dns.Error Dns.Message → Agent.Result
  | .error err => Dns.reportError run
      (Dns.baseResult run configuration (some address) queryName (some [])) err
  | .ok m =>
    match Dns.parseResponse run.unicode m.content with
    | none => Dns.failed run.startedAt run.finishedAt "protocol" "dns_response_malformed"
        "DNS resolver returned a malformed or unsupported response."
    | some parsed => Dns.assess run configuration
        { Dns.baseResult run configuration (some address) queryName (some parsed.answers) with
          responseCode := some parsed.responseCode
          truncated := parsed.truncated
          authoritative := parsed.authoritative }

theorem runExplicit_over (query : Dns.Query) (network : Dns.Network) :
    Dns.runExplicit (run.over (some query) network) configuration queryName address transport =
      explicitOutcome run configuration queryName address
        (exchangeMessage transport network) := by
  have hexchange : Dns.exchange transport (run.over (some query) network).udp
      (run.over (some query) network).tcp =
        (exchangeMessage transport network).map Dns.Message.content :=
    exchange_eq transport network
  unfold Dns.runExplicit
  rw [hexchange]
  cases exchangeMessage transport network with
  | error err => rfl
  | ok m => rfl

/-- Another message in this place would give another result. -/
def Influences (built : Option Dns.Query) (network : Dns.Network) (name : SocketName) (i : ℕ) :
    Prop :=
  ∃ m, Dns.runExplicit (run.over built (replaceIn network name i m)) configuration queryName
    address transport ≠
      Dns.runExplicit (run.over built network) configuration queryName address transport

/-- The message is parsed and assessed. -/
def Assessed (network : Dns.Network) (m : Dns.Message) : Prop :=
  exchangeMessage transport network = .ok m ∧
    (Dns.parseResponse run.unicode m.content).isSome = true

end Runs

/-! ## Messages that are not read -/

variable {run : Dns.Run} {configuration : Dns.Configuration} {queryName : List Char}
  {address : String} {transport : Dns.Transport} {query : Dns.Query} {network : Dns.Network}
  {name : SocketName} {i : ℕ} {m : Dns.Message}

/-- Neither a later message nor one on a broken socket is read. -/
theorem read_set (socket : Dns.Socket) (h : i ≠ 0 ∨ socket.broken.isSome = true) (m : Dns.Message) :
    Dns.Socket.read { socket with arriving := socket.arriving.set i m } = socket.read := by
  unfold Dns.Socket.read
  rcases h with hi | hbroken
  · obtain ⟨j, rfl⟩ := Nat.exists_eq_succ_of_ne_zero hi
    cases socket.arriving <;> rfl
  · obtain ⟨err, herr⟩ := Option.isSome_iff_exists.mp hbroken
    dsimp only
    rw [herr]

theorem read_eq_ok_iff {socket : Dns.Socket} : socket.read = .ok m ↔ received socket = some m := by
  unfold Dns.Socket.read received
  cases socket.broken with
  | some err => simp
  | none => cases socket.arriving <;> simp

/-- An exchange is a matter of the first messages on the sockets that it reads. -/
theorem exchangeMessage_replaceIn
    (h : (i ≠ 0 ∨ (socketOf network name).broken.isSome = true) ∨
      name ∉ socketsRead transport network) (m : Dns.Message) :
    exchangeMessage transport (replaceIn network name i m) = exchangeMessage transport network := by
  rcases h with hplace | hname
  · cases name with
    | udp =>
      unfold exchangeMessage Dns.exchangeUdp replaceIn
      dsimp only
      rw [read_set network.udp hplace]
    | tcp =>
      unfold exchangeMessage Dns.exchangeTcp replaceIn
      dsimp only
      rw [read_set network.tcp hplace]
  · cases transport with
    | tcp =>
      cases name with
      | udp => rfl
      | tcp => exact absurd List.mem_cons_self hname
    | udpWithTcpFallback =>
      unfold socketsRead at hname
      dsimp only at hname
      split at hname
      · cases name <;> exact absurd (by decide) hname
      · next huntruncated =>
          cases name with
          | udp => exact absurd List.mem_cons_self hname
          | tcp =>
            -- The datagram does not ask for TCP.
            unfold exchangeMessage
            dsimp only [replaceIn]
            cases hudp : Dns.exchangeUdp network.udp with
            | error err => rfl
            | ok first =>
              have hreceived := read_eq_ok_iff.mp hudp
              rw [hreceived, Option.any_some] at huntruncated
              dsimp only
              rw [if_neg huntruncated, if_neg huntruncated]

theorem read_of_influences (hm : (socketOf network name).arriving[i]? = some m)
    (h : Influences run configuration queryName address transport (some query) network name i) :
    name ∈ socketsRead transport network ∧ received (socketOf network name) = some m := by
  obtain ⟨other, hdiffers⟩ := h
  have hread : ¬((i ≠ 0 ∨ (socketOf network name).broken.isSome = true) ∨
      name ∉ socketsRead transport network) := by
    intro hunread
    refine hdiffers ?_
    rw [runExplicit_over, runExplicit_over, exchangeMessage_replaceIn hunread]
  obtain ⟨hplace, hname⟩ := not_or.mp hread
  obtain ⟨hi, hbroken⟩ := not_or.mp hplace
  rw [not_not.mp hi, ← List.head?_eq_getElem?] at hm
  refine ⟨not_not.mp hname, ?_⟩
  unfold received
  rw [if_neg hbroken, hm]

/-! ## Messages that are read -/

/-- A message in the place of one that is read is the message of the exchange, unless it
has no header or is truncated. -/
theorem exchangeMessage_first (hname : name ∈ socketsRead transport network)
    (hreceived : received (socketOf network name) = some m) {other : Dns.Message}
    (hheader : other.header.isSome = true) (huntruncated : truncatedMessage other = false) :
    exchangeMessage transport (replaceIn network name 0 other) = .ok other := by
  have hread (socket : Dns.Socket) (h : received socket = some m) :
      Dns.Socket.read { socket with arriving := socket.arriving.set 0 other } = .ok other := by
    rw [read_eq_ok_iff]
    unfold received at h ⊢
    cases hbroken : socket.broken with
    | some err => simp [hbroken] at h
    | none =>
      cases harriving : socket.arriving with
      | nil => simp [hbroken, harriving] at h
      | cons first rest => rfl
  have htcp (h : received network.tcp = some m) :
      Dns.exchangeTcp { network.tcp with arriving := network.tcp.arriving.set 0 other } =
        .ok other := by
    have hsize := other.size_header hheader
    have hle := other.size_le
    unfold Dns.exchangeTcp
    rw [hread network.tcp h]
    exact if_neg (by omega)
  cases transport with
  | tcp =>
    rw [List.mem_singleton.mp hname] at hreceived ⊢
    exact htcp hreceived
  | udpWithTcpFallback =>
    cases name with
    | udp =>
      unfold exchangeMessage Dns.exchangeUdp
      dsimp only [replaceIn]
      rw [hread network.udp hreceived]
      dsimp only
      rw [Option.isNone_eq_false_iff.mpr hheader, huntruncated]
      rfl
    | tcp =>
      unfold socketsRead at hname
      dsimp only at hname
      split at hname
      · next htruncated =>
          cases hfirst : received network.udp with
          | none =>
            rw [hfirst] at htruncated
            cases htruncated
          | some first =>
            rw [hfirst, Option.any_some] at htruncated
            have hsome : first.header.isNone = false := by
              unfold truncatedMessage at htruncated
              cases hheader : first.header with
              | none => simp [hheader] at htruncated
              | some header => rfl
            unfold exchangeMessage Dns.exchangeUdp
            dsimp only [replaceIn]
            rw [read_eq_ok_iff.mpr hfirst]
            dsimp only
            rw [hsome, htruncated]
            exact htcp hreceived
      · exact absurd hname (by decide)

/-- A response without an answer, or a query that came back. -/
theorem headerBytes_le : 12 ≤ Dns.maximumMessageBytes := by decide

theorem noError_lt : 0 < 16 := by decide

theorem headerBytes_fit : true = true → 12 ≤ 12 := fun _ => le_rfl

def emptyMessage (response : Bool) : Dns.Message where
  size := 12
  header := some (0, ⟨response, false, false, ⟨0, noError_lt⟩⟩)
  questions := some []
  answers := some []
  size_le := headerBytes_le
  size_header := headerBytes_fit

theorem executionStatus_assess (result : Dns.Result) :
    (Dns.assess run configuration result).executionStatus = executionCompleted := by
  unfold Dns.assess
  dsimp only
  split <;> rfl

/-- One of the two empty messages gives another result, whatever the result was. -/
theorem influences_of_read (hname : name ∈ socketsRead transport network)
    (hreceived : received (socketOf network name) = some m) :
    Influences run configuration queryName address transport (some query) network name 0 := by
  have hresult (response : Bool) : Dns.runExplicit (run.over (some query)
      (replaceIn network name 0 (emptyMessage response))) configuration queryName address
        transport = explicitOutcome run configuration queryName address
          (.ok (emptyMessage response)) := by
    rw [runExplicit_over, exchangeMessage_first hname hreceived rfl rfl]
  by_contra hnone
  have hsame (response : Bool) := not_not.mp (not_exists.mp hnone (emptyMessage response))
  have hcompleted : (explicitOutcome run configuration queryName address
      (.ok (emptyMessage true))).executionStatus = executionCompleted :=
    executionStatus_assess _
  have hfailed : (explicitOutcome run configuration queryName address
      (.ok (emptyMessage false))).executionStatus = executionFailed := rfl
  rw [← hresult, hsame, ← hsame false, hresult, hfailed] at hcompleted
  exact absurd hcompleted (by decide)

/-! ## The first message -/

theorem received_of_assessed (h : Assessed run transport network m) :
    ∃ name ∈ socketsRead transport network, received (socketOf network name) = some m := by
  have htcp (h : Dns.exchangeTcp network.tcp = .ok m) : received network.tcp = some m := by
    unfold Dns.exchangeTcp at h
    obtain ⟨response, hread, h⟩ := bind_eq_ok.mp h
    split at h
    · cases h
    · rw [← Except.ok.inj h]
      exact read_eq_ok_iff.mp hread
  obtain ⟨hexchange, -⟩ := h
  cases transport with
  | tcp => exact ⟨.tcp, List.mem_cons_self, htcp hexchange⟩
  | udpWithTcpFallback =>
    unfold exchangeMessage at hexchange
    dsimp only at hexchange
    cases hudp : Dns.exchangeUdp network.udp with
    | error err =>
      rw [hudp] at hexchange
      cases hexchange
    | ok first =>
      have hfirst := read_eq_ok_iff.mp hudp
      rw [hudp] at hexchange
      dsimp only at hexchange
      unfold socketsRead
      dsimp only
      rw [hfirst, Option.any_some]
      split at hexchange
      · cases hexchange
      · split at hexchange
        · next htruncated =>
            rw [if_pos htruncated]
            exact ⟨.tcp, by decide, htcp hexchange⟩
        · next huntruncated =>
            rw [if_neg huntruncated, ← Except.ok.inj hexchange]
            exact ⟨.udp, by decide, hfirst⟩

/-- For every query that is built and every network: only messages that match the query are
assessed and influence the result, exactly if they are the first on every socket that the
exchange reads. -/
theorem explicit_matches_iff (run : Dns.Run) (parseIP : List Char → Option (List UInt8))
    (unixNano : ℤ) (configuration : Dns.Configuration) (queryName : List Char)
    (address : String) (transport : Dns.Transport) (query : Dns.Query) (network : Dns.Network)
    (hbuilt : Dns.buildQuery parseIP unixNano queryName configuration = some query) :
    ((∀ m, Assessed run transport network m → MatchesQuery m query) ∧
      ∀ name i m, (socketOf network name).arriving[i]? = some m →
        Influences run configuration queryName address transport
          (Dns.buildQuery parseIP unixNano queryName configuration) network name i →
        MatchesQuery m query) ↔ ResolverFirst transport query network := by
  rw [hbuilt]
  constructor
  · rintro ⟨-, hinfluences⟩ name hname m hreceived
    have hm : (socketOf network name).arriving[0]? = some m := by
      have h := hreceived
      unfold received at h
      split at h
      · cases h
      · rw [← List.head?_eq_getElem?, h]
    exact hinfluences name 0 m hm (influences_of_read hname hreceived)
  · intro hfirst
    constructor
    · intro m hassessed
      obtain ⟨name, hname, hreceived⟩ := received_of_assessed hassessed
      exact hfirst name hname m hreceived
    · intro name i m hm hinfluences
      obtain ⟨hname, hreceived⟩ := read_of_influences hm hinfluences
      exact hfirst name hname m hreceived

/-! ## Two responses -/

theorem parseIp_explicit : parseIp "192.0.2.53".toList = true := by decide

/-- The addresses of the target from an explicit resolver. -/
def explicitConfiguration : Dns.Configuration :=
  ⟨.explicit ⟨"192.0.2.53", parseIp_explicit⟩ 53 .udpWithTcpFallback, none, .a, true,
    ["NOERROR"], ⟨[], Nat.zero_le 32⟩⟩

/-- A response with an ID and a question, and no answer. -/
def responseTo (id : UInt16) (question : Dns.Question) : Dns.Message :=
  { emptyMessage true with
    header := some (id, ⟨true, false, false, ⟨0, noError_lt⟩⟩)
    questions := some [question]
    size_header := headerBytes_fit }

def sampleQuestion : Dns.Question := ⟨utf8 "router.example.".toList, 1, 1⟩

def datagrams (messages : List Dns.Message) : Dns.Network := ⟨⟨none, messages, {}⟩, ⟨none, [], {}⟩⟩

theorem explicit_matches_first : ResolverFirst .udpWithTcpFallback ⟨7, true, sampleQuestion⟩
      (datagrams [responseTo 7 sampleQuestion, responseTo 8 sampleQuestion]) ∧
    ∀ m, Assessed (failingRun {}) .udpWithTcpFallback
      (datagrams [responseTo 7 sampleQuestion, responseTo 8 sampleQuestion]) m →
    MatchesQuery m ⟨7, true, sampleQuestion⟩ := by
  have hfirst : ResolverFirst .udpWithTcpFallback ⟨7, true, sampleQuestion⟩
      (datagrams [responseTo 7 sampleQuestion, responseTo 8 sampleQuestion]) := by
    intro name hname m hreceived
    rw [List.mem_singleton.mp hname] at hreceived
    rw [← Option.some.inj hreceived]
    exact ⟨rfl, rfl⟩
  exact ⟨hfirst, ((explicit_matches_iff (failingRun {}) (fun _ => none) 7 explicitConfiguration
    "router.example".toList "192.0.2.53" .udpWithTcpFallback ⟨7, true, sampleQuestion⟩ _ rfl).mpr
      hfirst).1⟩

/-- A response with another ID and to another question. -/
def foreignResponse : Dns.Message := responseTo 8 ⟨utf8 "other.example.".toList, 1, 1⟩

/-- It is assessed and the run is completed and healthy; the response of the resolver after
it is not read. -/
theorem explicit_assesses_foreign :
    Dns.buildQuery (fun _ => none) 7 "router.example".toList explicitConfiguration =
      some ⟨7, true, sampleQuestion⟩ ∧ Assessed (failingRun {}) .udpWithTcpFallback
      (datagrams [foreignResponse, responseTo 7 sampleQuestion]) foreignResponse ∧
    ¬MatchesQuery foreignResponse ⟨7, true, sampleQuestion⟩ ∧
    (Dns.runExplicit ((failingRun {}).over (some ⟨7, true, sampleQuestion⟩)
      (datagrams [foreignResponse, responseTo 7 sampleQuestion])) explicitConfiguration
      "router.example".toList "192.0.2.53" .udpWithTcpFallback).assessment = assessmentHealthy := by
  refine ⟨rfl, ⟨rfl, rfl⟩, ?_, rfl⟩
  intro h
  exact absurd h.1 (by decide)

end Bifrostnms.Proofs
