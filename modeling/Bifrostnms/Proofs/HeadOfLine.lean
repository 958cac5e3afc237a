import Bifrostnms.Proofs.UploadOutcome

/-!
# A refused batch and the rows behind it

A server may refuse a request as a whole because of one observation in it. The
agent then counts a failure and leaves the rows alone, and since a batch is cut
from the oldest rows, the next upload cuts the same one. Every row of the batch
and every row behind it waits for good.

What an upload selects depends on the pending rows only (`selection`): once the
backoff is over every row is ready, and the drawn batch id has the same length
as any other. So a state is either unblocked, and the upload removes a row, or
blocked, and then every later state is the same (`upload_progress`,
`upload_blocked`). Counting the rows turns this into an equivalence about any
sequence of uploads that is long enough.
-/

namespace Bifrostnms.Proofs

open Bifrostnms.Lib Bifrostnms.Agent

/-! ## What an upload selects -/

/-- An upload after the backoff that was recorded, for the whole queue and for
each row. -/
structure AfterBackoff (s : Store) (clock : UploadClock) : Prop where
  queue : ∀ t, s.synchronization.serverBackoffUntil = some t → t ≤ clock.now
  rows : ∀ row ∈ s.pending, utf8Le (formatTime row.nextAttemptAt) (formatTime clock.now) = true

/-- The oldest rows, as many as are read for a batch. -/
def oldest (s : Store) : List Observation :=
  (s.pending.insertionSort (fun a b => rowLe a b = true)).take
    (defaultMaxBatchObservations + 1)

/-- The rows of the next batch, whatever its id. -/
def selection (raw : RawJson) (s : Store) : Except BuildError (List Observation) :=
  match oldest s with
  | [] => .ok []
  | first :: rest =>
    selectRows raw defaultMaxBatchObservations defaultMaxBatchBytes
      first.agentConfigRevision (newBatchId (.ofByte 0)).text []
      (first :: rest)

/-- The text of an id has the same size for every id. -/
theorem payloadSize_quote_uuid (u : Uuid) :
    payloadSize (JsonText.quote JsonText.goEscape u.text) = 38 := by
  have hplain : ∀ c ∈ u.chars, JsonText.goEscape c = [c] ∧ payloadSize [c] = 1 := by
    intro c hc
    rcases Uuid.mem_chars hc with ⟨n, hn, rfl⟩ | rfl
    · interval_cases n <;> decide
    · decide
  have hsize : ∀ l : List Char, (∀ c ∈ l, JsonText.goEscape c = [c] ∧ payloadSize [c] = 1) →
      payloadSize (l.flatMap JsonText.goEscape) = l.length := by
    intro l hl
    induction l with
    | nil => rfl
    | cons c l ih =>
      rw [List.forall_mem_cons] at hl
      rw [List.flatMap_cons, hl.1.1, payloadSize_append, hl.1.2, ih hl.2,
        List.length_cons, Nat.add_comm]
  rw [JsonText.quote, Uuid.text, String.toList_ofList, payloadSize_cons,
    payloadSize_append, hsize _ hplain, Uuid.length_chars]
  decide

theorem payloadSize_uploadText (raw : RawJson) (version schema revision : ℤ)
    (u v : Uuid) (observations : List (List Char)) :
    payloadSize (uploadText raw ⟨version, schema, revision, u.text, observations⟩) =
      payloadSize (uploadText raw ⟨version, schema, revision, v.text, observations⟩) := by
  have hsize := (payloadSize_quote_uuid u).trans (payloadSize_quote_uuid v).symm
  simp only [uploadText, payloadSize_append, payloadSize_cons _ (_ :: _),
    payloadSize_cons _ (_ ++ _), hsize]

theorem selectRows_batchId (raw : RawJson) (maxObservations maxBytes : ℕ)
    (revision : ℤ) (u v : Uuid) (selected ready : List Observation) :
    selectRows raw maxObservations maxBytes revision u.text selected ready =
      selectRows raw maxObservations maxBytes revision v.text selected ready := by
  induction ready generalizing selected with
  | nil => rfl
  | cons o ready ih =>
    rw [selectRows, selectRows, ih]
    dsimp only
    rw [payloadSize_uploadText raw _ _ _ u v]

variable {raw : RawJson} {s : Store} {clock : UploadClock}

theorem mem_oldest {o : Observation} (h : o ∈ oldest s) : o ∈ s.pending :=
  (List.mem_insertionSort _).mp (List.mem_of_mem_take h)

theorem oldest_eq_nil (h : oldest s = []) : s.pending = [] := by
  rw [oldest, List.take_eq_nil_iff] at h
  rcases h with h | h
  · cases h
  · have hperm := List.perm_insertionSort (fun a b => rowLe a b = true) s.pending
    rw [h] at hperm
    exact hperm.nil_eq.symm

theorem readyObservations_oldest (h : AfterBackoff s clock) :
    readyObservations s clock.now (defaultMaxBatchObservations + 1) = .ok (oldest s) := by
  have hall : (s.pending.filter fun row =>
      utf8Le (formatTime row.nextAttemptAt) (formatTime clock.now)) = s.pending :=
    List.filter_eq_self.mpr h.rows
  rw [readyObservations, if_neg (by decide), hall]
  rfl

theorem AfterBackoff.ready (h : AfterBackoff s clock) :
    ¬ (s.synchronization.serverBackoffUntil.any fun t =>
      decide (clock.now < t)) = true := by
  intro hany
  cases hb : s.synchronization.serverBackoffUntil with
  | none =>
    rw [hb] at hany
    cases hany
  | some t =>
    rw [hb, Option.any_some, decide_eq_true_eq] at hany
    have := h.queue t hb
    omega

/-- After the backoff the batch is made of the selected rows. -/
theorem startUpload_of_selection (h : AfterBackoff s clock) (random : Uuid)
    {rows : List Observation} (hrows : selection raw s = .ok rows) (hne : s.pending ≠ []) :
    ∃ batch, startUpload raw s clock.now (newBatchId random).text =
        .send batch ∧ batch.observations = rows := by
  unfold selection at hrows
  split at hrows
  · next hnil => exact absurd (oldest_eq_nil hnil) hne
  · next first rest hfirst =>
      obtain ⟨more, rfl⟩ := selectRows_first (by decide) hrows
      rw [startUpload, if_neg h.ready, buildBatch, if_neg (by decide),
        readyObservations_oldest h, hfirst]
      dsimp only
      rw [selectRows_batchId _ _ _ _ _ (newBatchId (.ofByte 0)), hrows]
      exact ⟨_, rfl, rfl⟩

theorem selection_spec {rows : List Observation}
    (hrows : selection raw s = .ok rows) (hne : s.pending ≠ []) :
    rows ≠ [] ∧ ∀ o ∈ rows, o ∈ s.pending := by
  unfold selection at hrows
  split at hrows
  · next hnil => exact absurd (oldest_eq_nil hnil) hne
  · next first rest hfirst =>
      obtain ⟨more, rfl⟩ := selectRows_first (by decide) hrows
      refine ⟨List.cons_ne_nil _ _, fun o ho => mem_oldest ?_⟩
      rw [hfirst]
      exact (selectRows_isPrefix hrows).subset ho

/-- A row that stops the selection is set aside. -/
theorem startUpload_of_error (h : AfterBackoff s clock) (random : Uuid)
    {e : BuildError} (he : selection raw s = .error e) :
    ∃ o ∈ s.pending, (e = .invalid o ∨ e = .oversized o) ∧ ∃ code details, code ≠ "" ∧
        payloadSize details.toList ≤ maxRejectionDetailsBytes ∧
        startUpload raw s clock.now (newBatchId random).text = .quarantine o code details := by
  unfold selection at he
  split at he
  · cases he
  · next first rest hfirst =>
      obtain ⟨more, o, left, hsplit, hcause⟩ := selectRows_error he
      have ho : o ∈ first :: rest := by
        rw [hsplit]
        exact List.mem_append_right more List.mem_cons_self
      have hkind : e = .invalid o ∨ e = .oversized o :=
        hcause.imp (fun h => h.1) fun h => h.1
      refine ⟨o, mem_oldest (hfirst ▸ ho), hkind, ?_⟩
      rw [startUpload, if_neg h.ready, buildBatch, if_neg (by decide),
        readyObservations_oldest h, hfirst]
      dsimp only
      rw [selectRows_batchId _ _ _ _ _ (newBatchId (.ofByte 0)), he]
      rcases hkind with rfl | rfl
      · exact ⟨_, _, by decide, by decide, rfl⟩
      · exact ⟨_, _, by decide, by decide, rfl⟩

/-! ## A server that refuses whole requests -/

/-- The answer that accepts every row of a batch. -/
def acceptingAnswer (batch : Batch) : ObservationUploadResponse where
  protocolVersion := protocolVersion
  batchId := batch.upload.batchId
  results := batch.observations.map fun o =>
    ⟨o.scheduledAt, o.observationId, dispositionAccepted, "", false⟩
  retryAfterSeconds := none

/-- A server that refuses a request for any payload in `bad`, and accepts all
rows of every other request. -/
structure WholeRequestServer (bad : List Char → Bool) (server : Batch → HttpOutcome) : Prop where
  refuses : ∀ batch : Batch, (∃ o ∈ batch.observations, bad o.canonicalPayload = true) →
      ∃ status retryAfter response trailing,
        server batch = .answered status retryAfter response trailing ∧ (status = 413 ∨ status = 422)
  accepts : ∀ batch : Batch, (∀ o ∈ batch.observations, bad o.canonicalPayload = false) →
      server batch = .answered 200 0 (some (acceptingAnswer batch)) false

/-- One `UploadOnce` against such a server, after the recorded backoff. -/
def Call (raw : RawJson) (bad : List Char → Bool) (s s' : Store) : Prop :=
  ∃ clock random server, AfterBackoff s clock ∧ WholeRequestServer bad server ∧
    s' = uploadOnce raw clock (newBatchId random).text server s

/-- The acknowledgement that an accepted row becomes. -/
def acceptance (o : Observation) : ObservationAcknowledgement where
  scheduledAt := o.scheduledAt
  observationId := o.observationId
  disposition := dispositionAccepted
  code := ""
  retryable := false

theorem acknowledgements_accepting (now : ℤ) (delay : ℕ → ℤ) (batch : Batch) :
    acknowledgements now delay batch.observations
      (acceptingAnswer batch).results = batch.observations.map acceptance := by
  apply List.ext_getElem?
  intro i
  rw [acknowledgements, acceptingAnswer, List.getElem?_mapIdx, List.getElem?_map, List.getElem?_map]
  cases batch.observations[i]? with
  | none => rfl
  | some o =>
    simp [acceptance]

theorem trusted_acceptance (o : Observation) : trusted o (acceptance o) = true := by
  simp [trusted, acceptance]

theorem allTrusted_acceptance {seen : List (String × String)} {rows : List Observation}
    (h : (seen ++ rows.map Observation.key).Nodup) :
    allTrusted seen rows (rows.map acceptance) = true := by
  induction rows generalizing seen with
  | nil => rfl
  | cons o rows ih =>
    rw [List.map_cons, List.nodup_middle, List.nodup_cons] at h
    have hnew : o.key ∉ seen := fun hmem => h.1 (List.mem_append_left _ hmem)
    rw [List.map_cons, allTrusted, trusted_acceptance, Bool.and_true, Bool.and_eq_true]
    refine ⟨decide_eq_true hnew, ih ?_⟩
    exact List.nodup_cons.mpr h

theorem applyLoop_acceptance (now : ℤ) (rows : List Observation) (s : Store) :
    ∃ s', applyLoop now rows (rows.map acceptance) s = some s' := by
  induction rows generalizing s with
  | nil => exact ⟨s, rfl⟩
  | cons o rows ih => exact ih (s.deletePending o.key)

theorem answerFor_acceptance {rows : List Observation} {key : String × String}
    (h : key ∈ rows.map Observation.key) :
    ∃ o, answerFor (rows.zip (rows.map acceptance)) key = some (acceptance o) := by
  induction rows with
  | nil => cases h
  | cons o rows ih =>
    rw [List.map_cons, List.zip_cons_cons, answerFor_cons]
    by_cases hkey : o.key = key
    · exact ⟨o, if_pos hkey⟩
    · rw [if_neg hkey]
      rw [List.map_cons, List.mem_cons] at h
      exact ih (h.resolve_left fun heq => hkey heq.symm)

/-- An accepting answer removes the rows of the batch. -/
theorem finishUpload_accepting {batch : Batch} (clock : UploadClock) (failureCount : ℕ)
    (hne : batch.observations ≠ []) (hkeys : (batch.observations.map Observation.key).Nodup) :
    (finishUpload clock failureCount batch
        (.answered 200 0 (some (acceptingAnswer batch)) false) s).pending =
      s.pending.filter fun row =>
        decide (row.key ∉ batch.observations.map Observation.key) := by
  obtain ⟨t, hloop⟩ := applyLoop_acceptance clock.now batch.observations s
  have hvalid : validateAcknowledgements batch.observations
      (batch.observations.map acceptance) = true := by
    rw [validateAcknowledgements, Bool.and_eq_true, Bool.and_eq_true,
      decide_eq_true_eq, decide_eq_true_eq, List.length_map]
    exact ⟨⟨hne, rfl⟩, allTrusted_acceptance hkeys⟩
  have happly : ∃ s', applyAcknowledgements s batch.observations
      (acknowledgements clock.now (retryDelays clock batch.observations
        (acceptingAnswer batch)) batch.observations
        (acceptingAnswer batch).results) clock.now = .ok s' := by
    rw [acknowledgements_accepting, applyAcknowledgements, hvalid, hloop]
    exact ⟨_, rfl⟩
  obtain ⟨s', hs'⟩ := happly
  have hfinish : finishUpload clock failureCount batch
      (.answered 200 0 (some (acceptingAnswer batch)) false) s = s' := by
    rw [finishUpload, if_neg (by decide), if_neg (by decide),
      if_neg (by simp [acceptingAnswer]), hs']
  rw [acknowledgements_accepting] at hs'
  obtain ⟨_, hpending, _⟩ := applyAcknowledgements_settles hkeys hs'
  rw [hfinish, hpending, ← List.filterMap_eq_filter]
  refine List.filterMap_congr fun row _ => ?_
  by_cases hmem : row.key ∈ batch.observations.map Observation.key
  · obtain ⟨o, ho⟩ := answerFor_acceptance hmem
    rw [ho, Option.guard, if_neg (by simpa using hmem)]
    rfl
  · rw [answerFor_eq_none hmem, Option.guard, if_pos (by simpa using hmem)]
    rfl

theorem finishUpload_refused {status : ℤ} (clock : UploadClock)
    (failureCount : ℕ) (batch : Batch) (retryAfter : ℤ)
    (response : Option ObservationUploadResponse) (trailing : Bool)
    (h : status < 200 ∨ 300 ≤ status) : Failed s (finishUpload clock failureCount batch
      (.answered status retryAfter response trailing) s) := by
  show Failed s (if status < 200 ∨ 300 ≤ status then _ else _)
  rw [if_pos h]
  exact recordFailure_failed clock failureCount retryAfter s

/-! ## One call -/

/-- The next upload is not refused: every selected row is acceptable, and a row
that is set aside instead has no rejected row of its key. -/
def Unblocked (raw : RawJson) (bad : List Char → Bool) (s : Store) : Prop :=
  match selection raw s with
  | .ok rows => ∀ o ∈ rows, bad o.canonicalPayload = false
  | .error (.invalid o) | .error (.oversized o) =>
    o.key ∉ s.rejected.map RejectedObservation.key
  | .error .limits => False

instance (raw : RawJson) (bad : List Char → Bool) (s : Store) : Decidable (Unblocked raw bad s) :=
  match h : selection raw s with
  | .ok rows => decidable_of_iff (∀ o ∈ rows, bad o.canonicalPayload = false)
      (by rw [Unblocked, h])
  | .error (.invalid o) | .error (.oversized o) => decidable_of_iff
      (s.rejected.all (fun r => r.key != o.key) = true)
      (by simp [Unblocked, h])
  | .error .limits => isFalse (by rw [Unblocked, h]; exact id)

variable {s' : Store} {bad : List Char → Bool}

theorem unblocked_of_error {e : BuildError} {o : Observation}
    (he : selection raw s = .error e) (hkind : e = .invalid o ∨ e = .oversized o) :
    Unblocked raw bad s ↔ o.key ∉ s.rejected.map RejectedObservation.key := by
  unfold Unblocked
  rw [he]
  rcases hkind with rfl | rfl
  · rfl
  · rfl

/-- A pending row is set aside unless its key is taken. -/
theorem quarantineObservation_spec {o : Observation} {code details : String}
    {now : ℤ} (ho : o ∈ s.pending) (hcode : code ≠ "")
    (hdetails : payloadSize details.toList ≤ maxRejectionDetailsBytes) :
    (o.key ∉ s.rejected.map RejectedObservation.key →
      ∃ s', quarantineObservation s o code details now = .ok s' ∧
        s'.pending = s.pending.filter fun row => row.key ≠ o.key) ∧
    (o.key ∈ s.rejected.map RejectedObservation.key →
      ∃ e, quarantineObservation s o code details now = .error e) := by
  have hguard : ¬ (code = "" ∨ maxRejectionDetailsBytes < payloadSize details.toList) := by
    rw [not_or, not_lt]
    exact ⟨hcode, hdetails⟩
  obtain ⟨row, hfind⟩ : ∃ row, s.findPending o.key = some row := by
    rw [← Option.isSome_iff_exists, Store.findPending, List.find?_isSome]
    exact ⟨o, ho, beq_self_eq_true _⟩
  obtain ⟨rejected, hrejected, hkey⟩ : ∃ rejected : RejectedObservation,
      rejected = ⟨row.scheduledAt, row.observationId, row.canonicalPayload,
        code, details, now⟩ ∧ rejected.key = o.key :=
    ⟨_, rfl, (findPending_eq_some hfind).2⟩
  have hany : (s.rejected.any fun r => r.key == rejected.key) = true ↔
      o.key ∈ s.rejected.map RejectedObservation.key := by
    rw [List.any_eq_true, List.mem_map, hkey]
    simp only [beq_iff_eq]
  unfold quarantineObservation
  rw [if_neg hguard, hfind]
  dsimp only
  rw [← hrejected, Store.insertRejected]
  refine ⟨fun hfree => ?_, fun htaken => ?_⟩
  · rw [if_neg fun h => hfree (hany.mp h)]
    exact ⟨_, rfl, rfl⟩
  · rw [if_pos (hany.mpr htaken)]
    exact ⟨_, rfl⟩

theorem length_filter_lt {α : Type*} {l : List α} {p : α → Bool} {a : α}
    (ha : a ∈ l) (hp : p a = false) : (l.filter p).length < l.length :=
  List.length_filter_lt_length_iff_exists.mpr ⟨a, ha, by rw [hp]; decide⟩

/-- An upload that is not refused removes a row, and only removes rows. -/
theorem upload_progress (hcall : Call raw bad s s') (hkeys : (s.pending.map Observation.key).Nodup)
    (hopen : Unblocked raw bad s) (hne : s.pending ≠ []) :
    s'.pending.Sublist s.pending ∧ s'.pending.length < s.pending.length := by
  obtain ⟨clock, random, server, hafter, hserver, rfl⟩ := hcall
  cases hsel : selection raw s with
  | ok rows =>
    obtain ⟨batch, hstart, rfl⟩ := startUpload_of_selection hafter random hsel hne
    obtain ⟨hrows, hmem⟩ := selection_spec hsel hne
    rw [Unblocked, hsel] at hopen
    have hpending := finishUpload_accepting (s := s) clock
      s.synchronization.consecutiveFailureCount hrows
      (startUpload_nodup hkeys hstart)
    rw [uploadOnce, hstart]
    dsimp only
    rw [hserver.accepts batch hopen, hpending]
    refine ⟨List.filter_sublist, ?_⟩
    obtain ⟨o, ho⟩ := List.exists_mem_of_ne_nil _ hrows
    refine length_filter_lt (hmem o ho) (decide_eq_false ?_)
    rw [not_not]
    exact List.mem_map_of_mem ho
  | error e =>
    obtain ⟨o, ho, hkind, code, details, hcode, hdetails, hstart⟩ :=
      startUpload_of_error hafter random hsel
    have hfree := (unblocked_of_error hsel hkind).mp hopen
    obtain ⟨t, ht, hpending⟩ :=
      (quarantineObservation_spec ho hcode hdetails).1 hfree
    rw [uploadOnce, hstart]
    dsimp only
    rw [ht]
    dsimp only
    rw [hpending]
    exact ⟨List.filter_sublist, length_filter_lt ho (by simp)⟩

/-- An upload that is refused leaves both tables alone. -/
theorem upload_blocked (hcall : Call raw bad s s') (hblocked : ¬ Unblocked raw bad s) :
    s'.pending = s.pending ∧ s'.rejected = s.rejected := by
  obtain ⟨clock, random, server, hafter, hserver, rfl⟩ := hcall
  cases hsel : selection raw s with
  | ok rows =>
    rw [Unblocked, hsel] at hblocked
    push Not at hblocked
    obtain ⟨o, ho, hbad⟩ := hblocked
    have hne : s.pending ≠ [] := by
      intro hnil
      unfold selection oldest at hsel
      rw [hnil] at hsel
      cases hsel
      cases ho
    obtain ⟨batch, hstart, rfl⟩ := startUpload_of_selection hafter random hsel hne
    obtain ⟨status, retryAfter, response, trailing, hanswer, hstatus⟩ :=
      hserver.refuses batch ⟨o, ho, by simpa using hbad⟩
    have hrefused : status < 200 ∨ 300 ≤ status := by omega
    rw [uploadOnce, hstart]
    dsimp only
    rw [hanswer]
    have hfailed := finishUpload_refused (s := s) clock
      s.synchronization.consecutiveFailureCount batch retryAfter response
      trailing hrefused
    exact ⟨hfailed.1, hfailed.2.1⟩
  | error e =>
    obtain ⟨o, ho, hkind, code, details, hcode, hdetails, hstart⟩ :=
      startUpload_of_error hafter random hsel
    have htaken := not_not.mp fun h =>
      hblocked ((unblocked_of_error hsel hkind).mpr h)
    obtain ⟨e', he'⟩ := (quarantineObservation_spec ho hcode hdetails).2 htaken
    rw [uploadOnce, hstart]
    dsimp only
    rw [he']
    exact ⟨rfl, rfl⟩

/-- An upload without pending rows changes nothing. -/
theorem upload_empty (hcall : Call raw bad s s') (hnil : s.pending = []) : s' = s := by
  obtain ⟨clock, random, server, hafter, _, rfl⟩ := hcall
  have hready : readyObservations s clock.now (defaultMaxBatchObservations + 1) = .ok [] := by
    rw [readyObservations_oldest hafter, oldest, hnil]
    rfl
  have hstart : startUpload raw s clock.now (newBatchId random).text = .noReadyData := by
    rw [startUpload, if_neg hafter.ready, buildBatch, if_neg (by decide), hready]
  rw [uploadOnce, hstart]

theorem call_sublist (hcall : Call raw bad s s') (hkeys : (s.pending.map Observation.key).Nodup) :
    s'.pending.Sublist s.pending := by
  by_cases hnil : s.pending = []
  · rw [upload_empty hcall hnil]
  · by_cases hopen : Unblocked raw bad s
    · exact (upload_progress hcall hkeys hopen hnil).1
    · rw [(upload_blocked hcall hopen).1]

/-! ## Any number of calls -/

/-- No acceptable observation is left. -/
def Drained (bad : List Char → Bool) (s : Store) : Prop :=
  ∀ row ∈ s.pending, bad row.canonicalPayload = true

theorem selection_congr (hpending : s'.pending = s.pending) :
    selection raw s' = selection raw s := by
  unfold selection oldest
  rw [hpending]

theorem unblocked_congr (hpending : s'.pending = s.pending) (hrejected : s'.rejected = s.rejected) :
    Unblocked raw bad s' ↔ Unblocked raw bad s := by
  unfold Unblocked
  rw [selection_congr hpending, hrejected]

section Run

variable {t : ℕ → Store} {n : ℕ}

theorem run_nodup (hcalls : ∀ i < n, Call raw bad (t i) (t (i + 1)))
    (hkeys : ((t 0).pending.map Observation.key).Nodup) (i : ℕ) (hi : i ≤ n) :
    ((t i).pending.map Observation.key).Nodup := by
  induction i with
  | zero => exact hkeys
  | succ i ih =>
    have hprevious := ih (by omega)
    exact List.Nodup.sublist
      ((call_sublist (hcalls i hi) hprevious).map _) hprevious

/-- Rows only leave. -/
theorem run_sublist (hcalls : ∀ i < n, Call raw bad (t i) (t (i + 1)))
    (hkeys : ((t 0).pending.map Observation.key).Nodup) {i j : ℕ}
    (hij : i ≤ j) (hj : j ≤ n) : (t j).pending.Sublist (t i).pending := by
  induction j, hij using Nat.le_induction with
  | base => exact List.Sublist.refl _
  | succ j _ ih =>
    have hstep := call_sublist (hcalls j hj)
      (run_nodup hcalls hkeys j (by omega))
    exact hstep.trans (ih (by omega))

/-- Once an upload is refused, all later ones are. -/
theorem run_blocked (hcalls : ∀ i < n, Call raw bad (t i) (t (i + 1)))
    {i j : ℕ} (hij : i ≤ j) (hj : j ≤ n) (hblocked : ¬ Unblocked raw bad (t i)) :
    (t j).pending = (t i).pending ∧ (t j).rejected = (t i).rejected := by
  induction j, hij using Nat.le_induction with
  | base => exact ⟨rfl, rfl⟩
  | succ j _ ih =>
    obtain ⟨hpending, hrejected⟩ := ih (by omega)
    have hsame : ¬ Unblocked raw bad (t j) := fun h =>
      hblocked ((unblocked_congr hpending hrejected).mp h)
    obtain ⟨hpending', hrejected'⟩ := upload_blocked (hcalls j hj) hsame
    exact ⟨hpending'.trans hpending, hrejected'.trans hrejected⟩

/-- As long as uploads are not refused and acceptable rows are left, each one
removes a row. -/
theorem run_shrinks (hcalls : ∀ i < n, Call raw bad (t i) (t (i + 1)))
    (hkeys : ((t 0).pending.map Observation.key).Nodup)
    (hopen : ∀ i < n, ¬ Drained bad (t i) ∧ Unblocked raw bad (t i))
    (i : ℕ) (hi : i ≤ n) : (t i).pending.length + i ≤ (t 0).pending.length := by
  induction i with
  | zero => exact Nat.le_refl _
  | succ i ih =>
    have hprevious := ih (by omega)
    obtain ⟨hleft, hunblocked⟩ := hopen i hi
    have hne : (t i).pending ≠ [] := by
      intro hnil
      exact hleft fun row hrow => by rw [hnil] at hrow; cases hrow
    have hless := (upload_progress (hcalls i hi)
      (run_nodup hcalls hkeys i (by omega)) hunblocked hne).2
    omega

end Run

/-- As many uploads as there are rows remove every acceptable observation if
and only if no upload is refused while one is left. -/
theorem drained_iff_unblocked {t : ℕ → Store} {n : ℕ}
    (hcalls : ∀ i < n, Call raw bad (t i) (t (i + 1)))
    (hkeys : ((t 0).pending.map Observation.key).Nodup) (hn : (t 0).pending.length ≤ n) :
    Drained bad (t n) ↔ ∀ i < n, Drained bad (t i) ∨ Unblocked raw bad (t i) := by
  constructor
  · intro hdrained i hi
    by_contra hcontra
    rw [not_or] at hcontra
    obtain ⟨hpending, _⟩ := run_blocked hcalls (Nat.le_of_lt hi) (Nat.le_refl n)
      hcontra.2
    rw [Drained, hpending] at hdrained
    exact hcontra.1 hdrained
  · intro hopen
    by_cases hearly : ∃ i < n, Drained bad (t i)
    · obtain ⟨i, hi, hdrained⟩ := hearly
      intro row hrow
      exact hdrained row
        ((run_sublist hcalls hkeys (Nat.le_of_lt hi) (Nat.le_refl n)).subset hrow)
    · push Not at hearly
      have hcount := run_shrinks hcalls hkeys
        (fun i hi => ⟨hearly i hi, (hopen i hi).resolve_left (hearly i hi)⟩)
        n (Nat.le_refl n)
      have hnil : (t n).pending = [] := List.length_eq_zero_iff.mp (by omega)
      intro row hrow
      rw [hnil] at hrow
      cases hrow

/-! ## An unacceptable row, first and last -/

/-- The payload that the server below refuses. -/
def refusedPayload (payload : List Char) : Bool := payload == "0".toList

def refusedObservation (id : String) (revision : ℤ) : Observation :=
  { queuedObservation id with
    canonicalPayload := "0".toList
    agentConfigRevision := revision }

def refusingServer (batch : Batch) : HttpOutcome :=
  if batch.observations.any fun o => refusedPayload o.canonicalPayload then
    .answered 422 0 none false
  else .answered 200 0 (some (acceptingAnswer batch)) false

theorem refusingServer_wholeRequest : WholeRequestServer refusedPayload refusingServer where
  refuses batch h := by
    obtain ⟨o, ho, hbad⟩ := h
    refine ⟨422, 0, none, false, if_pos ?_, .inr rfl⟩
    exact List.any_eq_true.mpr ⟨o, ho, hbad⟩
  accepts batch h := by
    refine if_neg ?_
    rw [List.any_eq_true]
    rintro ⟨o, ho, hbad⟩
    rw [h o ho] at hbad
    cases hbad

/-- Uploads at one time, each with the same draws. -/
def uploads (s : Store) : ℕ → Store
  | 0 => s
  | i + 1 => uploadOnce plainJson (steadyClock (120 * second))
      (newBatchId (.ofByte 0)).text refusingServer (uploads s i)

theorem uploads_call {s : Store} {i : ℕ}
    (h : AfterBackoff (uploads s i) (steadyClock (120 * second))) :
    Call plainJson refusedPayload (uploads s i) (uploads s (i + 1)) :=
  ⟨_, .ofByte 0, _, h, refusingServer_wholeRequest, rfl⟩

theorem afterBackoff_of_all {s : Store} {clock : UploadClock}
    (hqueue : s.synchronization.serverBackoffUntil.all
      (fun t => decide (t ≤ clock.now)) = true)
    (hrows : s.pending.all (fun row => utf8Le (formatTime row.nextAttemptAt)
      (formatTime clock.now)) = true) : AfterBackoff s clock where
  queue t ht := by
    rw [ht] at hqueue
    exact of_decide_eq_true hqueue
  rows := List.all_eq_true.mp hrows

theorem retryDelay_zero (failureCount : ℕ) : retryDelay failureCount 0 0 = 0 := by
  have hsecond : (0 : ℤ) < second := by decide
  have hmaximum : 0 ≤ min (initialRetryDelay * 2 ^ min (failureCount - 1) 30)
      maximumRetryDelay :=
    le_min (mul_nonneg hsecond.le (by positivity)) (by decide)
  rw [retryDelay, min_eq_left hmaximum, max_self, if_neg (by decide)]
  decide

/-- The unacceptable row is last and in a batch of its own. -/
def orderedStore : Store :=
  { pending := [queuedObservation "a", refusedObservation "b" 2] }

/-- The unacceptable row is first. -/
def blockedStore : Store :=
  { pending := [refusedObservation "a" 1, queuedObservation "b"] }

theorem drained_orderedStore : Drained refusedPayload (uploads orderedStore 2) := by
  have hfirst : AfterBackoff (uploads orderedStore 0) (steadyClock (120 * second)) :=
    afterBackoff_of_all (by decide +kernel) (by decide +kernel)
  have hsecond : AfterBackoff (uploads orderedStore 1) (steadyClock (120 * second)) :=
    afterBackoff_of_all (by decide +kernel) (by decide +kernel)
  have hcalls : ∀ i < 2, Call plainJson refusedPayload (uploads orderedStore i)
      (uploads orderedStore (i + 1)) := by
    intro i hi
    interval_cases i
    · exact uploads_call hfirst
    · exact uploads_call hsecond
  refine (drained_iff_unblocked hcalls (by decide +kernel)
    (Nat.le_refl 2)).mpr fun i hi => ?_
  interval_cases i
  · exact .inr (by decide +kernel)
  · exact .inl (List.all_eq_true.mp (by decide +kernel))

theorem selection_blockedStore : ∃ rows, selection plainJson blockedStore = .ok rows ∧
      (rows.any fun o => refusedPayload o.canonicalPayload) = true := by
  have hok : (selection plainJson blockedStore).toBool = true := by decide +kernel
  have hblocked : ¬ Unblocked plainJson refusedPayload blockedStore := by
    decide +kernel
  cases hsel : selection plainJson blockedStore with
  | error e =>
    rw [hsel] at hok
    cases hok
  | ok rows =>
    rw [Unblocked, hsel] at hblocked
    refine ⟨rows, rfl, ?_⟩
    simpa using hblocked

theorem uploads_blockedStore (i : ℕ) : (uploads blockedStore i).pending = blockedStore.pending ∧
      AfterBackoff (uploads blockedStore i) (steadyClock (120 * second)) := by
  have hrows : ∀ row ∈ blockedStore.pending, utf8Le (formatTime row.nextAttemptAt)
      (formatTime (120 * second)) = true :=
    List.all_eq_true.mp (by decide +kernel)
  induction i with
  | zero => exact ⟨rfl, ⟨nofun, hrows⟩⟩
  | succ i ih =>
    obtain ⟨hpending, hafter⟩ := ih
    obtain ⟨rows, hsel, hbad⟩ := selection_blockedStore
    rw [← selection_congr hpending] at hsel
    obtain ⟨batch, hstart, rfl⟩ := startUpload_of_selection hafter (.ofByte 0)
      hsel (by rw [hpending]; exact List.cons_ne_nil _ _)
    have hstep : uploads blockedStore (i + 1) = recordFailure
        (steadyClock (120 * second))
        (uploads blockedStore i).synchronization.consecutiveFailureCount 0
        (uploads blockedStore i) := by
      rw [uploads, uploadOnce, hstart]
      dsimp only
      rw [refusingServer, if_pos hbad]
      rfl
    rw [hstep]
    refine ⟨hpending, ?_, by exact hpending ▸ hrows⟩
    intro t ht
    have hdelay := Option.some.inj ht
    rw [← hdelay]
    show 120 * second + retryDelay _ 0 0 ≤ 120 * second
    rw [retryDelay_zero, Int.add_zero]

/-- No number of uploads is enough: the row behind an unacceptable one stays. -/
theorem no_bound_drains : ¬ ∃ bound : ℕ → ℕ,
    ∀ (raw : RawJson) (bad : List Char → Bool) (t : ℕ → Store),
      ((t 0).pending.map Observation.key).Nodup → (∀ i, Call raw bad (t i) (t (i + 1))) →
      Drained bad (t (bound (t 0).pending.length)) := by
  rintro ⟨bound, hbound⟩
  have hdrained := hbound plainJson refusedPayload (uploads blockedStore)
    (by decide +kernel) fun i => uploads_call (uploads_blockedStore i).2
  rw [Drained, (uploads_blockedStore _).1] at hdrained
  have hbad := hdrained (queuedObservation "b")
    (List.mem_cons_of_mem _ List.mem_cons_self)
  revert hbad
  decide

end Bifrostnms.Proofs
