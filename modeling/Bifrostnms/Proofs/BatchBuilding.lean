import Bifrostnms.Agent.Upload
import Mathlib.Data.List.Infix

/-!
# Building a batch

The loop of `BuildBatch` takes rows from the front while they fit. Where it stops
is what makes the rows that it has taken the most: the batch is full, the next
row has another revision, or the upload with the next row is too large
(`selectRows_ok`). With more rows an upload only grows, so no longer list of the
first rows fits either (`not_fits_of_stop`).

The loop keeps an upload, the selected rows and the encoding of the upload. They
stay in step, also where a row is taken back, so the selected rows say all there
is to say (`batchLoop_eq`).
-/

namespace Bifrostnms.Proofs

open Bifrostnms.Lib Bifrostnms.Agent

/-! ## The size of an upload -/

/-- The upload of rows. -/
def uploadOf (revision : ℤ) (batchId : String) (rows : List Observation) : ObservationUpload :=
  ⟨protocolVersion, 1, revision, batchId, rows.map Observation.canonicalPayload⟩

def uploadSize (raw : RawJson) (revision : ℤ) (batchId : String) (rows : List Observation) : ℕ :=
  payloadSize (uploadText raw (uploadOf revision batchId rows))

/-- Rows that `BuildBatch` may send together. -/
structure Fits (raw : RawJson) (maxObservations maxBytes : ℕ) (revision : ℤ)
    (batchId : String) (rows : List Observation) : Prop where
  sameRevision : ∀ o ∈ rows, o.agentConfigRevision = revision
  count : rows.length ≤ maxObservations
  bytes : uploadSize raw revision batchId rows ≤ maxBytes

variable {raw : RawJson} {maxObservations maxBytes : ℕ} {revision : ℤ}
  {batchId : String} {selected ready out rows : List Observation} {e : BuildError}

theorem payloadSize_append (a b : List Char) :
    payloadSize (a ++ b) = payloadSize a + payloadSize b := by
  unfold payloadSize
  rw [utf8_append, List.length_append]

theorem payloadSize_cons (c : Char) (b : List Char) :
    payloadSize (c :: b) = payloadSize [c] + payloadSize b :=
  payloadSize_append [c] b

theorem payloadSize_intercalate_le (separator : List Char) (l m : List (List Char)) :
    payloadSize (List.intercalate separator l) ≤
      payloadSize (List.intercalate separator (l ++ m)) := by
  induction l with
  | nil => simp [payloadSize, utf8]
  | cons x l ih =>
    cases l with
    | nil =>
      cases m with
      | nil => exact le_refl _
      | cons y m =>
        rw [List.singleton_append, List.intercalate_cons_cons, List.intercalate_singleton,
          List.append_assoc, payloadSize_append]
        omega
    | cons y l =>
      rw [List.cons_append, List.cons_append, List.intercalate_cons_cons,
        List.intercalate_cons_cons, payloadSize_append, payloadSize_append (x ++ separator)]
      rw [List.cons_append] at ih
      omega

/-- With more rows an upload is not shorter. -/
theorem uploadSize_le (raw : RawJson) (revision : ℤ) (batchId : String)
    (rows more : List Observation) :
    uploadSize raw revision batchId rows ≤ uploadSize raw revision batchId (rows ++ more) := by
  have hsize := payloadSize_intercalate_le [',']
    ((rows.map Observation.canonicalPayload).map raw.compact)
    ((more.map Observation.canonicalPayload).map raw.compact)
  unfold uploadSize uploadOf
  simp only [uploadText, List.map_append, payloadSize_append, payloadSize_cons _ (_ :: _),
    payloadSize_cons _ (_ ++ _)]
  repeat refine Nat.add_le_add_left ?_ _
  exact Nat.add_le_add_right hsize _

/-! ## What the loop selects -/

/-- Why the loop stops in front of the rows that are left. -/
def Stops (raw : RawJson) (maxObservations maxBytes : ℕ) (revision : ℤ)
    (batchId : String) (out : List Observation) : List Observation → Prop
  | [] => True
  | o :: _ => out.length = maxObservations ∨ o.agentConfigRevision ≠ revision ∨
      out ≠ [] ∧ maxBytes < uploadSize raw revision batchId (out ++ [o])

theorem selectRows_ok (h : selectRows raw maxObservations maxBytes revision batchId
      selected ready = .ok out) (hcount : selected.length ≤ maxObservations) :
    ∃ more rest, ready = more ++ rest ∧ out = selected ++ more ∧
      (∀ o ∈ more, o.agentConfigRevision = revision) ∧ out.length ≤ maxObservations ∧
      (more ≠ [] → uploadSize raw revision batchId out ≤ maxBytes) ∧
      Stops raw maxObservations maxBytes revision batchId out rest := by
  induction ready generalizing selected with
  | nil =>
    cases h
    exact ⟨[], [], rfl, (List.append_nil _).symm, by simp, hcount,
      fun hne => absurd rfl hne, trivial⟩
  | cons o ready ih =>
    rw [selectRows] at h
    split at h
    · next hstop =>
        cases h
        exact ⟨[], o :: ready, rfl, (List.append_nil _).symm, by simp, hcount,
          fun hne => absurd rfl hne, hstop.imp_right .inl⟩
    · next hgo =>
        rw [not_or, not_not] at hgo
        split at h
        · cases h
        · dsimp only at h
          split at h
          · next hlarge =>
              split at h
              · cases h
              · next hne =>
                  cases h
                  exact ⟨[], o :: ready, rfl, (List.append_nil _).symm, by simp, hcount,
                    fun hne => absurd rfl hne, .inr (.inr ⟨hne, hlarge⟩)⟩
          · next hsmall =>
              have hlength : (selected ++ [o]).length ≤ maxObservations := by
                rw [List.length_append, List.length_singleton]
                omega
              obtain ⟨more, rest, rfl, rfl, hrevision, hout, hbytes, hstops⟩ := ih h hlength
              refine ⟨o :: more, rest, rfl, List.append_cons selected o more ▸ rfl, ?_,
                hout, fun _ => ?_, hstops⟩
              · exact List.forall_mem_cons.mpr ⟨hgo.2, hrevision⟩
              · cases more with
                | nil =>
                  rw [List.append_nil]
                  exact not_lt.mp hsmall
                | cons o' more => exact hbytes (List.cons_ne_nil o' more)

/-- The selected rows are the first of those that are ready. -/
theorem selectRows_isPrefix (h : selectRows raw maxObservations maxBytes revision batchId
    [] ready = .ok out) : out <+: ready := by
  obtain ⟨more, rest, rfl, rfl, -⟩ := selectRows_ok h (Nat.zero_le _)
  exact List.prefix_append _ rest

theorem selectRows_error (h : selectRows raw maxObservations maxBytes revision batchId
      selected ready = .error e) : ∃ more o rest, ready = more ++ o :: rest ∧
      (e = .invalid o ∧ raw.valid o.canonicalPayload = false ∨
        e = .oversized o ∧ selected ++ more = [] ∧ o.agentConfigRevision = revision ∧
          maxBytes < uploadSize raw revision batchId [o]) := by
  induction ready generalizing selected with
  | nil => cases h
  | cons o ready ih =>
    rw [selectRows] at h
    split at h
    · cases h
    · next hgo =>
        rw [not_or, not_not] at hgo
        split at h
        · next hinvalid =>
            cases h
            exact ⟨[], o, ready, rfl, .inl ⟨rfl, by simpa using hinvalid⟩⟩
        · dsimp only at h
          split at h
          · next hlarge =>
              split at h
              · next hnil =>
                  subst hnil
                  cases h
                  exact ⟨[], o, ready, rfl, .inr ⟨rfl, rfl, hgo.2, hlarge⟩⟩
              · cases h
          · obtain ⟨more, o', rest, rfl, hcause⟩ := ih h
            refine ⟨o :: more, o', rest, rfl, hcause.imp_right fun ⟨he, hnil, hlarge⟩ => ?_⟩
            rw [List.append_assoc, List.append_eq_nil_iff] at hnil
            cases hnil.2

/-- The loop does not look further than one row after the batch is full. -/
theorem selectRows_take {n : ℕ} (hcount : selected.length ≤ maxObservations)
    (hn : maxObservations < selected.length + n) :
    selectRows raw maxObservations maxBytes revision batchId selected (ready.take n) =
      selectRows raw maxObservations maxBytes revision batchId selected ready := by
  induction ready generalizing selected n with
  | nil => rw [List.take_nil]
  | cons o ready ih =>
    obtain ⟨n, rfl⟩ : ∃ m, n = m + 1 := ⟨n - 1, by omega⟩
    rw [List.take_succ_cons, selectRows, selectRows]
    by_cases hstop : selected.length = maxObservations ∨ o.agentConfigRevision ≠ revision
    · rw [if_pos hstop, if_pos hstop]
    · rw [if_neg hstop, if_neg hstop]
      rw [not_or] at hstop
      have hlength : (selected ++ [o]).length = selected.length + 1 := by
        rw [List.length_append, List.length_singleton]
      rw [ih (by omega) (by omega)]

/-- Where the loop stops, no longer list of the first rows fits. -/
theorem not_fits_of_stop {rest : List Observation}
    (hstops : Stops raw maxObservations maxBytes revision batchId out rest)
    (hrows : rows <+: out ++ rest)
    (hfits : Fits raw maxObservations maxBytes revision batchId rows) : rows <+: out := by
  rcases List.prefix_or_prefix_of_prefix hrows (List.prefix_append out rest) with h | h
  · exact h
  · obtain ⟨more, rfl⟩ := h
    cases more with
    | nil => rw [List.append_nil]
    | cons o more =>
      exfalso
      have hrest : o :: more <+: rest := (List.prefix_append_right_inj out).mp hrows
      cases rest with
      | nil => cases List.prefix_nil.mp hrest
      | cons o' rest =>
        obtain ⟨rfl, -⟩ := List.cons_prefix_cons.mp hrest
        have hlength := hfits.count
        rw [List.length_append, List.length_cons] at hlength
        rcases hstops with hfull | hrevision | ⟨-, hlarge⟩
        · omega
        · exact hrevision (hfits.sameRevision o (by simp))
        · have hsize := uploadSize_le raw revision batchId (out ++ [o]) more
          rw [List.append_assoc, List.singleton_append] at hsize
          have hbytes := hfits.bytes
          omega

/-! ## The values of the loop -/

/-- The values that belong to the selected rows. -/
def encodedRows (raw : RawJson) (revision : ℤ) (batchId : String)
    (rows : List Observation) : EncodedBatch :=
  ⟨⟨uploadOf revision batchId rows, rows⟩,
    if rows = [] then [] else uploadText raw (uploadOf revision batchId rows)⟩

theorem batchLoop_eq :
    batchLoop raw maxObservations maxBytes (encodedRows raw revision batchId selected) ready =
      (selectRows raw maxObservations maxBytes revision batchId selected ready).map
        (encodedRows raw revision batchId) := by
  induction ready generalizing selected with
  | nil => rfl
  | cons o ready ih =>
    have hupload : { uploadOf revision batchId selected with
        observations := (uploadOf revision batchId selected).observations ++
          [o.canonicalPayload] } = uploadOf revision batchId (selected ++ [o]) := by
      simp [uploadOf]
    have hnext : encodedRows raw revision batchId (selected ++ [o]) =
        ⟨⟨uploadOf revision batchId (selected ++ [o]), selected ++ [o]⟩,
          uploadText raw (uploadOf revision batchId (selected ++ [o]))⟩ := by
      simp [encodedRows]
    rw [batchLoop, selectRows]
    show ite (selected.length = maxObservations ∨ o.agentConfigRevision ≠ revision) _ _ = _
    split
    · rfl
    · split
      · rfl
      · dsimp only [encodedRows]
        rw [hupload]
        show ite (maxBytes < uploadSize raw revision batchId (selected ++ [o])) _ _ = Except.map _
            (ite (maxBytes < uploadSize raw revision batchId (selected ++ [o])) _ _)
        split
        · split
          · rfl
          · next hne => simp [encodedRows, uploadOf, Except.map, hne]
        · rw [← hnext, ih]

theorem assembleBatch_cons (raw : RawJson) (maxObservations maxBytes : ℕ) (batchId : String)
    (first : Observation) (rest : List Observation) :
    assembleBatch raw maxObservations maxBytes batchId (first :: rest) =
      (selectRows raw maxObservations maxBytes first.agentConfigRevision batchId []
        (first :: rest)).map fun rows =>
          some (encodedRows raw first.agentConfigRevision batchId rows) := by
  show (batchLoop raw maxObservations maxBytes
    (encodedRows raw first.agentConfigRevision batchId []) (first :: rest)).map some = _
  rw [batchLoop_eq]
  cases selectRows raw maxObservations maxBytes first.agentConfigRevision batchId []
    (first :: rest) <;> rfl

/-- Without its encoding it is the batch of `buildBatch`. -/
theorem encodedBatch_toBatch (raw : RawJson) (s : Store) (now : ℤ)
    (maxObservations maxBytes : ℕ) (batchId : String) :
    (encodedBatch raw s now maxObservations maxBytes batchId).map
        (Option.map EncodedBatch.toBatch) =
      buildBatch raw s now maxObservations maxBytes batchId := by
  unfold encodedBatch buildBatch
  split
  · rfl
  · split
    · next hready =>
        rw [hready]
        rfl
    · next ready hready =>
        rw [hready]
        cases ready with
        | nil => rfl
        | cons first rest =>
          rw [assembleBatch_cons]
          dsimp only
          cases selectRows raw maxObservations maxBytes first.agentConfigRevision batchId []
            (first :: rest) <;> rfl

/-! ## BuildBatch -/

/-- The first row is selected, unless it cannot be sent at all. -/
theorem selectRows_first {first : Observation} {rest : List Observation}
    (hmax : 0 < maxObservations)
    (h : selectRows raw maxObservations maxBytes first.agentConfigRevision
      batchId [] (first :: rest) = .ok out) : ∃ more, out = first :: more := by
  obtain ⟨more, left, hsplit, hout, -, -, -, hstops⟩ := selectRows_ok h (Nat.zero_le _)
  obtain rfl : out = more := hout
  cases out with
  | nil =>
    obtain rfl : first :: rest = left := hsplit
    rcases hstops with hfull | hrevision | ⟨hne, -⟩
    · exact absurd hfull hmax.ne
    · exact absurd rfl hrevision
    · exact absurd rfl hne
  | cons o out =>
    obtain ⟨rfl, -⟩ := List.cons.inj hsplit
    exact ⟨out, rfl⟩

theorem assembleBatch_some {b : EncodedBatch} (hmax : 0 < maxObservations)
    (h : assembleBatch raw maxObservations maxBytes batchId ready = .ok (some b)) :
    ∃ first rest, ready = first :: rest ∧ b.observations <+: ready ∧ b.observations ≠ [] ∧
      Fits raw maxObservations maxBytes first.agentConfigRevision batchId b.observations ∧
      (∀ rows, rows <+: ready →
        Fits raw maxObservations maxBytes first.agentConfigRevision batchId rows →
        rows <+: b.observations) ∧
      b.upload = uploadOf first.agentConfigRevision batchId b.observations ∧
      b.body = uploadText raw b.upload := by
  cases ready with
  | nil => cases h
  | cons first rest =>
    refine ⟨first, rest, rfl, ?_⟩
    rw [assembleBatch_cons] at h
    cases hselect : selectRows raw maxObservations maxBytes first.agentConfigRevision batchId
        [] (first :: rest) with
    | error e =>
      rw [hselect] at h
      cases h
    | ok out =>
      rw [hselect] at h
      cases h
      obtain ⟨tail, rfl⟩ := selectRows_first hmax hselect
      obtain ⟨more, left, hsplit, hout, hrevision, hcount, hbytes, hstops⟩ :=
        selectRows_ok hselect (Nat.zero_le _)
      obtain rfl : first :: tail = more := hout
      refine ⟨⟨left, hsplit.symm⟩, List.cons_ne_nil _ _,
        ⟨hrevision, hcount, hbytes (List.cons_ne_nil _ _)⟩, fun rows hrows hfits => ?_, rfl, rfl⟩
      rw [hsplit] at hrows
      exact not_fits_of_stop hstops hrows hfits

theorem assembleBatch_error
    (h : assembleBatch raw maxObservations maxBytes batchId ready = .error e) :
    ∃ o ∈ ready, e = .invalid o ∧ raw.valid o.canonicalPayload = false ∨
      e = .oversized o ∧ maxBytes < uploadSize raw o.agentConfigRevision batchId [o] := by
  cases ready with
  | nil => cases h
  | cons first rest =>
    rw [assembleBatch_cons] at h
    cases hselect : selectRows raw maxObservations maxBytes first.agentConfigRevision batchId
        [] (first :: rest) with
    | ok out =>
      rw [hselect] at h
      cases h
    | error e' =>
      rw [hselect] at h
      cases h
      obtain ⟨more, o, left, hsplit, hcause⟩ := selectRows_error hselect
      refine ⟨o, by rw [hsplit]; simp, ?_⟩
      rcases hcause with hinvalid | ⟨he, -, hrevision, hlarge⟩
      · exact .inl hinvalid
      · rw [hrevision]
        exact .inr ⟨he, hlarge⟩

theorem assembleBatch_take {n : ℕ} (hn : maxObservations < n) :
    assembleBatch raw maxObservations maxBytes batchId (ready.take n) =
      assembleBatch raw maxObservations maxBytes batchId ready := by
  obtain ⟨n, rfl⟩ : ∃ m, n = m + 1 := ⟨n - 1, by omega⟩
  cases ready with
  | nil => rfl
  | cons first rest =>
    have htake : selectRows raw maxObservations maxBytes first.agentConfigRevision batchId []
        ((first :: rest).take (n + 1)) =
          selectRows raw maxObservations maxBytes first.agentConfigRevision batchId []
            (first :: rest) :=
      selectRows_take (Nat.zero_le _) (by rw [List.length_nil]; omega)
    rw [List.take_succ_cons] at htake ⊢
    rw [assembleBatch_cons, assembleBatch_cons, htake]

/-- `ReadyObservations` with a limit gives the first rows of those it gives with
a higher one. -/
theorem readyObservations_take {s : Store} {now : ℤ} {n limit : ℕ} (hn : 1 ≤ n)
    (hle : n ≤ limit) (h : readyObservations s now limit = .ok ready) :
    readyObservations s now n = .ok (ready.take n) := by
  unfold readyObservations at h ⊢
  rw [if_neg (by omega)] at h ⊢
  cases h
  rw [List.take_take, min_eq_left hle]

/-- For positive limits: the batch of a list of ready rows is its longest
beginning that may be sent together, with its encoding; there is one for every
list but the empty one, unless a row of the list is invalid or too large alone;
and `BuildBatch` is this, for the rows that are ready in a store. -/
theorem buildBatch_longest (raw : RawJson) (maxObservations maxBytes : ℕ)
    (batchId : String) (hcount : 1 ≤ maxObservations) (hbytes : 1 ≤ maxBytes) :
    (∀ ready b, assembleBatch raw maxObservations maxBytes batchId ready = .ok (some b) →
      ∃ first rest, ready = first :: rest ∧ b.observations <+: ready ∧ b.observations ≠ [] ∧
        Fits raw maxObservations maxBytes first.agentConfigRevision batchId b.observations ∧
        (∀ rows, rows <+: ready →
          Fits raw maxObservations maxBytes first.agentConfigRevision batchId rows →
          rows <+: b.observations) ∧
        b.upload = uploadOf first.agentConfigRevision batchId b.observations ∧
        b.body = uploadText raw b.upload) ∧
    (∀ ready, assembleBatch raw maxObservations maxBytes batchId ready = .ok none → ready = []) ∧
    (∀ ready e, assembleBatch raw maxObservations maxBytes batchId ready = .error e →
      ∃ o ∈ ready, e = .invalid o ∧ raw.valid o.canonicalPayload = false ∨
        e = .oversized o ∧ maxBytes < uploadSize raw o.agentConfigRevision batchId [o]) ∧
    (∀ s now limit ready, maxObservations < limit → readyObservations s now limit = .ok ready →
      encodedBatch raw s now maxObservations maxBytes batchId =
        assembleBatch raw maxObservations maxBytes batchId ready) := by
  refine ⟨fun ready b h => assembleBatch_some hcount h, fun ready h => ?_,
    fun ready e h => assembleBatch_error h, fun s now limit ready hlimit hready => ?_⟩
  · cases ready with
    | nil => rfl
    | cons first rest =>
      rw [assembleBatch_cons] at h
      cases hselect : selectRows raw maxObservations maxBytes first.agentConfigRevision batchId
        [] (first :: rest) <;> rw [hselect] at h <;> cases h
  · unfold encodedBatch
    rw [if_neg (by omega), readyObservations_take (by omega) hlimit hready]
    exact assembleBatch_take (by omega)

/-- Three rows with room for two. -/
theorem buildBatch_longest_two : ∃ b, assembleBatch ⟨fun _ => true, id⟩ 2 1000 "b1"
        (List.replicate 3 ⟨0, "o1", "m1", 1, 1, "tcp", ['1'], 0, 0, 0, none, none⟩) =
          .ok (some b) ∧ b.observations.length = 2 ∧
      b.body = uploadText ⟨fun _ => true, id⟩ b.upload := by
  obtain ⟨b, hb, hlength⟩ : ∃ b, assembleBatch ⟨fun _ => true, id⟩ 2 1000 "b1"
      (List.replicate 3 ⟨0, "o1", "m1", 1, 1, "tcp", ['1'], 0, 0, 0, none, none⟩) =
        .ok (some b) ∧ b.observations.length = 2 := ⟨_, rfl, rfl⟩
  obtain ⟨hsome, -⟩ := buildBatch_longest ⟨fun _ => true, id⟩ 2 1000 "b1" (by decide) (by decide)
  obtain ⟨_, _, _, _, _, _, _, _, hbody⟩ := hsome _ b hb
  exact ⟨b, hb, hlength, hbody⟩

end Bifrostnms.Proofs
