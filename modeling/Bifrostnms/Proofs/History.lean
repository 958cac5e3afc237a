import Bifrostnms.Backend.Dashboard
import Bifrostnms.Proofs.Delivery

/-!
# The history of what was delivered

`query_probe_history` joins the observations with the typed tables. No identity
has two rows in either, so the join neither repeats an observation nor gives it
the result of another.
-/

namespace Bifrostnms.Proofs

open Bifrostnms.Lib Bifrostnms.Backend ServerTables

theorem partners_le_one {db : Database} (h : (db.results.map TypedRow.identity).Nodup)
    (o : CommonRow) : (db.results.filter (typedOn o)).length ≤ 1 := by
  have hnodup := h.sublist (List.filter_sublist (p := typedOn o).map _)
  have hsame : ∀ row ∈ db.results.filter (typedOn o), row.identity = o.identity := by
    simp [typedOn]
  match hrows : db.results.filter (typedOn o) with
  | [] | [_] => simp
  | a :: b :: rest =>
    rw [hrows] at hnodup hsame
    simp_all

/-- In every state that a run reaches, a history holds the stored observations of
the monitor in the range, the first of them in its order: each once, and with its
own typed row. -/
theorem probeHistory_delivered {env : Environment} {s : System} {tables : ServerTables}
    {realmId monitorId : Uuid} {probeType : ProbeType} {start stop : ℤ} {limit : ℕ}
    {answer : List ProbeHistoryPoint} (hlen : ∀ bytes, 16 ≤ (env.sha256 bytes).length)
    (h : Reached env s) (hserver : tables.database = s.server)
    (hanswer : tables.QueryProbeHistory realmId monitorId probeType start stop limit answer) :
    (answer.map fun p => (p.scheduledAt, p.observationId)).Nodup ∧
      ∃ points, Arranged historyKey
          ((s.server.observations.filter fun o => o.realmId = realmId &&
            o.monitorId = monitorId && o.probeType = probeType && start ≤ o.scheduledAt &&
            o.scheduledAt ≤ stop).map fun o => historyPoint tables.columns
              (o, s.server.results.find? (typedOn o))) points ∧
        answer = points.take limit := by
  have hstocked := (reached_invariant hlen h).stocked
  obtain ⟨points, harranged, rfl⟩ := hanswer
  rw [historyRows, hserver, leftJoin_eq_map (partners_le_one hstocked.typedUnique),
    List.map_map] at harranged
  refine ⟨?_, points, harranged, rfl⟩
  have hpoints := (harranged.1.map fun p => (p.scheduledAt, p.observationId)).nodup_iff
  rw [List.map_map] at hpoints
  exact (hpoints.mpr (hstocked.unique.sublist (List.filter_sublist.map _))).sublist
    ((List.take_sublist _ _).map _)

theorem probeHistory_delivered_timedOut : ∃ s answer, Reached oneTextEnvironment s ∧
    QueryProbeHistory { database := s.server } (.ofByte 4) (.ofByte 1) .tcp 0 2000000 10 answer ∧
      (answer.map fun p => (p.scheduledAt, p.observationId)).Nodup := by
  have hreached := reached_sentSystem.tail (.serve timedOutBatch.upload (fun _ => false)
    [tcpSnapshot] 5000000 List.mem_cons_self)
  have hlen : ∀ bytes, 16 ≤ (oneTextEnvironment.sha256 bytes).length := by
    intro bytes
    show 16 ≤ (bytes ++ List.replicate 16 0).length
    simp
  refine ⟨_, _, hreached, ⟨_, (exists_arranged _ _).choose_spec, rfl⟩, ?_⟩
  exact (probeHistory_delivered hlen hreached rfl ⟨_, (exists_arranged _ _).choose_spec, rfl⟩).1

end Bifrostnms.Proofs
