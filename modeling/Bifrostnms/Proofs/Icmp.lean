import Bifrostnms.Agent.Icmp
import Bifrostnms.Lib.Runs
import Mathlib.Data.List.Induction

/-!
# Whose replies an exchange measures

An exchange does not look at the source of a message, and its identifier is
that of the process. So the reply to another exchange, or a message of any
other host, counts as its own if the sequence number is one that it has sent.

What is left is a property of the headers: as long as every foreign message
that an exchange reads fails the checks on the header, it changes nothing, and
what the exchange returns is what it would return without them. The log of an
exchange has what it has sent and read; `replay` computes its samples from a
log, so that a log can be compared with its own part.
-/

namespace Bifrostnms.Proofs

open Bifrostnms.Lib Bifrostnms.Agent

/-! ## Replaying a log -/

/-- The reply to a request of this very exchange, from its target. -/
def isOwn (i : ℕ) (target : ResolvedTarget) (p : Packet) : Bool :=
  decide (p.source = target.ip) && decide (p.answers = some (i, p.seq))

/-- What an exchange does by itself: sending, and reading its own replies. -/
def ownAction (i : ℕ) (target : ResolvedTarget) : ExchangeAction → Bool
  | .sent _ => true
  | .read _ p => isOwn i target p

def applyAction (id : ℕ) (packetTimeout : ℤ) (e : ExchangeProgress) :
    ExchangeAction → ExchangeProgress
  | .sent now => e.send now
  | .read now p => e.read id packetTimeout now p

/-- What an exchange has measured after the actions of a log. -/
def replay (id : ℕ) (packetTimeout : ℤ) (log : List ExchangeAction) : ExchangeProgress :=
  log.foldl (applyAction id packetTimeout) {}

variable {id : ℕ} {packetTimeout : ℤ}

theorem replay_concat (log : List ExchangeAction) (a : ExchangeAction) :
    replay id packetTimeout (log ++ [a]) =
      applyAction id packetTimeout (replay id packetTimeout log) a := by
  rw [replay, List.foldl_append]
  rfl

/-- A message that fails the checks changes nothing. -/
theorem read_of_not_hears {e : ExchangeProgress} {now : ℤ} {p : Packet}
    (h : e.hears id p = false) : e.read id packetTimeout now p = e := by
  rw [ExchangeProgress.read, h]
  exact if_neg Bool.false_ne_true

/-- What reading a message can do. -/
theorem read_cases (id : ℕ) (packetTimeout : ℤ) (e : ExchangeProgress) (now : ℤ) (p : Packet) :
    e.read id packetTimeout now p = e ∨ ∃ sentAt, e.sentAt[p.seq]? = some sentAt ∧
        e.read id packetTimeout now p = { e with
          samplesBySequence :=
            Function.update e.samplesBySequence p.seq (some (now - sentAt)) } := by
  unfold ExchangeProgress.read
  split
  · split
    · next sentAt hsent =>
        dsimp only
        split
        · exact .inr ⟨sentAt, hsent, rfl⟩
        · exact .inl rfl
    · exact .inl rfl
  · exact .inl rfl

/-- Every sample comes from a message that was read, and is the time since the
request of its sequence number. -/
theorem replay_sample {log : List ExchangeAction} {seq : ℕ} {elapsed : ℤ}
    (h : (replay id packetTimeout log).samplesBySequence seq = some elapsed) :
    ∃ now p sentAt, .read now p ∈ log ∧ p.seq = seq ∧
      (replay id packetTimeout log).sentAt[seq]? = some sentAt ∧ elapsed = now - sentAt := by
  induction log using List.reverseRecOn with
  | nil => cases h
  | append_singleton log a ih =>
    rw [replay_concat] at h ⊢
    cases a with
    | sent now =>
      obtain ⟨now', p, sentAt, hmem, hseq, hsent, helapsed⟩ := ih h
      refine ⟨now', p, sentAt, List.mem_append_left _ hmem, hseq, ?_, helapsed⟩
      have hlt := (List.getElem?_eq_some_iff.mp hsent).1
      exact (List.getElem?_append_left hlt).trans hsent
    | read now p =>
      rcases read_cases id packetTimeout (replay id packetTimeout log)
        now p with hsame | ⟨sentAt, hsent, hnew⟩
      · rw [applyAction, hsame] at h ⊢
        obtain ⟨now', p', sentAt, hmem, hrest⟩ := ih h
        exact ⟨now', p', sentAt, List.mem_append_left _ hmem, hrest⟩
      · rw [applyAction, hnew] at h ⊢
        dsimp only at h ⊢
        rw [Function.update_apply] at h
        split at h
        · next hseq =>
            refine ⟨now, p, sentAt, by simp, hseq.symm, ?_, ?_⟩
            · rw [hseq]
              exact hsent
            · exact (Option.some.inj h).symm
        · obtain ⟨now', p', sentAt', hmem, hrest⟩ := ih h
          exact ⟨now', p', sentAt', List.mem_append_left _ hmem, hrest⟩

/-! ## Exchanges that only hear their own replies -/

/-- What the exchange has measured is what its own part of the log gives, and
what it has returned are these samples. -/
structure OwnOnly (id i : ℕ) (e : Exchange) : Prop where
  progress : e.progress = replay id e.packetTimeout (e.log.filter (ownAction i e.target))
  returned : ∀ samples, e.result = .returned samples → samples = e.progress.samples e.packetCount

/-- A foreign message that is read fails the checks on the header. -/
def ignoresForeign (pid : ℕ) (s : IcmpProcess) : IcmpEvent → Bool
  | .read i _ =>
    match s.exchanges[i]? with
    | some e =>
      match e.inbox with
      | p :: _ => isOwn i e.target p || !e.progress.hears (IcmpProcess.identifier pid) p
      | [] => true
    | none => true
  | _ => true

variable {pid i : ℕ} {s s' : IcmpProcess} {event : IcmpEvent} {e e' : Exchange}

theorem OwnOnly.send {now : ℤ} (h : OwnOnly id i e) (hrunning : e.result = .running)
    (hstep : IcmpProcess.sendNext now e = some e') : OwnOnly id i e' := by
  unfold IcmpProcess.sendNext at hstep
  split at hstep
  · cases hstep
    refine ⟨?_, fun samples hresult => ?_⟩
    · dsimp only
      rw [List.filter_append, h.progress]
      exact (replay_concat _ (.sent now)).symm
    · rw [hrunning] at hresult
      cases hresult
  · cases hstep

/-- A foreign message that fails the checks is not in the own part of the log
and leaves no trace in what was measured. -/
theorem OwnOnly.read {now : ℤ} (h : OwnOnly (IcmpProcess.identifier pid) i e)
    (hrunning : e.result = .running) (hheader : ∀ p, e.inbox.head? = some p →
      isOwn i e.target p = true ∨ e.progress.hears (IcmpProcess.identifier pid) p = false)
    (hstep : IcmpProcess.readNext pid now e = some e') :
    OwnOnly (IcmpProcess.identifier pid) i e' := by
  unfold IcmpProcess.readNext at hstep
  split at hstep
  · next p rest hinbox =>
      cases hstep
      refine ⟨?_, fun samples hresult => ?_⟩
      · dsimp only
        rw [List.filter_append]
        cases hown : isOwn i e.target p with
        | true =>
          have hkept : [ExchangeAction.read now p].filter
              (ownAction i e.target) = [.read now p] := by
            simp [ownAction, hown]
          rw [hkept, replay_concat, ← h.progress]
          rfl
        | false =>
          have hdropped : [ExchangeAction.read now p].filter
              (ownAction i e.target) = [] := by
            simp [ownAction, hown]
          have hdeaf := (hheader p (by rw [hinbox]; rfl)).resolve_left
            (by rw [hown]; exact Bool.false_ne_true)
          rw [hdropped, List.append_nil, ← h.progress, read_of_not_hears hdeaf]
      · rw [hrunning] at hresult
        cases hresult
  · cases hstep

theorem update_inv {f : Exchange → Option Exchange} (h : s.update i f = some s') :
    ∃ e e', s.exchanges[i]? = some e ∧ e.result = .running ∧ f e = some e' ∧
      s'.exchanges = s.exchanges.set i e' := by
  unfold IcmpProcess.update at h
  split at h
  · next e he =>
      split at h
      · next hrunning =>
          obtain ⟨e', hf, rfl⟩ := Option.map_eq_some_iff.mp h
          exact ⟨e, e', he, hrunning, hf, rfl⟩
      · cases h
  · cases h

/-- Every exchange of a process only hears its own replies. -/
def AllOwn (pid : ℕ) (s : IcmpProcess) : Prop :=
  ∀ i e, s.exchanges[i]? = some e → OwnOnly (IcmpProcess.identifier pid) i e

theorem AllOwn.update {f : Exchange → Option Exchange} (h : AllOwn pid s)
    (hstep : s.update i f = some s') (hf : ∀ e e', s.exchanges[i]? = some e → e.result = .running →
      f e = some e' → OwnOnly (IcmpProcess.identifier pid) i e') : AllOwn pid s' := by
  obtain ⟨e, e', he, hrunning, hfe, hset⟩ := update_inv hstep
  intro j ej hj
  rw [hset, List.getElem?_set] at hj
  split at hj
  · next hij =>
      subst hij
      split at hj
      · cases hj
        exact hf e _ he hrunning hfe
      · cases hj
  · exact h j ej hj

theorem step_allOwn (h : AllOwn pid s) (hcondition : ignoresForeign pid s event = true)
    (hstep : s.step pid event = some s') : AllOwn pid s' := by
  cases event with
  | «open» family addresses packetCount packetInterval packetTimeout now =>
    obtain ⟨target, _, rfl⟩ := Option.map_eq_some_iff.mp hstep
    intro i e he
    rw [List.getElem?_append] at he
    split at he
    · exact h i e he
    · rw [List.getElem?_singleton] at he
      split at he
      · cases he
        exact ⟨rfl, nofun⟩
      · cases he
  | send i now => exact h.update hstep fun e e' he => (h i e he).send
  | arrive p =>
    dsimp only [IcmpProcess.step] at hstep
    split at hstep
    · cases hstep
      intro i e he
      rw [List.getElem?_map, Option.map_eq_some_iff] at he
      obtain ⟨old, hold, rfl⟩ := he
      have hown := h i old hold
      unfold IcmpProcess.deliver
      split
      · exact ⟨hown.progress, hown.returned⟩
      · exact hown
    · cases hstep
  | read i now =>
    refine h.update hstep fun e e' he hrunning => (h i e he).read hrunning ?_
    intro p hp
    rw [ignoresForeign, he] at hcondition
    dsimp only at hcondition
    cases hinbox : e.inbox with
    | nil =>
      rw [hinbox] at hp
      cases hp
    | cons first rest =>
      rw [hinbox, List.head?_cons, Option.some.injEq] at hp
      rw [hinbox, hp] at hcondition
      simpa using hcondition
  | finish i now deadlineExceeded =>
    refine h.update hstep fun e e' he _ hf => ?_
    split at hf
    · cases hf
      exact ⟨(h i e he).progress, fun _ hresult =>
        (ExchangeResult.returned.inj hresult).symm⟩
    · cases hf
  | fail i =>
    refine h.update hstep fun e e' he _ hf => ?_
    cases hf
    exact ⟨(h i e he).progress, nofun⟩

/-- In every run in which the foreign messages that are read fail the checks on
the header: a round-trip time is that of the reply to the request of its
sequence number, from the target of the exchange; and the samples that are
returned are those of the requests and the own replies alone. -/
theorem samples_own {events : List IcmpEvent} (hmeets : Meets (IcmpProcess.step pid)
      (fun s event => ignoresForeign pid s event = true) events {})
    (hrun : runSteps (IcmpProcess.step pid) events {} = some s) (he : s.exchanges[i]? = some e) :
    (∀ seq elapsed, e.progress.samplesBySequence seq = some elapsed →
      ∃ now p sentAt, .read now p ∈ e.log ∧ p.source = e.target.ip ∧
        p.answers = some (i, seq) ∧ e.progress.sentAt[seq]? = some sentAt ∧
        elapsed = now - sentAt) ∧ ∀ samples, e.result = .returned samples →
      samples = (replay (IcmpProcess.identifier pid) e.packetTimeout
        (e.log.filter (ownAction i e.target))).samples e.packetCount := by
  have hstart : AllOwn pid {} := fun i e he => by cases he
  have hown := runSteps_invariant step_allOwn hstart hmeets hrun i e he
  refine ⟨fun seq elapsed hsample => ?_, fun samples hresult => ?_⟩
  · rw [hown.progress] at hsample ⊢
    obtain ⟨now, p, sentAt, hmem, hseq, hsent, helapsed⟩ := replay_sample hsample
    obtain ⟨hlog, howned⟩ := List.mem_filter.mp hmem
    rw [ownAction, isOwn, Bool.and_eq_true, decide_eq_true_eq, decide_eq_true_eq, hseq] at howned
    exact ⟨now, p, sentAt, hlog, howned.1, howned.2, hsent, helapsed⟩
  · rw [← hown.progress]
    exact hown.returned samples hresult

/-! ## Two exchanges of one request each -/

def firstHost : IpAddress := ⟨"192.0.2.1", true⟩

def secondHost : IpAddress := ⟨"192.0.2.2", true⟩

/-- Two exchanges of process 7 have sent their requests. -/
def pairEvents : List IcmpEvent :=
  [.open .auto [firstHost] 1 10 1000 0, .open .auto [secondHost] 1 10 1000 0, .send 0 0, .send 1 0]

/-- The reply to the request of an exchange. -/
def replyTo (exchange : ℕ) (source : IpAddress) : Packet :=
  ⟨.ip4, source, true, 7, 0, some (exchange, 0)⟩

/-- The reply to the ping of another program. -/
def otherReply : Packet := ⟨.ip4, secondHost, true, 8, 0, none⟩

/-- The first exchange reads the reply to the other program, then its own. -/
def properEvents : List IcmpEvent :=
  pairEvents ++ [.arrive otherReply, .arrive (replyTo 0 firstHost), .read 0 4,
    .read 0 5, .finish 0 2000 false]

def firstResult (s : IcmpProcess) : Option ExchangeResult :=
  s.exchanges[0]?.map Exchange.result

theorem samples_own_proper : ∃ s e, runSteps (IcmpProcess.step 7) properEvents {} = some s ∧
      s.exchanges[0]? = some e ∧ e.result = .returned [5] ∧ [5] = (replay 7 e.packetTimeout
        (e.log.filter (ownAction 0 e.target))).samples e.packetCount := by
  have hrun : ((checkedRun (IcmpProcess.step 7)
      (fun s event => ignoresForeign 7 s event = true) properEvents {}).any
        fun s => decide (firstResult s = some (.returned [5]))) = true := by
    decide +kernel
  obtain ⟨s, hmeets, hs, hresult⟩ := exists_of_checkedRun hrun
  obtain ⟨e, he, hreturned⟩ :=
    Option.map_eq_some_iff.mp (of_decide_eq_true hresult)
  exact ⟨s, e, hs, he, hreturned, (samples_own hmeets hs he).2 _ hreturned⟩

/-- Only the second host replies, and only to the second exchange. -/
def crossedEvents : List IcmpEvent :=
  pairEvents ++ [.arrive (replyTo 1 secondHost), .read 0 5, .finish 0 2000 false]

/-- The first exchange measures the second host; by its own replies it would
have returned nothing. -/
theorem samples_crossed : ∃ s e, runSteps (IcmpProcess.step 7) crossedEvents {} = some s ∧
      s.exchanges[0]? = some e ∧ e.target.ip = firstHost ∧ e.result = .returned [5] ∧
      (replay 7 e.packetTimeout
        (e.log.filter (ownAction 0 e.target))).samples e.packetCount = [] := by
  have hsome : ((runSteps (IcmpProcess.step 7) crossedEvents {}).any fun s =>
      s.exchanges[0]?.any fun e => decide (e.target.ip = firstHost) &&
        decide (e.result = .returned [5]) && decide ((replay 7 e.packetTimeout
          (e.log.filter (ownAction 0 e.target))).samples e.packetCount = [])) =
      true := by decide +kernel
  obtain ⟨s, hs, hany⟩ := (Option.any_eq_true _ _).mp hsome
  obtain ⟨e, he, hall⟩ := (Option.any_eq_true _ _).mp hany
  simp only [Bool.and_eq_true, decide_eq_true_eq] at hall
  exact ⟨s, e, hs, he, hall.1.1, hall.1.2, hall.2⟩

end Bifrostnms.Proofs
