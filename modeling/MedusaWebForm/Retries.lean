import MedusaWebForm.Verdicts

/-!
# How often a pair is tried

`tryLogin` returns `MSTATE_NEW` with a verdict after a 200 and without one after a redirect it
follows, and every other reply ends the attempt; the check after it asks for the next pair whenever
`iResult` holds a verdict. So on a server that never answers with a redirect, each pair is tried at
most once (`run_one_attempt_per_pair`), and a run makes at most two passes for each pair it asks for,
and two more, before it returns (`run_returns_within`).
-/

namespace MedusaWebForm

variable {ext : External} {server : Server}

def Event.attempts : Event → Nat
  | .tryLogin _ => 1
  | _ => 0

theorem tryLogin_exiting_of_unknown {md : ModuleData} {login : LoginRecord}
    {szLogin szPassword : Bytes} {ex : Exchange} {o : Outcome} (hknown : md.formType ≠ .unknown)
    (hred : reply ex ≠ .redirected true) (h : tryLogin ext md login szLogin szPassword ex = .ok o)
    (hu : o.login.iResult = .unknown) : o.nState = .exiting := by
  rcases tryLogin_spec h with ⟨hk, -⟩ | ⟨-, -, rfl⟩ | ⟨-, rfl⟩ | ⟨-, -, found, rfl⟩ | ⟨hr, -⟩
  · exact absurd hk hknown
  · rfl
  · rfl
  · cases found <;> simp at hu
  · exact absurd hr hred

/-! ### The attempts a log shows -/

/-- At most one attempt between two calls of `getNextCredSet`, at most one for the pair in hand, and
no more attempts than pairs handed over: one fewer while the pair in hand is untried. -/
structure AttemptLog (log : List Event) : Prop where
  perPair : AtMostOnePerPair Event.attempts log
  current : countSinceAsk Event.attempts log ≤ 1
  total : (log.map Event.attempts).sum + 1 ≤
    log.count .getNextCredSet + countSinceAsk Event.attempts log

theorem AttemptLog.quiet {log : List Event} (h : AttemptLog log) {e : Event} (he : e.attempts = 0)
    (hne : e ≠ .getNextCredSet) :
    AttemptLog (log ++ [e]) ∧
      countSinceAsk Event.attempts (log ++ [e]) = countSinceAsk Event.attempts log := by
  have hc : countSinceAsk Event.attempts (log ++ [e]) = countSinceAsk Event.attempts log := by
    simp [he, hne]
  refine ⟨⟨h.perPair.append e fun _ => by simpa [he] using h.current, hc ▸ h.current, ?_⟩, hc⟩
  have hcount : (log ++ [e]).count .getNextCredSet = log.count .getNextCredSet := by
    simp [List.count_append, List.count_singleton', Ne.symm hne]
  rw [hc, hcount]
  simpa [he] using h.total

theorem AttemptLog.ask {log : List Event} (h : AttemptLog log) :
    AttemptLog (log ++ [.getNextCredSet]) ∧
      countSinceAsk Event.attempts (log ++ [.getNextCredSet]) = 0 := by
  have hc : countSinceAsk Event.attempts (log ++ [.getNextCredSet]) = 0 := by simp
  refine ⟨⟨h.perPair.append _ fun h' => absurd rfl h', by simp, ?_⟩, hc⟩
  have := h.total
  have := h.current
  simp [List.count_append, Event.attempts]
  omega

theorem AttemptLog.attempt {log : List Event} (h : AttemptLog log)
    (h0 : countSinceAsk Event.attempts log = 0) (vs : List LoginResult) :
    AttemptLog (log ++ [.tryLogin vs]) ∧
      countSinceAsk Event.attempts (log ++ [.tryLogin vs]) = 1 := by
  have hc : countSinceAsk Event.attempts (log ++ [.tryLogin vs]) = 1 := by
    simp [h0, Event.attempts]
  refine ⟨⟨h.perPair.append _ fun _ => by simp [h0, Event.attempts], hc.le, ?_⟩, hc⟩
  have := h.total
  simp [List.count_append, Event.attempts, hc]
  omega

theorem AttemptLog.disconnect {s : Sys} (h : AttemptLog s.log) :
    AttemptLog (disconnectIfOpen s).log ∧
      countSinceAsk Event.attempts (disconnectIfOpen s).log = countSinceAsk Event.attempts s.log := by
  rw [disconnectIfOpen_eq]
  split_ifs
  · exact h.quiet rfl (by simp)
  · simpa using h

/-! ### The invariant -/

/-- What every pass keeps on a server that does not redirect: the attempts the log shows, and none
yet for the pair in hand while the module may still try it. -/
structure AttemptInvariant (s : Sys) : Prop where
  log : AttemptLog s.log
  pending : s.returned = none → s.nState ≠ .exiting → s.nState ≠ .complete →
    countSinceAsk Event.attempts s.log = 0

theorem initModuleStart_attemptInvariant (md : ModuleData) (login : LoginRecord)
    (first : NextCredSet) : AttemptInvariant (initModuleStart md login first) := by
  obtain ⟨hone, h0⟩ := atMostOnePerPair_ask Event.attempts
  have hlog : AttemptLog [.getNextCredSet] := ⟨hone, by simp [h0], by simp [h0, Event.attempts]⟩
  cases first <;> exact ⟨hlog, fun _ _ _ => h0⟩

theorem AttemptInvariant.step {s s' : Sys} {i : Input} (hs : Reachable ext server s)
    (hinv : AttemptInvariant s) (hred : reply i.exchange ≠ .redirected true)
    (h : step ext server s i = .ok s') : AttemptInvariant s' := by
  obtain ⟨hdisc, hdc⟩ := hinv.log.disconnect
  rcases step_cases h with ⟨-, rfl⟩ | ⟨hr, -, rfl⟩ | ⟨hr, hst, md, -, rfl⟩ | ⟨hr, hst, -, rfl⟩ |
    ⟨hr, hst, -, rfl⟩ | ⟨hr, hst, user, o, ht, rfl⟩ | ⟨hr, -, rfl⟩
  · exact hinv
  · exact ⟨hinv.log, fun h' => (by cases h')⟩
  · exact ⟨hinv.log, fun _ _ _ => hinv.pending hr (by simp [hst]) (by simp [hst])⟩
  · exact ⟨(hdisc.quiet (e := .connect i.connect) rfl (by simp)).1, fun h' => (by cases h')⟩
  · have h0 := hinv.pending hr (by simp [hst]) (by simp [hst])
    obtain ⟨hlog, hc⟩ := hdisc.quiet (e := .connect i.connect) rfl (by simp)
    exact ⟨hlog, fun _ _ _ => hc.trans (hdc.trans h0)⟩
  · have hknown := hs.formType_ne_unknown
      (hs.runInvariant.started (by simp [hst]) (by simp [hst]))
    have h0 := hinv.pending hr (by simp [hst]) (by simp [hst])
    obtain ⟨hlog, hc⟩ := hinv.log.attempt h0
      ((o.login.verdicts.drop s.login.verdicts.length).map Prod.snd)
    by_cases hres : o.login.iResult = .unknown
    · rw [advanceCredentials_of_unknown hres]
      exact ⟨hlog, fun _ hn _ => absurd (tryLogin_exiting_of_unknown hknown hred ht hres) hn⟩
    · obtain ⟨cred, nState, heq, -⟩ := advanceCredentials_frame (recordTryLogin s o) i.next
      have hask : (recordTryLogin s o).login.iResult ≠ .unknown := hres
      rw [heq]
      simp only [hask, ne_eq, not_false_eq_true, if_true]
      obtain ⟨hlog', hc'⟩ := hlog.ask
      exact ⟨hlog', fun _ _ _ => hc'⟩
  · exact ⟨hdisc, fun _ _ h' => absurd rfl h'⟩

/-- On a server that never answers with a redirect `tryLogin` follows, every run of `initModule`
tries each pair the host hands over at most once: between two calls of `getNextCredSet` the log
shows at most one `tryLogin` call, and the run makes no more `tryLogin` calls than it asks for
pairs. -/
theorem run_one_attempt_per_pair (o : Options) (login : LoginRecord) (first : NextCredSet)
    (is : List Input) (hred : ∀ i ∈ is, reply i.exchange ≠ .redirected true) {s : Sys}
    (h : run ext server (initModuleStart o.moduleData login first) is = .ok s) :
    AtMostOnePerPair Event.attempts s.log ∧
      (s.log.map Event.attempts).sum ≤ s.log.count .getNextCredSet := by
  have hinv : AttemptInvariant s :=
    (@run_invariant ext server (fun s => Reachable ext server s ∧ AttemptInvariant s) _ _ is
      (fun _ _ i hi hs hstep => ⟨hs.1.step i hstep, hs.2.step hs.1 (hred i hi) hstep⟩)
      ⟨.start o login first, initModuleStart_attemptInvariant _ login first⟩ h).2
  exact ⟨hinv.log.perPair, by have := hinv.log.total; have := hinv.log.current; omega⟩

/-! ### How long a run lasts -/

/-- The passes from a stage to `MSTATE_COMPLETE` when the first attempt ends the run:
`MSTATE_INITIALIZE`, a connect, one attempt and `MSTATE_EXITING`. -/
def passesLeft : ModuleState → Nat
  | .initializing => 4
  | .new => 3
  | .running => 2
  | .exiting => 1
  | .complete => 0

theorem passesLeft_le (nState : ModuleState) : passesLeft nState ≤ 4 := by
  cases nState <;> decide

/-- A run that has made `n` passes and has not returned keeps, for the passes its stage still needs,
within two passes for each pair the host handed over and two more. -/
def WithinBudget (n : Nat) (s : Sys) : Prop :=
  s.returned = none → n + passesLeft s.nState ≤ 2 * s.log.count .getNextCredSet + 2

@[simp] theorem count_disconnectIfOpen (s : Sys) :
    (disconnectIfOpen s).log.count .getNextCredSet = s.log.count .getNextCredSet := by
  rw [disconnectIfOpen_eq]
  split_ifs <;> simp

theorem initModuleStart_withinBudget (md : ModuleData) (login : LoginRecord) (first : NextCredSet) :
    WithinBudget 0 (initModuleStart md login first) := fun _ => by
  have hlog : (initModuleStart md login first).log = [.getNextCredSet] := by cases first <;> rfl
  have := passesLeft_le (initModuleStart md login first).nState
  rw [hlog, List.count_singleton_self]
  omega

theorem WithinBudget.step {s s' : Sys} {i : Input} {n : Nat} (hs : Reachable ext server s)
    (hw : WithinBudget n s) (hred : reply i.exchange ≠ .redirected true)
    (h : step ext server s i = .ok s') : WithinBudget (n + 1) s' := by
  intro hr'
  rcases step_cases h with ⟨hr, rfl⟩ | ⟨-, -, rfl⟩ | ⟨hr, hst, md, -, rfl⟩ | ⟨-, -, -, rfl⟩ |
    ⟨hr, hst, -, rfl⟩ | ⟨hr, hst, user, o, ht, rfl⟩ | ⟨hr, hst, rfl⟩
  · simp [hr'] at hr
  · cases hr'
  · have := hw hr
    simp only [hst, passesLeft] at this ⊢
    omega
  · cases hr'
  · have := hw hr
    simp [hst, passesLeft, List.count_append] at this ⊢
    omega
  · have hknown := hs.formType_ne_unknown
      (hs.runInvariant.started (by simp [hst]) (by simp [hst]))
    have := hw hr
    simp only [hst, passesLeft] at this
    by_cases hres : o.login.iResult = .unknown
    · rw [advanceCredentials_of_unknown hres]
      simp [recordTryLogin, tryLogin_exiting_of_unknown hknown hred ht hres, passesLeft,
        List.count_append]
      omega
    · have hn := advanceCredentials_recordTryLogin_nState (s := s) (tryLogin_nState ht) i.next
      obtain ⟨cred, nState, heq, -⟩ := advanceCredentials_frame (recordTryLogin s o) i.next
      rw [heq] at hn ⊢
      have hleft : passesLeft nState ≤ 3 := by
        dsimp only at hn
        rcases hn with h' | h' <;> simp [h', passesLeft]
      simp [hres, recordTryLogin, List.count_append]
      omega
  · have := hw hr
    simp only [hst, passesLeft, count_disconnectIfOpen] at this ⊢
    omega

theorem WithinBudget.steps {s s' : Sys} {n : Nat} {is : List Input} (hs : Reachable ext server s)
    (hw : WithinBudget n s) (hred : ∀ i ∈ is, reply i.exchange ≠ .redirected true)
    (h : run ext server s is = .ok s') : WithinBudget (n + is.length) s' := by
  induction is generalizing s n with
  | nil =>
    simp only [run, Except.ok.injEq] at h
    exact h ▸ hw
  | cons i is ih =>
    obtain ⟨s1, hi, h⟩ := bind_eq_ok.mp h
    rw [List.length_cons, ← Nat.add_assoc, Nat.add_right_comm]
    exact ih (hs.step i hi) (hw.step hs (hred i (.head _)) hi) (fun j hj => hred j (.tail _ hj)) h

/-- On a server that never answers with a redirect `tryLogin` follows, every run of `initModule`
makes at most two passes for each pair it asks the host for, and two more, before it returns. A run
that has not returned still has the passes its stage needs within that budget, and a run of `2k + 3`
passes or more, where `k` is the number of calls of `getNextCredSet` it made, has returned. -/
theorem run_returns_within (o : Options) (login : LoginRecord) (first : NextCredSet)
    (is : List Input) (hred : ∀ i ∈ is, reply i.exchange ≠ .redirected true) {s : Sys}
    (h : run ext server (initModuleStart o.moduleData login first) is = .ok s) :
    (s.returned = none → is.length + passesLeft s.nState ≤ 2 * s.log.count .getNextCredSet + 2) ∧
      (2 * s.log.count .getNextCredSet + 3 ≤ is.length → s.returned ≠ none) := by
  have hw : WithinBudget is.length s := by
    simpa using (initModuleStart_withinBudget o.moduleData login first).steps (.start o login first)
      hred h
  exact ⟨hw, fun hlong hr => by have := hw hr; omega⟩

def twoAcceptedPairs : List Input :=
  let ok : Exchange := ⟨0, [some (ascii "HTTP/1.1 200 OK\r\n"), some (ascii "Welcome")]⟩
  [⟨0, ⟨0, []⟩, .failure⟩, ⟨3, ⟨0, []⟩, .failure⟩,
    ⟨0, ok, .next ⟨some (ascii "bob"), ascii "hunter2"⟩ .sameUser⟩, ⟨4, ⟨0, []⟩, .failure⟩,
    ⟨0, ok, .failure⟩, ⟨0, ⟨0, []⟩, .failure⟩, ⟨0, ⟨0, []⟩, .failure⟩]

theorem run_twoAcceptedPairs :
    ∃ s, run sampleExternal sampleServer (initModuleStart noOptions.moduleData ⟨.unknown, []⟩
      firstPair) twoAcceptedPairs = .ok s :=
  ⟨_, rfl⟩

theorem run_one_attempt_per_pair_accepted :
    ∃ s, run sampleExternal sampleServer (initModuleStart noOptions.moduleData ⟨.unknown, []⟩
        firstPair) twoAcceptedPairs = .ok s ∧
      AtMostOnePerPair Event.attempts s.log ∧
        (s.log.map Event.attempts).sum ≤ s.log.count .getNextCredSet := by
  obtain ⟨s, h⟩ := run_twoAcceptedPairs
  exact ⟨s, h, run_one_attempt_per_pair noOptions _ firstPair twoAcceptedPairs (by decide) h⟩

theorem run_returns_within_accepted :
    ∃ s, run sampleExternal sampleServer (initModuleStart noOptions.moduleData ⟨.unknown, []⟩
        firstPair) twoAcceptedPairs = .ok s ∧
      (s.returned = none →
        twoAcceptedPairs.length + passesLeft s.nState ≤ 2 * s.log.count .getNextCredSet + 2) ∧
        (2 * s.log.count .getNextCredSet + 3 ≤ twoAcceptedPairs.length → s.returned ≠ none) := by
  obtain ⟨s, h⟩ := run_twoAcceptedPairs
  exact ⟨s, h, run_returns_within noOptions _ firstPair twoAcceptedPairs (by decide) h⟩

end MedusaWebForm
