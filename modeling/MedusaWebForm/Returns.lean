import MedusaWebForm.Run

/-!
# How a run ends

`initModule` returns `FAILURE` only from the failed connect of `MSTATE_NEW`
(`reachable_returned_failure`); every other way out goes through `MSTATE_EXITING` and
`MSTATE_COMPLETE` and returns `SUCCESS`. A `tryLogin` call that returns `MSTATE_EXITING` ends the run
two passes later, except after a first buffer with no space, which records nothing, so the check
after it still reads the verdict of the pair before and asks for the next pair
(`exit_reply_ends_run`).
-/

namespace MedusaWebForm

variable {ext : External} {server : Server}

/-! ### Leaving through `MSTATE_EXITING` -/

theorem run_exiting {s : Sys} (hret : s.returned = none) (hex : s.nState = .exiting)
    (j k : Input) :
    run ext server s [j, k] = .ok { s with
      nState := .complete, hSocket := -1, returned := some .success,
      log := s.log ++ if 0 < s.hSocket then [.disconnect s.hSocket] else [] } := by
  simp [run, step, hret, hex, disconnectIfOpen_eq, bind, Except.bind]

theorem tryLogin_of_exit_reply {md : ModuleData} {login : LoginRecord} {szLogin szPassword : Bytes}
    {ex : Exchange} {o : Outcome} (hknown : md.formType ≠ .unknown)
    (hacc : reply ex ≠ .accepted) (hloc : reply ex ≠ .redirected true)
    (h : tryLogin ext md login szLogin szPassword ex = .ok o) :
    o.nState = .exiting ∧ o.md = md ∧
      o.login = if reply ex = .garbled then login else setPasswordHelper login szPassword .unknown := by
  rcases tryLogin_spec h with ⟨hu, -⟩ | ⟨-, hr, rfl⟩ | ⟨hr, rfl⟩ | ⟨hr, -⟩ | ⟨hr, -⟩
  · exact absurd hu hknown
  · refine ⟨rfl, rfl, ?_⟩
    rcases hr with hr | hr | hr | hr <;> simp [hr]
  · simp [hr]
  · exact absurd hr hacc
  · exact absurd hr hloc

theorem advanceCredentials_nState_eq_new {s : Sys} (hn : s.nState ≠ .new) (next : NextCredSet) :
    (advanceCredentials s next).nState = .new ↔
      s.login.iResult ≠ .unknown ∧ ∃ cred, next = .next cred .newUser := by
  unfold advanceCredentials
  split_ifs with hres
  · rcases next with _ | ⟨cred, _ | _ | _⟩ <;> simp [hres, hn]
  · simp [hres, hn]

/-- From any reachable state in `MSTATE_RUNNING`, a pass whose reply `tryLogin` neither accepts nor
follows goes to `MSTATE_NEW` exactly when the first buffer had no status, the pair before had a
verdict, and `getNextCredSet` reports a new user. Otherwise the two passes after it return
`SUCCESS`, whatever the host does, closing the connection and asking nothing more of the host. -/
theorem exit_reply_ends_run {s s1 : Sys} {i : Input} (hs : Reachable ext server s)
    (hret : s.returned = none) (hrun : s.nState = .running) (hacc : reply i.exchange ≠ .accepted)
    (hloc : reply i.exchange ≠ .redirected true) (h : step ext server s i = .ok s1) :
    (s1.nState = .new ↔ reply i.exchange = .garbled ∧ s.login.iResult ≠ .unknown ∧
        ∃ cred, i.next = .next cred .newUser) ∧
      (s1.nState ≠ .new → ∀ j k, ∃ s3, run ext server s1 [j, k] = .ok s3 ∧
        s3.returned = some .success ∧ s3.hSocket = -1 ∧
        s3.log = s1.log ++ if 0 < s1.hSocket then [.disconnect s1.hSocket] else []) := by
  have hinit := hs.runInvariant.started (by simp [hrun]) (by simp [hrun])
  obtain ⟨user, o, ht, rfl⟩ := step_running hret hrun h
  obtain ⟨hex, -, hlogin⟩ := tryLogin_of_exit_reply (hs.formType_ne_unknown hinit) hacc hloc ht
  have hn : (recordTryLogin s o).nState ≠ .new := by simp [recordTryLogin, hex]
  refine ⟨?_, fun hnew j k => ?_⟩
  · rw [advanceCredentials_nState_eq_new hn]
    simp only [recordTryLogin, hlogin]
    split_ifs with hg <;> simp [hg]
  · obtain ⟨cred, nState, heq, hns⟩ := advanceCredentials_frame (recordTryLogin s o) i.next
    rw [heq] at hnew ⊢
    have hexit : nState = .exiting := by
      rcases hns with rfl | rfl | rfl
      · simpa [recordTryLogin] using hex
      · rfl
      · exact absurd rfl hnew
    exact ⟨_, run_exiting (by simp [recordTryLogin, hret]) hexit j k, rfl, rfl, rfl⟩

def unauthorizedReply : Exchange := ⟨0, [some (ascii "HTTP/1.1 401 Unauthorized\r\n")]⟩

theorem exit_reply_ends_run_unauthorized :
    ∃ s1, step sampleExternal sampleServer firstAttempt ⟨0, unauthorizedReply, .failure⟩ = .ok s1 ∧
      (s1.nState = .new ↔ reply unauthorizedReply = .garbled ∧
          firstAttempt.login.iResult ≠ .unknown ∧ ∃ cred, NextCredSet.failure = .next cred .newUser) ∧
        (s1.nState ≠ .new → ∀ j k, ∃ s3, run sampleExternal sampleServer s1 [j, k] = .ok s3 ∧
          s3.returned = some .success ∧ s3.hSocket = -1 ∧
          s3.log = s1.log ++ if 0 < s1.hSocket then [.disconnect s1.hSocket] else []) :=
  ⟨_, rfl, @exit_reply_ends_run sampleExternal sampleServer firstAttempt _ ⟨0, unauthorizedReply, .failure⟩
    firstAttempt_reachable rfl rfl (by decide) (by decide) rfl⟩

/-! ### The return code -/

/-- The last thing asked of the host was a connect that failed. -/
def FailedConnect (log : List Event) : Prop :=
  ∃ hSocket < 0, log.getLast? = some (.connect hSocket)

/-- What a return of `FAILURE` says about the log and the login record. -/
structure FailureInvariant (s : Sys) : Prop where
  failed : s.returned = some .failure ↔ FailedConnect s.log
  verdict : s.returned = some .failure →
    s.login.iResult = .unknown ∧ s.login.verdicts.getLast? = some (s.cred.pass, .unknown)

theorem FailureInvariant.of_none {s : Sys} (hret : s.returned = none) (hlog : ¬ FailedConnect s.log) :
    FailureInvariant s :=
  ⟨by simp [hret, hlog], fun h => by simp [hret] at h⟩

theorem failedConnect_append_singleton {log : List Event} {e : Event}
    (he : ∀ hSocket, e = .connect hSocket → 0 ≤ hSocket) : ¬ FailedConnect (log ++ [e]) := by
  rintro ⟨hSocket, hneg, hlast⟩
  rw [List.getLast?_concat, Option.some.injEq] at hlast
  exact absurd (he hSocket hlast) (Int.not_le.mpr hneg)

theorem FailureInvariant.step {s s' : Sys} {i : Input} (hinv : FailureInvariant s)
    (h : step ext server s i = .ok s') : FailureInvariant s' := by
  have hkeep : s.returned = none → ¬ FailedConnect s.log := fun hr => by simpa [hr] using hinv.failed
  rcases step_cases h with ⟨-, rfl⟩ | ⟨hr, -, rfl⟩ | ⟨hr, -, md, -, rfl⟩ | ⟨hr, -, hc, rfl⟩ |
    ⟨hr, -, hc, rfl⟩ | ⟨hr, -, user, o, -, rfl⟩ | ⟨hr, -, rfl⟩
  · exact hinv
  · exact ⟨by simpa [hr] using hinv.failed, fun h => by cases h⟩
  · exact .of_none hr (hkeep hr)
  · exact ⟨by simp [FailedConnect, hc], fun _ => by simp [setPasswordHelper, setPassResult]⟩
  · exact .of_none hr (failedConnect_append_singleton fun _ he => by cases he; exact hc)
  · obtain ⟨cred, nState, heq, -⟩ := advanceCredentials_frame (recordTryLogin s o) i.next
    rw [heq]
    refine .of_none hr ?_
    split_ifs
    · exact failedConnect_append_singleton fun _ he => by cases he
    · simpa [recordTryLogin] using failedConnect_append_singleton fun _ he => by cases he
  · refine .of_none hr ?_
    rw [disconnectIfOpen_eq]
    split_ifs
    · exact failedConnect_append_singleton fun _ he => by cases he
    · simpa using hkeep hr

theorem Reachable.failureInvariant {s : Sys} (hs : Reachable ext server s) : FailureInvariant s := by
  induction hs with
  | start o login first =>
    exact .of_none (by cases first <;> rfl) (by cases first <;> simp [initModuleStart, FailedConnect])
  | step i _ h ih => exact ih.step h

/-- In every reachable state, `initModule` has returned `FAILURE` exactly when the last thing it
asked of the host was a connect that failed, and then `iResult` is `UNKNOWN` and the last verdict
recorded is `UNKNOWN` for the password of the pair it was on. A server's answers alone never make
it return `FAILURE`. -/
theorem reachable_returned_failure {s : Sys} (hs : Reachable ext server s) :
    (s.returned = some .failure ↔ FailedConnect s.log) ∧
      (s.returned = some .failure →
        s.login.iResult = .unknown ∧ s.login.verdicts.getLast? = some (s.cred.pass, .unknown)) :=
  ⟨hs.failureInvariant.failed, hs.failureInvariant.verdict⟩

theorem reachable_returned_failure_first :
    (firstAttempt.returned = some .failure ↔ FailedConnect firstAttempt.log) ∧
      (firstAttempt.returned = some .failure → firstAttempt.login.iResult = .unknown ∧
        firstAttempt.login.verdicts.getLast? = some (firstAttempt.cred.pass, .unknown)) :=
  reachable_returned_failure firstAttempt_reachable

end MedusaWebForm
