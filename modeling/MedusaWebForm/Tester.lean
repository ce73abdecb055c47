import MedusaWebForm.Rounds

/-!
# The module as a form-login tester

What `initModule` is for, said without its loops: a form-login tester submits each pair the host
hands over, in order, and records FAIL when the deny signal occurs, ignoring case, in a line of the
response before its first absent or empty line, and SUCCESS otherwise (`testerVerdicts`). On a server
that answers every request with a 200, a run of `initModule` records exactly the tester's verdicts
(`accepting_run_refines_tester`).
-/

namespace MedusaWebForm

/-! ### The tester -/

def responseLines : List (Option Bytes) → List Bytes
  | some (c :: cs) :: lines => (c :: cs) :: responseLines lines
  | _ => []

/-- The verdict on a response: FAIL when the deny signal `d` occurs, ignoring case, in one of its
lines, and SUCCESS otherwise. -/
def testVerdict (d : Bytes) (lines : List (Option Bytes)) : LoginResult :=
  if ∃ b ∈ responseLines lines, OccursIn b d then .fail else .success

def testerVerdicts (d : Bytes) (tried : List (CredentialSet × Exchange)) :
    List (Bytes × LoginResult) :=
  tried.map fun t => (t.1.pass, testVerdict d t.2.lines)

theorem testVerdict_cases (d : Bytes) (lines : List (Option Bytes)) :
    testVerdict d lines = .success ∨ testVerdict d lines = .fail := by
  unfold testVerdict
  split_ifs
  exacts [.inr rfl, .inl rfl]

/-! ### The code's scan -/

theorem scannedBuffers_eq_responseLines (line : Option Bytes) (lines : List (Option Bytes)) :
    scannedBuffers line lines = responseLines (line :: lines) := by
  induction lines generalizing line with
  | nil => rcases line with _ | _ | ⟨c, cs⟩ <;> rfl
  | cons l ls ih => rcases line with _ | _ | ⟨c, cs⟩ <;> simp [scannedBuffers, responseLines, ih]

theorem exchange_of_accepted {ex : Exchange} (hr : reply ex = .accepted) :
    0 ≤ ex.sent ∧ ∃ b rest, ex.lines = some b :: rest ∧ parseHttpStatusCode (some b) = .ok := by
  obtain ⟨sent, lines⟩ := ex
  have hsent : 0 ≤ sent := Int.not_lt.mp fun h => by simp [reply, h] at hr
  refine ⟨hsent, ?_⟩
  rcases lines with _ | ⟨_ | b, rest⟩
  · simp [reply, receiveLine, Int.not_lt.mpr hsent] at hr
  · simp [reply, receiveLine, Int.not_lt.mpr hsent] at hr
  · exact ⟨b, rest, rfl, parseHttpStatusCode_of_replyTo
      ((@reply_of_buffer ⟨sent, some b :: rest⟩ b hsent rfl).symm.trans hr)⟩

theorem tryLogin_tested {ext : External} {md : ModuleData} {login : LoginRecord}
    {szLogin szPassword d : Bytes} {ex : Exchange} (hknown : md.formType ≠ .unknown)
    (hbuild : ∃ r, prepareRequestString md szLogin szPassword = .ok r)
    (hd : md.denySignal = some d) (hr : reply ex = .accepted) :
    tryLogin ext md login szLogin szPassword ex = .ok ⟨.new, restoreRequestType md,
      setPasswordHelper login szPassword (testVerdict d ex.lines)⟩ := by
  obtain ⟨hsent, b, rest, hlines, h200⟩ := exchange_of_accepted hr
  obtain ⟨sent, lines⟩ := ex
  subst hlines
  rw [tryLogin_of_status_ok hknown hbuild hsent h200, acceptResponse_eq hd, testVerdict,
    scannedBuffers_eq_responseLines]

/-! ### Over a run -/

variable {ext : External} {server : Server}

theorem round_tested {s : Sys} {i : Input} {d : Bytes} (hnew : s.nState = .new)
    (hret : s.returned = none) (hready : RoundReady s.md) (hd : s.md.denySignal = some d)
    (hbuild : Builds s.md s.cred) (hc : 0 ≤ i.connect) (hr : reply i.exchange = .accepted) :
    ∃ log, run ext server s (round i) = .ok (advanceCredentials
      { s with hSocket := i.connect,
               login := setPasswordHelper s.login s.cred.pass (testVerdict d i.exchange.lines),
               log } i.next) := by
  obtain ⟨user, huser, hreq⟩ := hbuild
  have ht := @tryLogin_tested ext s.md s.login user s.cred.pass d i.exchange hready.known hreq hd hr
  have hmd : restoreRequestType s.md = s.md := by simp [restoreRequestType, hready.unchanged]
  refine ⟨s.log ++ (if 0 < s.hSocket then [.disconnect s.hSocket] else []) ++
    [.connect i.connect, .tryLogin [testVerdict d i.exchange.lines]], ?_⟩
  simp [round, run, step, hnew, hret, disconnectIfOpen_eq, Int.not_lt.mpr hc, huser, strArg, ht,
    hmd, recordTryLogin, bind, Except.bind, pure, Except.pure]

theorem run_acceptingInputs_tested {s : Sys} {d : Bytes} (hnew : s.nState = .new)
    (hret : s.returned = none) (hready : RoundReady s.md) (hd : s.md.denySignal = some d)
    (rs : List (Int × Exchange × CredentialSet × CredentialStatus)) (c : Int) (ex : Exchange) (p : CredentialSet)
    (hbuild : ∀ q ∈ s.cred :: rs.map (·.2.2.1), Builds s.md q)
    (hstatus : ∀ r ∈ rs, r.2.2.2 ≠ .done)
    (haccept : ∀ r ∈ (c, ex, p, .done) :: rs, 0 ≤ r.1 ∧ reply r.2.1 = .accepted) :
    ∃ s', run ext server s (acceptingInputs rs c ex p) = .ok s' ∧ s'.returned = some .success ∧
      s'.login.verdicts = s.login.verdicts ++
        testerVerdicts d ((s.cred :: rs.map (·.2.2.1)).zip (rs.map (·.2.1) ++ [ex])) := by
  induction rs generalizing s with
  | nil =>
    obtain ⟨hc, hr⟩ := haccept _ (List.mem_cons_self _ _)
    obtain ⟨log, hround⟩ := @round_tested ext server s ⟨c, ex, .next p .done⟩ d hnew hret hready hd
      (hbuild _ (List.mem_cons_self _ _)) hc hr
    simp only [acceptingInputs, List.flatMap_nil, List.nil_append]
    rw [run_append, hround, advanceCredentials_of_verdict (testVerdict_cases d ex.lines)]
    simp [round, run, step, hret, disconnectIfOpen_eq, testerVerdicts, bind, Except.bind]
  | cons r rs ih =>
    obtain ⟨hc, hr⟩ := haccept r (List.mem_cons_of_mem _ (List.mem_cons_self _ _))
    obtain ⟨log, hround⟩ := @round_tested ext server s ⟨r.1, r.2.1, .next r.2.2.1 r.2.2.2⟩ d hnew
      hret hready hd (hbuild _ (List.mem_cons_self _ _)) hc hr
    rw [advanceCredentials_of_verdict_continue (testVerdict_cases d r.2.1.lines) hnew _ _
      (hstatus r (List.mem_cons_self _ _))] at hround
    obtain ⟨s', hrun, hret', hverdicts⟩ := ih
      (s := { s with hSocket := r.1,
                     login := setPasswordHelper s.login s.cred.pass (testVerdict d r.2.1.lines),
                     log := log ++ [.getNextCredSet], cred := r.2.2.1 }) hnew hret hready hd
      (fun q hq => hbuild q (List.mem_cons_of_mem _ hq))
      (fun r' hr' => hstatus r' (List.mem_cons_of_mem _ hr'))
      (fun r' hr' => haccept r' (by rcases List.mem_cons.mp hr' with h | h <;> simp [h]))
    refine ⟨s', ?_, hret', ?_⟩
    · rw [acceptingInputs, List.flatMap_cons, List.append_assoc, List.append_assoc, run_append,
        hround]
      rw [acceptingInputs, List.append_assoc] at hrun
      exact hrun
    · simp [hverdicts, testerVerdicts]

/-- On a server that answers every request with a 200, a run of `initModule` from a reachable state
of `MSTATE_NEW` with no change of request type pending, whose module data has deny signal `d`,
records exactly the verdicts of the tester: for the pair it holds and each pair the host hands over
after it with a status other than DONE, in order, FAIL when `d` occurs, ignoring case, in a line of the response that pair drew
before its first absent or empty line, and SUCCESS otherwise. It returns SUCCESS once the host
reports DONE. -/
theorem accepting_run_refines_tester {s : Sys} (hs : Reachable ext server s)
    (hnew : s.nState = .new) (hret : s.returned = none) (hchanged : s.md.changedRequestType = false)
    {d : Bytes} (hd : s.md.denySignal = some d) (rs : List (Int × Exchange × CredentialSet × CredentialStatus))
    (c : Int) (ex : Exchange) (p : CredentialSet)
    (hbuild : ∀ q ∈ s.cred :: rs.map (·.2.2.1), Builds s.md q)
    (hstatus : ∀ r ∈ rs, r.2.2.2 ≠ .done)
    (haccept : ∀ r ∈ (c, ex, p, .done) :: rs, 0 ≤ r.1 ∧ reply r.2.1 = .accepted) :
    ∃ s', run ext server s (acceptingInputs rs c ex p) = .ok s' ∧ s'.returned = some .success ∧
      s'.login.verdicts = s.login.verdicts ++
        testerVerdicts d ((s.cred :: rs.map (·.2.2.1)).zip (rs.map (·.2.1) ++ [ex])) := by
  have hinit := hs.runInvariant.started (by simp [hnew]) (by simp [hnew])
  exact run_acceptingInputs_tested hnew hret
    ⟨hs.formType_ne_unknown hinit, hchanged, by simp [hd]⟩ hd rs c ex p hbuild hstatus haccept

theorem accepting_run_refines_tester_defaults :
    ∃ s, Reachable sampleExternal sampleServer s ∧ ∃ s', run sampleExternal sampleServer s
        (acceptingInputs
          [(4, ⟨0, [some (ascii "HTTP/1.1 200 OK\r\n"), some (ascii "Welcome")]⟩,
            ⟨some (ascii "alice"), ascii "p2"⟩, .sameUser)]
          5 ⟨0, [some (ascii "HTTP/1.1 200 OK\r\n"), some (ascii "Login incorrect")]⟩ ⟨none, []⟩) =
          .ok s' ∧
      s'.returned = some .success ∧
        s'.login.verdicts = [(ascii "secret", .success), (ascii "p2", .fail)] := by
  obtain ⟨s, hs, h⟩ := exists_reachable_of_run (.start noOptions ⟨.unknown, []⟩ firstPair) _
    (rfl : (run sampleExternal sampleServer (initModuleStart noOptions.moduleData
      ⟨.unknown, []⟩ firstPair) [⟨0, ⟨0, []⟩, .failure⟩]).map
        (fun s => (s.nState, s.returned, s.md, s.cred, s.login)) =
      .ok (.new, none, defaultModuleData, ⟨some (ascii "alice"), ascii "secret"⟩, ⟨.unknown, []⟩))
  simp only [Prod.mk.injEq] at h
  obtain ⟨hnew, hret, hmd, hcred, hlogin⟩ := h
  obtain ⟨s', hrun, hret', hv⟩ := accepting_run_refines_tester hs hnew hret (by rw [hmd]; rfl)
    (by rw [hmd]; rfl)
    [(4, ⟨0, [some (ascii "HTTP/1.1 200 OK\r\n"), some (ascii "Welcome")]⟩,
      ⟨some (ascii "alice"), ascii "p2"⟩, .sameUser)]
    5 ⟨0, [some (ascii "HTTP/1.1 200 OK\r\n"), some (ascii "Login incorrect")]⟩ ⟨none, []⟩
    (by
      rw [hmd, hcred]
      intro q hq
      simp only [List.map_cons, List.map_nil, List.mem_cons, List.mem_singleton,
        List.not_mem_nil, or_false] at hq
      rcases hq with rfl | rfl <;> exact ⟨_, rfl, _, rfl⟩)
    (by decide) (by decide)
  exact ⟨s, hs, s', hrun, hret', by rw [hv, hcred, hlogin]; decide⟩

end MedusaWebForm
