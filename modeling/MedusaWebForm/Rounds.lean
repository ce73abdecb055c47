import MedusaWebForm.Run

/-!
# A server that accepts every request

On a server that answers every request with a 200, `initModule` is the loop of §4.H. It tries the
pair it holds and each pair the host hands over after it, once each and in order, each after a
connect of its own. It records SUCCESS or FAIL for each, and returns SUCCESS once the host reports
DONE. A round is the two passes one pair takes, `MSTATE_NEW` and then `MSTATE_RUNNING`:
`round_accepted` says what one round does, and `run_acceptingInputs` follows the rounds by
induction on them. A 200 restores nothing when no redirect changed the request type, so the module
data does not change on this path, and what the rounds need of it is said once, in `RoundReady`.
-/

namespace MedusaWebForm

variable {ext : External} {server : Server}

/-- The request for the pair `p` builds: the pair has a login name, and `prepareRequestString`
returns. -/
def Builds (md : ModuleData) (p : CredentialSet) : Prop :=
  ∃ user, p.user = some user ∧ ∃ r, prepareRequestString md user p.pass = .ok r

/-- What a round that draws a 200 needs of the module data: a form of known type, no change of
request type pending, and a deny signal to scan for. -/
structure RoundReady (md : ModuleData) : Prop where
  known : md.formType ≠ .unknown
  unchanged : md.changedRequestType = false
  deny : md.denySignal ≠ none

/-- The two passes of a round, on one input: `MSTATE_NEW` reads its connect result, and
`MSTATE_RUNNING` its exchange and what `getNextCredSet` hands over. -/
def round (i : Input) : List Input := [i, i]

/-- The inputs of a run on a server that accepts: a round for each of `rs`, after which the host
hands over the next pair with a status other than DONE, then the round of the last pair, after which
it reports DONE, then the passes of `MSTATE_EXITING` and `MSTATE_COMPLETE`. -/
def acceptingInputs (rs : List (Int × Exchange × CredentialSet × CredentialStatus)) (c : Int)
    (ex : Exchange) (p : CredentialSet) : List Input :=
  rs.flatMap (fun r => round ⟨r.1, r.2.1, .next r.2.2.1 r.2.2.2⟩) ++
    round ⟨c, ex, .next p .done⟩ ++ round ⟨c, ex, .next p .done⟩

theorem run_append (s : Sys) (is js : List Input) :
    run ext server s (is ++ js) = run ext server s is >>= fun s => run ext server s js := by
  induction is generalizing s with
  | nil => rfl
  | cons i is ih =>
    simp only [List.cons_append, run]
    cases step ext server s i <;> simp [bind, Except.bind, ih]

theorem round_accepted {s : Sys} {i : Input} (hnew : s.nState = .new) (hret : s.returned = none)
    (hready : RoundReady s.md) (hbuild : Builds s.md s.cred) (hc : 0 ≤ i.connect)
    (hr : reply i.exchange = .accepted) :
    ∃ v, (v = .success ∨ v = .fail) ∧ ∃ log, run ext server s (round i) =
      .ok (advanceCredentials
        { s with hSocket := i.connect, login := setPasswordHelper s.login s.cred.pass v, log }
        i.next) := by
  obtain ⟨user, huser, hreq⟩ := hbuild
  obtain ⟨found, ht⟩ := @tryLogin_of_accepted ext s.md s.login user s.cred.pass i.exchange
    hready.known hreq hready.deny hr
  have hmd : restoreRequestType s.md = s.md := by simp [restoreRequestType, hready.unchanged]
  refine ⟨if found then .fail else .success, by cases found <;> simp,
    s.log ++ (if 0 < s.hSocket then [.disconnect s.hSocket] else []) ++
      [.connect i.connect, .tryLogin [if found then .fail else .success]], ?_⟩
  simp [round, run, step, hnew, hret, disconnectIfOpen_eq, Int.not_lt.mpr hc, huser, strArg, ht,
    hmd, recordTryLogin, bind, Except.bind, pure, Except.pure]

theorem advanceCredentials_of_verdict {s : Sys} {v : LoginResult} (hv : v = .success ∨ v = .fail)
    (pass : Bytes) (p : CredentialSet) (status : CredentialStatus) (hSocket : Int)
    (log : List Event) :
    advanceCredentials { s with hSocket, login := setPasswordHelper s.login pass v, log }
        (.next p status) =
      { s with hSocket, login := setPasswordHelper s.login pass v, log := log ++ [.getNextCredSet],
               cred := p,
               nState := match status with
                 | .done => .exiting
                 | .newUser => .new
                 | .sameUser => s.nState } := by
  have hres : v ≠ .unknown := by rcases hv with rfl | rfl <;> decide
  cases status <;> simp [advanceCredentials, hres]

theorem advanceCredentials_of_verdict_continue {s : Sys} {v : LoginResult}
    (hv : v = .success ∨ v = .fail) (hnew : s.nState = .new) (pass : Bytes) (p : CredentialSet)
    {status : CredentialStatus} (hstatus : status ≠ .done) (hSocket : Int) (log : List Event) :
    advanceCredentials { s with hSocket, login := setPasswordHelper s.login pass v, log }
        (.next p status) =
      { s with hSocket, login := setPasswordHelper s.login pass v, log := log ++ [.getNextCredSet],
               cred := p } := by
  rw [advanceCredentials_of_verdict hv]
  cases status
  · exact absurd rfl hstatus
  · simp [← hnew]
  · rfl

theorem run_acceptingInputs {s : Sys} (hnew : s.nState = .new) (hret : s.returned = none)
    (hready : RoundReady s.md) (rs : List (Int × Exchange × CredentialSet × CredentialStatus)) (c : Int)
    (ex : Exchange) (p : CredentialSet) (hbuild : ∀ q ∈ s.cred :: rs.map (·.2.2.1), Builds s.md q)
    (hstatus : ∀ r ∈ rs, r.2.2.2 ≠ .done)
    (haccept : ∀ r ∈ (c, ex, p, .done) :: rs, 0 ≤ r.1 ∧ reply r.2.1 = .accepted) :
    ∃ s', run ext server s (acceptingInputs rs c ex p) = .ok s' ∧ s'.returned = some .success ∧
      ∃ vs : List LoginResult, vs.length = rs.length + 1 ∧ (∀ v ∈ vs, v = .success ∨ v = .fail) ∧
        s'.login.verdicts =
          s.login.verdicts ++ ((s.cred :: rs.map (·.2.2.1)).map (·.pass)).zip vs := by
  induction rs generalizing s with
  | nil =>
    obtain ⟨hc, hr⟩ := haccept _ (List.mem_cons_self _ _)
    obtain ⟨v, hv, log, hround⟩ := @round_accepted ext server s ⟨c, ex, .next p .done⟩ hnew hret
      hready (hbuild _ (List.mem_cons_self _ _)) hc hr
    simp only [acceptingInputs, List.flatMap_nil, List.nil_append]
    rw [run_append, hround, advanceCredentials_of_verdict hv]
    simp [round, run, step, hret, disconnectIfOpen_eq, bind, Except.bind]
    exact ⟨[v], rfl, by simpa using hv, by simp⟩
  | cons r rs ih =>
    obtain ⟨hc, hr⟩ := haccept r (List.mem_cons_of_mem _ (List.mem_cons_self _ _))
    obtain ⟨v, hv, log, hround⟩ := @round_accepted ext server s ⟨r.1, r.2.1, .next r.2.2.1 r.2.2.2⟩
      hnew hret hready (hbuild _ (List.mem_cons_self _ _)) hc hr
    rw [advanceCredentials_of_verdict_continue hv hnew _ _
      (hstatus r (List.mem_cons_self _ _))] at hround
    let s₁ : Sys := { s with hSocket := r.1, login := setPasswordHelper s.login s.cred.pass v,
                             log := log ++ [.getNextCredSet], cred := r.2.2.1 }
    obtain ⟨s', hrun, hret', vs, hlen, hvs, hverdicts⟩ := @ih s₁ hnew hret hready
      (fun q hq => hbuild q (List.mem_cons_of_mem _ hq))
      (fun r' hr' => hstatus r' (List.mem_cons_of_mem _ hr'))
      (fun r' hr' => haccept r' (by rcases List.mem_cons.mp hr' with h | h <;> simp [h]))
    refine ⟨s', ?_, hret', v :: vs, by simp [hlen], ?_, ?_⟩
    · rw [acceptingInputs, List.flatMap_cons, List.append_assoc, List.append_assoc, run_append,
        show run ext server s _ = .ok s₁ from hround]
      rw [acceptingInputs, List.append_assoc] at hrun
      exact hrun
    · intro w hw
      rcases List.mem_cons.mp hw with rfl | hw
      exacts [hv, hvs w hw]
    · simp [hverdicts]

/-! ### From a reachable state -/

/-- On a server that answers every request with a 200, `initModule` tries the pair it holds in a
reachable state of `MSTATE_NEW` with no change of request type pending, and each pair the host
hands over after it with a status other than DONE, exactly once and in order. It records SUCCESS or FAIL for each, and returns
SUCCESS once the host reports DONE. -/
theorem accepting_run_tries_each_pair_once {s : Sys} (hs : Reachable ext server s)
    (hnew : s.nState = .new) (hret : s.returned = none) (hchanged : s.md.changedRequestType = false)
    (rs : List (Int × Exchange × CredentialSet × CredentialStatus)) (c : Int) (ex : Exchange) (p : CredentialSet)
    (hbuild : ∀ q ∈ s.cred :: rs.map (·.2.2.1), Builds s.md q)
    (hstatus : ∀ r ∈ rs, r.2.2.2 ≠ .done)
    (haccept : ∀ r ∈ (c, ex, p, .done) :: rs, 0 ≤ r.1 ∧ reply r.2.1 = .accepted) :
    ∃ s', run ext server s (acceptingInputs rs c ex p) = .ok s' ∧ s'.returned = some .success ∧
      ∃ vs : List LoginResult, vs.length = rs.length + 1 ∧ (∀ v ∈ vs, v = .success ∨ v = .fail) ∧
        s'.login.verdicts =
          s.login.verdicts ++ ((s.cred :: rs.map (·.2.2.1)).map (·.pass)).zip vs := by
  have hinit := hs.runInvariant.started (by simp [hnew]) (by simp [hnew])
  exact run_acceptingInputs hnew hret
    ⟨hs.formType_ne_unknown hinit, hchanged, hs.denySignal_ne_none hinit⟩ rs c ex p hbuild hstatus haccept

theorem accepting_run_tries_each_pair_once_defaults :
    ∃ s, Reachable sampleExternal sampleServer s ∧ ∃ s', run sampleExternal sampleServer s
        (acceptingInputs
          [(4, ⟨0, [some (ascii "HTTP/1.1 200 OK\r\n"), some (ascii "Welcome")]⟩,
            ⟨some (ascii "bob"), ascii "p2"⟩, .newUser)]
          5 ⟨0, [some (ascii "HTTP/1.1 200 OK\r\n"), some (ascii "Login incorrect")]⟩ ⟨none, []⟩) =
          .ok s' ∧
      s'.returned = some .success ∧ ∃ vs : List LoginResult, vs.length = 2 ∧
        (∀ v ∈ vs, v = .success ∨ v = .fail) ∧
        s'.login.verdicts = [ascii "secret", ascii "p2"].zip vs := by
  obtain ⟨s, hs, h⟩ := exists_reachable_of_run (.start noOptions ⟨.unknown, []⟩ firstPair) _
    (by decide : (run sampleExternal sampleServer (initModuleStart noOptions.moduleData
      ⟨.unknown, []⟩ firstPair) [⟨0, ⟨0, []⟩, .failure⟩]).map
        (fun s => (s.nState, s.returned, s.md, s.cred, s.login)) =
      .ok (.new, none, defaultModuleData, ⟨some (ascii "alice"), ascii "secret"⟩, ⟨.unknown, []⟩))
  simp only [Prod.mk.injEq] at h
  obtain ⟨hnew, hret, hmd, hcred, hlogin⟩ := h
  obtain ⟨s', hrun, hret', vs, hlen, hvs, hv⟩ := accepting_run_tries_each_pair_once hs hnew hret
    (by rw [hmd]; rfl)
    [(4, ⟨0, [some (ascii "HTTP/1.1 200 OK\r\n"), some (ascii "Welcome")]⟩,
      ⟨some (ascii "bob"), ascii "p2"⟩, .newUser)]
    5 ⟨0, [some (ascii "HTTP/1.1 200 OK\r\n"), some (ascii "Login incorrect")]⟩ ⟨none, []⟩
    (by
      rw [hmd, hcred]
      intro q hq
      simp only [List.map_cons, List.map_nil, List.mem_cons, List.mem_singleton,
        List.not_mem_nil, or_false] at hq
      rcases hq with rfl | rfl <;> exact ⟨_, rfl, _, rfl⟩)
    (by decide) (by decide)
  exact ⟨s, hs, s', hrun, hret', vs, hlen, hvs, by rw [hv, hcred, hlogin]; rfl⟩

end MedusaWebForm
