import MedusaWebForm.Attempts
import MedusaWebForm.Rounds

/-!
# Following redirects over a run

`tryLogin` follows a 301, 302, 307 or 308 by resolving its `Location` value and returning
`MSTATE_NEW` with the pair and `iResult` as they were, so the next round tries the same pair on a new
connection. Nothing counts the redirects: a server that keeps answering with redirects to an absolute
path or a URI, and sets no cookie, keeps `initModule` on its pair for ever (`redirects_never_return`).
A URI also becomes the host header, and no pass writes `<host>:<port>` back
(`reachable_hostHeader`).
-/

namespace MedusaWebForm

variable {ext : External} {server : Server}

/-! ### One redirect -/

/-- A first buffer that `tryLogin` follows and after which the request still builds: a 301, 302,
307 or 308 whose `Location` value, cut at its first `?`, is an absolute path or a URI, and no
`Set-Cookie` header. -/
structure Redirection (buffer : Bytes) : Prop where
  status : isRedirect (parseHttpStatusCode (some buffer))
  location : ∃ loc, findLocationHeaderValue (some buffer) = .ok (some loc) ∧
    pathType (some (loc.takeWhile (· != 63))) ≠ .relative
  noCookie : strcasestr buffer SET_COOKIE_NEEDLE = none

/-- The input of a round that keeps the redirects going: the connect succeeds, the request is
sent, and the first buffer of the reply is a redirection. -/
structure RedirectInput (i : Input) : Prop where
  connect : 0 ≤ i.connect
  sent : 0 ≤ i.exchange.sent
  reply : ∃ b, (receiveLine i.exchange.lines).1 = some b ∧ Redirection b

theorem setCookiesFromResponse_of_no_cookie {response : Bytes}
    (h : strcasestr response SET_COOKIE_NEEDLE = none) (fill : UInt8) (jar : Option Buffer) :
    setCookiesFromResponse fill jar response = .ok jar := by
  simp [setCookiesFromResponse, setCookiesLoop, findHeaderValue_eq_ok_none.mpr h]

theorem resolveLocationPath_resourcePath (ext : External) {loc : Bytes} (md : ModuleData)
    (h : pathType (some (loc.takeWhile (· != 63))) ≠ .relative) :
    (resolveLocationPath ext loc md).resourcePath = some (loc.takeWhile (· != 63)) := by
  unfold resolveLocationPath
  dsimp only
  split
  · contradiction
  · rfl
  · rfl
  next heq =>
    rw [pathType_some] at heq
    split_ifs at heq

theorem changeRequestType_changedRequestType (statusCode : HttpStatusCode) {md : ModuleData}
    (h : md.changedRequestType = true) : (changeRequestType statusCode md).changedRequestType = true := by
  unfold changeRequestType
  split <;> simp [h]

theorem request_of_builds {md : ModuleData} {login : LoginRecord} {szLogin szPassword b : Bytes}
    {ex : Exchange} {lines : List (Option Bytes)} (hknown : md.formType ≠ .unknown)
    (hbuild : ∃ r, prepareRequestString md szLogin szPassword = .ok r) (hsent : 0 ≤ ex.sent)
    (hline : receiveLine ex.lines = (some b, lines)) :
    request md login szLogin szPassword ex = .ok ⟨1, login, some b, lines⟩ := by
  obtain ⟨r, hr⟩ := hbuild
  cases hf : md.formType
  · exact absurd hf hknown
  all_goals simp [request, hf, sendRequest, hr, hsent, hline, bind, Except.bind, pure, Except.pure]

theorem tryLogin_of_redirection {md : ModuleData} {login : LoginRecord}
    {szLogin szPassword b loc : Bytes} {ex : Exchange} (hknown : md.formType ≠ .unknown)
    (hbuild : ∃ r, prepareRequestString md szLogin szPassword = .ok r) (hsent : 0 ≤ ex.sent)
    (hline : (receiveLine ex.lines).1 = some b) (hb : Redirection b)
    (hloc : findLocationHeaderValue (some b) = .ok (some loc)) :
    tryLogin ext md login szLogin szPassword ex = .ok ⟨.new,
      changeRequestType (parseHttpStatusCode (some b)) (resolveLocationPath ext loc md), login⟩ := by
  have hreq := @request_of_builds md login _ _ _ _ _ hknown hbuild hsent (Prod.ext hline rfl)
  have hjar := setCookiesFromResponse_of_no_cookie hb.noCookie ext.reallocFill
  obtain ⟨rp, old, hh, hres⟩ := resolveLocationPath_frame ext loc md
  rcases hb.status with hst | hst | hst | hst <;>
    simp [tryLogin, hreq, hst, followRedirect, hloc, hjar, hres, bind, Except.bind, pure, Except.pure]

/-! ### One round -/

/-- A state the redirects keep on its pair: in `MSTATE_RUNNING`, with no verdict in and a request
that builds. -/
structure RedirectLoop (ext : External) (server : Server) (szLogin : Bytes) (s : Sys) : Prop where
  reachable : Reachable ext server s
  returned : s.returned = none
  running : s.nState = .running
  unknown : s.login.iResult = .unknown
  user : s.cred.user = some szLogin
  builds : ∃ r, prepareRequestString s.md szLogin s.cred.pass = .ok r

section Round

variable {user : Bytes} {i : Input}

theorem RedirectLoop.one_round {s : Sys} (hl : RedirectLoop ext server user s) (hi : RedirectInput i) :
    ∃ s', run ext server s (round i) = .ok s' ∧ RedirectLoop ext server user s' ∧
      s'.cred = s.cred ∧ s'.login = s.login ∧
      s'.log = s.log ++ .tryLogin [] ::
        ((if 0 < s.hSocket then [.disconnect s.hSocket] else []) ++ [.connect i.connect]) := by
  obtain ⟨b, hline, hb⟩ := hi.reply
  obtain ⟨loc, hloc, hpath⟩ := hb.location
  have hinit := hl.reachable.runInvariant.started (by simp [hl.running]) (by simp [hl.running])
  have htry := @tryLogin_of_redirection ext _ s.login _ _ _ _ _
    (hl.reachable.formType_ne_unknown hinit) hl.builds hi.sent hline hb hloc
  have hrun : run ext server s (round i) = .ok { s with
      nState := .running, hSocket := i.connect,
      md := changeRequestType (parseHttpStatusCode (some b)) (resolveLocationPath ext loc s.md),
      log := s.log ++ .tryLogin [] ::
        ((if 0 < s.hSocket then [.disconnect s.hSocket] else []) ++ [.connect i.connect]) } := by
    simp [round, run, step, hl.returned, hl.running, hl.user, strArg, htry, recordTryLogin,
      advanceCredentials, hl.unknown, disconnectIfOpen_eq, Int.not_lt.mpr hi.connect, bind,
      Except.bind, pure, Except.pure]
  have hs' := reachable_of_run hl.reachable hrun
  obtain ⟨hc, -, hj⟩ := (hl.reachable.request_builds_iff hinit user s.cred.pass).mp hl.builds
  obtain ⟨rp, old, hh, hres⟩ := resolveLocationPath_frame ext loc s.md
  obtain ⟨ft, ch, hchange⟩ := changeRequestType_frame (parseHttpStatusCode (some b))
    (resolveLocationPath ext loc s.md)
  refine ⟨_, hrun, ⟨hs', hl.returned, rfl, hl.unknown, hl.user,
    (hs'.request_builds_iff hinit user s.cred.pass).mpr ⟨?_, ?_, ?_⟩⟩, rfl, rfl, rfl⟩
  · exact hc.imp_left fun h => changeRequestType_changedRequestType _ (by rw [hres]; exact h)
  · simp [hchange, resolveLocationPath_resourcePath ext s.md hpath]
  · rw [hchange, hres]
    exact hj

theorem RedirectLoop.run_rounds {s : Sys} (hl : RedirectLoop ext server user s) (rs : List Input)
    (hrs : ∀ i ∈ rs, RedirectInput i) :
    ∃ s', run ext server s (rs.flatMap round) = .ok s' ∧ RedirectLoop ext server user s' ∧
      s'.cred = s.cred ∧ s'.login = s.login ∧ ∃ L, s'.log = s.log ++ L ∧
        Event.getNextCredSet ∉ L ∧ (∀ c, L.count (.connect c) = (rs.map (·.connect)).count c) ∧
        L.count (.tryLogin []) = rs.length := by
  induction rs generalizing s with
  | nil => exact ⟨s, rfl, hl, rfl, rfl, [], by simp, by simp, by simp, rfl⟩
  | cons i rs ih =>
    obtain ⟨s1, h1, hl1, hc1, hlg1, hlog1⟩ := hl.one_round (hrs i (List.mem_cons_self i rs))
    obtain ⟨s', h', hl', hc', hlg', L, hL, hnext, hconnects, htries⟩ :=
      ih hl1 fun j hj => hrs j (List.mem_cons_of_mem i hj)
    refine ⟨s', ?_, hl', hc'.trans hc1, hlg'.trans hlg1, .tryLogin [] ::
      ((if 0 < s.hSocket then [.disconnect s.hSocket] else []) ++ [.connect i.connect]) ++ L,
      by rw [hL, hlog1, List.append_assoc], ?_, fun c => ?_, ?_⟩
    · rw [List.flatMap_cons, run_append, h1]
      exact h'
    all_goals split_ifs <;> simp [hnext, hconnects, htries, List.count_cons]

end Round

/-! ### Every run on such a server -/

/-- From any reachable state in `MSTATE_RUNNING` whose pair has no verdict yet and whose request
builds, a server that answers every request with a redirect to an absolute path or a URI and sets no
cookie keeps `initModule` on that pair for ever: after the rounds of any list `rs` of such answers
it is back in `MSTATE_RUNNING` with the same pair and login record, has not returned, has asked the
host for no pair, and has made one more `tryLogin` call per round, none recording a verdict, each on
a new connection, the connect results of `rs` in turn. -/
theorem redirects_never_return {s : Sys} {user : Bytes} (hs : Reachable ext server s)
    (hret : s.returned = none) (hrun : s.nState = .running) (hunk : s.login.iResult = .unknown)
    (huser : s.cred.user = some user)
    (hbuild : ∃ r, prepareRequestString s.md user s.cred.pass = .ok r) (rs : List Input)
    (hrs : ∀ i ∈ rs, RedirectInput i) :
    ∃ s', run ext server s (rs.flatMap round) = .ok s' ∧ s'.returned = none ∧
      s'.nState = .running ∧ s'.cred = s.cred ∧ s'.login = s.login ∧
      Event.getNextCredSet ∉ s'.log.drop s.log.length ∧
      (∀ c, (s'.log.drop s.log.length).count (.connect c) = (rs.map (·.connect)).count c) ∧
      (s'.log.drop s.log.length).count (.tryLogin []) = rs.length := by
  obtain ⟨s', h, hl, hc, hlg, L, hL, hnext, hconnects, htries⟩ :=
    RedirectLoop.run_rounds ⟨hs, hret, hrun, hunk, huser, hbuild⟩ rs hrs
  refine ⟨s', h, hl.returned, hl.running, hc, hlg, ?_⟩
  rw [hL, List.drop_left]
  exact ⟨hnext, hconnects, htries⟩

def foundReply : Bytes := ascii "HTTP/1.1 302 Found\r\nLocation: /app/home\r\n\r\n"

def permanentReply : Bytes :=
  ascii "HTTP/1.1 308 Permanent Redirect\r\nLocation: http://other/login\r\n\r\n"

def redirectInputs : List Input :=
  [⟨3, ⟨0, [some foundReply]⟩, .failure⟩, ⟨4, ⟨0, [some permanentReply]⟩, .failure⟩,
    ⟨5, ⟨0, [some foundReply]⟩, .failure⟩]

theorem redirects_never_return_found :
    ∃ s', run sampleExternal sampleServer firstAttempt (redirectInputs.flatMap round) = .ok s' ∧
      s'.returned = none ∧ s'.nState = .running ∧ s'.cred = firstAttempt.cred ∧
      s'.login = firstAttempt.login ∧ Event.getNextCredSet ∉ s'.log.drop firstAttempt.log.length ∧
      (∀ c, (s'.log.drop firstAttempt.log.length).count (.connect c) =
        (redirectInputs.map (·.connect)).count c) ∧
      (s'.log.drop firstAttempt.log.length).count (.tryLogin []) = redirectInputs.length :=
  @redirects_never_return sampleExternal sampleServer firstAttempt (ascii "alice")
    firstAttempt_reachable rfl rfl rfl rfl ⟨_, rfl⟩ redirectInputs (by
      have hfound : Redirection foundReply :=
        ⟨by unfold isRedirect; decide, ⟨ascii "/app/home", by decide, by decide⟩, by decide⟩
      have hperm : Redirection permanentReply :=
        ⟨by unfold isRedirect; decide, ⟨ascii "http://other/login", by decide, by decide⟩,
          by decide⟩
      intro i hi
      simp only [redirectInputs, List.mem_cons, List.mem_singleton, List.not_mem_nil,
        or_false] at hi
      rcases hi with rfl | rfl | rfl
      · exact ⟨by decide, by decide, foundReply, rfl, hfound⟩
      · exact ⟨by decide, by decide, permanentReply, rfl, hperm⟩
      · exact ⟨by decide, by decide, foundReply, rfl, hfound⟩)

/-! ### The host header after a redirect to a URI -/

theorem step_hostHeader {s s' : Sys} {i : Input} (h : step ext server s i = .ok s') :
    s'.md.hostHeader = s.md.hostHeader ∨
      s'.md.hostHeader =
        some (s.md.hostHeader.getD (server.pHost ++ ascii ":" ++ formatDecimal server.nPort)) ∨
      IsUriHost s'.md.hostHeader := by
  rcases step_cases h with ⟨-, rfl⟩ | ⟨-, -, rfl⟩ | ⟨-, -, md, hi, rfl⟩ | ⟨-, -, -, rfl⟩ |
    ⟨-, -, -, rfl⟩ | ⟨-, -, user, o, ht, rfl⟩ | ⟨-, -, rfl⟩
  case inr.inr.inl =>
    exact .inr (.inl ((initializeModuleData_hostHeader hi).trans (setRequestDefaults_hostHeader _ _)))
  case inr.inr.inr.inr.inr.inl =>
    obtain ⟨cred, nState, heq, -⟩ := advanceCredentials_frame (recordTryLogin s o) i.next
    rw [heq]
    exact (tryLogin_hostHeader ht).imp_right .inr
  all_goals exact .inl rfl

theorem Reachable.hostHeader {s : Sys} (hs : Reachable ext server s) :
    s.md.hostHeader = none ∨
      s.md.hostHeader = some (server.pHost ++ ascii ":" ++ formatDecimal server.nPort) ∨
      IsUriHost s.md.hostHeader := by
  induction hs with
  | start o login first => exact .inl (by cases first <;> rfl)
  | step i _ h ih =>
    rcases step_hostHeader h with h1 | h1 | h1
    · exact h1 ▸ ih
    · rcases ih with h0 | h0 | ⟨u, hu, h0⟩ <;> rw [h0] at h1
      · exact .inr (.inl h1)
      · exact .inr (.inl h1)
      · exact .inr (.inr ⟨u, hu, h1⟩)
    · exact .inr (.inr h1)

theorem IsUriHost.step {s s' : Sys} {i : Input} (hu : IsUriHost s.md.hostHeader)
    (h : step ext server s i = .ok s') : IsUriHost s'.md.hostHeader := by
  obtain ⟨u, hu, h0⟩ := hu
  rcases step_hostHeader h with h1 | h1 | h1
  · exact ⟨u, hu, h1.trans h0⟩
  · exact ⟨u, hu, by rw [h1, h0]; rfl⟩
  · exact h1

/-- In every reachable state after `MSTATE_INITIALIZE` the host header is `<host>:<port>` as
`MSTATE_INITIALIZE` set it, or a URI that a redirect's `Location` held. Once it is a URI, every
state the run goes on to has a URI there: no pass sets `<host>:<port>` back, not even the 200 that
restores the resource path, so every later request names the URI as its `Host`. -/
theorem reachable_hostHeader {s : Sys} (hs : Reachable ext server s) (hinit : s.initialized = true) :
    (s.md.hostHeader = some (server.pHost ++ ascii ":" ++ formatDecimal server.nPort) ∨
        IsUriHost s.md.hostHeader) ∧
      ∀ is s', run ext server s is = .ok s' → IsUriHost s.md.hostHeader →
        IsUriHost s'.md.hostHeader :=
  ⟨hs.hostHeader.resolve_left (hs.headersSet hinit).host, fun is _ h hu =>
    @run_invariant ext server (fun s => IsUriHost s.md.hostHeader) _ _ is
      (fun _ _ _ _ hu hstep => hu.step hstep) hu h⟩

theorem reachable_hostHeader_first :
    (firstAttempt.md.hostHeader =
        some (sampleServer.pHost ++ ascii ":" ++ formatDecimal sampleServer.nPort) ∨
        IsUriHost firstAttempt.md.hostHeader) ∧
      ∀ is s', run sampleExternal sampleServer firstAttempt is = .ok s' →
        IsUriHost firstAttempt.md.hostHeader → IsUriHost s'.md.hostHeader :=
  reachable_hostHeader firstAttempt_reachable rfl

/-- A 307 to a URI, then a 200: the host header keeps the URI. -/
example : (run sampleExternal sampleServer firstAttempt
    [⟨0, ⟨0, [some (ascii "HTTP/1.1 307 Temporary Redirect\r\nLocation: http://other/login\r\n\r\n")]⟩,
        .failure⟩,
      ⟨4, ⟨0, []⟩, .failure⟩,
      ⟨0, ⟨0, [some (ascii "HTTP/1.1 200 OK\r\n"), some (ascii "Welcome")]⟩, .failure⟩]).map
    (·.md.hostHeader) = .ok (some (ascii "http://other/login")) := rfl

end MedusaWebForm
