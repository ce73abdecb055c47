import MedusaWebForm.Configuration
import MedusaWebForm.CookieJar

/-!
# When an attempt reaches the server

`prepareRequestString` reads eight fields of the module data as C strings, and the URL-encoding of
the password when the request carries parameters. `MSTATE_INITIALIZE` sets the host header, the user
agent, the custom headers and the form's keys, and no later pass unsets them: a redirect may move
the host header, but only to another string. So in every reachable state the request for a pair
builds exactly when three things hold (`reachable_request_builds_iff`): the password encodes, or a
301 or 302 has left the request without parameters; the resource path is set, which a 200 that ends
a redirect chain with no relative hop does not leave; and the cookie jar reads as a C string, which
after a redirect has set a cookie depends on the byte the allocator left (see `CookieJar`).
-/

namespace MedusaWebForm

variable {ext : External} {server : Server}

/-! ### The headers every state keeps -/

/-- The headers `MSTATE_INITIALIZE` sets and no later pass unsets. -/
structure HeadersSet (md : ModuleData) : Prop where
  host : md.hostHeader ≠ none
  userAgent : md.userAgentHeader ≠ none
  custom : md.customHeaders ≠ none

theorem setRequestDefaults_hostHeader (server : Server) (md : ModuleData) :
    (setRequestDefaults server md).hostHeader =
      some (md.hostHeader.getD (server.pHost ++ ascii ":" ++ formatDecimal server.nPort)) := by
  unfold setRequestDefaults
  dsimp only
  split_ifs <;> cases h : md.hostHeader <;> simp_all

theorem setRequestDefaults_resourcePath (server : Server) (md : ModuleData) :
    (setRequestDefaults server md).resourcePath = some (md.resourcePath.getD (ascii "/")) := by
  unfold setRequestDefaults
  dsimp only
  split_ifs <;> cases h : md.resourcePath <;> simp_all [setDefaultOption]

theorem initializeModuleData_frame {md md' : ModuleData}
    (h : initializeModuleData ext server md = .ok md') :
    ∃ ft uk pk rest ua d ch jar, md' = { setRequestDefaults server md with
      formType := ft, formUserKey := uk, formPassKey := pk, formRest := rest,
      userAgentHeader := ua, denySignal := d, customHeaders := ch, cookieJar := jar } := by
  obtain ⟨md1, h1, h⟩ := bind_eq_ok.mp h
  obtain ⟨ft, uk, pk, rest, rfl⟩ := initializeForm_frame h1
  obtain ⟨ua, d, ch, jar, hhd⟩ := setHeaderDefaults_frame ext
    { setRequestDefaults server md with
      formType := ft, formUserKey := uk, formPassKey := pk, formRest := rest }
  exact ⟨ft, uk, pk, rest, ua, d, ch, jar, by rw [← Except.ok.inj h, hhd]⟩

theorem initializeModuleData_hostHeader {md md' : ModuleData}
    (h : initializeModuleData ext server md = .ok md') :
    md'.hostHeader = (setRequestDefaults server md).hostHeader := by
  obtain ⟨-, -, -, -, -, -, -, -, rfl⟩ := initializeModuleData_frame h
  rfl

theorem initializeModuleData_resourcePath {md md' : ModuleData}
    (h : initializeModuleData ext server md = .ok md') :
    md'.resourcePath = some (md.resourcePath.getD (ascii "/")) := by
  obtain ⟨-, -, -, -, -, -, -, -, rfl⟩ := initializeModuleData_frame h
  exact setRequestDefaults_resourcePath server md

theorem initializeModuleData_resourcePathOld {md md' : ModuleData}
    (h : initializeModuleData ext server md = .ok md') :
    md'.resourcePathOld = md.resourcePathOld := by
  obtain ⟨-, -, -, -, -, -, -, -, rfl⟩ := initializeModuleData_frame h
  obtain ⟨rp, hh, heq⟩ := setRequestDefaults_frame server md
  simp only [heq]

theorem initializeModuleData_headersSet {md md' : ModuleData}
    (h : initializeModuleData ext server md = .ok md') : HeadersSet md' := by
  obtain ⟨hua, hch, -⟩ := initializeModuleData_headers h
  exact ⟨by simp [initializeModuleData_hostHeader h, setRequestDefaults_hostHeader], by simp [hua],
    by simp [hch]⟩

/-- A host header that holds a URI, as `_resolveLocationPath` writes it for a `Location` value of
more than four bytes whose first four are `http` in any case. -/
def IsUriHost (hostHeader : Option Bytes) : Prop :=
  ∃ u, pathType (some u) = .uri ∧ hostHeader = some u

theorem resolveLocationPath_hostHeader (ext : External) (loc : Bytes) (md : ModuleData) :
    (resolveLocationPath ext loc md).hostHeader = md.hostHeader ∨
      IsUriHost (resolveLocationPath ext loc md).hostHeader := by
  unfold resolveLocationPath
  dsimp only
  split
  · exact .inl rfl
  next heq => exact .inr ⟨_, heq, rfl⟩
  · exact .inl rfl
  · exact .inl rfl

theorem tryLogin_hostHeader {md : ModuleData} {login : LoginRecord} {szLogin szPassword : Bytes}
    {ex : Exchange} {o : Outcome} (h : tryLogin ext md login szLogin szPassword ex = .ok o) :
    o.md.hostHeader = md.hostHeader ∨ IsUriHost o.md.hostHeader := by
  rcases tryLogin_cases h with ⟨-, h1⟩ | ⟨-, -, h1⟩ | ⟨-, -, loc, jar, h1⟩ <;> rw [h1]
  · exact .inl rfl
  · obtain ⟨ft, ch, rp, old, jar, h2⟩ := restoreRequestType_frame md
    exact .inl (by rw [h2])
  · obtain ⟨ft, ch, h2⟩ := changeRequestType_frame (exchangeStatus ex)
      { resolveLocationPath ext loc md with cookieJar := jar }
    simpa [h2] using resolveLocationPath_hostHeader ext loc md

theorem tryLogin_headersSet {md : ModuleData} {login : LoginRecord} {szLogin szPassword : Bytes}
    {ex : Exchange} {o : Outcome} (hset : HeadersSet md)
    (h : tryLogin ext md login szLogin szPassword ex = .ok o) : HeadersSet o.md := by
  have hcfg := tryLogin_config h
  simp only [ModuleData.config, Config.mk.injEq] at hcfg
  refine ⟨?_, hcfg.2.2.2.1 ▸ hset.userAgent, hcfg.2.2.2.2.1 ▸ hset.custom⟩
  rcases tryLogin_hostHeader h with h1 | ⟨u, -, h1⟩
  · exact h1 ▸ hset.host
  · simp [h1]

theorem Reachable.headersSet {s : Sys} (hs : Reachable ext server s)
    (hinit : s.initialized = true) : HeadersSet s.md := by
  induction hs with
  | start o login first => cases first <;> cases hinit
  | @step s s' i _ h ih =>
    rcases step_cases h with ⟨-, rfl⟩ | ⟨-, -, rfl⟩ | ⟨-, -, md, hi, rfl⟩ | ⟨-, -, -, rfl⟩ |
      ⟨-, -, -, rfl⟩ | ⟨-, -, user, o, ht, rfl⟩ | ⟨-, -, rfl⟩
    case step.inr.inr.inl.intro.intro.intro.intro => exact initializeModuleData_headersSet hi
    case step.inr.inr.inr.inr.inr.inl.intro.intro.intro.intro.intro =>
      obtain ⟨cred, nState, heq, -⟩ := advanceCredentials_frame (recordTryLogin s o) i.next
      rw [heq] at hinit ⊢
      exact tryLogin_headersSet (ih hinit) ht
    all_goals exact ih hinit

/-! ### Every reachable state -/

theorem Reachable.request_builds_iff {s : Sys} (hs : Reachable ext server s)
    (hinit : s.initialized = true) (szLogin szPassword : Bytes) :
    (∃ r, prepareRequestString s.md szLogin szPassword = .ok r) ↔
      (s.md.changedRequestType = true ∨ ∃ enc, urlencodeup szPassword = .ok enc) ∧
        s.md.resourcePath ≠ none ∧ ∃ jarS, jarArg s.md.cookieJar = .ok jarS := by
  have hform := hs.runInvariant.form hinit
  have hset := hs.headersSet hinit
  obtain ⟨uk, huk, -⟩ := hform.userKey
  obtain ⟨pk, hpk, -⟩ := hform.passKey
  simp only [prepareRequestString_ok_iff hform.formType huk hpk, ne_eq, hset.host, hset.userAgent,
    hset.custom, not_false_eq_true, true_and]

/-- In every reachable state after `MSTATE_INITIALIZE`, whatever the server has answered, the request
for a pair builds exactly when the password encodes or a 301 or 302 has left the request without
parameters, the resource path is set, and the cookie jar reads as a C string. -/
theorem reachable_request_builds_iff {s : Sys} (hs : Reachable ext server s)
    (hinit : s.initialized = true) (szLogin szPassword : Bytes) :
    (∃ r, prepareRequestString s.md szLogin szPassword = .ok r) ↔
      (s.md.changedRequestType = true ∨ ∃ enc, urlencodeup szPassword = .ok enc) ∧
        s.md.resourcePath ≠ none ∧ ∃ jarS, jarArg s.md.cookieJar = .ok jarS :=
  hs.request_builds_iff hinit szLogin szPassword

theorem reachable_request_builds_iff_first :
    ((∃ r, prepareRequestString firstAttempt.md (ascii "alice") (ascii "secret") = .ok r) ↔
      (firstAttempt.md.changedRequestType = true ∨ ∃ enc, urlencodeup (ascii "secret") = .ok enc) ∧
        firstAttempt.md.resourcePath ≠ none ∧ ∃ jarS, jarArg firstAttempt.md.cookieJar = .ok jarS) :=
  reachable_request_builds_iff firstAttempt_reachable rfl (ascii "alice") (ascii "secret")

end MedusaWebForm
