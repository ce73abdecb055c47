import MedusaWebForm.Run
import MedusaWebForm.Go

/-!
# What a run keeps of its configuration

`MSTATE_INITIALIZE` writes the form and the request headers once; from then on `tryLogin` writes
only the resource paths, the host header, the cookie jar and the request type (`tryLogin_frame`).
So in every state after `MSTATE_INITIALIZE` the form's keys and rest, the user agent, the custom
headers and the deny signal are the ones it set, and the form type is the one it set except while a
301 or 302 has turned a POST into a GET (`run_keeps_config`); with the option loop of `go` this says
where the headers of every request come from (`go_run_headers`).
-/

namespace MedusaWebForm

variable {ext : External} {server : Server}

/-- The fields of the module data that only `MSTATE_INITIALIZE` writes and later states read: the
form's keys and rest, the user agent, the custom headers and the deny signal. -/
structure Config where
  formUserKey : Option Bytes
  formPassKey : Option Bytes
  formRest : Option Bytes
  userAgentHeader : Option Bytes
  customHeaders : Option Bytes
  denySignal : Option Bytes
  deriving DecidableEq

def ModuleData.config (md : ModuleData) : Config :=
  ⟨md.formUserKey, md.formPassKey, md.formRest, md.userAgentHeader, md.customHeaders, md.denySignal⟩

/-- The form type of the module data against the one `MSTATE_INITIALIZE` set, `F`: that one, or GET
while a 301 or a 302 has turned a POST into a GET. -/
def UsesFormType (F : FormType) (md : ModuleData) : Prop :=
  md.formType = (if md.changedRequestType then .get else F) ∧
    (md.changedRequestType = true → F = .post)

/-! ### One call -/

theorem tryLogin_config {md : ModuleData} {login : LoginRecord} {szLogin szPassword : Bytes}
    {ex : Exchange} {o : Outcome} (h : tryLogin ext md login szLogin szPassword ex = .ok o) :
    o.md.config = md.config := by
  obtain ⟨rp, old, hh, jar, ft, ch, h1⟩ := tryLogin_frame h
  rw [h1]
  rfl

theorem restoreRequestType_usesFormType {F : FormType} {md : ModuleData} (h : UsesFormType F md) :
    UsesFormType F (restoreRequestType md) := by
  unfold restoreRequestType
  split_ifs with hc
  · exact ⟨by simp [h.2 hc], fun h' => by cases h'⟩
  · exact h

theorem changeRequestType_usesFormType {F : FormType} {md : ModuleData} (h : UsesFormType F md)
    (statusCode : HttpStatusCode) : UsesFormType F (changeRequestType statusCode md) := by
  unfold changeRequestType
  split_ifs with hc
  · have hF : md.changedRequestType = false ∧ F = .post := by
      have h1 := hc.1 ▸ h.1
      cases hch : md.changedRequestType <;> simp_all
    exact ⟨rfl, fun _ => hF.2⟩
  · exact h

theorem tryLogin_usesFormType {F : FormType} {md : ModuleData} {login : LoginRecord}
    {szLogin szPassword : Bytes} {ex : Exchange} {o : Outcome} (hF : UsesFormType F md)
    (h : tryLogin ext md login szLogin szPassword ex = .ok o) : UsesFormType F o.md := by
  rcases tryLogin_cases h with ⟨-, h1⟩ | ⟨-, -, h1⟩ | ⟨-, -, loc, jar, h1⟩
  · exact h1 ▸ hF
  · exact h1 ▸ restoreRequestType_usesFormType hF
  · obtain ⟨rp, old, hh, hres⟩ := resolveLocationPath_frame ext loc md
    rw [h1]
    refine changeRequestType_usesFormType ?_ _
    rw [hres]
    exact hF

/-! ### `MSTATE_INITIALIZE` -/

theorem initializeModuleData_changedRequestType {md md' : ModuleData}
    (h : initializeModuleData ext server md = .ok md') :
    md'.changedRequestType = md.changedRequestType := by
  obtain ⟨md1, h1, h⟩ := bind_eq_ok.mp h
  obtain ⟨rp, hh, hreq⟩ := setRequestDefaults_frame server md
  obtain ⟨ft, uk, pk, rest, rfl⟩ := initializeForm_frame (hreq ▸ h1)
  obtain ⟨ua, d, ch, jar, hhd⟩ := setHeaderDefaults_frame ext
    { { md with resourcePath := rp, hostHeader := hh } with
      formType := ft, formUserKey := uk, formPassKey := pk, formRest := rest }
  rw [← Except.ok.inj h, hhd]

/-! ### Over a run -/

/-- What a state keeps of the module data `md0` that `MSTATE_INITIALIZE` left. -/
def KeepsConfig (md0 md : ModuleData) : Prop :=
  md.config = md0.config ∧ UsesFormType md0.formType md

/-- After `MSTATE_INITIALIZE` of a run from the options `o`, the configuration it set is kept; before
it, the module data is what `go` left. -/
def ConfigInvariant (ext : External) (server : Server) (o : Options) (s : Sys) : Prop :=
  (s.initialized = false → s.md = o.moduleData) ∧
    (s.initialized = true →
      ∃ md0, initializeModuleData ext server o.moduleData = .ok md0 ∧ KeepsConfig md0 s.md)

theorem Reachable.initialized_eq_false {s : Sys} (hs : Reachable ext server s)
    (hst : s.nState = .initializing) : s.initialized = false := by
  cases hinit : s.initialized
  · rfl
  · obtain ⟨k, hk, -⟩ := (hs.runInvariant.form hinit).userKey
    rw [(hs.runInvariant.fresh hst).userKey] at hk
    cases hk

theorem ConfigInvariant.step {o : Options} {s s' : Sys} {i : Input} (hs : Reachable ext server s)
    (hinv : ConfigInvariant ext server o s) (h : step ext server s i = .ok s') :
    ConfigInvariant ext server o s' := by
  rcases step_cases h with ⟨-, rfl⟩ | ⟨-, -, rfl⟩ | ⟨-, hst, md, hi, rfl⟩ | ⟨-, -, -, rfl⟩ |
    ⟨-, -, -, rfl⟩ | ⟨-, hst, user, o', ht, rfl⟩ | ⟨-, -, rfl⟩
  case inr.inr.inl =>
    have hmd := hinv.1 (hs.initialized_eq_false hst)
    have hch : md.changedRequestType = false :=
      (initializeModuleData_changedRequestType hi).trans (by rw [hmd]; rfl)
    exact ⟨fun h' => (by cases h'), fun _ => ⟨md, hmd ▸ hi, rfl, by simp [hch], by simp [hch]⟩⟩
  case inr.inr.inr.inr.inr.inl =>
    have hinit := hs.runInvariant.started (by simp [hst]) (by simp [hst])
    obtain ⟨md0, hi, hcfg, hF⟩ := hinv.2 hinit
    obtain ⟨cred, nState, heq, -⟩ := advanceCredentials_frame (recordTryLogin s o') i.next
    rw [heq]
    exact ⟨fun h' => by simp [recordTryLogin, hinit] at h', fun _ =>
      ⟨md0, hi, (tryLogin_config ht).trans hcfg, tryLogin_usesFormType hF ht⟩⟩
  all_goals exact hinv

theorem run_configInvariant (o : Options) (login : LoginRecord) (first : NextCredSet)
    (is : List Input) {s : Sys}
    (h : run ext server (initModuleStart o.moduleData login first) is = .ok s) :
    ConfigInvariant ext server o s :=
  (@run_invariant ext server (fun s => Reachable ext server s ∧ ConfigInvariant ext server o s) _ _
    is (fun _ _ i _ hs hstep => ⟨hs.1.step i hstep, hs.2.step hs.1 hstep⟩)
    ⟨.start o login first, fun _ => by cases first <;> rfl, fun h' => by cases first <;> cases h'⟩
    h).2

/-- In every run of `initModule` from the options `o`, once `MSTATE_INITIALIZE` has run, the form's
keys and rest, the user agent, the custom headers and the deny signal are the ones it set, whatever
the server answers; the form type is the one it set, except while a 301 or a 302 has turned a POST
into a GET. -/
theorem run_keeps_config (o : Options) (login : LoginRecord) (first : NextCredSet)
    (is : List Input) {s : Sys}
    (h : run ext server (initModuleStart o.moduleData login first) is = .ok s)
    (hinit : s.initialized = true) :
    ∃ md0, initializeModuleData ext server o.moduleData = .ok md0 ∧ s.md.config = md0.config ∧
      s.md.formType = (if s.md.changedRequestType then .get else md0.formType) ∧
      (s.md.changedRequestType = true → md0.formType = .post) :=
  let ⟨md0, hi, hcfg, hF⟩ := (run_configInvariant o login first is h).2 hinit
  ⟨md0, hi, hcfg, hF⟩

theorem run_keeps_config_redirect :
    ∃ md0, initializeModuleData sampleExternal sampleServer noOptions.moduleData = .ok md0 ∧
      ({ defaultModuleData with
          resourcePath := some (ascii "/home"), formType := .get, changedRequestType := true } :
        ModuleData).config = md0.config ∧
      FormType.get = (if true then .get else md0.formType) ∧ (true = true → md0.formType = .post) :=
  run_keeps_config noOptions ⟨.unknown, []⟩ firstPair
    [⟨0, ⟨0, []⟩, .failure⟩, ⟨3, ⟨0, []⟩, .failure⟩,
      ⟨3, ⟨0, [some (ascii "HTTP/1.1 302 Found\r\nLocation: /home\r\n")]⟩, .failure⟩]
    (by decide : run sampleExternal sampleServer (initModuleStart noOptions.moduleData ⟨.unknown, []⟩
      firstPair) [⟨0, ⟨0, []⟩, .failure⟩, ⟨3, ⟨0, []⟩, .failure⟩,
        ⟨3, ⟨0, [some (ascii "HTTP/1.1 302 Found\r\nLocation: /home\r\n")]⟩, .failure⟩] =
      .ok { firstAttempt with
        nState := .new
        md := { defaultModuleData with
          resourcePath := some (ascii "/home"), formType := .get, changedRequestType := true }
        log := [.getNextCredSet, .connect 3, .tryLogin []] })
    rfl

/-! ### The headers `go`'s arguments give -/

theorem setHeaderDefaults_headers (ext : External) (md : ModuleData) :
    (setHeaderDefaults ext md).userAgentHeader = some (md.userAgentHeader.getD ext.defaultUserAgent) ∧
      (setHeaderDefaults ext md).customHeaders = some (md.customHeaders.getD []) := by
  rcases md with ⟨_, _, _, ua, d, _, _, _, _, ch, _, jar, _, _⟩
  cases ua <;> cases d <;> cases ch <;> cases jar <;> exact ⟨rfl, rfl⟩

theorem initializeModuleData_headers {md md' : ModuleData}
    (h : initializeModuleData ext server md = .ok md') :
    md'.userAgentHeader = some (md.userAgentHeader.getD ext.defaultUserAgent) ∧
      md'.customHeaders = some (md.customHeaders.getD []) ∧
      md'.denySignal = some (md.denySignal.getD MODULE_DEFAULT_DENY_SIGNAL) := by
  obtain ⟨md1, h1, h⟩ := bind_eq_ok.mp h
  obtain ⟨rp, hh, hreq⟩ := setRequestDefaults_frame server md
  obtain ⟨ft, uk, pk, rest, rfl⟩ := initializeForm_frame (hreq ▸ h1)
  rw [← Except.ok.inj h]
  exact ⟨(setHeaderDefaults_headers ext _).1, (setHeaderDefaults_headers ext _).2,
    setHeaderDefaults_denySignal ext _⟩

theorem argOptions_customHeaders (args : List Bytes) :
    (argOptions args).customHeaders.getD [] =
      (customHeaderValues args).flatMap (· ++ ascii "\r\n") := by
  by_cases h : customHeaderValues args = [] <;> simp [argOptions, h]

/-- Over arguments that each have a key before their first `:` and no NUL, every state of every run
of `initModule` after `MSTATE_INITIALIZE`, whatever the server answers, holds the user agent of the
last `USER-AGENT` argument with a value or the default one, the custom headers of every
`CUSTOM-HEADER` argument with a value, each followed by CRLF, in order, and the deny signal of the
last `DENY-SIGNAL` argument with a value or the default one. -/
theorem go_run_headers {args : List Bytes} (hargs : ∀ a ∈ args, a ≠ [] ∧ a.head? ≠ some 58 ∧ 0 ∉ a)
    {o : Options} (hgo : goOptions ext.reallocFill args = .ok o) (login : LoginRecord)
    (first : NextCredSet)
    (is : List Input) {s : Sys}
    (h : run ext server (initModuleStart o.moduleData login first) is = .ok s)
    (hinit : s.initialized = true) :
    s.md.userAgentHeader = some ((lastValue (ascii "USER-AGENT") args).getD ext.defaultUserAgent) ∧
      s.md.customHeaders = some ((customHeaderValues args).flatMap (· ++ ascii "\r\n")) ∧
      s.md.denySignal =
        some ((lastValue (ascii "DENY-SIGNAL") args).getD MODULE_DEFAULT_DENY_SIGNAL) := by
  rw [goOptions, foldlM_goOption noOptions_headersInvariant hargs, foldl_applyArg] at hgo
  obtain rfl := (Except.ok.inj hgo).symm
  obtain ⟨md0, hi, hcfg, -⟩ := (run_configInvariant _ login first is h).2 hinit
  obtain ⟨hua, hch, hd⟩ := initializeModuleData_headers hi
  simp only [ModuleData.config, Config.mk.injEq] at hcfg
  rw [← argOptions_customHeaders]
  exact ⟨hcfg.2.2.2.1.trans hua, hcfg.2.2.2.2.1.trans hch, hcfg.2.2.2.2.2.trans hd⟩

theorem go_run_headers_first_attempt :
    ∃ s, run sampleExternal sampleServer (initModuleStart (argOptions
        [ascii "USER-AGENT:bot", ascii "CUSTOM-HEADER:X-A: 1"]).moduleData ⟨.unknown, []⟩
        firstPair) [⟨0, ⟨0, []⟩, .failure⟩, ⟨3, ⟨0, []⟩, .failure⟩] = .ok s ∧
      s.md.userAgentHeader = some ((lastValue (ascii "USER-AGENT")
        [ascii "USER-AGENT:bot", ascii "CUSTOM-HEADER:X-A: 1"]).getD sampleExternal.defaultUserAgent) ∧
      s.md.customHeaders = some ((customHeaderValues
        [ascii "USER-AGENT:bot", ascii "CUSTOM-HEADER:X-A: 1"]).flatMap (· ++ ascii "\r\n")) ∧
      s.md.denySignal = some ((lastValue (ascii "DENY-SIGNAL")
        [ascii "USER-AGENT:bot", ascii "CUSTOM-HEADER:X-A: 1"]).getD MODULE_DEFAULT_DENY_SIGNAL) := by
  have hrun : run sampleExternal sampleServer (initModuleStart (argOptions
      [ascii "USER-AGENT:bot", ascii "CUSTOM-HEADER:X-A: 1"]).moduleData ⟨.unknown, []⟩ firstPair)
      [⟨0, ⟨0, []⟩, .failure⟩, ⟨3, ⟨0, []⟩, .failure⟩] =
      .ok { firstAttempt with
        md := { defaultModuleData with
          userAgentHeader := some (ascii "bot"), customHeaders := some (ascii "X-A: 1\r\n"),
          nCustomHeaders := 1 } } := by decide
  exact ⟨_, hrun, go_run_headers (by decide)
    (by rw [goOptions, foldlM_goOption noOptions_headersInvariant (by decide), foldl_applyArg] :
      goOptions sampleExternal.reallocFill [ascii "USER-AGENT:bot", ascii "CUSTOM-HEADER:X-A: 1"] =
        .ok (argOptions [ascii "USER-AGENT:bot", ascii "CUSTOM-HEADER:X-A: 1"]))
    ⟨.unknown, []⟩ firstPair _ hrun rfl⟩

end MedusaWebForm
