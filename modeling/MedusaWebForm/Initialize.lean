import MedusaWebForm.ModuleData

/-!
# `MSTATE_INITIALIZE`

The first state of `initModule` fills in what the options `go` set (`Options.moduleData`) left
unset: the resource path and the host header, the form, and the other headers. The form comes from
`FORM-DATA`, read with `strtok_r` as `<method>?<user key>&<pass key>&<rest>`; a method other than
`get` or `post`, or a missing key, falls back to the default form as a whole, and a value of nothing
but `?` faults. Every path that does not fault leaves a form of known type and two non-empty keys
(`initializeForm_formInvariant`).
-/

namespace MedusaWebForm

/-- What the host knows of the server: `psServer->psHost->pHost`, `psServer->psHost->iUseSSL` and
`psServer->psAudit->iPortOverride`. -/
structure Server where
  pHost : Bytes
  iUseSSL : Int
  iPortOverride : Int

/-- Modelled from the spec: `HTTP_PORT` of `web-form.h`, the plain default port of §4.H. -/
def HTTP_PORT : Int := 80

/-- Modelled from the spec: `HTTPS_PORT` of `web-form.h`, the TLS default port of §4.H. -/
def HTTPS_PORT : Int := 443

/-- `params.nPort` as `initModule` sets it before its loop. -/
def Server.nPort (server : Server) : Int :=
  if server.iPortOverride > 0 then server.iPortOverride
  else if server.iUseSSL > 0 then HTTPS_PORT
  else HTTP_PORT

/-- The fields of the module data that `go` sets from the options. -/
structure Options where
  resourcePath : Option Bytes
  denySignal : Option Bytes
  formData : Option Bytes
  userAgentHeader : Option Bytes
  customHeaders : Option Bytes
  nCustomHeaders : Nat

/-- `newModuleData()` with the options set: `calloc` leaves every other field NULL or zero. Zero is
taken as `FORM_UNKNOWN`; `MSTATE_INITIALIZE` sets `formType` on every path before it is read. -/
def Options.moduleData (o : Options) : ModuleData where
  resourcePath := o.resourcePath
  resourcePathOld := none
  hostHeader := none
  userAgentHeader := o.userAgentHeader
  denySignal := o.denySignal
  formData := o.formData
  formRest := none
  formUserKey := none
  formPassKey := none
  customHeaders := o.customHeaders
  nCustomHeaders := o.nCustomHeaders
  cookieJar := none
  formType := .unknown
  changedRequestType := false

/-- Modelled from the spec: `_setDefaultOption(&field, value)` of `web-form.h`, which §4.G has
apply the default when the option is absent. -/
def setDefaultOption (field : Option Bytes) (value : Bytes) : Option Bytes :=
  match field with
  | none => some value
  | some v => some v

/-- The resource path and the host header: `"/"`, and `<host>:<port>`. -/
def setRequestDefaults (server : Server) (md : ModuleData) : ModuleData :=
  let md := if md.resourcePath.isNone then
    { md with resourcePath := setDefaultOption md.resourcePath (ascii "/") } else md
  if md.hostHeader.isNone then
    { md with hostHeader := some (server.pHost ++ ascii ":" ++ formatDecimal server.nPort) }
  else md

/-- The `strtok_r` reading of `FORM-DATA`. `strncasecmp` on the NULL method of a value with no
token before its `?` is undefined. -/
def parseFormData (formData : Bytes) (md : ModuleData) : Except Fault ModuleData := do
  let (pTemp, save) := strtok_r formData (ascii "?")
  let method ← strArg pTemp
  let formType : FormType :=
    if strncasecmpEq method POST_STR (POST_STR.length + 1) then .post
    else if strncasecmpEq method GET_STR (GET_STR.length + 1) then .get
    else .unknown
  let (userKey, save) := strtok_r save (ascii "&")
  let (passKey, save) := strtok_r save (ascii "&")
  let (rest, _) := strtok_r save []
  return { md with formType,
                   formUserKey := userKey.orElse fun _ => md.formUserKey,
                   formPassKey := passKey.orElse fun _ => md.formPassKey,
                   formRest := rest.orElse fun _ => md.formRest }

/-- The default form, `post?username=&password=` with no rest. -/
def defaultForm (md : ModuleData) : ModuleData :=
  { md with formRest := some [], formUserKey := some MODULE_DEFAULT_USERNAME_KEY,
            formPassKey := some MODULE_DEFAULT_PASSWORD_KEY, formType := .post }

/-- The form part of `MSTATE_INITIALIZE`. -/
def initializeForm (md : ModuleData) : Except Fault ModuleData :=
  match md.formData with
  | none => .ok
    { md with formRest := setDefaultOption md.formRest [],
              formUserKey := setDefaultOption md.formUserKey MODULE_DEFAULT_USERNAME_KEY,
              formPassKey := setDefaultOption md.formPassKey MODULE_DEFAULT_PASSWORD_KEY,
              formType := .post }
  | some formData => do
    let md ← if md.formUserKey.isNone then parseFormData formData md else pure md
    if md.formType = .unknown ∨ md.formUserKey.isNone ∨ md.formPassKey.isNone then
      return defaultForm md
    return md

/-- The user agent, the deny signal, the custom headers and the cookie jar. -/
def setHeaderDefaults (ext : External) (md : ModuleData) : ModuleData :=
  let md := if md.userAgentHeader.isNone then
    { md with userAgentHeader := setDefaultOption md.userAgentHeader ext.defaultUserAgent } else md
  let md := if md.denySignal.isNone then
    { md with denySignal := some MODULE_DEFAULT_DENY_SIGNAL } else md
  let md := if md.customHeaders.isNone then { md with customHeaders := some [] } else md
  if md.cookieJar.isNone then { md with cookieJar := some (calloc 1) } else md

/-- The body of `MSTATE_INITIALIZE`. -/
def initializeModuleData (ext : External) (server : Server) (md : ModuleData) :
    Except Fault ModuleData := do
  let md ← initializeForm (setRequestDefaults server md)
  return setHeaderDefaults ext md

/-! ### The form after `MSTATE_INITIALIZE` -/

/-- What every later state keeps of the form: a known method, two non-empty keys, and a changed
request type only on a GET. -/
structure FormInvariant (md : ModuleData) : Prop where
  formType : md.formType = .get ∨ md.formType = .post
  userKey : ∃ k, md.formUserKey = some k ∧ k ≠ []
  passKey : ∃ k, md.formPassKey = some k ∧ k ≠ []
  changed : md.changedRequestType = true → md.formType = .get

/-- What `go` leaves unset of the form. -/
structure FreshForm (md : ModuleData) : Prop where
  userKey : md.formUserKey = none
  passKey : md.formPassKey = none
  changed : md.changedRequestType = false

theorem Options.freshForm (o : Options) : FreshForm o.moduleData := ⟨rfl, rfl, rfl⟩

theorem setRequestDefaults_frame (server : Server) (md : ModuleData) :
    ∃ rp hh, setRequestDefaults server md = { md with resourcePath := rp, hostHeader := hh } := by
  unfold setRequestDefaults
  dsimp only
  split_ifs <;> exact ⟨_, _, rfl⟩

theorem setHeaderDefaults_frame (ext : External) (md : ModuleData) :
    ∃ ua d ch jar, setHeaderDefaults ext md =
      { md with userAgentHeader := ua, denySignal := d, customHeaders := ch, cookieJar := jar } := by
  rcases md with ⟨_, _, _, ua, d, _, _, _, _, ch, _, jar, _, _⟩
  cases ua <;> cases d <;> cases ch <;> cases jar <;> exact ⟨_, _, _, _, rfl⟩

theorem parseFormData_frame {fd : Bytes} {md md' : ModuleData} (h : parseFormData fd md = .ok md') :
    ∃ ft uk pk rest, md' =
      { md with formType := ft, formUserKey := uk, formPassKey := pk, formRest := rest } := by
  unfold parseFormData at h
  cases hp : (strtok_r fd (ascii "?")).1 <;>
    simp only [hp, strArg, bind, Except.bind, pure, Except.pure, Except.ok.injEq] at h
  · cases h
  · exact ⟨_, _, _, _, h.symm⟩

theorem initializeForm_frame {md md' : ModuleData} (h : initializeForm md = .ok md') :
    ∃ ft uk pk rest, md' =
      { md with formType := ft, formUserKey := uk, formPassKey := pk, formRest := rest } := by
  unfold initializeForm at h
  split at h
  · exact ⟨_, _, _, _, (Except.ok.inj h).symm⟩
  · dsimp only at h
    obtain ⟨md1, ⟨ft, uk, pk, rest, rfl⟩, h⟩ : ∃ md1 : ModuleData, (∃ ft uk pk rest, md1 =
        { md with formType := ft, formUserKey := uk, formPassKey := pk, formRest := rest }) ∧ _ := by
      split_ifs at h
      · obtain ⟨md1, h1, h⟩ := bind_eq_ok.mp h
        exact ⟨md1, parseFormData_frame h1, h⟩
      · obtain ⟨md1, h1, h⟩ := bind_eq_ok.mp h
        exact ⟨md1, ⟨_, _, _, _, (Except.ok.inj h1).symm⟩, h⟩
    split_ifs at h <;> obtain rfl := Except.ok.inj h
    · exact ⟨_, _, _, _, rfl⟩
    · exact ⟨_, _, _, _, rfl⟩

theorem setHeaderDefaults_denySignal (ext : External) (md : ModuleData) :
    (setHeaderDefaults ext md).denySignal = some (md.denySignal.getD MODULE_DEFAULT_DENY_SIGNAL) := by
  rcases md with ⟨_, _, _, ua, d, _, _, _, _, ch, _, jar, _, _⟩
  cases ua <;> cases d <;> cases ch <;> cases jar <;> rfl

theorem initializeModuleData_denySignal {ext : External} {server : Server} {md md' : ModuleData}
    (h : initializeModuleData ext server md = .ok md') : md'.denySignal ≠ none := by
  obtain ⟨md1, -, h⟩ := bind_eq_ok.mp h
  rw [← Except.ok.inj h, setHeaderDefaults_denySignal]
  exact Option.some_ne_none _

theorem token_orElse_ne_nil {s delim k : Bytes} {field : Option Bytes} (hfield : field = none)
    (h : ((strtok_r s delim).1.orElse fun _ => field) = some k) : k ≠ [] := by
  cases ht : (strtok_r s delim).1 with
  | none => simp [ht, hfield, Option.orElse] at h
  | some t =>
    simp only [ht, Option.orElse, Option.some.injEq] at h
    exact h ▸ strtok_r_token_ne_nil ht

theorem parseFormData_keys {fd : Bytes} {md md' : ModuleData} (hf : FreshForm md)
    (h : parseFormData fd md = .ok md') :
    (∀ k, md'.formUserKey = some k → k ≠ []) ∧ (∀ k, md'.formPassKey = some k → k ≠ []) ∧
      md'.changedRequestType = false := by
  unfold parseFormData at h
  cases hp : (strtok_r fd (ascii "?")).1 with
  | none => simp [hp, strArg, bind, Except.bind] at h
  | some m =>
    simp only [hp, strArg, bind, Except.bind, pure, Except.pure, Except.ok.injEq] at h
    subst h
    exact ⟨fun k hk => token_orElse_ne_nil hf.userKey hk,
      fun k hk => token_orElse_ne_nil hf.passKey hk, hf.changed⟩

theorem defaultForm_formInvariant {md : ModuleData} (h : md.changedRequestType = false) :
    FormInvariant (defaultForm md) :=
  ⟨.inr rfl, ⟨_, rfl, by decide⟩, ⟨_, rfl, by decide⟩, fun hc => absurd hc (by simp [defaultForm, h])⟩

theorem initializeForm_formInvariant {md md' : ModuleData} (hf : FreshForm md)
    (h : initializeForm md = .ok md') : FormInvariant md' := by
  unfold initializeForm at h
  cases hd : md.formData with
  | none =>
    simp only [hd, hf.userKey, hf.passKey, setDefaultOption, Except.ok.injEq] at h
    subst h
    exact ⟨.inr rfl, ⟨_, rfl, by decide⟩, ⟨_, rfl, by decide⟩,
      fun hc => absurd hc (by simp [hf.changed])⟩
  | some fd =>
    simp only [hd, hf.userKey, Option.isNone_none, if_true] at h
    obtain ⟨md1, hp, h⟩ := bind_eq_ok.mp h
    obtain ⟨hu, hpk, hc⟩ := parseFormData_keys hf hp
    split at h
    · cases h
      exact defaultForm_formInvariant hc
    · cases h
      rename_i hcond
      simp only [not_or, Option.isNone_iff_eq_none, ← ne_eq, Option.ne_none_iff_exists'] at hcond
      obtain ⟨ht, ⟨u, hU⟩, ⟨p, hP⟩⟩ := hcond
      refine ⟨?_, ⟨u, hU, hu u hU⟩, ⟨p, hP, hpk p hP⟩, fun h' => absurd h' (by simp [hc])⟩
      rcases h1 : md'.formType with _ | _ | _
      exacts [absurd h1 ht, .inl rfl, .inr rfl]

theorem initializeModuleData_formInvariant {ext : External} {server : Server} {md md' : ModuleData}
    (hf : FreshForm md) (h : initializeModuleData ext server md = .ok md') : FormInvariant md' := by
  obtain ⟨rp, hh, hreq⟩ := setRequestDefaults_frame server md
  simp only [initializeModuleData, hreq] at h
  obtain ⟨md1, hi, h⟩ := bind_eq_ok.mp h
  have hfresh : FreshForm { md with resourcePath := rp, hostHeader := hh } :=
    ⟨hf.userKey, hf.passKey, hf.changed⟩
  have hinv := initializeForm_formInvariant hfresh hi
  obtain ⟨ua, d, ch, jar, hhd⟩ := setHeaderDefaults_frame ext md1
  rw [← Except.ok.inj h, hhd]
  exact ⟨hinv.formType, hinv.userKey, hinv.passKey, hinv.changed⟩

/-! ### The defaults -/

/-- A host that takes a relative path as it is, with `medusa` as its default user agent, and an
allocator that leaves NUL bytes. -/
def sampleExternal : External := ⟨fun _ path => some path, ascii "medusa", 0⟩

def sampleServer : Server := ⟨ascii "host", 0, 0⟩

def noOptions : Options := ⟨none, none, none, none, none, 0⟩

/-- The module data `MSTATE_INITIALIZE` leaves with no options: a POST of the default form to
`/`. -/
def defaultModuleData : ModuleData where
  resourcePath := some (ascii "/")
  resourcePathOld := none
  hostHeader := some (ascii "host:80")
  userAgentHeader := some (ascii "medusa")
  denySignal := some MODULE_DEFAULT_DENY_SIGNAL
  formData := none
  formRest := some []
  formUserKey := some MODULE_DEFAULT_USERNAME_KEY
  formPassKey := some MODULE_DEFAULT_PASSWORD_KEY
  customHeaders := some []
  nCustomHeaders := 0
  cookieJar := some (calloc 1)
  formType := .post
  changedRequestType := false

/-! ### What `FORM-DATA` fixes -/

/-- The four fields `MSTATE_INITIALIZE` fixes from `FORM-DATA`: the form type, the user key, the
pass key and the rest. -/
def formFields (md : ModuleData) : FormType × Option Bytes × Option Bytes × Option Bytes :=
  (md.formType, md.formUserKey, md.formPassKey, md.formRest)

/-- The form type a method names: `post` or `get` in any case, or neither. -/
def methodFormType (m : Bytes) : FormType :=
  if m.map tolower = POST_STR.map tolower then .post
  else if m.map tolower = GET_STR.map tolower then .get
  else .unknown

/-- `s` read the way the `strtok_r` calls of `MSTATE_INITIALIZE` cut it: a run of `?` (byte 63),
the method `m`, a `?`, a run of `&` (byte 38), the user key `u`, a `&`, a run of `&` and the pass
key `p`; then the end, with no rest, or a `&` and the rest `r`. -/
def FormDataReads (s m u p r : Bytes) : Prop :=
  m ≠ [] ∧ 63 ∉ m ∧ u ≠ [] ∧ 38 ∉ u ∧ p ≠ [] ∧ 38 ∉ p ∧ ∃ i j k tail,
    (tail = [] ∧ r = [] ∨ tail = 38 :: r) ∧
    s = List.replicate i 63 ++ m ++ 63 :: (List.replicate j 38 ++ u ++ 38 ::
      (List.replicate k 38 ++ p ++ tail))

@[simp] theorem formFields_setHeaderDefaults (ext : External) (md : ModuleData) :
    formFields (setHeaderDefaults ext md) = formFields md := by
  obtain ⟨ua, d, ch, jar, h⟩ := setHeaderDefaults_frame ext md
  rw [h]
  rfl

theorem formType_of_method {m : Bytes} (hm : 0 ∉ m) :
    (if strncasecmpEq m POST_STR (POST_STR.length + 1) then FormType.post
      else if strncasecmpEq m GET_STR (GET_STR.length + 1) then .get else .unknown) =
      methodFormType m := by
  simp only [methodFormType, ← strncasecmpEq_iff hm]

theorem initializeModuleData_eq (ext : External) (server : Server) {o : Options} {s : Bytes}
    (hs : o.formData = some s) :
    ∃ rp hh, initializeModuleData ext server o.moduleData =
      (parseFormData s { o.moduleData with resourcePath := rp, hostHeader := hh }) >>= fun md =>
        .ok (setHeaderDefaults ext
          (if md.formType = .unknown ∨ md.formUserKey.isNone ∨ md.formPassKey.isNone then
            defaultForm md else md)) := by
  obtain ⟨rp, hh, hreq⟩ := setRequestDefaults_frame server o.moduleData
  refine ⟨rp, hh, ?_⟩
  have hfd : o.moduleData.formData = some s := hs
  have hfresh : o.moduleData.formUserKey = none := rfl
  rw [initializeModuleData, hreq]
  simp only [initializeForm, hfd, hfresh, Option.isNone_none, if_true]
  cases parseFormData s _ <;> simp only [bind, Except.bind, pure, Except.pure]
  split_ifs <;> rfl

/-- A `FORM-DATA` value with no method, all `?`, faults in the `strncasecmp` on NULL. -/
theorem initializeModuleData_of_no_method {ext : External} {server : Server} {o : Options}
    {s : Bytes} (hs : o.formData = some s) (hm : (strtok_r s (ascii "?")).1 = none) :
    initializeModuleData ext server o.moduleData = .error .nullDeref := by
  obtain ⟨rp, hh, h⟩ := initializeModuleData_eq ext server hs
  rw [h]
  simp [parseFormData, hm, strArg, bind, Except.bind]

theorem initializeModuleData_formFields {ext : External} {server : Server} {o : Options}
    {s m s1 s2 s3 : Bytes} {uk pk : Option Bytes} (hs : o.formData = some s) (hnul : 0 ∉ m)
    (hm : strtok_r s (ascii "?") = (some m, s1)) (hu : strtok_r s1 (ascii "&") = (uk, s2))
    (hp : strtok_r s2 (ascii "&") = (pk, s3)) :
    (initializeModuleData ext server o.moduleData).map formFields =
      .ok (if methodFormType m = .unknown ∨ uk = none ∨ pk = none then
          (.post, some MODULE_DEFAULT_USERNAME_KEY, some MODULE_DEFAULT_PASSWORD_KEY, some [])
        else (methodFormType m, uk, pk, if s3 = [] then none else some s3)) := by
  obtain ⟨rp, hh, h⟩ := initializeModuleData_eq ext server hs
  have horElse : ∀ x : Option Bytes, (x.orElse fun _ => none) = x := fun x => by cases x <;> rfl
  rw [h]
  simp only [parseFormData, hm, hu, hp, strArg, strtok_r_nil, formType_of_method hnul, bind,
    Except.bind, pure, Except.pure, Except.map, formFields_setHeaderDefaults, Options.moduleData,
    horElse, Option.isNone_iff_eq_none]
  split_ifs <;> rfl

theorem formDataReads_iff {s m u p r : Bytes} :
    FormDataReads s m u p r ↔ ∃ s1 s2, strtok_r s (ascii "?") = (some m, s1) ∧
      strtok_r s1 (ascii "&") = (some u, s2) ∧ strtok_r s2 (ascii "&") = (some p, r) := by
  rw [show ascii "?" = [63] from rfl, show ascii "&" = [38] from rfl]
  constructor
  · rintro ⟨hm0, hm63, hu0, hu38, hp0, hp38, i, j, k, tail, htail, rfl⟩
    exact ⟨_, _, strtok_r_replicate i hm0 hm63 (.inr rfl), strtok_r_replicate j hu0 hu38 (.inr rfl),
      strtok_r_replicate k hp0 hp38 htail⟩
  · rintro ⟨s1, s2, hm, hu, hp⟩
    obtain ⟨hm0, hm63, i, tail1, htail1, rfl⟩ := strtok_r_replicate_of_eq hm
    obtain ⟨hu0, hu38, j, tail2, htail2, rfl⟩ := strtok_r_replicate_of_eq hu
    obtain ⟨hp0, hp38, k, tail3, htail3, rfl⟩ := strtok_r_replicate_of_eq hp
    rcases htail1 with ⟨-, h1⟩ | rfl
    · simp [hu0] at h1
    rcases htail2 with ⟨-, h2⟩ | rfl
    · simp [hp0] at h2
    exact ⟨hm0, hm63, hu0, hu38, hp0, hp38, i, j, k, tail3, htail3, rfl⟩

/-- What `MSTATE_INITIALIZE` makes of a `FORM-DATA` value `s` with no NUL in it: the method, keys
and rest `s` reads as (`FormDataReads`) when its method names `get` or `post`, the rest kept only
when it is not empty; a fault when `s` is nothing but `?`; and the default form for every other
`s`. -/
theorem initializeModuleData_formData (ext : External) (server : Server) {o : Options} {s : Bytes}
    (hs : o.formData = some s) (hnul : 0 ∉ s) :
    (∀ m u p r, FormDataReads s m u p r → methodFormType m ≠ .unknown →
      (initializeModuleData ext server o.moduleData).map formFields =
        .ok (methodFormType m, some u, some p, if r = [] then none else some r)) ∧
    ((∀ c ∈ s, c = 63) → initializeModuleData ext server o.moduleData = .error .nullDeref) ∧
    ((∃ c ∈ s, c ≠ 63) → (¬∃ m u p r, FormDataReads s m u p r ∧ methodFormType m ≠ .unknown) →
      (initializeModuleData ext server o.moduleData).map formFields =
        .ok (.post, some MODULE_DEFAULT_USERNAME_KEY, some MODULE_DEFAULT_PASSWORD_KEY, some [])) := by
  have hq : ascii "?" = [63] := rfl
  have hnulm : ∀ {m s1}, strtok_r s (ascii "?") = (some m, s1) → 0 ∉ m := fun h h0 =>
    hnul (strtok_r_token_subset h h0)
  refine ⟨fun m u p r hreads hmethod => ?_, fun hall => initializeModuleData_of_no_method hs
    (strtok_r_fst_eq_none.mpr (by simpa [hq] using hall)), fun hsome hnot => ?_⟩
  case refine_1 =>
    obtain ⟨s1, s2, hm, hu, hp⟩ := formDataReads_iff.mp hreads
    rw [initializeModuleData_formFields hs (hnulm hm) hm hu hp]
    simp [hmethod]
  case refine_2 =>
    rcases hm : strtok_r s (ascii "?") with ⟨_ | m, s1⟩
    · obtain ⟨c, hc, hc63⟩ := hsome
      exact absurd (by simpa [hq] using strtok_r_fst_eq_none.mp (congrArg Prod.fst hm) c hc) hc63
    rcases hu : strtok_r s1 (ascii "&") with ⟨uk, s2⟩
    rcases hp : strtok_r s2 (ascii "&") with ⟨pk, s3⟩
    refine (initializeModuleData_formFields hs (hnulm hm) hm hu hp).trans
      (congrArg Except.ok (if_pos ?_))
    by_contra hgood
    push_neg at hgood
    obtain ⟨hmethod, hu', hp'⟩ := hgood
    obtain ⟨u, rfl⟩ := Option.ne_none_iff_exists'.mp hu'
    obtain ⟨p, rfl⟩ := Option.ne_none_iff_exists'.mp hp'
    exact hnot ⟨m, u, p, s3, formDataReads_iff.mpr ⟨s1, s2, hm, hu, hp⟩, hmethod⟩

theorem initializeModuleData_formData_runs :
    (initializeModuleData sampleExternal sampleServer
      { noOptions with formData := some (ascii "?GET?&user&&pass&x=1") }.moduleData).map formFields =
      .ok (.get, some (ascii "user"), some (ascii "pass"), some (ascii "x=1")) :=
  ((@initializeModuleData_formData sampleExternal sampleServer
    { noOptions with formData := some (ascii "?GET?&user&&pass&x=1") } _ rfl (by decide)).1
      (ascii "GET") (ascii "user") (ascii "pass") (ascii "x=1")
      ⟨by decide, by decide, by decide, by decide, by decide, by decide, 1, 1, 1,
        38 :: ascii "x=1", .inr rfl, by decide⟩ (by decide)).trans (by decide)

/-- A `?` before the method and a doubled `&` are read past, and a value of nothing but `?`
faults. -/
theorem formData_read_past_and_fault :
    (initializeModuleData sampleExternal sampleServer
        { noOptions with formData := some (ascii "?get?user&pass") }.moduleData).map formFields =
      .ok (.get, some (ascii "user"), some (ascii "pass"), none) ∧
    (initializeModuleData sampleExternal sampleServer
        { noOptions with formData := some (ascii "get?user&&pass") }.moduleData).map formFields =
      .ok (.get, some (ascii "user"), some (ascii "pass"), none) ∧
    initializeModuleData sampleExternal sampleServer
        { noOptions with formData := some (ascii "???") }.moduleData = .error .nullDeref :=
  ⟨by decide, by decide, by decide⟩

end MedusaWebForm
