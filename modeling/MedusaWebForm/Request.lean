import MedusaWebForm.UrlEncode
import MedusaWebForm.Initialize

/-!
# Building and sending the request

`prepareRequestParamString` puts the form's keys, the login and the URL-encoded password into the
parameter string, `prepareRequestString` wraps it in the GET or POST format of §4.E (the formats are
in `web-form.h`, not under `src/`), and `_sendRequest` hands the request to `medusaSend`. Every `%s`
reads a C string, so the request builds exactly when the parameters do and every field it prints is
a C string (`prepareRequestString_ok_iff`), and it is then the format filled with `requestParams`
(`prepareRequestString_spec`).
-/

namespace MedusaWebForm

/-- `prepareRequestParamString(dst, moduleData, szLogin, szPassword)`: the string it leaves in `*dst`
and the length `asprintf` returns. The format is `?%s%s&%s%s%s` for GET and `%s%s&%s%s%s` for POST,
so `fmt` stands for the text before its first `%s`. -/
def prepareRequestParamString (md : ModuleData) (szLogin szPassword : Bytes) :
    Except Fault (Bytes × Nat) := do
  let szPasswordEncoded ← urlencodeup szPassword
  let formRest := match md.formRest with
    | some r@(_ :: _) => ascii "&" ++ r
    | _ => []
  let fmt ← match md.formType with
    | .get => pure (ascii "?")
    | .post => pure []
    | .unknown => .error .abort
  let userKey ← strArg md.formUserKey
  let passKey ← strArg md.formPassKey
  let params := fmt ++ userKey ++ szLogin ++ ascii "&" ++ passKey ++ szPasswordEncoded ++ formRest
  pure (params, params.length)

/-- Modelled from the spec: what `asprintf` writes for `GET_REQUEST_FMT_STR` of `web-form.h`, the
GET request of §4.E. -/
def getRequest (resourcePath parameters host userAgent customHeaders cookieJar : Bytes) : Bytes :=
  ascii "GET " ++ resourcePath ++ parameters ++ ascii " HTTP/1.1\r\nHost: " ++ host ++
    ascii "\r\nUser-Agent: " ++ userAgent ++ ascii "\r\n" ++ customHeaders ++ cookieJar ++
    ascii "\r\n"

/-- Modelled from the spec: what `asprintf` writes for `POST_REQUEST_FMT_STR` of `web-form.h`, the
POST request of §4.E. -/
def postRequest (resourcePath host userAgent customHeaders cookieJar : Bytes) (nParameters : Nat)
    (parameters : Bytes) : Bytes :=
  ascii "POST " ++ resourcePath ++ ascii " HTTP/1.1\r\nHost: " ++ host ++ ascii "\r\nUser-Agent: " ++
    userAgent ++ ascii "\r\n" ++ customHeaders ++ cookieJar ++
    ascii "Content-Type: application/x-www-form-urlencoded\r\nContent-Length: " ++
    formatDecimal nParameters ++ ascii "\r\n\r\n" ++ parameters

/-- The cookie jar as a `%s` argument. -/
def jarArg : Option Buffer → Except Fault Bytes
  | none => .error .nullDeref
  | some jar => cstr jar

/-- `prepareRequestString(dst, moduleData, szLogin, szPassword)`: `*dst`, NULL for `FORM_UNKNOWN`,
and the length it returns. -/
def prepareRequestString (md : ModuleData) (szLogin szPassword : Bytes) :
    Except Fault (Option Bytes × Nat) := do
  let (parameters, nParameters) ← if md.changedRequestType then pure ([], 0)
    else prepareRequestParamString md szLogin szPassword
  match md.formType with
  | .get =>
    let request := getRequest (← strArg md.resourcePath) parameters (← strArg md.hostHeader)
      (← strArg md.userAgentHeader) (← strArg md.customHeaders) (← jarArg md.cookieJar)
    pure (some request, request.length)
  | .post =>
    let request := postRequest (← strArg md.resourcePath) (← strArg md.hostHeader)
      (← strArg md.userAgentHeader) (← strArg md.customHeaders) (← jarArg md.cookieJar)
      nParameters parameters
    pure (some request, request.length)
  | .unknown => pure (none, 0)

/-- `_sendRequest(hSocket, moduleData, szLogin, szPassword)`, where `medusaSend` returns `sent`:
whether it returns `SUCCESS`. -/
def sendRequest (md : ModuleData) (szLogin szPassword : Bytes) (sent : Int) : Except Fault Bool := do
  let _ ← prepareRequestString md szLogin szPassword
  pure (0 ≤ sent)

theorem sendRequest_eq_ok {md : ModuleData} {szLogin szPassword : Bytes} {sent : Int} {b : Bool}
    (h : sendRequest md szLogin szPassword sent = .ok b) : b = decide (0 ≤ sent) := by
  unfold sendRequest at h
  obtain ⟨_, -, h⟩ := bind_eq_ok.mp h
  exact (Except.ok.inj h).symm

theorem sendRequest_of_urlencodeup {md : ModuleData} {szPassword : Bytes} {e : Fault}
    (hchanged : md.changedRequestType = false) (hu : urlencodeup szPassword = .error e)
    (szLogin : Bytes) (sent : Int) : sendRequest md szLogin szPassword sent = .error e := by
  simp [sendRequest, prepareRequestString, prepareRequestParamString, hchanged, hu, bind,
    Except.bind]

/-! ### The request a configuration builds -/

/-- The parameter string as the description of the request has it: empty after a change of
request type, and otherwise `?` for a GET, the user key and the login, `&`, the pass key and the
encoded password, then `&` and the rest when the rest is set and not empty. -/
def requestParams (md : ModuleData) (szLogin encoded : Bytes) : Bytes :=
  if md.changedRequestType then []
  else (if md.formType = .get then ascii "?" else []) ++ md.formUserKey.getD [] ++ szLogin ++
    ascii "&" ++ md.formPassKey.getD [] ++ encoded ++
    (if md.formRest.getD [] = [] then [] else ascii "&" ++ md.formRest.getD [])

theorem prepareRequestParamString_eq {md : ModuleData} {uk pk : Bytes}
    (huk : md.formUserKey = some uk) (hpk : md.formPassKey = some pk)
    (hform : md.formType ≠ .unknown) (hchanged : md.changedRequestType = false) (szLogin : Bytes)
    {szPassword encoded : Bytes} (hpw : urlencodeup szPassword = .ok encoded) :
    prepareRequestParamString md szLogin szPassword =
      .ok (requestParams md szLogin encoded, (requestParams md szLogin encoded).length) := by
  cases hf : md.formType
  · exact absurd hf hform
  all_goals rcases hr : md.formRest with _ | _ | ⟨c, r⟩ <;>
    simp [prepareRequestParamString, requestParams, hpw, hr, hf, huk, hpk, hchanged, strArg, bind,
      Except.bind, pure, Except.pure]

theorem prepareRequestParamString_ok_iff {md : ModuleData} {uk pk : Bytes}
    (huk : md.formUserKey = some uk) (hpk : md.formPassKey = some pk)
    (hform : md.formType ≠ .unknown) (szLogin szPassword : Bytes) :
    (∃ q, prepareRequestParamString md szLogin szPassword = .ok q) ↔
      ∃ enc, urlencodeup szPassword = .ok enc := by
  cases hu : urlencodeup szPassword <;> cases hf : md.formType <;>
    simp_all [prepareRequestParamString, strArg, bind, Except.bind, pure, Except.pure]

/-- With a known form type and both keys set, the request builds exactly when its parameters do
and every other `%s` field reads as a C string. -/
theorem prepareRequestString_ok_iff {md : ModuleData} {uk pk : Bytes}
    (hform : md.formType = .get ∨ md.formType = .post) (huk : md.formUserKey = some uk)
    (hpk : md.formPassKey = some pk) (szLogin szPassword : Bytes) :
    (∃ r, prepareRequestString md szLogin szPassword = .ok r) ↔
      (md.changedRequestType = true ∨ ∃ enc, urlencodeup szPassword = .ok enc) ∧
        md.resourcePath ≠ none ∧ md.hostHeader ≠ none ∧ md.userAgentHeader ≠ none ∧
        md.customHeaders ≠ none ∧ ∃ jarS, jarArg md.cookieJar = .ok jarS := by
  have hpure : ∀ {α : Type} (a : α), ∃ b, (pure a : Except Fault α) = .ok b := fun a => ⟨a, rfl⟩
  rcases hform with hf | hf <;> cases hc : md.changedRequestType <;>
    simp only [prepareRequestString, hf, hc, if_true, Bool.false_eq_true, if_false, pure_bind,
      exists_bind_eq_ok, strArg_eq_ok, hpure, and_true, exists_and_right, exists_eq_right,
      prepareRequestParamString_ok_iff huk hpk (by simp [hf]), Option.ne_none_iff_exists',
      true_or, true_and, false_or]

/-- The request `prepareRequestString` builds for a form of known type with both keys set: when
every other `%s` field is set, the cookie jar is terminated and `urlencodeup` encodes the password,
it returns the request's length, a GET asks for the resource path followed by the parameters, and
a POST sends the parameters as its body, with their length in its `Content-Length`; and it builds a
request only then, every other call being undefined. -/
theorem prepareRequestString_spec {md : ModuleData} {uk pk : Bytes}
    (hform : md.formType = .get ∨ md.formType = .post)
    (huk : md.formUserKey = some uk) (hpk : md.formPassKey = some pk) (szLogin szPassword : Bytes) :
    (∀ {rp host ua ch jarS encoded : Bytes} {jar : Buffer}, md.resourcePath = some rp →
      md.hostHeader = some host → md.userAgentHeader = some ua → md.customHeaders = some ch →
      md.cookieJar = some jar → cstr jar = .ok jarS →
      (md.changedRequestType = false → urlencodeup szPassword = .ok encoded) →
      ∃ req, prepareRequestString md szLogin szPassword = .ok (some req, req.length) ∧
        (md.formType = .get →
          req = getRequest rp (requestParams md szLogin encoded) host ua ch jarS) ∧
        (md.formType = .post → req = postRequest rp host ua ch jarS
          (requestParams md szLogin encoded).length (requestParams md szLogin encoded))) ∧
    ((∃ r, prepareRequestString md szLogin szPassword = .ok r) ↔
      (md.changedRequestType = true ∨ ∃ enc, urlencodeup szPassword = .ok enc) ∧
        md.resourcePath ≠ none ∧ md.hostHeader ≠ none ∧ md.userAgentHeader ≠ none ∧
        md.customHeaders ≠ none ∧ ∃ jarS, jarArg md.cookieJar = .ok jarS) := by
  refine ⟨fun hrp hhost hua hch hjar hjarS hpw => ?_,
    prepareRequestString_ok_iff hform huk hpk szLogin szPassword⟩
  have hknown : md.formType ≠ .unknown := by rcases hform with h | h <;> simp [h]
  have hparams := fun hc => prepareRequestParamString_eq huk hpk hknown hc szLogin (hpw hc)
  cases hc : md.changedRequestType <;> rcases hform with hf | hf <;>
    simp [prepareRequestString, hparams, requestParams, hc, hf, hrp, hhost, hua, hch, jarArg, hjar,
      hjarS, strArg, bind, Except.bind, pure, Except.pure]

theorem prepareRequestString_spec_default :
    (∀ {rp host ua ch jarS encoded : Bytes} {jar : Buffer}, defaultModuleData.resourcePath = some rp →
      defaultModuleData.hostHeader = some host → defaultModuleData.userAgentHeader = some ua →
      defaultModuleData.customHeaders = some ch → defaultModuleData.cookieJar = some jar →
      cstr jar = .ok jarS →
      (defaultModuleData.changedRequestType = false →
        urlencodeup (ascii "secret") = .ok encoded) →
      ∃ req, prepareRequestString defaultModuleData (ascii "alice") (ascii "secret") =
          .ok (some req, req.length) ∧
        (defaultModuleData.formType = .get →
          req = getRequest rp (requestParams defaultModuleData (ascii "alice") encoded) host ua ch
            jarS) ∧
        (defaultModuleData.formType = .post → req = postRequest rp host ua ch jarS
          (requestParams defaultModuleData (ascii "alice") encoded).length
          (requestParams defaultModuleData (ascii "alice") encoded))) ∧
    ((∃ r, prepareRequestString defaultModuleData (ascii "alice") (ascii "secret") = .ok r) ↔
      (defaultModuleData.changedRequestType = true ∨
          ∃ enc, urlencodeup (ascii "secret") = .ok enc) ∧
        defaultModuleData.resourcePath ≠ none ∧ defaultModuleData.hostHeader ≠ none ∧
        defaultModuleData.userAgentHeader ≠ none ∧ defaultModuleData.customHeaders ≠ none ∧
        ∃ jarS, jarArg defaultModuleData.cookieJar = .ok jarS) :=
  @prepareRequestString_spec defaultModuleData MODULE_DEFAULT_USERNAME_KEY
    MODULE_DEFAULT_PASSWORD_KEY (.inr rfl) rfl rfl (ascii "alice") (ascii "secret")

/-- A NULL resource path, and a password `urlencodeup` overruns its block on: no request is
built. -/
theorem prepareRequestString_null_path_or_overrun :
    prepareRequestString { defaultModuleData with resourcePath := none } (ascii "alice")
        (ascii "secret") = .error .nullDeref ∧
      prepareRequestString defaultModuleData (ascii "alice") [0x80] = .error .outOfBounds :=
  ⟨by decide, by decide⟩

/-! ### Where `abort()` is reached -/

theorem bind_ne_abort {α β : Type} {x : Except Fault α} {f : α → Except Fault β}
    (hx : x ≠ .error .abort) (hf : ∀ a, f a ≠ .error .abort) : x >>= f ≠ .error .abort := by
  cases x <;> simp_all [bind, Except.bind]

theorem store_ne_abort (buf : Buffer) (k : Nat) (b : UInt8) : store buf k b ≠ .error .abort := by
  unfold store
  split <;> simp

theorem storeAll_ne_abort (buf : Buffer) (k : Nat) (bs : Bytes) :
    storeAll buf k bs ≠ .error .abort := by
  induction bs generalizing buf k with
  | nil => simp [storeAll]
  | cons b bs ih => exact bind_ne_abort (store_ne_abort buf k b) fun buf => ih buf (k + 1)

theorem cstr_ne_abort (buf : Buffer) : cstr buf ≠ .error .abort := by
  induction buf with
  | nil => simp [cstr]
  | cons b buf ih =>
    simp only [cstr]
    split
    · simp
    · cases h : cstr buf <;> simp_all [Except.map]

theorem snprintf_ne_abort (buf : Buffer) (k n : Nat) (out : Bytes) :
    snprintf buf k n out ≠ .error .abort := by
  unfold snprintf
  split
  · simp
  · exact storeAll_ne_abort _ _ _

theorem urlencodeLoop_ne_abort (buf : Buffer) (j : Nat) (s : Bytes) :
    urlencodeLoop buf j s ≠ .error .abort := by
  induction s generalizing buf j with
  | nil => simp [urlencodeLoop]
  | cons c s ih =>
    unfold urlencodeLoop
    split
    · exact bind_ne_abort (store_ne_abort _ _ _) fun buf => ih buf (j + 1)
    · exact bind_ne_abort (snprintf_ne_abort _ _ _ _) fun buf => ih buf (j + 3)

theorem urlencodeup_ne_abort (s : Bytes) : urlencodeup s ≠ .error .abort :=
  bind_ne_abort (urlencodeLoop_ne_abort _ _ _) fun _ =>
    bind_ne_abort (store_ne_abort _ _ _) fun buf => cstr_ne_abort buf

theorem prepareRequestParamString_ne_abort {md : ModuleData} (h : md.formType ≠ .unknown)
    (szLogin szPassword : Bytes) : prepareRequestParamString md szLogin szPassword ≠ .error .abort := by
  refine bind_ne_abort (urlencodeup_ne_abort szPassword) fun _ => ?_
  cases hf : md.formType
  · exact absurd hf h
  all_goals cases md.formUserKey <;> cases md.formPassKey <;>
    simp [hf, strArg, bind, Except.bind, pure, Except.pure]

end MedusaWebForm
