import MedusaWebForm.Libc

/-!
# The module's data

`ModuleDataT` and the enumerations `web-form.c` reads. They are declared in `web-form.h`, which is
not under `src/`: the names are the ones the source uses, and the constants the source only names
are modelled from the spec. `resolvePath`, the one function of the repository the module calls and
`src/` does not hold, is a parameter of everything that reaches it, as is the default user agent,
which neither the source nor the spec spells out.
-/

namespace MedusaWebForm

/-- `FORM_UNKNOWN`, `FORM_GET` and `FORM_POST`. -/
inductive FormType
  | unknown
  | get
  | post
  deriving DecidableEq, Repr

/-- The codes `parseHttpStatusCode` returns: the nine statuses the module handles,
`HTTP_STATUS_NOT_IMPL` for any other number, and `HTTP_STATUS_PARSE_ERR`. -/
inductive HttpStatusCode
  | parseErr
  | notImpl
  | ok
  | movedPermanently
  | found
  | temporaryRedirect
  | permanentRedirect
  | badRequest
  | unauthorized
  | forbidden
  | notFound
  deriving DecidableEq, Repr

/-- `PATHTYPE_UNKNOWN`, `PATHTYPE_ABSOLUTE`, `PATHTYPE_RELATIVE` and `PATHTYPE_URI`. -/
inductive PathType
  | unknown
  | absolute
  | relative
  | uri
  deriving DecidableEq, Repr

/-- The states of `initModule`, `MSTATE_*`. -/
inductive ModuleState
  | initializing
  | new
  | running
  | exiting
  | complete
  deriving DecidableEq, Repr

/-- Modelled from the spec: the values of the `MSTATE_*` enumerators of `web-form.h`, numbered from
0 in the order §4.H lists the states. `_request` returns `MSTATE_EXITING` as its `int` result, which
`tryLogin` tests against 0. -/
def ModuleState.toInt : ModuleState → Int
  | .initializing => 0
  | .new => 1
  | .running => 2
  | .exiting => 3
  | .complete => 4

/-- `LOGIN_RESULT_UNKNOWN`, `LOGIN_RESULT_SUCCESS` and `LOGIN_RESULT_FAIL`, the verdicts written to
`iResult`. -/
inductive LoginResult
  | unknown
  | success
  | fail
  deriving DecidableEq, Repr

/-- `ModuleDataT`. A `char *` field is `none` while it is NULL. The cookie jar is the one field the
code grows in place with `realloc`, so it is kept as the heap block itself; `changedRequestType` is
only ever 0 or 1. -/
structure ModuleData where
  resourcePath : Option Bytes
  resourcePathOld : Option Bytes
  hostHeader : Option Bytes
  userAgentHeader : Option Bytes
  denySignal : Option Bytes
  formData : Option Bytes
  formRest : Option Bytes
  formUserKey : Option Bytes
  formPassKey : Option Bytes
  customHeaders : Option Bytes
  nCustomHeaders : Nat
  cookieJar : Option Buffer
  formType : FormType
  changedRequestType : Bool
  deriving DecidableEq, Repr

/-- The part of the host's `sLogin` the module writes: `iResult`, and the verdicts `setPassResult`
has recorded, each with the password it was given. -/
structure LoginRecord where
  iResult : LoginResult
  verdicts : List (Bytes × LoginResult)
  deriving DecidableEq, Repr

/-- Modelled from the spec: `setPassResult(login, password)` of the host, which §4.I has record the
verdict in `iResult` for `password`. -/
def setPassResult (login : LoginRecord) (password : Bytes) : LoginRecord :=
  { login with verdicts := login.verdicts ++ [(password, login.iResult)] }

/-- `_setPasswordHelper(login, password, result)`. -/
def setPasswordHelper (login : LoginRecord) (password : Bytes) (result : LoginResult) :
    LoginRecord :=
  setPassResult { login with iResult := result } password

@[simp] theorem setPasswordHelper_iResult (login : LoginRecord) (password : Bytes)
    (result : LoginResult) : (setPasswordHelper login password result).iResult = result := rfl

@[simp] theorem setPasswordHelper_verdicts (login : LoginRecord) (password : Bytes)
    (result : LoginResult) :
    (setPasswordHelper login password result).verdicts = login.verdicts ++ [(password, result)] :=
  rfl

theorem setPasswordHelper_ne (login : LoginRecord) (password : Bytes) (result : LoginResult) :
    setPasswordHelper login password result ≠ login := fun h => by
  simpa using congrArg (·.verdicts.length) h

/-- What `web-form.c` takes from outside its own text: `resolvePath` of `web-form-resolve-path.h`,
which may be handed a NULL base and may return NULL, `MODULE_DEFAULT_USER_AGENT`, and the value the
allocator leaves in the bytes `realloc` adds, which C leaves unspecified. -/
structure External where
  resolvePath : Option Bytes → Bytes → Option Bytes
  defaultUserAgent : Bytes
  reallocFill : UInt8

/-! ### Constants of `web-form.h` -/

/-- Modelled from the spec: `MODULE_DEFAULT_USERNAME_KEY` is defined in `web-form.h`, not under
`src/`; §4.G gives `username=`. -/
def MODULE_DEFAULT_USERNAME_KEY : Bytes := ascii "username="

/-- Modelled from the spec: `MODULE_DEFAULT_PASSWORD_KEY` of `web-form.h`; §4.G gives `password=`. -/
def MODULE_DEFAULT_PASSWORD_KEY : Bytes := ascii "password="

/-- Modelled from the spec: `MODULE_DEFAULT_DENY_SIGNAL` of `web-form.h`; §4.G gives
`Login incorrect`. -/
def MODULE_DEFAULT_DENY_SIGNAL : Bytes := ascii "Login incorrect"

/-- Modelled from the spec: `POST_STR` of `web-form.h`, the method §4.G spells `post`. -/
def POST_STR : Bytes := ascii "post"

/-- Modelled from the spec: `GET_STR` of `web-form.h`, the method §4.G spells `get`. -/
def GET_STR : Bytes := ascii "get"

/-- Modelled from the spec: `COOKIE_HEADER` of `web-form.h`, the `Cookie: ` §4.F prefixes each
value with. -/
def COOKIE_HEADER : Bytes := ascii "Cookie: "

/-- Modelled from the code: `COOKIE_HEADER_LENGTH` of `web-form.h`, whose value neither `src/` nor
§4.F gives. It is taken as the length of `COOKIE_HEADER` without its NUL, inferred from the separate
`+ 1` for the terminator in the allocation of `_setCookiesFromResponse`; the `stpncpy` calls bounded
by it then write no NUL, and what the jar reads as after an append rests on this choice. -/
def COOKIE_HEADER_LENGTH : Nat := COOKIE_HEADER.length

/-- Modelled from the spec: `CRLF` of `web-form.h`, the line end of §6. -/
def CRLF : Bytes := ascii "\r\n"

/-- Modelled from the code: `CRLF_LENGTH` of `web-form.h`, whose value is not given either: the
length of `CRLF` without its NUL, inferred and relied on as `COOKIE_HEADER_LENGTH` is. -/
def CRLF_LENGTH : Nat := CRLF.length

end MedusaWebForm
