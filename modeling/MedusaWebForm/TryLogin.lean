import MedusaWebForm.Request
import MedusaWebForm.Status
import MedusaWebForm.Header
import MedusaWebForm.Cookies
import MedusaWebForm.Initialize

/-!
# One login attempt

`tryLogin` sends the request for one credential pair, reads the status line and acts on it: a 200
ends a redirect chain and scans the response for the deny signal, a redirect moves the resource path
to the `Location` value and returns `MSTATE_NEW` with no verdict, a status line with no space returns
`MSTATE_EXITING` with nothing recorded, and everything else records `UNKNOWN` and returns
`MSTATE_EXITING`. The host is an input: what `medusaSend` returns and the buffers
`medusaReceiveLine` hands back, in order.
-/

namespace MedusaWebForm

/-- What the host does in one `tryLogin` call: what `medusaSend` returns, and the buffers
`medusaReceiveLine` returns in turn, `none` for NULL. Every read past the list returns NULL. -/
structure Exchange where
  sent : Int
  lines : List (Option Bytes)
  deriving DecidableEq, Repr

/-- `medusaReceiveLine`: the next buffer, and the ones after it. -/
def receiveLine : List (Option Bytes) → Option Bytes × List (Option Bytes)
  | [] => (none, [])
  | line :: lines => (line, lines)

/-- What `_request` leaves: its result, the login record, `*pReceiveBuffer`, and the buffers the
host has still to hand back. -/
structure Received where
  ret : Int
  login : LoginRecord
  buffer : Option Bytes
  lines : List (Option Bytes)

/-- `_request(hSocket, moduleData, login, szLogin, pReceiveBuffer, nReceiveBufferSize,
szPassword)`. -/
def request (md : ModuleData) (login : LoginRecord) (szLogin szPassword : Bytes) (ex : Exchange) :
    Except Fault Received :=
  match md.formType with
  | .unknown => .ok ⟨ModuleState.exiting.toInt, login, none, ex.lines⟩
  | _ => do
    if !(← sendRequest md szLogin szPassword ex.sent) then
      return ⟨ModuleState.exiting.toInt, setPasswordHelper login szPassword .unknown, none, ex.lines⟩
    match receiveLine ex.lines with
    | (none, lines) => return ⟨0, setPasswordHelper login szPassword .unknown, none, lines⟩
    | (some buffer, lines) => return ⟨1, login, some buffer, lines⟩

/-- `_pathType(path)`. Byte 47 is `/`. -/
def pathType : Option Bytes → PathType
  | none => .unknown
  | some path =>
    if path.head? = some 47 then .absolute
    else if 4 < path.length && (strcasestr (path.take 4) (ascii "http")).isSome then .uri
    else .relative

/-- `_resolveLocationPath(newLocation, moduleData)`: `newLocation` is cut at its first `?`
(byte 63). -/
def resolveLocationPath (ext : External) (newLocation : Bytes) (md : ModuleData) : ModuleData :=
  let newLocation := newLocation.takeWhile (· != 63)
  match pathType (some newLocation) with
  | .relative =>
    { md with resourcePath := ext.resolvePath md.resourcePath newLocation,
              resourcePathOld := md.resourcePath }
  | .uri => { md with hostHeader := some newLocation, resourcePath := some newLocation }
  | .absolute => { md with resourcePath := some newLocation }
  | .unknown => md

/-- The deny-signal loop of `tryLogin`, from the buffer in hand with `lines` still to come:
whether it found the deny signal, and the buffers it leaves unread. A read past `lines` is NULL,
which ends the loop. -/
def denySignalFound (denySignal : Option Bytes) :
    Option Bytes → List (Option Bytes) → Except Fault (Bool × List (Option Bytes))
  | some buffer@(_ :: _), lines => do
    if (strcasestr buffer (← strArg denySignal)).isSome then return (true, lines)
    match lines with
    | [] => return (false, [])
    | line :: lines => denySignalFound denySignal line lines
  | _, lines => .ok (false, lines)

/-- The `HTTP_OK` branch of `tryLogin` before the scan: the end of a chain of redirects that
changed the method. -/
def restoreRequestType (md : ModuleData) : ModuleData :=
  if md.changedRequestType then
    { md with changedRequestType := false, formType := .post, resourcePath := md.resourcePathOld,
              resourcePathOld := none, cookieJar := some (calloc 1) }
  else md

/-- The end of the redirect branch of `tryLogin`: a 301 or a 302 turns a POST into a GET. -/
def changeRequestType (statusCode : HttpStatusCode) (md : ModuleData) : ModuleData :=
  if md.formType = .post ∧ (statusCode = .movedPermanently ∨ statusCode = .found) then
    { md with changedRequestType := true, formType := .get }
  else md

/-- What `tryLogin` returns, and what it leaves in the module data and the login record. -/
structure Outcome where
  nState : ModuleState
  md : ModuleData
  login : LoginRecord
  deriving DecidableEq, Repr

/-- The `HTTP_OK` branch of `tryLogin`: the end of a changed chain, the deny-signal scan from the
status buffer on, and the verdict. -/
def acceptResponse (md : ModuleData) (login : LoginRecord) (szPassword buffer : Bytes)
    (lines : List (Option Bytes)) : Except Fault Outcome := do
  let md := restoreRequestType md
  let (found, _) ← denySignalFound md.denySignal (some buffer) lines
  return ⟨.new, md, setPassResult { login with iResult := if found then .fail else .success }
    szPassword⟩

/-- The redirect branch of `tryLogin`. -/
def followRedirect (ext : External) (statusCode : HttpStatusCode) (buffer : Bytes)
    (md : ModuleData) (login : LoginRecord) (szPassword : Bytes) : Except Fault Outcome := do
  match ← findLocationHeaderValue (some buffer) with
  | none => return ⟨.exiting, md, setPasswordHelper login szPassword .unknown⟩
  | some newLocation =>
    let md := resolveLocationPath ext newLocation md
    let cookieJar ← setCookiesFromResponse ext.reallocFill md.cookieJar buffer
    return ⟨.new, changeRequestType statusCode { md with cookieJar }, login⟩

/-- `tryLogin(hSocket, moduleData, login, szLogin, szPassword)`. A NULL `*pReceiveBuffer` parses as
`HTTP_STATUS_PARSE_ERR` (`parseHttpStatusCode_none`), which is the exit taken when it is NULL. -/
def tryLogin (ext : External) (md : ModuleData) (login : LoginRecord) (szLogin szPassword : Bytes)
    (ex : Exchange) : Except Fault Outcome := do
  let r ← request md login szLogin szPassword ex
  if r.ret = 0 then return ⟨.exiting, md, r.login⟩
  let some buffer := r.buffer | return ⟨.exiting, md, r.login⟩
  let statusCode := parseHttpStatusCode (some buffer)
  match statusCode with
  | .parseErr => return ⟨.exiting, md, r.login⟩
  | .ok => acceptResponse md r.login szPassword buffer r.lines
  | .movedPermanently | .found | .temporaryRedirect | .permanentRedirect =>
    followRedirect ext statusCode buffer md r.login szPassword
  | .badRequest | .unauthorized | .forbidden | .notFound | .notImpl =>
    return ⟨.exiting, md, setPasswordHelper r.login szPassword .unknown⟩

theorem parseHttpStatusCode_none : parseHttpStatusCode none = .parseErr := rfl

/-! ### What one call can do -/

def exchangeStatus (ex : Exchange) : HttpStatusCode := parseHttpStatusCode (receiveLine ex.lines).1

def isRedirect (statusCode : HttpStatusCode) : Prop :=
  statusCode = .movedPermanently ∨ statusCode = .found ∨ statusCode = .temporaryRedirect ∨
    statusCode = .permanentRedirect

/-- What the server did in one exchange, as far as the verdict goes. -/
inductive Reply
  /-- `medusaSend` failed. -/
  | unsent
  /-- No first buffer came back. -/
  | silent
  /-- The first buffer has no space, so no status. -/
  | garbled
  /-- A 200. -/
  | accepted
  /-- A 301, 302, 307 or 308, with a `Location` header or without one. -/
  | redirected (located : Bool)
  /-- Any other status. -/
  | refused
  deriving DecidableEq, Repr

def replyTo (buffer : Bytes) : Reply :=
  match parseHttpStatusCode (some buffer) with
  | .parseErr => .garbled
  | .ok => .accepted
  | .movedPermanently | .found | .temporaryRedirect | .permanentRedirect =>
    .redirected (findLocationHeaderValue (some buffer) matches .ok (some _))
  | .badRequest | .unauthorized | .forbidden | .notFound | .notImpl => .refused

def reply (ex : Exchange) : Reply :=
  if ex.sent < 0 then .unsent else
  match (receiveLine ex.lines).1 with
  | none => .silent
  | some buffer => replyTo buffer

theorem tryLogin_of_urlencodeup {ext : External} {md : ModuleData} {login : LoginRecord}
    {szLogin szPassword : Bytes} {e : Fault} (hknown : md.formType ≠ .unknown)
    (hchanged : md.changedRequestType = false) (hu : urlencodeup szPassword = .error e)
    (ex : Exchange) : tryLogin ext md login szLogin szPassword ex = .error e := by
  have hsend := sendRequest_of_urlencodeup hchanged hu szLogin ex.sent
  cases hf : md.formType
  · exact absurd hf hknown
  all_goals simp [tryLogin, request, hf, hsend, bind, Except.bind]

/-- What `_request` can leave: the unknown-form-type exit with nothing recorded; an `UNKNOWN`
verdict and no buffer when the send fails or no first buffer comes back; or 1 and the first buffer
of the exchange with nothing recorded. -/
theorem request_cases {md : ModuleData} {login : LoginRecord} {szLogin szPassword : Bytes}
    {ex : Exchange} {r : Received} (h : request md login szLogin szPassword ex = .ok r) :
    (md.formType = .unknown ∧ r.login = login ∧ r.buffer = none) ∨
      (md.formType ≠ .unknown ∧ (ex.sent < 0 ∨ (receiveLine ex.lines).1 = none) ∧
        r.login = setPasswordHelper login szPassword .unknown ∧ r.buffer = none) ∨
      (md.formType ≠ .unknown ∧ 0 ≤ ex.sent ∧ ∃ b, receiveLine ex.lines = (some b, r.lines) ∧
        r.ret = 1 ∧ r.login = login ∧ r.buffer = some b) := by
  unfold request at h
  split at h
  next hu =>
    cases h
    exact .inl ⟨hu, rfl, rfl⟩
  next hk =>
    rw [bind_eq_ok] at h
    obtain ⟨sent, hs, h⟩ := h
    obtain rfl := sendRequest_eq_ok hs
    cases hl : receiveLine ex.lines with
    | mk buffer lines =>
      by_cases h0 : 0 ≤ ex.sent <;> cases buffer <;>
        simp_all [bind, Except.bind, pure, Except.pure, eq_comm, Int.not_le]

theorem request_ne_unknownExit {md : ModuleData} (h : md.formType ≠ .unknown) (login : LoginRecord)
    (szLogin szPassword : Bytes) (ex : Exchange) :
    request md login szLogin szPassword ex ≠ .ok ⟨ModuleState.exiting.toInt, login, none, ex.lines⟩ := by
  intro hr
  rcases request_cases hr with ⟨hu, -, -⟩ | ⟨-, -, hl, -⟩ | ⟨-, -, _, -, -, -, hb⟩
  · exact h hu
  · exact setPasswordHelper_ne login szPassword .unknown hl.symm
  · cases hb

/-- `_resolveLocationPath` writes the resource path, the old resource path and the host header,
and no other field. -/
theorem resolveLocationPath_frame (ext : External) (newLocation : Bytes) (md : ModuleData) :
    ∃ rp old hh, resolveLocationPath ext newLocation md =
      { md with resourcePath := rp, resourcePathOld := old, hostHeader := hh } := by
  unfold resolveLocationPath
  dsimp only
  split <;> exact ⟨_, _, _, rfl⟩

/-- A 301 or a 302 writes the form type and the changed request type, and no other field. -/
theorem changeRequestType_frame (statusCode : HttpStatusCode) (md : ModuleData) :
    ∃ ft ch, changeRequestType statusCode md =
      { md with formType := ft, changedRequestType := ch } := by
  unfold changeRequestType
  split
  exacts [⟨_, _, rfl⟩, ⟨md.formType, md.changedRequestType, rfl⟩]

/-- The end of a changed chain writes the request type, the resource paths and the cookie jar, and
no other field. -/
theorem restoreRequestType_frame (md : ModuleData) :
    ∃ ft ch rp old jar, restoreRequestType md =
      { md with formType := ft, changedRequestType := ch, resourcePath := rp,
                resourcePathOld := old, cookieJar := jar } := by
  unfold restoreRequestType
  split
  exacts [⟨_, _, _, _, _, rfl⟩, ⟨md.formType, md.changedRequestType, md.resourcePath,
    md.resourcePathOld, md.cookieJar, rfl⟩]

/-- `_pathType` of a string: the `strcasestr` on its first four bytes asks whether they are `http`
in any case. It is never `PATHTYPE_UNKNOWN`. -/
theorem pathType_some (path : Bytes) :
    pathType (some path) =
      if path.head? = some 47 then .absolute
      else if 4 < path.length ∧ (path.take 4).map tolower = ascii "http" then .uri
      else .relative := by
  have huri : 4 < path.length →
      ((strcasestr (path.take 4) (ascii "http")).isSome ↔
        (path.take 4).map tolower = ascii "http") := fun h =>
    strcasestr_isSome_of_length_eq (by simp [ascii]; omega)
  by_cases h4 : 4 < path.length <;> simp [pathType, h4, huri]

/-- What `_resolveLocationPath` does with a `Location` value `v` whose text before its first `?`
is `v'`: a `v'` that starts with `/` becomes the resource path; one of more than four bytes whose
first four are `http` in any case becomes the host header and the resource path; every other one,
the empty `v'` and a bare `http` included, is resolved against the resource path, whose old value
is kept. No other field changes. -/
theorem resolveLocationPath_spec (ext : External) (md : ModuleData) {v v' : Bytes} (hv' : 63 ∉ v')
    (hv : v = v' ∨ ∃ post, v = v' ++ 63 :: post) :
    resolveLocationPath ext v md =
      if v'.head? = some 47 then { md with resourcePath := some v' }
      else if 4 < v'.length ∧ (v'.take 4).map tolower = ascii "http" then
        { md with hostHeader := some v', resourcePath := some v' }
      else { md with resourcePath := ext.resolvePath md.resourcePath v',
                     resourcePathOld := md.resourcePath } := by
  have hno : ∀ a ∈ v', (a != 63) = true := by
    simpa using fun a ha => ne_of_mem_of_not_mem ha hv'
  have htrunc : v.takeWhile (· != 63) = v' := by
    rcases hv with rfl | ⟨post, rfl⟩
    · exact List.takeWhile_eq_self_iff.mpr hno
    · rw [List.takeWhile_append_of_pos hno]
      simp
  simp only [resolveLocationPath, htrunc, pathType_some]
  split_ifs <;> rfl

theorem resolveLocationPath_spec_query :
    (63 ∉ ascii "/login" ∧ ascii "/login?x=1" = ascii "/login" ++ 63 :: ascii "x=1") ∧
      resolveLocationPath sampleExternal (ascii "/login?x=1") defaultModuleData =
        { defaultModuleData with resourcePath := some (ascii "/login") } :=
  ⟨⟨by decide, by decide⟩, (@resolveLocationPath_spec sampleExternal defaultModuleData
    (ascii "/login?x=1") (ascii "/login") (by decide) (.inr ⟨ascii "x=1", by decide⟩)).trans
      (by decide)⟩

/-- A `Location` of exactly `http`, and one that is only a query: both take the relative branch,
so the host header is kept and the resource path is saved and resolved against the cut value. -/
theorem resolveLocationPath_query_only_and_bare_scheme (ext : External) (md : ModuleData) :
    resolveLocationPath ext (ascii "http") md =
        { md with resourcePath := ext.resolvePath md.resourcePath (ascii "http"),
                  resourcePathOld := md.resourcePath } ∧
      resolveLocationPath ext (ascii "?page=2") md =
        { md with resourcePath := ext.resolvePath md.resourcePath [],
                  resourcePathOld := md.resourcePath } :=
  ⟨rfl, rfl⟩

theorem acceptResponse_cases {md : ModuleData} {login : LoginRecord} {szPassword buffer : Bytes}
    {lines : List (Option Bytes)} {o : Outcome}
    (h : acceptResponse md login szPassword buffer lines = .ok o) :
    ∃ found unread,
      denySignalFound (restoreRequestType md).denySignal (some buffer) lines = .ok (found, unread) ∧
      o = ⟨.new, restoreRequestType md,
        setPasswordHelper login szPassword (if found then .fail else .success)⟩ := by
  unfold acceptResponse at h
  obtain ⟨⟨found, unread⟩, hf, h⟩ := bind_eq_ok.mp h
  exact ⟨found, unread, hf, (Except.ok.inj h).symm⟩

theorem followRedirect_cases {ext : External} {statusCode : HttpStatusCode} {buffer : Bytes}
    {md : ModuleData} {login : LoginRecord} {szPassword : Bytes} {o : Outcome}
    (h : followRedirect ext statusCode buffer md login szPassword = .ok o) :
    (findLocationHeaderValue (some buffer) = .ok none ∧
        o = ⟨.exiting, md, setPasswordHelper login szPassword .unknown⟩) ∨
      ∃ loc jar, findLocationHeaderValue (some buffer) = .ok (some loc) ∧
        o = ⟨.new, changeRequestType statusCode { resolveLocationPath ext loc md with cookieJar := jar },
          login⟩ := by
  unfold followRedirect at h
  obtain ⟨loc, hl, h⟩ := bind_eq_ok.mp h
  cases loc with
  | none => exact .inl ⟨hl, (Except.ok.inj h).symm⟩
  | some loc =>
    obtain ⟨jar, -, h⟩ := bind_eq_ok.mp h
    exact .inr ⟨loc, jar, hl, (Except.ok.inj h).symm⟩

theorem reply_of_buffer {ex : Exchange} {b : Bytes} (hsent : 0 ≤ ex.sent)
    (hb : (receiveLine ex.lines).1 = some b) : reply ex = replyTo b := by
  rw [reply, if_neg (Int.not_lt.mpr hsent), hb]

/-- Everything one `tryLogin` call can do, by the reply the server gave. -/
theorem tryLogin_spec {ext : External} {md : ModuleData} {login : LoginRecord}
    {szLogin szPassword : Bytes} {ex : Exchange} {o : Outcome}
    (h : tryLogin ext md login szLogin szPassword ex = .ok o) :
    (md.formType = .unknown ∧ o = ⟨.exiting, md, login⟩) ∨
      (md.formType ≠ .unknown ∧
        (reply ex = .unsent ∨ reply ex = .silent ∨ reply ex = .refused ∨ reply ex = .redirected false) ∧
        o = ⟨.exiting, md, setPasswordHelper login szPassword .unknown⟩) ∨
      (reply ex = .garbled ∧ o = ⟨.exiting, md, login⟩) ∨
      (reply ex = .accepted ∧ exchangeStatus ex = .ok ∧ ∃ found : Bool,
        o = ⟨.new, restoreRequestType md,
          setPasswordHelper login szPassword (if found then .fail else .success)⟩) ∨
      (reply ex = .redirected true ∧ isRedirect (exchangeStatus ex) ∧ ∃ loc jar,
        findLocationHeaderValue (receiveLine ex.lines).1 = .ok (some loc) ∧
        o = ⟨.new, changeRequestType (exchangeStatus ex)
          { resolveLocationPath ext loc md with cookieJar := jar }, login⟩) := by
  unfold tryLogin at h
  obtain ⟨r, hr, h⟩ := bind_eq_ok.mp h
  have hnone : r.buffer = none → o = ⟨.exiting, md, r.login⟩ := fun hb => by
    simp only [hb] at h
    split at h <;> simpa [bind, Except.bind, pure, Except.pure, eq_comm] using h
  rcases request_cases hr with ⟨hu, hl, hb⟩ | ⟨hk, hsent, hl, hb⟩ |
    ⟨hk, hsent, b, hline, hret, hl, hb⟩
  · exact .inl ⟨hu, by rw [hnone hb, hl]⟩
  · have hreply : reply ex = .unsent ∨ reply ex = .silent := by
      rcases hsent with hsent | hsent
      · exact .inl (by simp [reply, hsent])
      · by_cases h0 : ex.sent < 0 <;> simp [reply, h0, hsent]
    exact .inr (.inl ⟨hk, hreply.imp_right .inl, by rw [hnone hb, hl]⟩)
  · have hb1 : (receiveLine ex.lines).1 = some b := by simp [hline]
    rw [reply_of_buffer hsent hb1, exchangeStatus, hb1]
    simp only [hret, hb, hl, show ¬(1 : Int) = 0 by decide, if_false, bind, Except.bind] at h
    unfold replyTo
    cases hc : parseHttpStatusCode (some b) <;> simp only [hc] at h
    case parseErr =>
      simp only [pure, Except.pure, Except.ok.injEq] at h
      exact .inr (.inr (.inl ⟨rfl, h.symm⟩))
    case ok =>
      obtain ⟨found, -, -, rfl⟩ := acceptResponse_cases h
      exact .inr (.inr (.inr (.inl ⟨rfl, rfl, found, rfl⟩)))
    case movedPermanently | found | temporaryRedirect | permanentRedirect =>
      rcases followRedirect_cases h with ⟨hloc, rfl⟩ | ⟨loc, jar, hloc, rfl⟩
      · exact .inr (.inl ⟨hk, by simp [hloc], rfl⟩)
      · exact .inr (.inr (.inr (.inr ⟨by simp [hloc], by simp [isRedirect], loc, jar, hloc, rfl⟩)))
    all_goals
      simp only [pure, Except.pure, Except.ok.injEq] at h
      exact .inr (.inl ⟨hk, by simp, h.symm⟩)

/-- What one `tryLogin` call can do to the state: exit with the module data as it was, end a
changed chain on a 200, or follow a redirect. -/
theorem tryLogin_cases {ext : External} {md : ModuleData} {login : LoginRecord}
    {szLogin szPassword : Bytes} {ex : Exchange} {o : Outcome}
    (h : tryLogin ext md login szLogin szPassword ex = .ok o) :
    (o.nState = .exiting ∧ o.md = md) ∨
      (exchangeStatus ex = .ok ∧ o.nState = .new ∧ o.md = restoreRequestType md) ∨
      (isRedirect (exchangeStatus ex) ∧ o.nState = .new ∧ ∃ loc jar,
        o.md = changeRequestType (exchangeStatus ex) { resolveLocationPath ext loc md with cookieJar := jar }) := by
  rcases tryLogin_spec h with ⟨-, rfl⟩ | ⟨-, -, rfl⟩ | ⟨-, rfl⟩ | ⟨-, hs, -, rfl⟩ |
    ⟨-, hs, loc, jar, -, rfl⟩
  exacts [.inl ⟨rfl, rfl⟩, .inl ⟨rfl, rfl⟩, .inl ⟨rfl, rfl⟩, .inr (.inl ⟨hs, rfl, rfl⟩),
    .inr (.inr ⟨hs, rfl, loc, jar, rfl⟩)]

/-- A `tryLogin` call writes the resource paths, the host header, the cookie jar and the request
type, and no other field of the module data. -/
theorem tryLogin_frame {ext : External} {md : ModuleData} {login : LoginRecord}
    {szLogin szPassword : Bytes} {ex : Exchange} {o : Outcome}
    (h : tryLogin ext md login szLogin szPassword ex = .ok o) :
    ∃ rp old hh jar ft ch, o.md =
      { md with resourcePath := rp, resourcePathOld := old, hostHeader := hh, cookieJar := jar,
                formType := ft, changedRequestType := ch } := by
  rcases tryLogin_cases h with ⟨-, h1⟩ | ⟨-, -, h1⟩ | ⟨-, -, loc, jar, h1⟩
  · exact ⟨_, _, _, _, _, _, h1⟩
  · obtain ⟨ft, ch, rp, old, jar, h2⟩ := restoreRequestType_frame md
    exact ⟨rp, old, _, jar, ft, ch, h1.trans h2⟩
  · obtain ⟨rp, old, hh, h2⟩ := resolveLocationPath_frame ext loc md
    obtain ⟨ft, ch, h3⟩ := changeRequestType_frame (exchangeStatus ex)
      { resolveLocationPath ext loc md with cookieJar := jar }
    exact ⟨rp, old, hh, jar, ft, ch, by rw [h1, h3, h2]⟩

theorem tryLogin_nState {ext : External} {md : ModuleData} {login : LoginRecord}
    {szLogin szPassword : Bytes} {ex : Exchange} {o : Outcome}
    (h : tryLogin ext md login szLogin szPassword ex = .ok o) :
    o.nState = .exiting ∨ o.nState = .new := by
  rcases tryLogin_cases h with ⟨h1, -⟩ | ⟨-, h1, -⟩ | ⟨-, h1, -⟩ <;> simp [h1]

/-! ### The deny signal -/

theorem tryLogin_denySignal {ext : External} {md : ModuleData} {login : LoginRecord}
    {szLogin szPassword : Bytes} {ex : Exchange} {o : Outcome}
    (h : tryLogin ext md login szLogin szPassword ex = .ok o) : o.md.denySignal = md.denySignal := by
  obtain ⟨rp, old, hh, jar, ft, ch, h1⟩ := tryLogin_frame h
  rw [h1]

/-! ### When a 200 gets its verdict -/

/-- The buffers the deny-signal loop reads when no match stops it, from the buffer in hand with
`lines` still to come: each one up to the first NULL or empty buffer. -/
def scannedBuffers : Option Bytes → List (Option Bytes) → List Bytes
  | some buffer@(_ :: _), lines => buffer :: match lines with
    | [] => []
    | line :: lines => scannedBuffers line lines
  | _, _ => []

theorem denySignalFound_eq (d : Bytes) (buffer : Option Bytes) (lines : List (Option Bytes)) :
    ∃ unread, denySignalFound (some d) buffer lines =
      .ok (decide (∃ b ∈ scannedBuffers buffer lines, OccursIn b d), unread) := by
  induction lines generalizing buffer with
  | nil | cons line lines ih =>
    rcases buffer with _ | _ | ⟨c, bs⟩
    all_goals simp only [denySignalFound, scannedBuffers, strArg, bind, Except.bind, pure,
      Except.pure, List.not_mem_nil, false_and, exists_false, decide_False, Except.ok.injEq,
      Prod.mk.injEq, true_and, exists_eq']
    by_cases h : OccursIn (c :: bs) d <;> simp [h, strcasestr_isSome, *]

/-- The loop stops at the first buffer that holds the deny signal: the buffers after it are left
unread. -/
theorem denySignalFound_of_first_match (d : Bytes) {pre : List Bytes} {b : Bytes}
    (hpre : ∀ x ∈ pre, x ≠ [] ∧ ¬ OccursIn x d) (hb : b ≠ []) (hocc : OccursIn b d)
    (post : List (Option Bytes)) {buffer : Option Bytes} {lines : List (Option Bytes)}
    (h : buffer :: lines = pre.map some ++ some b :: post) :
    denySignalFound (some d) buffer lines = .ok (true, post) := by
  induction pre generalizing buffer lines with
  | nil =>
    obtain ⟨rfl, rfl⟩ := List.cons.inj h
    obtain ⟨c, bs, rfl⟩ := List.exists_cons_of_ne_nil hb
    cases lines <;> simp [denySignalFound, strArg, strcasestr_isSome.mpr hocc, bind, Except.bind,
      pure, Except.pure]
  | cons x pre ih =>
    simp only [List.map_cons, List.cons_append, List.cons.injEq] at h
    obtain ⟨rfl, rfl⟩ := h
    obtain ⟨hx, hxd⟩ := hpre x (List.mem_cons_self x pre)
    obtain ⟨c, bs, rfl⟩ := List.exists_cons_of_ne_nil hx
    have hnot : (strcasestr (c :: bs) d).isSome = false :=
      Bool.eq_false_iff.mpr (mt strcasestr_isSome.mp hxd)
    obtain ⟨line, lines, hl⟩ : ∃ line lines, pre.map some ++ some b :: post = line :: lines :=
      List.exists_cons_of_ne_nil (by simp)
    rw [hl]
    simp only [denySignalFound, strArg, hnot, bind, Except.bind, pure, Except.pure,
      Bool.false_eq_true, if_false]
    exact ih (fun y hy => hpre y (List.mem_cons_of_mem _ hy)) hl.symm

theorem acceptResponse_eq {md : ModuleData} {d : Bytes} (hd : md.denySignal = some d)
    (login : LoginRecord) (szPassword buffer : Bytes) (lines : List (Option Bytes)) :
    acceptResponse md login szPassword buffer lines =
      .ok ⟨.new, restoreRequestType md, setPasswordHelper login szPassword
        (if ∃ b ∈ scannedBuffers (some buffer) lines, OccursIn b d then .fail else .success)⟩ := by
  obtain ⟨unread, hu⟩ := denySignalFound_eq d (some buffer) lines
  obtain ⟨ft, ch, rp, old, jar, hr⟩ := restoreRequestType_frame md
  simp only [acceptResponse, hr, hd, hu, bind, Except.bind, pure,
    Except.pure, setPasswordHelper, decide_eq_true_eq]

theorem tryLogin_of_status_ok {ext : External} {md : ModuleData} {login : LoginRecord}
    {szLogin szPassword : Bytes} (hknown : md.formType ≠ .unknown)
    (hbuild : ∃ r, prepareRequestString md szLogin szPassword = .ok r) {sent : Int}
    (hsent : 0 ≤ sent) {buffer : Bytes} (h200 : parseHttpStatusCode (some buffer) = .ok)
    (lines : List (Option Bytes)) :
    tryLogin ext md login szLogin szPassword ⟨sent, some buffer :: lines⟩ =
      acceptResponse md login szPassword buffer lines := by
  obtain ⟨req, hreq⟩ := hbuild
  have hrequest : request md login szLogin szPassword ⟨sent, some buffer :: lines⟩ =
      .ok ⟨1, login, some buffer, lines⟩ := by
    cases hf : md.formType
    · exact absurd hf hknown
    all_goals simp [request, hf, sendRequest, hreq, hsent, receiveLine, bind, Except.bind, pure,
      Except.pure]
  simp [tryLogin, hrequest, h200, bind, Except.bind, pure, Except.pure]

theorem parseHttpStatusCode_of_replyTo {buffer : Bytes} (h : replyTo buffer = .accepted) :
    parseHttpStatusCode (some buffer) = .ok := by
  unfold replyTo at h
  split at h <;> first | assumption | cases h

theorem tryLogin_of_accepted {ext : External} {md : ModuleData} {login : LoginRecord}
    {szLogin szPassword : Bytes} {ex : Exchange} (hknown : md.formType ≠ .unknown)
    (hbuild : ∃ r, prepareRequestString md szLogin szPassword = .ok r)
    (hdeny : md.denySignal ≠ none) (hr : reply ex = .accepted) :
    ∃ found : Bool, tryLogin ext md login szLogin szPassword ex =
      .ok ⟨.new, restoreRequestType md,
        setPasswordHelper login szPassword (if found then .fail else .success)⟩ := by
  obtain ⟨d, hd⟩ := Option.ne_none_iff_exists'.mp hdeny
  obtain ⟨sent, lines⟩ := ex
  have hsent : 0 ≤ sent := Int.not_lt.mp fun h => by simp [reply, h] at hr
  obtain ⟨b, rest, rfl⟩ : ∃ b rest, lines = some b :: rest := by
    rcases lines with _ | ⟨_ | b, rest⟩
    · simp [reply, receiveLine, Int.not_lt.mpr hsent] at hr
    · simp [reply, receiveLine, Int.not_lt.mpr hsent] at hr
    · exact ⟨b, rest, rfl⟩
  have h200 := parseHttpStatusCode_of_replyTo
    ((@reply_of_buffer ⟨sent, some b :: rest⟩ b hsent rfl).symm.trans hr)
  refine ⟨decide (∃ b' ∈ scannedBuffers (some b) rest, OccursIn b' d), ?_⟩
  rw [tryLogin_of_status_ok hknown hbuild hsent h200, acceptResponse_eq hd]
  simp only [decide_eq_true_eq]

/-- A 200 on a form of known type whose request builds, with deny signal `d`: the verdict is FAIL
exactly when `d` occurs, ignoring case, in one of the buffers up to the first NULL or empty one,
the status buffer included, and SUCCESS otherwise; and the scan stops at the first buffer that
matches, leaving every buffer after it unread. -/
theorem tryLogin_accepted_verdict {ext : External} {md : ModuleData} {login : LoginRecord}
    {szLogin szPassword d : Bytes} (hknown : md.formType ≠ .unknown)
    (hbuild : ∃ r, prepareRequestString md szLogin szPassword = .ok r)
    (hd : md.denySignal = some d) {sent : Int} (hsent : 0 ≤ sent) {b0 : Bytes}
    (h200 : parseHttpStatusCode (some b0) = .ok) :
    (∀ lines, tryLogin ext md login szLogin szPassword ⟨sent, some b0 :: lines⟩ =
      .ok ⟨.new, restoreRequestType md, setPasswordHelper login szPassword
        (if ∃ b ∈ scannedBuffers (some b0) lines, OccursIn b d then .fail else .success)⟩) ∧
    ∀ lines (pre : List Bytes) b post, some b0 :: lines = pre.map some ++ some b :: post →
      (∀ x ∈ pre, x ≠ [] ∧ ¬ OccursIn x d) → b ≠ [] → OccursIn b d →
      denySignalFound md.denySignal (some b0) lines = .ok (true, post) := by
  refine ⟨fun lines => (tryLogin_of_status_ok hknown hbuild hsent h200 lines).trans
    (acceptResponse_eq hd _ _ _ _), fun lines pre b post h hpre hb hocc => ?_⟩
  rw [hd]
  exact denySignalFound_of_first_match d hpre hb hocc post h

theorem tryLogin_accepted_verdict_default :
    (∀ lines, tryLogin sampleExternal defaultModuleData ⟨.unknown, []⟩ (ascii "alice")
        (ascii "secret") ⟨0, some (ascii "HTTP/1.1 200 OK\r\n") :: lines⟩ =
      .ok ⟨.new, defaultModuleData, setPasswordHelper ⟨.unknown, []⟩ (ascii "secret")
        (if ∃ b ∈ scannedBuffers (some (ascii "HTTP/1.1 200 OK\r\n")) lines,
          OccursIn b (ascii "Login incorrect") then .fail else .success)⟩) ∧
    ∀ lines (pre : List Bytes) b post, some (ascii "HTTP/1.1 200 OK\r\n") :: lines = pre.map some ++ some b :: post →
      (∀ x ∈ pre, x ≠ [] ∧ ¬ OccursIn x (ascii "Login incorrect")) → b ≠ [] →
      OccursIn b (ascii "Login incorrect") →
      denySignalFound defaultModuleData.denySignal (some (ascii "HTTP/1.1 200 OK\r\n")) lines =
        .ok (true, post) :=
  @tryLogin_accepted_verdict sampleExternal defaultModuleData ⟨.unknown, []⟩ (ascii "alice")
    (ascii "secret") (ascii "Login incorrect") (by decide) ⟨_, rfl⟩ rfl 0 (Int.le_refl 0)
    (ascii "HTTP/1.1 200 OK\r\n") (by decide)

/-! ### What one call records -/

/-- What an attempt leaves for each reply: a 200 records SUCCESS or FAIL and asks for a new
connection, a redirect with a location records nothing and asks for a new connection, a status line
with no status ends the module with nothing recorded, and every other reply ends it with
`UNKNOWN`. -/
def Reply.Records (r : Reply) (login : LoginRecord) (szPassword : Bytes) (o : Outcome) : Prop :=
  match r with
  | .accepted => o.nState = .new ∧
    ∃ v, (v = .success ∨ v = .fail) ∧ o.login = setPasswordHelper login szPassword v
  | .redirected true => o.nState = .new ∧ o.login = login
  | .garbled => o.nState = .exiting ∧ o.login = login
  | .unsent | .silent | .redirected false | .refused =>
    o.nState = .exiting ∧ o.login = setPasswordHelper login szPassword .unknown

theorem Reply.records_of_tryLogin {ext : External} {md : ModuleData} {login : LoginRecord}
    {szLogin szPassword : Bytes} {ex : Exchange} {o : Outcome} (hknown : md.formType ≠ .unknown)
    (h : tryLogin ext md login szLogin szPassword ex = .ok o) :
    (reply ex).Records login szPassword o := by
  rcases tryLogin_spec h with ⟨hu, -⟩ | ⟨-, hr, rfl⟩ | ⟨hr, rfl⟩ | ⟨hr, -, found, rfl⟩ |
    ⟨hr, -, -, -, -, rfl⟩
  · exact absurd hu hknown
  · rcases hr with hr | hr | hr | hr <;> simp [hr, Reply.Records]
  · simp [hr, Reply.Records]
  · simp only [hr, Reply.Records, true_and]
    exact ⟨_, by cases found <;> simp, rfl⟩
  · simp [hr, Reply.Records]

/-- One `tryLogin` call with a known form type records for the password what its reply calls for,
and nothing else. -/
theorem tryLogin_records {ext : External} {md : ModuleData} {login : LoginRecord}
    {szLogin szPassword : Bytes} {ex : Exchange} {o : Outcome} (hknown : md.formType ≠ .unknown)
    (h : tryLogin ext md login szLogin szPassword ex = .ok o) :
    (reply ex).Records login szPassword o :=
  Reply.records_of_tryLogin hknown h

theorem tryLogin_records_accepted :
    (reply ⟨0, [some (ascii "HTTP/1.1 200 OK\r\n"), some (ascii "Welcome")]⟩).Records ⟨.unknown, []⟩
      (ascii "secret") ⟨.new, defaultModuleData, ⟨.success, [(ascii "secret", .success)]⟩⟩ :=
  tryLogin_records (by decide)
    (by decide : tryLogin sampleExternal defaultModuleData ⟨.unknown, []⟩ (ascii "alice") (ascii "secret")
      ⟨0, [some (ascii "HTTP/1.1 200 OK\r\n"), some (ascii "Welcome")]⟩ =
        .ok ⟨.new, defaultModuleData, ⟨.success, [(ascii "secret", .success)]⟩⟩)

/-! ### The form across one call -/

/-- How one `tryLogin` call may change the form type: not at all, from POST to GET on a 301 or a
302 that sets the changed request type, or from GET to POST on a 200 that clears it. -/
def FormStep (statusCode : HttpStatusCode) (md md' : ModuleData) : Prop :=
  md'.formType = md.formType ∨
    (md.formType = .post ∧ md'.formType = .get ∧
      (statusCode = .movedPermanently ∨ statusCode = .found) ∧ md'.changedRequestType = true) ∨
    (md.formType = .get ∧ md'.formType = .post ∧ statusCode = .ok ∧
      md.changedRequestType = true ∧ md'.changedRequestType = false)

theorem restoreRequestType_form {md : ModuleData} (hinv : FormInvariant md) :
    FormInvariant (restoreRequestType md) ∧ FormStep .ok md (restoreRequestType md) := by
  unfold restoreRequestType
  split_ifs with hc
  · exact ⟨⟨.inr rfl, hinv.userKey, hinv.passKey, fun h => absurd h (by simp)⟩,
      .inr (.inr ⟨hinv.changed hc, rfl, rfl, hc, rfl⟩)⟩
  · exact ⟨hinv, .inl rfl⟩

theorem changeRequestType_form {md : ModuleData} (hinv : FormInvariant md)
    (statusCode : HttpStatusCode) :
    FormInvariant (changeRequestType statusCode md) ∧
      FormStep statusCode md (changeRequestType statusCode md) ∧
      (statusCode = .temporaryRedirect ∨ statusCode = .permanentRedirect →
        (changeRequestType statusCode md).formType = md.formType) := by
  unfold changeRequestType
  split_ifs with hc
  · refine ⟨⟨.inl rfl, hinv.userKey, hinv.passKey, fun _ => rfl⟩, .inr (.inl ⟨hc.1, rfl, hc.2, rfl⟩),
      fun h => ?_⟩
    rcases hc.2 with h' | h' <;> rcases h with h | h <;> simp_all
  · exact ⟨hinv, .inl rfl, fun _ => rfl⟩

theorem tryLogin_form {ext : External} {md : ModuleData} {login : LoginRecord}
    {szLogin szPassword : Bytes} {ex : Exchange} {o : Outcome} (hinv : FormInvariant md)
    (h : tryLogin ext md login szLogin szPassword ex = .ok o) :
    FormInvariant o.md ∧ FormStep (exchangeStatus ex) md o.md ∧
      (exchangeStatus ex = .temporaryRedirect ∨ exchangeStatus ex = .permanentRedirect →
        o.md.formType = md.formType) := by
  rcases tryLogin_cases h with ⟨-, hmd⟩ | ⟨hs, -, hmd⟩ | ⟨-, -, loc, jar, hmd⟩
  · rw [hmd]
    exact ⟨hinv, .inl rfl, fun _ => rfl⟩
  · rw [hmd, hs]
    exact ⟨(restoreRequestType_form hinv).1, (restoreRequestType_form hinv).2,
      fun h => by rcases h with h | h <;> cases h⟩
  · obtain ⟨rp, old, hh, hres⟩ := resolveLocationPath_frame ext loc md
    rw [hmd, hres]
    have hinv' : FormInvariant
        { md with resourcePath := rp, resourcePathOld := old, hostHeader := hh, cookieJar := jar } :=
      ⟨hinv.formType, hinv.userKey, hinv.passKey, hinv.changed⟩
    exact changeRequestType_form hinv' _

/-! ### One relative redirect and the 200 after it -/

theorem tryLogin_accepted {ext : External} {md : ModuleData} {login : LoginRecord}
    {szLogin szPassword : Bytes} {ex : Exchange} {o : Outcome} (hknown : md.formType ≠ .unknown)
    (hr : reply ex = .accepted) (h : tryLogin ext md login szLogin szPassword ex = .ok o) :
    o.md = restoreRequestType md := by
  rcases tryLogin_spec h with ⟨hu, -⟩ | ⟨-, hr', -⟩ | ⟨hr', -⟩ | ⟨-, -, -, rfl⟩ | ⟨hr', -⟩
  · exact absurd hu hknown
  · rcases hr' with h' | h' | h' | h' <;> rw [hr] at h' <;> cases h'
  all_goals first | rfl | (rw [hr] at hr'; cases hr')

theorem tryLogin_redirected {ext : External} {md : ModuleData} {login : LoginRecord}
    {szLogin szPassword : Bytes} {ex : Exchange} {o : Outcome} (hknown : md.formType ≠ .unknown)
    (hr : reply ex = .redirected true) (h : tryLogin ext md login szLogin szPassword ex = .ok o) :
    ∃ loc jar, findLocationHeaderValue (receiveLine ex.lines).1 = .ok (some loc) ∧
      o.md = changeRequestType (exchangeStatus ex) { resolveLocationPath ext loc md with cookieJar := jar } := by
  rcases tryLogin_spec h with ⟨hu, -⟩ | ⟨-, hr', -⟩ | ⟨hr', -⟩ | ⟨hr', -⟩ | ⟨-, -, loc, jar, hloc, rfl⟩
  · exact absurd hu hknown
  · rcases hr' with h' | h' | h' | h' <;> rw [hr] at h' <;> cases h'
  · rw [hr] at hr'; cases hr'
  · rw [hr] at hr'; cases hr'
  · exact ⟨loc, jar, hloc, rfl⟩

theorem resolveLocationPath_relative (ext : External) {loc : Bytes} (md : ModuleData)
    (hrel : pathType (some (loc.takeWhile (· != 63))) = .relative) :
    resolveLocationPath ext loc md =
      { md with resourcePath := ext.resolvePath md.resourcePath (loc.takeWhile (· != 63)),
                resourcePathOld := md.resourcePath } := by
  simp only [resolveLocationPath, hrel]

/-- A POST that draws one 301 or 302 to a relative location and then a 200 is left as it was before
the redirect, with the old resource path NULL and the cookie jar empty: the 200 restores the method
and the resource path the relative redirect saved. -/
theorem relative_redirect_then_ok_restores {ext : External} {md : ModuleData}
    {login login' : LoginRecord} {szLogin szPassword szLogin' szPassword' : Bytes}
    {ex1 ex2 : Exchange} {o1 o2 : Outcome}
    (hpost : md.formType = .post) (hchanged : md.changedRequestType = false)
    (hreply1 : reply ex1 = .redirected true)
    (hstatus : exchangeStatus ex1 = .movedPermanently ∨ exchangeStatus ex1 = .found)
    (hrel : ∀ loc, findLocationHeaderValue (receiveLine ex1.lines).1 = .ok (some loc) →
      pathType (some (loc.takeWhile (· != 63))) = .relative)
    (hreply2 : reply ex2 = .accepted)
    (h1 : tryLogin ext md login szLogin szPassword ex1 = .ok o1)
    (h2 : tryLogin ext o1.md login' szLogin' szPassword' ex2 = .ok o2) :
    o2.md = { md with resourcePathOld := none, cookieJar := some (calloc 1) } := by
  obtain ⟨loc, jar, hloc, hmd1⟩ := tryLogin_redirected (by simp [hpost]) hreply1 h1
  have hget : o1.md =
      { md with
        resourcePath := ext.resolvePath md.resourcePath (loc.takeWhile (· != 63)),
        resourcePathOld := md.resourcePath, cookieJar := jar, changedRequestType := true,
        formType := .get } := by
    rw [hmd1, resolveLocationPath_relative ext md (hrel loc hloc)]
    simp [changeRequestType, hpost, hstatus]
  rw [tryLogin_accepted (by simp [hget]) hreply2 h2, hget]
  simp only [restoreRequestType, if_true]
  rcases md with ⟨_, _, _, _, _, _, _, _, _, _, _, _, _, _⟩
  cases hchanged
  cases hpost
  rfl

theorem relative_redirect_then_ok_restores_default :
    defaultModuleData =
      { defaultModuleData with resourcePathOld := none, cookieJar := some (calloc 1) } :=
  relative_redirect_then_ok_restores rfl rfl (by decide) (by decide)
    (fun loc h => by
      obtain rfl : loc = ascii "app/home" :=
        Option.some.inj (Except.ok.inj (h.symm.trans (by decide)))
      decide)
    (by decide)
    (by decide : tryLogin sampleExternal defaultModuleData ⟨.unknown, []⟩ (ascii "alice") (ascii "secret")
      ⟨0, [some (ascii "HTTP/1.1 302 Found\r\nLocation: app/home\r\n\r\n")]⟩ =
        .ok ⟨.new, { defaultModuleData with
          resourcePath := some (ascii "app/home"), resourcePathOld := some (ascii "/"),
          changedRequestType := true, formType := .get }, ⟨.unknown, []⟩⟩)
    (by decide : tryLogin sampleExternal { defaultModuleData with
          resourcePath := some (ascii "app/home"), resourcePathOld := some (ascii "/"),
          changedRequestType := true, formType := .get } ⟨.unknown, []⟩ (ascii "alice") (ascii "secret")
      ⟨0, [some (ascii "HTTP/1.1 200 OK\r\n"), some (ascii "Welcome")]⟩ =
        .ok ⟨.new, defaultModuleData, ⟨.success, [(ascii "secret", .success)]⟩⟩)

end MedusaWebForm
