import MedusaWebForm.Attempts
import MedusaWebForm.Parameters

/-!
# The request line

A server cuts the first line of a request at spaces into the method, the target and the version.
`prepareRequestParamString` writes the login into the target as it is, so the request line of a GET
reads back as `GET`, the target and `HTTP/1.1` exactly when the resource path, the keys, the login
and the form's rest hold no space, CR or LF (`reachable_get_requestLine`). The server's answers reach
later requests only through a redirect's `Location`, which `_findHeaderValue` cuts at the first CR or
LF, so the host header and the resource path stay one line each (`run_paths_oneLine`).
-/

namespace MedusaWebForm

variable {ext : External} {server : Server}

/-! ### Reading a request line -/

def breaksLine (c : UInt8) : Bool := c == 32 || c == 13 || c == 10

def LineSafe (b : Bytes) : Prop := ∀ c ∈ b, breaksLine c = false

instance : DecidablePred LineSafe := fun b => inferInstanceAs (Decidable (∀ c ∈ b, _))

@[simp] theorem lineSafe_append {a b : Bytes} : LineSafe (a ++ b) ↔ LineSafe a ∧ LineSafe b :=
  List.forall_mem_append

@[simp] theorem breaksLine_eq_false {c : UInt8} :
    breaksLine c = false ↔ c ≠ 32 ∧ c ≠ 13 ∧ c ≠ 10 := by
  simp only [breaksLine, Bool.or_eq_false_iff, beq_eq_false_iff_ne, and_assoc]

def requestLine (req : Bytes) : Bytes := req.takeWhile fun c => c != 13 && c != 10

def requestLineFields (req : Bytes) : List Bytes := (requestLine req).splitOn 32

theorem requestLine_append_cr {pre : Bytes} (h : ∀ c ∈ pre, c ≠ 13 ∧ c ≠ 10) (post : Bytes) :
    requestLine (pre ++ 13 :: post) = pre := by
  rw [requestLine, List.takeWhile_append_of_pos fun c hc => by simpa using h c hc]
  simp

theorem getRequest_eq_intercalate (rp params host ua ch jar : Bytes) :
    getRequest rp params host ua ch jar =
      [(32 : UInt8)].intercalate [ascii "GET", rp ++ params, ascii "HTTP/1.1"] ++
        13 :: (ascii "\nHost: " ++ host ++ ascii "\r\nUser-Agent: " ++ ua ++ ascii "\r\n" ++ ch ++
          jar ++ ascii "\r\n") := by
  simp only [getRequest, List.intercalate, List.intersperse_cons₂, List.intersperse_single,
    List.flatten_cons, List.flatten_nil, List.append_nil, List.append_assoc]
  rfl

theorem lineSafe_of_getRequest_requestLineFields {rp params host ua ch jar : Bytes}
    (h : requestLineFields (getRequest rp params host ua ch jar) =
      [ascii "GET", rp ++ params, ascii "HTTP/1.1"]) : LineSafe (rp ++ params) := by
  intro c hc
  have hline : [(32 : UInt8)].intercalate (requestLineFields (getRequest rp params host ua ch jar)) =
      requestLine (getRequest rp params host ua ch jar) := by
    rw [requestLineFields, List.intercalate_splitOn]
  have hmem : c ∈ requestLine (getRequest rp params host ua ch jar) := by
    rw [← hline, h]
    rcases List.mem_append.mp hc with hc | hc <;> simp [List.intercalate, hc]
  have hfield : rp ++ params ∈ (requestLine (getRequest rp params host ua ch jar)).splitOn 32 := by
    rw [← requestLineFields, h]
    simp
  have h32 : (32 : UInt8) ∉ rp ++ params := not_mem_of_mem_splitOn hfield
  have hnl : c ≠ 13 ∧ c ≠ 10 := by simpa using List.mem_takeWhile_imp hmem
  exact breaksLine_eq_false.mpr ⟨fun h' => h32 (h' ▸ hc), hnl⟩

theorem getRequest_requestLineFields_of_lineSafe {rp params : Bytes}
    (hsafe : LineSafe (rp ++ params)) (host ua ch jar : Bytes) : requestLineFields (getRequest rp params host ua ch jar) =
      [ascii "GET", rp ++ params, ascii "HTTP/1.1"] := by
  have hnl : ∀ c ∈ [(32 : UInt8)].intercalate [ascii "GET", rp ++ params, ascii "HTTP/1.1"],
      c ≠ 13 ∧ c ≠ 10 := by
    intro c hc
    simp only [List.intercalate, List.intersperse_cons₂, List.intersperse_single, List.flatten_cons,
      List.flatten_nil, List.append_nil, List.mem_append] at hc
    rcases hc with hc | hc | hc | hc | hc
    · revert c; decide
    · revert c; decide
    · exact (breaksLine_eq_false.mp (hsafe c (List.mem_append.mpr hc))).2
    · revert c; decide
    · revert c; decide
  rw [requestLineFields, getRequest_eq_intercalate, requestLine_append_cr hnl]
  refine List.splitOn_intercalate (x := 32) _ (fun l hl => ?_) (List.cons_ne_nil _ _)
  simp only [List.mem_cons, List.mem_singleton, List.not_mem_nil, or_false] at hl
  rcases hl with rfl | rfl | rfl
  · decide
  · exact fun h32 => (breaksLine_eq_false.mp (hsafe 32 h32)).1 rfl
  · decide

theorem getRequest_requestLineFields (rp params host ua ch jar : Bytes) :
    requestLineFields (getRequest rp params host ua ch jar) =
        [ascii "GET", rp ++ params, ascii "HTTP/1.1"] ↔ LineSafe (rp ++ params) :=
  ⟨lineSafe_of_getRequest_requestLineFields,
    fun h => getRequest_requestLineFields_of_lineSafe h host ua ch jar⟩

/-- A login with a space: the server reads four fields. -/
example : requestLineFields (getRequest (ascii "/") (ascii "?user=a b&pass=pw") (ascii "h") []
    [] []) = [ascii "GET", ascii "/?user=a", ascii "b&pass=pw", ascii "HTTP/1.1"] := by
  decide

/-! ### Every reachable state -/

theorem lineSafe_of_urlencodeup {s enc : Bytes} (h : urlencodeup s = .ok enc) : LineSafe enc := by
  intro c hc
  refine breaksLine_eq_false.mpr ⟨?_, ?_, ?_⟩ <;> rintro rfl <;>
    exact not_mem_of_urlencodeup h (by decide) (by decide) (by decide) hc

theorem prepareRequestString_get {md : ModuleData} {szLogin szPassword req : Bytes} {n : Nat}
    {uk pk : Bytes} (hget : md.formType = .get) (hch : md.changedRequestType = false)
    (huk : md.formUserKey = some uk) (hpk : md.formPassKey = some pk)
    (h : prepareRequestString md szLogin szPassword = .ok (some req, n)) :
    ∃ rp enc host ua ch jar, md.resourcePath = some rp ∧ urlencodeup szPassword = .ok enc ∧
      req = getRequest rp (requestParams md szLogin enc) host ua ch jar := by
  cases henc : urlencodeup szPassword with
  | error e =>
    simp [prepareRequestString, prepareRequestParamString, hch, henc, bind, Except.bind] at h
  | ok enc =>
    have hparams := prepareRequestParamString_eq huk hpk (by simp [hget]) hch szLogin henc
    rcases hrp : md.resourcePath with _ | rp
    · simp [prepareRequestString, hch, hparams, hget, hrp, strArg, bind, Except.bind] at h
    · refine ⟨rp, enc, ?_⟩
      simp only [prepareRequestString, hch, hparams, hget, hrp, strArg, bind, Except.bind, pure,
        Except.pure, Bool.false_eq_true, if_false] at h
      split at h <;> try cases h
      split at h <;> try cases h
      split at h <;> try cases h
      split at h <;> try cases h
      exact ⟨_, _, _, _, rfl, rfl, rfl⟩

/-- In every reachable state after `MSTATE_INITIALIZE` with a GET form and no change of request type
pending, for every login and password whose request builds: the request line reads back as `GET`,
the resource path followed by the parameters, and `HTTP/1.1` exactly when the resource path, the
user key, the login, the password key and the form's rest hold no space, CR or LF. -/
theorem reachable_get_requestLine {s : Sys} (hs : Reachable ext server s)
    (hinit : s.initialized = true) (hget : s.md.formType = .get)
    (hch : s.md.changedRequestType = false) (szLogin szPassword : Bytes) {req : Bytes} {n : Nat}
    (h : prepareRequestString s.md szLogin szPassword = .ok (some req, n)) :
    ∃ rp uk pk enc, s.md.resourcePath = some rp ∧ s.md.formUserKey = some uk ∧
      s.md.formPassKey = some pk ∧ urlencodeup szPassword = .ok enc ∧
      (requestLineFields req =
          [ascii "GET", rp ++ requestParams s.md szLogin enc, ascii "HTTP/1.1"] ↔
        LineSafe rp ∧ LineSafe uk ∧ LineSafe szLogin ∧ LineSafe pk ∧
          LineSafe (s.md.formRest.getD [])) := by
  obtain ⟨uk, huk, -⟩ := (hs.runInvariant.form hinit).userKey
  obtain ⟨pk, hpk, -⟩ := (hs.runInvariant.form hinit).passKey
  obtain ⟨rp, enc, host, ua, ch, jar, hrp, henc, rfl⟩ := prepareRequestString_get hget hch huk hpk h
  refine ⟨rp, uk, pk, enc, hrp, huk, hpk, henc, ?_⟩
  rw [getRequest_requestLineFields]
  have hsafe := lineSafe_of_urlencodeup henc
  have hq : LineSafe (ascii "?") := by decide
  have ha : LineSafe (ascii "&") := by decide
  have hnil : LineSafe [] := fun _ h => absurd h (List.not_mem_nil _)
  by_cases hr : s.md.formRest.getD [] = [] <;>
    simp only [requestParams, hch, hget, huk, hpk, hr, Bool.false_eq_true, if_false, if_true,
      Option.getD_some, lineSafe_append, hq, ha, hsafe, hnil, true_and, and_true] <;>
    tauto

theorem reachable_get_requestLine_space :
    ∃ s, Reachable sampleExternal sampleServer s ∧ ∃ req n,
      prepareRequestString s.md (ascii "a b") (ascii "pw") = .ok (some req, n) ∧
      ∃ rp uk pk enc, s.md.resourcePath = some rp ∧ s.md.formUserKey = some uk ∧
        s.md.formPassKey = some pk ∧ urlencodeup (ascii "pw") = .ok enc ∧
        (requestLineFields req =
            [ascii "GET", rp ++ requestParams s.md (ascii "a b") enc, ascii "HTTP/1.1"] ↔
          LineSafe rp ∧ LineSafe uk ∧ LineSafe (ascii "a b") ∧ LineSafe pk ∧
            LineSafe (s.md.formRest.getD [])) := by
  obtain ⟨s, hs, h⟩ := @exists_reachable_of_run sampleExternal sampleServer _
    (.start { noOptions with formData := some (ascii "get?user=&pass=") } ⟨.unknown, []⟩ firstPair)
    [⟨0, ⟨0, []⟩, .failure⟩] _ (fun s => (s.initialized, s.md))
    (true, { defaultModuleData with
      formData := some (ascii "get?user=&pass="), formRest := none,
      formUserKey := some (ascii "user="), formPassKey := some (ascii "pass="), formType := .get })
    rfl
  simp only [Prod.mk.injEq] at h
  obtain ⟨hinit, hmd⟩ := h
  obtain ⟨req, n, hreq⟩ : ∃ req n,
      prepareRequestString s.md (ascii "a b") (ascii "pw") = .ok (some req, n) := by
    rw [hmd]
    exact ⟨_, _, rfl⟩
  exact ⟨s, hs, req, n, hreq,
    reachable_get_requestLine hs hinit (by rw [hmd]) (by rw [hmd]; rfl) _ _ hreq⟩

/-! ### What the server's answers write into later requests -/

/-- Text with no CR or LF: `%s` writes it into one line of a request. -/
def OneLine (b : Bytes) : Prop := ∀ c ∈ b, isEol c = false

instance : DecidablePred OneLine := fun b => inferInstanceAs (Decidable (∀ c ∈ b, _))

@[simp] theorem oneLine_append {a b : Bytes} : OneLine (a ++ b) ↔ OneLine a ∧ OneLine b :=
  List.forall_mem_append

theorem OneLine.takeWhile {b : Bytes} (h : OneLine b) (p : UInt8 → Bool) :
    OneLine (b.takeWhile p) :=
  fun c hc => h c ((List.takeWhile_sublist p).subset hc)

theorem oneLine_getD {o : Option Bytes} (h : ∀ b, o = some b → OneLine b) {d : Bytes}
    (hd : OneLine d) : OneLine (o.getD d) := by
  cases o
  · exact hd
  · exact h _ rfl

theorem isEol_digitChar {d : Nat} (h : d < 10) : isEol (Nat.digitChar d).toUInt8 = false := by
  revert d
  decide

theorem toDigitsCore_oneLine (fuel n : Nat) {ds : List Char} (h : OneLine (ds.map Char.toUInt8)) :
    OneLine ((Nat.toDigitsCore 10 fuel n ds).map Char.toUInt8) := by
  induction fuel generalizing n ds with
  | zero => exact h
  | succ fuel ih =>
    have hd : OneLine ((Nat.digitChar (n % 10) :: ds).map Char.toUInt8) := by
      rw [List.map_cons]
      rintro c (_ | ⟨_, hc⟩)
      · exact isEol_digitChar (Nat.mod_lt n (by decide))
      · exact h c hc
    show OneLine (List.map Char.toUInt8 (if n / 10 = 0 then _ else _))
    split_ifs
    · exact hd
    · exact ih _ hd

theorem oneLine_formatDecimal (n : Int) : OneLine (formatDecimal n) := by
  rw [formatDecimal, oneLine_append]
  refine ⟨?_, toDigitsCore_oneLine _ _ (fun _ h => absurd h (List.not_mem_nil _))⟩
  split_ifs <;> decide

theorem findLocationHeaderValue_oneLine {src : Option Bytes} {loc : Bytes}
    (h : findLocationHeaderValue src = .ok (some loc)) : OneLine loc := by
  rcases src with _ | src
  · cases h
  simp only [findLocationHeaderValue, findHeaderValue] at h
  split at h
  · cases h
  split_ifs at h
  · simp only [Except.map, Option.map_some', Except.ok.injEq, Option.some.injEq] at h
    subst h
    intro c hc
    simpa using List.mem_takeWhile_imp hc
  · cases h

/-- `resolvePath`, of `web-form-resolve-path.h`, adds no line end to a base path and a location that
have none. -/
def ResolvesOneLine (ext : External) : Prop :=
  ∀ base loc r, ext.resolvePath base loc = some r → (∀ b, base = some b → OneLine b) →
    OneLine loc → OneLine r

/-- The fields of the module data a redirect writes, each on one line when set: the host header of
the `Host` line, the resource path of the request line, and the resource path saved for the 200 that
ends a redirect chain. -/
structure PathsOneLine (md : ModuleData) : Prop where
  host : ∀ h, md.hostHeader = some h → OneLine h
  path : ∀ rp, md.resourcePath = some rp → OneLine rp
  old : ∀ rp, md.resourcePathOld = some rp → OneLine rp

theorem resolveLocationPath_pathsOneLine (hext : ResolvesOneLine ext) {loc : Bytes}
    (hloc : OneLine loc) {md : ModuleData} (hmd : PathsOneLine md) :
    PathsOneLine (resolveLocationPath ext loc md) := by
  have hcut := hloc.takeWhile (· != 63)
  unfold resolveLocationPath
  dsimp only
  split
  · exact ⟨hmd.host, fun rp h => hext _ _ rp h hmd.path hcut, hmd.path⟩
  · exact ⟨fun _ h => Option.some.inj h ▸ hcut, fun _ h => Option.some.inj h ▸ hcut, hmd.old⟩
  · exact ⟨hmd.host, fun _ h => Option.some.inj h ▸ hcut, hmd.old⟩
  · exact hmd

theorem tryLogin_pathsOneLine (hext : ResolvesOneLine ext) {md : ModuleData} (hmd : PathsOneLine md)
    {login : LoginRecord} {szLogin szPassword : Bytes} {ex : Exchange} {o : Outcome}
    (h : tryLogin ext md login szLogin szPassword ex = .ok o) : PathsOneLine o.md := by
  rcases tryLogin_spec h with ⟨-, rfl⟩ | ⟨-, -, rfl⟩ | ⟨-, rfl⟩ | ⟨-, -, -, rfl⟩ |
    ⟨-, -, loc, jar, hloc, rfl⟩
  · exact hmd
  · exact hmd
  · exact hmd
  · show PathsOneLine (restoreRequestType md)
    unfold restoreRequestType
    split_ifs
    · exact ⟨hmd.host, hmd.old, fun _ h => (by cases h)⟩
    · exact hmd
  · have hres := resolveLocationPath_pathsOneLine hext (findLocationHeaderValue_oneLine hloc) hmd
    show PathsOneLine (changeRequestType _ _)
    unfold changeRequestType
    split_ifs <;> exact ⟨hres.host, hres.path, hres.old⟩

theorem PathsOneLine.step (hext : ResolvesOneLine ext) (hhost : OneLine server.pHost) {s s' : Sys}
    {i : Input} (hinv : PathsOneLine s.md) (h : step ext server s i = .ok s') :
    PathsOneLine s'.md := by
  rcases step_cases h with ⟨-, rfl⟩ | ⟨-, -, rfl⟩ | ⟨-, -, md, hi, rfl⟩ | ⟨-, -, -, rfl⟩ |
    ⟨-, -, -, rfl⟩ | ⟨-, -, user, o, ht, rfl⟩ | ⟨-, -, rfl⟩
  case inr.inr.inl =>
    have hport : OneLine (server.pHost ++ ascii ":" ++ formatDecimal server.nPort) := by
      simp only [oneLine_append]
      exact ⟨⟨hhost, by decide⟩, oneLine_formatDecimal _⟩
    refine ⟨fun _ h' => ?_, fun _ h' => ?_,
      fun _ h' => hinv.old _ ((initializeModuleData_resourcePathOld hi).symm.trans h')⟩
    · rw [initializeModuleData_hostHeader hi, setRequestDefaults_hostHeader] at h'
      exact Option.some.inj h' ▸ oneLine_getD hinv.host hport
    · rw [initializeModuleData_resourcePath hi] at h'
      exact Option.some.inj h' ▸ oneLine_getD hinv.path (by decide)
  case inr.inr.inr.inr.inr.inl =>
    obtain ⟨cred, nState, heq, -⟩ := advanceCredentials_frame (recordTryLogin s o) i.next
    rw [heq]
    exact tryLogin_pathsOneLine hext hinv ht
  all_goals exact hinv

/-- Whatever the server answers, no run of `initModule` puts a CR or LF into the host header or the
resource path, which `%s` writes into the `Host` line and the request line of every request, when
the host name and the `FORM` value hold none and `resolvePath` adds none. A redirect writes them
only from a `Location` value, which `_findHeaderValue` cuts at the first CR or LF, and the 200 that
ends a chain of redirects writes back only the path a redirect saved. So no answer of the server
can add a header line to a later request through them. -/
theorem run_paths_oneLine (o : Options) (login : LoginRecord) (first : NextCredSet)
    (is : List Input) (hext : ResolvesOneLine ext) (hhost : OneLine server.pHost)
    (hform : ∀ rp, o.resourcePath = some rp → OneLine rp) {s : Sys}
    (h : run ext server (initModuleStart o.moduleData login first) is = .ok s) :
    (∀ hh, s.md.hostHeader = some hh → OneLine hh) ∧
      ∀ rp, s.md.resourcePath = some rp → OneLine rp := by
  have hinv : PathsOneLine s.md :=
    run_invariant (P := fun s => PathsOneLine s.md) (fun _ _ _ _ hinv hstep => hinv.step hext hhost hstep)
      ⟨fun _ h => (by cases first <;> cases h), fun rp h => hform rp (by cases first <;> exact h),
        fun _ h => (by cases first <;> cases h)⟩ h
  exact ⟨hinv.host, hinv.path⟩

def uriRedirect : List Input :=
  [⟨0, ⟨0, []⟩, .failure⟩, ⟨3, ⟨0, []⟩, .failure⟩,
    ⟨3, ⟨0, [some (ascii "HTTP/1.1 307 Temporary Redirect\r\nLocation: http://other/login\r\n\r\n")]⟩,
      .failure⟩]

theorem run_paths_oneLine_uri :
    ∃ s, run sampleExternal sampleServer (initModuleStart noOptions.moduleData ⟨.unknown, []⟩
        firstPair) uriRedirect = .ok s ∧
      (∀ hh, s.md.hostHeader = some hh → OneLine hh) ∧
        ∀ rp, s.md.resourcePath = some rp → OneLine rp := by
  obtain ⟨s, h⟩ : ∃ s, run sampleExternal sampleServer
      (initModuleStart noOptions.moduleData ⟨.unknown, []⟩ firstPair) uriRedirect = .ok s :=
    ⟨_, rfl⟩
  exact ⟨s, h, run_paths_oneLine noOptions _ firstPair uriRedirect
    (fun _ _ _ h _ hl => by cases h; exact hl) (by decide) (fun _ h => by cases h) h⟩

end MedusaWebForm
