import MedusaWebForm.TryLogin

/-!
# `initModule`

`initModule` takes the first credential pair from the host and runs its state machine until
`MSTATE_COMPLETE`: `MSTATE_INITIALIZE` fills in the module data, `MSTATE_NEW` opens a connection,
`MSTATE_RUNNING` makes one `tryLogin` call and asks for the next pair once a verdict is in, and
`MSTATE_EXITING` closes the connection. `step` is one pass through the loop, the host's answers to a
pass are an `Input`, and the state keeps a log of what the module asked of the host; `Reachable`
collects the states of every run.
-/

namespace MedusaWebForm

/-- Modelled from the spec: the status of a credential set, `CREDENTIAL_DONE`,
`CREDENTIAL_NEW_USER`, or any other, which §4.I calls `CONTINUE`. -/
inductive CredentialStatus
  | done
  | newUser
  | sameUser
  deriving DecidableEq, Repr

/-- The pair `psCredSet` holds: `psUser->pUser`, with `psUser` NULL once the users run out, and
`pPass`. -/
structure CredentialSet where
  user : Option Bytes
  pass : Bytes
  deriving DecidableEq, Repr

/-- Modelled from the spec: what `getNextCredSet` of the host does, §4.I's `nextCredential`: it
fails, or fills in the next pair and its status. -/
inductive NextCredSet
  | failure
  | next (cred : CredentialSet) (status : CredentialStatus)
  deriving DecidableEq, Repr

/-- What the module asks of the host, in order. -/
inductive Event
  | getNextCredSet
  | connect (hSocket : Int)
  | disconnect (hSocket : Int)
  /-- A `tryLogin` call, with the verdicts it recorded. -/
  | tryLogin (verdicts : List LoginResult)
  deriving DecidableEq, Repr

def openConnections (log : List Event) : List Int :=
  log.foldl (fun conns e => match e with
    | .connect hSocket => if 0 ≤ hSocket then conns ++ [hSocket] else conns
    | .disconnect hSocket => conns.erase hSocket
    | _ => conns) []

/-- `SUCCESS` and `FAILURE`, what `initModule` returns. -/
inductive ReturnCode
  | success
  | failure
  deriving DecidableEq, Repr

/-- `initModule` between two tests of its loop's condition. -/
structure Sys where
  nState : ModuleState
  hSocket : Int
  md : ModuleData
  login : LoginRecord
  cred : CredentialSet
  /-- `MSTATE_INITIALIZE` has run. -/
  initialized : Bool
  /-- What `initModule` has returned, once it has. -/
  returned : Option ReturnCode
  log : List Event
  deriving DecidableEq, Repr

/-- What the host does in one pass through the loop: what the connect function returns, what
`tryLogin` meets, and what `getNextCredSet` does. Each pass reads only what its state calls for. -/
structure Input where
  connect : Int
  exchange : Exchange
  next : NextCredSet
  deriving DecidableEq, Repr

/-- `initModule` up to its loop: the first call of `getNextCredSet`, with `hSocket` at -1. -/
def initModuleStart (md : ModuleData) (login : LoginRecord) (first : NextCredSet) : Sys :=
  let (nState, cred) : ModuleState × CredentialSet := match first with
    | .failure => (.complete, ⟨none, []⟩)
    | .next cred _ => (if cred.user.isSome then .initializing else .complete, cred)
  { nState, hSocket := -1, md, login, cred, initialized := false, returned := none,
    log := [Event.getNextCredSet] }

/-- `if (hSocket > 0) medusaDisconnect(hSocket);` -/
def disconnectIfOpen (s : Sys) : Sys :=
  if s.hSocket > 0 then { s with log := s.log ++ [Event.disconnect s.hSocket] } else s

/-- The verdict check after `tryLogin` in `MSTATE_RUNNING`: with a verdict in, the next pair. -/
def advanceCredentials (s : Sys) (next : NextCredSet) : Sys :=
  if s.login.iResult ≠ .unknown then
    let s := { s with log := s.log ++ [Event.getNextCredSet] }
    match next with
    | .failure => { s with nState := .exiting }
    | .next cred status =>
      let s := { s with cred }
      match status with
      | .done => { s with nState := .exiting }
      | .newUser => { s with nState := .new }
      | .sameUser => s
  else s

/-- The state after the `tryLogin` call of `MSTATE_RUNNING`, with the call in the log. -/
def recordTryLogin (s : Sys) (o : Outcome) : Sys :=
  { s with nState := o.nState, md := o.md, login := o.login,
           log := s.log ++ [Event.tryLogin ((o.login.verdicts.drop s.login.verdicts.length).map Prod.snd)] }

/-- One test of the loop's condition and one pass through the `switch` of `initModule`. -/
def step (ext : External) (server : Server) (s : Sys) (i : Input) : Except Fault Sys :=
  if s.returned.isSome then .ok s else
  match s.nState with
  | .complete => .ok { s with returned := some .success }
  | .initializing => do
    let md ← initializeModuleData ext server s.md
    return { s with md, nState := .new, initialized := true }
  | .new =>
    let s := disconnectIfOpen s
    let s := { s with hSocket := i.connect, log := s.log ++ [Event.connect i.connect] }
    if i.connect < 0 then
      .ok { s with login := setPasswordHelper s.login s.cred.pass .unknown,
                   returned := some .failure }
    else .ok { s with nState := .running }
  | .running => do
    let user ← strArg s.cred.user
    let o ← tryLogin ext s.md s.login user s.cred.pass i.exchange
    return advanceCredentials (recordTryLogin s o) i.next
  | .exiting =>
    let s := disconnectIfOpen s
    .ok { s with hSocket := -1, nState := .complete }

/-- The passes of a run, one input each. -/
def run (ext : External) (server : Server) : Sys → List Input → Except Fault Sys
  | s, [] => .ok s
  | s, i :: is => step ext server s i >>= fun s => run ext server s is

/-- The states `initModule` can reach from module data `go` set up, for any answers of the host. -/
inductive Reachable (ext : External) (server : Server) : Sys → Prop
  | start (o : Options) (login : LoginRecord) (first : NextCredSet) :
      Reachable ext server (initModuleStart o.moduleData login first)
  | step {s s' : Sys} (i : Input) :
      Reachable ext server s → step ext server s i = .ok s' → Reachable ext server s'

/-- What holds of the first state and is kept by every pass of a run holds of the run's last
state. -/
theorem run_invariant {ext : External} {server : Server} {P : Sys → Prop} {s s' : Sys}
    {is : List Input} (hstep : ∀ s s' i, i ∈ is → P s → step ext server s i = .ok s' → P s')
    (hs : P s) (h : run ext server s is = .ok s') : P s' := by
  induction is generalizing s with
  | nil =>
    simp only [run, Except.ok.injEq] at h
    exact h ▸ hs
  | cons i is ih =>
    obtain ⟨s1, hi, h⟩ := bind_eq_ok.mp h
    exact ih (fun s s' j hj => hstep s s' j (.tail _ hj)) (hstep s s1 i (.head _) hs hi) h

theorem reachable_of_run {ext : External} {server : Server} {s s' : Sys} {is : List Input}
    (hs : Reachable ext server s) (h : run ext server s is = .ok s') : Reachable ext server s' :=
  run_invariant (fun _ _ i _ hs hi => hs.step i hi) hs h

theorem exists_reachable_of_run {ext : External} {server : Server} {s0 : Sys}
    (hs0 : Reachable ext server s0) (is : List Input) {α : Type} {f : Sys → α} {v : α}
    (h : (run ext server s0 is).map f = .ok v) : ∃ s, Reachable ext server s ∧ f s = v := by
  cases hr : run ext server s0 is with
  | error e => simp [hr, Except.map] at h
  | ok s =>
    simp only [hr, Except.map, Except.ok.injEq] at h
    exact ⟨s, reachable_of_run hs0 hr, h⟩

/-! ### What one pass does -/

theorem disconnectIfOpen_eq (s : Sys) :
    disconnectIfOpen s =
      { s with log := s.log ++ if 0 < s.hSocket then [.disconnect s.hSocket] else [] } := by
  unfold disconnectIfOpen
  split_ifs <;> simp

theorem advanceCredentials_frame (s : Sys) (next : NextCredSet) :
    ∃ cred nState, advanceCredentials s next =
      { s with cred, nState,
               log := s.log ++ if s.login.iResult ≠ .unknown then [.getNextCredSet] else [] } ∧
      (nState = s.nState ∨ nState = .exiting ∨ nState = .new) := by
  unfold advanceCredentials
  split_ifs with hres
  · rcases next with _ | ⟨cred, _ | _ | _⟩
    · exact ⟨s.cred, .exiting, rfl, .inr (.inl rfl)⟩
    · exact ⟨cred, .exiting, rfl, .inr (.inl rfl)⟩
    · exact ⟨cred, .new, rfl, .inr (.inr rfl)⟩
    · exact ⟨cred, s.nState, rfl, .inl rfl⟩
  · exact ⟨s.cred, s.nState, by simp, .inl rfl⟩

theorem advanceCredentials_of_unknown {s : Sys} (h : s.login.iResult = .unknown)
    (next : NextCredSet) : advanceCredentials s next = s := by
  simp [advanceCredentials, h]

theorem advanceCredentials_recordTryLogin_nState {s : Sys} {o : Outcome}
    (ho : o.nState = .exiting ∨ o.nState = .new) (next : NextCredSet) :
    (advanceCredentials (recordTryLogin s o) next).nState = .exiting ∨
      (advanceCredentials (recordTryLogin s o) next).nState = .new := by
  obtain ⟨cred, nState, heq, hn⟩ := advanceCredentials_frame (recordTryLogin s o) next
  rw [heq]
  rcases hn with rfl | rfl | rfl
  · exact ho
  · exact .inl rfl
  · exact .inr rfl

/-- Everything one pass of `initModule` can do, by the state it starts in. -/
theorem step_cases {ext : External} {server : Server} {s s' : Sys} {i : Input}
    (h : step ext server s i = .ok s') :
    (s.returned.isSome ∧ s' = s) ∨
      (s.returned = none ∧ s.nState = .complete ∧ s' = { s with returned := some .success }) ∨
      (s.returned = none ∧ s.nState = .initializing ∧ ∃ md,
        initializeModuleData ext server s.md = .ok md ∧
        s' = { s with md, nState := .new, initialized := true }) ∨
      (s.returned = none ∧ s.nState = .new ∧ i.connect < 0 ∧
        s' = { s with hSocket := i.connect, log := (disconnectIfOpen s).log ++ [.connect i.connect],
                      login := setPasswordHelper s.login s.cred.pass .unknown,
                      returned := some .failure }) ∨
      (s.returned = none ∧ s.nState = .new ∧ 0 ≤ i.connect ∧
        s' = { s with hSocket := i.connect, log := (disconnectIfOpen s).log ++ [.connect i.connect],
                      nState := .running }) ∨
      (s.returned = none ∧ s.nState = .running ∧ ∃ user o,
        tryLogin ext s.md s.login user s.cred.pass i.exchange = .ok o ∧
        s' = advanceCredentials (recordTryLogin s o) i.next) ∨
      (s.returned = none ∧ s.nState = .exiting ∧
        s' = { s with log := (disconnectIfOpen s).log, hSocket := -1, nState := .complete }) := by
  unfold step at h
  split at h
  next hr =>
    cases h
    exact .inl ⟨hr, rfl⟩
  next hr =>
    have hr : s.returned = none := by simpa using hr
    split at h
    next hst =>
      cases h
      exact .inr (.inl ⟨hr, hst, rfl⟩)
    next hst =>
      obtain ⟨md, hi, h⟩ := bind_eq_ok.mp h
      exact .inr (.inr (.inl ⟨hr, hst, md, hi, (Except.ok.inj h).symm⟩))
    next hst =>
      simp only [disconnectIfOpen_eq] at h ⊢
      split at h <;> cases h
      next hc => exact .inr (.inr (.inr (.inl ⟨hr, hst, hc, rfl⟩)))
      next hc => exact .inr (.inr (.inr (.inr (.inl ⟨hr, hst, Int.not_lt.mp hc, rfl⟩))))
    next hst =>
      obtain ⟨user, -, h⟩ := bind_eq_ok.mp h
      obtain ⟨o, ht, h⟩ := bind_eq_ok.mp h
      exact .inr (.inr (.inr (.inr (.inr (.inl ⟨hr, hst, user, o, ht, (Except.ok.inj h).symm⟩)))))
    next hst =>
      simp only [disconnectIfOpen_eq] at h ⊢
      cases h
      exact .inr (.inr (.inr (.inr (.inr (.inr ⟨hr, hst, rfl⟩)))))

theorem step_running {ext : External} {server : Server} {s s' : Sys} {i : Input}
    (hret : s.returned = none) (hrun : s.nState = .running) (h : step ext server s i = .ok s') :
    ∃ user o, tryLogin ext s.md s.login user s.cred.pass i.exchange = .ok o ∧
      s' = advanceCredentials (recordTryLogin s o) i.next := by
  rcases step_cases h with ⟨h1, -⟩ | ⟨-, h1, -⟩ | ⟨-, h1, -⟩ | ⟨-, h1, -⟩ | ⟨-, h1, -⟩ | ⟨-, -, h1⟩ |
    ⟨-, h1, -⟩
  all_goals first | exact h1 | simp [hret, hrun] at h1

/-! ### The form in every reachable state -/

/-- What every reachable state keeps: the form `go` left while `MSTATE_INITIALIZE` is still to run,
the form invariant once it has run, and that it has run in every state but the first two. -/
structure RunInvariant (s : Sys) : Prop where
  fresh : s.nState = .initializing → FreshForm s.md
  form : s.initialized = true → FormInvariant s.md
  started : s.nState ≠ .initializing → s.nState ≠ .complete → s.initialized = true

theorem initModuleStart_runInvariant (o : Options) (login : LoginRecord) (first : NextCredSet) :
    RunInvariant (initModuleStart o.moduleData login first) := by
  refine ⟨fun _ => o.freshForm, fun h => by simp [initModuleStart] at h, fun h1 h2 => ?_⟩
  rcases first with _ | ⟨⟨_ | _, _⟩, _⟩ <;> simp [initModuleStart] at h1 h2

theorem RunInvariant.step {ext : External} {server : Server} {s s' : Sys} {i : Input}
    (hinv : RunInvariant s) (h : step ext server s i = .ok s') : RunInvariant s' := by
  rcases step_cases h with ⟨-, rfl⟩ | ⟨-, -, rfl⟩ | ⟨-, hst, md, hi, rfl⟩ | ⟨-, -, -, rfl⟩ |
    ⟨-, hst, -, rfl⟩ | ⟨-, hst, user, o, ht, rfl⟩ | ⟨-, -, rfl⟩
  · exact hinv
  · exact ⟨hinv.fresh, hinv.form, hinv.started⟩
  · exact ⟨fun h' => (by cases h'), fun _ => initializeModuleData_formInvariant (hinv.fresh hst) hi,
      fun _ _ => rfl⟩
  · exact ⟨hinv.fresh, hinv.form, hinv.started⟩
  · exact ⟨fun h' => (by cases h'), hinv.form,
      fun _ _ => hinv.started (by simp [hst]) (by simp [hst])⟩
  · have hinit : s.initialized = true := hinv.started (by simp [hst]) (by simp [hst])
    obtain ⟨cred, nState, heq, hn⟩ := advanceCredentials_frame (recordTryLogin s o) i.next
    rw [heq]
    refine ⟨fun h' => ?_, fun _ => (tryLogin_form (hinv.form hinit) ht).1, fun _ _ => hinit⟩
    rcases hn with rfl | rfl | rfl
    · rcases tryLogin_nState ht with h1 | h1 <;> simp [recordTryLogin, h1] at h'
    all_goals cases h'
  · exact ⟨fun h' => (by cases h'), hinv.form, fun _ h2 => absurd rfl h2⟩

theorem Reachable.runInvariant {ext : External} {server : Server} {s : Sys}
    (hs : Reachable ext server s) : RunInvariant s := by
  induction hs with
  | start o login first => exact initModuleStart_runInvariant o login first
  | step i _ h ih => exact ih.step h

theorem Reachable.formType_ne_unknown {ext : External} {server : Server} {s : Sys}
    (hs : Reachable ext server s) (hinit : s.initialized = true) : s.md.formType ≠ .unknown := by
  rcases (hs.runInvariant.form hinit).formType with h | h <;> simp [h]

theorem Reachable.denySignal_ne_none {ext : External} {server : Server} {s : Sys}
    (hs : Reachable ext server s) (hinit : s.initialized = true) : s.md.denySignal ≠ none := by
  induction hs with
  | start o login first => simp [initModuleStart] at hinit
  | @step s s' i _ h ih =>
    rcases step_cases h with ⟨-, rfl⟩ | ⟨-, -, rfl⟩ | ⟨-, -, md, hi, rfl⟩ | ⟨-, -, -, rfl⟩ |
      ⟨-, -, -, rfl⟩ | ⟨-, -, user, o, ht, rfl⟩ | ⟨-, -, rfl⟩
    · exact ih hinit
    · exact ih hinit
    · exact initializeModuleData_denySignal hi
    · exact ih hinit
    · exact ih hinit
    · obtain ⟨cred, nState, heq, -⟩ := advanceCredentials_frame (recordTryLogin s o) i.next
      rw [heq] at hinit ⊢
      exact (tryLogin_denySignal ht).trans_ne (ih hinit)
    · exact ih hinit

/-- In every state reachable after `MSTATE_INITIALIZE` the form has a known type, two non-empty
keys, and a changed request type only on a GET. Every `tryLogin` call from it changes the form type
only as `FormStep` allows, and never on a 307 or a 308. Neither the `abort()` of
`prepareRequestParamString` nor the unknown-form-type exit of `_request` is reached from it. -/
theorem reachable_formInvariant {ext : External} {server : Server} {s : Sys}
    (hs : Reachable ext server s) (hinit : s.initialized = true) :
    FormInvariant s.md ∧
      (∀ login user pass ex o, tryLogin ext s.md login user pass ex = .ok o →
        FormStep (exchangeStatus ex) s.md o.md ∧
          (exchangeStatus ex = .temporaryRedirect ∨ exchangeStatus ex = .permanentRedirect →
            o.md.formType = s.md.formType)) ∧
      (∀ user pass, prepareRequestParamString s.md user pass ≠ .error .abort) ∧
      ∀ login user pass ex,
        request s.md login user pass ex ≠ .ok ⟨ModuleState.exiting.toInt, login, none, ex.lines⟩ := by
  have hinv := hs.runInvariant.form hinit
  have hknown := hs.formType_ne_unknown hinit
  exact ⟨hinv, fun _ _ _ _ _ ht => (tryLogin_form hinv ht).2,
    fun _ _ => prepareRequestParamString_ne_abort hknown _ _,
    fun _ _ _ _ => request_ne_unknownExit hknown _ _ _ _⟩

def firstPair : NextCredSet := .next ⟨some (ascii "alice"), ascii "secret"⟩ .sameUser

theorem defaultModuleData_reachable :
    ∃ s, Reachable sampleExternal sampleServer s ∧ (s.initialized, s.md) = (true, defaultModuleData) :=
  exists_reachable_of_run (.start noOptions ⟨.unknown, []⟩ firstPair) [⟨0, ⟨0, []⟩, .failure⟩] (by decide)

theorem reachable_formInvariant_default : FormInvariant defaultModuleData := by
  obtain ⟨s, hs, h⟩ := defaultModuleData_reachable
  simp only [Prod.mk.injEq] at h
  exact h.2 ▸ (reachable_formInvariant hs h.1).1

/-! ### The verdict check -/

/-- A pass through `MSTATE_RUNNING` asks the host for the next pair exactly when `iResult` holds
SUCCESS or FAIL after its `tryLogin` call: when the call recorded one, or when it recorded nothing
and the pair before had. -/
theorem running_pass_asks_next_iff {ext : External} {server : Server} {s s' : Sys} {i : Input}
    (hs : Reachable ext server s) (hrun : s.nState = .running) (hret : s.returned = none)
    (h : step ext server s i = .ok s') :
    Event.getNextCredSet ∈ s'.log.drop s.log.length ↔
      reply i.exchange = .accepted ∨
        ((reply i.exchange = .garbled ∨ reply i.exchange = .redirected true) ∧
          s.login.iResult ≠ .unknown) := by
  have hknown := hs.formType_ne_unknown
    (hs.runInvariant.started (by simp [hrun]) (by simp [hrun]))
  obtain ⟨user, o, ht, rfl⟩ := step_running hret hrun h
  obtain ⟨cred, nState, heq, -⟩ := advanceCredentials_frame (recordTryLogin s o) i.next
  have hrec := Reply.records_of_tryLogin hknown ht
  have hasks : Event.getNextCredSet ∈ (advanceCredentials (recordTryLogin s o) i.next).log.drop
      s.log.length ↔ o.login.iResult ≠ .unknown := by
    rw [heq]
    simp only [recordTryLogin]
    split_ifs with hres <;> simp [hres]
  rw [hasks]
  cases hr : reply i.exchange with
  | accepted =>
    obtain ⟨-, v, hv, hl⟩ := hr ▸ hrec
    rcases hv with rfl | rfl <;> simp [hl]
  | redirected located =>
    cases located <;> obtain ⟨-, hl⟩ := hr ▸ hrec <;> simp [hl]
  | garbled | unsent | silent | refused =>
    obtain ⟨-, hl⟩ := hr ▸ hrec
    simp [hl]

def firstAttempt : Sys where
  nState := .running
  hSocket := 3
  md := defaultModuleData
  login := ⟨.unknown, []⟩
  cred := ⟨some (ascii "alice"), ascii "secret"⟩
  initialized := true
  returned := none
  log := [.getNextCredSet, .connect 3]

theorem firstAttempt_reachable : Reachable sampleExternal sampleServer firstAttempt :=
  reachable_of_run (.start noOptions ⟨.unknown, []⟩ firstPair)
    (by decide : run sampleExternal sampleServer (initModuleStart noOptions.moduleData ⟨.unknown, []⟩
      firstPair) [⟨0, ⟨0, []⟩, .failure⟩, ⟨3, ⟨0, []⟩, .failure⟩] = .ok firstAttempt)

theorem running_pass_asks_next_iff_accepted :
    Event.getNextCredSet ∈ [Event.getNextCredSet, .connect 3, .tryLogin [.success],
        .getNextCredSet].drop firstAttempt.log.length ↔
      reply ⟨0, [some (ascii "HTTP/1.1 200 OK\r\n"), some (ascii "Welcome")]⟩ = .accepted ∨
        ((reply ⟨0, [some (ascii "HTTP/1.1 200 OK\r\n"), some (ascii "Welcome")]⟩ = .garbled ∨
            reply ⟨0, [some (ascii "HTTP/1.1 200 OK\r\n"), some (ascii "Welcome")]⟩ =
              .redirected true) ∧
          firstAttempt.login.iResult ≠ .unknown) :=
  running_pass_asks_next_iff firstAttempt_reachable rfl rfl
    (by decide : step sampleExternal sampleServer firstAttempt
      ⟨0, ⟨0, [some (ascii "HTTP/1.1 200 OK\r\n"), some (ascii "Welcome")]⟩, .failure⟩ =
        .ok { firstAttempt with
              nState := .exiting, login := ⟨.success, [(ascii "secret", .success)]⟩,
              log := [.getNextCredSet, .connect 3, .tryLogin [.success], .getNextCredSet] })

/-! ### A password `urlencodeup` cannot encode -/

/-- A pass through `MSTATE_RUNNING` whose password `urlencodeup` writes past its block for faults,
whatever the host answers, unless a redirect has left the request without parameters. -/
theorem running_overflowing_password_faults {ext : External} {server : Server} {s : Sys}
    {user : Bytes} (hs : Reachable ext server s) (hret : s.returned = none)
    (hrun : s.nState = .running) (huser : s.cred.user = some user)
    (hchanged : s.md.changedRequestType = false) (hover : urlencodeOverflows s.cred.pass = true)
    (i : Input) : step ext server s i = .error .outOfBounds := by
  have hinit := hs.runInvariant.started (by simp [hrun]) (by simp [hrun])
  have hu : urlencodeup s.cred.pass = .error .outOfBounds := by rw [urlencodeup_eq, if_pos hover]
  simp [step, hret, hrun, huser, strArg,
    tryLogin_of_urlencodeup (hs.formType_ne_unknown hinit) hchanged hu, bind, Except.bind]

theorem running_overflowing_password_faults_accented :
    ∃ s, Reachable sampleExternal sampleServer s ∧ s.cred.pass = [0xC3, 0xA9] ∧
      step sampleExternal sampleServer s ⟨0, ⟨0, []⟩, .failure⟩ = .error .outOfBounds := by
  obtain ⟨s, hs, h⟩ := exists_reachable_of_run firstAttempt_reachable _
    (by decide : (run sampleExternal sampleServer firstAttempt
      [⟨0, ⟨0, [some (ascii "HTTP/1.1 200 OK\r\n"), some (ascii "Welcome")]⟩,
          .next ⟨some (ascii "alice"), [0xC3, 0xA9]⟩ .sameUser⟩,
        ⟨4, ⟨0, []⟩, .failure⟩]).map
      (fun s => (s.returned, s.nState, s.cred, s.md.changedRequestType)) =
        .ok (none, .running, ⟨some (ascii "alice"), [0xC3, 0xA9]⟩, false))
  simp only [Prod.mk.injEq] at h
  obtain ⟨hret, hrun, hcred, hchanged⟩ := h
  exact ⟨s, hs, by rw [hcred], running_overflowing_password_faults hs hret hrun (by rw [hcred])
    hchanged (by rw [hcred]; decide) _⟩

/-! ### Runs from the defaults -/

/-- A 302 to an absolute path, then a 200: the 302 turns the POST into a GET but leaves
`resourcePathOld` NULL, and the 200 restores the resource path from it. -/
theorem absolute_redirect_then_ok_loses_resourcePath :
    (∃ s, Reachable sampleExternal sampleServer s ∧ (s.initialized, s.md) = (true, defaultModuleData)) ∧
      (tryLogin sampleExternal defaultModuleData ⟨.unknown, []⟩ (ascii "alice") (ascii "secret")
          ⟨0, [some (ascii "HTTP/1.1 302 Found\r\nLocation: /app/home\r\n\r\n")]⟩ >>= fun o =>
        tryLogin sampleExternal o.md o.login (ascii "alice") (ascii "secret")
          ⟨0, [some (ascii "HTTP/1.1 200 OK\r\n"), some (ascii "Welcome")]⟩).map (·.md) =
        .ok { defaultModuleData with resourcePath := none } :=
  ⟨defaultModuleData_reachable, by decide⟩

/-- The same 302 and 200 in a run, then a new connection for the next pair: its attempt hands the
NULL resource path to the first `%s` of the request format. -/
theorem absolute_redirect_then_ok_null_resourcePath :
    ∃ s, Reachable sampleExternal sampleServer s ∧
      step sampleExternal sampleServer s ⟨0, ⟨0, []⟩, .failure⟩ = .error .nullDeref :=
  exists_reachable_of_run firstAttempt_reachable
    [⟨0, ⟨0, [some (ascii "HTTP/1.1 302 Found\r\nLocation: /app/home\r\n\r\n")]⟩, .failure⟩,
      ⟨4, ⟨0, []⟩, .failure⟩,
      ⟨0, ⟨0, [some (ascii "HTTP/1.1 200 OK\r\n"), some (ascii "Welcome")]⟩,
        .next ⟨some (ascii "alice"), ascii "p2"⟩ .sameUser⟩,
      ⟨5, ⟨0, []⟩, .failure⟩]
    (by decide)

/-- A 302 to an absolute path sets the changed request type and leaves `resourcePathOld` NULL; a
307 to a relative path fills `resourcePathOld` and leaves the request type as it was. -/
theorem redirect_decouples_old_path_and_changed_type :
    (∃ s, Reachable sampleExternal sampleServer s ∧
      (s.initialized, s.md.changedRequestType, s.md.resourcePathOld) = (true, true, none)) ∧
    ∃ s, Reachable sampleExternal sampleServer s ∧
      (s.initialized, s.md.changedRequestType, s.md.resourcePathOld) = (true, false, some (ascii "/")) :=
  ⟨exists_reachable_of_run firstAttempt_reachable
    [⟨0, ⟨0, [some (ascii "HTTP/1.1 302 Found\r\nLocation: /app/home\r\n\r\n")]⟩, .failure⟩]
    (by decide),
  exists_reachable_of_run firstAttempt_reachable
    [⟨0, ⟨0, [some (ascii "HTTP/1.1 307 Temporary Redirect\r\nLocation: login\r\n\r\n")]⟩,
        .failure⟩]
    (by decide)⟩

/-- A first pair accepted with a 200, then a second pair that draws a redirect: the redirect
records nothing, but `iResult` still holds the first pair's SUCCESS, so `initModule` asks for a
third pair and the second is never tried again. -/
theorem redirect_after_verdict_skips_pair :
    ∃ s, Reachable sampleExternal sampleServer s ∧
      (s.log, s.login.verdicts, s.cred.pass) =
        ([.getNextCredSet, .connect 3, .tryLogin [.success], .getNextCredSet, .disconnect 3, .connect 4,
          .tryLogin [], .getNextCredSet], [(ascii "secret", .success)], ascii "p3") :=
  exists_reachable_of_run firstAttempt_reachable
    [⟨0, ⟨0, [some (ascii "HTTP/1.1 200 OK\r\n"), some (ascii "Welcome")]⟩,
        .next ⟨some (ascii "alice"), ascii "p2"⟩ .sameUser⟩,
      ⟨4, ⟨0, []⟩, .failure⟩,
      ⟨0, ⟨0, [some (ascii "HTTP/1.1 302 Found\r\nLocation: /app/home\r\n\r\n")]⟩,
        .next ⟨some (ascii "alice"), ascii "p3"⟩ .sameUser⟩]
    (by decide)

/-- A first buffer with no space: `tryLogin` returns `MSTATE_EXITING` and records no verdict. -/
theorem status_line_without_space_records_nothing :
    ∃ s, Reachable sampleExternal sampleServer s ∧
      (s.nState, s.login.verdicts, s.log) =
        (.exiting, [], [.getNextCredSet, .connect 3, .tryLogin []]) :=
  exists_reachable_of_run firstAttempt_reachable [⟨0, ⟨0, [some (ascii "garbage")]⟩, .failure⟩]
    (by decide)

end MedusaWebForm
