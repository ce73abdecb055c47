import MedusaWebForm.Run

/-!
# The connections of a run

`initModule` holds one socket at a time in `hSocket`: `MSTATE_NEW` closes the descriptor it holds
before it opens the next, `MSTATE_EXITING` closes it before `MSTATE_COMPLETE`, and both close only a
descriptor above 0, so a connection on descriptor 0 is never closed (`descriptor_zero_left_open`).
When the connect function never returns 0, every run keeps at most one connection open and returns
with none (`run_connections`), and in every reachable state each `tryLogin` call comes right after a
connect that returned a descriptor (`reachable_attempt_after_connect`).
-/

namespace MedusaWebForm

@[simp] theorem openConnections_append_connect (log : List Event) (c : Int) :
    openConnections (log ++ [.connect c]) =
      if 0 ≤ c then openConnections log ++ [c] else openConnections log := by
  simp [openConnections]

@[simp] theorem openConnections_append_disconnect (log : List Event) (c : Int) :
    openConnections (log ++ [.disconnect c]) = (openConnections log).erase c := by
  simp [openConnections]

@[simp] theorem openConnections_append_getNextCredSet (log : List Event) :
    openConnections (log ++ [.getNextCredSet]) = openConnections log := by
  simp [openConnections]

@[simp] theorem openConnections_append_tryLogin (log : List Event) (verdicts : List LoginResult) :
    openConnections (log ++ [.tryLogin verdicts]) = openConnections log := by
  simp [openConnections]

/-- Every connect of the log comes when no connection is open. -/
def OpensWhenClosed (log : List Event) : Prop :=
  ∀ pre c rest, log = pre ++ Event.connect c :: rest → openConnections pre = []

theorem opensWhenClosed_nil : OpensWhenClosed [] := fun pre c rest h => by simp at h

theorem splits_append {log : List Event} {P : List Event → Event → Prop}
    (h : ∀ pre e rest, log = pre ++ e :: rest → P pre e) {e : Event} (he : P log e) :
    ∀ pre e' rest, log ++ [e] = pre ++ e' :: rest → P pre e' := by
  intro pre e' rest heq
  rcases List.eq_nil_or_concat rest with rfl | ⟨rest, last, rfl⟩
  · obtain ⟨rfl, he'⟩ := List.append_inj' heq rfl
    obtain rfl : e = e' := by simpa using he'
    exact he
  · have heq' : log ++ [e] = (pre ++ e' :: rest) ++ [last] := by simp [heq]
    exact h pre e' rest (List.append_inj' heq' rfl).1

theorem OpensWhenClosed.append {log : List Event} (h : OpensWhenClosed log) (e : Event)
    (he : ∀ c, e = .connect c → openConnections log = []) : OpensWhenClosed (log ++ [e]) := by
  intro pre c rest heq
  rcases List.eq_nil_or_concat rest with rfl | ⟨rest, last, rfl⟩
  · obtain ⟨rfl, he'⟩ := List.append_inj' heq rfl
    exact he c (by simpa using he')
  · have heq' : log ++ [e] = (pre ++ Event.connect c :: rest) ++ [last] := by simp [heq]
    exact h pre c rest (List.append_inj' heq' rfl).1

/-! ### The invariant -/

/-- What every pass keeps when the connect function never returns 0. -/
structure ConnInvariant (s : Sys) : Prop where
  /-- The connections the log leaves open are the descriptor `hSocket` holds, when it is above 0. -/
  tracked : openConnections s.log = if 0 < s.hSocket then [s.hSocket] else []
  /-- No descriptor is held once `MSTATE_COMPLETE` is reached or `initModule` has returned. -/
  closed : s.nState = .complete ∨ s.returned.isSome → s.hSocket < 0
  opens : OpensWhenClosed s.log

theorem ConnInvariant.disconnect {s : Sys} (hinv : ConnInvariant s) :
    openConnections (disconnectIfOpen s).log = [] ∧ OpensWhenClosed (disconnectIfOpen s).log := by
  have htr := hinv.tracked
  rw [disconnectIfOpen_eq]
  split_ifs at htr ⊢ with hpos
  · exact ⟨by simp [htr], hinv.opens.append _ fun _ h => by cases h⟩
  · exact ⟨by simpa using htr, by simpa using hinv.opens⟩

theorem initModuleStart_connInvariant (md : ModuleData) (login : LoginRecord)
    (first : NextCredSet) : ConnInvariant (initModuleStart md login first) := by
  have hopens : OpensWhenClosed [Event.getNextCredSet] :=
    opensWhenClosed_nil.append _ fun _ h => by cases h
  cases first <;> exact ⟨by simp [initModuleStart, openConnections], fun _ => by
    simp [initModuleStart], hopens⟩

theorem ConnInvariant.step {ext : External} {server : Server} {s s' : Sys} {i : Input}
    (hinv : ConnInvariant s) (hc : i.connect ≠ 0) (h : step ext server s i = .ok s') :
    ConnInvariant s' := by
  obtain ⟨hclosed, hopens⟩ := hinv.disconnect
  rcases step_cases h with ⟨-, rfl⟩ | ⟨-, hst, rfl⟩ | ⟨hr, -, -, -, rfl⟩ | ⟨-, -, hneg, rfl⟩ |
    ⟨hr, -, hle, rfl⟩ | ⟨hr, -, user, o, ht, rfl⟩ | ⟨-, -, rfl⟩
  · exact hinv
  · exact ⟨hinv.tracked, fun _ => hinv.closed (.inl hst), hinv.opens⟩
  · exact ⟨hinv.tracked, fun h' => by simp [hr] at h', hinv.opens⟩
  · have h1 : ¬0 ≤ i.connect := by omega
    have h2 : ¬0 < i.connect := by omega
    exact ⟨by simp [hclosed, h1, h2], fun _ => hneg, hopens.append _ fun _ _ => hclosed⟩
  · have hpos : 0 < i.connect := by omega
    exact ⟨by simp [hclosed, hle, hpos], fun h' => by simp [hr] at h',
      hopens.append _ fun _ _ => hclosed⟩
  · obtain ⟨cred, nState, heq, hn⟩ := advanceCredentials_frame (recordTryLogin s o) i.next
    have hcomplete : nState ≠ .complete := by
      rcases hn with rfl | rfl | rfl
      · rcases tryLogin_nState ht with h1 | h1 <;> simp [recordTryLogin, h1]
      all_goals decide
    have hlogged : OpensWhenClosed (s.log ++ [.tryLogin ((o.login.verdicts.drop
        s.login.verdicts.length).map Prod.snd)]) := hinv.opens.append _ fun _ h => by cases h
    rw [heq]
    dsimp only [recordTryLogin]
    refine ⟨?_, fun h' => by simp [hcomplete, hr] at h', ?_⟩
    all_goals by_cases hres : o.login.iResult = .unknown
    · rw [if_neg (not_not.mpr hres), List.append_nil, openConnections_append_tryLogin, hinv.tracked]
    · rw [if_pos hres, openConnections_append_getNextCredSet, openConnections_append_tryLogin,
        hinv.tracked]
    · rw [if_neg (not_not.mpr hres), List.append_nil]
      exact hlogged
    · rw [if_pos hres]
      exact hlogged.append _ fun _ h => by cases h
  · exact ⟨by simpa using hclosed, fun _ => show (-1 : Int) < 0 by decide, hopens⟩

/-- When the connect function never returns 0, every run of `initModule` keeps at most one
connection open, opens each connection only when none is open, and has none open once it has
returned. -/
theorem run_connections {ext : External} {server : Server} (o : Options) (login : LoginRecord)
    (first : NextCredSet) (is : List Input) (hnz : ∀ i ∈ is, i.connect ≠ 0) {s : Sys}
    (h : run ext server (initModuleStart o.moduleData login first) is = .ok s) :
    (openConnections s.log).length ≤ 1 ∧ OpensWhenClosed s.log ∧
      (s.returned.isSome → openConnections s.log = []) := by
  have hinv : ConnInvariant s :=
    run_invariant (fun _ _ i hi hs hstep => hs.step (hnz i hi) hstep)
      (initModuleStart_connInvariant _ _ _) h
  refine ⟨?_, hinv.opens, fun hr => ?_⟩
  · rw [hinv.tracked]
    split <;> simp
  · have hneg := hinv.closed (.inr hr)
    rw [hinv.tracked, if_neg (by omega : ¬0 < s.hSocket)]

theorem run_connections_unauthorized :
    (openConnections [.getNextCredSet, .connect 3, .tryLogin [.unknown], .disconnect 3]).length ≤ 1 ∧
      OpensWhenClosed [.getNextCredSet, .connect 3, .tryLogin [.unknown], .disconnect 3] ∧
      ((some ReturnCode.success).isSome →
        openConnections [.getNextCredSet, .connect 3, .tryLogin [.unknown], .disconnect 3] = []) :=
  run_connections noOptions ⟨.unknown, []⟩ firstPair
    [⟨3, ⟨0, []⟩, .failure⟩, ⟨3, ⟨0, []⟩, .failure⟩,
      ⟨3, ⟨0, [some (ascii "HTTP/1.1 401 Unauthorized\r\n")]⟩, .failure⟩,
      ⟨3, ⟨0, []⟩, .failure⟩, ⟨3, ⟨0, []⟩, .failure⟩]
    (by decide)
    (by decide : run sampleExternal sampleServer (initModuleStart noOptions.moduleData ⟨.unknown, []⟩
      firstPair) [⟨3, ⟨0, []⟩, .failure⟩, ⟨3, ⟨0, []⟩, .failure⟩,
        ⟨3, ⟨0, [some (ascii "HTTP/1.1 401 Unauthorized\r\n")]⟩, .failure⟩,
        ⟨3, ⟨0, []⟩, .failure⟩, ⟨3, ⟨0, []⟩, .failure⟩] =
      .ok { nState := .complete, hSocket := -1, md := defaultModuleData,
            login := ⟨.unknown, [(ascii "secret", .unknown)]⟩,
            cred := ⟨some (ascii "alice"), ascii "secret"⟩, initialized := true,
            returned := some .success,
            log := [.getNextCredSet, .connect 3, .tryLogin [.unknown], .disconnect 3] })

/-! ### One request per connection -/

/-- Every attempt of the log comes right after a connect that returned a descriptor. -/
def AttemptsAfterConnect (log : List Event) : Prop :=
  ∀ pre vs rest, log = pre ++ Event.tryLogin vs :: rest →
    ∃ c, 0 ≤ c ∧ pre.getLast? = some (.connect c)

theorem AttemptsAfterConnect.append {log : List Event} (h : AttemptsAfterConnect log) (e : Event)
    (he : ∀ vs, e = .tryLogin vs → ∃ c, 0 ≤ c ∧ log.getLast? = some (.connect c)) :
    AttemptsAfterConnect (log ++ [e]) := by
  have := splits_append (P := fun pre e => ∀ vs, e = .tryLogin vs →
    ∃ c, 0 ≤ c ∧ pre.getLast? = some (.connect c))
    (fun pre e rest heq vs hvs => h pre vs rest (hvs ▸ heq)) he
  exact fun pre vs rest heq => this pre _ rest heq vs rfl

/-- What every pass keeps: the attempts of the log, and in `MSTATE_RUNNING` the connect just made. -/
structure FreshConnection (s : Sys) : Prop where
  attempts : AttemptsAfterConnect s.log
  running : s.returned = none → s.nState = .running →
    0 ≤ s.hSocket ∧ s.log.getLast? = some (.connect s.hSocket)

theorem initModuleStart_freshConnection (md : ModuleData) (login : LoginRecord)
    (first : NextCredSet) : FreshConnection (initModuleStart md login first) := by
  have hnil : AttemptsAfterConnect [] := fun pre vs rest h => by simp at h
  cases first <;> refine ⟨hnil.append _ fun _ h => (by cases h), fun _ h => ?_⟩
  · cases h
  · simp only [initModuleStart] at h
    split_ifs at h

theorem FreshConnection.step {ext : External} {server : Server} {s s' : Sys} {i : Input}
    (hinv : FreshConnection s) (h : step ext server s i = .ok s') : FreshConnection s' := by
  have hdisc : AttemptsAfterConnect (disconnectIfOpen s).log := by
    rw [disconnectIfOpen_eq]
    split_ifs
    · exact hinv.attempts.append _ fun _ h => by cases h
    · simpa using hinv.attempts
  rcases step_cases h with ⟨-, rfl⟩ | ⟨-, -, rfl⟩ | ⟨-, -, md, -, rfl⟩ | ⟨-, -, -, rfl⟩ |
    ⟨-, -, hle, rfl⟩ | ⟨hr, hst, user, o, ht, rfl⟩ | ⟨-, -, rfl⟩
  · exact hinv
  · exact ⟨hinv.attempts, fun h' => by cases h'⟩
  · exact ⟨hinv.attempts, fun _ h' => by cases h'⟩
  · exact ⟨hdisc.append _ fun _ h => (by cases h), fun h' => by cases h'⟩
  · exact ⟨hdisc.append _ fun _ h => (by cases h), fun _ _ => ⟨hle, by simp⟩⟩
  · obtain ⟨hle, hlast⟩ := hinv.running hr hst
    have hn := advanceCredentials_recordTryLogin_nState (s := s) (tryLogin_nState ht) i.next
    have hlogged : AttemptsAfterConnect (recordTryLogin s o).log :=
      hinv.attempts.append _ fun _ _ => ⟨_, hle, hlast⟩
    obtain ⟨cred, nState, heq, -⟩ := advanceCredentials_frame (recordTryLogin s o) i.next
    rw [heq] at hn ⊢
    refine ⟨?_, fun _ h' => by rcases hn with h'' | h'' <;> rw [h''] at h' <;> cases h'⟩
    split_ifs
    · exact hlogged.append _ fun _ h => by cases h
    · simpa using hlogged
  · exact ⟨hdisc, fun _ h' => by cases h'⟩

theorem Reachable.freshConnection {ext : External} {server : Server} {s : Sys}
    (hs : Reachable ext server s) : FreshConnection s := by
  induction hs with
  | start o login first => exact initModuleStart_freshConnection _ login first
  | step i _ h ih => exact ih.step h

/-- In every reachable state of `initModule`, whatever the server answers and the connect function
returns, each `tryLogin` call of the log comes right after a connect that returned a descriptor. -/
theorem reachable_attempt_after_connect {ext : External} {server : Server} {s : Sys}
    (hs : Reachable ext server s) (pre : List Event) (vs : List LoginResult) (rest : List Event)
    (hlog : s.log = pre ++ Event.tryLogin vs :: rest) :
    ∃ c, 0 ≤ c ∧ pre.getLast? = some (.connect c) :=
  hs.freshConnection.attempts pre vs rest hlog

theorem reachable_attempt_after_connect_accepted :
    ∃ c, 0 ≤ c ∧ [Event.getNextCredSet, .connect 3].getLast? = some (.connect c) :=
  reachable_attempt_after_connect
    (firstAttempt_reachable.step
      ⟨0, ⟨0, [some (ascii "HTTP/1.1 200 OK\r\n"), some (ascii "Welcome")]⟩, .failure⟩
      (rfl : step sampleExternal sampleServer firstAttempt
          ⟨0, ⟨0, [some (ascii "HTTP/1.1 200 OK\r\n"), some (ascii "Welcome")]⟩, .failure⟩ =
        .ok { firstAttempt with
              nState := .exiting, login := ⟨.success, [(ascii "secret", .success)]⟩,
              log := [.getNextCredSet, .connect 3, .tryLogin [.success], .getNextCredSet] }))
    [.getNextCredSet, .connect 3] [.success] [.getNextCredSet] rfl

/-! ### Descriptor 0 -/

/-- A connection on descriptor 0 that ends in a 401: `MSTATE_EXITING` closes only descriptors
above 0, so `initModule` returns with the connection open. -/
theorem descriptor_zero_left_open :
    ∃ s, Reachable sampleExternal sampleServer s ∧
      (s.returned, openConnections s.log) = (some .success, [0]) :=
  exists_reachable_of_run (.start noOptions ⟨.unknown, []⟩ firstPair)
    [⟨0, ⟨0, []⟩, .failure⟩, ⟨0, ⟨0, []⟩, .failure⟩,
      ⟨0, ⟨0, [some (ascii "HTTP/1.1 401 Unauthorized\r\n")]⟩, .failure⟩,
      ⟨0, ⟨0, []⟩, .failure⟩, ⟨0, ⟨0, []⟩, .failure⟩]
    (by decide)


end MedusaWebForm
