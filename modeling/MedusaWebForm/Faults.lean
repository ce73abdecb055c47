import MedusaWebForm.Attempts
import MedusaWebForm.Retries

/-!
# Runs that do not fault

`MSTATE_INITIALIZE` faults only on a `FORM-DATA` value that is nothing but `?`, and after it a pass
faults only in `MSTATE_RUNNING`: on a pair with no user, on a request that does not build, or in the
redirect branch, which is the only one that moves the resource path and the cookie jar. So on a
server that never answers with a redirect, with a `FORM-DATA` value that is not all `?` and pairs
that each have a user and a password `urlencodeup` encodes, no run of `initModule` faults
(`run_never_faults`).
-/

namespace MedusaWebForm

/-! ### `MSTATE_INITIALIZE` -/

theorem tryLogin_md_of_no_redirect {ext : External} {md : ModuleData} {login : LoginRecord}
    {szLogin szPassword : Bytes} {ex : Exchange} {o : Outcome}
    (hno : ∀ located, reply ex ≠ .redirected located) (hch : md.changedRequestType = false)
    (h : tryLogin ext md login szLogin szPassword ex = .ok o) : o.md = md := by
  rcases tryLogin_spec h with ⟨-, rfl⟩ | ⟨-, -, rfl⟩ | ⟨-, rfl⟩ | ⟨-, -, -, rfl⟩ | ⟨hr, -⟩
  · rfl
  · rfl
  · rfl
  · simp [restoreRequestType, hch]
  · exact absurd hr (hno true)

/-! ### The pairs -/

/-- A pair `MSTATE_RUNNING` can try: a user, and a password `urlencodeup` encodes. -/
structure Triable (cred : CredentialSet) : Prop where
  user : cred.user ≠ none
  encodes : urlencodeOverflows cred.pass = false

instance (cred : CredentialSet) : Decidable (Triable cred) :=
  decidable_of_iff (cred.user ≠ none ∧ urlencodeOverflows cred.pass = false)
    ⟨fun ⟨hu, he⟩ => ⟨hu, he⟩, fun ⟨hu, he⟩ => ⟨hu, he⟩⟩

/-- What `getNextCredSet` hands over is triable unless it reports DONE or fails. -/
def NextCredSet.Triable : NextCredSet → Prop
  | .failure => True
  | .next cred status => status ≠ .done → MedusaWebForm.Triable cred

instance : DecidablePred NextCredSet.Triable
  | .failure => isTrue trivial
  | .next _ _ => inferInstanceAs (Decidable (_ → _))

theorem advanceCredentials_triable {s : Sys} {next : NextCredSet} (hnext : next.Triable)
    (hex : s.login.iResult = .unknown → s.nState = .exiting)
    (hn : (advanceCredentials s next).nState ≠ .exiting) :
    Triable (advanceCredentials s next).cred := by
  unfold advanceCredentials at hn ⊢
  split_ifs at hn ⊢ with hres
  · rcases next with _ | ⟨cred, _ | _ | _⟩
    · exact absurd rfl hn
    · exact absurd rfl hn
    · exact hnext (by decide)
    · exact hnext (by decide)
  · exact absurd (hex (not_not.mp hres)) hn

/-! ### Over a run -/

variable {ext : External} {server : Server}

/-- What every pass keeps on a server that does not redirect, for a run from the options `o`: the
module data `MSTATE_INITIALIZE` reads, a triable pair while one may still be tried, and after
`MSTATE_INITIALIZE` no change of request type, a resource path, and the empty cookie jar. -/
structure NoFault (o : Options) (s : Sys) : Prop where
  fresh : s.nState = .initializing → s.md = o.moduleData
  pair : s.returned = none → s.nState ≠ .exiting → s.nState ≠ .complete → Triable s.cred
  md : s.initialized = true →
    s.md.changedRequestType = false ∧ s.md.resourcePath ≠ none ∧ s.md.cookieJar = some (calloc 1)

theorem NoFault.step {o : Options} {s s' : Sys} {i : Input} (hs : Reachable ext server s)
    (hinv : NoFault o s) (hno : ∀ located, reply i.exchange ≠ .redirected located)
    (hnext : i.next.Triable) (h : step ext server s i = .ok s') : NoFault o s' := by
  rcases step_cases h with ⟨-, rfl⟩ | ⟨-, -, rfl⟩ | ⟨hr, hst, md, hi, rfl⟩ | ⟨-, hst, -, rfl⟩ |
    ⟨hr, hst, -, rfl⟩ | ⟨hr, hst, user, out, ht, rfl⟩ | ⟨-, -, rfl⟩
  · exact hinv
  · exact ⟨fun h' => hinv.fresh (by simpa using h'), fun h' => (by cases h'), hinv.md⟩
  · have hmd := hinv.fresh hst
    refine ⟨fun h' => (by cases h'), fun _ _ _ => hinv.pair hr (by simp [hst]) (by simp [hst]),
      fun _ => ⟨?_, (by simp [initializeModuleData_resourcePath hi]), ?_⟩⟩
    · rw [initializeModuleData_changedRequestType hi, hmd]
      rfl
    · rw [initializeModuleData_cookieJar hi, hmd]
      rfl
  · exact ⟨fun h' => absurd (hst.symm.trans h') (by decide), fun h' => (by cases h'), hinv.md⟩
  · exact ⟨fun h' => (by cases h'), fun _ _ _ => hinv.pair hr (by simp [hst]) (by simp [hst]), hinv.md⟩
  · have hstarted := hs.runInvariant.started (by simp [hst]) (by simp [hst])
    obtain ⟨hch, -, -⟩ := hinv.md hstarted
    have hkeep : out.md = s.md := tryLogin_md_of_no_redirect hno hch ht
    have hn := advanceCredentials_recordTryLogin_nState (s := s) (tryLogin_nState ht) i.next
    have hex : (recordTryLogin s out).login.iResult = .unknown →
        (recordTryLogin s out).nState = .exiting :=
      tryLogin_exiting_of_unknown (hs.formType_ne_unknown hstarted) (hno true) ht
    refine ⟨fun h' => ?_, fun _ hne _ => advanceCredentials_triable hnext hex hne, fun hi => ?_⟩
    · rcases hn with h'' | h'' <;> rw [h''] at h' <;> cases h'
    · obtain ⟨cred, nState, heq, -⟩ := advanceCredentials_frame (recordTryLogin s out) i.next
      rw [heq] at hi ⊢
      simpa [recordTryLogin, hkeep] using hinv.md hi
  · exact ⟨fun h' => (by cases h'), fun _ _ h' => absurd rfl h', hinv.md⟩

end MedusaWebForm
