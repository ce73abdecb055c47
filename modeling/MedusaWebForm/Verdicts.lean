import Mathlib.Algebra.BigOperators.Group.List
import Mathlib.Algebra.Order.Ring.Nat
import MedusaWebForm.Run

/-!
# One verdict for each pair

The host hands `initModule` a pair with each call of `getNextCredSet` and hears a verdict with each
call of `setPassResult`. One `tryLogin` call records at most one verdict, and the check after it asks
for the next pair whenever `iResult` holds SUCCESS or FAIL, so no pair gets two verdicts, however the
server answers (`reachable_oneVerdictPerPair`); a pair may get none, when a redirect after a verdict
asks for the next pair on the strength of the verdict before it.
-/

namespace MedusaWebForm

variable {ext : External} {server : Server}

/-! ### Counting between two pairs -/

def countSinceAsk (f : Event → Nat) (log : List Event) : Nat :=
  log.foldl (fun n e => if e = .getNextCredSet then 0 else n + f e) 0

@[simp] theorem countSinceAsk_append_singleton (f : Event → Nat) (log : List Event) (e : Event) :
    countSinceAsk f (log ++ [e]) = if e = .getNextCredSet then 0 else countSinceAsk f log + f e := by
  simp [countSinceAsk]

theorem countSinceAsk_append (f : Event → Nat) {pre seg : List Event}
    (h : Event.getNextCredSet ∉ seg) :
    countSinceAsk f (pre ++ seg) = countSinceAsk f pre + (seg.map f).sum := by
  induction seg using List.reverseRecOn with
  | nil => simp
  | append_singleton seg e ih =>
    have he : e ≠ .getNextCredSet := fun he => h (by simp [he])
    rw [← List.append_assoc, countSinceAsk_append_singleton, if_neg he,
      ih fun h' => h (List.mem_append_left _ h')]
    simp [Nat.add_assoc]

/-- Between two calls of `getNextCredSet`, `f` counts at most one on the log. -/
def AtMostOnePerPair (f : Event → Nat) (log : List Event) : Prop :=
  ∀ pre seg post, log = pre ++ seg ++ post → Event.getNextCredSet ∉ seg → (seg.map f).sum ≤ 1

theorem AtMostOnePerPair.append {f : Event → Nat} {log : List Event} (h : AtMostOnePerPair f log)
    (e : Event) (he : e ≠ .getNextCredSet → countSinceAsk f log + f e ≤ 1) :
    AtMostOnePerPair f (log ++ [e]) := by
  intro pre seg post heq hseg
  rcases List.eq_nil_or_concat post with rfl | ⟨post, last, rfl⟩
  · rcases List.eq_nil_or_concat seg with rfl | ⟨seg, x, rfl⟩
    · simp
    · rw [List.concat_eq_append] at hseg ⊢
      have heq' : log ++ [e] = (pre ++ seg) ++ [x] := by simpa using heq
      obtain ⟨hlog, hx⟩ := List.append_inj' heq' rfl
      obtain rfl : e = x := by simpa using hx
      have hbound := he fun h' => hseg (by simp [h'])
      rw [hlog, countSinceAsk_append f fun h' => hseg (List.mem_append_left _ h')] at hbound
      simp only [List.map_append, List.sum_append, List.map_cons, List.map_nil, List.sum_cons,
        List.sum_nil]
      omega
  · have heq' : log ++ [e] = (pre ++ seg ++ post) ++ [last] := by simpa using heq
    exact h pre seg post (List.append_inj' heq' rfl).1 hseg

theorem atMostOnePerPair_ask (f : Event → Nat) :
    AtMostOnePerPair f [Event.getNextCredSet] ∧ countSinceAsk f [Event.getNextCredSet] = 0 := by
  have hnil : AtMostOnePerPair f [] := fun pre seg post h _ => by
    simp [List.append_eq_nil.mp (List.append_eq_nil.mp h.symm).1]
  exact ⟨hnil.append _ fun h => absurd rfl h, rfl⟩

/-! ### Verdicts -/

def Event.recorded : Event → List LoginResult
  | .tryLogin verdicts => verdicts
  | _ => []

def verdictsSinceAsk (log : List Event) : Nat :=
  log.foldl (fun n e => if e = .getNextCredSet then 0 else n + e.recorded.length) 0

theorem verdictsSinceAsk_eq (log : List Event) :
    verdictsSinceAsk log = countSinceAsk (·.recorded.length) log := rfl

@[simp] theorem verdictsSinceAsk_append_singleton (log : List Event) (e : Event) :
    verdictsSinceAsk (log ++ [e]) =
      if e = .getNextCredSet then 0 else verdictsSinceAsk log + e.recorded.length := by
  simp [verdictsSinceAsk_eq]

/-- Between two calls of `getNextCredSet` the log records at most one verdict. -/
def OneVerdictPerPair (log : List Event) : Prop :=
  ∀ pre seg post, log = pre ++ seg ++ post → Event.getNextCredSet ∉ seg →
    (seg.flatMap Event.recorded).length ≤ 1

theorem oneVerdictPerPair_iff (log : List Event) :
    OneVerdictPerPair log ↔ AtMostOnePerPair (·.recorded.length) log := by
  simp only [OneVerdictPerPair, AtMostOnePerPair, List.length_flatMap]
  rfl

theorem OneVerdictPerPair.append {log : List Event} (h : OneVerdictPerPair log) (e : Event)
    (he : e ≠ .getNextCredSet → verdictsSinceAsk log + e.recorded.length ≤ 1) :
    OneVerdictPerPair (log ++ [e]) :=
  (oneVerdictPerPair_iff _).mpr (((oneVerdictPerPair_iff _).mp h).append e he)

/-! ### One call -/

theorem tryLogin_verdicts {md : ModuleData} {login : LoginRecord} {szLogin szPassword : Bytes}
    {ex : Exchange} {o : Outcome} (hknown : md.formType ≠ .unknown)
    (h : tryLogin ext md login szLogin szPassword ex = .ok o) :
    ∃ vs, o.login.verdicts = login.verdicts ++ vs ∧ vs.length ≤ 1 ∧
      (vs ≠ [] → o.login.iResult = .unknown → o.nState = .exiting) := by
  have hrec := Reply.records_of_tryLogin hknown h
  cases hr : reply ex with
  | accepted =>
    obtain ⟨-, v, hv, hl⟩ := hr ▸ hrec
    refine ⟨[(szPassword, v)], by simp [hl], by simp, fun _ hu => ?_⟩
    rcases hv with rfl | rfl <;> simp [hl] at hu
  | redirected located =>
    cases located <;> obtain ⟨hn, hl⟩ := hr ▸ hrec
    · exact ⟨[(szPassword, .unknown)], by simp [hl], by simp, fun _ _ => hn⟩
    · exact ⟨[], by simp [hl], by simp, fun h _ => absurd rfl h⟩
  | garbled =>
    obtain ⟨-, hl⟩ := hr ▸ hrec
    exact ⟨[], by simp [hl], by simp, fun h _ => absurd rfl h⟩
  | unsent | silent | refused =>
    obtain ⟨hn, hl⟩ := hr ▸ hrec
    exact ⟨[(szPassword, .unknown)], by simp [hl], by simp, fun _ _ => hn⟩

/-! ### The invariant -/

/-- What every pass keeps of the verdicts the log shows. -/
structure VerdictInvariant (s : Sys) : Prop where
  perPair : OneVerdictPerPair s.log
  /-- At most one verdict for the pair in hand. -/
  current : verdictsSinceAsk s.log ≤ 1
  /-- None yet while the module may still try the pair in hand. -/
  pending : s.returned = none → s.nState ≠ .exiting → s.nState ≠ .complete →
    verdictsSinceAsk s.log = 0
  /-- None when a failed connect records its `UNKNOWN`. -/
  failed : s.returned = some .failure → verdictsSinceAsk s.log = 0

theorem OneVerdictPerPair.append_quiet {log : List Event} (h : OneVerdictPerPair log)
    (hc : verdictsSinceAsk log ≤ 1) {e : Event} (he : e.recorded = []) :
    OneVerdictPerPair (log ++ [e]) ∧ verdictsSinceAsk (log ++ [e]) ≤ verdictsSinceAsk log := by
  refine ⟨h.append e fun _ => by simpa [he] using hc, ?_⟩
  rw [verdictsSinceAsk_append_singleton]
  split <;> simp [he]

theorem VerdictInvariant.disconnect {s : Sys} (hinv : VerdictInvariant s) :
    OneVerdictPerPair (disconnectIfOpen s).log ∧
      verdictsSinceAsk (disconnectIfOpen s).log = verdictsSinceAsk s.log := by
  rw [disconnectIfOpen_eq]
  split_ifs
  · obtain ⟨hp, -⟩ := hinv.perPair.append_quiet hinv.current (e := .disconnect s.hSocket) rfl
    exact ⟨hp, by simp [Event.recorded]⟩
  · simpa using hinv.perPair

theorem initModuleStart_verdictInvariant (md : ModuleData) (login : LoginRecord)
    (first : NextCredSet) : VerdictInvariant (initModuleStart md login first) := by
  obtain ⟨hone, h0⟩ := atMostOnePerPair_ask (·.recorded.length)
  cases first <;> exact ⟨(oneVerdictPerPair_iff _).mpr hone, h0.le.trans (Nat.zero_le 1),
    fun _ _ _ => h0, fun _ => h0⟩

theorem VerdictInvariant.step {s s' : Sys} {i : Input} (hs : Reachable ext server s)
    (hinv : VerdictInvariant s) (h : step ext server s i = .ok s') : VerdictInvariant s' := by
  obtain ⟨hdisc, hdv⟩ := hinv.disconnect
  rcases step_cases h with ⟨-, rfl⟩ | ⟨hr, -, rfl⟩ | ⟨hr, hst, md, -, rfl⟩ | ⟨hr, hst, -, rfl⟩ |
    ⟨hr, hst, -, rfl⟩ | ⟨hr, hst, user, o, ht, rfl⟩ | ⟨hr, -, rfl⟩
  · exact hinv
  · exact ⟨hinv.perPair, hinv.current, fun h' => (by cases h'), fun h' => (by cases h')⟩
  · exact ⟨hinv.perPair, hinv.current, fun _ _ _ => hinv.pending hr (by simp [hst]) (by simp [hst]),
      fun h' => by simp [hr] at h'⟩
  · have h0 := hinv.pending hr (by simp [hst]) (by simp [hst])
    obtain ⟨hp, hle⟩ := hdisc.append_quiet (by omega) (e := .connect i.connect) rfl
    have h0' : verdictsSinceAsk ((disconnectIfOpen s).log ++ [.connect i.connect]) = 0 := by omega
    exact ⟨hp, h0'.le.trans (Nat.zero_le 1), fun h' => (by cases h'), fun _ => h0'⟩
  · have h0 := hinv.pending hr (by simp [hst]) (by simp [hst])
    obtain ⟨hp, hle⟩ := hdisc.append_quiet (by omega) (e := .connect i.connect) rfl
    have h0' : verdictsSinceAsk ((disconnectIfOpen s).log ++ [.connect i.connect]) = 0 := by omega
    exact ⟨hp, h0'.le.trans (Nat.zero_le 1), fun _ _ _ => h0', fun h' => by simp [hr] at h'⟩
  · have hknown := hs.formType_ne_unknown
      (hs.runInvariant.started (by simp [hst]) (by simp [hst]))
    have h0 := hinv.pending hr (by simp [hst]) (by simp [hst])
    obtain ⟨vs, hvs, hlen, hexit⟩ := tryLogin_verdicts hknown ht
    have hrec : OneVerdictPerPair (recordTryLogin s o).log ∧
        verdictsSinceAsk (recordTryLogin s o).log = vs.length := by
      have hevent : (Event.tryLogin ((o.login.verdicts.drop s.login.verdicts.length).map
          Prod.snd)).recorded.length = vs.length := by simp [Event.recorded, hvs]
      refine ⟨hinv.perPair.append _ fun _ => by omega, ?_⟩
      simp only [recordTryLogin, verdictsSinceAsk_append_singleton, reduceCtorEq, if_false]
      omega
    by_cases hres : o.login.iResult = .unknown
    · have hadv : advanceCredentials (recordTryLogin s o) i.next = recordTryLogin s o := by
        simp [advanceCredentials, recordTryLogin, hres]
      rw [hadv]
      refine ⟨hrec.1, hrec.2 ▸ hlen, fun _ hn _ => ?_, fun h' => by simp [recordTryLogin, hr] at h'⟩
      rw [hrec.2, List.length_eq_zero]
      exact by_contra fun hvs' => hn (hexit hvs' hres)
    · obtain ⟨cred, nState, heq, -⟩ := advanceCredentials_frame (recordTryLogin s o) i.next
      have hask : (recordTryLogin s o).login.iResult ≠ .unknown := hres
      rw [heq]
      simp only [hask, ne_eq, not_false_eq_true, if_true]
      obtain ⟨hp, -⟩ := hrec.1.append_quiet (hrec.2 ▸ hlen) (e := .getNextCredSet) rfl
      have h0' : verdictsSinceAsk ((recordTryLogin s o).log ++ [.getNextCredSet]) = 0 := by simp
      exact ⟨hp, h0'.le.trans (Nat.zero_le 1), fun _ _ _ => h0', fun _ => h0'⟩
  · exact ⟨hdisc, hdv ▸ hinv.current, fun _ _ h' => absurd rfl h', fun h' => by simp [hr] at h'⟩

theorem Reachable.verdictInvariant {s : Sys} (hs : Reachable ext server s) : VerdictInvariant s := by
  induction hs with
  | start o login first => exact initModuleStart_verdictInvariant _ login first
  | step i hs h ih => exact ih.step hs h

/-- Over every run, whatever the server answers, the host hears at most one verdict for each pair
it hands over: between two calls of `getNextCredSet` the log shows at most one, and when a failed
connect records its `UNKNOWN` the pair in hand has none. -/
theorem reachable_oneVerdictPerPair {s : Sys} (hs : Reachable ext server s) :
    OneVerdictPerPair s.log ∧ (s.returned = some .failure → verdictsSinceAsk s.log = 0) :=
  ⟨hs.verdictInvariant.perPair, hs.verdictInvariant.failed⟩

theorem reachable_oneVerdictPerPair_first :
    OneVerdictPerPair firstAttempt.log ∧
      (firstAttempt.returned = some .failure → verdictsSinceAsk firstAttempt.log = 0) :=
  reachable_oneVerdictPerPair firstAttempt_reachable

end MedusaWebForm
