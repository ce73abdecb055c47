import MedusaWebForm.Configuration

/-!
# What the server reads from the parameters

The parameters of a request are `application/x-www-form-urlencoded`, and a server cuts them into
fields at every `&`. `prepareRequestParamString` URL-encodes the password, whose image holds no `&`,
but writes the login as it is. The keys hold no `&` either: `MSTATE_INITIALIZE` takes them from
`FORM-DATA` as `strtok_r` tokens cut at `&`, or sets the defaults, and no later pass changes them
(`Reachable.keysAmpFree`). So in every reachable state the parameters split into the user field,
the password field and the fields of the form's rest exactly when the login holds no `&`
(`reachable_params_fields`): a login with an `&` in it hands the server fields of its own, which
may name the password key before the real one.
-/

namespace MedusaWebForm

variable {ext : External} {server : Server}

/-! ### Splitting at `&` -/

theorem not_mem_of_mem_splitOn {x : UInt8} {xs field : Bytes} (h : field ∈ xs.splitOn x) :
    x ∉ field := by
  induction xs generalizing field with
  | nil =>
    obtain rfl : field = [] := by simpa using h
    exact List.not_mem_nil x
  | cons y ys ih =>
    unfold List.splitOn at h ih
    rw [List.splitOnP_cons] at h
    split_ifs at h with hy
    · rcases List.mem_cons.mp h with rfl | h
      · exact List.not_mem_nil x
      · exact ih h
    · obtain ⟨f, fs, hsplit⟩ := List.exists_cons_of_ne_nil (List.splitOnP_ne_nil (· == x) ys)
      rw [hsplit] at h ih
      rcases List.mem_cons.mp h with rfl | h
      · rintro (_ | ⟨_, hf⟩)
        · exact hy (beq_self_eq_true x)
        · exact ih (List.mem_cons_self f fs) hf
      · exact ih (List.mem_cons_of_mem f h)

theorem splitOn_of_not_mem {x : UInt8} {xs : Bytes} (h : x ∉ xs) : xs.splitOn x = [xs] :=
  List.splitOnP_eq_single (· == x) xs fun _ hy hxy => h (eq_of_beq hxy ▸ hy)

theorem splitOn_append_cons {x : UInt8} {pre rest : Bytes} (h : x ∉ pre) :
    (pre ++ x :: rest).splitOn x = pre :: rest.splitOn x :=
  List.splitOnP_first (· == x) pre (fun _ hy hxy => h (eq_of_beq hxy ▸ hy)) x (beq_self_eq_true x)
    rest

theorem Encoded.not_mem {e : Bytes} (he : Encoded e) {x : UInt8} (ha : isAlnum x = false)
    (hh : isUpperHex x = false) (hp : x ≠ 37) : x ∉ e := by
  induction he with
  | nil => exact List.not_mem_nil x
  | alnum hc _ ih => rintro (_ | ⟨_, h⟩) <;> [exact absurd hc (by simp [ha]); exact ih h]
  | triple hh' hl _ ih =>
    rintro (_ | ⟨_, _ | ⟨_, _ | ⟨_, h⟩⟩⟩)
    · exact hp rfl
    · exact absurd hh' (by simp [hh])
    · exact absurd hl (by simp [hh])
    · exact ih h

theorem not_mem_of_urlencodeup {s enc : Bytes} (h : urlencodeup s = .ok enc) {x : UInt8}
    (ha : isAlnum x = false) (hh : isUpperHex x = false) (hp : x ≠ 37) : x ∉ enc := by
  rw [urlencodeup_eq] at h
  split_ifs at h
  cases h
  simp only [List.mem_flatMap, not_exists, not_and]
  intro c _
  by_cases hlt : c.toNat < 128
  · have hx : x ∉ percentEncode [c] := (encoded_percentEncode [c]).not_mem ha hh hp
    simpa [urlencodeImage, hlt, percentEncode] using hx
  · simp only [urlencodeImage, hlt, if_false, show ascii "%FF" = [37, 70, 70] from rfl,
      List.mem_cons, List.mem_singleton, List.not_mem_nil, or_false, not_or]
    exact ⟨hp, fun h70 => absurd hh (by rw [h70]; decide), fun h70 => absurd hh (by rw [h70]; decide)⟩

theorem amp_not_mem_of_urlencodeup {s enc : Bytes} (h : urlencodeup s = .ok enc) : 38 ∉ enc :=
  not_mem_of_urlencodeup h (by decide) (by decide) (by decide)

theorem requestParams_splitOn {md : ModuleData} {uk pk szLogin enc : Bytes}
    (hch : md.changedRequestType = false) (huk : md.formUserKey = some uk)
    (hpk : md.formPassKey = some pk) (hu : 38 ∉ uk) (hp : 38 ∉ pk) (henc : 38 ∉ enc) :
    (requestParams md szLogin enc).splitOn 38 =
        [(if md.formType = .get then ascii "?" else []) ++ uk ++ szLogin, pk ++ enc] ++
          (if md.formRest.getD [] = [] then [] else (md.formRest.getD []).splitOn 38) ↔
      38 ∉ szLogin := by
  have hamp : ascii "&" = [38] := rfl
  have hparams : requestParams md szLogin enc =
      ((if md.formType = .get then ascii "?" else []) ++ uk ++ szLogin) ++ 38 ::
        (pk ++ enc ++ if md.formRest.getD [] = [] then [] else 38 :: md.formRest.getD []) := by
    simp [requestParams, hch, huk, hpk, hamp]
  have hfmt : 38 ∉ (if md.formType = .get then ascii "?" else []) := by split <;> decide
  constructor
  · intro h hl
    have hfield : (if md.formType = .get then ascii "?" else []) ++ uk ++ szLogin ∈
        (requestParams md szLogin enc).splitOn 38 := by
      rw [h]
      exact List.mem_cons_self _ _
    exact not_mem_of_mem_splitOn hfield (List.mem_append_right _ hl)
  · intro hl
    have hpass : 38 ∉ pk ++ enc := by simp [hp, henc]
    rw [hparams, splitOn_append_cons (by simp [hfmt, hu, hl])]
    by_cases hr : md.formRest.getD [] = []
    · simp only [hr, if_true, List.append_nil, splitOn_of_not_mem hpass]
    · simp only [hr, if_false]
      rw [splitOn_append_cons hpass]
      rfl

/-! ### The keys -/

def AmpFree (key : Option Bytes) : Prop := 38 ∉ key.getD []

instance : DecidablePred AmpFree := fun key => inferInstanceAs (Decidable (38 ∉ key.getD []))

theorem defaultKeys_ampFree :
    AmpFree (some MODULE_DEFAULT_USERNAME_KEY) ∧ AmpFree (some MODULE_DEFAULT_PASSWORD_KEY) := by
  decide

theorem token_orElse_ampFree {s : Bytes} {field : Option Bytes} (hfield : field = none) :
    AmpFree ((strtok_r s (ascii "&")).1.orElse fun _ => field) := by
  cases ht : (strtok_r s (ascii "&")).1 with
  | none => simp [AmpFree, hfield, Option.orElse]
  | some t =>
    obtain ⟨-, -, -, -, htd, -⟩ := strtok_r_eq_some.mp (Prod.ext ht rfl)
    exact fun h38 => htd 38 h38 (by decide)

theorem parseFormData_ampFree {fd : Bytes} {md md' : ModuleData} (hf : FreshForm md)
    (h : parseFormData fd md = .ok md') : AmpFree md'.formUserKey ∧ AmpFree md'.formPassKey := by
  unfold parseFormData at h
  cases hp : (strtok_r fd (ascii "?")).1 with
  | none => simp [hp, strArg, bind, Except.bind] at h
  | some m =>
    simp only [hp, strArg, bind, Except.bind, pure, Except.pure, Except.ok.injEq] at h
    subst h
    exact ⟨token_orElse_ampFree hf.userKey, token_orElse_ampFree hf.passKey⟩

theorem initializeForm_ampFree {md md' : ModuleData} (hf : FreshForm md)
    (h : initializeForm md = .ok md') : AmpFree md'.formUserKey ∧ AmpFree md'.formPassKey := by
  unfold initializeForm at h
  cases hd : md.formData with
  | none =>
    simp only [hd, hf.userKey, hf.passKey, setDefaultOption, Except.ok.injEq] at h
    subst h
    exact defaultKeys_ampFree
  | some fd =>
    simp only [hd, hf.userKey, Option.isNone_none, if_true] at h
    obtain ⟨md1, hp, h⟩ := bind_eq_ok.mp h
    split at h
    · cases h
      exact defaultKeys_ampFree
    · cases h
      exact parseFormData_ampFree hf hp

theorem initializeModuleData_ampFree {md md' : ModuleData} (hf : FreshForm md)
    (h : initializeModuleData ext server md = .ok md') :
    AmpFree md'.formUserKey ∧ AmpFree md'.formPassKey := by
  obtain ⟨rp, hh, hreq⟩ := setRequestDefaults_frame server md
  simp only [initializeModuleData, hreq] at h
  obtain ⟨md1, hi, h⟩ := bind_eq_ok.mp h
  obtain ⟨ua, d, ch, jar, hhd⟩ := setHeaderDefaults_frame ext md1
  have hkeys := initializeForm_ampFree
    (⟨hf.userKey, hf.passKey, hf.changed⟩ : FreshForm { md with resourcePath := rp, hostHeader := hh }) hi
  rw [← Except.ok.inj h, hhd]
  exact hkeys

theorem Reachable.keysAmpFree {s : Sys} (hs : Reachable ext server s)
    (hinit : s.initialized = true) : AmpFree s.md.formUserKey ∧ AmpFree s.md.formPassKey := by
  induction hs with
  | start o login first => cases first <;> cases hinit
  | @step s s' i hs h ih =>
    rcases step_cases h with ⟨-, rfl⟩ | ⟨-, -, rfl⟩ | ⟨-, hst, md, hi, rfl⟩ | ⟨-, -, -, rfl⟩ |
      ⟨-, -, -, rfl⟩ | ⟨-, -, user, o, ht, rfl⟩ | ⟨-, -, rfl⟩
    case step.inr.inr.inl.intro.intro.intro.intro =>
      exact initializeModuleData_ampFree (hs.runInvariant.fresh hst) hi
    case step.inr.inr.inr.inr.inr.inl.intro.intro.intro.intro.intro =>
      obtain ⟨cred, nState, heq, -⟩ := advanceCredentials_frame (recordTryLogin s o) i.next
      rw [heq] at hinit ⊢
      have hcfg := tryLogin_config ht
      simp only [ModuleData.config, Config.mk.injEq] at hcfg
      simp only [recordTryLogin, hcfg.1, hcfg.2.1]
      exact ih hinit
    all_goals exact ih hinit

/-! ### Every reachable state -/

/-- In every reachable state after `MSTATE_INITIALIZE` whose request carries parameters, for every
login and every password that `urlencodeup` encodes: the parameters split at `&` into the user field
(with the `?` of a GET in front), the password field and then the fields of the form's rest exactly
when the login holds no `&`. The password field is the password key and what `urlencodeup`
returned; the user field is the user key and the login as it is. -/
theorem reachable_params_fields {s : Sys} (hs : Reachable ext server s)
    (hinit : s.initialized = true) (hch : s.md.changedRequestType = false)
    (szLogin szPassword : Bytes) {params : Bytes} {n : Nat}
    (h : prepareRequestParamString s.md szLogin szPassword = .ok (params, n)) :
    ∃ uk pk enc, s.md.formUserKey = some uk ∧ s.md.formPassKey = some pk ∧
      urlencodeup szPassword = .ok enc ∧
      (params.splitOn 38 =
          [(if s.md.formType = .get then ascii "?" else []) ++ uk ++ szLogin, pk ++ enc] ++
            (if s.md.formRest.getD [] = [] then [] else (s.md.formRest.getD []).splitOn 38) ↔
        38 ∉ szLogin) := by
  obtain ⟨uk, huk, -⟩ := (hs.runInvariant.form hinit).userKey
  obtain ⟨pk, hpk, -⟩ := (hs.runInvariant.form hinit).passKey
  obtain ⟨hu, hp⟩ := hs.keysAmpFree hinit
  rw [huk] at hu
  rw [hpk] at hp
  cases henc : urlencodeup szPassword with
  | error e => simp [prepareRequestParamString, henc, bind, Except.bind] at h
  | ok enc =>
    rw [prepareRequestParamString_eq huk hpk (hs.formType_ne_unknown hinit) hch szLogin henc,
      Except.ok.injEq, Prod.mk.injEq] at h
    obtain ⟨rfl, -⟩ := h
    exact ⟨uk, pk, enc, huk, hpk, rfl,
      requestParams_splitOn hch huk hpk hu hp (amp_not_mem_of_urlencodeup henc)⟩

theorem reachable_params_fields_first :
    ∃ uk pk enc, firstAttempt.md.formUserKey = some uk ∧ firstAttempt.md.formPassKey = some pk ∧
      urlencodeup (ascii "secret") = .ok enc ∧
      ((ascii "username=alice&password=secret").splitOn 38 =
          [(if firstAttempt.md.formType = .get then ascii "?" else []) ++ uk ++ ascii "alice",
            pk ++ enc] ++
            (if firstAttempt.md.formRest.getD [] = [] then []
              else (firstAttempt.md.formRest.getD []).splitOn 38) ↔
        38 ∉ ascii "alice") :=
  reachable_params_fields firstAttempt_reachable rfl rfl (ascii "alice") (ascii "secret") rfl

/-- A login that carries `&password=x` hands the server a password field before the real one. -/
example : (requestParams defaultModuleData (ascii "a&password=x") (ascii "s")).splitOn 38 =
    [ascii "username=a", ascii "password=x", ascii "password=s"] := by
  decide

end MedusaWebForm
