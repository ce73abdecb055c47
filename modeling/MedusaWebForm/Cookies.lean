import MedusaWebForm.Header

/-!
# The cookie jar

`_setCookiesFromResponse` finds `Set-Cookie` headers one after another with `_findHeaderValue`, each
search starting at the line end the last value stopped at, and appends `Cookie: <value>\r\n` to the
jar for each: it grows the jar with `realloc` by the three pieces and one byte for the terminator,
then copies the pieces with `stpncpy` bounded by their lengths, which writes no NUL, so the
terminator's byte keeps what the allocator left there. On a response whose `Set-Cookie` lines are
well formed the loop makes one round per occurrence of the needle (`setCookiesFromResponse_spec`).
-/

namespace MedusaWebForm

/-- The needle `_setCookiesFromResponse` searches for. -/
def SET_COOKIE_NEEDLE : Bytes := ascii "\r\nSet-Cookie:"

/-- One round of the loop of `_setCookiesFromResponse`: the jar grown with `realloc`, whose new
bytes hold `fill`, and the value appended with `stpncpy`. -/
def appendCookie (fill : UInt8) (jar : Option Buffer) (value : Bytes) : Except Fault Buffer :=
  match jar with
  | none => .error .nullDeref
  | some jar => do
    let bufferLength := (← cstr jar).length
    let valueLength := value.length
    let jar :=
      realloc jar (bufferLength + COOKIE_HEADER_LENGTH + valueLength + CRLF_LENGTH + 1) fill
    let (jar, e) ← stpncpy jar bufferLength COOKIE_HEADER COOKIE_HEADER_LENGTH
    let (jar, e) ← stpncpy jar e value valueLength
    let (jar, _) ← stpncpy jar e CRLF CRLF_LENGTH
    pure jar

/-- The loop of `_setCookiesFromResponse` from the cursor `pos` on; `fuel` bounds the rounds. -/
def setCookiesLoop (fill : UInt8) : Nat → Option Buffer → Bytes → Except Fault (Option Buffer)
  | 0, jar, _ => .ok jar
  | fuel + 1, jar, pos =>
    match findHeaderValue SET_COOKIE_NEEDLE (some pos) with
    | .error e => .error e
    | .ok none => .ok jar
    | .ok (some ⟨value, next⟩) =>
      match appendCookie fill jar value with
      | .error e => .error e
      | .ok jar => setCookiesLoop fill fuel (some jar) (pos.drop next)

/-- `_setCookiesFromResponse(moduleData, response)` on `moduleData->cookieJar`, the one field it
reads and writes. A round moves the cursor past a needle, so the loop makes fewer rounds than
`response` has bytes. -/
def setCookiesFromResponse (fill : UInt8) (jar : Option Buffer) (response : Bytes) :
    Except Fault (Option Buffer) :=
  setCookiesLoop fill (response.length + 1) jar response

/-! ### One round -/

theorem appendCookie_eq (fill : UInt8) {K : Bytes} (hK : 0 ∉ K) (rest : Buffer) (v : Bytes) :
    appendCookie fill (some (K ++ 0 :: rest)) v =
      .ok (K ++ COOKIE_HEADER ++ v ++ CRLF ++
        (realloc (0 :: rest) (v.length + 11) fill).drop (v.length + 10)) := by
  have hre : realloc (K ++ 0 :: rest) (K.length + 8 + v.length + 2 + 1) fill =
      K ++ realloc (0 :: rest) (v.length + 11) fill := by
    rw [realloc_append _ (by omega)]
    congr 2
    omega
  set M := realloc (0 :: rest) (v.length + 11) fill
  have hlen : M.length = v.length + 11 := length_realloc _ _ _
  have hC : COOKIE_HEADER.length = 8 := rfl
  have hR : CRLF.length = 2 := rfl
  have h1 := stpncpy_append_length K M K.length rfl COOKIE_HEADER (by omega)
  have h2 := stpncpy_append_length (K ++ COOKIE_HEADER) (M.drop 8)
    (K.length + COOKIE_HEADER.length) (by simp) v (by simp; omega)
  have h3 := stpncpy_append_length (K ++ COOKIE_HEADER ++ v) ((M.drop 8).drop v.length)
    (K.length + COOKIE_HEADER.length + v.length) (by simp [Nat.add_assoc]) CRLF (by simp; omega)
  simp only [hC, hR, List.drop_drop] at h1 h2 h3
  simp only [appendCookie, cstr_append hK rest, bind, Except.bind, pure, Except.pure,
    COOKIE_HEADER_LENGTH, CRLF_LENGTH, hC, hR, hre, h1, h2, h3, List.drop_drop,
    show 8 + v.length + 2 = v.length + 10 by omega]

/-- On a block that ends at its string's NUL, the byte a round leaves unwritten is one `realloc`
added. -/
theorem appendCookie_cbuf (fill : UInt8) {K : Bytes} (hK : 0 ∉ K) (v : Bytes) :
    appendCookie fill (some (cbuf K)) v = .ok (K ++ COOKIE_HEADER ++ v ++ CRLF ++ [fill]) := by
  have htail : (realloc [0] (v.length + 11) fill).drop (v.length + 10) = [fill] := by
    simp [realloc, List.drop_append_eq_append_drop, List.drop_replicate]
  simpa [cbuf, htail] using appendCookie_eq fill hK [] v

theorem appendCookie_of_cstr (fill : UInt8) {buf : Buffer} {K : Bytes} (h : cstr buf = .ok K)
    (v : Bytes) : ∃ b, appendCookie fill (some buf) v = .ok (K ++ COOKIE_HEADER ++ v ++ CRLF ++ [b]) := by
  obtain ⟨hK, rest, rfl⟩ := cstr_eq_ok h
  obtain ⟨b, hb⟩ := List.length_eq_one.mp (show ((realloc (0 :: rest) (v.length + 11) fill).drop
    (v.length + 10)).length = 1 by simp [length_realloc])
  exact ⟨b, hb ▸ appendCookie_eq fill hK rest v⟩

/-! ### The loop -/

/-- The value `_findHeaderValue` takes after an occurrence of `needle` at the start of `r`. -/
def valueAfter (needle r : Bytes) : Bytes :=
  ((r.drop needle.length).dropWhile isspace).takeWhile (!isEol ·)

/-- The values after the occurrences of `needle` in `r`, in the order they occur. -/
def occurrenceValues (needle : Bytes) : Bytes → List Bytes
  | [] => []
  | a :: rest =>
    (if MatchesAt (a :: rest) needle 0 then [valueAfter needle (a :: rest)] else []) ++
      occurrenceValues needle rest

/-- Each occurrence of `needle` in `r` is followed by spaces and tabs, then a value whose first
byte is not white space, then a line end. -/
def WellFormedHeaders (needle r : Bytes) : Prop :=
  ∀ o, MatchesAt r needle o →
    ((r.drop (o + needle.length)).takeWhile isspace).all (fun c => c == 32 || c == 9) ∧
      ((r.drop (o + needle.length)).dropWhile isspace).any isEol

theorem WellFormedHeaders.drop {needle r : Bytes} (h : WellFormedHeaders needle r) (k : Nat) :
    WellFormedHeaders needle (r.drop k) := by
  intro o ho
  simpa [List.drop_drop, Nat.add_assoc] using h (k + o) (matchesAt_drop.mp ho)

theorem wellFormedHeaders_of_lt {needle r : Bytes} (hN : needle ≠ [])
    (h : ∀ o < r.length, MatchesAt r needle o →
      ((r.drop (o + needle.length)).takeWhile isspace).all (fun c => c == 32 || c == 9) ∧
        ((r.drop (o + needle.length)).dropWhile isspace).any isEol) :
    WellFormedHeaders needle r := by
  intro o ho
  refine h o ?_ ho
  by_contra hlt
  have : (r.drop o).take needle.length = [] := by simp [List.drop_eq_nil_of_le (by omega : r.length ≤ o)]
  simp [MatchesAt, this, eq_comm, hN] at ho

theorem occurrenceValues_drop {needle r : Bytes} {n : Nat} (h : ∀ j < n, ¬ MatchesAt r needle j) :
    occurrenceValues needle r = occurrenceValues needle (r.drop n) := by
  induction n generalizing r with
  | zero => rfl
  | succ n ih =>
    cases r with
    | nil => rfl
    | cons a rest =>
      simp only [occurrenceValues, h 0 (by omega), if_false, List.nil_append, List.drop_succ_cons]
      exact ih fun j hj => by simpa using h (j + 1) (by omega)

theorem not_matchesAt_of_lower_ne {needle pre : Bytes} (rest : Bytes) (hN : needle.head? = some 13)
    (hpre : ∀ c ∈ pre, tolower c ≠ 13) : ∀ j < pre.length, ¬ MatchesAt (pre ++ rest) needle j := by
  obtain ⟨N', rfl⟩ : ∃ N', needle = 13 :: N' := by
    cases needle with
    | nil => simp at hN
    | cons n N' => simp only [List.head?_cons, Option.some.injEq] at hN; exact ⟨N', hN ▸ rfl⟩
  induction pre with
  | nil => simp
  | cons a pre ih =>
    intro j hj hm
    cases j with
    | zero =>
      simp only [MatchesAt, List.drop_zero, List.cons_append, List.length_cons, List.take_succ_cons,
        List.map_cons, List.cons.injEq] at hm
      exact hpre a (List.mem_cons_self a pre) (hm.1.trans rfl)
    | succ j =>
      exact ih (fun c hc => hpre c (List.mem_cons_of_mem a hc)) j (by simpa using hj) (by simpa using hm)

theorem occurrenceValues_cons_of_matchesAt {m0 : UInt8} {pre tail : Bytes}
    (hm : MatchesAt (m0 :: (pre ++ tail)) SET_COOKIE_NEEDLE 0) (hpre : ∀ c ∈ pre, tolower c ≠ 13) :
    occurrenceValues SET_COOKIE_NEEDLE (m0 :: (pre ++ tail)) =
      valueAfter SET_COOKIE_NEEDLE (m0 :: (pre ++ tail)) :: occurrenceValues SET_COOKIE_NEEDLE tail := by
  rw [occurrenceValues, if_pos hm, occurrenceValues_drop
    (not_matchesAt_of_lower_ne tail (by decide) hpre), List.drop_left]
  rfl

theorem occurrenceValues_eq_cons {pos : Bytes} {i : Nat}
    (hs : strcasestr pos SET_COOKIE_NEEDLE = some i) (hwf : WellFormedHeaders SET_COOKIE_NEEDLE pos) :
    ∃ next, findHeaderValue SET_COOKIE_NEEDLE (some pos) =
        .ok (some ⟨valueAfter SET_COOKIE_NEEDLE (pos.drop i), next⟩) ∧
      occurrenceValues SET_COOKIE_NEEDLE pos =
        valueAfter SET_COOKIE_NEEDLE (pos.drop i) :: occurrenceValues SET_COOKIE_NEEDLE (pos.drop next) ∧
      0 < next ∧ next < pos.length := by
  obtain ⟨hmi, hfirst⟩ := strcasestr_eq_some.mp hs
  obtain ⟨hsp, heol⟩ := hwf i hmi
  set N := SET_COOKIE_NEEDLE
  set after := pos.drop (i + N.length)
  have hv : valueAfter N (pos.drop i) = (after.dropWhile isspace).takeWhile (!isEol ·) := by
    simp [valueAfter, after, List.drop_drop]
  have htail := drop_next_eq (i + N.length) pos rfl
  set sp := after.takeWhile isspace
  set v := (after.dropWhile isspace).takeWhile (!isEol ·)
  set tail := (after.dropWhile isspace).dropWhile (!isEol ·)
  have hN : N.length = 13 := rfl
  have hlen : ((pos.drop i).take N.length).length = 12 + 1 := by
    rw [← List.length_map _ tolower]
    exact (congrArg List.length hmi).trans (by simp [hN])
  obtain ⟨m0, Mt, hMeq⟩ := List.exists_cons_of_length_eq_add_one hlen
  have hX : pos.drop i = m0 :: (Mt ++ sp ++ v ++ tail) := by
    rw [← List.take_append_drop N.length (pos.drop i), hMeq, List.drop_drop]
    simp [sp, v, tail, after]
  have hpre : ∀ c ∈ Mt ++ sp ++ v, tolower c ≠ 13 := by
    intro c hc h13
    simp only [List.mem_append] at hc
    rcases hc with (hc | hc) | hc
    · have htl := congrArg List.tail (show ((pos.drop i).take N.length).map tolower = N.map tolower
        from hmi)
      rw [hMeq, List.map_cons, List.tail_cons] at htl
      have hlow : tolower c ∈ (N.map tolower).tail := htl ▸ List.mem_map_of_mem tolower hc
      exact absurd (h13 ▸ hlow) (by decide)
    · have := List.all_eq_true.mp hsp c hc
      simp only [Bool.or_eq_true, beq_iff_eq] at this
      rcases this with rfl | rfl <;> exact absurd h13 (by decide)
    · have := List.mem_takeWhile_imp hc
      simp [tolower_eq_13 h13, isEol] at this
  refine ⟨_, by rw [hv]; exact findHeaderValue_eq_some hs heol, ?_, ?_⟩
  · rw [occurrenceValues_drop hfirst, hX, occurrenceValues_cons_of_matchesAt
      (by rw [← hX, matchesAt_drop]; simpa using hmi) hpre, ← hX, hv, htail]
  · have hne : tail ≠ [] := by
      intro h
      obtain ⟨x, hx, hex⟩ := List.any_eq_true.mp heol
      simpa [hex] using List.dropWhile_eq_nil_iff.mp h x hx
    rw [← htail] at hne
    exact ⟨by omega, Nat.lt_of_not_le (mt List.drop_eq_nil_iff.mpr hne)⟩

theorem setCookiesLoop_eq (fill : UInt8) {fuel : Nat} {pos : Bytes} (jar : Option Buffer)
    (hwf : WellFormedHeaders SET_COOKIE_NEEDLE pos) (hfuel : pos.length < fuel) :
    setCookiesLoop fill fuel jar pos =
      (occurrenceValues SET_COOKIE_NEEDLE pos).foldlM
        (fun jar v => (appendCookie fill jar v).map some) jar := by
  induction fuel generalizing jar pos with
  | zero => omega
  | succ fuel ih =>
    cases hs : strcasestr pos SET_COOKIE_NEEDLE with
    | none =>
      rw [setCookiesLoop, findHeaderValue_eq_ok_none.mpr hs,
        @occurrenceValues_drop _ _ pos.length fun j _ => strcasestr_eq_none.mp hs j, List.drop_length]
      rfl
    | some i =>
      obtain ⟨next, hfind, hocc, hpos, hnext⟩ := occurrenceValues_eq_cons hs hwf
      simp only [setCookiesLoop, hfind]
      rw [hocc, List.foldlM_cons]
      cases happ : appendCookie fill jar (valueAfter SET_COOKIE_NEEDLE (pos.drop i)) with
      | error e => simp only [happ, Except.map, bind, Except.bind]
      | ok jar' => exact ih (some jar') (hwf.drop next) (by simp; omega)

/-- On a response whose `Set-Cookie` lines are each well formed, `_setCookiesFromResponse` makes
one round per occurrence of the needle, in order, adjacent lines included, each appending the value
after it; and a round on a jar holding the C string `K` writes `K ++ "Cookie: " ++ v ++ "\r\n"`
and one byte more that it does not write. -/
theorem setCookiesFromResponse_spec (fill : UInt8) (jar : Option Buffer) (response : Bytes)
    (hwf : WellFormedHeaders SET_COOKIE_NEEDLE response) :
    setCookiesFromResponse fill jar response =
        (occurrenceValues SET_COOKIE_NEEDLE response).foldlM
          (fun jar v => (appendCookie fill jar v).map some) jar ∧
      ∀ buf K v, cstr buf = .ok K →
        ∃ b, appendCookie fill (some buf) v = .ok (K ++ COOKIE_HEADER ++ v ++ CRLF ++ [b]) :=
  ⟨setCookiesLoop_eq fill jar hwf (Nat.lt_succ_self _), fun _ _ v h => appendCookie_of_cstr fill h v⟩

/-- A value that starts with a vertical tab loses it, and an append leaves the jar ending in the
byte `realloc` added, not in a NUL; when that byte is not 0, a second cookie makes `strlen` read
past the jar. -/
theorem setCookiesFromResponse_vtab_and_unterminated_jar (fill : UInt8) :
    setCookiesFromResponse fill (some (calloc 1)) (ascii "\r\nSet-Cookie: \x0Ba=1\r\n") =
        .ok (some (ascii "Cookie: a=1\r\n" ++ [fill])) ∧
      (fill ≠ 0 → setCookiesFromResponse fill (some (calloc 1))
        (ascii "\r\nSet-Cookie: a=1\r\nSet-Cookie: b=2\r\n") = .error .overread) := by
  have h1 : appendCookie fill (some (calloc 1)) (ascii "a=1") =
      .ok (ascii "Cookie: a=1\r\n" ++ [fill]) :=
    appendCookie_cbuf fill (List.not_mem_nil 0) (ascii "a=1")
  refine ⟨?_, fun hfill => ?_⟩
  · have hf : findHeaderValue SET_COOKIE_NEEDLE (some (ascii "\r\nSet-Cookie: \x0Ba=1\r\n")) =
        .ok (some ⟨ascii "a=1", 18⟩) := by decide
    have hnone : findHeaderValue SET_COOKIE_NEEDLE
        (some ((ascii "\r\nSet-Cookie: \x0Ba=1\r\n").drop 18)) = .ok none := by decide
    rw [setCookiesFromResponse, show (ascii "\r\nSet-Cookie: \x0Ba=1\r\n").length = 19 + 1 from rfl]
    simp only [setCookiesLoop, hf, h1, hnone]
  have hocc : occurrenceValues SET_COOKIE_NEEDLE
      (ascii "\r\nSet-Cookie: a=1\r\nSet-Cookie: b=2\r\n") = [ascii "a=1", ascii "b=2"] := by
    decide
  have h2 : appendCookie fill (some (ascii "Cookie: a=1\r\n" ++ [fill])) (ascii "b=2") =
      .error .overread := by
    have h0 : (0 : UInt8) ∉ ascii "Cookie: a=1\r\n" ++ [fill] := by
      simpa [Ne.symm hfill] using (by decide : (0 : UInt8) ∉ ascii "Cookie: a=1\r\n")
    simp [appendCookie, cstr_of_zero_not_mem h0, bind, Except.bind]
  rw [(setCookiesFromResponse_spec fill _ _ (wellFormedHeaders_of_lt (by decide) (by decide))).1,
    hocc]
  simp only [List.foldlM, Except.map, h1, h2, bind, Except.bind]

/-! ### The jars a run can hold -/

end MedusaWebForm
