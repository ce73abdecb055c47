import Mathlib.Data.List.Basic
import Mathlib.Algebra.Group.Int

/-!
# C strings and the libc calls of the module

The model keeps a C string as the bytes before its NUL (`Bytes`) and a heap block as its bytes
(`Buffer`); a byte `realloc` adds holds the value the allocator left there, which C leaves
unspecified and the model takes as an input. The libc functions the module calls are modelled as the
C library specifies them in the C locale on x86-64 Linux (`char` signed, `long` of 64 bits), and a
call that is undefined returns an `Except Fault`.
-/

namespace MedusaWebForm

/-- A C string: the bytes before its terminating NUL. -/
abbrev Bytes := List UInt8

/-- The bytes of a string literal of the source; all of them are ASCII. -/
def ascii (s : String) : Bytes := s.toList.map Char.toUInt8

/-- What makes a run of the C code undefined: `abort()`, a read through NULL, and a read or a write
past the end of a block. -/
inductive Fault
  | abort
  | nullDeref
  | overread
  | outOfBounds
  deriving DecidableEq, Repr

instance instDecidableEqExcept {ε α : Type} [DecidableEq ε] [DecidableEq α] :
    DecidableEq (Except ε α)
  | .error a, .error b => decidable_of_iff (a = b) (by simp)
  | .ok a, .ok b => decidable_of_iff (a = b) (by simp)
  | .error _, .ok _ => isFalse (by simp)
  | .ok _, .error _ => isFalse (by simp)

theorem bind_eq_ok {ε α β : Type} {x : Except ε α} {f : α → Except ε β} {b : β} :
    x >>= f = .ok b ↔ ∃ a, x = .ok a ∧ f a = .ok b := by
  cases x <;> simp [bind, Except.bind]

theorem exists_bind_eq_ok {ε α β : Type} {x : Except ε α} {f : α → Except ε β} :
    (∃ b, x >>= f = .ok b) ↔ ∃ a, x = .ok a ∧ ∃ b, f a = .ok b := by
  cases x <;> simp [bind, Except.bind]

/-! ### Characters -/

/-- `isspace` in the C locale: space, `\t`, `\n`, `\v`, `\f` and `\r`. -/
def isspace (c : UInt8) : Bool := c == 32 || (9 ≤ c && c ≤ 13)

def isdigit (c : UInt8) : Bool := 48 ≤ c && c ≤ 57

theorem uint8_le_iff_toNat_le {a b : UInt8} : a ≤ b ↔ a.toNat ≤ b.toNat := Iff.rfl

/-- `tolower` in the C locale. -/
def tolower (c : UInt8) : UInt8 := if 65 ≤ c && c ≤ 90 then c + 32 else c

theorem tolower_eq_of_lt {c d : UInt8} (h : tolower c = d) (hd : d < 97) : c = d := by
  unfold tolower at h
  split at h
  · rename_i hc
    simp only [Bool.and_eq_true, decide_eq_true_eq, UInt8.le_def, UInt8.toBitVec_ofNat] at hc
    subst h
    simp only [UInt8.lt_def, UInt8.add_def, UInt8.toBitVec_ofNat] at hd
    bv_omega
  · exact h

theorem tolower_eq_13 {c : UInt8} (h : tolower c = 13) : c = 13 := tolower_eq_of_lt h (by decide)

/-! ### Searching -/

/-- `needle` occurs in `hay` at offset `i`, ignoring case as `strcasestr` does. -/
def MatchesAt (hay needle : Bytes) (i : Nat) : Prop :=
  ((hay.drop i).take needle.length).map tolower = needle.map tolower

instance (hay needle : Bytes) (i : Nat) : Decidable (MatchesAt hay needle i) :=
  inferInstanceAs (Decidable (_ = _))

/-- `strcasestr(hay, needle)`: the offset of the first case-insensitive occurrence of `needle`,
`none` for NULL. -/
def strcasestr (hay needle : Bytes) : Option Nat :=
  if MatchesAt hay needle 0 then some 0
  else match hay with
    | [] => none
    | _ :: rest => (strcasestr rest needle).map (· + 1)

@[simp] theorem matchesAt_cons_succ (a : UInt8) (hay needle : Bytes) (i : Nat) :
    MatchesAt (a :: hay) needle (i + 1) ↔ MatchesAt hay needle i := Iff.rfl

theorem matchesAt_drop {hay needle : Bytes} {k j : Nat} :
    MatchesAt (hay.drop k) needle j ↔ MatchesAt hay needle (k + j) := by
  simp [MatchesAt, List.drop_drop]

theorem matchesAt_nil {needle : Bytes} {i : Nat} : MatchesAt [] needle i ↔ needle = [] := by
  simp [MatchesAt, eq_comm]

theorem strcasestr_eq_none {hay needle : Bytes} :
    strcasestr hay needle = none ↔ ∀ i, ¬ MatchesAt hay needle i := by
  induction hay with
  | nil => simp [strcasestr, matchesAt_nil]
  | cons a rest ih =>
    rw [strcasestr]
    split
    · exact iff_of_false (by simp) fun h => h 0 ‹_›
    · rw [Option.map_eq_none', ih]
      exact ⟨fun h i => by cases i <;> simp_all, fun h i => by simpa using h (i + 1)⟩

theorem strcasestr_eq_some {hay needle : Bytes} {i : Nat} :
    strcasestr hay needle = some i ↔ MatchesAt hay needle i ∧ ∀ j < i, ¬ MatchesAt hay needle j := by
  induction hay generalizing i with
  | nil =>
    by_cases h : needle = []
    · cases i with
      | zero => simp [strcasestr, matchesAt_nil, h]
      | succ i =>
        simp only [strcasestr, matchesAt_nil, h, if_true, Option.some.injEq, true_and]
        exact iff_of_false (by omega) fun h0 => h0 0 (by omega) trivial
    · simp [strcasestr, matchesAt_nil, h]
  | cons a rest ih =>
    rw [strcasestr]
    split
    case isTrue h0 =>
      cases i with
      | zero => simpa using h0
      | succ i => exact iff_of_false (by simp) fun h => h.2 0 (by omega) h0
    case isFalse h0 =>
      cases i with
      | zero => exact iff_of_false (by simp) fun h => h0 h.1
      | succ i =>
        simp only [Option.map_eq_some', ih, Nat.add_right_cancel_iff, exists_eq_right,
          matchesAt_cons_succ]
        refine and_congr_right fun _ => ⟨fun h j hj => ?_, fun h j hj => ?_⟩
        · cases j with
          | zero => exact h0
          | succ j => exact h j (by omega)
        · simpa using h (j + 1) (by omega)

def OccursIn (hay needle : Bytes) : Prop := ∃ i, MatchesAt hay needle i

theorem strcasestr_isSome {hay needle : Bytes} :
    (strcasestr hay needle).isSome ↔ OccursIn hay needle := by
  rw [← not_iff_not, Option.not_isSome_iff_eq_none, strcasestr_eq_none, OccursIn, not_exists]

instance (hay needle : Bytes) : Decidable (OccursIn hay needle) :=
  decidable_of_iff _ strcasestr_isSome

theorem strcasestr_isSome_of_length_eq {hay needle : Bytes} (h : hay.length = needle.length) :
    (strcasestr hay needle).isSome ↔ hay.map tolower = needle.map tolower := by
  rw [strcasestr_isSome]
  constructor
  · rintro ⟨i, hi⟩
    have hlen := congrArg List.length hi
    simp only [List.length_map, List.length_take, List.length_drop] at hlen
    obtain rfl | hn : i = 0 ∨ needle.length = 0 := by omega
    · simpa [MatchesAt, ← h] using hi
    · rw [List.length_eq_zero.mp hn, List.length_eq_zero.mp (h.trans hn)]
  · exact fun h0 => ⟨0, by simpa [MatchesAt, ← h] using h0⟩

/-- `strchr(s, c)`: the suffix of `s` from its first `c` on, `none` for NULL. -/
def strchr (s : Bytes) (c : UInt8) : Option Bytes :=
  match s.dropWhile (· != c) with
  | [] => none
  | t => some t

theorem strchr_eq_none {s : Bytes} {c : UInt8} : strchr s c = none ↔ c ∉ s := by
  have hnil : s.dropWhile (· != c) = [] ↔ c ∉ s := by
    simp [List.dropWhile_eq_nil_iff, List.forall_mem_ne']
  unfold strchr
  split <;> simp_all

theorem strchr_append_cons {pre post : Bytes} {c : UInt8} (h : c ∉ pre) :
    strchr (pre ++ c :: post) c = some (c :: post) := by
  induction pre with
  | nil => simp [strchr]
  | cons b pre ih =>
    have hb : b ≠ c := fun hbc => h (hbc ▸ List.mem_cons_self b pre)
    simpa [strchr, List.dropWhile_cons, hb] using ih (fun hc => h (List.mem_cons_of_mem b hc))

theorem drop_length_takeWhile {α : Type} (p : α → Bool) (l : List α) :
    l.drop (l.takeWhile p).length = l.dropWhile p := by
  have h := List.drop_left (l.takeWhile p) (l.dropWhile p)
  rwa [List.takeWhile_append_dropWhile] at h

theorem dropWhile_eq_cons {α : Type} {p : α → Bool} {l rest : List α} {d : α}
    (h : l.dropWhile p = d :: rest) : p d = false := by
  induction l with
  | nil => cases h
  | cons a l ih =>
    cases ha : p a
    · simp only [List.dropWhile_cons, ha, Bool.false_eq_true, if_false, List.cons.injEq] at h
      exact h.1 ▸ ha
    · exact ih (by simpa [List.dropWhile_cons, ha] using h)

/-! ### Tokens and numbers -/

/-- `strtok_r(s, delim, &save)`: the next token of `s`, if there is one, and the text `save` is
left at. -/
def strtok_r (s delim : Bytes) : Option Bytes × Bytes :=
  match s.dropWhile delim.contains with
  | [] => (none, [])
  | t => (some (t.takeWhile (!delim.contains ·)), (t.dropWhile (!delim.contains ·)).drop 1)

theorem strtok_r_token_ne_nil {s delim t : Bytes} (h : (strtok_r s delim).1 = some t) :
    t ≠ [] := by
  cases hd : s.dropWhile delim.contains with
  | nil => simp [strtok_r, hd] at h
  | cons x xs =>
    have hx : x ∉ delim := by
      simpa [hd] using List.head_dropWhile_not delim.contains s (by simp [hd])
    simp [strtok_r, hd, List.takeWhile_cons, hx] at h
    simp [← h]

theorem strtok_r_fst_eq_none {s delim : Bytes} :
    (strtok_r s delim).1 = none ↔ ∀ c ∈ s, c ∈ delim := by
  have h : (∀ c ∈ s, c ∈ delim) ↔ s.dropWhile delim.contains = [] := by
    simp [List.dropWhile_eq_nil_iff]
  rw [h, strtok_r]
  split <;> simp_all

theorem strtok_r_eq_some {s delim t save : Bytes} :
    strtok_r s delim = (some t, save) ↔
      ∃ pre tail, (∀ c ∈ pre, c ∈ delim) ∧ t ≠ [] ∧ (∀ c ∈ t, c ∉ delim) ∧ s = pre ++ t ++ tail ∧
        (tail = [] ∧ save = [] ∨ ∃ d ∈ delim, tail = d :: save) := by
  constructor
  · intro h
    have ht := strtok_r_token_ne_nil (congrArg Prod.fst h)
    cases hd : s.dropWhile delim.contains with
    | nil => simp [strtok_r, hd] at h
    | cons x xs =>
      simp only [strtok_r, hd, Prod.mk.injEq, Option.some.injEq] at h
      obtain ⟨rfl, rfl⟩ := h
      refine ⟨s.takeWhile delim.contains, (x :: xs).dropWhile (!delim.contains ·),
        fun c hc => by simpa using List.mem_takeWhile_imp hc, ht,
        fun c hc => by simpa using List.mem_takeWhile_imp hc, ?_, ?_⟩
      · rw [List.append_assoc, List.takeWhile_append_dropWhile, ← hd,
          List.takeWhile_append_dropWhile]
      · cases htail : (x :: xs).dropWhile (!delim.contains ·) with
        | nil => simp
        | cons d rest => exact .inr ⟨d, by simpa using dropWhile_eq_cons htail, rfl⟩
  · rintro ⟨pre, tail, hpre, ht, htd, rfl, htail⟩
    obtain ⟨x, t, rfl⟩ := List.exists_cons_of_ne_nil ht
    have hd : (pre ++ (x :: t) ++ tail).dropWhile delim.contains = x :: (t ++ tail) := by
      rw [List.append_assoc, List.dropWhile_append_of_pos (by simpa using hpre),
        List.cons_append, List.dropWhile_cons_of_neg (by simpa using htd x (by simp))]
    have hnd : ∀ c ∈ x :: t, (!delim.contains c) = true := by simpa using htd
    have hstop : tail.takeWhile (!delim.contains ·) = [] ∧
        tail.dropWhile (!delim.contains ·) = tail := by
      rcases htail with ⟨rfl, -⟩ | ⟨d, hd, rfl⟩ <;> simp [List.takeWhile_cons, List.dropWhile_cons, *]
    rw [strtok_r, hd]
    dsimp only
    rw [← List.cons_append, List.takeWhile_append_of_pos hnd, List.dropWhile_append_of_pos hnd,
      hstop.1, hstop.2, List.append_nil]
    rcases htail with ⟨rfl, rfl⟩ | ⟨d, -, rfl⟩ <;> rfl

theorem strtok_r_token_subset {s delim t save : Bytes} (h : strtok_r s delim = (some t, save)) :
    t ⊆ s := by
  obtain ⟨pre, tail, -, -, -, rfl, -⟩ := strtok_r_eq_some.mp h
  intro x hx
  simp [hx]

theorem strtok_r_replicate {d : UInt8} {t tail save : Bytes} (i : Nat) (ht : t ≠ []) (htd : d ∉ t)
    (htail : tail = [] ∧ save = [] ∨ tail = d :: save) :
    strtok_r (List.replicate i d ++ t ++ tail) [d] = (some t, save) :=
  strtok_r_eq_some.mpr ⟨_, tail, fun c hc => by simp [(List.mem_replicate.mp hc).2], ht,
    fun c hc hcd => htd (List.mem_singleton.mp hcd ▸ hc), rfl,
    htail.imp_right fun h => ⟨d, List.mem_singleton_self d, h⟩⟩

theorem strtok_r_replicate_of_eq {d : UInt8} {s t save : Bytes}
    (h : strtok_r s [d] = (some t, save)) :
    t ≠ [] ∧ d ∉ t ∧ ∃ i tail, (tail = [] ∧ save = [] ∨ tail = d :: save) ∧
      s = List.replicate i d ++ t ++ tail := by
  obtain ⟨pre, tail, hpre, ht, htd, rfl, htail⟩ := strtok_r_eq_some.mp h
  refine ⟨ht, fun hd => htd d hd (List.mem_singleton_self d), pre.length, tail,
    htail.imp_right fun ⟨d', hd', h⟩ => List.mem_singleton.mp hd' ▸ h, ?_⟩
  rw [← List.eq_replicate_iff.mpr ⟨rfl, fun c hc => List.mem_singleton.mp (hpre c hc)⟩]

theorem strtok_r_nil (s : Bytes) : strtok_r s [] = (if s = [] then none else some s, []) := by
  have hall : ∀ l : Bytes, l.dropWhile (fun _ => true) = [] := fun l =>
    List.dropWhile_eq_nil_iff.mpr (by simp)
  cases s <;> simp [strtok_r, hall]

/-- `strncasecmp(a, b, n) == 0`: the first `n` bytes of the two strings, NULs included, agree
but for case. -/
def strncasecmpEq (a b : Bytes) (n : Nat) : Bool :=
  ((a ++ [0]).take n).map tolower == ((b ++ [0]).take n).map tolower

theorem strncasecmpEq_iff {a : Bytes} (ha : 0 ∉ a) (b : Bytes) :
    strncasecmpEq a b (b.length + 1) = true ↔ a.map tolower = b.map tolower := by
  have hb : (b ++ [0]).take (b.length + 1) = b ++ [0] := List.take_of_length_le (by simp)
  simp only [strncasecmpEq, beq_iff_eq, hb, List.map_append, List.map_singleton]
  by_cases hlen : a.length ≤ b.length
  · rw [List.take_of_length_le (by simpa using hlen), List.map_append, List.map_singleton]
    exact ⟨List.append_cancel_right, fun h => by rw [h]⟩
  · rw [List.take_append_of_le_length (by omega)]
    refine iff_of_false (fun h => ?_)
      (fun h => hlen (le_of_eq (by simpa using congrArg List.length h)))
    obtain ⟨c, hc, h0⟩ := List.mem_map.mp (h ▸ List.mem_append_right _ (List.mem_singleton_self _))
    have hc0 : c = 0 := tolower_eq_of_lt (h0.trans (by decide)) (by decide)
    exact ha (hc0 ▸ List.mem_of_mem_take hc)

def decimalValue (ds : Bytes) : Nat := ds.foldl (fun n d => 10 * n + (d.toNat - 48)) 0

/-- The number `strtol` reads in base 10 before it clamps: white space, an optional sign and the
digits that follow, 0 when there are none. -/
def decimalNumeral (s : Bytes) : Int :=
  match s.dropWhile isspace with
  | 45 :: t => -(decimalValue (t.takeWhile isdigit) : Int)
  | 43 :: t => decimalValue (t.takeWhile isdigit)
  | t => decimalValue (t.takeWhile isdigit)

def LONG_MIN : Int := -2 ^ 63

def LONG_MAX : Int := 2 ^ 63 - 1

/-- `strtol(s, NULL, 10)`: the number read, or the nearest `long` when it overflows. -/
def strtol (s : Bytes) : Int := max LONG_MIN (min LONG_MAX (decimalNumeral s))

theorem decimalNumeral_space_cons {c : UInt8} (hc : isspace c) (s : Bytes) :
    decimalNumeral (c :: s) = decimalNumeral s := by
  simp [decimalNumeral, List.dropWhile_cons, hc]

theorem strtol_of_mem_range {s : Bytes} (hlo : LONG_MIN ≤ decimalNumeral s)
    (hhi : decimalNumeral s ≤ LONG_MAX) : strtol s = decimalNumeral s := by
  unfold strtol
  omega

/-- What `printf` writes for `%d`. -/
def formatDecimal (n : Int) : Bytes :=
  (if n < 0 then ascii "-" else []) ++ (Nat.toDigits 10 n.natAbs).map Char.toUInt8

/-- The string a `%s` argument of `printf` reads. Passing NULL is undefined. -/
def strArg : Option Bytes → Except Fault Bytes
  | none => .error .nullDeref
  | some s => .ok s

theorem strArg_eq_ok {x : Option Bytes} {s : Bytes} : strArg x = .ok s ↔ x = some s := by
  cases x <;> simp [strArg]

/-! ### Heap blocks -/

/-- A heap block: its bytes. -/
abbrev Buffer := List UInt8

/-- `calloc(n, 1)`: `n` NUL bytes. -/
def calloc (n : Nat) : Buffer := List.replicate n 0

/-- `realloc(buf, n)`: the old bytes that fit, then the bytes it adds, which hold what the allocator
left there, `fill`. -/
def realloc (buf : Buffer) (n : Nat) (fill : UInt8) : Buffer :=
  buf.take n ++ List.replicate (n - buf.length) fill

/-- The C string a block holds, as `strlen` and `%s` read it: the bytes up to the first NUL.
Reading past the block is undefined. -/
def cstr : Buffer → Except Fault Bytes
  | [] => .error .overread
  | b :: rest => if b = 0 then .ok [] else (cstr rest).map (b :: ·)

/-- The block `strdup` or `asprintf` leaves for the C string `s`. -/
def cbuf (s : Bytes) : Buffer := s ++ [0]

theorem cstr_append {s : Bytes} (hs : 0 ∉ s) (rest : Buffer) : cstr (s ++ 0 :: rest) = .ok s := by
  induction s with
  | nil => rfl
  | cons b s ih =>
    have hb : b ≠ 0 := fun h => hs (h ▸ List.mem_cons_self b s)
    simp [cstr, hb, ih (fun h => hs (List.mem_cons_of_mem b h)), Except.map]

theorem cstr_of_zero_not_mem {buf : Buffer} (h : 0 ∉ buf) : cstr buf = .error .overread := by
  induction buf with
  | nil => rfl
  | cons b buf ih =>
    have hb : b ≠ 0 := fun h' => h (h' ▸ List.mem_cons_self b buf)
    simp [cstr, hb, ih (fun h' => h (List.mem_cons_of_mem b h')), Except.map]

theorem cstr_eq_ok {buf : Buffer} {K : Bytes} (h : cstr buf = .ok K) :
    0 ∉ K ∧ ∃ rest, buf = K ++ 0 :: rest := by
  induction buf generalizing K with
  | nil => simp [cstr] at h
  | cons b buf ih =>
    by_cases hb : b = 0
    · simp only [cstr, hb, if_true, Except.ok.injEq] at h
      subst h hb
      exact ⟨List.not_mem_nil 0, buf, rfl⟩
    cases hr : cstr buf with
    | error e => simp [cstr, hb, hr, Except.map] at h
    | ok K' =>
      simp only [cstr, hb, if_false, hr, Except.map, Except.ok.injEq] at h
      subst h
      obtain ⟨hK', rest, rfl⟩ := ih hr
      exact ⟨by simp [Ne.symm hb, hK'], rest, rfl⟩

@[simp] theorem cstr_cbuf {s : Bytes} (hs : 0 ∉ s) : cstr (cbuf s) = .ok s := cstr_append hs []

theorem length_realloc (buf : Buffer) (n : Nat) (fill : UInt8) :
    (realloc buf n fill).length = n := by
  simp only [realloc, List.length_append, List.length_take, List.length_replicate]
  omega

theorem realloc_append {pre : Buffer} (M : Buffer) {n : Nat} (h : pre.length ≤ n) (fill : UInt8) :
    realloc (pre ++ M) n fill = pre ++ realloc M (n - pre.length) fill := by
  simp only [realloc, List.take_append_eq_append_take, List.take_of_length_le h,
    List.length_append, List.append_assoc, Nat.sub_sub]

/-- `buf[k] = b`. A store past the block is undefined. -/
def store (buf : Buffer) (k : Nat) (b : UInt8) : Except Fault Buffer :=
  if k < buf.length then .ok (buf.set k b) else .error .outOfBounds

theorem store_append (pre : Buffer) (x : UInt8) (M : Buffer) (b : UInt8) :
    store (pre ++ x :: M) pre.length b = .ok (pre ++ b :: M) := by
  simp [store, List.set_append_right]

theorem store_length (buf : Buffer) (b : UInt8) : store buf buf.length b = .error .outOfBounds := by
  simp [store]

/-- Stores the bytes of `bs` one after another, from `buf[k]` on. -/
def storeAll (buf : Buffer) (k : Nat) : Bytes → Except Fault Buffer
  | [] => .ok buf
  | b :: bs => store buf k b >>= fun buf => storeAll buf (k + 1) bs

theorem storeAll_append (pre mid post : Buffer) (bs : Bytes) (h : bs.length = mid.length) :
    storeAll (pre ++ mid ++ post) pre.length bs = .ok (pre ++ bs ++ post) := by
  induction bs generalizing pre mid with
  | nil =>
    rw [List.length_nil, eq_comm, List.length_eq_zero] at h
    simp [storeAll, h]
  | cons b bs ih =>
    obtain ⟨m, mid, rfl⟩ := List.exists_cons_of_length_eq_add_one h.symm
    have hset : (pre ++ m :: mid ++ post).set pre.length b = pre ++ [b] ++ mid ++ post := by
      simp [List.set_append_right]
    have hstore : store (pre ++ m :: mid ++ post) pre.length b = .ok (pre ++ [b] ++ mid ++ post) := by
      simp [store, hset]
    simp only [storeAll, hstore, bind, Except.bind]
    simpa using ih (pre ++ [b]) mid (by simpa using h)

theorem storeAll_append_left (pre M : Buffer) (bs : Bytes) (h : bs.length ≤ M.length) :
    storeAll (pre ++ M) pre.length bs = .ok (pre ++ bs ++ M.drop bs.length) := by
  have := storeAll_append pre (M.take bs.length) (M.drop bs.length) bs (by simp [h])
  rwa [List.append_assoc, List.take_append_drop] at this

theorem storeAll_outOfBounds (pre M : Buffer) (bs : Bytes) (h : M.length < bs.length) :
    storeAll (pre ++ M) pre.length bs = .error .outOfBounds := by
  induction bs generalizing pre M with
  | nil => simp at h
  | cons b bs ih =>
    cases M with
    | nil => simp [storeAll, List.append_nil, store_length, bind, Except.bind]
    | cons x M =>
      have hnext := ih (pre ++ [b]) M (by simpa using h)
      simp only [List.length_append, List.length_singleton, List.append_assoc,
        List.singleton_append] at hnext
      simp [storeAll, store_append, bind, Except.bind, hnext]

/-- `stpncpy(buf + k, src, n)`: at most `n` bytes of `src`, then NULs up to `n` bytes, and the
offset where the copy of `src` ends. -/
def stpncpy (buf : Buffer) (k : Nat) (src : Bytes) (n : Nat) : Except Fault (Buffer × Nat) :=
  (storeAll buf k (src.take n ++ List.replicate (n - src.length) 0)).map (·, k + min src.length n)

/-- `stpncpy` bounded by the length of its source copies the source and no NUL. -/
theorem stpncpy_append_length (pre M : Buffer) (k : Nat) (hk : pre.length = k) (src : Bytes)
    (h : src.length ≤ M.length) :
    stpncpy (pre ++ M) k src src.length = .ok (pre ++ src ++ M.drop src.length, k + src.length) := by
  subst hk
  simp [stpncpy, storeAll_append_left pre M src h, Except.map]

end MedusaWebForm
