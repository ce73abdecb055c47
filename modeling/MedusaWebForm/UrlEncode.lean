import MedusaWebForm.ModuleData

/-!
# URL-encoding the password

`urlencodeup` sizes its buffer for three bytes a byte, keeps `[A-Za-z0-9]`, and writes every other
byte with `snprintf` of `%%%02X` on the `unsigned int` cast of the `char`, advancing by three. On
ASCII this is the percent-encoding of §4.A (`percentEncode`); a byte of `0x80` and above is a
negative `char`, the cast sign-extends it, and `snprintf` writes six digits and its NUL, past the
buffer when the byte is one of the last two (`urlencodeup_eq`).
-/

namespace MedusaWebForm

/-! ### The code -/

/-- The value of a plain `char`, which is signed on x86-64. -/
def charValue (c : UInt8) : Int := if c.toNat < 128 then c.toNat else c.toNat - 256

/-- `(unsigned int) v`: `v` modulo `2^32`. -/
def toUnsignedInt (v : Int) : Nat := (v % 2 ^ 32).toNat

/-- Modelled from the spec: `BETWEEN(lo, c, hi)` of `web-form.h`, the range test that makes up
§4.A's `[A-Za-z0-9]`. -/
def BETWEEN (lo c hi : Int) : Bool := lo ≤ c && c ≤ hi

/-- The test of the loop of `urlencodeup`, on the `char` the loop reads. -/
def urlencodeKeeps (c : UInt8) : Bool :=
  BETWEEN 97 (charValue c) 122 || BETWEEN 65 (charValue c) 90 || BETWEEN 48 (charValue c) 57

def hexDigit (d : Nat) : UInt8 := if d < 10 then UInt8.ofNat (48 + d) else UInt8.ofNat (55 + d)

/-- The digits `%X` prints for `u`, most significant first and with no leading zero, from at most
`fuel` of them. -/
def hexDigitsAux : Nat → Nat → Bytes
  | 0, _ => []
  | fuel + 1, u => (if u < 16 then [] else hexDigitsAux fuel (u / 16)) ++ [hexDigit (u % 16)]

/-- `%X` of an `unsigned int`, which has at most eight hex digits. -/
def hexDigits (u : Nat) : Bytes := hexDigitsAux 8 u

/-- `%02X`: the digits, padded with `0` on the left to two. -/
def hex02 (u : Nat) : Bytes := List.replicate (2 - (hexDigits u).length) 48 ++ hexDigits u

/-- Modelled from the spec: `URL_ENCODE_BYTE_FMT` of `web-form.h`. §4.A has a byte written as `%`
and its two uppercase hex digits, the format `%%%02X`. -/
def URL_ENCODE_BYTE_FMT : Bytes := ascii "%%%02X"

/-- `sizeof(URL_ENCODE_BYTE_FMT)`: the literal and its NUL. -/
def URL_ENCODE_BYTE_FMT_SIZE : Nat := URL_ENCODE_BYTE_FMT.length + 1

/-- What `printf` makes of `URL_ENCODE_BYTE_FMT` with the argument `u`. -/
def urlEncodeByte (u : Nat) : Bytes := 37 :: hex02 u

/-- `snprintf(buf + k, n, ...)` whose full output is `out`: at most `n - 1` bytes of it and a NUL. -/
def snprintf (buf : Buffer) (k n : Nat) (out : Bytes) : Except Fault Buffer :=
  if n = 0 then .ok buf else storeAll buf k (out.take (n - 1) ++ [0])

/-- The loop of `urlencodeup` over the bytes left, from the write offset `j`; it returns the block
and the final `j`. -/
def urlencodeLoop (buf : Buffer) (j : Nat) : Bytes → Except Fault (Buffer × Nat)
  | [] => .ok (buf, j)
  | c :: s =>
    if urlencodeKeeps c then
      store buf j c >>= fun buf => urlencodeLoop buf (j + 1) s
    else
      snprintf buf j URL_ENCODE_BYTE_FMT_SIZE (urlEncodeByte (toUnsignedInt (charValue c))) >>=
        fun buf => urlencodeLoop buf (j + 3) s

/-- `urlencodeup(szStr)`: the C string left in the block it returns. -/
def urlencodeup (szStr : Bytes) : Except Fault Bytes := do
  let (buf, j) ← urlencodeLoop (calloc (szStr.length * 3 + 1)) 0 szStr
  let buf ← store buf j 0
  cstr buf

/-! ### Percent-encoding -/

def isAlnum (c : UInt8) : Bool :=
  (97 ≤ c && c ≤ 122) || (65 ≤ c && c ≤ 90) || (48 ≤ c && c ≤ 57)

def isUpperHex (c : UInt8) : Bool := isdigit c || (65 ≤ c && c ≤ 70)

/-- §4.A: a byte of `[A-Za-z0-9]` stands for itself, any other is `%` and its two hex digits. -/
def percentEncodeByte (c : UInt8) : Bytes :=
  if isAlnum c then [c] else [37, hexDigit (c.toNat / 16), hexDigit (c.toNat % 16)]

def percentEncode (s : Bytes) : Bytes := s.flatMap percentEncodeByte

def hexValue (c : UInt8) : Option Nat :=
  if isdigit c then some (c.toNat - 48)
  else if 65 ≤ c && c ≤ 70 then some (c.toNat - 55)
  else if 97 ≤ c && c ≤ 102 then some (c.toNat - 87)
  else none

def percentTriple (c : UInt8) : Bytes → Option UInt8
  | h :: l :: _ =>
    if c = 37 then (hexValue h).bind fun a => (hexValue l).map fun b => UInt8.ofNat (16 * a + b)
    else none
  | _ => none

/-- Percent-decoding, with `skip` the digits of a `%XX` still to pass over. -/
def percentDecodeAux : Nat → Bytes → Bytes
  | _, [] => []
  | skip + 1, _ :: t => percentDecodeAux skip t
  | 0, c :: t =>
    match percentTriple c t with
    | some b => b :: percentDecodeAux 2 t
    | none => c :: percentDecodeAux 0 t

/-- Percent-decoding: `%` and two hex digits is the byte they spell; any other byte stands for
itself. -/
def percentDecode (s : Bytes) : Bytes := percentDecodeAux 0 s

/-- The strings made of `[A-Za-z0-9]` and of `%XX` with two uppercase hex digits. -/
inductive Encoded : Bytes → Prop
  | nil : Encoded []
  | alnum {c : UInt8} {s : Bytes} : isAlnum c → Encoded s → Encoded (c :: s)
  | triple {h l : UInt8} {s : Bytes} : isUpperHex h → isUpperHex l → Encoded s →
      Encoded (37 :: h :: l :: s)

/-! ### Hex digits -/

theorem hexDigit_isUpperHex : ∀ d < 16, isUpperHex (hexDigit d) := by decide

theorem hexValue_hexDigit : ∀ d < 16, hexValue (hexDigit d) = some d := by decide

theorem hex02_of_lt {u : Nat} (hu : u < 256) : hex02 u = [hexDigit (u / 16), hexDigit (u % 16)] := by
  by_cases h16 : u < 16
  · simp [hex02, hexDigits, hexDigitsAux, h16, Nat.div_eq_of_lt h16, Nat.mod_eq_of_lt h16]
    decide
  · have hq : u / 16 < 16 := by omega
    simp [hex02, hexDigits, hexDigitsAux, h16, hq, Nat.mod_eq_of_lt hq]

theorem percentDecode_cons_of_ne {c : UInt8} (hc : c ≠ 37) (rest : Bytes) :
    percentDecode (c :: rest) = c :: percentDecode rest := by
  have : percentTriple c rest = none := by
    match rest with
    | [] | [_] => rfl
    | _ :: _ :: _ => simp [percentTriple, hc]
  simp [percentDecode, percentDecodeAux, this]

theorem percentDecode_percentEncodeByte (c : UInt8) (rest : Bytes) :
    percentDecode (percentEncodeByte c ++ rest) = c :: percentDecode rest := by
  have hc : c.toNat < 256 := c.toNat_lt_size
  by_cases hk : isAlnum c
  · have h37 : c ≠ 37 := by rintro rfl; exact absurd hk (by decide)
    simp [percentEncodeByte, hk, percentDecode_cons_of_ne h37]
  · have hbyte : UInt8.ofNat (16 * (c.toNat / 16) + c.toNat % 16) = c :=
      UInt8.toNat.inj (by rw [UInt8.toNat_ofNat_of_lt (by omega : _ < 256)]; omega)
    simp [percentEncodeByte, hk, percentDecode, percentDecodeAux, percentTriple,
      hexValue_hexDigit _ (by omega : c.toNat / 16 < 16),
      hexValue_hexDigit _ (by omega : c.toNat % 16 < 16), hbyte]

theorem percentDecode_flatMap_append {f : UInt8 → Bytes} {g : UInt8 → UInt8}
    (hf : ∀ c rest, percentDecode (f c ++ rest) = g c :: percentDecode rest) (s rest : Bytes) :
    percentDecode (s.flatMap f ++ rest) = s.map g ++ percentDecode rest := by
  induction s with
  | nil => rfl
  | cons c s ih => rw [List.flatMap_cons, List.append_assoc, hf, ih, List.map_cons, List.cons_append]

theorem encoded_percentEncode (s : Bytes) : Encoded (percentEncode s) := by
  induction s with
  | nil => exact .nil
  | cons c s ih =>
    have hc : c.toNat < 256 := c.toNat_lt_size
    rw [percentEncode, List.flatMap_cons, ← percentEncode]
    by_cases hk : isAlnum c
    · simpa [percentEncodeByte, hk] using Encoded.alnum hk ih
    · simpa [percentEncodeByte, hk] using Encoded.triple (hexDigit_isUpperHex _ (by omega))
        (hexDigit_isUpperHex _ (by omega)) ih

theorem Encoded.zero_not_mem {e : Bytes} (he : Encoded e) : 0 ∉ e := by
  induction he with
  | nil => exact List.not_mem_nil 0
  | alnum hc _ ih => rintro (_ | ⟨_, h⟩) <;> [exact absurd hc (by decide); exact ih h]
  | triple hh hl _ ih =>
    rintro (_ | ⟨_, _ | ⟨_, _ | ⟨_, h⟩⟩⟩)
    · exact absurd hh (by decide)
    · exact absurd hl (by decide)
    · exact ih h

theorem length_percentEncode (s : Bytes) :
    (percentEncode s).length = s.length + 2 * (s.filter (!isAlnum ·)).length := by
  induction s with
  | nil => rfl
  | cons c s ih =>
    rw [percentEncode, List.flatMap_cons, ← percentEncode, List.length_append, ih]
    by_cases hk : isAlnum c <;> simp [percentEncodeByte, hk, List.filter_cons] <;> omega

/-! ### What the loop writes

A byte the loop keeps is stored as it is. Any other is written by `snprintf` with its NUL: four
bytes below `0x80`, and seven above, since `%02X` prints the sign-extended byte with eight digits.
Of those, the three that `j` advances over stay; the rest is overwritten by the next pass or left
past the final NUL. -/

/-- What the loop leaves in the block for `c`: its percent-encoding below `0x80`, and `%FF` above,
the first three bytes `snprintf` writes for a negative `char`. -/
def urlencodeImage (c : UInt8) : Bytes :=
  if c.toNat < 128 then percentEncodeByte c else ascii "%FF"

/-- How many bytes the loop writes for `c` from its offset `j`. -/
def urlencodeWidth (c : UInt8) : Nat := if isAlnum c then 1 else if c.toNat < 128 then 4 else 7

theorem charValue_of_lt {c : UInt8} (hc : c.toNat < 128) : charValue c = c.toNat := by
  simp [charValue, hc]

/-- The loop's range tests, made on a signed `char`, keep exactly `[A-Za-z0-9]`. -/
theorem urlencodeKeeps_eq_isAlnum (c : UInt8) : urlencodeKeeps c = isAlnum c := by
  have hc : c.toNat < 256 := c.toNat_lt_size
  rw [Bool.eq_iff_iff]
  simp only [urlencodeKeeps, isAlnum, BETWEEN, charValue, uint8_le_iff_toNat_le, Bool.or_eq_true,
    Bool.and_eq_true, decide_eq_true_eq]
  split <;> simp [UInt8.size]
  all_goals omega

theorem toNat_lt_of_isAlnum {c : UInt8} (hk : isAlnum c = true) : c.toNat < 128 := by
  simp [isAlnum, uint8_le_iff_toNat_le, UInt8.size] at hk
  omega

theorem length_urlencodeImage (c : UInt8) :
    (urlencodeImage c).length = if isAlnum c then 1 else 3 := by
  by_cases hk : isAlnum c
  · simp [urlencodeImage, toNat_lt_of_isAlnum hk, percentEncodeByte, hk]
  · by_cases hlt : c.toNat < 128
    · simp [urlencodeImage, percentEncodeByte, hk, hlt]
    · rw [urlencodeImage, if_neg hlt, if_neg hk]
      rfl

theorem hexDigitsAux_of_ge {u : Nat} (hu : 16 ≤ u) (fuel : Nat) :
    hexDigitsAux (fuel + 1) u = hexDigitsAux fuel (u / 16) ++ [hexDigit (u % 16)] := by
  simp [hexDigitsAux, Nat.not_lt.mpr hu]

/-- `%X` of a sign-extended byte starts with five `F`s. -/
theorem hexDigits_signExtended {u : Nat} (hlo : 0xFFFFF000 ≤ u) (hhi : u < 2 ^ 32) :
    ∃ t, hexDigits u = ascii "FFFFF" ++ t := by
  have htop : u / 16 / 16 / 16 = 0xFFFFF := by omega
  rw [hexDigits, hexDigitsAux_of_ge (by omega), hexDigitsAux_of_ge (by omega),
    hexDigitsAux_of_ge (by omega), htop]
  exact ⟨_, by simp only [List.append_assoc]; rfl⟩

theorem snprintf_urlEncodeByte {c : UInt8} (hk : isAlnum c = false) (buf : Buffer) (k : Nat) :
    snprintf buf k URL_ENCODE_BYTE_FMT_SIZE (urlEncodeByte (toUnsignedInt (charValue c))) =
      storeAll buf k (urlencodeImage c ++ if c.toNat < 128 then [0] else ascii "FFF" ++ [0]) := by
  have hc : c.toNat < 256 := c.toNat_lt_size
  rw [snprintf, if_neg (by decide)]
  by_cases hlt : c.toNat < 128
  · have hu : toUnsignedInt (charValue c) = c.toNat := by
      simp only [toUnsignedInt, charValue_of_lt hlt]
      omega
    rw [hu, urlEncodeByte, hex02_of_lt (by omega), urlencodeImage, if_pos hlt, if_pos hlt,
      percentEncodeByte, if_neg (by simp [hk])]
    rfl
  · have hu : toUnsignedInt (charValue c) = c.toNat + (2 ^ 32 - 256) := by
      simp only [toUnsignedInt, charValue, if_neg hlt]
      omega
    obtain ⟨t, ht⟩ : ∃ t, hexDigits (c.toNat + (2 ^ 32 - 256)) = ascii "FFFFF" ++ t :=
      hexDigits_signExtended (by omega) (by omega)
    have hpad : 2 - (ascii "FFFFF" ++ t).length = 0 := by
      rw [List.length_append, show (ascii "FFFFF").length = 5 from rfl]
      omega
    rw [hu, urlEncodeByte, hex02, ht, hpad, List.replicate_zero, List.nil_append, urlencodeImage,
      if_neg hlt, if_neg hlt]
    rfl

theorem length_snprintf_urlEncodeByte {c : UInt8} (hk : isAlnum c = false) :
    (urlencodeImage c ++ if c.toNat < 128 then [0] else ascii "FFF" ++ [0]).length =
      urlencodeWidth c := by
  by_cases hlt : c.toNat < 128 <;> simp [length_urlencodeImage, urlencodeWidth, hk, hlt]
  all_goals decide

/-! ### The loop -/

/-- Whether every write of the loop over `s` stays within the `room` bytes from its offset on. -/
def urlencodeFits (room : Nat) : Bytes → Bool
  | [] => true
  | c :: s => decide (urlencodeWidth c ≤ room) && urlencodeFits (room - (urlencodeImage c).length) s

/-- When `urlencodeup` writes past its block: the last byte is `0x80` or above, and at most one
byte before it is kept. -/
def urlencodeOverflows (s : Bytes) : Bool :=
  s.getLast?.any (fun c => decide (128 ≤ c.toNat)) &&
    decide ((s.dropLast.filter isAlnum).length ≤ 1)

theorem urlencodeLoop_cons (c : UInt8) (s : Bytes) (pre M : Buffer) :
    (urlencodeWidth c ≤ M.length → ∃ M' : Buffer, M'.length = M.length - (urlencodeImage c).length ∧
      urlencodeLoop (pre ++ M) pre.length (c :: s) =
        urlencodeLoop (pre ++ urlencodeImage c ++ M') (pre ++ urlencodeImage c).length s) ∧
    (M.length < urlencodeWidth c →
      urlencodeLoop (pre ++ M) pre.length (c :: s) = .error .outOfBounds) := by
  have himage := length_urlencodeImage c
  by_cases hk : isAlnum c
  · have hone : urlencodeImage c = [c] := by
      simp [urlencodeImage, toNat_lt_of_isAlnum hk, percentEncodeByte, hk]
    simp only [urlencodeLoop, urlencodeKeeps_eq_isAlnum, hk, if_true, urlencodeWidth, hone]
    constructor
    · intro hM
      obtain ⟨x, M, rfl⟩ := List.exists_cons_of_length_pos hM
      exact ⟨M, by simp, by simp [store_append, bind, Except.bind]⟩
    · intro hM
      obtain rfl : M = [] := List.length_eq_zero.mp (by omega)
      rw [List.append_nil, store_length]
      rfl
  · simp only [Bool.not_eq_true] at hk
    have hw := length_snprintf_urlEncodeByte hk
    simp only [urlencodeLoop, urlencodeKeeps_eq_isAlnum, hk, Bool.false_eq_true, if_false,
      snprintf_urlEncodeByte hk]
    simp only [hk, Bool.false_eq_true, if_false] at himage
    constructor
    · intro hM
      refine ⟨(if c.toNat < 128 then [0] else ascii "FFF" ++ [0]) ++
        M.drop (urlencodeWidth c), ?_, ?_⟩
      · simp only [List.length_append, List.length_drop] at hw ⊢
        omega
      · rw [storeAll_append_left pre M _ (by omega), hw]
        simp [bind, Except.bind, himage]
    · intro hM
      rw [storeAll_outOfBounds pre M _ (by omega)]
      rfl

theorem urlencodeLoop_append (s : Bytes) (pre M : Buffer) :
    (urlencodeFits M.length s = true → ∃ M' : Buffer,
      M'.length = M.length - (s.flatMap urlencodeImage).length ∧
      urlencodeLoop (pre ++ M) pre.length s =
        .ok (pre ++ s.flatMap urlencodeImage ++ M',
          pre.length + (s.flatMap urlencodeImage).length)) ∧
    (urlencodeFits M.length s = false →
      urlencodeLoop (pre ++ M) pre.length s = .error .outOfBounds) := by
  induction s generalizing pre M with
  | nil => exact ⟨fun _ => ⟨M, by simp, by simp [urlencodeLoop]⟩, fun h => by cases h⟩
  | cons c s ih =>
    obtain ⟨hfits, hfault⟩ := urlencodeLoop_cons c s pre M
    simp only [urlencodeFits, Bool.and_eq_true, decide_eq_true_eq, Bool.and_eq_false_iff,
      decide_eq_false_iff_not, Nat.not_le]
    constructor
    · rintro ⟨hw, hs⟩
      obtain ⟨M', hM', hloop⟩ := hfits hw
      obtain ⟨M'', hM'', hrest⟩ := (ih _ M').1 (hM' ▸ hs)
      refine ⟨M'', by simp [hM'', hM', Nat.sub_sub], ?_⟩
      rw [hloop, hrest]
      simp [List.append_assoc, Nat.add_assoc]
    · rintro (hw | hs)
      · exact hfault hw
      · by_cases hw : urlencodeWidth c ≤ M.length
        · obtain ⟨M', hM', hloop⟩ := hfits hw
          rw [hloop]
          exact (ih _ M').2 (hM' ▸ hs)
        · exact hfault (by omega)

/-- The block has `3|s| + 1` bytes, so before the loop reaches a byte there is a slack of `4`
and two for every byte kept before it: only a last byte of `0x80` and above can run out. -/
theorem urlencodeFits_eq (s : Bytes) (kept room : Nat) (hroom : room = 3 * s.length + 1 + 2 * kept) :
    urlencodeFits room s = !(s.getLast?.any (fun c => decide (128 ≤ c.toNat)) &&
      decide (kept + (s.dropLast.filter isAlnum).length ≤ 1)) := by
  induction s generalizing kept room with
  | nil => rfl
  | cons c s ih =>
    have himage := length_urlencodeImage c
    rw [urlencodeFits]
    cases s with
    | nil =>
      subst hroom
      by_cases hk : isAlnum c
      · simp [urlencodeFits, urlencodeWidth, hk, Nat.not_le.mpr (toNat_lt_of_isAlnum hk),
          show 1 ≤ 4 + 2 * kept by omega]
      · rcases Nat.lt_or_ge c.toNat 128 with hlt | hge
        · simp [urlencodeFits, urlencodeWidth, hk, hlt, Nat.not_le.mpr hlt]
        · rw [Bool.eq_iff_iff]
          simp [urlencodeFits, urlencodeWidth, hk, hge, Nat.not_lt.mpr hge]
          omega
    | cons d s =>
      simp only [List.length_cons] at hroom ih
      by_cases hk : isAlnum c
      · rw [ih (kept + 1) (room - (urlencodeImage c).length) (by simp [hk] at himage; omega)]
        simp only [urlencodeWidth, hk, if_true, List.getLast?_cons_cons, List.dropLast_cons₂,
          List.filter_cons_of_pos hk, List.length_cons, decide_eq_true (by omega : 1 ≤ room),
          Bool.true_and, Nat.add_right_comm kept 1]
        rfl
      · rw [ih kept (room - (urlencodeImage c).length) (by simp [hk] at himage; omega)]
        simp only [List.getLast?_cons_cons, List.dropLast_cons₂, List.filter_cons_of_neg hk]
        have : urlencodeWidth c ≤ room := by
          unfold urlencodeWidth; split_ifs <;> omega
        simp only [decide_eq_true this, Bool.true_and]

/-! ### `urlencodeup` -/

theorem length_flatMap_urlencodeImage (s : Bytes) : (s.flatMap urlencodeImage).length ≤ 3 * s.length := by
  induction s with
  | nil => rfl
  | cons c s ih =>
    rw [List.flatMap_cons, List.length_append, List.length_cons, length_urlencodeImage]
    split <;> omega

theorem zero_not_mem_urlencodeImage (s : Bytes) : 0 ∉ s.flatMap urlencodeImage := by
  simp only [List.mem_flatMap, not_exists, not_and]
  intro c _
  by_cases hlt : c.toNat < 128
  · simpa [urlencodeImage, hlt, percentEncode] using (encoded_percentEncode [c]).zero_not_mem
  · simp only [urlencodeImage, hlt, if_false]
    decide

/-- `urlencodeup` on every byte string: it faults exactly when the last byte is `0x80` or above
and at most one byte before it is kept, and otherwise returns the images of the bytes. -/
theorem urlencodeup_eq (s : Bytes) :
    urlencodeup s =
      if urlencodeOverflows s then .error .outOfBounds else .ok (s.flatMap urlencodeImage) := by
  have hfits : urlencodeFits (s.length * 3 + 1) s = !urlencodeOverflows s := by
    rw [urlencodeFits_eq s 0 _ (by omega), Nat.zero_add]
    rfl
  obtain ⟨hok, hfault⟩ := urlencodeLoop_append s [] (calloc (s.length * 3 + 1))
  simp only [List.nil_append, List.length_nil, Nat.zero_add, calloc, List.length_replicate, hfits]
    at hok hfault
  cases hover : urlencodeOverflows s
  · obtain ⟨M', hM', hloop⟩ := hok (by simp [hover])
    obtain ⟨x, M, rfl⟩ := List.exists_cons_of_length_pos
      (by have := length_flatMap_urlencodeImage s; omega : 0 < M'.length)
    have hstore := store_append (s.flatMap urlencodeImage) x M 0
    simp only [urlencodeup, calloc, hloop, bind, Except.bind, hstore, Bool.false_eq_true, if_false]
    exact cstr_append (zero_not_mem_urlencodeImage s) _
  · simp [urlencodeup, calloc, hfault (by simp [hover]), bind, Except.bind]

/-- Two bytes kept in front of a last byte of `0x80` and above give its seven bytes room. -/
example : urlencodeOverflows [97, 98, 0x80] = false ∧ urlencodeOverflows [97, 47, 0x80] = true := by
  decide

theorem percentDecode_urlencodeImage (c : UInt8) (rest : Bytes) :
    percentDecode (urlencodeImage c ++ rest) =
      (if c.toNat < 128 then c else 0xFF) :: percentDecode rest := by
  by_cases hlt : c.toNat < 128
  · simp only [urlencodeImage, hlt, if_true, percentDecode_percentEncodeByte]
  · simp only [urlencodeImage, hlt, if_false]
    rfl

/-- `urlencodeup` on every byte string: it writes past its block exactly when the last byte is
`0x80` or above and at most one byte before it is kept; otherwise it returns the images of the
bytes, which decode to the string with every byte of `0x80` and above read as `0xFF`. -/
theorem urlencodeup_every_byte (s : Bytes) :
    urlencodeup s =
        (if urlencodeOverflows s then .error .outOfBounds else .ok (s.flatMap urlencodeImage)) ∧
      percentDecode (s.flatMap urlencodeImage) =
        s.map fun c => if c.toNat < 128 then c else 0xFF := by
  refine ⟨urlencodeup_eq s, ?_⟩
  simpa [percentDecode, percentDecodeAux] using
    percentDecode_flatMap_append percentDecode_urlencodeImage s []

theorem urlencodeup_eq_percentEncode (s : Bytes) (hs : ∀ c ∈ s, c.toNat < 128) :
    urlencodeup s = .ok (percentEncode s) := by
  have hlast : urlencodeOverflows s = false := by
    cases hl : s.getLast? with
    | none => simp [urlencodeOverflows, hl]
    | some c =>
      simp [urlencodeOverflows, hl, Nat.not_le.mpr (hs c (List.mem_of_getLast?_eq_some hl))]
  have himages : s.flatMap urlencodeImage = percentEncode s :=
    List.flatMap_congr fun c hc => if_pos (hs c hc)
  rw [urlencodeup_eq, hlast, if_neg Bool.false_ne_true, himages]

theorem urlencodeup_spec (s : Bytes) (hs : ∀ c ∈ s, c.toNat < 128) :
    ∃ e, urlencodeup s = .ok e ∧ Encoded e ∧
      e.length = s.length + 2 * (s.filter (!isAlnum ·)).length ∧ e.length ≤ 3 * s.length ∧
      percentDecode e = s := by
  have hdecode : percentDecode (percentEncode s) = s := by
    simpa [percentDecode, percentDecodeAux] using
      percentDecode_flatMap_append percentDecode_percentEncodeByte s []
  refine ⟨percentEncode s, urlencodeup_eq_percentEncode s hs, encoded_percentEncode s,
    length_percentEncode s, ?_, hdecode⟩
  have := List.length_filter_le (!isAlnum ·) s
  rw [length_percentEncode]
  omega

theorem urlencodeup_spec_password :
    ∃ e, urlencodeup (ascii "p@ss w0rd") = .ok e ∧ percentDecode e = ascii "p@ss w0rd" := by
  obtain ⟨e, h, -, -, -, hd⟩ := urlencodeup_spec (ascii "p@ss w0rd") (by decide)
  exact ⟨e, h, hd⟩

/-- A byte of `0x80` and above is written as `%FFFFF` and a NUL: past the block when it is the
last byte, and read back as `0xFF` when two bytes follow it. -/
theorem urlencodeup_high_byte :
    urlencodeup [0x80] = .error .outOfBounds ∧ urlencodeup [0x80, 97, 97] = .ok (ascii "%FFaa") ∧
      percentDecode (ascii "%FFaa") = [0xFF, 97, 97] := by
  decide

end MedusaWebForm
