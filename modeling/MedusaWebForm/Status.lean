import MedusaWebForm.ModuleData

/-!
# The status line

`parseHttpStatusCode` reads the number after the first space of the response's first buffer with
`strtol`, converts the `long` to the 32 bits of `HttpStatusCodeT`, and keeps it if it is one of the
nine statuses the module handles. A line with no space is the only parse error: a line whose space
is followed by no digits reads as 0, which is not a status the module knows, and a number past the
32-bit range is reduced modulo `2^32` before the comparison.
-/

namespace MedusaWebForm

/-- The value an `HttpStatusCodeT` holds after the cast of a `long`: GCC keeps the low 32 bits. -/
def narrow (n : Int) : Int := (n + 2 ^ 31) % 2 ^ 32 - 2 ^ 31

/-- The `switch` of `parseHttpStatusCode`: the status a number stands for. -/
def HttpStatusCode.ofCode (n : Int) : HttpStatusCode :=
  match n with
  | 200 => .ok
  | 301 => .movedPermanently
  | 302 => .found
  | 307 => .temporaryRedirect
  | 308 => .permanentRedirect
  | 400 => .badRequest
  | 401 => .unauthorized
  | 403 => .forbidden
  | 404 => .notFound
  | _ => .notImpl

/-- `parseHttpStatusCode(buf)`; the space is byte 32. -/
def parseHttpStatusCode : Option Bytes → HttpStatusCode
  | none => .parseErr
  | some buf =>
    match strchr buf 32 with
    | none => .parseErr
    | some ptr => .ofCode (narrow (strtol ptr))

theorem narrow_of_mem_range {n : Int} (hlo : -2 ^ 31 ≤ n) (hhi : n < 2 ^ 31) : narrow n = n := by
  unfold narrow
  omega

@[simp] theorem ofCode_ne_parseErr (n : Int) : HttpStatusCode.ofCode n ≠ .parseErr := by
  unfold HttpStatusCode.ofCode
  split <;> decide

theorem ofCode_eq_ok {n : Int} : HttpStatusCode.ofCode n = .ok ↔ n = 200 := by
  unfold HttpStatusCode.ofCode
  split <;> simp_all

theorem parseHttpStatusCode_eq_parseErr {s : Bytes} :
    parseHttpStatusCode (some s) = .parseErr ↔ 32 ∉ s := by
  rw [← strchr_eq_none, parseHttpStatusCode]
  split <;> simp_all

theorem parseHttpStatusCode_append_space {pre : Bytes} (hpre : 32 ∉ pre) (post : Bytes) :
    parseHttpStatusCode (some (pre ++ 32 :: post)) = .ofCode (narrow (strtol post)) := by
  simp only [parseHttpStatusCode, strchr_append_cons hpre, strtol,
    decimalNumeral_space_cons (show isspace 32 by decide)]

/-- The status of a line: a parse error exactly when there is no line or no space in it; past the
first space, the number read there (0 when no digits follow) when it fits in 32 bits, so `HTTP_OK`
only for 200. -/
theorem parseHttpStatusCode_spec (s : Bytes) :
    parseHttpStatusCode none = .parseErr ∧
      (parseHttpStatusCode (some s) = .parseErr ↔ 32 ∉ s) ∧
      ∀ pre post, s = pre ++ 32 :: post → 32 ∉ pre →
        -2 ^ 31 ≤ decimalNumeral post → decimalNumeral post < 2 ^ 31 →
        parseHttpStatusCode (some s) = .ofCode (decimalNumeral post) ∧
          (parseHttpStatusCode (some s) = .ok ↔ decimalNumeral post = 200) := by
  refine ⟨rfl, parseHttpStatusCode_eq_parseErr, ?_⟩
  rintro pre post rfl hpre hlo hhi
  have hnum : narrow (strtol post) = decimalNumeral post := by
    rw [strtol_of_mem_range (by unfold LONG_MIN; omega) (by unfold LONG_MAX; omega),
      narrow_of_mem_range hlo hhi]
  rw [parseHttpStatusCode_append_space hpre, hnum]
  exact ⟨rfl, ofCode_eq_ok⟩

theorem parseHttpStatusCode_spec_status_line :
    parseHttpStatusCode (some (ascii "HTTP/1.1 200 OK")) = .ok :=
  ((parseHttpStatusCode_spec _).2.2 (ascii "HTTP/1.1") (ascii "200 OK") (by decide) (by decide)
    (by decide) (by decide)).2.mpr (by decide)

/-- A space followed by no digits is not a parse error, and `2^32 + 200` reads as `HTTP_OK`. -/
theorem parseHttpStatusCode_no_numeral_and_wrapped_numeral :
    parseHttpStatusCode (some (ascii "HTTP/1.1 OK")) = .notImpl ∧
      parseHttpStatusCode (some (ascii "HTTP/1.1 4294967496 OK")) = .ok := by
  decide

end MedusaWebForm
