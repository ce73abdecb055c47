import MedusaWebForm.ModuleData

/-!
# Header values

`_findHeaderValue` finds a header by a case-insensitive search for `\r\n<Name>:`, skips the white
space after the colon with `isspace`, and copies the bytes up to the next `\r` or `\n`. Both loops
run on the raw pointer: the first stops at the NUL, since `isspace(0)` is false, but the second
tests only for `\r` and `\n`, so on a value with no line end after it the scan runs past the end of
the buffer. The skip is `isspace`, not the space and tab of an HTTP header, so a value that is empty
on its own line is taken from the next line.
-/

namespace MedusaWebForm

def isEol (c : UInt8) : Bool := c == 13 || c == 10

/-- What `_findHeaderValue` hands back when the header is there: the value it copied, and the
offset into `src` of `eolPtr`, where it leaves `*prevPos`. -/
structure HeaderValue where
  value : Bytes
  next : Nat
  deriving DecidableEq, Repr

/-- `_findHeaderValue(header, src, prevPos)`. -/
def findHeaderValue (header : Bytes) : Option Bytes → Except Fault (Option HeaderValue)
  | none => .ok none
  | some src =>
    match strcasestr src header with
    | none => .ok none
    | some i =>
      let rest := src.drop (i + header.length)
      let start := rest.dropWhile isspace
      if start.any isEol then
        let value := start.takeWhile (!isEol ·)
        .ok (some ⟨value, i + header.length + (rest.takeWhile isspace).length + value.length⟩)
      else .error .overread

/-- The needle of `findLocationHeaderValue`. -/
def LOCATION_NEEDLE : Bytes := ascii "\r\nLocation:"

/-- `findLocationHeaderValue(src)`. -/
def findLocationHeaderValue (src : Option Bytes) : Except Fault (Option Bytes) :=
  (findHeaderValue LOCATION_NEEDLE src).map (·.map HeaderValue.value)

theorem findHeaderValue_eq_ok_none {header src : Bytes} :
    findHeaderValue header (some src) = .ok none ↔ strcasestr src header = none := by
  simp only [findHeaderValue]
  split
  · simp_all
  · split_ifs <;> simp_all

theorem findHeaderValue_eq_some {header src : Bytes} {i : Nat} (hi : strcasestr src header = some i)
    (heol : ((src.drop (i + header.length)).dropWhile isspace).any isEol) :
    findHeaderValue header (some src) = .ok (some ⟨
      ((src.drop (i + header.length)).dropWhile isspace).takeWhile (!isEol ·),
      i + header.length + ((src.drop (i + header.length)).takeWhile isspace).length +
        (((src.drop (i + header.length)).dropWhile isspace).takeWhile (!isEol ·)).length⟩) := by
  simp only [findHeaderValue, hi, heol, if_true]

theorem drop_next_eq {rest : Bytes} (k : Nat) (src : Bytes) (hrest : src.drop k = rest) :
    src.drop (k + (rest.takeWhile isspace).length +
        ((rest.dropWhile isspace).takeWhile (!isEol ·)).length) =
      (rest.dropWhile isspace).dropWhile (!isEol ·) := by
  rw [← List.drop_drop, ← List.drop_drop, hrest, drop_length_takeWhile, drop_length_takeWhile]

/-- For a needle `\r\n<Name>:` and a NUL-terminated `src`: NULL exactly when the needle does not
occur; where it first occurs at `i` and a `\r` or `\n` follows the `isspace` bytes after it, the
value up to that line end, free of `\r`, `\n` and NUL, with the cursor on the line end, past `i`. -/
theorem findHeaderValue_spec (name src : Bytes) (hsrc : 0 ∉ src) :
    let header := CRLF ++ name ++ ascii ":"
    (findHeaderValue header (some src) = .ok none ↔ ∀ i, ¬ MatchesAt src header i) ∧
      ∀ i, MatchesAt src header i → (∀ j < i, ¬ MatchesAt src header j) →
        let start := (src.drop (i + header.length)).dropWhile isspace
        start.any isEol →
        ∃ v next, findHeaderValue header (some src) = .ok (some ⟨v, next⟩) ∧
          v = start.takeWhile (!isEol ·) ∧ (∀ c ∈ v, isEol c = false ∧ c ≠ 0) ∧
          src.drop next = start.dropWhile (!isEol ·) ∧ i < next := by
  intro header
  refine ⟨findHeaderValue_eq_ok_none.trans strcasestr_eq_none, ?_⟩
  intro i hi hfirst start heol
  have hs : strcasestr src header = some i := strcasestr_eq_some.mpr ⟨hi, hfirst⟩
  refine ⟨_, _, findHeaderValue_eq_some hs heol, rfl, fun c hc => ⟨?_, ?_⟩,
    drop_next_eq _ src rfl, ?_⟩
  · simpa using List.mem_takeWhile_imp hc
  · have hsub : start.takeWhile (!isEol ·) ⊆ src :=
      ((List.takeWhile_sublist _).trans ((List.dropWhile_sublist _).trans
        (List.drop_sublist _ _))).subset
    exact fun h0 => hsrc (h0 ▸ hsub hc)
  · have : 0 < header.length := by simp [header, CRLF, ascii]
    omega

theorem findHeaderValue_spec_location : ∃ next,
    findHeaderValue (CRLF ++ ascii "Location" ++ ascii ":")
      (some (ascii "HTTP/1.1 302 Found\r\nLocation: /a\r\n")) = .ok (some ⟨ascii "/a", next⟩) := by
  obtain ⟨v, next, h, hv, -⟩ := (findHeaderValue_spec (ascii "Location")
    (ascii "HTTP/1.1 302 Found\r\nLocation: /a\r\n") (by decide)).2 18 (by decide)
    (by decide) (by decide)
  have hv' : v = ascii "/a" := hv.trans (by decide)
  exact ⟨next, hv' ▸ h⟩

/-- A value that is empty on its own line is taken from the next line, and a value with no line
end after it is read past the NUL. -/
theorem findHeaderValue_next_line_and_overread :
    findHeaderValue LOCATION_NEEDLE (some (ascii "\r\nLocation:\r\nX: y\r\n")) =
        .ok (some ⟨ascii "X: y", 17⟩) ∧
      findHeaderValue LOCATION_NEEDLE (some (ascii "\r\nLocation: /a")) = .error .overread := by
  decide

end MedusaWebForm
