import MedusaWebForm.Initialize

/-!
# The option loop of `go`

`go` reads each module argument as `KEY:VALUE`: `strtok_r` with `:` cuts the key, `EQ_TO_STR_CONST`
(modelled from §4.G, since `web-form.h` is not under `src/`) compares it with the five keys, and
`setOption` takes the rest as the value; `CUSTOM-HEADER` appends the value and a CRLF with `asprintf`
the first time and with `reallocarray` and `sprintf` after. An argument with no key leaves the key
NULL, and comparing it is undefined. On arguments that each have a key the loop refines a reading of
the arguments one at a time (`applyArg`), which has the closed form `argOptions`.
-/

namespace MedusaWebForm

/-! ### The loop -/

/-- Modelled from the spec: `EQ_TO_STR_CONST(str, cnst)` of `web-form.h`, an exact match of the C
string `str` against the constant. -/
def EQ_TO_STR_CONST (str : Option Bytes) (cnst : Bytes) : Except Fault Bool := do
  return (← strArg str) == cnst

/-- `setOption(saveptr1, dst, option)`: `strtok_r(NULL, "\0", saveptr1)` has no delimiter, so it
takes the rest of the argument, which becomes the field when there is any. -/
def setOption (saveptr1 : Bytes) (dst : Option Bytes) : Option Bytes :=
  match (strtok_r saveptr1 []).1 with
  | some optarg => some optarg
  | none => dst

/-- The `CUSTOM-HEADER` branch of the loop with the value `option`. The block of the headers holds
their string and its NUL and nothing more, as `asprintf` and each `sprintf` after it leave it;
`fill` is what the allocator leaves in the bytes `reallocarray` adds. -/
def addCustomHeader (fill : UInt8) (o : Options) (option : Bytes) : Except Fault Options := do
  if o.nCustomHeaders = 0 then
    return { o with customHeaders := some (option ++ ascii "\r\n"), nCustomHeaders := 1 }
  let customHeaders ← strArg o.customHeaders
  let length := customHeaders.length
  let buf ← storeAll (realloc (cbuf customHeaders) (length + option.length + 3) fill) length
    (option ++ ascii "\r\n" ++ [0])
  return { o with customHeaders := some (← cstr buf), nCustomHeaders := o.nCustomHeaders + 1 }

/-- One pass of the option loop of `go` over the argument `pOptTmp`. -/
def goOption (fill : UInt8) (o : Options) (pOptTmp : Bytes) : Except Fault Options := do
  let (option, strtokPtr) := strtok_r pOptTmp (ascii ":")
  if ← EQ_TO_STR_CONST option (ascii "FORM") then
    return { o with resourcePath := setOption strtokPtr o.resourcePath }
  if ← EQ_TO_STR_CONST option (ascii "DENY-SIGNAL") then
    return { o with denySignal := setOption strtokPtr o.denySignal }
  if ← EQ_TO_STR_CONST option (ascii "FORM-DATA") then
    return { o with formData := setOption strtokPtr o.formData }
  if ← EQ_TO_STR_CONST option (ascii "USER-AGENT") then
    return { o with userAgentHeader := setOption strtokPtr o.userAgentHeader }
  if ← EQ_TO_STR_CONST option (ascii "CUSTOM-HEADER") then
    match (strtok_r strtokPtr []).1 with
    | some option => return ← addCustomHeader fill o option
    | none => return o
  return o

/-- The option loop of `go(logins, argc, argv)`, from `newModuleData()`: the options `initModule`
starts from. -/
def goOptions (fill : UInt8) (args : List Bytes) : Except Fault Options :=
  args.foldlM (goOption fill) noOptions

/-! ### The arguments one at a time -/

def argKey (a : Bytes) : Bytes := a.takeWhile (· != 58)

def argValue (a : Bytes) : Bytes := (a.dropWhile (· != 58)).drop 1

theorem argValue_subset (a : Bytes) : argValue a ⊆ a := fun _ h =>
  (List.dropWhile_sublist _).subset (List.mem_of_mem_drop h)

def SetsKey (a key : Bytes) : Prop := argKey a = key ∧ argValue a ≠ []

instance (a key : Bytes) : Decidable (SetsKey a key) := inferInstanceAs (Decidable (_ ∧ _))

/-- What an argument does to the options as §4.G reads it: one that sets a key sets its field,
or for `CUSTOM-HEADER` appends its value and a CRLF to the headers; every other argument does
nothing. -/
def applyArg (o : Options) (a : Bytes) : Options where
  resourcePath := if SetsKey a (ascii "FORM") then some (argValue a) else o.resourcePath
  denySignal := if SetsKey a (ascii "DENY-SIGNAL") then some (argValue a) else o.denySignal
  formData := if SetsKey a (ascii "FORM-DATA") then some (argValue a) else o.formData
  userAgentHeader :=
    if SetsKey a (ascii "USER-AGENT") then some (argValue a) else o.userAgentHeader
  customHeaders := if SetsKey a (ascii "CUSTOM-HEADER") then
      some (o.customHeaders.getD [] ++ argValue a ++ ascii "\r\n")
    else o.customHeaders
  nCustomHeaders :=
    if SetsKey a (ascii "CUSTOM-HEADER") then o.nCustomHeaders + 1 else o.nCustomHeaders

theorem zero_not_mem_crlf : (0 : UInt8) ∉ ascii "\r\n" := by decide

/-- What the loop keeps of the custom headers: no block before the first one, and a C string
from then on. -/
structure HeadersInvariant (o : Options) : Prop where
  none_of_zero : o.nCustomHeaders = 0 → o.customHeaders = none
  some_of_ne_zero : o.nCustomHeaders ≠ 0 → o.customHeaders ≠ none
  cstring : ∀ ch, o.customHeaders = some ch → 0 ∉ ch

theorem noOptions_headersInvariant : HeadersInvariant noOptions :=
  ⟨fun _ => rfl, fun h => absurd rfl h, fun _ h => by cases h⟩

theorem applyArg_headersInvariant {o : Options} (hinv : HeadersInvariant o) {a : Bytes}
    (hnul : 0 ∉ argValue a) : HeadersInvariant (applyArg o a) := by
  by_cases hc : SetsKey a (ascii "CUSTOM-HEADER")
  · have hold : 0 ∉ o.customHeaders.getD [] := by
      cases hch : o.customHeaders
      · simp
      · exact hinv.3 _ hch
    refine ⟨fun h => ?_, fun _ => by simp [applyArg, hc], fun ch h => ?_⟩
    · simp [applyArg, hc] at h
    · simp only [applyArg, hc, if_true, Option.some.injEq] at h
      simp [← h, hold, hnul, zero_not_mem_crlf]
  · simp only [applyArg, hc, if_false]
    exact ⟨hinv.1, hinv.2, hinv.3⟩

/-! ### One argument -/

theorem strtok_r_colon {a : Bytes} (ha : a ≠ []) (hhead : a.head? ≠ some 58) :
    strtok_r a (ascii ":") = (some (argKey a), argValue a) := by
  obtain ⟨c, rest, rfl⟩ := List.exists_cons_of_ne_nil ha
  have hc : c ≠ 58 := fun h => hhead (by simp [h])
  have hcolon : ascii ":" = [58] := rfl
  refine strtok_r_eq_some.mpr ⟨[], (c :: rest).dropWhile (· != 58), ?_, ?_, ?_, ?_, ?_⟩
  · simp
  · simp [argKey, List.takeWhile_cons, hc]
  · intro x hx hx58
    have := List.mem_takeWhile_imp hx
    simp_all [hcolon]
  · rw [List.nil_append, argKey, List.takeWhile_append_dropWhile]
  · cases htail : (c :: rest).dropWhile (· != 58) with
    | nil => simp [argValue, htail]
    | cons d save =>
      have hd : d = 58 := by simpa using dropWhile_eq_cons htail
      exact .inr ⟨d, by simp [hd, hcolon], by simp [argValue, htail]⟩

theorem setOption_eq (saveptr1 : Bytes) (dst : Option Bytes) :
    setOption saveptr1 dst = if saveptr1 = [] then dst else some saveptr1 := by
  by_cases h : saveptr1 = [] <;> simp [setOption, strtok_r_nil, h]

theorem storeAll_realloc_cbuf (ch option : Bytes) (fill : UInt8) :
    storeAll (realloc (cbuf ch) (ch.length + option.length + 3) fill) ch.length
      (option ++ ascii "\r\n" ++ [0]) = .ok (cbuf (ch ++ option ++ ascii "\r\n")) := by
  have hgrow : realloc (cbuf ch) (ch.length + option.length + 3) fill =
      ch ++ (0 :: List.replicate (option.length + 2) fill) ++ [] := by
    rw [cbuf, realloc_append _ (by omega), List.append_nil,
      show ch.length + option.length + 3 - ch.length = option.length + 2 + 1 by omega]
    simp [realloc]
  rw [hgrow, storeAll_append ch (0 :: List.replicate (option.length + 2) fill) []
    (option ++ ascii "\r\n" ++ [0]) (by simp [ascii])]
  simp [cbuf]

theorem addCustomHeader_eq (fill : UInt8) {o : Options} (hinv : HeadersInvariant o) {option : Bytes}
    (hnul : 0 ∉ option) :
    addCustomHeader fill o option = .ok { o with
      customHeaders := some (o.customHeaders.getD [] ++ option ++ ascii "\r\n"),
      nCustomHeaders := o.nCustomHeaders + 1 } := by
  by_cases hn : o.nCustomHeaders = 0
  · simp [addCustomHeader, hn, hinv.1 hn, pure, Except.pure]
  obtain ⟨ch, hch⟩ := Option.ne_none_iff_exists'.mp (hinv.2 hn)
  have hnew : 0 ∉ ch ++ option ++ ascii "\r\n" := by simp [hinv.3 ch hch, hnul, zero_not_mem_crlf]
  simp only [addCustomHeader, hn, if_false, hch, strArg, storeAll_realloc_cbuf, cstr_cbuf hnew,
    bind, Except.bind, pure, Except.pure, Option.getD_some]

theorem goOption_eq {o : Options} (hinv : HeadersInvariant o) {a : Bytes} (ha : a ≠ [])
    (hhead : a.head? ≠ some 58) (hnul : 0 ∉ a) (fill : UInt8) :
    goOption fill o a = .ok (applyArg o a) := by
  have hv : 0 ∉ argValue a := fun h => hnul (argValue_subset a h)
  simp only [goOption, strtok_r_colon ha hhead, EQ_TO_STR_CONST, strArg, setOption_eq, strtok_r_nil,
    bind, Except.bind, pure, Except.pure, beq_iff_eq]
  by_cases h1 : argKey a = ascii "FORM"
  · simp +decide [h1, applyArg, SetsKey]
  by_cases h2 : argKey a = ascii "DENY-SIGNAL"
  · simp +decide [h2, applyArg, SetsKey]
  by_cases h3 : argKey a = ascii "FORM-DATA"
  · simp +decide [h3, applyArg, SetsKey]
  by_cases h4 : argKey a = ascii "USER-AGENT"
  · simp +decide [h4, applyArg, SetsKey]
  by_cases h5 : argKey a = ascii "CUSTOM-HEADER"
  · by_cases hempty : argValue a = []
    · simp +decide [h5, hempty, applyArg, SetsKey]
    · simp +decide [h5, hempty, applyArg, SetsKey, addCustomHeader_eq fill hinv hv]
  simp [h1, h2, h3, h4, h5, applyArg, SetsKey]

theorem foldlM_goOption {o : Options} (hinv : HeadersInvariant o) {args : List Bytes}
    (hargs : ∀ a ∈ args, a ≠ [] ∧ a.head? ≠ some 58 ∧ 0 ∉ a) (fill : UInt8) :
    args.foldlM (goOption fill) o = .ok (args.foldl applyArg o) := by
  induction args generalizing o with
  | nil => rfl
  | cons a args ih =>
    obtain ⟨ha, hhead, hnul⟩ := hargs a (List.mem_cons_self a args)
    have hv : 0 ∉ argValue a := fun h => hnul (argValue_subset a h)
    rw [List.foldlM_cons, goOption_eq hinv ha hhead hnul fill, List.foldl_cons]
    exact ih (applyArg_headersInvariant hinv hv) fun b hb => hargs b (List.mem_cons_of_mem a hb)

/-! ### The closed form -/

def lastValue (key : Bytes) (args : List Bytes) : Option Bytes :=
  (args.reverse.find? fun a => SetsKey a key).map argValue

def customHeaderValues (args : List Bytes) : List Bytes :=
  (args.filter fun a => SetsKey a (ascii "CUSTOM-HEADER")).map argValue

/-- The options §4.G has a list of arguments set: each of the four fields from the last argument
with its key and a value, and the custom headers from every `CUSTOM-HEADER` argument with a value,
each followed by CRLF, in order. -/
def argOptions (args : List Bytes) : Options where
  resourcePath := lastValue (ascii "FORM") args
  denySignal := lastValue (ascii "DENY-SIGNAL") args
  formData := lastValue (ascii "FORM-DATA") args
  userAgentHeader := lastValue (ascii "USER-AGENT") args
  customHeaders := if customHeaderValues args = [] then none
    else some ((customHeaderValues args).flatMap (· ++ ascii "\r\n"))
  nCustomHeaders := (customHeaderValues args).length

theorem lastValue_append_singleton (key : Bytes) (args : List Bytes) (a : Bytes) :
    lastValue key (args ++ [a]) = if SetsKey a key then some (argValue a) else lastValue key args := by
  by_cases h : SetsKey a key <;> simp [lastValue, List.find?_cons, h]

theorem customHeaderValues_append_singleton (args : List Bytes) (a : Bytes) :
    customHeaderValues (args ++ [a]) = customHeaderValues args ++
      if SetsKey a (ascii "CUSTOM-HEADER") then [argValue a] else [] := by
  by_cases h : SetsKey a (ascii "CUSTOM-HEADER") <;>
    simp [customHeaderValues, List.filter_append, h]

theorem applyArg_argOptions (args : List Bytes) (a : Bytes) :
    applyArg (argOptions args) a = argOptions (args ++ [a]) := by
  by_cases h : SetsKey a (ascii "CUSTOM-HEADER") <;>
    simp [applyArg, argOptions, lastValue_append_singleton, customHeaderValues_append_singleton, h]
  split_ifs with hnil <;> simp [hnil]

theorem foldl_applyArg (args : List Bytes) : args.foldl applyArg noOptions = argOptions args := by
  induction args using List.reverseRecOn with
  | nil => rfl
  | append_singleton args a ih => rw [List.foldl_append, ih, List.foldl_cons, List.foldl_nil,
      applyArg_argOptions]

/-- Over arguments that each have a key before their first `:` and no NUL, the option loop of `go`
compares no NULL key and leaves what §4.G reads the arguments as: each of `FORM`, `DENY-SIGNAL`,
`FORM-DATA` and `USER-AGENT` holds the value of the last argument with that key and a non-empty
value, unset when there is none; the custom headers are the non-empty `CUSTOM-HEADER` values, each
with CRLF, in order, unset when there are none, and their count. -/
theorem goOptions_eq {args : List Bytes} (hargs : ∀ a ∈ args, a ≠ [] ∧ a.head? ≠ some 58 ∧ 0 ∉ a)
    (fill : UInt8) : goOptions fill args = .ok (argOptions args) := by
  rw [goOptions, foldlM_goOption noOptions_headersInvariant hargs, foldl_applyArg]

theorem goOptions_eq_sample :
    goOptions 0 [ascii "FORM:/a", ascii "CUSTOM-HEADER:X-A: 1", ascii "FORM:/b",
      ascii "CUSTOM-HEADER:X-B: 2", ascii "BOGUS:1", ascii "DENY-SIGNAL"] =
      .ok ⟨some (ascii "/b"), none, none, none, some (ascii "X-A: 1\r\nX-B: 2\r\n"), 2⟩ := by
  rw [goOptions_eq (by decide) 0]
  rfl

/-- An empty argument has no key, and `EQ_TO_STR_CONST` compares the NULL `strtok_r` returns. -/
theorem goOptions_empty_argument :
    goOptions 0 [ascii "FORM:/login", []] = .error .nullDeref := rfl

end MedusaWebForm
