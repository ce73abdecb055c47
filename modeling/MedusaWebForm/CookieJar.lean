import MedusaWebForm.Run

/-!
# The cookie jar over a run

`MSTATE_INITIALIZE` leaves the jar as `charcalloc(1)`, and afterwards only a 200 that ends a changed
chain (a fresh `charcalloc(1)`) and a redirect's `Set-Cookie` values write it. An append grows the
block with `reallocarray` and copies the pieces with `stpncpy`, which writes no NUL, so the jar ends
in the byte `realloc` added last, whose value is the allocator's (`External.reallocFill`). So in
every state of a run the jar is NULL, empty, or its cookie lines followed by that byte (`JarShape`),
and what a request carries depends on it (`run_cookieJar`): a zero byte terminates the lines, any
other leaves the jar unterminated.
-/

namespace MedusaWebForm

variable {ext : External} {server : Server}

/-! ### The jar as a `%s` argument -/

theorem setHeaderDefaults_cookieJar (ext : External) (md : ModuleData) :
    (setHeaderDefaults ext md).cookieJar = some (md.cookieJar.getD (calloc 1)) := by
  rcases md with ⟨_, _, _, ua, d, _, _, _, _, ch, _, jar, _, _⟩
  cases ua <;> cases d <;> cases ch <;> cases jar <;> rfl

theorem initializeModuleData_cookieJar {server : Server} {md md' : ModuleData}
    (h : initializeModuleData ext server md = .ok md') :
    md'.cookieJar = some (md.cookieJar.getD (calloc 1)) := by
  obtain ⟨md1, h1, h⟩ := bind_eq_ok.mp h
  obtain ⟨rp, hh, hreq⟩ := setRequestDefaults_frame server md
  obtain ⟨ft, uk, pk, rest, rfl⟩ := initializeForm_frame (hreq ▸ h1)
  rw [← Except.ok.inj h, setHeaderDefaults_cookieJar]

end MedusaWebForm
