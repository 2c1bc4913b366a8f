import MockApi.Proofs.Route.NormalForm
import MockApi.Proofs.Route.Declared

/-! Which normal paths are normal forms of themselves: the slashes at the end go last, so that white
space in front of them stays, and is lost only when the path is normalised again. -/
namespace MockApi.Route

open Text

variable {path rest : List Char} {c : Char}

/-- The last character is white space. -/
def EndsInBlank (path : List Char) : Prop := ∃ c, path.getLast? = some c ∧ isBlank c = true

instance : Decidable (EndsInBlank path) :=
  decidable_of_iff (path.getLast?.any isBlank = true) (by
    cases h : path.getLast? <;> simp [EndsInBlank, h])

/-- A blank at the end makes no difference to the normal form. -/
theorem normalizeChars_concat_blank (hc : isBlank c = true) :
    normalizeChars ('/' :: (rest ++ [c])) = normalizeChars ('/' :: rest) := by
  have htrim : trim ('/' :: (rest ++ [c])) = trim ('/' :: rest) := by
    rw [trim_cons_slash, trim_cons_slash, ← List.cons_append]
    exact List.rdropWhile_concat_pos isBlank _ c hc
  unfold normalizeChars
  rw [htrim]

theorem Normal.normalizeChars_eq_self (h : Normal path) (hblank : ¬EndsInBlank path) :
    normalizeChars path = path := by
  obtain ⟨rest, rfl⟩ := List.head?_eq_some_iff.mp h.head
  have htrim : trim ('/' :: rest) = '/' :: rest := by
    rw [trim_cons_slash, List.rdropWhile_eq_self_iff]
    intro hne hlast
    apply hblank
    exact ⟨_, List.getLast?_eq_some_getLast hne, hlast⟩
  unfold normalizeChars
  rw [htrim]
  rcases h.last with hroot | hlast
  · rw [hroot]
    rfl
  · rw [dropRight_slash_of_getLast?_ne hlast]
    rfl

theorem Normal.normalizeChars_ne_self (h : Normal path) (hblank : EndsInBlank path) :
    normalizeChars path ≠ path := by
  obtain ⟨rest, rfl⟩ := List.head?_eq_some_iff.mp h.head
  obtain ⟨c, hlast, hc⟩ := hblank
  rcases List.eq_nil_or_concat rest with rfl | ⟨front, last, rfl⟩
  · cases hlast
    exact absurd hc (by decide)
  · have hsame : last = c := by
      rw [List.concat_eq_append, ← List.cons_append, List.getLast?_concat] at hlast
      exact Option.some.inj hlast
    obtain ⟨kept, hkept, heq⟩ := normalizeChars_cons_slash front
    rw [List.concat_eq_append, hsame, normalizeChars_concat_blank hc, heq]
    intro hfixed
    have hlength := congrArg List.length hfixed
    have hle := hkept.length_le
    simp only [List.length_cons, List.length_append, List.length_nil] at hlength
    omega

theorem normalize_normalize_iff (path : String) :
    normalize (normalize path) = normalize path ↔ ¬EndsInBlank (normalize path).toList := by
  have hnormal : Normal (normalize path).toList := by
    rw [normalize, String.toList_ofList]
    exact normal_normalizeChars
  rw [normalize.eq_def (normalize path), ← String.toList_inj, String.toList_ofList]
  constructor
  · intro hfixed hblank
    exact hnormal.normalizeChars_ne_self hblank hfixed
  · exact hnormal.normalizeChars_eq_self

/-- A normal form begins with a slash, ends with one only if it is the root, and is its own normal
form exactly when it does not end in white space. Then an endpoint that is kept under it is found by
a request for it. -/
theorem normal_form_fixed_unless_blank (path : String) :
    (normalize path).toList.head? = some '/' ∧
    ((normalize path).toList.getLast? = some '/' → normalize path = "/") ∧
    (normalize (normalize path) = normalize path ↔ ¬EndsInBlank (normalize path).toList) ∧
    ∀ definitions : Definitions, (definitions.endpoints.map Validation.routeOf).Nodup →
      ∀ endpoint ∈ definitions.endpoints, endpoint.declared.path = normalize path →
        ¬EndsInBlank (normalize path).toList →
          (Store.ofDefinitions definitions).endpoint? endpoint.project endpoint.method
            (normalize path) = some endpoint.declared := by
  have hnormal : Normal (normalizeChars path.toList) := normal_normalizeChars
  refine ⟨?_, fun hslash => ?_, normalize_normalize_iff path, ?_⟩
  · rw [normalize, String.toList_ofList]
    exact hnormal.head
  · rw [normalize, String.toList_ofList] at hslash
    rcases hnormal.last with hroot | hlast
    · rw [normalize, hroot]
    · exact absurd hslash hlast
  · intro definitions hroutes endpoint hmem hkept hblank
    have hfixed := (normalize_normalize_iff path).mpr hblank
    apply Store.endpoint?_of_normalize_eq hroutes hmem
    rw [hfixed]
    exact hkept.symm

/-- White space inside a path stays, and does no harm. -/
theorem spaced_path_found_again :
    let endpoint : Endpoint := ⟨"notes", "default", .get, " my notes// ", "user", none, none⟩
    let definitions : Definitions := ⟨[], [endpoint], []⟩
    (definitions.endpoints.map Validation.routeOf).Nodup ∧ endpoint ∈ definitions.endpoints ∧
      ¬EndsInBlank endpoint.declared.path.toList ∧
      (Store.ofDefinitions definitions).endpoint? "default" .get "/my notes" =
        some endpoint.declared := by
  intro endpoint definitions
  have hroutes : (definitions.endpoints.map Validation.routeOf).Nodup := by decide +kernel
  have hmem : endpoint ∈ definitions.endpoints := by simp [definitions]
  have hblank : ¬EndsInBlank endpoint.declared.path.toList := by decide +kernel
  have hpath : endpoint.declared.path = "/my notes" := by decide +kernel
  obtain ⟨-, -, -, hfind⟩ := normal_form_fixed_unless_blank " my notes// "
  have hfound := hfind definitions hroutes endpoint hmem rfl hblank
  rw [show normalize " my notes// " = "/my notes" from hpath] at hfound
  exact ⟨hroutes, hmem, hblank, hfound⟩

/-- White space in front of the slashes at the end: settings with such a path are accepted, the path
is kept with the white space, and a request for the kept path finds nothing. -/
theorem path_with_blank_not_found_again :
    let user := Schema.ofFields "user" [⟨"id", .leaf ⟨"uuid", Params.empty⟩⟩]
    let endpoint : Endpoint := ⟨"notes", "default", .get, "/notes /", "user", none, none⟩
    let settings : Settings := ⟨ServerSettings.standard, EngineSettings.standard, none,
      ⟨[user], [endpoint], []⟩⟩
    settings.faults = [] ∧ endpoint.declared.path = "/notes " ∧
      normalize endpoint.declared.path ≠ endpoint.declared.path ∧
      (Store.ofDefinitions settings.definitions).endpoint? "default" .get
        endpoint.declared.path = none := by
  decide +kernel

end MockApi.Route
