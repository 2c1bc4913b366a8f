import MockApi.Proofs.Route.Declared
import MockApi.Proofs.Route.NormalForm
import MockApi.Proofs.Settings.Reports
import MockApi.Server.Handler

/-! Which endpoints of accepted settings some request behind the mock route reaches. -/
namespace MockApi

variable {settings : Settings} {endpoint : Endpoint} {request : Http.Request}
  {rest : List Char} {standard project : String} {seed : Option UInt64}

/-! ## What is read from a request -/

/-- The header selects its project when it reads as text, and else the default. -/
theorem Http.Request.project_of_header (hheader : request.header? "x-project-id" = some project)
    (hnamed : project ≠ "") (htrimmed : Text.trim project.toList = project.toList) :
    request.project standard =
      if project.toList.all Http.isVisible then project else standard := by
  rw [Http.Request.project, Http.Request.textHeader?, hheader, Option.filter_some]
  split
  · simp [htrimmed, Option.filter_some, hnamed]
  · rfl

theorem MockRequest.ofHttp_of_readable {method : Method} (hmethod : request.method = method.name)
    (hseed : request.seed? = .ok seed) : MockRequest.ofHttp standard request rest =
      .ok ⟨request.project standard, method, mockPath rest, seed⟩ := by
  rw [MockRequest.ofHttp, hmethod, Method.parse_name, hseed]
  rfl

/-! ## Paths behind the mock route -/

namespace Route

/-- A path as it is read begins with one slash. -/
theorem normalize_mockPath_not_doubled (rest : List Char) :
    ¬Doubled (normalizeChars (mockPath rest).toList) := by
  rw [mockPath, String.toList_ofList]
  obtain ⟨kept, hkept, hnormal⟩ := normalizeChars_cons_slash (rest.dropWhile isSlash)
  rw [hnormal, doubled_cons_iff]
  intro hslash
  obtain ⟨more, rfl⟩ := List.head?_eq_some_iff.mp hslash
  obtain ⟨behind, hrest⟩ := hkept
  have hnone := List.head?_dropWhile_not isSlash rest
  rw [← hrest] at hnone
  cases hnone

/-- Every normal path that begins with one slash is read from some path behind the route. -/
theorem exists_normalize_mockPath {path : List Char} (hnormal : Normal path)
    (hsingle : ¬Doubled path) :
    ∃ rest ≠ [], normalizeChars (mockPath rest).toList = path := by
  obtain ⟨rest, rfl⟩ := List.head?_eq_some_iff.mp hnormal.head
  rw [doubled_cons_iff] at hsingle
  refine ⟨rest ++ ['/'], by simp, ?_⟩
  rw [mockPath, String.toList_ofList]
  cases rest with
  | nil => rfl
  | cons c rest =>
    have hother : isSlash c = false := by simpa [isSlash] using hsingle
    rw [List.cons_append, List.dropWhile_cons_of_neg (by simp [hother])]
    exact hnormal.normalizeChars_concat

end Route

/-! ## Reaching an endpoint -/

namespace Settings

/-- With some path behind the mock route the request is answered by the endpoint. -/
def Reaches (settings : Settings) (request : Http.Request) (endpoint : Endpoint) : Prop :=
  ∃ rest ≠ [], ∃ mock,
    MockRequest.ofHttp settings.engine.defaultProject request rest = .ok mock ∧
    (Store.ofDefinitions settings.definitions).endpoint? mock.project mock.method mock.path =
      some endpoint.declared

/-- A pattern does not help where the path of an endpoint begins with two slashes. -/
theorem not_reaches_of_doubled (hdoubled : Route.Doubled (Route.normalize endpoint.path).toList) :
    ¬settings.Reaches request endpoint := by
  rintro ⟨rest, -, mock, hmock, hfound⟩
  obtain ⟨-, hfits⟩ := Store.fits_of_endpoint? hfound
  rw [(MockRequest.project_and_path_of_ofHttp hmock).2, Route.normalize] at hfits
  refine Route.normalize_mockPath_not_doubled rest ?_
  rcases hfits with hexact | hpattern
  · rw [← String.toList_ofList (l := Route.normalizeChars _), ← hexact]
    exact hdoubled
  · rw [Route.pathMatches, String.toList_ofList] at hpattern
    exact Route.doubled_of_segmentsMatch hdoubled Route.normal_normalizeChars.head hpattern

/-- An endpoint of accepted settings is reached by requests for it exactly when its path does not
begin with two slashes and its project can be selected by a header. -/
theorem endpoint_reached_iff (haccepted : settings.faults = [])
    (hmem : endpoint ∈ settings.definitions.endpoints) (hnamed : endpoint.project ≠ "")
    (htrimmed : Text.trim endpoint.project.toList = endpoint.project.toList)
    (hmethod : request.method = endpoint.method.name)
    (hheader : request.header? "x-project-id" = some endpoint.project)
    (hseed : request.seed? = .ok seed) :
    settings.Reaches request endpoint ↔
      ¬Route.Doubled (Route.normalize endpoint.path).toList ∧
      (endpoint.project.toList.all Http.isVisible = true ∨
        endpoint.project = settings.engine.defaultProject) := by
  have hread (rest : List Char) : MockRequest.ofHttp settings.engine.defaultProject request rest =
      .ok ⟨request.project settings.engine.defaultProject, endpoint.method, mockPath rest, seed⟩ :=
    MockRequest.ofHttp_of_readable hmethod hseed
  have hproject : request.project settings.engine.defaultProject =
      if endpoint.project.toList.all Http.isVisible then endpoint.project
      else settings.engine.defaultProject :=
    Http.Request.project_of_header hheader hnamed htrimmed
  constructor
  · intro hreached
    refine ⟨fun hdoubled => not_reaches_of_doubled hdoubled hreached, ?_⟩
    obtain ⟨rest, -, mock, hmock, hfound⟩ := hreached
    cases (hread rest).symm.trans hmock
    obtain ⟨hkey, -⟩ := Store.fits_of_endpoint? hfound
    rw [Endpoint.routeKey_declared] at hkey
    injection hkey with hselected
    split at hproject
    · exact .inl ‹_›
    · exact .inr (hselected.trans hproject)
  · rintro ⟨hsingle, hselected⟩
    have hselects : request.project settings.engine.defaultProject = endpoint.project := by
      rcases hselected with hvisible | hdefault
      · rw [hproject, if_pos hvisible]
      · rw [hproject, ← hdefault, ite_self]
    obtain ⟨rest, hne, hpath⟩ := Route.exists_normalize_mockPath Route.normal_normalizeChars
      (by simpa [Route.normalize] using hsingle)
    refine ⟨rest, hne, _, hread rest, ?_⟩
    rw [hselects]
    refine Store.endpoint?_of_normalize_eq (faults_eq_nil_iff.mp haccepted).routesDistinct hmem ?_
    rw [Route.normalize, hpath, Route.normalize]

/-- A slash at the end of a path and a pattern that also fits are no obstacles. -/
theorem list_endpoint_reached :
    let user := Schema.ofFields "user" [⟨"id", .leaf ⟨"uuid", Params.empty⟩⟩]
    let single : Endpoint := ⟨"single", "acme", .get, "/{name}", "user", none, none⟩
    let list : Endpoint := ⟨"list", "acme", .get, " users/ ", "user", none, none⟩
    let settings : Settings := ⟨ServerSettings.standard, EngineSettings.standard, none,
      ⟨[user], [single, list], []⟩⟩
    let request : Http.Request := ⟨"GET", ⟨"/api/mock/users/", none⟩, [("x-project-id", "acme")]⟩
    settings.faults = [] ∧ list ∈ settings.definitions.endpoints ∧ list.project ≠ "" ∧
      Text.trim list.project.toList = list.project.toList ∧ request.method = list.method.name ∧
      request.header? "x-project-id" = some list.project ∧ request.seed? = .ok none ∧
      settings.Reaches request list := by
  intro user single list settings request
  have haccepted : settings.faults = [] := by decide +kernel
  have hmem : list ∈ settings.definitions.endpoints := by simp [settings]
  have hnamed : list.project ≠ "" := by decide
  have htrimmed : Text.trim list.project.toList = list.project.toList := by decide
  have hmethod : request.method = list.method.name := rfl
  have hheader : request.header? "x-project-id" = some list.project := by
    simp [request, list, Http.Request.header?]
  have hseed : request.seed? = .ok none := by
    have hother : "x-project-id".toLower ≠ "x-mock-seed".toLower := by decide +kernel
    simp [request, Http.Request.seed?, Http.Request.rawSeed?, Http.Request.header?,
      Uri.queryValue?, Uri.queryEntries, Text.splitAt, hother]
  exact ⟨haccepted, hmem, hnamed, htrimmed, hmethod, hheader, hseed,
    (endpoint_reached_iff haccepted hmem hnamed htrimmed hmethod hheader hseed).mpr
      ⟨by decide +kernel, .inl (by decide)⟩⟩

/-- Settings are accepted with an endpoint that no request reaches. -/
theorem doubled_path_not_reached :
    let user := Schema.ofFields "user" [⟨"id", .leaf ⟨"uuid", Params.empty⟩⟩]
    let endpoint : Endpoint := ⟨"users", "default", .get, "//users", "user", none, none⟩
    let settings : Settings := ⟨ServerSettings.standard, EngineSettings.standard, none,
      ⟨[user], [endpoint], []⟩⟩
    settings.faults = [] ∧ endpoint ∈ settings.definitions.endpoints ∧
      ∀ request, ¬settings.Reaches request endpoint := by
  intro user endpoint settings
  refine ⟨by decide +kernel, by simp [settings], fun request => ?_⟩
  exact not_reaches_of_doubled (by decide +kernel)

end Settings
end MockApi
