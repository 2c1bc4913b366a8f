import Mathlib.Data.List.Nodup
import MockApi.Settings.Validation
import MockApi.Store

/-! Which endpoint a table finds, in terms of the definitions that it was made from. -/
namespace MockApi

variable {definitions : Definitions} {endpoint found : Endpoint} {path : String}

namespace Endpoint

/-- The group of an endpoint. -/
def routeKey (endpoint : Endpoint) : RouteKey := ⟨endpoint.project, endpoint.method⟩

/-- An endpoint as it stands in a table. -/
def declared (endpoint : Endpoint) : Endpoint :=
  { endpoint with path := Route.normalize endpoint.path }

@[simp] theorem routeKey_declared : endpoint.declared.routeKey = endpoint.routeKey := by
  rw [routeKey, routeKey, declared]

end Endpoint

namespace RouteTable

variable {key other : RouteKey} {table : RouteTable}

/-- The endpoints of a group, none where there is no such group. -/
def groupAt (key : RouteKey) (table : RouteTable) : List Endpoint := (table.group? key).getD []

theorem groupAt_add_self : groupAt key (table.add key endpoint) = groupAt key table ++ [endpoint] := by
  induction table with
  | nil => simp [groupAt, add, group?]
  | cons group rest ih =>
    obtain ⟨known, endpoints⟩ := group
    by_cases h : known = key
    · simp [groupAt, add, group?, h]
    · simpa [groupAt, add, group?, h] using ih

theorem groupAt_add_of_ne (hne : other ≠ key) :
    groupAt other (table.add key endpoint) = groupAt other table := by
  induction table with
  | nil => simp [groupAt, add, group?, hne.symm]
  | cons group rest ih =>
    obtain ⟨known, endpoints⟩ := group
    by_cases h : known = key
    · subst h
      simp [groupAt, add, group?, hne.symm]
    · by_cases ho : known = other
      · subst ho
        simp [groupAt, add, group?, h]
      · simpa [groupAt, add, group?, h, ho] using ih

/-- A group holds the endpoints that belong to it, in the order of their declaration. -/
theorem groupAt_foldl_declare {endpoints : List Endpoint} :
    groupAt key (endpoints.foldl declare table) = groupAt key table ++
      (endpoints.filter fun endpoint => endpoint.routeKey = key).map Endpoint.declared := by
  induction endpoints generalizing table with
  | nil => simp
  | cons endpoint rest ih =>
    rw [List.foldl_cons, ih]
    by_cases h : endpoint.routeKey = key
    · have hadd : groupAt key (table.declare endpoint) = groupAt key table ++ [endpoint.declared] :=
        h ▸ groupAt_add_self
      simp [hadd, h]
    · have hadd : groupAt key (table.declare endpoint) = groupAt key table :=
        groupAt_add_of_ne (Ne.symm h)
      simp [hadd, h]

theorem find?_eq : table.find? key path =
    ((groupAt key table).find? fun endpoint => endpoint.path = Route.normalize path).or
      ((groupAt key table).find? fun endpoint =>
        Route.pathMatches endpoint.path (Route.normalize path)) := by
  cases h : table.group? key <;> simp [find?, groupAt, h]

end RouteTable

namespace Store

open RouteTable Validation

variable {project : String} {method : Method}

theorem groupAt_ofDefinitions {key : RouteKey} :
    groupAt key (ofDefinitions definitions).routes =
      (definitions.endpoints.filter fun endpoint => endpoint.routeKey = key).map
        Endpoint.declared := by
  rw [ofDefinitions, ofIntake, groupAt_foldl_declare]
  rfl

/-- What is found is defined, and it fits the request. -/
theorem fits_of_endpoint? (h : (ofDefinitions definitions).endpoint? project method path = some found) :
    found.routeKey = ⟨project, method⟩ ∧
      (found.path = Route.normalize path ∨
        Route.pathMatches found.path (Route.normalize path) = true) := by
  have hgroup (hmem : found ∈ groupAt ⟨project, method⟩ (ofDefinitions definitions).routes) :
      found.routeKey = ⟨project, method⟩ := by
    rw [groupAt_ofDefinitions] at hmem
    obtain ⟨endpoint, hendpoint, rfl⟩ := List.mem_map.mp hmem
    simpa using (List.mem_filter.mp hendpoint).2
  rw [endpoint?, find?_eq, Option.or_eq_some_iff] at h
  rcases h with hexact | ⟨-, hpattern⟩
  · exact ⟨hgroup (List.mem_of_find?_eq_some hexact),
      .inl (by simpa using List.find?_some hexact)⟩
  · exact ⟨hgroup (List.mem_of_find?_eq_some hpattern),
      .inr (by simpa using List.find?_some hpattern)⟩

/-- Where routes do not repeat, the normal path of an endpoint leads to it. -/
theorem endpoint?_of_normalize_eq (hroutes : (definitions.endpoints.map routeOf).Nodup)
    (hmem : endpoint ∈ definitions.endpoints)
    (hpath : Route.normalize path = Route.normalize endpoint.path) :
    (ofDefinitions definitions).endpoint? endpoint.project endpoint.method path =
      some endpoint.declared := by
  have hdeclared : endpoint.declared ∈
      groupAt endpoint.routeKey (ofDefinitions definitions).routes := by
    rw [groupAt_ofDefinitions]
    exact List.mem_map_of_mem (List.mem_filter.mpr ⟨hmem, by simp⟩)
  have hexists : ((groupAt endpoint.routeKey (ofDefinitions definitions).routes).find? fun other =>
      other.path = Route.normalize path).isSome :=
    List.find?_isSome.mpr ⟨endpoint.declared, hdeclared, by simp [Endpoint.declared, hpath]⟩
  obtain ⟨found, hfound⟩ := Option.isSome_iff_exists.mp hexists
  have hin := List.mem_of_find?_eq_some hfound
  rw [groupAt_ofDefinitions] at hin
  obtain ⟨other, hother, rfl⟩ := List.mem_map.mp hin
  obtain ⟨hother, hkey⟩ := List.mem_filter.mp hother
  have hsame := List.find?_some hfound
  rw [decide_eq_true_eq] at hsame
  have hroute : routeOf other = routeOf endpoint :=
    Prod.ext (of_decide_eq_true hkey) (hsame.trans hpath)
  obtain rfl := List.inj_on_of_nodup_map hroutes hother hmem hroute
  rw [Endpoint.routeKey] at hfound
  rw [endpoint?, find?_eq, hfound, Option.some_or]

end Store
end MockApi
