import Mathlib.Data.List.Forall2
import MockApi.Proofs.Route.Declared

/-! The endpoint that a request gets, for every table, as a rule that mentions neither groups nor
searches: the one declared under the path itself, else the first one declared whose pattern fits. -/
namespace MockApi

variable {definitions : Definitions}

/-! ## Patterns -/

namespace Route

/-- A segment that gives the name of a parameter. -/
inductive Parameter : List Char → Prop
  | braces {name : List Char} (hname : name ≠ []) : Parameter ('{' :: (name ++ ['}']))
  | colon {name : List Char} (hname : name ≠ []) : Parameter (':' :: name)

/-- A parameter stands for every segment that is not empty, any other segment for itself. -/
def SegmentFits (pattern segment : List Char) : Prop :=
  (Parameter pattern ∧ segment ≠ []) ∨ (¬Parameter pattern ∧ segment = pattern)

/-- Between the slashes there are as many segments on both sides, and each one fits. -/
def Fits (pattern path : String) : Prop :=
  List.Forall₂ SegmentFits (pattern.toList.splitOn '/') (path.toList.splitOn '/')

theorem segments_eq_splitOn (path : List Char) : segments path = path.splitOn '/' := by
  induction path with
  | nil => rfl
  | cons c rest ih =>
    rw [segments] at ih
    rw [List.splitOn, List.splitOnP_cons_eq_if_modifyHead, ← List.splitOn, ← ih, segments,
      Text.splitAt]
    by_cases hc : c = '/'
    · simp [hc]
    · cases hrest : Text.splitAt '/' rest with
      | nil => exact absurd hrest (Text.splitAt_ne_nil '/' rest)
      | cons first others => simp [hc]

theorem isParameter_iff (segment : List Char) : isParameter segment = true ↔ Parameter segment := by
  simp only [isParameter, Bool.or_eq_true, Bool.and_eq_true, beq_iff_eq, decide_eq_true_eq]
  constructor
  · rintro (⟨⟨hhead, hlast⟩, hlength⟩ | ⟨hhead, hlength⟩)
    · obtain ⟨rest, rfl⟩ := List.head?_eq_some_iff.mp hhead
      obtain ⟨front, hfront⟩ := List.getLast?_eq_some_iff.mp hlast
      cases front with
      | nil => simp at hfront
      | cons c name =>
        obtain ⟨rfl, rfl⟩ := List.cons.inj hfront
        apply Parameter.braces
        rintro rfl
        simp at hlength
    · obtain ⟨name, rfl⟩ := List.head?_eq_some_iff.mp hhead
      apply Parameter.colon
      rintro rfl
      simp at hlength
  · rintro (@⟨name, hname⟩ | @⟨name, hname⟩)
    · have hlength := List.length_pos_iff.mpr hname
      left
      exact ⟨⟨rfl, by rw [← List.cons_append, List.getLast?_concat]⟩, by simp; omega⟩
    · have hlength := List.length_pos_iff.mpr hname
      right
      exact ⟨rfl, by simp; omega⟩

theorem segmentMatches_iff (pattern segment : List Char) :
    segmentMatches pattern segment = true ↔ SegmentFits pattern segment := by
  unfold segmentMatches SegmentFits
  rw [← isParameter_iff]
  cases h : isParameter pattern with
  | true => simp
  | false =>
    have hsame : (pattern == segment) = true ↔ segment = pattern := beq_iff_eq.trans eq_comm
    simpa using hsame

theorem segmentsMatch_iff (patterns segments : List (List Char)) :
    segmentsMatch patterns segments = true ↔ List.Forall₂ SegmentFits patterns segments := by
  induction patterns generalizing segments with
  | nil => cases segments <;> simp [segmentsMatch]
  | cons pattern patterns ih =>
    cases segments with
    | nil => simp [segmentsMatch]
    | cons segment segments => simp [segmentsMatch, segmentMatches_iff, ih]

theorem pathMatches_iff (pattern path : String) :
    pathMatches pattern path = true ↔ Fits pattern path := by
  rw [pathMatches, segmentsMatch_iff, segments_eq_splitOn, segments_eq_splitOn, Fits]

instance (pattern path : String) : Decidable (Fits pattern path) :=
  decidable_of_iff _ (pathMatches_iff pattern path)

end Route

/-! ## The rule -/

namespace Endpoint

variable {key : RouteKey} {path : String} {endpoint : Endpoint}

/-- The endpoint belongs to a group and is kept under exactly a path. -/
def KeptUnder (key : RouteKey) (path : String) (endpoint : Endpoint) : Prop :=
  endpoint.routeKey = key ∧ endpoint.declared.path = path

/-- The endpoint belongs to a group and is kept under a pattern that a path fits. -/
def FitBy (key : RouteKey) (path : String) (endpoint : Endpoint) : Prop :=
  endpoint.routeKey = key ∧ Route.Fits endpoint.declared.path path

instance : Decidable (endpoint.KeptUnder key path) := inferInstanceAs (Decidable (_ ∧ _))

instance : Decidable (endpoint.FitBy key path) := inferInstanceAs (Decidable (_ ∧ _))

theorem decide_keptUnder : decide (endpoint.KeptUnder key path) =
    (decide (endpoint.routeKey = key) && decide (endpoint.declared.path = path)) := by
  rw [← Bool.decide_and]
  rfl

theorem decide_fitBy : decide (endpoint.FitBy key path) =
    (decide (endpoint.routeKey = key) && Route.pathMatches endpoint.declared.path path) := by
  rw [Bool.eq_iff_iff, decide_eq_true_iff]
  simp [FitBy, Route.pathMatches_iff]

end Endpoint

/-- What a table of endpoints, in the order of their declaration, has for a path. -/
inductive Selected (endpoints : List Endpoint) (key : RouteKey) (path : String) :
    Option Endpoint → Prop
  | exact {endpoint : Endpoint} (hmem : endpoint ∈ endpoints)
      (hkept : endpoint.KeptUnder key path)
      (honly : ∀ other ∈ endpoints, other.KeptUnder key path → other = endpoint) :
      Selected endpoints key path (some endpoint)
  | fitting {before after : List Endpoint} {endpoint : Endpoint}
      (hsplit : endpoints = before ++ endpoint :: after) (hfits : endpoint.FitBy key path)
      (hexact : ∀ other ∈ endpoints, ¬other.KeptUnder key path)
      (hfirst : ∀ other ∈ before, ¬other.FitBy key path) :
      Selected endpoints key path (some endpoint)
  | nothing (hexact : ∀ other ∈ endpoints, ¬other.KeptUnder key path)
      (hfits : ∀ other ∈ endpoints, ¬other.FitBy key path) :
      Selected endpoints key path none

namespace Store

open RouteTable Validation

variable {key : RouteKey} {project : String} {method : Method} {path : String}

/-- The search as it goes through all endpoints at once. -/
def selection (endpoints : List Endpoint) (key : RouteKey) (path : String) : Option Endpoint :=
  (endpoints.find? fun endpoint => endpoint.KeptUnder key path).or
    (endpoints.find? fun endpoint => endpoint.FitBy key path)

theorem endpoint?_ofDefinitions : (ofDefinitions definitions).endpoint? project method path =
    (selection definitions.endpoints ⟨project, method⟩ (Route.normalize path)).map
      Endpoint.declared := by
  rw [endpoint?, find?_eq, groupAt_ofDefinitions, List.find?_map, List.find?_map, selection,
    Option.map_or, List.find?_filter, List.find?_filter]
  simp [Endpoint.decide_keptUnder, Endpoint.decide_fitBy]

theorem eq_of_keptUnder (hroutes : (definitions.endpoints.map routeOf).Nodup)
    {one other : Endpoint} (hone : one ∈ definitions.endpoints)
    (hother : other ∈ definitions.endpoints) (h : one.KeptUnder key path)
    (ho : other.KeptUnder key path) : one = other := by
  apply List.inj_on_of_nodup_map hroutes hone hother
  exact Prod.ext (h.1.trans ho.1.symm) (h.2.trans ho.2.symm)

theorem selected_selection (hroutes : (definitions.endpoints.map routeOf).Nodup) :
    Selected definitions.endpoints key path (selection definitions.endpoints key path) := by
  unfold selection
  cases hexact : definitions.endpoints.find? fun endpoint => endpoint.KeptUnder key path with
  | some endpoint =>
    have hmem := List.mem_of_find?_eq_some hexact
    have hkept : endpoint.KeptUnder key path := by simpa using List.find?_some hexact
    exact .exact hmem hkept fun other ho h => eq_of_keptUnder hroutes ho hmem h hkept
  | none =>
    have hnone : ∀ other ∈ definitions.endpoints, ¬other.KeptUnder key path := by
      simpa using hexact
    rw [Option.none_or]
    cases hfits : definitions.endpoints.find? fun endpoint => endpoint.FitBy key path with
    | some endpoint =>
      obtain ⟨hfit, before, after, hsplit, hbefore⟩ := List.find?_eq_some_iff_append.mp hfits
      exact .fitting hsplit (by simpa using hfit) hnone (by simpa using hbefore)
    | none => exact .nothing hnone (by simpa using hfits)

end Store

/-- The first of two places where a list is cut is the same if what is cut out fits, and nothing
before it does. -/
theorem eq_of_first {α : Type} {P : α → Prop} {before after others rest : List α} {one other : α}
    (h : before ++ one :: after = others ++ other :: rest) (hone : P one) (hother : P other)
    (hbefore : ∀ a ∈ before, ¬P a) (hothers : ∀ a ∈ others, ¬P a) : one = other := by
  induction before generalizing others with
  | nil =>
    cases others with
    | nil => exact (List.cons.inj h).1
    | cons first others =>
      have hfirst : one = first := (List.cons.inj h).1
      exact absurd (hfirst ▸ hone) (hothers first List.mem_cons_self)
  | cons first before ih =>
    cases others with
    | nil =>
      have hfirst : first = other := (List.cons.inj h).1
      exact absurd (hfirst ▸ hother) (hbefore first List.mem_cons_self)
    | cons second others =>
      apply ih (List.cons.inj h).2
      · exact fun a ha => hbefore a (List.mem_cons_of_mem _ ha)
      · exact fun a ha => hothers a (List.mem_cons_of_mem _ ha)

/-- The rule leaves no choice. -/
theorem Selected.unique {endpoints : List Endpoint} {key : RouteKey} {path : String}
    {one other : Option Endpoint} (h : Selected endpoints key path one)
    (ho : Selected endpoints key path other) : one = other := by
  cases h with
  | exact hmem hkept honly =>
    cases ho with
    | exact hother hsame _ => rw [honly _ hother hsame]
    | fitting _ _ hexact _ => exact absurd hkept (hexact _ hmem)
    | nothing hexact _ => exact absurd hkept (hexact _ hmem)
  | fitting hsplit hfits hexact hfirst =>
    cases ho with
    | exact hother hsame _ => exact absurd hsame (hexact _ hother)
    | fitting hcut hfit _ hearlier =>
      exact congrArg some (eq_of_first (hsplit.symm.trans hcut) hfits hfit hfirst hearlier)
    | nothing _ hnone => exact absurd hfits (hnone _ (by simp [hsplit]))
  | nothing hexact hnone =>
    cases ho with
    | exact hother hsame _ => exact absurd hsame (hexact _ hother)
    | fitting hcut hfit _ _ => exact absurd hfit (hnone _ (by simp [hcut]))
    | nothing _ _ => rfl

namespace Store

open Validation

/-- Where routes do not repeat, the endpoint of a request is the one that the rule selects. Each
endpoint is found under the path that it was declared with, in whatever order the endpoints are
declared, and endpoints of other groups do not matter. -/
theorem lookup_follows_declarations (hroutes : (definitions.endpoints.map routeOf).Nodup) :
    (∀ project method path, ∃ selected,
      (∀ other, Selected definitions.endpoints ⟨project, method⟩ (Route.normalize path) other ↔
        other = selected) ∧
      (ofDefinitions definitions).endpoint? project method path =
        selected.map Endpoint.declared) ∧
    (∀ others : Definitions, others.endpoints.Perm definitions.endpoints →
      ∀ endpoint ∈ definitions.endpoints, (ofDefinitions others).endpoint? endpoint.project
        endpoint.method endpoint.path = some endpoint.declared) ∧
    (∀ (others : Definitions) (project : String) (method : Method),
      (others.endpoints.filter fun endpoint => endpoint.routeKey = ⟨project, method⟩) =
        (definitions.endpoints.filter fun endpoint => endpoint.routeKey = ⟨project, method⟩) →
      ∀ path, (ofDefinitions others).endpoint? project method path =
        (ofDefinitions definitions).endpoint? project method path) := by
  refine ⟨fun project method path => ?_, fun others hperm endpoint hmem => ?_,
    fun others project method hgroup path => ?_⟩
  · have hselected : Selected definitions.endpoints ⟨project, method⟩ (Route.normalize path) _ :=
      selected_selection hroutes
    refine ⟨_, fun other => ⟨fun h => h.unique hselected, ?_⟩, endpoint?_ofDefinitions⟩
    rintro rfl
    exact hselected
  · have hothers : (others.endpoints.map routeOf).Nodup :=
      (hperm.map routeOf).nodup_iff.mpr hroutes
    exact endpoint?_of_normalize_eq hothers (hperm.mem_iff.mpr hmem) rfl
  · rw [endpoint?, endpoint?, RouteTable.find?_eq, RouteTable.find?_eq, groupAt_ofDefinitions,
      groupAt_ofDefinitions, hgroup]

/-- An earlier pattern gives way to the very path, and takes what is left; an endpoint of another
project with the very path does not come in. -/
theorem path_itself_before_earlier_pattern :
    let single : Endpoint := ⟨"single", "default", .get, "/users/{id}", "user", none, none⟩
    let own : Endpoint := ⟨"own", "default", .get, "users/me/", "user", none, none⟩
    let foreign : Endpoint := ⟨"foreign", "acme", .get, "/users/42", "user", none, none⟩
    let definitions : Definitions := ⟨[], [single, own, foreign], []⟩
    let store := ofDefinitions definitions
    (definitions.endpoints.map routeOf).Nodup ∧
      store.endpoint? "default" .get "users/me/" = some own.declared ∧
      store.endpoint? "default" .get "/users/42/" = some single.declared ∧
      ∀ path, (ofDefinitions ⟨[], [single, own], []⟩).endpoint? "default" .get path =
        store.endpoint? "default" .get path := by
  intro single own foreign definitions store
  have hroutes : (definitions.endpoints.map routeOf).Nodup := by decide +kernel
  obtain ⟨hrule, hown, hgroups⟩ := lookup_follows_declarations hroutes
  refine ⟨hroutes, hown definitions (.refl _) own (by simp [definitions]), ?_,
    hgroups ⟨[], [single, own], []⟩ "default" .get rfl⟩
  have hpattern : Selected definitions.endpoints ⟨"default", .get⟩ (Route.normalize "/users/42/")
      (some single) :=
    .fitting (List.nil_append _).symm (by decide +kernel) (by decide +kernel) (by simp)
  obtain ⟨selected, hselected, hfound⟩ := hrule "default" .get "/users/42/"
  rw [← (hselected _).mp hpattern] at hfound
  exact hfound

end Store
end MockApi
