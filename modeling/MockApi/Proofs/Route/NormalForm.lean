import Mathlib.Data.List.DropRight
import MockApi.Route

/-! The normal form of paths, and which paths reach a pattern. -/
namespace MockApi.Route

open Text

variable {path rest : List Char}

/-! ## Normal paths -/

/-- A path begins with a slash and ends with none, other than the root itself. -/
structure Normal (path : List Char) : Prop where
  head : path.head? = some '/'
  last : path = ['/'] ∨ path.getLast? ≠ some '/'

theorem trim_cons_slash : trim ('/' :: rest) = List.rdropWhile isBlank ('/' :: rest) := by
  rw [trim, trimLeft, List.dropWhile_cons_of_neg (by decide)]
  rfl

theorem trim_of_slashes (hhead : path.head? = some '/') (hlast : path.getLast? = some '/') :
    trim path = path := by
  obtain ⟨rest, rfl⟩ := List.head?_eq_some_iff.mp hhead
  obtain ⟨front, hfront⟩ := List.getLast?_eq_some_iff.mp hlast
  rw [trim_cons_slash, hfront]
  exact List.rdropWhile_concat_neg isBlank front '/' (by decide)

theorem normal_normalizeChars : Normal (normalizeChars path) := by
  have hend := getLast?_dropRight isSlash (trim path) '/'
  simp only [normalizeChars]
  split
  · next hslash => exact ⟨hslash, .inr fun hlast => by simpa [isSlash] using hend hlast⟩
  · refine ⟨rfl, ?_⟩
    cases htrimmed : dropRight isSlash (trim path) with
    | nil => exact .inl rfl
    | cons c rest =>
      rw [htrimmed] at hend
      exact .inr fun hlast => by simpa [isSlash] using hend hlast

theorem dropRight_slash_of_getLast?_ne (h : path.getLast? ≠ some '/') :
    dropRight isSlash path = path := by
  apply List.rdropWhile_eq_self_iff.mpr
  intro hne hslash
  apply h
  rw [List.getLast?_eq_some_getLast hne]
  simpa [isSlash] using hslash

/-- One more slash at the end is lost again, and nothing else. -/
theorem Normal.normalizeChars_concat (h : Normal path) : normalizeChars (path ++ ['/']) = path := by
  obtain ⟨rest, rfl⟩ := List.head?_eq_some_iff.mp h.head
  have htrim : trim ('/' :: rest ++ ['/']) = '/' :: rest ++ ['/'] :=
    trim_of_slashes rfl List.getLast?_concat
  have hdrop : dropRight isSlash ('/' :: rest ++ ['/']) = dropRight isSlash ('/' :: rest) :=
    List.rdropWhile_concat_pos isSlash _ _ rfl
  unfold normalizeChars
  rw [htrim, hdrop]
  rcases h.last with hroot | hlast
  · rw [hroot]
    rfl
  · rw [dropRight_slash_of_getLast?_ne hlast]
    rfl

/-- Behind the slash in front nothing is added. -/
theorem normalizeChars_cons_slash (rest : List Char) :
    ∃ kept, kept <+: rest ∧ normalizeChars ('/' :: rest) = '/' :: kept := by
  have hprefix : dropRight isSlash (trim ('/' :: rest)) <+: '/' :: rest :=
    (List.rdropWhile_prefix isSlash _).trans (trim_cons_slash ▸ List.rdropWhile_prefix isBlank _)
  unfold normalizeChars
  cases htrimmed : dropRight isSlash (trim ('/' :: rest)) with
  | nil => exact ⟨[], List.nil_prefix, rfl⟩
  | cons c kept =>
    rw [htrimmed, List.cons_prefix_cons] at hprefix
    obtain ⟨rfl, hkept⟩ := hprefix
    exact ⟨kept, hkept, rfl⟩

/-! ## Doubled slashes -/

/-- A path that begins with two slashes. -/
def Doubled (path : List Char) : Prop := ['/', '/'] <+: path

instance : Decidable (Doubled path) := inferInstanceAs (Decidable (['/', '/'] <+: path))

theorem doubled_cons_iff : Doubled ('/' :: rest) ↔ rest.head? = some '/' := by
  rw [Doubled, List.cons_prefix_cons, List.head?_eq_some_iff, and_iff_right rfl]
  exact exists_congr fun _ => eq_comm

theorem segments_cons_slash : segments ('/' :: rest) = [] :: segments rest := by
  simp [segments, splitAt]

/-- The first segment is empty where the path is, or where it begins with a slash. -/
theorem segments_eq_nil_cons {others : List (List Char)} (h : segments path = [] :: others) :
    path.head? = some '/' ∨ others = [] := by
  cases path with
  | nil =>
    rw [segments, splitAt] at h
    cases h
    exact .inr rfl
  | cons c rest =>
    by_cases hc : c = '/'
    · exact .inl (congrArg some hc)
    · rw [segments, splitAt, if_neg hc] at h
      split at h <;> cases h

/-- A pattern with two slashes in front matches only paths of that kind; a parameter has a name, so
that an empty segment is none. -/
theorem doubled_of_segmentsMatch {pattern : List Char} (hpattern : Doubled pattern)
    (hhead : path.head? = some '/')
    (h : segmentsMatch (segments pattern) (segments path) = true) : Doubled path := by
  obtain ⟨more, rfl⟩ := hpattern
  obtain ⟨rest, rfl⟩ := List.head?_eq_some_iff.mp hhead
  rw [List.cons_append, List.cons_append, List.nil_append, segments_cons_slash,
    segments_cons_slash, segments_cons_slash] at h
  rw [segmentsMatch, Bool.and_eq_true] at h
  cases hrest : segments rest with
  | nil => exact (splitAt_ne_nil '/' rest hrest).elim
  | cons first others =>
    rw [hrest, segmentsMatch, Bool.and_eq_true] at h
    obtain ⟨-, hfirst, hothers⟩ := h
    obtain rfl : [] = first := by simpa [segmentMatches, isParameter] using hfirst
    rw [doubled_cons_iff]
    refine (segments_eq_nil_cons hrest).resolve_right ?_
    rintro rfl
    cases hmore : segments more with
    | nil => exact splitAt_ne_nil '/' more hmore
    | cons _ _ => simp [hmore, segmentsMatch] at hothers

end MockApi.Route
