import MockApi.Proofs.Json.Places

/-! What an envelope makes of a payload: its template with the payload in the one place that holds
the placeholder, or a failure that tells how many such places there are. -/
namespace MockApi.Envelope

variable {placeholder id template : String} {payload document : Json}

theorem fill_of_unreadable {e : Json.SyntaxError} (h : Json.parse template = .error e) :
    fill placeholder payload id template = .error (.unreadableTemplate id e.message) := by
  rw [fill, h]

theorem fill_of_readable (h : Json.parse template = .ok document) :
    fill placeholder payload id template =
      if document.countText placeholder = 1 then .ok (Json.replaceText placeholder payload document)
      else .error (.placeholderCount id placeholder (document.countText placeholder)) := by
  simp only [fill, h]

/-- A template that cannot be read is refused. Of any other the places of the placeholder are
counted: if there is just one, the payload comes into it, whatever the payload holds itself, and
nothing else changes; otherwise their number is reported. -/
theorem fill_puts_payload_in_only_place (placeholder : String) (payload : Json)
    (id template : String) :
    (∀ e, Json.parse template = .error e →
      fill placeholder payload id template = .error (.unreadableTemplate id e.message)) ∧
    ∀ document, Json.parse template = .ok document → ∃ found : Nat,
      (document.placesOf placeholder).encard = found ∧
      (found ≠ 1 → fill placeholder payload id template =
        .error (.placeholderCount id placeholder found)) ∧
      (found = 1 → ∃ place filled, fill placeholder payload id template = .ok filled ∧
        document.placesOf placeholder = {place} ∧ document.FilledAt place payload filled) := by
  refine ⟨fun e he => fill_of_unreadable he, fun document hdocument => ?_⟩
  have hcount := Json.encard_placesOf placeholder document
  refine ⟨document.countText placeholder, hcount, fun hmany => ?_, fun hone => ?_⟩
  · rw [fill_of_readable hdocument, if_neg hmany]
  · rw [hone, Nat.cast_one, Set.encard_eq_one] at hcount
    obtain ⟨place, hplace⟩ := hcount
    refine ⟨place, Json.replaceText placeholder payload document, ?_, hplace,
      Json.filledAt_replaceText hplace⟩
    rw [fill_of_readable hdocument, if_pos hone]

end MockApi.Envelope
