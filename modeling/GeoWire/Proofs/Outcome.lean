/-!
# Outcomes

Outcomes of computations that can fail, taken apart step by step.
-/

set_option autoImplicit false

namespace GeoWire.Outcome

variable {ε α β : Type}

@[simp] theorem ok_bind (value : α) (next : α → Except ε β) :
    (.ok value : Except ε α) >>= next = next value :=
  rfl

@[simp] theorem error_bind (cause : ε) (next : α → Except ε β) :
    (.error cause : Except ε α) >>= next = .error cause :=
  rfl

@[simp] theorem map_ok (transform : α → β) (value : α) :
    transform <$> (.ok value : Except ε α) = .ok (transform value) :=
  rfl

@[simp] theorem map_error (transform : α → β) (cause : ε) :
    transform <$> (.error cause : Except ε α) = .error cause :=
  rfl

@[simp] theorem mapError_ok {ε' : Type} (transform : ε → ε') (value : α) :
    (.ok value : Except ε α).mapError transform = .ok value :=
  rfl

@[simp] theorem mapError_error {ε' : Type} (transform : ε → ε') (cause : ε) :
    (.error cause : Except ε α).mapError transform = .error (transform cause) :=
  rfl

theorem bind_eq_ok_iff {first : Except ε α} {next : α → Except ε β} {result : β} :
    first >>= next = .ok result ↔ ∃ value, first = .ok value ∧ next value = .ok result := by
  constructor
  · intro success
    cases first with
    | error cause => cases success
    | ok value => exact ⟨value, rfl, success⟩
  · intro parts
    obtain ⟨value, rfl, success⟩ := parts
    exact success

theorem bind_eq_error_iff {first : Except ε α} {next : α → Except ε β} {cause : ε} :
    first >>= next = .error cause ↔
      first = .error cause ∨ ∃ value, first = .ok value ∧ next value = .error cause := by
  cases first with
  | error other => simp
  | ok value => simp

theorem mapM_eq_ok {items : List α} {transform : α → Except ε β} {result : α → β}
    (each : ∀ item ∈ items, transform item = .ok (result item)) :
    items.mapM transform = .ok (items.map result) := by
  induction items with
  | nil => rfl
  | cons item rest ih =>
      obtain ⟨first, others⟩ := List.forall_mem_cons.mp each
      rw [List.mapM_cons, first, ih others]
      rfl

/-- The results are known from what every single success is known to be. -/
theorem eq_map_of_mapM_eq_ok {items : List α} {transform : α → Except ε β} {result : α → β}
    {results : List β} (success : items.mapM transform = .ok results)
    (each : ∀ item ∈ items, ∀ found, transform item = .ok found → found = result item) :
    results = items.map result := by
  induction items generalizing results with
  | nil =>
      cases success
      rfl
  | cons item rest ih =>
      obtain ⟨first, others⟩ := List.forall_mem_cons.mp each
      rw [List.mapM_cons] at success
      obtain ⟨found, foundFirst, success⟩ := bind_eq_ok_iff.mp success
      obtain ⟨further, foundOthers, success⟩ := bind_eq_ok_iff.mp success
      cases success
      rw [List.map_cons, first found foundFirst, ih foundOthers others]

end GeoWire.Outcome
