/-!
# Computations that may fail

When a sequence of computations succeeds, every part of it does.
-/

namespace DesiredState

variable {ε α β : Type}

/-- A property of the value that a computation gives, if it gives one, can be
decided. -/
instance decidableForallOk {holds : α → Prop} [DecidablePred holds] :
    (computed : Except ε α) → Decidable (∀ value, computed = .ok value → holds value)
  | .ok value => decidable_of_iff (holds value)
      ⟨fun h _ heq => Except.ok.inj heq ▸ h, fun h => h value rfl⟩
  | .error _ => isTrue fun _ heq => nomatch heq

/-- A property of an optional value, if there is one, can be decided. -/
instance decidableForallSome {holds : α → Prop} [DecidablePred holds] :
    (found : Option α) → Decidable (∀ value, found = some value → holds value)
  | some value => decidable_of_iff (holds value)
      ⟨fun h _ heq => Option.some.inj heq ▸ h, fun h => h value rfl⟩
  | none => isTrue fun _ heq => nomatch heq

/-- A sequence succeeds exactly when its first part does and the rest does on
the result of it. -/
theorem bind_eq_ok_iff {first : Except ε α} {next : α → Except ε β} {result : β} :
    (first >>= next) = .ok result ↔
      ∃ value, first = .ok value ∧ next value = .ok result := by
  cases first with
  | error fault => simp [bind, Except.bind]
  | ok value => simp [bind, Except.bind]

/-- A computation succeeds on a list exactly when it does on every item. -/
theorem mapM_eq_ok_iff {compute : α → Except ε β} {items : List α} {results : List β} :
    items.mapM compute = .ok results ↔ items.map compute = results.map .ok := by
  induction items generalizing results with
  | nil =>
      cases results with
      | nil => simp [pure, Except.pure]
      | cons result rest => simp [pure, Except.pure]
  | cons item rest ih =>
      rw [List.mapM_cons, bind_eq_ok_iff]
      constructor
      · rintro ⟨value, hvalue, htail⟩
        obtain ⟨values, hvalues, hresults⟩ := bind_eq_ok_iff.mp htail
        obtain rfl : value :: values = results := Except.ok.inj hresults
        simp [hvalue, ih.mp hvalues]
      · intro h
        cases results with
        | nil => simp at h
        | cons value values =>
            obtain ⟨hvalue, hvalues⟩ := List.cons.inj h
            exact ⟨value, hvalue, bind_eq_ok_iff.mpr ⟨values, ih.mpr hvalues, rfl⟩⟩

/-- What a computation gives for an item is among the results. -/
theorem exists_of_mapM_eq_ok {compute : α → Except ε β} {items : List α}
    {results : List β} (h : items.mapM compute = .ok results) {item : α}
    (hitem : item ∈ items) : ∃ result ∈ results, compute item = .ok result := by
  have hmem : compute item ∈ results.map .ok := by
    rw [← mapM_eq_ok_iff.mp h]
    exact List.mem_map_of_mem hitem
  obtain ⟨result, hresult, heq⟩ := List.mem_map.mp hmem
  exact ⟨result, hresult, heq.symm⟩

/-- Each of the results is what a computation gives for one of the items. -/
theorem exists_of_mem_of_mapM_eq_ok {compute : α → Except ε β} {items : List α}
    {results : List β} (h : items.mapM compute = .ok results) {result : β}
    (hresult : result ∈ results) : ∃ item ∈ items, compute item = .ok result := by
  have hmem : (.ok result : Except ε β) ∈ items.map compute := by
    rw [mapM_eq_ok_iff.mp h]
    exact List.mem_map_of_mem hresult
  obtain ⟨item, hitem, hcomputed⟩ := List.mem_map.mp hmem
  exact ⟨item, hitem, hcomputed⟩

/-- Where a computation fails on a list, it fails so on one of the items. -/
theorem exists_of_mapM_eq_error {compute : α → Except ε β} {items : List α} {fault : ε}
    (h : items.mapM compute = .error fault) : ∃ item ∈ items, compute item = .error fault := by
  induction items with
  | nil => cases h
  | cons item rest ih =>
      rw [List.mapM_cons] at h
      cases hitem : compute item with
      | error first =>
          rw [hitem] at h
          obtain rfl : first = fault := Except.error.inj h
          exact ⟨item, List.mem_cons_self, hitem⟩
      | ok value =>
          -- the first item succeeds, so it is the rest that fails
          have hrest : rest.mapM compute = .error fault := by
            cases hlater : rest.mapM compute with
            | error later => simpa [hitem, hlater, bind, Except.bind] using h
            | ok values => simp [hitem, hlater, bind, Except.bind, pure, Except.pure] at h
          obtain ⟨source, hsource, hcomputed⟩ := ih hrest
          exact ⟨source, List.mem_cons_of_mem _ hsource, hcomputed⟩

/-- Each result of a list comes from one of its items. -/
theorem exists_of_mem_mapM {compute : α → Option β} {items : List α} {results : List β}
    (h : items.mapM compute = some results) {result : β} (hresult : result ∈ results) :
    ∃ item ∈ items, compute item = some result := by
  induction items generalizing results with
  | nil =>
      obtain rfl : [] = results := by simpa using h
      cases hresult
  | cons item rest ih =>
      rw [List.mapM_cons] at h
      obtain ⟨value, hvalue, htail⟩ := Option.bind_eq_some_iff.mp h
      obtain ⟨values, hvalues, hresults⟩ := Option.bind_eq_some_iff.mp htail
      obtain rfl : value :: values = results := Option.some.inj hresults
      rcases List.mem_cons.mp hresult with rfl | hlater
      · exact ⟨item, List.mem_cons_self, hvalue⟩
      · obtain ⟨source, hsource, hcomputed⟩ := ih hvalues hlater
        exact ⟨source, List.mem_cons_of_mem _ hsource, hcomputed⟩

/-- A check succeeds on a list exactly when it does on every item. -/
theorem forM_eq_ok_iff {check : α → Except ε Unit} {items : List α} :
    items.forM check = .ok () ↔ ∀ item ∈ items, check item = .ok () := by
  induction items with
  | nil => simp [pure, Except.pure]
  | cons item rest ih =>
      change (check item >>= fun _ => rest.forM check) = .ok () ↔ _
      rw [bind_eq_ok_iff, List.forall_mem_cons]
      constructor
      · rintro ⟨⟨⟩, hitem, hrest⟩
        exact ⟨hitem, ih.mp hrest⟩
      · rintro ⟨hitem, hrest⟩
        exact ⟨(), hitem, ih.mpr hrest⟩

end DesiredState
