import EntityEngine.Fault

/-! Outcomes taken apart: what has to have succeeded for a sequence of steps to succeed. -/

namespace EntityEngine

variable {ε ε' α β : Type}

theorem bind_ok {x : Except ε α} {f : α → Except ε β} {b : β} (h : (x >>= f) = .ok b) :
    ∃ a, x = .ok a ∧ f a = .ok b := by
  cases x with
  | error e => cases h
  | ok a => exact ⟨a, rfl, h⟩

/-- Two steps fail with the first of them, or with the second. -/
theorem bind_error {x : Except ε α} {f : α → Except ε β} {e : ε} (h : (x >>= f) = .error e) :
    x = .error e ∨ ∃ a, x = .ok a ∧ f a = .error e := by
  cases x with
  | error e' => exact Or.inl (congrArg Except.error (Except.error.inj h))
  | ok a => exact Or.inr ⟨a, rfl, h⟩

theorem mapError_ok {x : Except ε α} {f : ε → ε'} {a : α} (h : x.mapError f = .ok a) :
    x = .ok a := by
  cases x with
  | error e => cases h
  | ok b => exact congrArg Except.ok (Except.ok.inj h)

theorem toOption_some {x : Except ε α} {a : α} (h : x.toOption = some a) : x = .ok a := by
  cases x with
  | error e => cases h
  | ok b => exact congrArg Except.ok (Option.some.inj h)

theorem map_ok {x : Except ε α} {f : α → β} {b : β} (h : x.map f = .ok b) :
    ∃ a, x = .ok a ∧ f a = b := by
  cases x with
  | error e => cases h
  | ok a => exact ⟨a, rfl, Except.ok.inj h⟩

/-- A result that is told of in a context is the result. -/
theorem during_ok {context : String} {x : Except Fault α} {a : α} (h : during context x = .ok a) :
    x = .ok a := mapError_ok h

/-- Only a failure of the database is told of in a context. -/
theorem during_error {context : String} {x : Except Fault α} {f : Fault}
    (h : during context x = .error f) (other : ∀ told cause, f ≠ .persistence told cause) :
    x = .error f := by
  cases x with
  | ok a => cases h
  | error f' =>
    have same : f'.within context = f := Except.error.inj h
    unfold Fault.within at same
    split at same
    · exact absurd same.symm (other _ _)
    · exact congrArg Except.error same

/-- A test that throws was not met. -/
theorem unless_ok {b : Bool} {f : ε} {x : Except ε α} {next : β → Except ε α} {a : α}
    (h : (if b then throw f >>= next else x) = .ok a) : b = false ∧ x = .ok a := by
  cases b with
  | false => exact ⟨rfl, h⟩
  | true => cases h

/-- A test that throws was met, or what comes behind it fails. -/
theorem unless_error {b : Bool} {f e : ε} {x : Except ε α} {next : β → Except ε α}
    (h : (if b then throw f >>= next else x) = .error e) :
    b = true ∧ f = e ∨ b = false ∧ x = .error e := by
  cases b with
  | false => exact Or.inr ⟨rfl, h⟩
  | true => exact Or.inl ⟨rfl, Except.error.inj h⟩

/-- Each item has its result in its place. -/
theorem mapM_result {f : α → Except ε β} {items : List α} {results : List β}
    (h : items.mapM f = .ok results) {i : Nat} {a : α} (item : items[i]? = some a) :
    ∃ b, results[i]? = some b ∧ f a = .ok b := by
  induction items generalizing i results with
  | nil => cases item
  | cons first items ih =>
    rw [List.mapM_cons] at h
    obtain ⟨head, ok, h⟩ := bind_ok h
    obtain ⟨rest, oks, h⟩ := bind_ok h
    rw [← Except.ok.inj h]
    cases i with
    | zero =>
      obtain rfl := Option.some.inj item
      exact ⟨head, rfl, ok⟩
    | succ i => exact ih oks item

theorem mapM_ok {f : α → Except ε β} {items : List α} {results : List β}
    (h : items.mapM f = .ok results) {i : Nat} {a : α} {b : β} (item : items[i]? = some a)
    (result : results[i]? = some b) : f a = .ok b := by
  obtain ⟨c, made, ok⟩ := mapM_result h item
  rw [Option.some.inj (made.symm.trans result)] at ok
  exact ok

/-- Where each item has a result, so have all of them together. -/
theorem exists_mapM {f : α → Except ε β} {items : List α}
    (each : ∀ a ∈ items, ∃ b, f a = .ok b) : ∃ results, items.mapM f = .ok results := by
  induction items with
  | nil => exact ⟨[], rfl⟩
  | cons a items ih =>
    obtain ⟨b, ok⟩ := each a List.mem_cons_self
    obtain ⟨rest, oks⟩ := ih fun c hc => each c (List.mem_cons_of_mem a hc)
    exact ⟨b :: rest, by rw [List.mapM_cons, ok, oks]; rfl⟩

/-- What every step preserves holds in the end. -/
theorem foldlM_invariant {step : β → α → Except ε β} {items : List α} (P : β → Prop)
    (preserve : ∀ acc item next, item ∈ items → P acc → step acc item = .ok next → P next)
    {first last : β} (start : P first) (h : items.foldlM step first = .ok last) : P last := by
  induction items generalizing first with
  | nil =>
    rw [← Except.ok.inj h]
    exact start
  | cons item rest ih =>
    rw [List.foldlM_cons] at h
    obtain ⟨next, hnext, h⟩ := bind_ok h
    exact ih (fun acc j next hj => preserve acc j next (List.mem_cons_of_mem _ hj))
      (preserve first item next List.mem_cons_self start hnext) h

end EntityEngine
