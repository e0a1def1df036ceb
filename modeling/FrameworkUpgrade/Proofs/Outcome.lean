/-!
# `FrameworkUpgrade.Proofs.Outcome`: what comes of a computation that may fail

Readers and checks end with a value or with a fault. `Yields P r` says that whatever value comes
of `r` satisfies `P`, so a fault yields everything. It goes along a computation with `bind`,
`map` and `ite`. `bind_eq_ok` takes a computation apart that has come to a value, and
`bind_eq_error` one that has failed.
-/

set_option autoImplicit false

namespace FrameworkUpgrade

/-- One check after another passes when both do. -/
theorem bind_eq_ok {ε α β : Type} {a : Except ε α} {f : α → Except ε β} {b : β} :
    (a >>= f) = .ok b ↔ ∃ v, a = .ok v ∧ f v = .ok b := by
  cases a with
  | ok v => exact ⟨fun h => ⟨v, rfl, h⟩, by rintro ⟨_, ⟨⟩, h⟩; exact h⟩
  | error e => exact ⟨nofun, by rintro ⟨_, ⟨⟩, _⟩⟩

/-- One check after another fails with the fault of the first, or of the second when the first
passes. -/
theorem bind_eq_error {ε α β : Type} {a : Except ε α} {f : α → Except ε β} {fault : ε} :
    (a >>= f) = .error fault ↔ a = .error fault ∨ ∃ v, a = .ok v ∧ f v = .error fault := by
  cases a with
  | ok v =>
    constructor
    · exact fun h => .inr ⟨v, rfl, h⟩
    · rintro (⟨⟨⟩⟩ | ⟨_, ⟨⟩, h⟩)
      exact h
  | error e =>
    constructor
    · rintro ⟨⟩
      exact .inl rfl
    · rintro (⟨⟨⟩⟩ | ⟨_, ⟨⟩, _⟩)
      rfl

/-- Another fault leaves a value as it is. -/
theorem mapError_eq_ok {ε ε' α : Type} {f : ε → ε'} {r : Except ε α} {a : α} :
    r.mapError f = .ok a ↔ r = .ok a := by
  cases r with
  | ok b => exact ⟨fun h => congrArg _ (Except.ok.inj h), fun h => congrArg _ (Except.ok.inj h)⟩
  | error e => exact ⟨nofun, nofun⟩

/-- A computation has a value exactly when it ends with it. -/
theorem toOption_eq_some {ε α : Type} {r : Except ε α} {a : α} :
    r.toOption = some a ↔ r = .ok a := by
  cases r with
  | ok b => exact ⟨fun h => congrArg _ (Option.some.inj h), by rintro ⟨⟩; rfl⟩
  | error e => exact ⟨nofun, nofun⟩

/-- Whatever comes of a computation satisfies a predicate. -/
def Yields {ε α : Type} (P : α → Prop) (r : Except ε α) : Prop :=
  ∀ a, r = .ok a → P a

namespace Yields

variable {ε α β : Type} {P : α → Prop} {Q : β → Prop}

/-- A value that satisfies the predicate yields it. -/
theorem ok {a : α} (h : P a) : Yields P (.ok a : Except ε α) := by
  rintro _ ⟨⟩
  exact h

/-- A fault yields every predicate, because no value comes of it. -/
theorem error (fault : ε) : Yields P (.error fault) :=
  nofun

/-- Every computation yields the predicate that is always true. -/
theorem any (r : Except ε α) : Yields (fun _ => True) r :=
  fun _ _ => trivial

/-- A computation behind another may rely on what the first yields. -/
theorem bind {r : Except ε α} {f : α → Except ε β} (h : Yields P r)
    (hf : ∀ a, P a → Yields Q (f a)) : Yields Q (r >>= f) := by
  cases r with
  | ok a => exact hf a (h a rfl)
  | error fault => exact nofun

/-- A change of the value takes what it yields along. -/
theorem map {r : Except ε α} {f : α → β} (h : Yields P r) (hf : ∀ a, P a → Q (f a)) :
    Yields Q (r.map f) := by
  cases r with
  | ok a => exact ok (hf a (h a rfl))
  | error fault => exact nofun

/-- A choice yields what both of its branches do. -/
theorem ite {p : Prop} [Decidable p] {r r' : Except ε α} (h : Yields P r) (h' : Yields P r') :
    Yields P (if p then r else r') := by
  split
  · exact h
  · exact h'

end Yields

end FrameworkUpgrade
