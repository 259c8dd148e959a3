import DesiredState.Value

/-!
# Sameness of values

Outside nested maps sameness is equality, so a value without nesting is the
same as itself and as nothing else.
-/

namespace DesiredState
namespace Value

/-- Whether a value is no nested map. -/
def isFlat : Value → Bool
  | .nested _ => false
  | _ => true

/-- A flat value is the same as itself only. -/
theorem same_iff_eq_of_isFlat {wanted : Value} (h : wanted.isFlat = true)
    (observed : Value) : observed.same wanted = true ↔ observed = wanted := by
  cases wanted <;> cases observed <;> simp [isFlat, same] at h ⊢

theorem same_self_of_isFlat {value : Value} (h : value.isFlat = true) :
    value.same value = true :=
  (same_iff_eq_of_isFlat h value).mpr rfl

/-- What is the same as a value asks for clearing if that value does. -/
theorem isClear_of_same {a b : Value} (h : a.same b = true) : a.isClear = b.isClear := by
  cases a <;> cases b <;> simp_all [same, isClear]

/-- A value is dropped when it asks for clearing. -/
theorem filter_not_isClear (value : Value) :
    ((some value).filter fun value => !value.isClear) =
      if value.isClear then none else some value := by
  cases hclear : value.isClear with
  | true => simp [Option.filter, hclear]
  | false => simp [Option.filter, hclear]

end Value

/-- An observed value is the same as a flat wanted one exactly when it is that
value. -/
theorem sameOption_iff_of_isFlat {wanted : Value} (h : wanted.isFlat = true)
    (observed : Option Value) :
    sameOption observed (some wanted) = true ↔ observed = some wanted := by
  cases observed with
  | none => simp [sameOption]
  | some value => simp [sameOption, Value.same_iff_eq_of_isFlat h]

end DesiredState
