/-!
# Equality of results

A result is a value or an error; whether two results are equal can be decided when that can be
decided of the values and of the errors.
-/

namespace TransferHistory

instance decEqResult {ε α : Type} [DecidableEq ε] [DecidableEq α] : DecidableEq (Except ε α)
  | .ok a, .ok b => if h : a = b then isTrue (by rw [h]) else isFalse (by simp [h])
  | .error a, .error b => if h : a = b then isTrue (by rw [h]) else isFalse (by simp [h])
  | .ok _, .error _ | .error _, .ok _ => isFalse (by simp)

end TransferHistory
