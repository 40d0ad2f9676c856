import ScreenLogic.Value.Judgement

/-!
# Strict equality

Every value equals itself, and values of different kinds are never equal.
-/

namespace ScreenLogic.Value

mutual

@[simp] theorem equals_refl : (v : Value) → equals v v = true
  | .null => rfl
  | .bool b => by simp [equals]
  | .num n => by simp [equals, Number.same]
  | .str s => by simp [equals]
  | .arr items => by simpa [equals] using equalItems_refl items
  | .obj fields => by simpa [equals] using equalFields_refl fields

theorem equalItems_refl : (items : List Value) → equalItems items items = true
  | [] => rfl
  | v :: rest => by simp [equalItems, equals_refl v, equalItems_refl rest]

theorem equalFields_refl : (fields : List (String × Value)) → equalFields fields fields = true
  | [] => rfl
  | (key, v) :: rest => by simp [equalFields, equals_refl v, equalFields_refl rest]

end

@[simp] theorem strictEquals_refl (v : Option Value) : strictEquals v v = true := by
  cases v <;> simp [strictEquals]

end ScreenLogic.Value
