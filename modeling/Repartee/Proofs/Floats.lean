import Repartee.Rule

/-! What is not a number is neither above nor below anything, and a difference with it is not a number
either. These are the only two facts about floats that the cooldowns need besides the test they make. -/
namespace Repartee
open Float.Model

theorem notANumber {x : Float} : x.isNaN = true ↔ x.toModel.unpack = .notANumber := by
  change UnpackedFloat.isNaN x.toModel.unpack = true ↔ _
  cases x.toModel.unpack with
  | notANumber => exact ⟨fun _ => rfl, fun _ => rfl⟩
  | _ => exact ⟨nofun, nofun⟩

theorem packedNotANumber : (Float.Model.pack .notANumber).unpack = .notANumber := rfl

theorem differenceNotANumber {x y : Float} (nan : x.isNaN = true ∨ y.isNaN = true) : (x - y).isNaN = true := by
  have made : (x - y).toModel =
      Float.Model.pack (UnpackedFloat.sub Format.binary64 x.toModel.unpack y.toModel.unpack) := rfl
  have nothing : UnpackedFloat.sub Format.binary64 x.toModel.unpack y.toModel.unpack = .notANumber := by
    rcases nan with left | right
    · rw [notANumber.mp left]
      rfl
    · rw [notANumber.mp right]
      cases x.toModel.unpack <;> rfl
  rw [notANumber, made, nothing, packedNotANumber]

theorem notAtMost {x y : Float} (nan : x.isNaN = true ∨ y.isNaN = true) : ¬ x ≤ y := by
  have unordered : UnpackedFloat.compare x.toModel.unpack y.toModel.unpack = none := by
    rcases nan with left | right
    · rw [notANumber.mp left]
      rfl
    · rw [notANumber.mp right]
      cases x.toModel.unpack <;> rfl
  intro atMost
  have compared : UnpackedFloat.le x.toModel.unpack y.toModel.unpack = true := of_decide_eq_true atMost
  unfold UnpackedFloat.le at compared
  rw [unordered] at compared
  contradiction

end Repartee
