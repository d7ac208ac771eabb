import Mathlib
import Repartee.Decimal.Numeral
import Repartee.Proofs.Floats

/-! What is written with a point is a number, maybe an infinite one. Rounding never gives up, scaling by a power of
ten never meets zero or infinity on its own side, and the words that are no numerals have no point. -/
namespace Repartee
open Float.Model UnpackedFloat

theorem number {x : Float} : x.isNaN = false ↔ x.toModel.unpack ≠ .notANumber := by
  rw [ne_eq, ← notANumber, Bool.not_eq_true]

theorem unpackedNumber {spec : Format} {bits : BitVec spec.numBits}
    (regular : unpackExponent bits = -1#_ → unpackMantissa bits = 0#_) : unpack spec bits ≠ .notANumber := by
  unfold UnpackedFloat.unpack
  dsimp only
  split
  · rename_i whole
    rw [if_pos (regular whole)]
    nofun
  · split
    · split <;> nofun
    · nofun

theorem packedRegular {spec : Format} {u : UnpackedFloat} (number : u ≠ .notANumber) :
    unpackExponent (UnpackedFloat.pack spec u) = -1#_ → unpackMantissa (UnpackedFloat.pack spec u) = 0#_ := by
  -- Only infinity has the greatest exponent; a finite value that reaches it is packed as infinity.
  fun_cases UnpackedFloat.pack with
  | case1 => contradiction
  | case2 sign => simp [packedInfinity]
  | case3 sign => simp [packedZero]
  | case4 sign mantissa exponent positive biased beyond => simp [packedInfinity]
  | case5 sign mantissa exponent positive bits biased within normal =>
    have small : biased < 2 ^ spec.exponentBits - 1 := by omega
    have less : biased % 2 ^ spec.exponentBits ≠ 2 ^ spec.exponentBits - 1 := by
      rw [Nat.mod_eq_of_lt (by omega)]
      omega
    simp [BitVec.neg_one_eq_allOnes, ← BitVec.toNat_inj, less]
  | case6 sign mantissa exponent positive bits biased within subnormal => simp [Nat.pos_iff_ne_zero.1 spec.he]

theorem packedNumber {u : UnpackedFloat} (number : u ≠ .notANumber) : (Float.Model.pack u).unpack ≠ .notANumber :=
  unpackedNumber (packedRegular number)

theorem roundedNumber (spec : Format) (sign : Sign) (mantissa : Nat) (exponent : Int) (accuracy : Accuracy) :
    roundWithAccuracy spec sign mantissa exponent accuracy ≠ .notANumber := by
  unfold roundWithAccuracy
  dsimp only
  split <;> nofun

theorem wholeNumber (spec : Format) (n : Int) : UnpackedFloat.ofInt spec n ≠ .notANumber := by
  unfold UnpackedFloat.ofInt UnpackedFloat.normalize
  split
  · exact roundedNumber _ _ _ _ _
  · nofun
  · exact roundedNumber _ _ _ _ _

def Scale : UnpackedFloat → Bool
  | .finite .. => true
  | .notANumber | .infinity _ | .zero _ => false

theorem productNumber {spec : Format} {u v : UnpackedFloat} (number : u ≠ .notANumber) (scale : Scale v = true) :
    mul spec u v ≠ .notANumber := by
  cases v with
  | notANumber | infinity | zero => contradiction
  | finite =>
    cases u with
    | notANumber => contradiction
    | infinity | zero => nofun
    | finite => exact roundedNumber _ _ _ _ _

theorem quotientNumber {spec : Format} {u v : UnpackedFloat} (number : u ≠ .notANumber) (scale : Scale v = true) :
    div spec u v ≠ .notANumber := by
  cases v with
  | notANumber | infinity | zero => contradiction
  | finite =>
    cases u with
    | notANumber => contradiction
    | infinity | zero => nofun
    | finite => exact roundedNumber _ _ _ _ _

theorem scientificNumber (spec : Format) (m : Nat) (e : Int) : UnpackedFloat.ofScientific spec m e ≠ .notANumber := by
  unfold UnpackedFloat.ofScientific
  split
  · nofun
  · split
    · nofun
    · split
      · nofun
      · split
        · exact productNumber nofun rfl
        · exact quotientNumber nofun rfl

theorem negatedNumber {x : Float} (regular : x.isNaN = false) : (-x).isNaN = false := by
  rw [number] at regular ⊢
  have made : (-x).toModel = Float.Model.pack x.toModel.unpack.neg := rfl
  rw [made]
  refine packedNumber ?_
  cases value : x.toModel.unpack with
  | notANumber => contradiction
  | infinity | zero | finite => nofun

theorem powerScale : ∀ e : Fin 23, Scale (Float.exactlyRepresentablePowersOfTen[e]).toModel.unpack = true := by
  decide +kernel

theorem readNumber (m : Nat) (small : Bool) (e : Nat) : (Float.ofScientific m small e).isNaN = false := by
  rw [number]
  unfold Float.ofScientific
  split
  · rename_i exact_
    have scale := powerScale ⟨e, by omega⟩
    have whole : (m.toUInt64.toFloat).toModel.unpack ≠ .notANumber := packedNumber (wholeNumber _ _)
    dsimp only
    split
    · exact packedNumber (quotientNumber whole scale)
    · exact packedNumber (productNumber whole scale)
  · exact packedNumber (scientificNumber _ _ _)

theorem infinityNumber : Decimal.infinity.isNaN = false := by decide +kernel

theorem numeralNumber (n : Decimal.Numeral) : n.toFloat.isNaN = false := by
  have magnitude : n.magnitude.isNaN = false := by
    unfold Decimal.Numeral.magnitude
    dsimp only
    split
    · exact readNumber 0 true 1
    · split
      · exact infinityNumber
      · split
        · exact readNumber 0 true 1
        · split <;> exact readNumber _ _ _
  unfold Decimal.Numeral.toFloat
  split
  · exact negatedNumber magnitude
  · exact magnitude

theorem signKeepsPoint {cs : List Char} (point : '.' ∈ cs) : '.' ∈ (Decimal.splitSign cs).2 := by
  unfold Decimal.splitSign
  split
  · simpa using point
  · simpa using point
  · exact point

theorem pointNoWord {cs : List Char} (point : '.' ∈ cs) : Decimal.wordValue? cs = none := by
  have kept : '.' ∈ (String.ofList (cs.map Char.toLower)).toList := by
    rw [String.toList_ofList]
    exact List.mem_map_of_mem (f := Char.toLower) point
  have apart {word : String} (pointless : '.' ∉ word.toList) : String.ofList (cs.map Char.toLower) ≠ word := by
    rintro rfl
    exact pointless kept
  have infinite : ¬ (String.ofList (cs.map Char.toLower) = "inf" ∨ String.ofList (cs.map Char.toLower) = "infinity") :=
    not_or.mpr ⟨apart (by simp), apart (by simp)⟩
  have nameless : String.ofList (cs.map Char.toLower) ≠ "nan" := apart (by simp)
  simp only [Decimal.wordValue?, if_neg infinite, if_neg nameless]

theorem pointNumber {token : String} {x : Float} (point : '.' ∈ token.toList) (read : Decimal.readFloat? token = some x) :
    x.isNaN = false := by
  simp only [Decimal.readFloat?, pointNoWord (signKeepsPoint point)] at read
  obtain ⟨n, _, rfl⟩ := Option.map_eq_some_iff.mp read
  exact numeralNumber n

end Repartee
