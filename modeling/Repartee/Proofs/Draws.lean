import Repartee.Selection

/-! What a draw can give. Nothing is drawn from no candidates, and one of the candidates is drawn from any
others. Below 2 to the 32 candidates the accepted words that name one of them follow each other without a
gap, and there are as many for each. -/
namespace Repartee.Draws

theorem candidateBelow {k v : Nat} (word : v < UInt32.size) (positive : 0 < k) : candidate k v < k := by
  have product : v * k < UInt32.size * k := Nat.mul_lt_mul_of_pos_right word positive
  exact Nat.div_lt_of_lt_mul product

theorem pickedBelow {k i : Nat} {words rest : List UInt32} (positive : 0 < k)
    (picked : pick k words = (some i, rest)) : i < k := by
  induction words with
  | nil => simp [pick] at picked
  | cons v tail ih =>
    simp only [pick] at picked
    split at picked
    · cases picked
      exact candidateBelow v.toNat_lt positive
    · exact ih picked

theorem indexBelow (d : Draws) {k : Nat} (positive : 0 < k) : ∃ i, (d.index? k).1 = some i ∧ i < k := by
  have nonzero : k ≠ 0 := Nat.ne_of_gt positive
  simp only [index?, if_neg nonzero]
  cases picked : pick k d.words with
  | mk found rest =>
    cases found with
    | none => exact ⟨0, rfl, positive⟩
    | some i => exact ⟨i, rfl, pickedBelow positive picked⟩

theorem chosenFromNone {α : Type} (d : Draws) : d.choose ([] : List α) = (none, d) := rfl

theorem chosenMember {α : Type} (d : Draws) {candidates : List α} (any : candidates ≠ []) :
    ∃ a ∈ candidates, (d.choose candidates).1 = some a := by
  obtain ⟨i, drawn, below⟩ := d.indexBelow (List.length_pos_iff.mpr any)
  refine ⟨candidates[i], List.getElem_mem below, ?_⟩
  simp only [choose, drawn, Option.bind_some]
  exact List.getElem?_eq_getElem below

theorem chosenNone {α : Type} {d : Draws} {candidates : List α} (nothing : (d.choose candidates).1 = none) :
    (d.choose candidates).2 = d := by
  cases candidates with
  | nil => rfl
  | cons a rest =>
    obtain ⟨_, _, chosen⟩ := d.chosenMember (List.cons_ne_nil a rest)
    rw [nothing] at chosen
    contradiction

def firstWord (k i : Nat) : Nat := (i * UInt32.size + (k - 1)) / k

theorem fromFirstWord {k : Nat} (positive : 0 < k) (i v : Nat) : firstWord k i ≤ v ↔ i * UInt32.size ≤ k * v := by
  rw [firstWord, Nat.div_le_iff_le_mul_add_pred positive, Nat.add_le_add_iff_right]

theorem beforeLastWord {k : Nat} (positive : 0 < k) (i v n : Nat) :
    v < firstWord k i + n ↔ k * v < i * UInt32.size + k * n := by
  rcases Nat.lt_or_ge v n with less | least
  · have product : k * v < k * n := Nat.mul_lt_mul_of_pos_left less positive
    exact iff_of_true (Nat.lt_add_left _ less) (Nat.lt_add_left _ product)
  · obtain ⟨d, rfl⟩ := Nat.exists_eq_add_of_le least
    have start := not_congr (fromFirstWord positive i d)
    rw [Nat.mul_add]
    omega

theorem zoneFits {k : Nat} (positive : 0 < k) (small : k < UInt32.size) : k <<< leadingZeros k < UInt32.size := by
  have log : Nat.log2 k < 32 := (Nat.log2_lt (Nat.ne_of_gt positive)).mpr small
  calc k <<< leadingZeros k
    _ = k * 2 ^ leadingZeros k := Nat.shiftLeft_eq _ _
    _ < 2 ^ (Nat.log2 k + 1) * 2 ^ leadingZeros k := Nat.mul_lt_mul_of_pos_right Nat.lt_log2_self (Nat.two_pow_pos _)
    _ = 2 ^ 32 := by
      rw [← Nat.pow_add, leadingZeros]
      congr 1
      omega

theorem zoneFilled {k : Nat} (positive : 0 < k) : 0 < k <<< leadingZeros k := by
  rw [Nat.shiftLeft_eq]
  exact Nat.mul_pos positive (Nat.two_pow_pos _)

theorem zoneShared (k : Nat) : k * 1 <<< leadingZeros k = k <<< leadingZeros k := by
  rw [Nat.shiftLeft_eq, Nat.shiftLeft_eq, Nat.one_mul]

section Block
variable {k i : Nat} (small : k < UInt32.size) (below : i < k)
include small below

theorem blockIff (v : Nat) : accepts k v = true ∧ candidate k v = i ↔
    firstWord k i ≤ v ∧ v < firstWord k i + 1 <<< leadingZeros k := by
  have positive : 0 < k := Nat.zero_lt_of_lt below
  have fits := zoneFits positive small
  have filled := zoneFilled positive
  rw [fromFirstWord positive, beforeLastWord positive, accepts, decide_eq_true_iff, candidate, zoneShared, Nat.mul_comm v k]
  generalize k * v = product
  have size : UInt32.size = 4294967296 := rfl
  rw [size] at fits ⊢
  omega

theorem blockFits : firstWord k i + 1 <<< leadingZeros k ≤ UInt32.size := by
  have positive : 0 < k := Nat.zero_lt_of_lt below
  have fits := zoneFits positive small
  have last : i * UInt32.size + UInt32.size ≤ k * UInt32.size := by
    rw [← Nat.succ_mul]
    exact Nat.mul_le_mul_right _ below
  refine Nat.le_of_not_lt fun beyond => ?_
  have product := (beforeLastWord positive i UInt32.size _).mp beyond
  rw [zoneShared] at product
  omega

theorem everyIndexPicked : ∃ v, pick k [v] = (some i, []) := by
  have next : firstWord k i < firstWord k i + 1 <<< leadingZeros k := by
    rw [Nat.one_shiftLeft]
    exact Nat.lt_add_of_pos_right (Nat.two_pow_pos _)
  have word : firstWord k i < UInt32.size := Nat.lt_of_lt_of_le next (blockFits small below)
  obtain ⟨accepted, named⟩ := (blockIff small below (firstWord k i)).mpr ⟨Nat.le_refl _, next⟩
  refine ⟨UInt32.ofNatLT (firstWord k i) word, ?_⟩
  simp only [pick, UInt32.toNat_ofNatLT, accepted, if_true, named]

end Block

theorem everyMemberChosen {α : Type} {candidates : List α} (small : candidates.length < UInt32.size)
    {a : α} (member : a ∈ candidates) : ∃ d : Draws, (d.choose candidates).1 = some a := by
  obtain ⟨i, below, rfl⟩ := List.mem_iff_getElem.mp member
  obtain ⟨v, picked⟩ := everyIndexPicked small below
  have nonzero : candidates.length ≠ 0 := by omega
  refine ⟨{ words := [v] }, ?_⟩
  simp only [choose, index?, if_neg nonzero, picked, Option.getD_some, Option.bind_some]
  exact List.getElem?_eq_getElem below

end Repartee.Draws
