import Mathlib
import Repartee.Proofs.Selection

/-! How a tie is decided. Words of 32 bits are drawn until one lies in the zone of the number of candidates, and its
product with that number names the candidate. The words in the zone that name one candidate follow each other without a
gap, and every candidate has as many of them as any other. -/
namespace Repartee
namespace Draws

/- The rule for one word, itself in words whose products and shifts wrap, and the index that a word names. -/
def leadingZeroBits (k : UInt32) : UInt32 := ⟨k.toBitVec.clz⟩

def InZone (k v : UInt32) : Prop := v * k ≤ (k <<< leadingZeroBits k) - 1
instance (k v) : Decidable (InZone k v) := by unfold InZone; infer_instance

def named (k v : UInt32) : UInt32 := ((v.toUInt64 * k.toUInt64) >>> 32).toUInt32

inductive Drawn (k : UInt32) : List UInt32 → Nat → List UInt32 → Prop where
  | taken {v rest} (inside : InZone k v) : Drawn k (v :: rest) (named k v).toNat rest
  | refused {v words i rest} (outside : ¬ InZone k v) (later : Drawn k words i rest) : Drawn k (v :: words) i rest

theorem leadingZerosExact {k : UInt32} (positive : 0 < k.toNat) : (leadingZeroBits k).toNat = leadingZeros k.toNat := by
  have nonzero : k.toBitVec ≠ 0 := by
    intro zero
    rw [← UInt32.toNat_toBitVec, zero] at positive
    contradiction
  have low : 2 ^ (31 - k.toBitVec.clz.toNat) ≤ k.toNat := BitVec.two_pow_sub_clz_le_toNat_of_ne_zero (by decide) nonzero
  have high : k.toNat < 2 ^ (32 - k.toBitVec.clz.toNat) := BitVec.toNat_lt_two_pow_sub_clz
  have few : k.toBitVec.clz.toNat < 32 := BitVec.lt_def.mp (BitVec.clz_lt_iff_ne_zero.mpr nonzero)
  have log : Nat.log2 k.toNat = 31 - k.toBitVec.clz.toNat := by
    rw [Nat.log2_eq_iff (Nat.ne_of_gt positive)]
    refine ⟨low, ?_⟩
    rwa [show 31 - k.toBitVec.clz.toNat + 1 = 32 - k.toBitVec.clz.toNat by omega]
  have made : (leadingZeroBits k).toNat = k.toBitVec.clz.toNat := rfl
  rw [made, leadingZeros, log]
  omega

theorem inZoneIff {k v : UInt32} (positive : 0 < k.toNat) : accepts k.toNat v.toNat = true ↔ InZone k v := by
  have fits := zoneFits positive k.toNat_lt
  have few : (leadingZeroBits k).toNat < 32 := by
    rw [leadingZerosExact positive, leadingZeros]
    omega
  have zone : (k <<< leadingZeroBits k).toNat = k.toNat <<< leadingZeros k.toNat := by
    rw [UInt32.toNat_shiftLeft, Nat.mod_eq_of_lt few, leadingZerosExact positive, Nat.mod_eq_of_lt fits]
  have filled : 1 ≤ k <<< leadingZeroBits k := UInt32.le_iff_toNat_le.mpr (zone ▸ zoneFilled positive)
  have last : (k <<< leadingZeroBits k - 1).toNat = k.toNat <<< leadingZeros k.toNat - 1 := by
    rw [UInt32.toNat_sub_of_le _ _ filled, zone]
    rfl
  rw [InZone, UInt32.le_iff_toNat_le, last, UInt32.toNat_mul]
  exact decide_eq_true_iff

theorem namedExact (k v : UInt32) : candidate k.toNat v.toNat = (named k v).toNat := by
  have product : v.toNat * k.toNat < 2 ^ 32 * 2 ^ 32 := Nat.mul_lt_mul'' v.toNat_lt k.toNat_lt
  have upper : v.toNat * k.toNat / 2 ^ 32 < 2 ^ 32 := Nat.div_lt_of_lt_mul product
  have whole : v.toNat * k.toNat < 2 ^ 64 := product
  simp only [named, candidate, UInt64.toNat_toUInt32, UInt64.toNat_shiftRight, UInt64.toNat_mul, UInt32.toNat_toUInt64]
  rw [Nat.mod_eq_of_lt whole, Nat.shiftRight_eq_div_pow]
  exact (Nat.mod_eq_of_lt upper).symm

theorem pickedIff {k : UInt32} (positive : 0 < k.toNat) {words rest : List UInt32} {i : Nat} :
    pick k.toNat words = (some i, rest) ↔ Drawn k words i rest := by
  constructor
  · intro picked
    induction words with
    | nil => simp [pick] at picked
    | cons v words ih =>
      simp only [pick] at picked
      split at picked
      · rename_i inside
        cases picked
        rw [namedExact]
        exact .taken ((inZoneIff positive).mp inside)
      · rename_i outside
        exact .refused (mt (inZoneIff positive).mpr outside) (ih picked)
  · intro drawn
    induction drawn with
    | taken inside => simp only [pick, (inZoneIff positive).mpr inside, if_true, namedExact]
    | refused outside _ ih => simp only [pick, mt (inZoneIff positive).mp outside, Bool.false_eq_true, if_false, ih]

def zone (k : UInt32) : Finset UInt32 := Finset.univ.filter (InZone k)

def owned (k : UInt32) (i : Nat) : Finset UInt32 := (zone k).filter (fun v => (named k v).toNat = i)

theorem ownedCard {k : UInt32} {i : Nat} (below : i < k.toNat) : (owned k i).card = 2 ^ (leadingZeroBits k).toNat := by
  have positive : 0 < k.toNat := Nat.zero_lt_of_lt below
  have block : (owned k i).map ⟨UInt32.toNat, fun _ _ => UInt32.toNat_inj.mp⟩ =
      Finset.Ico (firstWord k.toNat i) (firstWord k.toNat i + 1 <<< leadingZeros k.toNat) := by
    ext n
    simp only [owned, zone, Finset.mem_map, Finset.mem_filter, Finset.mem_univ, true_and, Finset.mem_Ico,
      ← inZoneIff positive, ← namedExact, blockIff k.toNat_lt below]
    constructor
    · rintro ⟨v, within, rfl⟩
      exact within
    · intro within
      have word : n < UInt32.size := Nat.lt_of_lt_of_le within.2 (blockFits k.toNat_lt below)
      exact ⟨UInt32.ofNatLT n word, within, rfl⟩
  rw [← Finset.card_map, block, Nat.card_Ico, Nat.add_sub_cancel_left, Nat.one_shiftLeft, leadingZerosExact positive]

theorem zoneCard {k : UInt32} (positive : 0 < k.toNat) : (zone k).card = k.toNat * 2 ^ (leadingZeroBits k).toNat := by
  have within : (zone k : Set UInt32).MapsTo (fun v => (named k v).toNat) (Finset.range k.toNat) := by
    intro v _
    have below : candidate k.toNat v.toNat < k.toNat := candidateBelow v.toNat_lt positive
    rw [namedExact] at below
    simpa using below
  rw [Finset.card_eq_sum_card_fiberwise within]
  refine (Finset.sum_const_nat fun i below => ?_).trans (by rw [Finset.card_range])
  exact ownedCard (Finset.mem_range.mp below)

end Draws

namespace Selection
variable {σ : Type} (trial : Rule → σ → Bool × σ) (now : Float) (bucket : List Rule) (s : σ)

theorem distinctCandidates : (candidates trial now bucket s).1.Nodup := by
  obtain ⟨walked, left, split, tries, _⟩ := triesPrefix trial now bucket.zipIdx s
  have positions : ((turns trial (eligible now walked) s).map (·.position)) = (eligible now walked).map Prod.snd := by
    have rules := congrArg (List.map Prod.snd) (turnRules trial (eligible now walked) s)
    rwa [List.map_map] at rules
  have start : (walked.map Prod.snd).Nodup := by
    have all : (bucket.zipIdx.map Prod.snd).Nodup := by
      rw [List.zipIdx_map_snd]
      exact List.nodup_range'
    rw [split, List.map_append] at all
    exact all.of_append_left
  rw [candidatesOfTries tries]
  refine List.Nodup.sublist (List.filter_sublist.map _) ?_
  rw [positions]
  exact start.sublist (List.filter_sublist.map _)

def tied : UInt32 := UInt32.ofNat (candidates trial now bucket s).1.length

def choosing (i : Nat) : Finset UInt32 :=
  (Draws.zone (tied trial now bucket s)).filter fun v =>
    (selectBy trial Draws.choose now bucket s { words := [v] }).1 = some i

structure DrawnEvenly : Prop where
  chosen : ∀ {words j rest}, Draws.Drawn (tied trial now bucket s) words j rest →
    ∃ i, (candidates trial now bucket s).1[j]? = some i ∧
      selectBy trial Draws.choose now bucket s ⟨words⟩ = (some i, (candidates trial now bucket s).2, ⟨rest⟩)
  share : ∀ i ∈ (candidates trial now bucket s).1,
    (choosing trial now bucket s i).card = 2 ^ (Draws.leadingZeroBits (tied trial now bucket s)).toNat
  reachable : ∀ i ∈ (candidates trial now bucket s).1, (choosing trial now bucket s i).Nonempty
  likely : ∀ i ∈ (candidates trial now bucket s).1,
    ((choosing trial now bucket s i).card : ℚ) / (Draws.zone (tied trial now bucket s)).card =
      1 / (candidates trial now bucket s).1.length

section Few
variable {trial now bucket s} (any : 1 ≤ (candidates trial now bucket s).1.length)
  (few : (candidates trial now bucket s).1.length < 2 ^ 32)
include few

theorem tiedExact : (tied trial now bucket s).toNat = (candidates trial now bucket s).1.length :=
  UInt32.toNat_ofNat_of_lt' few

include any

theorem drawnChosen {words rest : List UInt32} {j : Nat}
    (drawn : Draws.Drawn (tied trial now bucket s) words j rest) :
    ∃ i, (candidates trial now bucket s).1[j]? = some i ∧
      selectBy trial Draws.choose now bucket s ⟨words⟩ = (some i, (candidates trial now bucket s).2, ⟨rest⟩) := by
  have number := tiedExact few
  have positive : 0 < (tied trial now bucket s).toNat := number ▸ any
  have picked := (Draws.pickedIff positive).mpr drawn
  rw [number] at picked
  have below := Draws.pickedBelow any picked
  refine ⟨_, List.getElem?_eq_getElem below, ?_⟩
  have nonzero : (candidates trial now bucket s).1.length ≠ 0 := Nat.ne_of_gt any
  simp only [selectBy, Draws.choose, Draws.index?, if_neg nonzero, picked, Option.getD_some, Option.bind_some,
    List.getElem?_eq_getElem below]

theorem choosingOwned {i j : Nat} (stands : (candidates trial now bucket s).1[j]? = some i) :
    choosing trial now bucket s i = Draws.owned (tied trial now bucket s) j := by
  refine Finset.filter_congr fun v inside => ?_
  have drawn : Draws.Drawn (tied trial now bucket s) [v] _ [] := .taken (Finset.mem_filter.mp inside).2
  obtain ⟨i', stands', selected⟩ := drawnChosen any few drawn
  rw [selected]
  constructor
  · rintro same
    cases same
    have below := (List.getElem?_eq_some_iff.mp stands').1
    exact (List.getElem?_inj below (distinctCandidates trial now bucket s)).mp (stands'.trans stands.symm)
  · rintro rfl
    exact stands'.symm.trans stands

theorem choosingCard {i : Nat} (mem : i ∈ (candidates trial now bucket s).1) :
    (choosing trial now bucket s i).card = 2 ^ (Draws.leadingZeroBits (tied trial now bucket s)).toNat := by
  obtain ⟨j, stands⟩ := List.mem_iff_getElem?.mp mem
  have below := (List.getElem?_eq_some_iff.mp stands).1
  rw [choosingOwned any few stands]
  exact Draws.ownedCard ((tiedExact few).symm ▸ below)

theorem choosingLikely {i : Nat} (mem : i ∈ (candidates trial now bucket s).1) :
    ((choosing trial now bucket s i).card : ℚ) / (Draws.zone (tied trial now bucket s)).card =
      1 / (candidates trial now bucket s).1.length := by
  have number := tiedExact few
  have nonzero : ((candidates trial now bucket s).1.length : ℚ) ≠ 0 := Nat.cast_ne_zero.mpr (Nat.ne_of_gt any)
  rw [choosingCard any few mem, Draws.zoneCard (number ▸ any), number]
  push_cast
  field_simp

end Few

theorem tiesDrawnEvenly (trial : Rule → σ → Bool × σ) (now : Float) (bucket : List Rule) (s : σ)
    (any : 1 ≤ (candidates trial now bucket s).1.length) (few : (candidates trial now bucket s).1.length < 2 ^ 32) :
    (∀ (q : Query) (st : Stores) (d : Draws),
      selectRule bucket q st d = selectBy (fun r => r.passes q) Draws.choose q.now bucket st d) ∧
    DrawnEvenly trial now bucket s := by
  refine ⟨fun _ _ _ => rfl, fun drawn => drawnChosen any few drawn, fun i mem => choosingCard any few mem,
    fun i mem => ?_, fun i mem => choosingLikely any few mem⟩
  rw [← Finset.card_pos, choosingCard any few mem]
  exact Nat.two_pow_pos _

def threeTied : List Rule := [answering 1 [true], answering 2 [false], answering 3 [true], answering 4 [true], answering 5 []]

theorem tiesDrawnEvenlyOfThree :
    (candidates (fun r => r.passes silence) 0.0 threeTied ({} : Stores)).1 = [0, 2, 3] ∧
    (choosing (fun r => r.passes silence) 0.0 threeTied ({} : Stores) 2).card = 2 ^ 30 ∧
    (selectRule threeTied silence {} { words := [0xffffffff, 0x80000000, 7] }).1 = some 2 := by
  have three : (candidates (fun r => r.passes silence) 0.0 threeTied ({} : Stores)).1 = [0, 2, 3] := rfl
  have number : tied (fun r => r.passes silence) 0.0 threeTied ({} : Stores) = 3 := by
    rw [tied, three]
    rfl
  have bits : (Draws.leadingZeroBits 3).toNat = 30 := by decide
  obtain ⟨same, even⟩ := tiesDrawnEvenly (fun r => r.passes silence) 0.0 threeTied ({} : Stores)
    (by rw [three]; decide) (by rw [three]; decide)
  have drawn : Draws.Drawn 3 [0xffffffff, 0x80000000, 7] 1 [7] := .refused (by decide) (.taken (by decide))
  refine ⟨three, ?_, ?_⟩
  · rw [even.share 2 (by rw [three]; decide), number, bits]
  · obtain ⟨i, stands, selected⟩ := even.chosen (number ▸ drawn)
    rw [three] at stands
    cases stands
    rw [same]
    exact congrArg Prod.fst selected

end Selection
end Repartee
