import Repartee.Proofs.Aliasing
import Repartee.Proofs.Floats

/-! Intervals against comparisons. A number and a float are read alike where the cell holds a float or nothing, and what
the read leaves is the same. A closed interval around one value holds exactly what equals it, and a closed half-line what
is beyond its bound or equals it, so an interval and the comparison it stands for differ only where an order is asked of
equal values. -/
namespace Repartee

section Order
open Float.Model
variable {x y : Float}

theorem comparedBack (u v : UnpackedFloat) : u.compare v = (v.compare u).map Ordering.swap := by
  -- Only finite floats of one sign are compared by more than their kind and sign: by exponent, then by mantissa.
  have digits (m n : Nat) (d e : Int) : (compare d e).then (compare m n) = ((compare e d).then (compare n m)).swap := by
    rw [Ordering.swap_then, ← Std.OrientedCmp.eq_swap, ← Std.OrientedCmp.eq_swap]
  cases u with
  | notANumber => cases v <;> rfl
  | infinity s =>
    cases v with
    | infinity t => cases s <;> cases t <;> rfl
    | notANumber | zero | finite => cases s <;> rfl
  | zero s =>
    cases v with
    | notANumber | zero => rfl
    | infinity t | finite t => cases t <;> rfl
  | finite s m d =>
    cases v with
    | notANumber => rfl
    | zero => cases s <;> rfl
    | infinity t => cases s <;> cases t <;> rfl
    | finite t n e =>
      cases s with
      | negative =>
        cases t with
        | negative => exact congrArg (fun o => some (Ordering.swap o)) (digits m n d e)
        | positive => rfl
      | positive =>
        cases t with
        | negative => rfl
        | positive => exact congrArg some (digits m n d e)

theorem lessIff : x < y ↔ x.toModel.unpack.compare y.toModel.unpack = some .lt := by
  have read : x < y ↔ (x.toModel.unpack.compare y.toModel.unpack == some .lt) = true := decide_eq_true_iff
  rw [read, beq_iff_eq]

theorem sameIff : (x == y) = true ↔ x.toModel.unpack.compare y.toModel.unpack = some .eq := by
  have read : (x == y) = (x.toModel.unpack.compare y.toModel.unpack == some .eq) := rfl
  rw [read, beq_iff_eq]

theorem atMostIff : x ≤ y ↔ x < y ∨ (x == y) = true := by
  have read : x ≤ y ↔ (x.toModel.unpack.compare y.toModel.unpack).any Ordering.isLE = true := decide_eq_true_iff
  rw [read, lessIff, sameIff]
  cases x.toModel.unpack.compare y.toModel.unpack with
  | none => simp
  | some o => cases o <;> simp

theorem sameBack : (x == y) = (y == x) := by
  rw [Bool.eq_iff_iff, sameIff, sameIff, comparedBack]
  cases y.toModel.unpack.compare x.toModel.unpack with
  | none => simp
  | some o => cases o <;> simp

theorem notBelowBoth (below : x < y) : ¬ y < x := by
  rw [lessIff] at below ⊢
  rw [comparedBack, below]
  nofun

theorem sameOfBetween : x ≤ y ∧ y ≤ x ↔ (y == x) = true := by
  rw [atMostIff, atMostIff, sameBack (x := x)]
  constructor
  · rintro ⟨below | same, above | same⟩
    · exact absurd above (notBelowBoth below)
    all_goals exact same
  · intro same
    exact ⟨.inr same, .inr same⟩

theorem betweenInfinities (number : x.isNaN = false) : -Decimal.infinity ≤ x ∧ x ≤ Decimal.infinity := by
  have upper : Decimal.infinity.toModel.unpack = .infinity .positive := rfl
  have lower : (-Decimal.infinity).toModel.unpack = .infinity .negative := rfl
  have regular : x.toModel.unpack ≠ .notANumber := by
    intro nothing
    rw [notANumber.mpr nothing] at number
    contradiction
  simp only [atMostIff, lessIff, sameIff, upper, lower]
  cases unpacked : x.toModel.unpack with
  | notANumber => contradiction
  | zero | finite => exact ⟨.inl rfl, .inl rfl⟩
  | infinity s =>
    cases s with
    | negative => exact ⟨.inr rfl, .inl rfl⟩
    | positive => exact ⟨.inl rfl, .inr rfl⟩

end Order

namespace Interval
variable {v x : Float}

theorem betweenHolds (lower upper : Float) : (between lower upper).contains x = true ↔ lower ≤ x ∧ x ≤ upper := by
  change ((decide (lower ≤ x) && decide (x ≤ upper)) != false) = true ↔ _
  simp only [Bool.bne_false, Bool.and_eq_true, decide_eq_true_eq]

theorem exactlyHolds : (exactly v).contains x = (x == v) := by
  rw [Bool.eq_iff_iff, ← sameOfBetween]
  exact betweenHolds v v

theorem excludingHolds : (excluding v).contains x = !(x == v) := by
  rw [← exactlyHolds]
  change ((decide (v ≤ x) && decide (x ≤ v)) != true) = !((decide (v ≤ x) && decide (x ≤ v)) != false)
  rw [Bool.bne_true, Bool.bne_false]

theorem atLeastHolds : (atLeast v).contains x = true ↔ v ≤ x := by
  refine (betweenHolds v Decimal.infinity).trans (and_iff_left_of_imp fun above => ?_)
  have number : x.isNaN = false := Bool.eq_false_of_not_eq_true fun nan => notAtMost (.inr nan) above
  exact (betweenInfinities number).2

theorem atMostHolds : (atMost v).contains x = true ↔ x ≤ v := by
  refine (betweenHolds (-Decimal.infinity) v).trans (and_iff_right_of_imp fun below => ?_)
  have number : x.isNaN = false := Bool.eq_false_of_not_eq_true fun nan => notAtMost (.inl nan) below
  exact (betweenInfinities number).1

theorem equalHolds (op : Comparison) (asked : op = .equal ∨ op = .notEqual) :
    (ofComparison op v).contains x = op.holds .float x v := by
  rcases asked with rfl | rfl
  · exact exactlyHolds
  · exact excludingHolds

theorem orderHolds (op : Comparison) (asked : op = .greaterThan ∨ op = .lessThan) :
    (ofComparison op v).contains x = true ↔ op.holds .float x v = true ∨ (x == v) = true := by
  have decided (y z : Float) : y < z ↔ Kind.float.less y z = true := decide_eq_true_iff.symm
  rcases asked with rfl | rfl
  · calc (atLeast v).contains x = true
      _ ↔ v < x ∨ (v == x) = true := atLeastHolds.trans atMostIff
      _ ↔ Kind.float.less v x = true ∨ (x == v) = true := by rw [decided, sameBack]
  · calc (atMost v).contains x = true
      _ ↔ x < v ∨ (x == v) = true := atMostHolds.trans atMostIff
      _ ↔ Kind.float.less x v = true ∨ (x == v) = true := by rw [decided]

end Interval

namespace Query
variable {q : Query} {st : Stores} {key : String} {source : Source} {x : Float}

/- The float that a cell shows when it holds one or nothing. -/
inductive ShowsFloat (q : Query) (st : Stores) (key : String) (source : Source) : Float → Prop where
  | held {p x} (leads : q.Leads source p) (found : st.cell q.toOccasion p key = some (.float x)) : ShowsFloat q st key source x
  | absent {p} (leads : q.Leads source p) (nothing : st.cell q.toOccasion p key = none) : ShowsFloat q st key source 0.0
  | unresolved (leads : q.Leads source .nowhere) : ShowsFloat q st key source 0.0

theorem readAlike (shows : q.ShowsFloat st key source x) :
    q.getNumber key source st = q.get .float key source st ∧ (q.get .float key source st).1.1 = x := by
  have missed (nothing : (st.contents q.toOccasion (q.place source)).get? key = none) :
      q.getNumber key source st = q.get .float key source st ∧ (q.get .float key source st).1.1 = 0.0 := by
    have number : (st.contents q.toOccasion (q.place source)).number? key = none := by rw [Store.number?, nothing]; rfl
    have read : (st.contents q.toOccasion (q.place source)).read? .float key = none := by rw [Store.read?, nothing]; rfl
    rw [getNumberMissed number, getMissed read]
    exact ⟨rfl, rfl⟩
  cases shows with
  | held leads found =>
    obtain rfl := Occasion.placeOfLeads leads
    unfold Stores.cell at found
    have number : (st.contents q.toOccasion (q.place source)).number? key = some x := by rw [Store.number?, found]; rfl
    have read : (st.contents q.toOccasion (q.place source)).read? .float key = some x := by rw [Store.read?, found]; rfl
    rw [getNumberFound number, getFound read]
    exact ⟨rfl, rfl⟩
  | absent leads nothing =>
    obtain rfl := Occasion.placeOfLeads leads
    exact missed nothing
  | unresolved leads =>
    refine missed ?_
    rw [Occasion.placeOfLeads leads]
    rfl

end Query

theorem intervalsMatchComparisons (key : String) (source : Source) (op : Comparison) (v : Float) {q : Query} {st : Stores}
    {x : Float} (shows : q.ShowsFloat st key source x) :
    ((Criterion.within key source (.ofComparison op v)).check q st).2 =
      ((Criterion.compare key source op (.float v)).check q st).2 ∧
    (op = .equal ∨ op = .notEqual →
      ((Criterion.within key source (.ofComparison op v)).check q st).1 =
        ((Criterion.compare key source op (.float v)).check q st).1) ∧
    (op = .greaterThan ∨ op = .lessThan →
      (((Criterion.within key source (.ofComparison op v)).check q st).1 = true ↔
        ((Criterion.compare key source op (.float v)).check q st).1 = true ∨ (x == v) = true)) := by
  obtain ⟨alike, shown⟩ := Query.readAlike shows
  have typed : (Criterion.compare key source op (.float v)).check q st =
      (op.holds .float x v, (q.get .float key source st).2) := by rw [← shown]; rfl
  have interval : (Criterion.within key source (.ofComparison op v)).check q st =
      ((Interval.ofComparison op v).contains x, (q.get .float key source st).2) := by
    simp only [Criterion.check, alike, shown]
  rw [typed, interval]
  exact ⟨rfl, Interval.equalHolds op, Interval.orderHolds op⟩

def calm : Stores := { memory := Assoc.empty.insert "Anger" (.float (-0.0)) }

theorem intervalsMatchComparisonsAtZero :
    ({ now := 0.0 : Query }.ShowsFloat calm "Anger" .memory (-0.0)) ∧
    ((Criterion.within "Anger" .memory (.ofComparison .greaterThan 0.0)).check { now := 0.0 } calm).1 = true ∧
    ((Criterion.compare "Anger" .memory .greaterThan (.float 0.0)).check { now := 0.0 } calm).1 = false := by
  have shows : { now := 0.0 : Query }.ShowsFloat calm "Anger" .memory (-0.0) := .held .memory rfl
  have matched := intervalsMatchComparisons "Anger" .memory .greaterThan 0.0 shows
  exact ⟨shows, (matched.2.2 (.inl rfl)).mpr (.inr rfl), rfl⟩

end Repartee
