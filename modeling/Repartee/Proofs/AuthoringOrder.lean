import Repartee.Proofs.Compilation
import Repartee.Proofs.Reading
import Repartee.Proofs.TableInvariant

/-! The order in which rows and criteria lines are written does not matter for what can be chosen, as long as
lines that read one cell agree about its kind. Which rule is drawn among equals is left to a chooser that
picks members only and can pick any of them. -/
namespace Repartee

section Winners
variable (q : Query) (st : Stores)

structure Winner (bucket : List Rule) (r : Rule) : Prop where
  member : r ∈ bucket
  eligible : r.isEligible q.now = true
  holds : r.holdsAlone q st = true
  top : ∀ s ∈ bucket, s.isEligible q.now = true → s.holdsAlone q st = true → s.specificity ≤ r.specificity

def looksOf (rules : List Rule) : List Look := rules.flatMap (fun r => r.criteria.filterMap (Criterion.look? q))

def Comparing (rules : List Rule) : Prop := ∀ r ∈ rules, ∀ c ∈ r.criteria, (c.look? q).isSome = true

variable {q} {bucket : List Rule} (sorted : Falling bucket) (comparing : Comparing q bucket)
  (agree : KindsAgree (looksOf q bucket))

theorem lookOf {look : Look} : look ∈ looksOf q bucket ↔ ∃ r ∈ bucket, ∃ c ∈ r.criteria, c.look? q = some look := by
  simp only [looksOf, List.mem_flatMap, List.mem_filterMap]

include comparing in
theorem bucketReads {r : Rule} (mem : r ∈ bucket) : Reads q (looksOf q bucket) r.criteria := by
  intro c inside
  obtain ⟨look, read⟩ := Option.isSome_iff_exists.mp (comparing r mem c inside)
  exact ⟨look, lookOf.mpr ⟨r, mem, c, inside, read⟩, read⟩

theorem standingTurn {i : Nat} {r : Rule} (stands : bucket[i]? = some r) (may : r.isEligible q.now = true) :
    ∃ t ∈ Selection.exhaustive (fun r => r.passes q) q.now bucket st, t.rule = r ∧ t.position = i := by
  have inside : (r, i) ∈ Selection.eligible q.now bucket.zipIdx :=
    List.mem_filter.mpr ⟨List.mem_zipIdx_iff_getElem?.mpr stands, may⟩
  rw [← Selection.turnRules (fun r => r.passes q) (Selection.eligible q.now bucket.zipIdx) st] at inside
  obtain ⟨t, mem, same⟩ := List.mem_map.mp inside
  exact ⟨t, mem, (Prod.mk.inj same).1, (Prod.mk.inj same).2⟩

include comparing agree in
theorem exhaustiveAlone : ∀ t ∈ Selection.exhaustive (fun r => r.passes q) q.now bucket st,
    t.passed = t.rule.holdsAlone q st := by
  refine turnsAlone agree (fun p mem => ?_) (fun _ _ => rfl)
  have stands := List.mem_zipIdx_iff_getElem?.mp (List.mem_filter.mp mem).1
  exact bucketReads comparing (List.mem_of_getElem? stands)

include sorted comparing agree in
theorem candidatesAreWinners (i : Nat) : i ∈ (candidates (fun r => r.passes q) q.now bucket st).1 ↔
    ∃ r, bucket[i]? = some r ∧ Winner q st bucket r := by
  have alone := exhaustiveAlone st comparing agree
  rw [Selection.sortedCandidates _ _ _ sorted]
  constructor
  · intro mem
    obtain ⟨t, top, rfl⟩ := List.mem_map.mp mem
    obtain ⟨walked, best⟩ := List.mem_filter.mp top
    obtain ⟨passed, above⟩ := decide_eq_true_eq.mp best
    obtain ⟨stands, may⟩ := Selection.turnStands _ (fun _ mem => mem) walked
    refine ⟨t.rule, stands, List.mem_of_getElem? stands, may, alone t walked ▸ passed, fun s mem may' holds => ?_⟩
    obtain ⟨j, stands'⟩ := List.mem_iff_getElem?.mp mem
    obtain ⟨u, walked', rfl, _⟩ := standingTurn st stands' may'
    exact above u walked' ((alone u walked').trans holds)
  · rintro ⟨r, stands, winner⟩
    obtain ⟨t, walked, rfl, rfl⟩ := standingTurn st stands winner.eligible
    have passed : t.passed = true := (alone t walked).trans winner.holds
    have above : ∀ u ∈ Selection.exhaustive (fun r => r.passes q) q.now bucket st, u.passed = true →
        u.rule.specificity ≤ t.rule.specificity := by
      intro u walked' passed'
      obtain ⟨stands', may'⟩ := Selection.turnStands _ (fun _ mem => mem) walked'
      exact winner.top u.rule (List.mem_of_getElem? stands') may' (alone u walked' ▸ passed')
    exact List.mem_map.mpr ⟨t, List.mem_filter.mpr ⟨walked, decide_eq_true_eq.mpr ⟨passed, above⟩⟩, rfl⟩

end Winners

section Rearranged
variable {v : Vocabulary}

inductive Relined : Row → Row → Prop where
  | intro (row : Row) (cell : String) (lines : (linesOfCell cell).Perm (linesOfCell row.criteria)) :
    Relined row { row with criteria := cell }

def Rearranged (rows rows' : List Row) : Prop := ∃ mid, rows.Perm mid ∧ List.Forall₂ Relined mid rows'

inductive Reordered : Rule → Rule → Prop where
  | intro (r : Rule) (criteria : List Criterion) (perm : criteria.Perm r.criteria) :
    Reordered r { r with criteria := criteria }

section Reordered
variable {r r' : Rule} (same : Reordered r r')

include same

theorem Reordered.sameId : r'.id = r.id := by
  obtain ⟨criteria, perm⟩ := same
  rfl

theorem Reordered.sameCriteria : r'.criteria.Perm r.criteria := by
  obtain ⟨criteria, perm⟩ := same
  exact perm

theorem Reordered.sameEligible (now : Float) : r'.isEligible now = r.isEligible now := by
  obtain ⟨criteria, perm⟩ := same
  rfl

theorem Reordered.sameSpecificity : r'.specificity = r.specificity := same.sameCriteria.length_eq

theorem Reordered.sameHolds (q : Query) (st : Stores) : r'.holdsAlone q st = r.holdsAlone q st :=
  same.sameCriteria.all_eq

end Reordered

theorem Relined.symm {row row' : Row} (same : Relined row row') : Relined row' row := by
  obtain ⟨cell, lines⟩ := same
  exact .intro { row with criteria := cell } row.criteria lines.symm

theorem relinedRule {row row' : Row} (same : Relined row row') {rule : Rule} (read : v.ruleOfRow row = .ok rule) :
    ∃ rule', v.ruleOfRow row' = .ok rule' ∧ Reordered rule rule' := by
  obtain ⟨cell, lines⟩ := same
  obtain ⟨criteria, effects, first, second, allowed, rfl⟩ := Vocabulary.ruleOfRowOk.mp read
  obtain ⟨criteria', first', perm⟩ := List.perm_comp_forall₂ lines (Vocabulary.readLinesOk.mp first)
  refine ⟨Vocabulary.ruleWith { row with criteria := cell } criteria' effects, ?_, .intro _ criteria' perm⟩
  exact Vocabulary.ruleOfRowOk.mpr ⟨criteria', effects, Vocabulary.readLinesOk.mpr first', second, allowed, rfl⟩

theorem rearrangedIds {rows rows' : List Row} (same : Rearranged rows rows') :
    (rows.map Row.id).Perm (rows'.map Row.id) := by
  obtain ⟨mid, perm, relined⟩ := same
  have ids : mid.map Row.id = rows'.map Row.id := by
    clear perm
    induction relined with
    | nil => rfl
    | cons head _ ih =>
      obtain ⟨cell, lines⟩ := head
      exact congrArg (_ :: ·) ih
  exact ids ▸ perm.map Row.id

theorem rearrangedDistinct {rows rows' : List Row} (same : Rearranged rows rows') (distinct : (rows.map Row.id).Nodup) :
    (rows'.map Row.id).Nodup := (rearrangedIds same).nodup_iff.mp distinct

theorem rearrangedRow {rows rows' : List Row} (same : Rearranged rows rows') {row' : Row} (mem : row' ∈ rows') :
    ∃ row ∈ rows, Relined row row' := by
  obtain ⟨mid, perm, relined⟩ := same
  obtain ⟨row, inside, one⟩ := Vocabulary.relatedOrigin relined mem
  exact ⟨row, perm.mem_iff.mpr inside, one⟩

theorem Rearranged.refl (rows : List Row) : Rearranged rows rows :=
  ⟨rows, List.Perm.refl _, List.forall₂_same.mpr fun row _ => .intro row row.criteria (List.Perm.refl _)⟩

theorem Rearranged.symm {rows rows' : List Row} (same : Rearranged rows rows') : Rearranged rows' rows := by
  obtain ⟨mid, perm, relined⟩ := same
  obtain ⟨mid', relined', perm'⟩ := List.perm_comp_forall₂ perm relined
  exact ⟨mid', perm'.symm, relined'.flip.imp fun _ _ one => one.symm⟩

end Rearranged

theorem Assoc.onlyValue {κ ν : Type} [DecidableEq κ] {k k' : κ} {v v' : ν}
    (found : ((Assoc.empty : Assoc κ ν).insert k v).get? k' = some v') : v' = v := by
  rw [getInsert] at found
  split at found
  · exact (Option.some.inj found).symm
  · contradiction

namespace Vocabulary

theorem builtinCriterion {name : String} {c : Criterion} (known : builtin.criterion name = .ok c) :
    c = targetNotSeen := by
  unfold criterion at known
  split at known
  · rename_i c' found
    cases known
    exact Assoc.onlyValue found
  · contradiction

theorem builtinCompares {raw : String} {ruleId : Int64} {c : Criterion}
    (read : builtin.criterionOfLine raw ruleId = .ok c) (q : Query) : (c.look? q).isSome = true := by
  unfold criterionOfLine at read
  cases parsed : Line.parse Cell.criteria.operators raw with
  | error cause =>
    rw [parsed] at read
    contradiction
  | ok line =>
    simp only [parsed, bind, Except.bind] at read
    cases line with
    | named name =>
      rw [builtinCriterion read]
      rfl
    | operation source key op value =>
      simp only at read
      split at read
      · contradiction
      · split at read
        · contradiction
        · split at read
          · contradiction
          · contradiction
          · cases read
            rfl

theorem compiledBucket (v : Vocabulary) (rows : List Row) (c w : String) :
    (v.compile rows).table.bucket c w = sortRules ((v.rulesOfRows [] rows).1.filter (RuleTable.keyed c w)) :=
  RuleTable.bucketOfRules _ c w

theorem compiledMember {v : Vocabulary} {rows : List Row} (distinct : (rows.map Row.id).Nodup) {c w : String}
    {r : Rule} : r ∈ (v.compile rows).table.bucket c w ↔
      (∃ row ∈ rows, v.ruleOfRow row = .ok r) ∧ r.concept = c ∧ r.who = w := by
  rw [compiledBucket, (sortedPerm _).mem_iff, List.mem_filter, rulesWhenRead distinct]
  simp [RuleTable.keyed]

theorem compiledLength (v : Vocabulary) (rows : List Row) (c w : String) :
    ((v.compile rows).table.bucket c w).length ≤ rows.length := by
  rw [compiledBucket, (sortedPerm _).length_eq]
  exact Nat.le_trans (List.length_filter_le _ _) (v.rulesLength rows)

theorem compiledCompares {rows : List Row} (distinct : (rows.map Row.id).Nodup) (c w : String) (q : Query) :
    Comparing q ((builtin.compile rows).table.bucket c w) := by
  intro r mem criterion inside
  obtain ⟨⟨row, _, read⟩, _⟩ := (compiledMember distinct).mp mem
  obtain ⟨criteria, effects, first, _, _, rfl⟩ := ruleOfRowOk.mp read
  obtain ⟨text, _, line⟩ := relatedOrigin (readLinesOk.mp first) inside
  exact builtinCompares line q

end Vocabulary

def standing (rows : List Row) (c w : String) (fired : Int64 → Option Float) : List Rule :=
  ((Vocabulary.builtin.compile rows).table.bucket c w).map (fun r => { r with lastFired := fired r.id })

theorem standingSorted (rows : List Row) (c w : String) (fired : Int64 → Option Float) :
    Falling (standing rows c w fired) := by
  have sorted : Falling ((Vocabulary.builtin.compile rows).table.bucket c w) := by
    rw [Vocabulary.compiledBucket]
    exact sortedFalling _
  exact List.pairwise_map.mpr sorted

section Standing
variable {rows rows' : List Row} {c w : String} {fired : Int64 → Option Float} {q : Query} {st : Stores}
  (distinct : (rows.map Row.id).Nodup) (same : Rearranged rows rows')

include distinct same

theorem standingReordered {r : Rule} (mem : r ∈ standing rows c w fired) :
    ∃ r' ∈ standing rows' c w fired, Reordered r r' := by
  obtain ⟨rule, inside, rfl⟩ := List.mem_map.mp mem
  obtain ⟨⟨row, present, read⟩, concept, who⟩ := (Vocabulary.compiledMember distinct).mp inside
  obtain ⟨row', present', relined⟩ := rearrangedRow same.symm present
  obtain ⟨rule', read', reordered⟩ := relinedRule relined.symm read
  have distinct' := rearrangedDistinct same distinct
  obtain ⟨criteria, perm⟩ := reordered
  exact ⟨_, List.mem_map_of_mem ((Vocabulary.compiledMember distinct').mpr ⟨⟨row', present', read'⟩, concept, who⟩),
    .intro _ criteria perm⟩

theorem standingWinner {r : Rule} (winner : Winner q st (standing rows c w fired) r) :
    ∃ r', Winner q st (standing rows' c w fired) r' ∧ r'.id = r.id := by
  obtain ⟨r', member, reordered⟩ := standingReordered distinct same winner.member
  have distinct' := rearrangedDistinct same distinct
  refine ⟨r', ⟨member, ?_, ?_, fun s' mem may holds => ?_⟩, reordered.sameId⟩
  · rw [reordered.sameEligible]
    exact winner.eligible
  · rw [reordered.sameHolds]
    exact winner.holds
  · -- A rival in the new order stood in the old one too.
    obtain ⟨s, mem, back⟩ := standingReordered distinct' same.symm mem
    rw [← back.sameSpecificity, reordered.sameSpecificity]
    rw [← back.sameEligible] at may
    rw [← back.sameHolds] at holds
    exact winner.top s mem may holds

theorem standingLooks {look : Look} (seen : look ∈ looksOf q (standing rows' c w fired)) :
    look ∈ looksOf q ((Vocabulary.builtin.compile rows).table.bucket c w) := by
  obtain ⟨r', mem', criterion, inside', read⟩ := lookOf.mp seen
  have distinct' := rearrangedDistinct same distinct
  obtain ⟨r, mem, reordered⟩ := standingReordered distinct' same.symm mem'
  obtain ⟨rule, compiled, rfl⟩ := List.mem_map.mp mem
  exact lookOf.mpr ⟨rule, compiled, criterion, reordered.sameCriteria.mem_iff.mpr inside', read⟩

theorem standingAgree (agree : KindsAgree (looksOf q ((Vocabulary.builtin.compile rows).table.bucket c w))) :
    KindsAgree (looksOf q (standing rows' c w fired)) :=
  fun a seen b also => agree a (standingLooks distinct same seen) b (standingLooks distinct same also)

omit same in
theorem standingCompares : Comparing q (standing rows c w fired) := by
  intro r mem
  obtain ⟨rule, inside, rfl⟩ := List.mem_map.mp mem
  exact Vocabulary.compiledCompares distinct c w q rule inside

end Standing

/- What a chooser is relied on for: it picks members only, and can pick each member of a list that is not too
long. -/
structure Chooser {δ : Type} (draw : δ → List Nat → Option Nat × δ) (most : Nat) : Prop where
  picks : ∀ d is i, (draw d is).1 = some i → i ∈ is
  reaches : ∀ is : List Nat, is.length ≤ most → ∀ i ∈ is, ∃ d, (draw d is).1 = some i

theorem drawsChoose {most : Nat} (small : most < UInt32.size) :
    Chooser (Draws.choose : Draws → List Nat → _) most where
  picks d is i picked := by
    have any : is ≠ [] := by
      rintro rfl
      contradiction
    obtain ⟨j, mem, drawn⟩ := d.chosenMember any
    rw [drawn] at picked
    exact Option.some.inj picked ▸ mem
  reaches _ few _ mem := Draws.everyMemberChosen (Nat.lt_of_le_of_lt few small) mem

def Selectable {δ : Type} (draw : δ → List Nat → Option Nat × δ) (q : Query) (st : Stores) (bucket : List Rule)
    (id : Int64) : Prop :=
  ∃ d i r, (selectBy (fun r => r.passes q) draw q.now bucket st d).1 = some i ∧ bucket[i]? = some r ∧ r.id = id

theorem selectableWinners {δ : Type} {draw : δ → List Nat → Option Nat × δ} {most : Nat} (chooser : Chooser draw most)
    {q : Query} {st : Stores} {bucket : List Rule} (short : bucket.length ≤ most) (sorted : Falling bucket)
    (comparing : Comparing q bucket) (agree : KindsAgree (looksOf q bucket)) (id : Int64) :
    Selectable draw q st bucket id ↔ ∃ r, Winner q st bucket r ∧ r.id = id := by
  have winners := candidatesAreWinners st sorted comparing agree
  have few := Nat.le_trans (Selection.sortedCandidatesFew (fun r => r.passes q) q.now st sorted) short
  constructor
  · rintro ⟨d, i, r, picked, stands, same⟩
    obtain ⟨r', stands', winner⟩ := (winners i).mp (chooser.picks d _ i picked)
    obtain rfl : r' = r := Option.some.inj (stands'.symm.trans stands)
    exact ⟨r', winner, same⟩
  · rintro ⟨r, winner, same⟩
    obtain ⟨i, stands⟩ := List.mem_iff_getElem?.mp winner.member
    obtain ⟨d, picked⟩ := chooser.reaches _ few i ((winners i).mpr ⟨r, stands, winner⟩)
    exact ⟨d, i, r, picked, stands, same⟩

theorem selectableInAnyOrder {δ : Type} {draw : δ → List Nat → Option Nat × δ} {rows rows' : List Row} {c w : String}
    {q : Query} (chooser : Chooser draw rows.length) (distinct : (rows.map Row.id).Nodup)
    (agree : KindsAgree (looksOf q ((Vocabulary.builtin.compile rows).table.bucket c w)))
    (same : Rearranged rows rows') (st : Stores) (fired : Int64 → Option Float) (id : Int64) :
    Selectable draw q st (standing rows' c w fired) id ↔
      ∃ r, Winner q st (standing rows c w fired) r ∧ r.id = id := by
  have distinct' := rearrangedDistinct same distinct
  have short : (standing rows' c w fired).length ≤ rows.length := by
    have rowCount : rows.length = rows'.length := by simpa using (rearrangedIds same).length_eq
    rw [standing, List.length_map, rowCount]
    exact Vocabulary.builtin.compiledLength rows' c w
  have comparing : Comparing q (standing rows' c w fired) := standingCompares distinct'
  have agree' : KindsAgree (looksOf q (standing rows' c w fired)) := standingAgree distinct same agree
  rw [selectableWinners chooser short (standingSorted rows' c w fired) comparing agree' id]
  constructor
  · rintro ⟨r', winner, rfl⟩
    exact standingWinner distinct' same.symm winner
  · rintro ⟨r, winner, rfl⟩
    exact standingWinner distinct same winner

theorem authoringOrderIrrelevant {δ : Type} {draw : δ → List Nat → Option Nat × δ} {rows rows' : List Row}
    {c w : String} {q : Query} (chooser : Chooser draw rows.length) (distinct : (rows.map Row.id).Nodup)
    (agree : KindsAgree (looksOf q ((Vocabulary.builtin.compile rows).table.bucket c w)))
    (same : Rearranged rows rows') (st : Stores) (fired : Int64 → Option Float) (id : Int64) :
    (Selectable draw q st (standing rows' c w fired) id ↔ Selectable draw q st (standing rows c w fired) id) ∧
    (Selectable draw q st (standing rows c w fired) id ↔
      ∃ r, Winner q st (standing rows c w fired) r ∧ r.id = id) := by
  have rewritten := selectableInAnyOrder chooser distinct agree same st fired id
  have original := selectableInAnyOrder chooser distinct agree (.refl rows) st fired id
  exact ⟨rewritten.trans original.symm, original⟩

def plain (id : Int64) (criteria : String) : Row := { id, concept := "", who := "", response := "", criteria }

def toSelf : Query where
  speaker := some ⟨7⟩
  event := Assoc.empty.insert targetKey (.entity ⟨7⟩)
  now := 0.0

def written : List Row := [plain 1 "w a = 0\nm b = false", plain 2 "t b = false\nw a = 0\nm c = 1"]

def rewritten : List Row := [plain 2 "m c = 1\nt b = false\nw a = 0", plain 1 "m b = false\nw a = 0"]

theorem rewrittenRearranged : Rearranged written rewritten := by
  refine ⟨_, List.Perm.swap _ _ [], .cons (.intro _ _ ?_) (.cons (.intro _ _ ?_) .nil)⟩
  · decide
  · decide

theorem authoringOrderIrrelevantOfTwo :
    Selectable Draws.choose toSelf {} (standing rewritten "" "" (fun _ => none)) 1 := by
  have distinct : (written.map Row.id).Nodup := by decide
  have table := Vocabulary.builtin.compiledInTurn written
  have agree : KindsAgree (looksOf toSelf ((Vocabulary.builtin.compile written).table.bucket "" "")) := by
    rw [table]
    decide
  have best : ∃ r ∈ standing written "" "" (fun _ => none), r.isEligible toSelf.now = true ∧
      r.holdsAlone toSelf {} = true ∧ (∀ s ∈ standing written "" "" (fun _ => none), s.isEligible toSelf.now = true →
        s.holdsAlone toSelf {} = true → s.specificity ≤ r.specificity) ∧ r.id = 1 := by
    rw [standing, table]
    decide
  obtain ⟨r, member, may, holds, top, same⟩ := best
  have chooser : Chooser Draws.choose written.length := drawsChoose (by decide)
  have order := authoringOrderIrrelevant chooser distinct agree rewrittenRearranged {} (fun _ => none) 1
  exact order.1.mpr (order.2.mpr ⟨r, ⟨member, may, holds, top⟩, same⟩)

end Repartee
