import Mathlib.Data.List.Nodup
import Repartee.Proofs.Compilation
import Repartee.Proofs.TableInvariant

/-! Which rows a compilation accepts, which it refuses and why. Whether a row is accepted depends on the rows
before it that were accepted themselves, so a refused row reserves nothing: it is missing from the table and its
number is still free. A number names at most one rule from then on, whatever fires. -/
namespace Repartee
namespace Vocabulary

def AcceptedAt (v : Vocabulary) (rows : List Row) (i : Nat) : Prop :=
  ∃ row ∈ rows[i]?, (v.ruleOfRow row).isOk ∧
    ∀ j, (_ : j < i) → AcceptedAt v rows j → rows[j]?.map Row.id ≠ some row.id
termination_by i

def TakenBefore (v : Vocabulary) (rows : List Row) (i : Nat) (id : Int64) : Prop :=
  ∃ j < i, v.AcceptedAt rows j ∧ rows[j]?.map Row.id = some id

theorem acceptedAtIff {v : Vocabulary} {rows : List Row} {i : Nat} :
    v.AcceptedAt rows i ↔ ∃ row ∈ rows[i]?, (v.ruleOfRow row).isOk ∧ ¬ v.TakenBefore rows i row.id := by
  rw [AcceptedAt]
  unfold TakenBefore
  simp only [not_exists, not_and]

instance takenDecidable (v : Vocabulary) (rows : List Row) (i : Nat) (id : Int64)
    [∀ j : Fin i, Decidable (v.AcceptedAt rows j)] : Decidable (v.TakenBefore rows i id) :=
  decidable_of_iff (∃ j : Fin i, v.AcceptedAt rows j ∧ rows[j.val]?.map Row.id = some id)
    ⟨fun ⟨j, taken⟩ => ⟨j.val, j.isLt, taken⟩, fun ⟨j, before, taken⟩ => ⟨⟨j, before⟩, taken⟩⟩

instance acceptedAtDecidable (v : Vocabulary) (rows : List Row) (i : Nat) : Decidable (v.AcceptedAt rows i) :=
  have : ∀ j : Fin i, Decidable (v.AcceptedAt rows j) := fun j => acceptedAtDecidable v rows j
  decidable_of_iff _ acceptedAtIff.symm
termination_by i
decreasing_by exact j.isLt

inductive RefusedAt (v : Vocabulary) (rows : List Row) (i : Nat) : RowError → Prop where
  | duplicate {row} (stands : rows[i]? = some row) (taken : v.TakenBefore rows i row.id) :
    RefusedAt v rows i (.duplicateId row.id)
  | unread {row e} (stands : rows[i]? = some row) (free : ¬ v.TakenBefore rows i row.id)
    (read : v.ruleOfRow row = .error e) : RefusedAt v rows i e

def ReadAt (v : Vocabulary) (rows : List Row) (i : Nat) (p : Row × Rule) : Prop :=
  rows[i]? = some p.1 ∧ v.ruleOfRow p.1 = .ok p.2

def acceptedFrom (v : Vocabulary) (rows : List Row) (start count : Nat) : List Nat :=
  (List.range' start count).filter (v.AcceptedAt rows ·)

def refusedFrom (v : Vocabulary) (rows : List Row) (start count : Nat) : List Nat :=
  (List.range' start count).filter (¬ v.AcceptedAt rows ·)

theorem acceptedFromSucc (v : Vocabulary) (rows : List Row) (i count : Nat) : v.acceptedFrom rows i (count + 1) =
    if v.AcceptedAt rows i then i :: v.acceptedFrom rows (i + 1) count else v.acceptedFrom rows (i + 1) count := by
  simp [acceptedFrom, List.range'_succ, List.filter_cons]

theorem refusedFromSucc (v : Vocabulary) (rows : List Row) (i count : Nat) : v.refusedFrom rows i (count + 1) =
    if v.AcceptedAt rows i then v.refusedFrom rows (i + 1) count else i :: v.refusedFrom rows (i + 1) count := by
  by_cases accepted : v.AcceptedAt rows i <;> simp [refusedFrom, List.range'_succ, accepted]

section Next
variable {v : Vocabulary} {rows : List Row} {i : Nat} {row : Row} (stands : rows[i]? = some row)

include stands

theorem acceptedAtRow : v.AcceptedAt rows i ↔ (v.ruleOfRow row).isOk ∧ ¬ v.TakenBefore rows i row.id := by
  rw [acceptedAtIff, stands]
  simp

theorem takenNext (id : Int64) :
    v.TakenBefore rows (i + 1) id ↔ v.TakenBefore rows i id ∨ v.AcceptedAt rows i ∧ row.id = id := by
  constructor
  · rintro ⟨j, below, accepted, same⟩
    rcases Nat.lt_succ_iff_lt_or_eq.mp below with before | rfl
    · exact .inl ⟨j, before, accepted, same⟩
    · rw [stands] at same
      exact .inr ⟨accepted, Option.some.inj same⟩
  · rintro (⟨j, before, taken⟩ | ⟨accepted, same⟩)
    · exact ⟨j, Nat.lt_succ_of_lt before, taken⟩
    · exact ⟨i, Nat.lt_succ_self i, accepted, by rw [stands, Option.map_some, same]⟩

end Next

structure Sifted (v : Vocabulary) (rows : List Row) (i count : Nat) (kept : List (Row × Rule)) (errors : List RowError) :
    Prop where
  kept : List.Forall₂ (v.ReadAt rows) (v.acceptedFrom rows i count) kept
  errors : List.Forall₂ (v.RefusedAt rows) (v.refusedFrom rows i count) errors

theorem Sifted.accept {v : Vocabulary} {rows : List Row} {i count : Nat} {kept : List (Row × Rule)}
    {errors : List RowError} (rest : Sifted v rows (i + 1) count kept errors) (accepted : v.AcceptedAt rows i)
    {p : Row × Rule} (read : v.ReadAt rows i p) : Sifted v rows i (count + 1) (p :: kept) errors where
  kept := by
    rw [acceptedFromSucc, if_pos accepted]
    exact .cons read rest.kept
  errors := by
    rw [refusedFromSucc, if_pos accepted]
    exact rest.errors

theorem Sifted.refuse {v : Vocabulary} {rows : List Row} {i count : Nat} {kept : List (Row × Rule)}
    {errors : List RowError} (rest : Sifted v rows (i + 1) count kept errors) (refused : ¬ v.AcceptedAt rows i)
    {e : RowError} (cause : v.RefusedAt rows i e) : Sifted v rows i (count + 1) kept (e :: errors) where
  kept := by
    rw [acceptedFromSucc, if_neg refused]
    exact rest.kept
  errors := by
    rw [refusedFromSucc, if_neg refused]
    exact .cons cause rest.errors

theorem siftedFrom {v : Vocabulary} {rows : List Row} (before rest : List Row) (taken : List Int64)
    (split : rows = before ++ rest) (known : ∀ id, id ∈ taken ↔ v.TakenBefore rows before.length id) :
    Sifted v rows before.length rest.length (v.accepted taken rest) (v.rulesOfRows taken rest).2 := by
  -- What carries the induction is that the numbers seen so far are those of the accepted rows before.
  induction rest generalizing before taken with
  | nil => exact ⟨.nil, .nil⟩
  | cons row rest ih =>
    have stands : rows[before.length]? = some row := by simp [split]
    have next (taken) (known : ∀ id, id ∈ taken ↔ v.TakenBefore rows (before.length + 1) id) :
        Sifted v rows (before.length + 1) rest.length (v.accepted taken rest) (v.rulesOfRows taken rest).2 := by
      have tail := ih (before ++ [row]) taken (by simp [split])
      simp only [List.length_append, List.length_singleton] at tail
      exact tail known
    have accepts := acceptedAtRow (v := v) stands
    have grows := takenNext (v := v) stands
    simp only [accepted, rulesOfRows]
    by_cases duplicate : row.id ∈ taken
    · have refused : ¬ v.AcceptedAt rows before.length := fun accepted => (accepts.mp accepted).2 ((known _).mp duplicate)
      simp only [if_pos duplicate]
      exact (next taken fun id => by simp [grows, known, refused]).refuse refused (.duplicate stands ((known _).mp duplicate))
    · have free : ¬ v.TakenBefore rows before.length row.id := fun taken => duplicate ((known _).mpr taken)
      simp only [if_neg duplicate]
      cases read : v.ruleOfRow row with
      | error e =>
        have refused : ¬ v.AcceptedAt rows before.length := fun accepted => by
          have ok := (accepts.mp accepted).1
          rw [read] at ok
          contradiction
        exact (next taken fun id => by simp [grows, known, refused]).refuse refused (.unread stands free read)
      | ok rule =>
        have accepted : v.AcceptedAt rows before.length := accepts.mpr ⟨by rw [read]; rfl, free⟩
        refine (next (row.id :: taken) fun id => ?_).accept accepted ⟨stands, read⟩
        rw [List.mem_cons, known, grows, or_comm, and_iff_right accepted, eq_comm]

theorem acceptedAgain (v : Vocabulary) (taken : List Int64) (rows : List Row) :
    v.rulesOfRows taken ((v.accepted taken rows).map Prod.fst) = ((v.accepted taken rows).map Prod.snd, []) := by
  induction rows generalizing taken with
  | nil => rfl
  | cons row rest ih =>
    simp only [accepted]
    split
    · exact ih taken
    · rename_i free
      cases read : v.ruleOfRow row with
      | error e => exact ih taken
      | ok rule => simp only [List.map_cons, rulesOfRows, if_neg free, read, ih]

theorem rulesAndErrors (v : Vocabulary) (taken : List Int64) (rows : List Row) :
    (v.rulesOfRows taken rows).1.length + (v.rulesOfRows taken rows).2.length = rows.length := by
  induction rows generalizing taken with
  | nil => rfl
  | cons row rest ih =>
    have same := ih taken
    have grown := ih (row.id :: taken)
    simp only [rulesOfRows]
    split
    · simp only [List.length_cons]
      omega
    · cases v.ruleOfRow row <;> (simp only [List.length_cons]; omega)

def acceptedRows (v : Vocabulary) (rows : List Row) : List Row :=
  ((List.range rows.length).filter (v.AcceptedAt rows ·)).filterMap (rows[·]?)

theorem rowsOfPositions {v : Vocabulary} {rows : List Row} {positions : List Nat} {kept : List (Row × Rule)}
    (read : List.Forall₂ (v.ReadAt rows) positions kept) : positions.filterMap (rows[·]?) = kept.map Prod.fst := by
  induction read with
  | nil => rfl
  | cons head _ ih => rw [List.filterMap_cons_some head.1, List.map_cons, ih]

theorem sifted (v : Vocabulary) (rows : List Row) :
    Sifted v rows 0 rows.length (v.accepted [] rows) (v.rulesOfRows [] rows).2 :=
  siftedFrom [] rows [] rfl fun _ => ⟨nofun, fun ⟨_, below, _⟩ => absurd below (Nat.not_lt_zero _)⟩

theorem acceptedRowsKept (v : Vocabulary) (rows : List Row) :
    v.acceptedRows rows = (v.accepted [] rows).map Prod.fst := by
  rw [acceptedRows, List.range_eq_range']
  exact rowsOfPositions (v.sifted rows).kept

theorem acceptedRowsRead (v : Vocabulary) (rows : List Row) :
    List.Forall₂ (fun row rule => v.ruleOfRow row = .ok rule) (v.acceptedRows rows) (v.rulesOfRows [] rows).1 := by
  rw [acceptedRowsKept, ← acceptedRules, List.forall₂_map_left_iff, List.forall₂_map_right_iff, List.forall₂_same]
  exact fun p mem => (acceptedRead mem).2.2

theorem compiledAgain (v : Vocabulary) (rows : List Row) :
    v.compile (v.acceptedRows rows) = ⟨(v.compile rows).table, []⟩ := by
  unfold compile
  rw [acceptedRowsKept, acceptedAgain, acceptedRules]

theorem compiledSize (v : Vocabulary) (rows : List Row) :
    (v.compile rows).table.size + (v.compile rows).errors.length = rows.length := by
  have size : (v.compile rows).table.size = (v.rulesOfRows [] rows).1.length := (RuleTable.activeOfRules _).length_eq
  rw [size]
  exact v.rulesAndErrors [] rows

end Vocabulary

namespace RuleTable

theorem findNumber {rules : List Rule} (distinct : (rules.map Rule.id).Nodup) {id : Int64} {r : Rule} :
    rules.find? (fun r => r.id == id) = some r ↔ r ∈ rules ∧ r.id = id := by
  constructor
  · intro found
    exact ⟨List.mem_of_find?_eq_some found, by simpa using List.find?_some found⟩
  · rintro ⟨mem, rfl⟩
    cases found : rules.find? (fun s => s.id == r.id) with
    | none => exact absurd (beq_iff_eq.mpr rfl) (List.find?_eq_none.mp found r mem)
    | some s =>
      have same : s.id = r.id := by simpa using List.find?_some found
      rw [List.inj_on_of_nodup_map distinct (List.mem_of_find?_eq_some found) mem same]

/- A number names at most one rule, and looking it up among the active rules finds that one, in whatever order
they are gone through. -/
structure Numbered (t : RuleTable) : Prop where
  distinct : ((t.active ++ t.archived).map Rule.id).Nodup
  found : ∀ id r, t.get? id = some r ↔ r ∈ t.active ∧ r.id = id
  missing : ∀ id, t.get? id = none ↔ ∀ r ∈ t.active, r.id ≠ id
  anyOrder : ∀ order : List Rule, order.Perm t.active → ∀ id, order.find? (fun r => r.id == id) = t.get? id

theorem numbered {put : List Rule} {t : RuleTable} (kept : Kept put t) (distinct : (put.map Rule.id).Nodup) :
    Numbered t := by
  have whole := idsDistinct kept distinct
  have active : (t.active.map Rule.id).Nodup := by
    rw [List.map_append] at whole
    exact (List.nodup_append.mp whole).1
  refine ⟨whole, fun id r => findNumber active, fun id => ?_, fun order perm id => ?_⟩
  · simp only [get?, List.find?_eq_none, beq_iff_eq, ne_eq]
  · have elsewhere : (order.map Rule.id).Nodup := (perm.map Rule.id).nodup_iff.mpr active
    ext r
    rw [findNumber elsewhere, perm.mem_iff]
    exact (findNumber active).symm

end RuleTable

theorem numberedAfter (v : Vocabulary) (rows : List Row) (d : Dispatcher) (calls : List Call) :
    RuleTable.Numbered ({ d with table := (v.compile rows).table }.after calls).table := by
  have built : RuleTable.Built (v.compile rows).table (v.rulesOfRows [] rows).1 := .rows v rows
  have kept := RuleTable.keptFires (RuleTable.keptBuilt built)
    (Dispatcher.sessionFires { d with table := (v.compile rows).table } calls)
  exact RuleTable.numbered kept (v.ruleIdsDistinct rows)

theorem rowsAcceptedInOrder (v : Vocabulary) (rows : List Row) :
    (∃ rules, (v.compile rows).table = RuleTable.ofRules rules ∧
      List.Forall₂ (fun row rule => v.ruleOfRow row = .ok rule) (v.acceptedRows rows) rules) ∧
    List.Forall₂ (v.RefusedAt rows) ((List.range rows.length).filter (¬ v.AcceptedAt rows ·)) (v.compile rows).errors ∧
    (v.compile rows).table.size + (v.compile rows).errors.length = rows.length ∧
    v.compile (v.acceptedRows rows) = ⟨(v.compile rows).table, []⟩ ∧
    ∀ (d : Dispatcher) (calls : List Call),
      RuleTable.Numbered ({ d with table := (v.compile rows).table }.after calls).table := by
  refine ⟨⟨_, rfl, v.acceptedRowsRead rows⟩, ?_, v.compiledSize rows, v.compiledAgain rows, numberedAfter v rows⟩
  rw [List.range_eq_range']
  exact (v.sifted rows).errors

def numberedRow (id : Int64) (criteria : String) (cooldown : Option Float) : Row :=
  { id, concept := "", who := "", response := "", criteria, cooldown }

example : (Vocabulary.builtin.compile [numberedRow 1 "x k = 1" none, numberedRow 1 "w k = 1" none, numberedRow 1 "" none,
    numberedRow 2 "" (some (-1.0)), numberedRow 2 "" none]).errors =
    [.line 1 "x k = 1" (.unknownSource 'x'), .duplicateId 1, .invalidCooldown 2 (-1.0)] := rfl

end Repartee
