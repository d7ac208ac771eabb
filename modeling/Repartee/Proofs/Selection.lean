import Repartee.Proofs.Draws
import Repartee.RuleTable
import Repartee.Selection

/-! The walk over a bucket against the walk without an early end, which tries every rule that may be
considered at the time, each on the state that the trials before it left. The state and the way of
trying a rule are arbitrary. A state that keeps a log of the calls made on it is one of them, so equal
states speak of the rules that were tried and not only of what their criteria read and wrote. -/
namespace Repartee.Selection
variable {σ : Type} (trial : Rule → σ → Bool × σ)

structure Turn (σ : Type) where
  rule : Rule
  position : Nat
  before : σ
  passed : Bool
  after : σ

def turns : List (Rule × Nat) → σ → List (Turn σ)
  | [], _ => []
  | (r, i) :: rest, s => ⟨r, i, s, (trial r s).1, (trial r s).2⟩ :: turns rest (trial r s).2

def leaves (s : σ) : List (Turn σ) → σ
  | [] => s
  | t :: rest => leaves t.after rest

def eligible (now : Float) (rules : List (Rule × Nat)) : List (Rule × Nat) :=
  rules.filter (fun p => p.1.isEligible now)

def passers (ts : List (Turn σ)) : List (Rule × Nat) :=
  (ts.filter (·.passed)).map (fun t => (t.rule, t.position))

def topTier (ts : List (Turn σ)) : List (Turn σ) :=
  ts.filter (fun t => t.passed ∧ ∀ u ∈ ts, u.passed → u.rule.specificity ≤ t.rule.specificity)

def recording (r : Rule) (p : σ × List Rule) : Bool × (σ × List Rule) :=
  ((trial r p.1).1, ((trial r p.1).2, p.2 ++ [r]))

theorem turnsAppend (left right : List (Rule × Nat)) (s : σ) :
    turns trial (left ++ right) s = turns trial left s ++ turns trial right (leaves s (turns trial left s)) := by
  induction left generalizing s with
  | nil => rfl
  | cons p rest ih => simp [turns, leaves, ih]

theorem turnRules (rules : List (Rule × Nat)) (s : σ) :
    (turns trial rules s).map (fun t => (t.rule, t.position)) = rules := by
  induction rules generalizing s with
  | nil => rfl
  | cons p rest ih => simp [turns, ih]

theorem turnMember {rules : List (Rule × Nat)} {s : σ} {t : Turn σ} (mem : t ∈ turns trial rules s) :
    (t.rule, t.position) ∈ rules := by
  rw [← turnRules trial rules s]
  exact List.mem_map.mpr ⟨t, mem, rfl⟩

theorem recordedLeaves (rules : List (Rule × Nat)) (s : σ) (log : List Rule) :
    leaves (s, log) (turns (recording trial) rules (s, log)) =
      (leaves s (turns trial rules s), log ++ rules.map Prod.fst) := by
  induction rules generalizing s log with
  | nil => simp [turns, leaves]
  | cons p rest ih => simp [turns, leaves, recording, ih]

theorem recordedPassers (rules : List (Rule × Nat)) (s : σ) (log : List Rule) :
    passers (turns (recording trial) rules (s, log)) = passers (turns trial rules s) := by
  induction rules generalizing s log with
  | nil => rfl
  | cons p rest ih =>
    have tail := ih (trial p.1 s).2 (log ++ [p.1])
    simp only [passers, turns, recording] at tail ⊢
    cases (trial p.1 s).1 <;> simp [tail]

theorem foldMax (ps : List (Rule × Nat)) (n : Nat) :
    ps.foldl (fun n p => max n p.1.specificity) n = max n (highest ps) := by
  unfold highest
  induction ps generalizing n with
  | nil => simp
  | cons p rest ih =>
    simp only [List.foldl_cons]
    rw [ih (max n p.1.specificity), ih (max 0 p.1.specificity)]
    omega

theorem highestCons (p : Rule × Nat) (rest : List (Rule × Nat)) :
    highest (p :: rest) = max p.1.specificity (highest rest) := by
  have step := foldMax rest (max 0 p.1.specificity)
  simpa [highest] using step

theorem belowHighest {ps : List (Rule × Nat)} {p : Rule × Nat} (mem : p ∈ ps) :
    p.1.specificity ≤ highest ps := by
  induction ps with
  | nil => simp at mem
  | cons q rest ih =>
    rw [highestCons]
    rcases List.mem_cons.mp mem with rfl | mem
    · exact Nat.le_max_left _ _
    · exact Nat.le_trans (ih mem) (Nat.le_max_right _ _)

theorem highestReached {ps : List (Rule × Nat)} (any : ps ≠ []) : ∃ p ∈ ps, p.1.specificity = highest ps := by
  induction ps with
  | nil => exact absurd rfl any
  | cons q rest ih =>
    rw [highestCons]
    by_cases empty : rest = []
    · subst empty
      exact ⟨q, by simp, by simp [highest]⟩
    · obtain ⟨p, mem, reached⟩ := ih empty
      rcases Nat.le_total q.1.specificity (highest rest) with le | le
      · exact ⟨p, List.mem_cons_of_mem q mem, by omega⟩
      · exact ⟨q, List.mem_cons_self, by omega⟩

theorem passerOfTurn {ts : List (Turn σ)} {t : Turn σ} (mem : t ∈ ts) (passed : t.passed = true) :
    (t.rule, t.position) ∈ passers ts :=
  List.mem_map.mpr ⟨t, List.mem_filter.mpr ⟨mem, passed⟩, rfl⟩

theorem turnOfPasser {ts : List (Turn σ)} {p : Rule × Nat} (mem : p ∈ passers ts) :
    ∃ t ∈ ts, t.passed = true ∧ (t.rule, t.position) = p := by
  obtain ⟨t, kept, same⟩ := List.mem_map.mp mem
  obtain ⟨mem, passed⟩ := List.mem_filter.mp kept
  exact ⟨t, mem, passed, same⟩

theorem highestIsTop {ts : List (Turn σ)} {t : Turn σ} (mem : t ∈ ts) (passed : t.passed = true) :
    t.rule.specificity = highest (passers ts) ↔
      ∀ u ∈ ts, u.passed = true → u.rule.specificity ≤ t.rule.specificity := by
  have own := passerOfTurn mem passed
  constructor
  · intro top u um up
    rw [top]
    exact belowHighest (passerOfTurn um up)
  · intro above
    obtain ⟨p, pm, reached⟩ := highestReached (List.ne_nil_of_mem own)
    obtain ⟨u, um, up, rfl⟩ := turnOfPasser pm
    have least : highest (passers ts) ≤ t.rule.specificity := reached ▸ above u um up
    exact Nat.le_antisymm (belowHighest own) least

theorem candidatesAreTopTier (ts : List (Turn σ)) :
    topPositions (passers ts) = (topTier ts).map (·.position) := by
  have top (t : Turn σ) (mem : t ∈ ts) (passed : t.passed = true) := highestIsTop mem passed
  generalize named : highest (passers ts) = n at top
  simp only [topPositions, named]
  simp only [passers, topTier, List.filter_map, List.map_map, List.filter_filter]
  refine congrArg _ (List.filter_congr fun t mem => ?_)
  cases passed : t.passed with
  | false => simp
  | true => simp [← top t mem passed]

theorem topTierEmpty (ts : List (Turn σ)) : topTier ts = [] ↔ ∀ t ∈ ts, t.passed = false := by
  constructor
  · intro empty t mem
    cases passed : t.passed with
    | false => rfl
    | true =>
      obtain ⟨p, pm, reached⟩ := highestReached (List.ne_nil_of_mem (passerOfTurn mem passed))
      have top : p.2 ∈ topPositions (passers ts) :=
        List.mem_map.mpr ⟨p, List.mem_filter.mpr ⟨pm, by simpa using reached⟩, rfl⟩
      rw [candidatesAreTopTier, empty] at top
      contradiction
  · intro failed
    refine List.filter_eq_nil_iff.mpr fun t mem top => ?_
    have passed := (decide_eq_true_eq.mp top).1
    rw [failed t mem] at passed
    contradiction

/- The walk ends in front of the first rule that is less specific than one that passed. -/
theorem walkSplits (now : Float) (mark : Nat) (rules : List (Rule × Nat)) (s : σ) :
    ∃ walked left, rules = walked ++ left ∧
      passing trial now mark rules s =
        (passers (turns trial (eligible now walked) s), leaves s (turns trial (eligible now walked) s)) ∧
      ∀ p ∈ left.head?, p.1.specificity < max mark (highest (passers (turns trial (eligible now walked) s))) := by
  induction rules generalizing mark s with
  | nil => exact ⟨[], [], rfl, rfl, by simp⟩
  | cons p rest ih =>
    obtain ⟨r, i⟩ := p
    rcases Nat.lt_or_ge r.specificity mark with below | above
    · refine ⟨[], (r, i) :: rest, rfl, by simp [passing, below, eligible, turns, passers, leaves], ?_⟩
      simp only [List.head?_cons, Option.mem_def, Option.some.injEq]
      rintro _ rfl
      exact Nat.lt_of_lt_of_le below (Nat.le_max_left _ _)
    have stays : ¬ r.specificity < mark := Nat.not_lt_of_le above
    cases may : r.isEligible now with
    | false =>
      obtain ⟨walked, left, split, walk, stop⟩ := ih mark s
      have skip : eligible now ((r, i) :: walked) = eligible now walked := by simp [eligible, may]
      refine ⟨(r, i) :: walked, left, by simp [split], ?_, by simpa only [skip] using stop⟩
      simp only [skip, passing, if_neg stays, may, Bool.false_eq_true, if_false, walk]
    | true =>
      have kept (walked) : eligible now ((r, i) :: walked) = (r, i) :: eligible now walked := by
        simp [eligible, may]
      cases answer : trial r s with
      | mk verdict s' =>
        cases verdict with
        | false =>
          obtain ⟨walked, left, split, walk, stop⟩ := ih mark s'
          refine ⟨(r, i) :: walked, left, by simp [split], ?_, ?_⟩
          · simp only [passing, if_neg stays, may, if_true, answer, walk, kept, turns, leaves, passers,
              List.filter_cons, Bool.false_eq_true, if_false]
          · simpa only [kept, turns, answer, passers, List.filter_cons, Bool.false_eq_true, if_false]
              using stop
        | true =>
          -- The raised mark and the passing rule count once: the highest passer takes in both.
          obtain ⟨walked, left, split, walk, stop⟩ := ih (max mark r.specificity) s'
          refine ⟨(r, i) :: walked, left, by simp [split], ?_, ?_⟩
          · simp only [passing, if_neg stays, may, if_true, answer, walk, kept, turns, leaves, passers,
              List.filter_cons, List.map_cons]
          · intro p mem
            have lower := stop p mem
            simp only [kept, turns, answer, passers, List.filter_cons, if_true, List.map_cons,
              highestCons] at lower ⊢
            omega

def tier (now : Float) (n : Nat) (rules : List (Rule × Nat)) : List (Rule × Nat) :=
  (eligible now rules).filter (fun p => n ≤ p.1.specificity)

theorem fallingCons {p : Rule × Nat} {rest : List (Rule × Nat)}
    (sorted : Falling ((p :: rest).map Prod.fst)) :
    (∀ p' ∈ rest, p'.1.specificity ≤ p.1.specificity) ∧ Falling (rest.map Prod.fst) := by
  obtain ⟨top, tail⟩ := List.pairwise_cons.mp sorted
  exact ⟨fun p' mem => top p'.1 (List.mem_map.mpr ⟨p', mem, rfl⟩), tail⟩

theorem eligibleCons (now : Float) (r : Rule) (i : Nat) (rest : List (Rule × Nat)) :
    eligible now ((r, i) :: rest) =
      if r.isEligible now then (r, i) :: eligible now rest else eligible now rest := by
  simp [eligible, List.filter_cons]

theorem tierBelow {now : Float} {n : Nat} {rules : List (Rule × Nat)}
    (below : ∀ p ∈ rules, p.1.specificity < n) : tier now n rules = [] := by
  refine List.filter_eq_nil_iff.mpr fun p mem above => ?_
  have small := below p (List.mem_filter.mp mem).1
  have large : n ≤ p.1.specificity := by simpa using above
  omega

theorem tierFromBelow (now : Float) {n : Nat} {r : Rule} (i : Nat) {rest : List (Rule × Nat)}
    (sorted : Falling (((r, i) :: rest).map Prod.fst)) (below : r.specificity < n) :
    tier now n ((r, i) :: rest) = [] := by
  refine tierBelow fun p mem => ?_
  rcases List.mem_cons.mp mem with rfl | mem
  · exact below
  · exact Nat.lt_of_le_of_lt ((fallingCons sorted).1 p mem) below

theorem tierPrefix (now : Float) (n : Nat) {rules : List (Rule × Nat)} (sorted : Falling (rules.map Prod.fst)) :
    tier now n rules <+: eligible now rules := by
  induction rules with
  | nil => exact List.prefix_refl _
  | cons p rest ih =>
    obtain ⟨r, i⟩ := p
    obtain ⟨top, tail⟩ := fallingCons sorted
    simp only [tier, eligibleCons] at ih ⊢
    rcases Nat.lt_or_ge r.specificity n with below | above
    · have none := tierFromBelow now i sorted below
      simp only [tier, eligibleCons] at none
      rw [none]
      exact List.nil_prefix
    · split
      · rw [List.filter_cons_of_pos (by simpa using above)]
        exact List.prefix_cons_inj _ |>.mpr (ih tail)
      · exact ih tail

theorem tierSplits (now : Float) (n : Nat) {rules : List (Rule × Nat)} (s : σ)
    (sorted : Falling (rules.map Prod.fst)) :
    ∃ below, turns trial (eligible now rules) s = turns trial (tier now n rules) s ++ below ∧
      ∀ t ∈ below, t.rule.specificity < n := by
  obtain ⟨left, split⟩ := tierPrefix now n sorted
  refine ⟨turns trial left _, by rw [← split, turnsAppend], fun t mem => ?_⟩
  have kept : tier now n rules = tier now n rules ++ left.filter (fun p => n ≤ p.1.specificity) := by
    conv => lhs; rw [tier, ← split, List.filter_append]
    rw [tier, List.filter_filter]
    simp only [Bool.and_self]
  have empty := List.self_eq_append_right.mp kept
  have below := List.filter_eq_nil_iff.mp empty _ (turnMember trial mem)
  simpa using below

/- Once a rule of some specificity passed, the walk goes on through exactly the rules that equal it. -/
theorem walkTier (now : Float) (n : Nat) {rules : List (Rule × Nat)} (s : σ)
    (sorted : Falling (rules.map Prod.fst)) (atMost : ∀ p ∈ rules, p.1.specificity ≤ n) :
    passing trial now n rules s =
      (passers (turns trial (tier now n rules) s), leaves s (turns trial (tier now n rules) s)) := by
  induction rules generalizing s with
  | nil => rfl
  | cons p rest ih =>
    obtain ⟨r, i⟩ := p
    obtain ⟨top, tail⟩ := fallingCons sorted
    have rest' := fun s => ih s tail fun p mem => atMost p (List.mem_cons_of_mem _ mem)
    rcases Nat.lt_or_ge r.specificity n with below | above
    · rw [tierFromBelow now i sorted below]
      simp [passing, below, turns, passers, leaves]
    have equal : max n r.specificity = n := Nat.max_eq_left (atMost (r, i) List.mem_cons_self)
    simp only [passing, if_neg (Nat.not_lt_of_le above), equal, rest']
    cases may : r.isEligible now with
    | false => simp [tier, eligibleCons, may]
    | true =>
      have head : tier now n ((r, i) :: rest) = (r, i) :: tier now n rest := by
        simp [tier, eligibleCons, may, above]
      rw [head]
      cases answer : trial r s with
      | mk verdict s' => cases verdict <;> simp [turns, passers, leaves, answer]

theorem walkToFirst (now : Float) {rules : List (Rule × Nat)} (s : σ) (sorted : Falling (rules.map Prod.fst))
    {first : Turn σ} (found : (turns trial (eligible now rules) s).find? (·.passed) = some first) :
    passing trial now 0 rules s =
      (passers (turns trial (tier now first.rule.specificity rules) s),
        leaves s (turns trial (tier now first.rule.specificity rules) s)) := by
  induction rules generalizing s with
  | nil => simp [eligible, turns] at found
  | cons p rest ih =>
    obtain ⟨r, i⟩ := p
    obtain ⟨top, tail⟩ := fallingCons sorted
    simp only [passing, Nat.not_lt_zero, if_false]
    cases may : r.isEligible now with
    | false =>
      simp only [eligibleCons, may, Bool.false_eq_true, if_false] at found
      simpa [tier, eligibleCons, may] using ih s tail found
    | true =>
      simp only [eligibleCons, may, if_true, turns, List.find?_cons] at found
      cases answer : trial r s with
      | mk verdict s' =>
        cases verdict with
        | true =>
          simp only [answer, Option.some.injEq] at found
          subst found
          have walk := walkTier trial now r.specificity s' tail top
          simp [tier, eligibleCons, may, turns, passers, leaves, answer, walk]
        | false =>
          simp only [answer] at found
          have member := turnMember trial (List.mem_of_find?_eq_some found)
          have above : first.rule.specificity ≤ r.specificity := top _ (List.mem_filter.mp member).1
          simpa [tier, eligibleCons, may, turns, passers, leaves, answer, above] using ih s' tail found

theorem recordedVerdicts (rules : List (Rule × Nat)) (s : σ) (log : List Rule) :
    (turns (recording trial) rules (s, log)).map (fun t => (t.rule, t.passed)) =
      (turns trial rules s).map (fun t => (t.rule, t.passed)) := by
  induction rules generalizing s log with
  | nil => rfl
  | cons p rest ih => simp [turns, recording, ih]

theorem recordedFirst {rules : List (Rule × Nat)} {s : σ} {first : Turn σ} (log : List Rule)
    (found : (turns trial rules s).find? (·.passed) = some first) :
    ∃ first', (turns (recording trial) rules (s, log)).find? (·.passed) = some first' ∧
      first'.rule = first.rule := by
  have same := congrArg (List.find? (fun v => v.2)) (recordedVerdicts trial rules s log)
  simp only [List.find?_map, Function.comp_def, found, Option.map_some] at same
  obtain ⟨first', found', equal⟩ := Option.map_eq_some_iff.mp same
  exact ⟨first', found', (Prod.mk.inj equal).1⟩

theorem walkOfRecorded (now : Float) (mark : Nat) (rules : List (Rule × Nat)) (s : σ) (log : List Rule) :
    passing trial now mark rules s =
      ((passing (recording trial) now mark rules (s, log)).1,
        (passing (recording trial) now mark rules (s, log)).2.1) := by
  induction rules generalizing mark s log with
  | nil => rfl
  | cons p rest ih =>
    obtain ⟨r, i⟩ := p
    by_cases below : r.specificity < mark
    · simp [passing, below]
    simp only [passing, if_neg below]
    split
    · cases answer : trial r s with
      | mk verdict s' =>
        cases verdict with
        | true => simp [recording, answer, ih (max mark r.specificity) s' (log ++ [r])]
        | false => simpa [recording, answer] using ih mark s' (log ++ [r])
    · exact ih mark s log

def Tries (now : Float) (rules tried : List (Rule × Nat)) (s : σ) : Prop :=
  passing (recording trial) now 0 rules (s, []) =
    (passers (turns trial tried s), (leaves s (turns trial tried s), tried.map Prod.fst))

theorem triesOfRecorded {now : Float} {rules tried : List (Rule × Nat)} {s : σ}
    (walk : passing (recording trial) now 0 rules (s, []) =
      (passers (turns (recording trial) tried (s, [])), leaves (s, []) (turns (recording trial) tried (s, [])))) :
    Tries trial now rules tried s := by
  unfold Tries
  rw [walk, recordedPassers, recordedLeaves, List.nil_append]

theorem triesPrefix (now : Float) (rules : List (Rule × Nat)) (s : σ) :
    ∃ walked left, rules = walked ++ left ∧ Tries trial now rules (eligible now walked) s ∧
      ∀ p ∈ left.head?, p.1.specificity < highest (passers (turns trial (eligible now walked) s)) := by
  obtain ⟨walked, left, split, walk, stop⟩ := walkSplits (recording trial) now 0 rules (s, [])
  refine ⟨walked, left, split, triesOfRecorded trial walk, ?_⟩
  simpa only [recordedPassers, Nat.zero_max] using stop

theorem triesTier (now : Float) {rules : List (Rule × Nat)} {s : σ} (sorted : Falling (rules.map Prod.fst))
    {first : Turn σ} (found : (turns trial (eligible now rules) s).find? (·.passed) = some first) :
    Tries trial now rules (tier now first.rule.specificity rules) s := by
  obtain ⟨first', found', same⟩ := recordedFirst trial [] found
  have walk := walkToFirst (recording trial) now (s, []) sorted found'
  rw [same] at walk
  exact triesOfRecorded trial walk

theorem triesAll (now : Float) {rules : List (Rule × Nat)} {s : σ}
    (failed : ∀ t ∈ turns trial (eligible now rules) s, t.passed = false) :
    Tries trial now rules (eligible now rules) s := by
  obtain ⟨walked, left, rfl, tries, stop⟩ := triesPrefix trial now rules s
  cases left with
  | nil => simpa using tries
  | cons p rest =>
    have empty : passers (turns trial (eligible now walked) s) = [] := by
      rw [eligible, List.filter_append, turnsAppend] at failed
      simp only [passers, List.map_eq_nil_iff, List.filter_eq_nil_iff]
      intro t mem
      simp [failed t (List.mem_append_left _ mem)]
    have stopped := stop p (by simp)
    rw [empty] at stopped
    exact absurd stopped (Nat.not_lt_zero _)

section Chosen
variable {trial} {now : Float} {bucket : List Rule} {tried : List (Rule × Nat)} {s : σ}
  (tries : Tries trial now bucket.zipIdx tried s)

include tries

theorem candidatesOfTries : candidates trial now bucket s =
    ((topTier (turns trial tried s)).map (·.position), leaves s (turns trial tried s)) := by
  unfold candidates
  rw [walkOfRecorded trial now 0 bucket.zipIdx s [], tries]
  simp only [candidatesAreTopTier]

theorem callsOfTries (d : Draws) :
    (selectBy (recording trial) Draws.choose now bucket (s, []) d).2.1.2 = (turns trial tried s).map (·.rule) := by
  have rules := congrArg (List.map Prod.fst) (turnRules trial tried s)
  simp only [List.map_map, Function.comp_def] at rules
  rw [rules]
  simp only [selectBy, candidates]
  rw [tries]

theorem pickedOfTries (d : Draws) : selectBy trial Draws.choose now bucket s d =
    ((d.choose ((topTier (turns trial tried s)).map (·.position))).1, leaves s (turns trial tried s),
      (d.choose ((topTier (turns trial tried s)).map (·.position))).2) := by
  simp only [selectBy, candidatesOfTries tries]

theorem noneOfTries (d : Draws) : (selectBy trial Draws.choose now bucket s d).1 = none ↔
    ∀ t ∈ turns trial tried s, t.passed = false := by
  rw [pickedOfTries tries, ← topTierEmpty]
  cases top : topTier (turns trial tried s) with
  | nil => simp [Draws.chosenFromNone]
  | cons t rest =>
    have any : (t :: rest).map (·.position) ≠ [] := List.cons_ne_nil _ _
    obtain ⟨i, _, drawn⟩ := d.chosenMember any
    rw [drawn]
    exact ⟨nofun, nofun⟩

theorem someOfTries {d : Draws} {i : Nat} (found : (selectBy trial Draws.choose now bucket s d).1 = some i) :
    ∃ t ∈ topTier (turns trial tried s), t.position = i := by
  rw [pickedOfTries tries] at found
  have any : (topTier (turns trial tried s)).map (·.position) ≠ [] := by
    intro empty
    rw [empty] at found
    cases found
  obtain ⟨j, mem, drawn⟩ := d.chosenMember any
  rw [drawn] at found
  cases found
  exact List.mem_map.mp mem

end Chosen

theorem turnStands {now : Float} {bucket : List Rule} {rules : List (Rule × Nat)} {s : σ} {t : Turn σ}
    (within : ∀ p ∈ rules, p ∈ eligible now bucket.zipIdx) (mem : t ∈ turns trial rules s) :
    bucket[t.position]? = some t.rule ∧ t.rule.isEligible now = true := by
  obtain ⟨inside, may⟩ := List.mem_filter.mp (within _ (turnMember trial mem))
  exact ⟨List.mem_zipIdx_iff_getElem?.mp inside, may⟩

section Sorted
variable {trial} {now : Float} {rules : List (Rule × Nat)} {s : σ} {first : Turn σ}
  (sorted : Falling (rules.map Prod.fst))
  (found : (turns trial (eligible now rules) s).find? (·.passed) = some first)

include sorted found

theorem firstIsHighest {t : Turn σ} (mem : t ∈ turns trial (eligible now rules) s) (passed : t.passed = true) :
    t.rule.specificity ≤ first.rule.specificity := by
  obtain ⟨_, before, after, split, failed⟩ := List.find?_eq_some_iff_append.mp found
  have order : (turns trial (eligible now rules) s).Pairwise (fun t u => u.rule.specificity ≤ t.rule.specificity) := by
    have shrunk : Falling ((eligible now rules).map Prod.fst) := sorted.sublist (List.filter_sublist.map _)
    rw [← turnRules trial (eligible now rules) s, List.map_map] at shrunk
    exact List.pairwise_map.mp shrunk
  rw [split] at mem order
  rcases List.mem_append.mp mem with early | late
  · have no := failed t early
    rw [passed] at no
    contradiction
  · rcases List.mem_cons.mp late with rfl | late
    · exact Nat.le_refl _
    · exact (List.pairwise_cons.mp (List.pairwise_append.mp order).2.1).1 t late

theorem topTierWithin : topTier (turns trial (eligible now rules) s) =
    topTier (turns trial (tier now first.rule.specificity rules) s) := by
  obtain ⟨below, split, lower⟩ := tierSplits trial now first.rule.specificity s sorted
  have passed : first.passed = true := by simpa using List.find?_some found
  have member : first ∈ turns trial (eligible now rules) s := List.mem_of_find?_eq_some found
  have early : first ∈ turns trial (tier now first.rule.specificity rules) s := by
    rw [split] at member
    rcases List.mem_append.mp member with early | late
    · exact early
    · exact absurd (lower first late) (Nat.lt_irrefl _)
  rw [split]
  unfold topTier
  rw [List.filter_append]
  have dropped : below.filter (fun t => t.passed ∧ ∀ u ∈ turns trial (tier now first.rule.specificity rules) s ++ below,
      u.passed → u.rule.specificity ≤ t.rule.specificity) = [] := by
    refine List.filter_eq_nil_iff.mpr fun t mem top => ?_
    have above := (decide_eq_true_eq.mp top).2 first (List.mem_append_left _ early) passed
    exact absurd (lower t mem) (Nat.not_lt_of_le above)
  rw [dropped, List.append_nil]
  refine List.filter_congr fun t mem => decide_eq_decide.mpr ?_
  refine and_congr_right fun _ => ⟨fun above u um => above u (List.mem_append_left _ um), fun above u um up => ?_⟩
  rcases List.mem_append.mp um with um | um
  · exact above u um up
  · exact Nat.le_trans (Nat.le_of_lt (lower u um)) (above first early passed)

theorem topTierEqualsFirst {t : Turn σ} (mem : t ∈ topTier (turns trial (eligible now rules) s)) :
    t.passed = true ∧ t.rule.specificity = first.rule.specificity := by
  obtain ⟨mem, top⟩ := List.mem_filter.mp mem
  obtain ⟨passed, above⟩ := decide_eq_true_eq.mp top
  have up : first.passed = true := by simpa using List.find?_some found
  have least := above first (List.mem_of_find?_eq_some found) up
  exact ⟨passed, Nat.le_antisymm (firstIsHighest sorted found mem passed) least⟩

end Sorted

def exhaustive (now : Float) (bucket : List Rule) (s : σ) : List (Turn σ) :=
  turns trial (eligible now bucket.zipIdx) s

def triedTier (now : Float) (n : Nat) (bucket : List Rule) (s : σ) : List (Turn σ) :=
  turns trial (tier now n bucket.zipIdx) s

theorem sortedCandidates (now : Float) {bucket : List Rule} (s : σ) (sorted : Falling bucket) :
    (candidates trial now bucket s).1 = (topTier (exhaustive trial now bucket s)).map (·.position) := by
  have falling : Falling (bucket.zipIdx.map Prod.fst) := by rwa [List.zipIdx_map_fst]
  cases found : (exhaustive trial now bucket s).find? (·.passed) with
  | none =>
    have failed : ∀ t ∈ exhaustive trial now bucket s, t.passed = false := by simpa using List.find?_eq_none.mp found
    rw [candidatesOfTries (triesAll trial now failed)]
    rfl
  | some first =>
    have same := topTierWithin falling found
    rw [candidatesOfTries (triesTier trial now falling found), ← same]
    rfl

theorem sortedCandidatesFew (now : Float) {bucket : List Rule} (s : σ) (sorted : Falling bucket) :
    (candidates trial now bucket s).1.length ≤ bucket.length := by
  have walked := congrArg List.length (turnRules trial (eligible now bucket.zipIdx) s)
  rw [List.length_map] at walked
  rw [sortedCandidates trial now s sorted, List.length_map]
  calc (topTier (exhaustive trial now bucket s)).length
    _ ≤ (exhaustive trial now bucket s).length := List.length_filter_le _ _
    _ = (eligible now bucket.zipIdx).length := walked
    _ ≤ bucket.zipIdx.length := List.length_filter_le _ _
    _ = bucket.length := List.length_zipIdx

def calls (now : Float) (bucket : List Rule) (s : σ) (d : Draws) : List Rule :=
  (selectBy (recording trial) Draws.choose now bucket (s, []) d).2.1.2

structure NothingChosen (now : Float) (bucket : List Rule) (s : σ) (d : Draws) : Prop where
  outcome : selectBy trial Draws.choose now bucket s d = (none, leaves s (exhaustive trial now bucket s), d)
  everyCall : calls trial now bucket s d = (exhaustive trial now bucket s).map (·.rule)

structure TierChosen (now : Float) (bucket : List Rule) (s : σ) (d : Draws) (n : Nat) : Prop where
  start : triedTier trial now n bucket s <+: exhaustive trial now bucket s
  everyCall : calls trial now bucket s d = (triedTier trial now n bucket s).map (·.rule)
  candidates : (candidates trial now bucket s).1 = (topTier (exhaustive trial now bucket s)).map (·.position)
  outcome : selectBy trial Draws.choose now bucket s d =
    ((d.choose (Repartee.candidates trial now bucket s).1).1, leaves s (triedTier trial now n bucket s),
      (d.choose (Repartee.candidates trial now bucket s).1).2)
  chosen : ∃ t ∈ triedTier trial now n bucket s, (selectBy trial Draws.choose now bucket s d).1 = some t.position ∧
    bucket[t.position]? = some t.rule ∧ t.rule.isEligible now = true ∧ t.passed = true ∧ t.rule.specificity = n

/- What holds without any order: the rules in front of an early end were tried, and the chosen one passed
and is not less specific than another one that passed. -/
structure PrefixChosen (now : Float) (bucket : List Rule) (s : σ) (d : Draws) (walked left : List (Rule × Nat)) :
    Prop where
  split : bucket.zipIdx = walked ++ left
  everyCall : calls trial now bucket s d = (turns trial (eligible now walked) s).map (·.rule)
  state : (selectBy trial Draws.choose now bucket s d).2.1 = leaves s (turns trial (eligible now walked) s)
  stop : ∀ p ∈ left.head?, ∃ u ∈ turns trial (eligible now walked) s,
    u.passed = true ∧ p.1.specificity < u.rule.specificity
  nothing : (selectBy trial Draws.choose now bucket s d).1 = none ↔
    ∀ t ∈ turns trial (eligible now walked) s, t.passed = false
  chosen : ∀ i, (selectBy trial Draws.choose now bucket s d).1 = some i →
    ∃ t ∈ topTier (turns trial (eligible now walked) s), t.position = i ∧ bucket[i]? = some t.rule ∧
      t.rule.isEligible now = true

theorem nothingChosen {now : Float} {bucket : List Rule} {s : σ}
    (failed : ∀ t ∈ exhaustive trial now bucket s, t.passed = false) (d : Draws) :
    NothingChosen trial now bucket s d := by
  have tries := triesAll trial now failed
  have nothing : topTier (turns trial (eligible now bucket.zipIdx) s) = [] := (topTierEmpty _).mpr failed
  have outcome := pickedOfTries tries d
  rw [nothing, List.map_nil, Draws.chosenFromNone] at outcome
  exact ⟨outcome, callsOfTries tries d⟩

theorem tierChosen {now : Float} {bucket : List Rule} {s : σ} (sorted : Falling bucket) {first : Turn σ}
    (found : (exhaustive trial now bucket s).find? (·.passed) = some first) (d : Draws) :
    TierChosen trial now bucket s d first.rule.specificity := by
  have falling : Falling (bucket.zipIdx.map Prod.fst) := by rwa [List.zipIdx_map_fst]
  have tries := triesTier trial now falling found
  have same := topTierWithin falling found
  have outcome := pickedOfTries tries d
  obtain ⟨below, split, _⟩ := tierSplits trial now first.rule.specificity s falling
  have impossible : (selectBy trial Draws.choose now bucket s d).1 ≠ none := fun nothing => by
    have failed := (noneOfTries tries d).mp nothing
    rw [← topTierEmpty, ← same, topTierEmpty] at failed
    have passed : first.passed = true := by simpa using List.find?_some found
    rw [failed first (List.mem_of_find?_eq_some found)] at passed
    contradiction
  obtain ⟨i, picked⟩ := Option.ne_none_iff_exists'.mp impossible
  obtain ⟨t, top, rfl⟩ := someOfTries tries picked
  obtain ⟨passed, equal⟩ := topTierEqualsFirst falling found (same ▸ top)
  have member := (List.mem_filter.mp top).1
  obtain ⟨stands, may⟩ := turnStands trial (fun p mem => (List.mem_filter.mp mem).1) member
  refine ⟨⟨below, split.symm⟩, callsOfTries tries d, sortedCandidates trial now s sorted, ?_, t, member, picked,
    stands, may, passed, equal⟩
  rw [candidatesOfTries tries]
  exact outcome

theorem prefixChosen (now : Float) (bucket : List Rule) (s : σ) (d : Draws) :
    ∃ walked left, PrefixChosen trial now bucket s d walked left := by
  obtain ⟨walked, left, split, tries, stop⟩ := triesPrefix trial now bucket.zipIdx s
  refine ⟨walked, left, split, callsOfTries tries d, congrArg (fun o => o.2.1) (pickedOfTries tries d),
    fun p mem => ?_, noneOfTries tries d, fun i found => ?_⟩
  · have lower := stop p mem
    have any : passers (turns trial (eligible now walked) s) ≠ [] := fun empty => by
      rw [empty] at lower
      exact absurd lower (Nat.not_lt_zero _)
    obtain ⟨_, pm, reached⟩ := highestReached any
    obtain ⟨u, um, up, rfl⟩ := turnOfPasser pm
    exact ⟨u, um, up, reached ▸ lower⟩
  · obtain ⟨t, top, rfl⟩ := someOfTries tries found
    have within : ∀ p ∈ eligible now walked, p ∈ eligible now bucket.zipIdx := fun p mem => by
      rw [split, eligible, List.filter_append]
      exact List.mem_append_left _ mem
    obtain ⟨stands, may⟩ := turnStands trial within (List.mem_filter.mp top).1
    exact ⟨t, top, rfl, stands, may⟩

theorem mostSpecificTierSelected (trial : Rule → σ → Bool × σ) (now : Float) (bucket : List Rule) (s : σ)
    (d : Draws) :
    (∀ (q : Query) (st : Stores),
      selectRule bucket q st d = selectBy (fun r => r.passes q) Draws.choose q.now bucket st d) ∧
    (Falling bucket →
      ((selectBy trial Draws.choose now bucket s d).1 = none ↔
        ∀ t ∈ exhaustive trial now bucket s, t.passed = false) ∧
      ((selectBy trial Draws.choose now bucket s d).1 = none → NothingChosen trial now bucket s d) ∧
      ∀ first, (exhaustive trial now bucket s).find? (·.passed) = some first →
        TierChosen trial now bucket s d first.rule.specificity) ∧
    ∃ walked left, PrefixChosen trial now bucket s d walked left := by
  refine ⟨fun q st => rfl, fun sorted => ?_, prefixChosen trial now bucket s d⟩
  have nothing : (selectBy trial Draws.choose now bucket s d).1 = none ↔
      ∀ t ∈ exhaustive trial now bucket s, t.passed = false := by
    constructor
    · intro none t mem
      cases found : (exhaustive trial now bucket s).find? (·.passed) with
      | none => simpa using List.find?_eq_none.mp found t mem
      | some first =>
        obtain ⟨u, _, picked, _⟩ := (tierChosen trial sorted found d).chosen
        rw [none] at picked
        contradiction
    · intro failed
      rw [(nothingChosen trial failed d).outcome]
  exact ⟨nothing, fun none => nothingChosen trial (nothing.mp none) d,
    fun first found => tierChosen trial sorted found d⟩

def answering (id : Int64) (answers : List Bool) : Rule :=
  { id, concept := "", who := "", response := "",
    criteria := answers.map (fun answer => .custom "" (fun _ => .done answer)) }

def fourTiers : List Rule := [answering 1 [true, false], answering 2 [true], answering 3 [false], answering 4 []]

def silence : Query := { now := 0.0 }

theorem mostSpecificTierSelectedOfFour :
    Falling fourTiers ∧
    TierChosen (fun r => r.passes silence) 0.0 fourTiers ({} : Stores) {} 1 ∧
    (calls (fun r => r.passes silence) 0.0 fourTiers ({} : Stores) {}).map Rule.id = [1, 2, 3] := by
  have sorted : Falling fourTiers := by
    unfold Falling
    decide
  have selected := mostSpecificTierSelected (fun r => r.passes silence) 0.0 fourTiers ({} : Stores) {}
  have chosen := (selected.2.1 sorted).2.2 _ rfl
  refine ⟨sorted, chosen, ?_⟩
  rw [chosen.everyCall]
  rfl

end Repartee.Selection
