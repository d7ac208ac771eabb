import Repartee.Rule

/-! The rule table. Rules are grouped by what happened and who asks, each group in order of falling
specificity, and rules of equal specificity in the order in which they came. A one-shot rule that fired
moves to the archive; its group stays in the table even when it is left empty. -/
namespace Repartee

def placeAfter (r : Rule) : List Rule → List Rule
  | [] => [r]
  | s :: rest => if r.specificity ≤ s.specificity then s :: placeAfter r rest else r :: s :: rest

/- The library's sort is stable, so rules of one specificity stay in the order in which they came. -/
def sortRules (rules : List Rule) : List Rule := rules.mergeSort (fun r s => s.specificity ≤ r.specificity)

theorem placedPerm (r : Rule) (rules : List Rule) : (placeAfter r rules).Perm (r :: rules) := by
  induction rules with
  | nil => exact List.Perm.refl _
  | cons s rest ih =>
    simp only [placeAfter]
    split
    · exact (ih.cons s).trans (List.Perm.swap r s rest)
    · exact List.Perm.refl _

@[simp] theorem sortedNone : sortRules [] = [] := List.mergeSort_nil

theorem sortedPerm (rules : List Rule) : (sortRules rules).Perm rules := List.mergeSort_perm rules _

def Falling (rules : List Rule) : Prop := rules.Pairwise (fun r s => s.specificity ≤ r.specificity)

theorem fallingHead {r s : Rule} {rules : List Rule} (falling : Falling (r :: rules)) (mem : s ∈ r :: rules) :
    s.specificity ≤ r.specificity := by
  rcases List.mem_cons.1 mem with rfl | later
  · exact Nat.le_refl _
  · exact (List.pairwise_cons.1 falling).1 s later

theorem placedFalling (r : Rule) {rules : List Rule} (h : Falling rules) :
    Falling (placeAfter r rules) := by
  induction rules with
  | nil => simp [placeAfter, Falling]
  | cons s rest ih =>
    obtain ⟨top, tail⟩ := List.pairwise_cons.1 h
    simp only [placeAfter]
    split
    · rename_i le
      refine List.pairwise_cons.2 ⟨fun t m => ?_, ih tail⟩
      rcases List.mem_cons.1 ((placedPerm r rest).mem_iff.1 m) with rfl | m
      · exact le
      · exact top t m
    · rename_i above
      refine List.pairwise_cons.2 ⟨fun t m => ?_, h⟩
      exact Nat.le_trans (fallingHead h m) (Nat.le_of_not_le above)

theorem fallingTransitive (r s t : Rule) (front : decide (s.specificity ≤ r.specificity) = true)
    (back : decide (t.specificity ≤ s.specificity) = true) : decide (t.specificity ≤ r.specificity) = true :=
  decide_eq_true (Nat.le_trans (of_decide_eq_true back) (of_decide_eq_true front))

theorem fallingTotal (r s : Rule) :
    (decide (s.specificity ≤ r.specificity) || decide (r.specificity ≤ s.specificity)) = true := by
  simpa using Nat.le_total s.specificity r.specificity

theorem sortedFalling (rules : List Rule) : Falling (sortRules rules) :=
  (List.pairwise_mergeSort fallingTransitive fallingTotal rules).imp of_decide_eq_true

theorem sortedTies (rules : List Rule) (n : Nat) :
    (sortRules rules).filter (·.specificity = n) = rules.filter (·.specificity = n) := by
  have level : (rules.filter (·.specificity = n)).Pairwise fun r s => decide (s.specificity ≤ r.specificity) = true := by
    refine List.pairwise_iff_forall_sublist.mpr fun {r s} pair => ?_
    have here := of_decide_eq_true (List.mem_filter.mp (pair.subset List.mem_cons_self)).2
    have there := of_decide_eq_true (List.mem_filter.mp (pair.subset (List.mem_cons_of_mem _ List.mem_cons_self))).2
    exact decide_eq_true (Nat.le_of_eq (there.trans here.symm))
  have kept := (List.sublist_mergeSort fallingTransitive fallingTotal level List.filter_sublist).filter (·.specificity = n)
  simp only [List.filter_filter, Bool.and_self] at kept
  exact (kept.eq_of_length ((sortedPerm rules).filter _).length_eq.symm).symm

theorem placedTies {rules : List Rule} (falling : Falling rules) (r : Rule) (n : Nat) :
    (placeAfter r rules).filter (·.specificity = n) = (rules ++ [r]).filter (·.specificity = n) := by
  induction rules with
  | nil => rfl
  | cons s rest ih =>
    simp only [placeAfter]
    split
    · rw [List.cons_append, List.filter_cons, List.filter_cons, ih (List.pairwise_cons.1 falling).2]
    · rename_i above
      by_cases here : r.specificity = n
      · -- Everything from here on is less specific than the new rule.
        have nothing : (s :: rest).filter (·.specificity = n) = [] := by
          refine List.filter_eq_nil_iff.mpr fun t mem => ?_
          have below := fallingHead falling mem
          simp only [decide_eq_true_eq]
          omega
        rw [List.filter_append, nothing, List.filter_cons, nothing]
        simp [here]
      · simp [List.filter_append, List.filter_cons, here]

theorem tiesTellMembers {rules rules' : List Rule}
    (ties : ∀ n, rules.filter (·.specificity = n) = rules'.filter (·.specificity = n)) (r : Rule) :
    r ∈ rules ↔ r ∈ rules' := by
  have tie : r ∈ rules.filter (·.specificity = r.specificity) ↔ r ∈ rules'.filter (·.specificity = r.specificity) := by
    rw [ties]
  simpa using tie

theorem fallingToldByTies {rules rules' : List Rule} (falling : Falling rules) (falling' : Falling rules')
    (ties : ∀ n, rules.filter (·.specificity = n) = rules'.filter (·.specificity = n)) : rules = rules' := by
  have member := tiesTellMembers ties
  induction rules generalizing rules' with
  | nil =>
    refine (List.eq_nil_iff_forall_not_mem.mpr fun s mem => ?_).symm
    exact List.not_mem_nil ((member s).mpr mem)
  | cons r rest ih =>
    cases rules' with
    | nil => exact absurd ((member r).mp List.mem_cons_self) List.not_mem_nil
    | cons s rest' =>
      -- Both heads are the most specific of the same rules, so each is the first of the same tie.
      have level : r.specificity = s.specificity :=
        Nat.le_antisymm (fallingHead falling' ((member r).mp List.mem_cons_self))
          (fallingHead falling ((member s).mpr List.mem_cons_self))
      obtain rfl : r = s := by
        have first := ties r.specificity
        simp only [List.filter_cons, level, decide_true, if_true] at first
        exact (List.cons.inj first).1
      have later : ∀ n, rest.filter (·.specificity = n) = rest'.filter (·.specificity = n) := by
        intro n
        have both := ties n
        simp only [List.filter_cons] at both
        split at both
        · exact (List.cons.inj both).2
        · exact both
      rw [ih (List.pairwise_cons.1 falling).2 (List.pairwise_cons.1 falling').2 later (tiesTellMembers later)]

theorem sortWithLast (rules : List Rule) (r : Rule) : sortRules (rules ++ [r]) = placeAfter r (sortRules rules) := by
  refine fallingToldByTies (sortedFalling _) (placedFalling r (sortedFalling rules)) fun n => ?_
  rw [sortedTies, placedTies (sortedFalling rules), List.filter_append, List.filter_append, sortedTies]

structure RuleTable where
  buckets : Assoc (String × String) (List Rule) := {}
  archived : List Rule := []

namespace RuleTable

def empty : RuleTable := {}

def bucket? (t : RuleTable) (concept who : String) : Option (List Rule) := t.buckets.get? (concept, who)

def bucket (t : RuleTable) (concept who : String) : List Rule := (t.bucket? concept who).getD []

def setBucket (t : RuleTable) (concept who : String) (rules : List Rule) : RuleTable :=
  { t with buckets := t.buckets.insert (concept, who) rules }

theorem lookupSetBucket (t : RuleTable) (c w c' w' : String) (rules : List Rule) :
    (t.setBucket c w rules).bucket? c' w' = if (c', w') = (c, w) then some rules else t.bucket? c' w' :=
  Assoc.getInsert t.buckets (c, w) (c', w') rules

theorem bucketSetBucket (t : RuleTable) (c w c' w' : String) (rules : List Rule) :
    (t.setBucket c w rules).bucket c' w' = if (c', w') = (c, w) then rules else t.bucket c' w' := by
  unfold bucket
  rw [lookupSetBucket]
  split <;> rfl

def push (t : RuleTable) (r : Rule) : RuleTable :=
  t.setBucket r.concept r.who (t.bucket r.concept r.who ++ [r])

def sortBuckets (t : RuleTable) : RuleTable := { t with buckets := t.buckets.mapValues sortRules }

theorem lookupSortBuckets (t : RuleTable) (c w : String) :
    t.sortBuckets.bucket? c w = (t.bucket? c w).map sortRules :=
  Assoc.getMapValues sortRules t.buckets (c, w)

theorem bucketSortBuckets (t : RuleTable) (c w : String) : t.sortBuckets.bucket c w = sortRules (t.bucket c w) := by
  unfold bucket
  rw [lookupSortBuckets]
  cases t.bucket? c w with
  | none => exact sortedNone.symm
  | some rules => rfl

def ofRules (rules : List Rule) : RuleTable := (rules.foldl push empty).sortBuckets

def insert (t : RuleTable) (r : Rule) : RuleTable :=
  t.setBucket r.concept r.who (placeAfter r (t.bucket r.concept r.who))

theorem sortPushed (t : RuleTable) (r : Rule) : (t.push r).sortBuckets = t.sortBuckets.insert r := by
  unfold RuleTable.insert
  rw [bucketSortBuckets, ← sortWithLast]
  unfold sortBuckets push setBucket
  rw [Assoc.mapValuesInsert]

theorem insertedLast (xs : List Rule) (r : Rule) : (ofRules xs).insert r = ofRules (xs ++ [r]) := by
  unfold ofRules
  rw [List.foldl_append, List.foldl_cons, List.foldl_nil, sortPushed]

theorem insertedAll (xs ys : List Rule) : ys.foldl insert (ofRules xs) = ofRules (xs ++ ys) := by
  induction ys generalizing xs with
  | nil => rw [List.append_nil, List.foldl_nil]
  | cons r rest ih => rw [List.foldl_cons, insertedLast, ih, List.append_assoc, List.singleton_append]

theorem builtInTurn (rules : List Rule) : ofRules rules = rules.foldl insert empty := (insertedAll [] rules).symm

def settle (t : RuleTable) (concept who : String) (index : Nat) (r : Rule) : RuleTable :=
  let rules := t.bucket concept who
  if r.isOneShot then
    { t.setBucket concept who (rules.eraseIdx index) with archived := t.archived ++ [r] }
  else t.setBucket concept who (rules.set index r)

def active (t : RuleTable) : List Rule := t.buckets.values.flatten

def get? (t : RuleTable) (id : Int64) : Option Rule := t.active.find? (fun r => r.id == id)

def size (t : RuleTable) : Nat := t.active.length

def isEmpty (t : RuleTable) : Bool := t.size == 0

end RuleTable

end Repartee
