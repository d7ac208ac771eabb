import Repartee.Proofs.TableInvariant

/-! Insertion one by one against building at once. To sort a bucket with one more rule at its end is to sort it without
this rule and then to place the rule behind all that are at least as specific. So a table does not tell in which of the
two ways its rules came. In a sorted bucket the place of a new rule is found by halving. -/
namespace Repartee

def halve (passes : Nat → Bool) (low high : Nat) : Nat :=
  if low < high then
    let middle := low + (high - low) / 2
    if passes middle then halve passes (middle + 1) high else halve passes low middle
  else low
termination_by high - low

theorem halveFinds {passes : Nat → Bool} {low high point : Nat}
    (parted : ∀ i, i < high → (passes i = true ↔ i < point)) (above : low ≤ point) (below : point ≤ high) :
    halve passes low high = point := by
  fun_induction halve passes low high with
  | case1 low high room middle yes ih =>
    have inside : middle < point := (parted middle (by omega)).mp yes
    exact ih parted inside below
  | case2 low high room middle no ih =>
    have outside : ¬ middle < point := fun inside => no ((parted middle (by omega)).mpr inside)
    exact ih (fun i within => parted i (by omega)) above (by omega)
  | case3 low high full => omega

def ahead (r : Rule) (rules : List Rule) : List Rule := rules.takeWhile (r.specificity ≤ ·.specificity)

theorem placedBehind (r : Rule) (rules : List Rule) : placeAfter r rules = rules.insertIdx (ahead r rules).length r := by
  induction rules with
  | nil => rfl
  | cons s rest ih =>
    unfold ahead at ih ⊢
    by_cases more : r.specificity ≤ s.specificity
    · simp [placeAfter, more, ih]
    · simp [placeAfter, more]

theorem sortedParted {rules : List Rule} (sorted : Falling rules) (r : Rule) (i : Nat) (within : i < rules.length) :
    (rules[i]?).any (r.specificity ≤ ·.specificity) = true ↔ i < (ahead r rules).length := by
  induction rules generalizing i with
  | nil => contradiction
  | cons s rest ih =>
    unfold ahead at ih ⊢
    by_cases more : r.specificity ≤ s.specificity
    · cases i with
      | zero => simp [more]
      | succ i => simpa [more] using ih (List.pairwise_cons.mp sorted).2 i (by simpa using within)
    · -- Behind a rule that is less specific there are only such rules.
      have less : ∀ t ∈ s :: rest, ¬ r.specificity ≤ t.specificity :=
        fun t mem enough => more (Nat.le_trans enough (fallingHead sorted mem))
      have here := less _ (List.getElem_mem within)
      rw [List.getElem?_eq_getElem within]
      simp [more, here]

def placeFor (r : Rule) (rules : List Rule) : Nat :=
  halve (fun i => (rules[i]?).any (r.specificity ≤ ·.specificity)) 0 rules.length

theorem placedByHalving {rules : List Rule} (sorted : Falling rules) (r : Rule) :
    placeAfter r rules = rules.insertIdx (placeFor r rules) r := by
  have found : placeFor r rules = (ahead r rules).length :=
    halveFinds (sortedParted sorted r) (Nat.zero_le _) (List.takeWhile_sublist _).length_le
  rw [placedBehind, found]

namespace RuleTable

theorem keyPushAll (t : RuleTable) (rules : List Rule) (c w : String) :
    ((rules.foldl push t).bucket? c w).isSome ↔ (t.bucket? c w).isSome ∨ ∃ r ∈ rules, r.concept = c ∧ r.who = w := by
  induction rules generalizing t with
  | nil => simp
  | cons r rest ih =>
    rw [List.foldl_cons, ih, push, lookupSetBucket]
    split
    · rename_i same
      cases same
      simp
    · rename_i other
      have apart : ¬ (r.concept = c ∧ r.who = w) := by
        rintro ⟨rfl, rfl⟩
        exact other rfl
      simp [apart]

/- What a table of some rules is: a bucket for every key among them, and in each bucket the rules of its key by falling
specificity, those of one specificity in the order given. -/
structure Grouped (rules : List Rule) (t : RuleTable) : Prop where
  keys : ∀ c w, (t.bucket? c w).isSome ↔ ∃ r ∈ rules, r.concept = c ∧ r.who = w
  falling : ∀ c w, Falling (t.bucket c w)
  ties : ∀ c w n, (t.bucket c w).filter (·.specificity = n) =
    rules.filter fun r => r.concept = c ∧ r.who = w ∧ r.specificity = n
  archived : t.archived = []

theorem groupedOfRules (rules : List Rule) : Grouped rules (ofRules rules) where
  keys c w := by
    have none : empty.bucket? c w = none := rfl
    rw [ofRules, lookupSortBuckets, Option.isSome_map, keyPushAll, none]
    simp
  falling c w := by
    rw [bucketOfRules]
    exact sortedFalling _
  ties c w n := by
    rw [bucketOfRules, sortedTies, List.filter_filter]
    refine List.filter_congr fun r _ => ?_
    simp only [keyed, Prod.mk.injEq, ← Bool.decide_and]
    exact decide_eq_decide.mpr (by rw [and_comm, and_assoc])
  archived := archivedPushAll empty rules

theorem insertedAsBuilt (xs ys : List Rule) :
    ys.foldl insert empty = ofRules ys ∧
    ys.foldl insert (ofRules xs) = ofRules (xs ++ ys) ∧
    Grouped (xs ++ ys) (ofRules (xs ++ ys)) ∧
    ∀ r, (ofRules xs).insert r = (ofRules xs).setBucket r.concept r.who
      (((ofRules xs).bucket r.concept r.who).insertIdx (placeFor r ((ofRules xs).bucket r.concept r.who)) r) := by
  refine ⟨insertedAll [] ys, insertedAll xs ys, groupedOfRules (xs ++ ys), fun r => ?_⟩
  rw [← placedByHalving ((groupedOfRules xs).falling r.concept r.who)]
  rfl

end RuleTable
end Repartee
