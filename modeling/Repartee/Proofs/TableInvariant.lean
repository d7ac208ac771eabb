import Mathlib.Data.List.Perm.Basic
import Repartee.Compile
import Repartee.Proofs.Session

/-! What stays true of a rule table while it is built and while rules fire. Every bucket is sorted and holds
only rules of its key, no rule that was put in is lost, copied or altered but for the time of its last
firing, and the archive holds one-shot rules that fired. -/
namespace Repartee

theorem Assoc.valuesPut {κ α : Type} [DecidableEq κ] (k : κ) (v : List α) (es : List (κ × List α)) :
    (((put k v es).map Prod.snd).flatten ++ (find k es).getD []).Perm ((es.map Prod.snd).flatten ++ v) := by
  induction es with
  | nil => simp [put, find]
  | cons e rest ih =>
    by_cases same : e.1 = k
    · simp only [put, find, same, if_true, List.map_cons, List.flatten_cons, Option.getD_some]
      have swap : (v ++ (rest.map Prod.snd).flatten ++ e.2).Perm (e.2 ++ ((rest.map Prod.snd).flatten ++ v)) :=
        List.perm_append_comm.trans (List.perm_append_comm.append_left e.2)
      simpa only [List.append_assoc] using swap
    · simp only [put, find, same, if_false, List.map_cons, List.flatten_cons, List.append_assoc]
      exact ih.append_left e.2

def Rule.unmarked (r : Rule) : Rule := { r with lastFired := none }

theorem Rule.unmarkedMark (r : Rule) (now : Float) : (r.markFired now).unmarked = r.unmarked := rfl

theorem Rule.linesUnmarked {r r' : Rule} (same : r'.unmarked = r.unmarked) :
    r'.criteria = r.criteria ∧ r'.effects = r.effects :=
  ⟨(congrArg Rule.criteria same :), (congrArg Rule.effects same :)⟩

namespace RuleTable
open scoped List

theorem activeSetBucket (t : RuleTable) (c w : String) (rules : List Rule) :
    ((t.setBucket c w rules).active ++ t.bucket c w).Perm (t.active ++ rules) :=
  Assoc.valuesPut (c, w) rules t.buckets.entries

theorem activePush (t : RuleTable) (r : Rule) : (t.push r).active.Perm (t.active ++ [r]) := by
  have moved := activeSetBucket t r.concept r.who (t.bucket r.concept r.who ++ [r])
  have shifted : (t.active ++ (t.bucket r.concept r.who ++ [r])).Perm (t.active ++ [r] ++ t.bucket r.concept r.who) := by
    rw [List.append_assoc]
    exact List.perm_append_comm.append_left t.active
  exact (List.perm_append_right_iff _).mp (moved.trans shifted)

theorem activeInsert (t : RuleTable) (r : Rule) : (t.insert r).active.Perm (t.active ++ [r]) := by
  have moved := activeSetBucket t r.concept r.who (placeAfter r (t.bucket r.concept r.who))
  have placed := (placedPerm r (t.bucket r.concept r.who)).append_left t.active
  have shifted : (t.active ++ r :: t.bucket r.concept r.who).Perm (t.active ++ [r] ++ t.bucket r.concept r.who) := by
    simp
  exact (List.perm_append_right_iff _).mp (moved.trans (placed.trans shifted))

theorem entriesSorted {κ : Type} (es : List (κ × List Rule)) :
    ((es.map (fun e => (e.1, sortRules e.2))).map Prod.snd).flatten.Perm (es.map Prod.snd).flatten := by
  induction es with
  | nil => exact List.Perm.refl _
  | cons e rest ih => exact (sortedPerm e.2).append ih

theorem activeSortBuckets (t : RuleTable) : t.sortBuckets.active.Perm t.active := entriesSorted t.buckets.entries

theorem activePushAll (t : RuleTable) (rules : List Rule) : (rules.foldl push t).active.Perm (t.active ++ rules) := by
  induction rules generalizing t with
  | nil => simp
  | cons r rest ih =>
    have head := (activePush t r).append_right rest
    simpa using (ih (t.push r)).trans head

theorem activeOfRules (rules : List Rule) : (ofRules rules).active.Perm rules :=
  (activeSortBuckets _).trans (activePushAll empty rules)

def keyed (c w : String) (r : Rule) : Bool := (r.concept, r.who) = (c, w)

theorem bucketPushAll (t : RuleTable) (rules : List Rule) (c w : String) :
    (rules.foldl push t).bucket c w = t.bucket c w ++ rules.filter (keyed c w) := by
  induction rules generalizing t with
  | nil => simp
  | cons r rest ih =>
    rw [List.foldl_cons, ih, push, bucketSetBucket, List.filter_cons]
    by_cases same : (c, w) = (r.concept, r.who)
    · cases same
      simp [keyed]
    · have other : keyed c w r = false := by
        simp only [keyed, decide_eq_false_iff_not]
        exact fun h => same h.symm
      simp [same, other]

theorem bucketOfRules (rules : List Rule) (c w : String) :
    (ofRules rules).bucket c w = sortRules (rules.filter (keyed c w)) := by
  rw [ofRules, bucketSortBuckets, bucketPushAll]
  rfl

theorem standsOfRules {put : List Rule} {c w : String} {r : Rule} (stands : r ∈ (ofRules put).bucket c w) : r ∈ put := by
  rw [bucketOfRules] at stands
  exact List.mem_of_mem_filter ((sortedPerm _).mem_iff.mp stands)

theorem archivedPushAll (t : RuleTable) (rules : List Rule) : (rules.foldl push t).archived = t.archived := by
  induction rules generalizing t with
  | nil => rfl
  | cons r rest ih => exact ih (t.push r)

def settled (rules : List Rule) (f : Firing) : List Rule :=
  if f.rule.isOneShot then rules.eraseIdx f.index else rules.set f.index (f.rule.markFired f.time)

theorem bucketsFire (t : RuleTable) (f : Firing) :
    (t.fire f).buckets = (t.setBucket f.concept f.who (settled (t.bucket f.concept f.who) f)).buckets := by
  have marked : (f.rule.markFired f.time).isOneShot = f.rule.isOneShot := rfl
  simp only [fire, settle, settled, marked]
  split <;> rfl

theorem archivedFire (t : RuleTable) (f : Firing) :
    (t.fire f).archived = if f.rule.isOneShot then t.archived ++ [f.rule.markFired f.time] else t.archived := by
  have marked : (f.rule.markFired f.time).isOneShot = f.rule.isOneShot := rfl
  simp only [fire, settle, marked]
  split <;> rfl

theorem bucketFire (t : RuleTable) (f : Firing) (c w : String) :
    (t.fire f).bucket c w = if (c, w) = (f.concept, f.who) then settled (t.bucket c w) f else t.bucket c w := by
  have same : (t.fire f).bucket c w = (t.setBucket f.concept f.who (settled (t.bucket f.concept f.who) f)).bucket c w :=
    congrArg (fun buckets => (buckets.get? (c, w)).getD []) (bucketsFire t f)
  rw [same, bucketSetBucket]
  split
  · rename_i key
    cases key
    rfl
  · rfl

theorem bucketFireElsewhere (t : RuleTable) {f : Firing} {c w : String} (other : (c, w) ≠ (f.concept, f.who)) :
    (t.fire f).bucket? c w = t.bucket? c w := by
  have same := congrArg (Assoc.get? · (c, w)) (t.bucketsFire f)
  exact same.trans ((t.lookupSetBucket f.concept f.who c w _).trans (if_neg other))

theorem settledPerm {rules : List Rule} {f : Firing} (stands : rules[f.index]? = some f.rule) :
    ((settled rules f).map Rule.unmarked ++ if f.rule.isOneShot then [f.rule.unmarked] else []).Perm
      (rules.map Rule.unmarked) := by
  obtain ⟨below, here⟩ := List.getElem?_eq_some_iff.mp stands
  unfold settled
  split
  · have perm := (List.getElem_cons_eraseIdx_perm below).map Rule.unmarked
    rw [here, List.map_cons] at perm
    exact (List.perm_append_singleton _ _).trans perm
  · have same : rules.map Rule.unmarked = (rules.set f.index (f.rule.markFired f.time)).map Rule.unmarked := by
      rw [List.map_set, Rule.unmarkedMark, ← here, ← List.getElem_map Rule.unmarked (h := by simpa using below)]
      exact (List.set_getElem_self _).symm
    rw [List.append_nil, same]

theorem activeFire {t : RuleTable} {f : Firing} (due : Due t f) :
    ((t.fire f).active.map Rule.unmarked ++ if f.rule.isOneShot then [f.rule.unmarked] else []).Perm
      (t.active.map Rule.unmarked) := by
  have moved := (activeSetBucket t f.concept f.who (settled (t.bucket f.concept f.who) f)).map Rule.unmarked
  have active : (t.fire f).active = (t.setBucket f.concept f.who (settled (t.bucket f.concept f.who) f)).active :=
    congrArg (fun buckets => buckets.values.flatten) (bucketsFire t f)
  have left := settledPerm due.stands
  rw [List.map_append, List.map_append, ← active] at moved
  generalize (if f.rule.isOneShot then [f.rule.unmarked] else []) = out at *
  generalize (settled (t.bucket f.concept f.who) f).map Rule.unmarked = new at *
  -- With the old bucket added on both sides nothing has to be said about the other buckets.
  refine (List.perm_append_right_iff ((t.bucket f.concept f.who).map Rule.unmarked)).mp ?_
  calc ((t.fire f).active.map Rule.unmarked ++ out ++ (t.bucket f.concept f.who).map Rule.unmarked)
    _ ~ (t.fire f).active.map Rule.unmarked ++ (t.bucket f.concept f.who).map Rule.unmarked ++ out := by
      simpa only [List.append_assoc] using List.perm_append_comm.append_left _
    _ ~ t.active.map Rule.unmarked ++ new ++ out := moved.append_right out
    _ ~ t.active.map Rule.unmarked ++ (t.bucket f.concept f.who).map Rule.unmarked := by
      simpa only [List.append_assoc] using left.append_left _

/- No rule moves past another: at most one was marked in its place or left. -/
def StaysInOrder (before after : List Rule) : Prop :=
  after = before ∨ ∃ i r now, before[i]? = some r ∧
    (after = before.set i (r.markFired now) ∨ after = before.eraseIdx i)

theorem settledInOrder {rules : List Rule} {f : Firing} (stands : rules[f.index]? = some f.rule) :
    StaysInOrder rules (settled rules f) := by
  refine .inr ⟨f.index, f.rule, f.time, stands, ?_⟩
  unfold settled
  split
  · exact .inr rfl
  · exact .inl rfl

theorem fireInOrder {t : RuleTable} {f : Firing} (due : Due t f) (c w : String) :
    StaysInOrder (t.bucket c w) ((t.fire f).bucket c w) := by
  rw [bucketFire]
  split
  · rename_i key
    cases key
    exact settledInOrder due.stands
  · exact .inl rfl

theorem orderSorted {before after : List Rule} (sorted : Falling before) (order : StaysInOrder before after) :
    Falling after := by
  rcases order with rfl | ⟨i, r, now, stands, rfl | rfl⟩
  · exact sorted
  · have counts : (before.set i (r.markFired now)).map Rule.specificity = before.map Rule.specificity := by
      obtain ⟨below, rfl⟩ := List.getElem?_eq_some_iff.mp stands
      rw [List.map_set]
      exact (congrArg _ (List.getElem_map Rule.specificity (h := by simpa using below)).symm).trans
        (List.set_getElem_self _)
    unfold Falling at sorted ⊢
    rw [← List.pairwise_map (R := fun m n => n ≤ m)] at sorted ⊢
    rwa [counts]
  · exact sorted.sublist (List.eraseIdx_sublist _ _)

theorem orderMember {before after : List Rule} {r : Rule} (order : StaysInOrder before after) (mem : r ∈ after) :
    ∃ r' ∈ before, r'.unmarked = r.unmarked := by
  rcases order with rfl | ⟨i, s, now, stands, rfl | rfl⟩
  · exact ⟨r, mem, rfl⟩
  · rcases List.mem_or_eq_of_mem_set mem with old | rfl
    · exact ⟨r, old, rfl⟩
    · exact ⟨s, List.mem_of_getElem? stands, rfl⟩
  · exact ⟨r, List.mem_of_mem_eraseIdx mem, rfl⟩

inductive Built : RuleTable → List Rule → Prop where
  | new : Built empty []
  | rules (put : List Rule) : Built (ofRules put) put
  | rows (v : Vocabulary) (rows : List Row) : Built (v.compile rows).table (v.rulesOfRows [] rows).1
  | insert {t put} (built : Built t put) (r : Rule) : Built (t.insert r) (put ++ [r])

structure Kept (put : List Rule) (t : RuleTable) : Prop where
  sorted : ∀ c w, Falling (t.bucket c w)
  keyed : ∀ c w, ∀ r ∈ t.bucket c w, r.concept = c ∧ r.who = w
  conserved : ((t.active ++ t.archived).map Rule.unmarked).Perm (put.map Rule.unmarked)
  archived : ∀ r ∈ t.archived, r.isOneShot = true ∧ r.state = .triggered

theorem keptNew : Kept [] empty where
  sorted _ _ := List.Pairwise.nil
  keyed _ _ := nofun
  conserved := List.Perm.refl _
  archived := nofun

theorem keptOfRules (put : List Rule) : Kept put (ofRules put) where
  sorted c w := by
    rw [bucketOfRules]
    exact sortedFalling _
  keyed c w r mem := by
    rw [bucketOfRules] at mem
    have kept := (List.mem_filter.mp ((sortedPerm _).mem_iff.mp mem)).2
    simpa [RuleTable.keyed] using kept
  conserved := by
    have none : (ofRules put).archived = [] := archivedPushAll empty put
    rw [none, List.append_nil]
    exact (activeOfRules put).map _
  archived := by
    have none : (ofRules put).archived = [] := archivedPushAll empty put
    rw [none]
    nofun

theorem bucketInsert (t : RuleTable) (r : Rule) (c w : String) :
    (t.insert r).bucket c w =
      if (c, w) = (r.concept, r.who) then placeAfter r (t.bucket c w) else t.bucket c w := by
  rw [RuleTable.insert, bucketSetBucket]
  split
  · rename_i key
    cases key
    rfl
  · rfl

theorem keptInsert {put : List Rule} {t : RuleTable} (kept : Kept put t) (r : Rule) :
    Kept (put ++ [r]) (t.insert r) where
  sorted c w := by
    rw [bucketInsert]
    split
    · exact placedFalling r (kept.sorted c w)
    · exact kept.sorted c w
  keyed c w s mem := by
    rw [bucketInsert] at mem
    split at mem
    · rename_i key
      rcases List.mem_cons.mp ((placedPerm r _).mem_iff.mp mem) with rfl | old
      · exact ⟨(Prod.mk.inj key).1.symm, (Prod.mk.inj key).2.symm⟩
      · exact kept.keyed c w s old
    · exact kept.keyed c w s mem
  conserved := by
    have grown := (activeInsert t r).append_right t.archived
    have shifted : (t.active ++ [r] ++ t.archived).Perm (t.active ++ t.archived ++ [r]) := by
      simpa only [List.append_assoc] using List.perm_append_comm.append_left t.active
    have whole : ((t.insert r).active ++ t.archived).map Rule.unmarked ~
        (t.active ++ t.archived).map Rule.unmarked ++ [r.unmarked] := by
      rw [← List.map_singleton (f := Rule.unmarked), ← List.map_append]
      exact (grown.trans shifted).map Rule.unmarked
    have total : (put ++ [r]).map Rule.unmarked = put.map Rule.unmarked ++ [r.unmarked] := List.map_append
    rw [total]
    exact whole.trans (kept.conserved.append_right _)
  archived := kept.archived

theorem keptBuilt {t : RuleTable} {put : List Rule} (built : Built t put) : Kept put t := by
  induction built with
  | new => exact keptNew
  | rules put => exact keptOfRules put
  | rows v rows => exact keptOfRules _
  | insert _ r ih => exact keptInsert ih r

theorem builtArchive {t : RuleTable} {put : List Rule} (built : Built t put) : t.archived = [] := by
  induction built with
  | new => rfl
  | rules put => exact archivedPushAll empty put
  | rows v rows => exact archivedPushAll empty _
  | insert _ r ih => exact ih

theorem keptFire {put : List Rule} {t : RuleTable} {f : Firing} (kept : Kept put t) (due : Due t f) :
    Kept put (t.fire f) where
  sorted c w := orderSorted (kept.sorted c w) (fireInOrder due c w)
  keyed c w r mem := by
    obtain ⟨r', old, same⟩ := orderMember (fireInOrder due c w) mem
    have key := kept.keyed c w r' old
    exact ⟨(congrArg Rule.concept same).symm.trans key.1, (congrArg Rule.who same).symm.trans key.2⟩
  conserved := by
    have moved := activeFire due
    have total := kept.conserved
    rw [List.map_append] at total ⊢
    rw [archivedFire]
    split
    · rename_i oneShot
      rw [if_pos oneShot] at moved
      rw [List.map_append, List.map_singleton, Rule.unmarkedMark]
      refine List.Perm.trans ?_ ((moved.append_right _).trans total)
      simpa only [List.append_assoc] using List.perm_append_comm.append_left _
    · rename_i stays
      rw [if_neg stays, List.append_nil] at moved
      exact (moved.append_right _).trans total
  archived r mem := by
    rw [archivedFire] at mem
    split at mem
    · rename_i oneShot
      rcases List.mem_append.mp mem with old | new
      · exact kept.archived r old
      · rw [List.mem_singleton.mp new]
        exact ⟨oneShot, rfl⟩
    · exact kept.archived r mem

theorem keptFires {put : List Rule} {t t' : RuleTable} {fs : List Firing} (kept : Kept put t)
    (fires : Fires t fs t') : Kept put t' := by
  induction fires with
  | nil => exact kept
  | cons due _ ih => exact ih (keptFire kept due)

theorem bucketInActive {t : RuleTable} {c w : String} {r : Rule} (mem : r ∈ t.bucket c w) : r ∈ t.active := by
  unfold bucket bucket? at mem
  cases found : t.buckets.get? (c, w) with
  | none =>
    rw [found] at mem
    contradiction
  | some rules =>
    rw [found] at mem
    exact List.mem_flatten_of_mem (List.mem_map_of_mem (f := Prod.snd) (Assoc.findMember found)) mem

theorem standingWasPut {put : List Rule} {t : RuleTable} (kept : Kept put t) {c w : String} {r : Rule}
    (mem : r ∈ t.bucket c w) : ∃ r' ∈ put, r'.unmarked = r.unmarked := by
  have inside := List.mem_map_of_mem (f := Rule.unmarked) (List.mem_append_left t.archived (bucketInActive mem))
  exact List.mem_map.mp (kept.conserved.mem_iff.mp inside)

theorem idsDistinct {put : List Rule} {t : RuleTable} (kept : Kept put t) (distinct : (put.map Rule.id).Nodup) :
    ((t.active ++ t.archived).map Rule.id).Nodup := by
  have ids : (t.active ++ t.archived).map Rule.id ~ put.map Rule.id := by
    have same := kept.conserved.map Rule.id
    rw [List.map_map, List.map_map] at same
    exact same
  exact ids.nodup_iff.mpr distinct

end RuleTable

namespace Dispatcher
open RuleTable

theorem stepInOrder (d : Dispatcher) (call : Call) (c w : String) :
    StaysInOrder (d.table.bucket c w) ((d.step call).2.table.bucket c w) := by
  rw [stepTable]
  cases fired : d.firing? call with
  | none => exact .inl rfl
  | some f => exact fireInOrder (stepDue fired) c w

theorem stepStanding {d : Dispatcher} {call : Call} {c w : String} {r : Rule}
    (stands : r ∈ (d.step call).2.table.bucket c w) : ∃ r' ∈ d.table.bucket c w, r'.unmarked = r.unmarked :=
  orderMember (stepInOrder d call c w) stands

theorem tableKeptOverSessions {d : Dispatcher} {put : List Rule} (built : Built d.table put) (calls : List Call) :
    Kept put (d.after calls).table ∧
    ∀ call c w, StaysInOrder ((d.after calls).table.bucket c w) (((d.after calls).step call).2.table.bucket c w) :=
  ⟨keptFires (keptBuilt built) (sessionFires d calls), stepInOrder (d.after calls)⟩

def bulk : List Rule := [Selection.answering 1 [true], Selection.answering 2 []]

def late : Rule := Selection.answering 3 [true, true]

def lateComer : Dispatcher where
  table := (ofRules bulk).insert late

def twoDispatches : List Call := [.dispatchAt 0.0 {} {}, .dispatchEntity EntityId.nil {}]

theorem tableKeptOverTwoDispatches :
    Built lateComer.table (bulk ++ [late]) ∧ Kept (bulk ++ [late]) (lateComer.after twoDispatches).table ∧
    (lateComer.after twoDispatches).table.archived.map Rule.id = [3, 1] := by
  have built : Built lateComer.table (bulk ++ [late]) := (Built.rules bulk).insert late
  refine ⟨built, (tableKeptOverSessions built twoDispatches).1, ?_⟩
  rw [lateComer, builtInTurn]
  rfl

end Dispatcher

end Repartee
