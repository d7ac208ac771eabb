import Mathlib.Data.List.Nodup
import Repartee.Proofs.Compilation
import Repartee.Proofs.Seat

/-! Rules without a cooldown fire once. Such a rule leaves its bucket at its only firing, and the archive is
the history of these firings: one entry for each, in their order, marked with their time. A rule that was
already marked when it was put in the table stays where it is. -/
namespace Repartee
namespace RuleTable
open scoped List

theorem oneShotDue {t : RuleTable} {f : Firing} (due : Due t f) (oneShot : f.rule.isOneShot = true) :
    f.rule.state = .idle := by
  have may := due.eligible
  have none : f.rule.cooldown = none := Option.isNone_iff_eq_none.mp oneShot
  unfold Rule.isEligible at may
  unfold Rule.state
  cases marked : f.rule.lastFired with
  | none => rfl
  | some time =>
    rw [marked, none] at may
    contradiction

/- What became of a one-shot rule: it is still there, or it fired once while it had no mark. -/
inductive Fate (t' : RuleTable) (r : Rule) : Option Seat × List Firing → Prop where
  | stays {s'} (sits : t'.at? s' = some r) : Fate t' r (some s', [])
  | fired {f} (own : f.rule = r) (idle : r.state = .idle) : Fate t' r (none, [f])

theorem oneShotFate {t t' : RuleTable} {fs : List Firing} (fires : Fires t fs t') {s : Seat} {r : Rule}
    (sits : t.at? s = some r) (oneShot : r.isOneShot = true) : Fate t' r (Seat.follow (some s) fs) := by
  -- The seat is general, because rules in front of this one may leave and it then moves up.
  induction fires generalizing s with
  | nil => exact .stays sits
  | @cons t f fs t' due rest ih =>
    by_cases own : f.seat = s
    · have same := Seat.sitsOn due sits own
      have gone := Seat.leavesSeat own (same ▸ oneShot)
      simp only [Seat.follow, gone, if_pos own]
      exact .fired same (same ▸ oneShotDue due (same ▸ oneShot))
    · obtain ⟨s', moved, sits'⟩ := Seat.otherSeat sits own
      simp only [Seat.follow, moved, if_neg own]
      exact ih sits'

theorem archivedFires {t t' : RuleTable} {fs : List Firing} (fires : Fires t fs t') :
    t'.archived = t.archived ++ (fs.filter (·.rule.isOneShot)).map (fun f => f.rule.markFired f.time) := by
  induction fires with
  | nil => simp
  | cons due rest ih =>
    rw [ih, archivedFire, List.filter_cons]
    split <;> simp

theorem filterSet {rules : List Rule} {i : Nat} {r r' : Rule} (stands : rules[i]? = some r)
    (out : r.isOneShot = false) (out' : r'.isOneShot = false) :
    (rules.set i r').filter Rule.isOneShot = rules.filter Rule.isOneShot := by
  induction rules generalizing i with
  | nil => rfl
  | cons s rest ih =>
    cases i with
    | zero =>
      cases Option.some.inj stands
      simp [out, out']
    | succ i => simp only [List.set_cons_succ, List.filter_cons, ih (by simpa using stands)]

theorem settledOneShots {rules : List Rule} {f : Firing} (stands : rules[f.index]? = some f.rule) :
    (rules.filter Rule.isOneShot).Perm
      (([f].filter (·.rule.isOneShot)).map (·.rule) ++ (settled rules f).filter Rule.isOneShot) := by
  unfold settled
  cases oneShot : f.rule.isOneShot with
  | true =>
    obtain ⟨below, here⟩ := List.getElem?_eq_some_iff.mp stands
    have perm := (List.getElem_cons_eraseIdx_perm below).filter Rule.isOneShot
    rw [here, List.filter_cons_of_pos oneShot] at perm
    simpa [oneShot] using perm.symm
  | false =>
    have marked : (f.rule.markFired f.time).isOneShot = false := oneShot
    simp [oneShot, filterSet stands oneShot marked]

def onceFrom (c w : String) (fs : List Firing) : List Rule :=
  (fs.filter (fun f => f.rule.isOneShot ∧ (c, w) = (f.concept, f.who))).map (·.rule)

theorem onceFromCons (c w : String) (f : Firing) (fs : List Firing) :
    onceFrom c w (f :: fs) = onceFrom c w [f] ++ onceFrom c w fs := by
  unfold onceFrom
  rw [← List.map_append, ← List.filter_append, List.singleton_append]

theorem oneShotsFire {t : RuleTable} {f : Firing} (due : Due t f) (c w : String) :
    ((t.bucket c w).filter Rule.isOneShot).Perm
      (onceFrom c w [f] ++ ((t.fire f).bucket c w).filter Rule.isOneShot) := by
  rw [bucketFire]
  split
  · rename_i key
    cases key
    simpa [onceFrom, List.filter_cons] using settledOneShots due.stands
  · rename_i other
    have none : onceFrom c w [f] = [] := by
      simp only [onceFrom, List.map_eq_nil_iff, List.filter_eq_nil_iff, List.mem_singleton]
      rintro _ rfl here
      exact other (decide_eq_true_eq.mp here).2
    rw [none, List.nil_append]

theorem oneShotsFires {t t' : RuleTable} {fs : List Firing} (fires : Fires t fs t') (c w : String) :
    ((t.bucket c w).filter Rule.isOneShot).Perm
      (onceFrom c w fs ++ (t'.bucket c w).filter Rule.isOneShot) := by
  induction fires with
  | nil => exact List.Perm.refl _
  | cons due rest ih =>
    rw [onceFromCons, List.append_assoc]
    exact (oneShotsFire due c w).trans (ih.append_left _)

theorem firedWasPut {put : List Rule} {t t' : RuleTable} {fs : List Firing} (kept : Kept put t)
    (fires : Fires t fs t') : ∀ f ∈ fs, ∃ r ∈ put, r.unmarked = f.rule.unmarked := by
  induction fires with
  | nil => nofun
  | @cons t f fs t' due rest ih =>
    intro g mem
    rcases List.mem_cons.mp mem with rfl | later
    · exact standingWasPut kept (List.mem_of_getElem? due.stands)
    · exact ih (keptFire kept due) g later

theorem archivedIdsDistinct {put : List Rule} {t : RuleTable} (kept : Kept put t) (distinct : (put.map Rule.id).Nodup) :
    (t.archived.map Rule.id).Nodup := by
  have whole := idsDistinct kept distinct
  rw [List.map_append] at whole
  exact (List.nodup_append.mp whole).2.1

structure OneShotHistory (t : RuleTable) (fs : List Firing) (t' : RuleTable) : Prop where
  fates : ∀ s r, t.at? s = some r → r.isOneShot = true → Fate t' r (Seat.follow (some s) fs)
  idle : ∀ f ∈ fs, f.rule.isOneShot = true → f.rule.state = .idle
  left : ∀ c w, ((t.bucket c w).filter Rule.isOneShot).Perm
    (onceFrom c w fs ++ (t'.bucket c w).filter Rule.isOneShot)
  archive : t'.archived = t.archived ++ (fs.filter (·.rule.isOneShot)).map (fun f => f.rule.markFired f.time)

theorem idleFires {t t' : RuleTable} {fs : List Firing} (fires : Fires t fs t') :
    ∀ f ∈ fs, f.rule.isOneShot = true → f.rule.state = .idle := by
  induction fires with
  | nil => nofun
  | cons due rest ih =>
    intro g mem oneShot
    rcases List.mem_cons.mp mem with rfl | later
    · exact oneShotDue due oneShot
    · exact ih g later oneShot

theorem oneShotHistory {t t' : RuleTable} {fs : List Firing} (fires : Fires t fs t') : OneShotHistory t fs t' where
  fates _ _ sits oneShot := oneShotFate fires sits oneShot
  idle := idleFires fires
  left := oneShotsFires fires
  archive := archivedFires fires

end RuleTable

namespace Dispatcher
open RuleTable

theorem builtArchiveAfter {d : Dispatcher} {put : List Rule} (built : Built d.table put) (calls : List Call) :
    (d.after calls).table.archived =
      ((d.firings calls).filter (·.rule.isOneShot)).map (fun f => f.rule.markFired f.time) := by
  rw [archivedFires (sessionFires d calls), builtArchive built, List.nil_append]

theorem responseIds (d : Dispatcher) (calls : List Call) :
    (d.responses calls).map (·.ruleId) = (d.firings calls).map (·.rule.id) := by
  have ids := congrArg (List.map Prod.fst) (sessionResponses d calls)
  rw [List.map_map, List.map_map] at ids
  exact ids

theorem compiledPut {d : Dispatcher} {v : Vocabulary} {rows : List Row} (compiled : d.table = (v.compile rows).table) :
    Built d.table (v.rulesOfRows [] rows).1 := compiled ▸ .rows v rows

theorem firedForRow {d : Dispatcher} {v : Vocabulary} {rows : List Row} (compiled : d.table = (v.compile rows).table)
    {calls : List Call} {p : Row × Rule} (mem : p ∈ v.accepted [] rows) {f : Firing} (fired : f ∈ d.firings calls)
    (same : f.rule.id = p.1.id) : f.rule.unmarked = p.2.unmarked := by
  obtain ⟨r, was, unmarked⟩ := firedWasPut (keptBuilt (compiledPut compiled)) (sessionFires d calls) f fired
  have put : p.2 ∈ (v.rulesOfRows [] rows).1 := v.acceptedRules [] rows ▸ List.mem_map_of_mem mem
  have ids : r.unmarked.id = f.rule.unmarked.id := congrArg Rule.id unmarked
  have read := Vocabulary.ruleId (Vocabulary.acceptedRead mem).2.2
  have one : r = p.2 := List.inj_on_of_nodup_map (v.ruleIdsDistinct rows) was put (ids.trans (same.trans read.symm))
  rw [← unmarked, one]

theorem firedIdsDistinct {d : Dispatcher} {put : List Rule} (built : Built d.table put)
    (distinct : (put.map Rule.id).Nodup) (calls : List Call) :
    (((d.firings calls).filter (·.rule.isOneShot)).map (·.rule.id)).Nodup := by
  have archived := archivedIdsDistinct (keptFires (keptBuilt built) (sessionFires d calls)) distinct
  rw [builtArchiveAfter built, List.map_map] at archived
  exact archived

theorem compiledOnce {d : Dispatcher} {v : Vocabulary} {rows : List Row} (compiled : d.table = (v.compile rows).table)
    (calls : List Call) {p : Row × Rule} (mem : p ∈ v.accepted [] rows) (once : p.1.cooldown = none) :
    ((d.responses calls).map (·.ruleId)).count p.1.id ≤ 1 := by
  have own : ∀ f ∈ d.firings calls, f.rule.id = p.1.id → f.rule.isOneShot = true := by
    intro f fired same
    have wait : f.rule.unmarked.cooldown = p.2.unmarked.cooldown :=
      congrArg Rule.cooldown (firedForRow compiled mem fired same)
    have read := Vocabulary.ruleCooldown (Vocabulary.acceptedRead mem).2.2
    exact Option.isNone_iff_eq_none.mpr (wait.trans (read.trans once))
  have counted : ((d.firings calls).map (·.rule.id)).count p.1.id =
      (((d.firings calls).filter (·.rule.isOneShot)).map (·.rule.id)).count p.1.id := by
    simp only [List.count_eq_countP, List.countP_map, List.countP_filter]
    refine List.countP_congr fun f fired => ?_
    simp only [Function.comp_apply, beq_iff_eq, Bool.and_eq_true]
    exact ⟨fun same => ⟨same, own f fired same⟩, And.left⟩
  rw [responseIds, counted]
  exact List.nodup_iff_count.mp (firedIdsDistinct (compiledPut compiled) (v.ruleIdsDistinct rows) calls) p.1.id

theorem oneShotRulesFireOnce (d : Dispatcher) (calls : List Call) :
    OneShotHistory d.table (d.firings calls) (d.after calls).table ∧
    (d.responses calls).map (fun r => (r.ruleId, r.text)) =
      (d.firings calls).map (fun f => (f.rule.id, f.rule.response)) ∧
    (∀ put, Built d.table put → (d.after calls).table.archived =
      ((d.firings calls).filter (·.rule.isOneShot)).map (fun f => f.rule.markFired f.time)) ∧
    ∀ (v : Vocabulary) (rows : List Row), d.table = (v.compile rows).table →
      ∀ p ∈ v.accepted [] rows, p.1.cooldown = none → ((d.responses calls).map (·.ruleId)).count p.1.id ≤ 1 :=
  ⟨oneShotHistory (sessionFires d calls), sessionResponses d calls,
    fun _ built => builtArchiveAfter built calls,
    fun _ _ compiled _ mem once => compiledOnce compiled calls mem once⟩

def bareRow (id : Int64) : Row := { id, concept := "", who := "", response := "" }

def twoLines : Dispatcher where
  table := (Vocabulary.builtin.compile [bareRow 1, bareRow 2]).table

def threeCalls : List Call := [.dispatchAt 2.0 {} {}, .dispatchAt 1.0 {} {}, .dispatchAt 0.0 {} {}]

theorem oneShotRulesFireOnceInThreeCalls :
    (twoLines.responses threeCalls).map (·.ruleId) = [1, 2] ∧
    (twoLines.after threeCalls).table.archived.map (fun r => (r.id, r.state)) = [(1, .triggered), (2, .triggered)] ∧
    ((twoLines.responses threeCalls).map (·.ruleId)).count 1 ≤ 1 := by
  obtain ⟨_, _, _, once⟩ := oneShotRulesFireOnce twoLines threeCalls
  refine ⟨?_, ?_, once Vocabulary.builtin [bareRow 1, bareRow 2] rfl (bareRow 1, _) List.mem_cons_self rfl⟩
  · rw [twoLines, Vocabulary.compiledInTurn]
    rfl
  · rw [twoLines, Vocabulary.compiledInTurn]
    rfl

end Dispatcher

end Repartee
