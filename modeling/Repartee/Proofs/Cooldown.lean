import Mathlib.Data.List.Chain
import Repartee.Proofs.Floats
import Repartee.Proofs.Seat

/-! Rules with a cooldown stay in their bucket and fire again and again, but between one firing and the next
the test on their times holds. A clock may stand still, go back or show what is not a number; nothing is asked
of it. The mark of a rule is the time of its latest firing, whatever fires around it. -/
namespace Repartee

namespace Rule

def refired (r : Rule) (own : List Firing) : Rule := own.foldl (fun r f => r.markFired f.time) r

def marks (r : Rule) (own : List Firing) : List Float := r.lastFired.toList ++ own.map Firing.time

theorem marksCons (r : Rule) (f : Firing) (own : List Firing) :
    r.marks (f :: own) = r.lastFired.toList ++ (r.markFired f.time).marks own := rfl

theorem refiredUnmarked (r : Rule) (own : List Firing) : (r.refired own).unmarked = r.unmarked := by
  induction own generalizing r with
  | nil => rfl
  | cons f rest ih => exact ih (r.markFired f.time)

theorem refiredMark (r : Rule) (own : List Firing) : (r.refired own).lastFired = (r.marks own).getLast? := by
  induction own generalizing r with
  | nil =>
    change r.lastFired = (r.lastFired.toList ++ []).getLast?
    cases r.lastFired <;> rfl
  | cons f rest ih =>
    have some : ((r.markFired f.time).marks rest) ≠ [] := List.cons_ne_nil _ _
    rw [marksCons, List.getLast?_append_of_ne_nil _ some]
    exact ih (r.markFired f.time)

theorem triggeredIffMarked (r : Rule) : r.state = .triggered ↔ r.lastFired.isSome = true := by
  unfold state
  cases r.lastFired <;> simp

theorem refiredTriggered (r : Rule) (own : List Firing) :
    (r.refired own).state = .triggered ↔ own ≠ [] ∨ r.state = .triggered := by
  rw [triggeredIffMarked, triggeredIffMarked, refiredMark, List.getLast?_isSome]
  unfold marks
  cases own <;> cases r.lastFired <;> simp

theorem eligibleAgain {r : Rule} {c last now : Float} (waits : r.cooldown = some c) (marked : r.lastFired = some last)
    (may : r.isEligible now = true) : now - last ≥ c := by
  unfold isEligible at may
  rw [marked, waits] at may
  exact of_decide_eq_true may

end Rule

namespace RuleTable

def Apart (c : Float) (times : List Float) : Prop := times.IsChain (fun earlier later => later - earlier ≥ c)

theorem nothingAfterNaN {c t : Float} {before after : List Float} (apart : Apart c (before ++ t :: after))
    (nan : t.isNaN = true ∨ c.isNaN = true) : after = [] := by
  cases after with
  | nil => rfl
  | cons next rest =>
    have spaced : next - t ≥ c := (List.isChain_append_cons_cons.mp apart).2.1
    rcases nan with time | wait
    · exact absurd spaced (notAtMost (.inr (differenceNotANumber (.inr time))))
    · exact absurd spaced (notAtMost (.inl wait))

theorem pacedFires {t t' : RuleTable} {fs : List Firing} (fires : Fires t fs t') {s : Seat} {r : Rule} {c : Float}
    (sits : t.at? s = some r) (waits : r.cooldown = some c) :
    ∃ s' own, Seat.follow (some s) fs = (some s', own) ∧ t'.at? s' = some (r.refired own) ∧
      (∀ f ∈ own, f.rule.unmarked = r.unmarked) ∧ Apart c (r.marks own) := by
  -- The rule is general, because its own firings change its mark, and so is the seat, which others move.
  induction fires generalizing s r with
  | nil =>
    refine ⟨s, [], rfl, sits, nofun, ?_⟩
    rw [Rule.marks, List.map_nil, List.append_nil]
    cases r.lastFired with
    | none => exact .nil
    | some last => exact .singleton last
  | @cons t f fs t' due rest ih =>
    by_cases own : f.seat = s
    · have same := Seat.sitsOn due sits own
      have repeats : f.rule.isOneShot = false := by
        rw [same, Rule.isOneShot, waits]
        rfl
      obtain ⟨stays, marked⟩ := Seat.keepsSeat due own repeats
      rw [same] at marked
      obtain ⟨s', later, followed, sits', theirs, apart⟩ := ih marked waits
      refine ⟨s', f :: later, ?_, sits', ?_, ?_⟩
      · simp only [Seat.follow, stays, followed, if_pos own]
      · intro g mem
        rcases List.mem_cons.mp mem with rfl | mem
        · rw [same]
        · exact theirs g mem
      · rw [Rule.marksCons]
        cases before : r.lastFired with
        | none => exact apart
        | some last =>
          have may : r.isEligible f.time = true := same ▸ due.eligible
          exact List.isChain_cons_cons.mpr ⟨Rule.eligibleAgain waits before may, apart⟩
    · obtain ⟨s', moved, sits'⟩ := Seat.otherSeat sits own
      obtain ⟨s'', later, followed, rest⟩ := ih sits' waits
      refine ⟨s'', later, ?_, rest⟩
      simp only [Seat.follow, moved, followed, if_neg own]

structure Paced (t' : RuleTable) (r : Rule) (c : Float) (s' : Seat) (r' : Rule) (own : List Firing) : Prop where
  sits : t'.at? s' = some r'
  unaltered : r'.unmarked = r.unmarked
  fired : ∀ f ∈ own, f.rule.unmarked = r.unmarked
  triggered : r'.state = .triggered ↔ own ≠ [] ∨ r.state = .triggered
  timestamp : ∀ f ∈ own.getLast?, r'.lastFired = some f.time
  untouched : own = [] → r' = r
  apart : Apart c (r.marks own)
  last : ∀ before time after, r.marks own = before ++ time :: after →
    time.isNaN = true ∨ c.isNaN = true → after = []

theorem paced {t t' : RuleTable} {fs : List Firing} (fires : Fires t fs t') {s : Seat} {r : Rule} {c : Float}
    (sits : t.at? s = some r) (waits : r.cooldown = some c) :
    ∃ s' r' own, Seat.follow (some s) fs = (some s', own) ∧ Paced t' r c s' r' own := by
  obtain ⟨s', own, followed, sits', theirs, apart⟩ := pacedFires fires sits waits
  refine ⟨s', r.refired own, own, followed, ?_⟩
  exact {
    sits := sits'
    unaltered := r.refiredUnmarked own
    fired := theirs
    triggered := r.refiredTriggered own
    timestamp := fun f last => by
      have mark : (own.map Firing.time).getLast? = some f.time := by rw [List.getLast?_map, last, Option.map_some]
      rw [Rule.refiredMark, Rule.marks, List.getLast?_append, mark, Option.some_or]
    untouched := fun none => by
      rw [none]
      rfl
    apart := apart
    last := fun before time after split nan => nothingAfterNaN (split ▸ apart) nan }

theorem activeBuilt {t : RuleTable} {put : List Rule} (built : Built t put) : t.active.Perm put := by
  induction built with
  | new => exact List.Perm.refl _
  | rules put => exact activeOfRules put
  | rows v rows => exact activeOfRules _
  | insert _ r ih => exact (activeInsert _ r).trans (ih.append_right [r])

end RuleTable

namespace Dispatcher
open RuleTable

theorem bystanderKept (d : Dispatcher) (call : Call) {s : Seat} {r : Rule} (sits : d.table.at? s = some r)
    (other : ∀ f ∈ d.firing? call, f.seat ≠ s) :
    ∃ s', (d.firing? call).elim (some s) s.after = some s' ∧ (d.step call).2.table.at? s' = some r := by
  rw [stepTable]
  cases fired : d.firing? call with
  | none => exact ⟨s, rfl, sits⟩
  | some f => exact Seat.otherSeat sits (other f fired)

theorem cooldownsSpaced (d : Dispatcher) (calls : List Call) :
    (∀ s r c, d.table.at? s = some r → r.cooldown = some c → ∃ s' r' own,
      Seat.follow (some s) (d.firings calls) = (some s', own) ∧ Paced (d.after calls).table r c s' r' own) ∧
    (d.responses calls).map (fun r => (r.ruleId, r.text)) =
      (d.firings calls).map (fun f => (f.rule.id, f.rule.response)) ∧
    (∀ call s r, (d.after calls).table.at? s = some r → (∀ f ∈ (d.after calls).firing? call, f.seat ≠ s) →
      ∃ s', ((d.after calls).firing? call).elim (some s) s.after = some s' ∧
        ((d.after calls).step call).2.table.at? s' = some r) ∧
    ∀ put, Built d.table put → d.table.active.Perm put :=
  ⟨fun _ _ _ sits waits => paced (sessionFires d calls) sits waits, sessionResponses d calls,
    fun call _ _ sits other => bystanderKept (d.after calls) call sits other, fun _ built => activeBuilt built⟩

def hurt (id : Int64) (cooldown : Float) : Rule :=
  { id, concept := "Hurt", who := "Guard", response := "Ow!", cooldown := some cooldown }

def sore : Dispatcher where
  table := RuleTable.ofRules [hurt 1 5.0]

def blows : List Call := [10.0, 12.0, 16.0].map (fun now => .dispatchAt now { concept := "Hurt", who := "Guard" } {})

theorem cooldownsSpacedOfThreeBlows :
    (sore.responses blows).map (·.ruleId) = [1, 1] ∧
    ∃ s' r' own, Seat.follow (some ⟨"Hurt", "Guard", 0⟩) (sore.firings blows) = (some s', own) ∧
      own.map Firing.time = [10.0, 16.0] ∧ Paced (sore.after blows).table (hurt 1 5.0) 5.0 s' r' own := by
  have inTurn : sore = { table := RuleTable.empty.insert (hurt 1 5.0) } := by
    rw [sore, RuleTable.builtInTurn]
    rfl
  have sits : sore.table.at? ⟨"Hurt", "Guard", 0⟩ = some (hurt 1 5.0) := by
    rw [inTurn]
    rfl
  have times : (Seat.follow (some ⟨"Hurt", "Guard", 0⟩) (sore.firings blows)).2.map Firing.time = [10.0, 16.0] := by
    rw [inTurn]
    rfl
  obtain ⟨s', r', own, followed, paced⟩ := (cooldownsSpaced sore blows).1 ⟨"Hurt", "Guard", 0⟩ (hurt 1 5.0) 5.0 sits rfl
  rw [followed] at times
  refine ⟨?_, s', r', own, followed, times, paced⟩
  rw [inTurn]
  rfl

end Dispatcher

end Repartee
