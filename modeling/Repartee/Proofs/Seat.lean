import Repartee.Proofs.TableInvariant

/-! Following one rule through its bucket. Two rules of a table may be equal in all they hold, so a rule is
named by where it sits. When a one-shot rule fires it leaves its bucket and the rules behind it move up;
nothing else moves a rule. -/
namespace Repartee

structure Seat where
  concept : String
  who : String
  index : Nat
  deriving DecidableEq

def Firing.seat (f : Firing) : Seat := ⟨f.concept, f.who, f.index⟩

def RuleTable.at? (t : RuleTable) (s : Seat) : Option Rule := (t.bucket s.concept s.who)[s.index]?

namespace Seat
open RuleTable

def after (s : Seat) (f : Firing) : Option Seat :=
  if f.rule.isOneShot = true ∧ (s.concept, s.who) = (f.concept, f.who) then
    if s.index = f.index then none
    else some ⟨s.concept, s.who, if f.index < s.index then s.index - 1 else s.index⟩
  else some s

def follow : Option Seat → List Firing → Option Seat × List Firing
  | none, _ => (none, [])
  | some s, [] => (some s, [])
  | some s, f :: fs =>
    let (last, own) := follow (s.after f) fs
    (last, if f.seat = s then f :: own else own)

theorem sitsOn {t : RuleTable} {f : Firing} (due : Due t f) {s : Seat} {r : Rule} (sits : t.at? s = some r)
    (own : f.seat = s) : f.rule = r := by
  subst own
  exact Option.some.inj (due.stands.symm.trans sits)

theorem leavesSeat {f : Firing} {s : Seat} (own : f.seat = s) (oneShot : f.rule.isOneShot = true) :
    s.after f = none := by
  subst own
  simp [after, Firing.seat, oneShot]

theorem keepsSeat {t : RuleTable} {f : Firing} (due : Due t f) {s : Seat} (own : f.seat = s)
    (repeats : f.rule.isOneShot = false) :
    s.after f = some s ∧ (t.fire f).at? s = some (f.rule.markFired f.time) := by
  subst own
  obtain ⟨below, _⟩ := List.getElem?_eq_some_iff.mp due.stands
  refine ⟨by simp [after, repeats], ?_⟩
  simp only [at?, Firing.seat, bucketFire, settled, repeats, if_true, Bool.false_eq_true, if_false]
  exact List.getElem?_set_self below

theorem otherSeat {t : RuleTable} {f : Firing} {s : Seat} {r : Rule} (sits : t.at? s = some r)
    (other : f.seat ≠ s) : ∃ s', s.after f = some s' ∧ (t.fire f).at? s' = some r := by
  obtain ⟨c, w, i⟩ := s
  simp only [at?] at sits
  by_cases key : (c, w) = (f.concept, f.who)
  · have apart : i ≠ f.index := fun same => other (by cases key; rw [same]; rfl)
    cases oneShot : f.rule.isOneShot with
    | true =>
      refine ⟨⟨c, w, if f.index < i then i - 1 else i⟩, by simp [after, oneShot, key, apart], ?_⟩
      simp only [at?, bucketFire, if_pos key, settled, oneShot, if_true, List.getElem?_eraseIdx]
      rcases Nat.lt_or_gt_of_ne apart with before | behind
      · rw [if_neg (Nat.not_lt_of_gt before), if_pos before]
        exact sits
      · rw [if_pos behind, if_neg (by omega), Nat.sub_add_cancel (by omega)]
        exact sits
    | false =>
      refine ⟨⟨c, w, i⟩, by simp [after, oneShot], ?_⟩
      simp only [at?, bucketFire, if_pos key, settled, oneShot, Bool.false_eq_true, if_false]
      rw [List.getElem?_set_ne (Ne.symm apart)]
      exact sits
  · refine ⟨⟨c, w, i⟩, by simp [after, key], ?_⟩
    simp only [at?, bucketFire, if_neg key]
    exact sits

end Seat

end Repartee
