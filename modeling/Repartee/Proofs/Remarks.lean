import Repartee.Proofs.Cells
import Repartee.Proofs.Custody
import Repartee.Proofs.OneShot
import Repartee.Proofs.Trials

/-! Remarks about what is in sight. Rules for one occasion ask of the event whether its target was remarked upon and
note on the target that it was. When the events tell what the targets remember, a target that was remarked upon once
is not remarked upon again: nothing but the note is ever written where it stands, whichever rules fire for whatever
else, and whoever keeps the target's memory while they do. -/
namespace Repartee
open Vocabulary (targetSeenKey targetNotSeen markTargetSeen)

def Store.seen (s : Store) : Bool := (s.read? .bool targetSeenKey).getD false

theorem Store.seenIff {s : Store} : s.seen = true ↔ s.get? targetSeenKey = some (.bool true) := by
  unfold seen read?
  cases s.get? targetSeenKey with
  | none => simp
  | some v => cases v <;> simp [Value.as?]

structure Rule.Remarks (r : Rule) : Prop where
  asks : targetNotSeen ∈ r.criteria
  notes : markTargetSeen ∈ r.effects

structure Rule.SparesNotes (r : Rule) : Prop where
  authored : r.Authored
  reads : ∀ x ∈ r.criteria, x.named? ≠ some (.memory, targetSeenKey) ∧ x.named? ≠ some (.target, targetSeenKey)
  writes : ∀ e ∈ r.effects, e.named? = some (.memory, targetSeenKey) ∨ e.named? = some (.target, targetSeenKey) →
    e = markTargetSeen

theorem Rule.remarksUnmarked {r r' : Rule} (same : r'.unmarked = r.unmarked) (remarks : r'.Remarks) : r.Remarks := by
  obtain ⟨criteria, effects⟩ := Rule.linesUnmarked same
  exact ⟨criteria ▸ remarks.asks, effects ▸ remarks.notes⟩

theorem Rule.sparesNotesUnmarked {r r' : Rule} (same : r'.unmarked = r.unmarked) (spares : r'.SparesNotes) :
    r.SparesNotes := by
  obtain ⟨criteria, effects⟩ := Rule.linesUnmarked same
  exact ⟨Rule.authoredUnmarked same spares.authored, criteria ▸ spares.reads, effects ▸ spares.writes⟩

def Place.Noted (p : Place) : Prop := p = .memory ∨ ∃ id, p = .entity id

theorem Occasion.notedSource {o : Occasion} {source : Source} (noted : (o.place source).Noted) :
    source = .memory ∨ source = .target := by
  cases source with
  | memory => exact .inl rfl
  | target => exact .inr rfl
  | event | character | world => simp [place, Place.Noted] at noted

theorem Rule.SparesNotes.writesNote {r : Rule} (spares : r.SparesNotes) {q : Query} {p : Place} {v : Value}
    (noted : p.Noted) {e : Effect} (applied : e ∈ r.effects) (writes : e.Writes q p targetSeenKey v) : v = .bool true := by
  obtain ⟨source, key, named⟩ := (spares.authored.effects e applied).named
  obtain ⟨rfl, rfl⟩ := Effect.writesNamed named writes
  have mark : e = markTargetSeen := by
    rcases Occasion.notedSource noted with rfl | rfl
    · exact spares.writes e applied (.inl named)
    · exact spares.writes e applied (.inr named)
  rw [mark] at writes
  exact writes.2.2

theorem Rule.SparesNotes.probesNoNote {r : Rule} (spares : r.SparesNotes) {q : Query} {p : Place} {v : Value}
    (noted : p.Noted) {x : Criterion} (checked : x ∈ r.criteria) : ¬ x.Writes q p targetSeenKey v := by
  intro writes
  obtain ⟨source, key, named⟩ := (spares.authored.criteria x checked).named
  obtain ⟨rfl, rfl⟩ := Criterion.writesNamed named writes
  rcases Occasion.notedSource noted with rfl | rfl
  · exact (spares.reads x checked).1 named
  · exact (spares.reads x checked).2 named

namespace Dispatcher

theorem writesNote {d : Dispatcher} {q : Query} (spared : ∀ r ∈ d.table.bucket q.concept q.who, r.SparesNotes) {p : Place}
    (noted : p.Noted) (v : Value) (writes : d.Writes q p targetSeenKey v) : v = .bool true := by
  cases writes with
  | probe probes =>
    cases probes with
    | time => simp [Place.Noted] at noted
    | criterion stands checked writes => exact absurd writes ((spared _ stands).probesNoNote noted checked)
  | effect stands applied writes => exact (spared _ stands).writesNote noted applied writes

end Dispatcher

theorem unseenWhenChecked {q : Query} {st : Stores} (passed : (targetNotSeen.check q st).1 = true) :
    q.event.seen = false := by
  have answer : (targetNotSeen.check q st).1 = (q.event.seen == false) := by
    have shown := q.getShown .bool targetSeenKey .event st
    exact congrArg (· == false) shown
  simpa [answer] using passed

theorem notedAfter {q : Query} {id : EntityId} (leads : q.place .target = .entity id) {effects : List Effect}
    (mark : markTargetSeen ∈ effects)
    (only : ∀ e ∈ effects, ∀ v, e.Writes q (.entity id) targetSeenKey v → v = .bool true) (st : Stores) :
    (applyAll q effects st).cell q.toOccasion (.entity id) targetSeenKey = some (.bool true) := by
  obtain ⟨before, after, rfl⟩ := List.append_of_mem mark
  have written : (markTargetSeen.apply q (applyAll q before st)).2.cell q.toOccasion (.entity id) targetSeenKey =
      some (.bool true) := by
    have open_ : (q.place .target).writable = true := by rw [leads]; rfl
    have set : markTargetSeen.apply q (applyAll q before st) = _ := Query.setOpen open_
    rw [set, Stores.writtenCell _ _ open_, if_pos ⟨leads.symm, rfl⟩]
  have both := cellAlone q (fun p key v => ∃ e ∈ after, e.Writes q p key v) (.entity id) targetSeenKey
    (· = some (.bool true)) fun v ⟨e, applied, writes⟩ =>
      congrArg some (only e (List.mem_append_right _ (List.mem_cons_of_mem _ applied)) v writes)
  rw [appliedAppend]
  exact (both.applyAll (fun e applied p key v writes => ⟨e, applied, writes⟩) ⟨rfl, written⟩).2

def Call.occasion? : Call → Option Occasion
  | .dispatchAt _ o _ | .dispatch o _ => some o
  | .dispatchEntity speaker o => some (o.askedBy speaker)
  | .editWorld _ | .editMemories _ | .setClock _ | .setDraws _ | .addSink => none

theorem Occasion.targetPlace {o : Occasion} {id : EntityId} (named : o.target = some id) (apart : o.speaker ≠ some id) :
    o.place .target = .entity id := by
  simp only [place, named, if_neg apart]

namespace Dispatcher
variable {c w : String} {d : Dispatcher}

structure Remarking (c w : String) (d : Dispatcher) : Prop where
  remarks : ∀ r ∈ d.table.bucket c w, r.Remarks
  spares : ∀ c' w', ∀ r ∈ d.table.bucket c' w', r.SparesNotes

theorem Remarking.step (remarking : d.Remarking c w) (call : Call) : (d.step call).2.Remarking c w where
  remarks r stands := by
    obtain ⟨r', stood, same⟩ := stepStanding stands
    exact Rule.remarksUnmarked same (remarking.remarks r' stood)
  spares c' w' r stands := by
    obtain ⟨r', stood, same⟩ := stepStanding stands
    exact Rule.sparesNotesUnmarked same (remarking.spares c' w' r' stood)

/- The host tells in the event what the target remembers, and does not itself touch what anyone remembers of it. -/
structure Candid (c w : String) (d : Dispatcher) (call : Call) : Prop where
  tells : ∀ o ∈ call.occasion?, (o.concept, o.who) = (c, w) →
    ∃ id, o.target = some id ∧ o.speaker ≠ some id ∧ o.event.seen = (d.memories.storeOf id).seen
  spares : ∀ memories, call = .editMemories memories →
    ∀ id, (memories.storeOf id).get? targetSeenKey = (d.memories.storeOf id).get? targetSeenKey

def remark? (c w : String) (d : Dispatcher) (call : Call) : Option EntityId :=
  if (d.step call).1.isSome then (call.occasion?.filter fun o => (o.concept, o.who) = (c, w)).bind Occasion.target
  else none

def remarks (c w : String) (d : Dispatcher) : List Call → List EntityId
  | [] => []
  | call :: rest => (d.remark? c w call).toList ++ (d.step call).2.remarks c w rest

theorem noteKept {now : Float} {o : Occasion} {memory : Store}
    (spared : ∀ r ∈ d.table.bucket o.concept o.who, r.SparesNotes) {p : Place} (noted : p.Noted)
    (held : (d.stores memory).cell o p targetSeenKey = some (.bool true)) :
    ((d.dispatchAt now o memory).2.1.stores (d.dispatchAt now o memory).2.2).cell o p targetSeenKey = some (.bool true) :=
  dispatchedCell (· = some (.bool true)) (fun v writes => congrArg some (writesNote spared noted v writes)) held

theorem remarkNoted {now : Float} {o : Occasion} {memory : Store} {id : EntityId}
    (remarking : d.Remarking o.concept o.who) (leads : o.place .target = .entity id)
    (answered : (d.dispatchAt now o memory).1.isSome = true) :
    o.event.seen = false ∧ ((d.dispatchAt now o memory).2.1.memories.storeOf id).seen = true := by
  cases chosen : (d.tried now o memory).1 with
  | none =>
    rw [missedDispatch chosen] at answered
    contradiction
  | some p =>
    obtain ⟨i, r⟩ := p
    have stands := foundStands chosen
    obtain ⟨asks, notes⟩ := remarking.remarks r stands
    have held := (foundHeld memory (P := fun _ => True) (fun _ _ _ _ _ _ => trivial) trivial).2 i r chosen
    obtain ⟨st, _, passed⟩ := held targetNotSeen asks
    have only : ∀ e ∈ r.effects, ∀ v, e.Writes { o with now := now } (.entity id) targetSeenKey v → v = .bool true :=
      fun e applied v writes => (remarking.spares _ _ r stands).writesNote (.inr ⟨id, rfl⟩) applied writes
    obtain ⟨_, _, _, stores⟩ := foundDispatch chosen
    have written := notedAfter (q := { o with now := now }) leads notes only (d.tried now o memory).2.1
    rw [← stores] at written
    exact ⟨unseenWhenChecked passed, Store.seenIff.mpr written⟩

theorem storeOfInsert (m : Memories) {id speaker : EntityId} (memory : Store) (other : id ≠ speaker) :
    Memories.storeOf (Assoc.insert m speaker memory) id = m.storeOf id :=
  Memories.storeOfEntry (Assoc.getInsertOther m memory other)

theorem storeOfWithout (d : Dispatcher) {id speaker : EntityId} (other : id ≠ speaker) :
    (d.without speaker).memories.storeOf id = d.memories.storeOf id :=
  Memories.storeOfEntry ((Assoc.getErase d.memories speaker id).trans (if_neg other))

theorem seenKept {call : Call} (remarking : d.Remarking c w) (candid : d.Candid c w call)
    {id : EntityId} (seen : (d.memories.storeOf id).seen = true) : ((d.step call).2.memories.storeOf id).seen = true := by
  have held := Store.seenIff.mp seen
  refine Store.seenIff.mpr ?_
  cases call with
  | dispatchAt now o memory => exact noteKept (remarking.spares _ _) (p := .entity id) (.inr ⟨id, rfl⟩) held
  | dispatch o memory => exact noteKept (remarking.spares _ _) (p := .entity id) (.inr ⟨id, rfl⟩) held
  | dispatchEntity speaker o =>
    simp only [step, entityDispatch, putBack]
    by_cases own : id = speaker
    · subst own
      rw [Memories.storeOf, Assoc.getInsertSelf]
      exact noteKept (d := d.without id) (o := o.askedBy id) (remarking.spares _ _) (p := .memory) (.inl rfl) held
    · rw [storeOfInsert _ _ own]
      rw [← storeOfWithout d own] at held
      exact noteKept (d := d.without speaker) (o := o.askedBy speaker) (remarking.spares _ _) (p := .entity id)
        (.inr ⟨id, rfl⟩) held
  | editMemories memories => exact (candid.spares memories rfl id).trans held
  | editWorld | setClock | setDraws | addSink => exact held

theorem remarkSeen {call : Call} (remarking : d.Remarking c w) (candid : d.Candid c w call) {id : EntityId}
    (remark : d.remark? c w call = some id) :
    (d.memories.storeOf id).seen = false ∧ ((d.step call).2.memories.storeOf id).seen = true := by
  unfold remark? at remark
  split at remark
  · rename_i answered
    obtain ⟨o, kept, named⟩ := Option.bind_eq_some_iff.mp remark
    obtain ⟨asked, matches_⟩ := Option.filter_eq_some_iff.mp kept
    have key : (o.concept, o.who) = (c, w) := of_decide_eq_true matches_
    obtain ⟨id', named', apart, told⟩ := candid.tells o asked key
    obtain rfl : id = id' := Option.some.inj (named.symm.trans named')
    have leads := Occasion.targetPlace named apart
    obtain ⟨rfl, rfl⟩ := Prod.mk.inj key
    rw [← told]
    cases call with
    | dispatchAt now o memory =>
      cases asked
      exact remarkNoted remarking leads answered
    | dispatch o memory =>
      cases asked
      exact remarkNoted remarking leads answered
    | dispatchEntity speaker o =>
      cases asked
      have other : id ≠ speaker := fun same => apart (congrArg some same.symm)
      have noted := remarkNoted (d := d.without speaker) ⟨remarking.remarks, remarking.spares⟩ leads answered
      simp only [step, entityDispatch, putBack, storeOfInsert _ _ other]
      exact noted
    | editWorld | editMemories | setClock | setDraws | addSink => contradiction
  · contradiction

theorem remarksFresh (remarking : d.Remarking c w) {calls : List Call} (candid : d.Throughout (Candid c w) calls) :
    (d.remarks c w calls).Nodup ∧ ∀ id ∈ d.remarks c w calls, (d.memories.storeOf id).seen = false := by
  induction calls generalizing d with
  | nil => exact ⟨List.nodup_nil, nofun⟩
  | cons call rest ih =>
    obtain ⟨distinct, unseen⟩ := ih (remarking.step call) candid.2
    have before : ∀ id ∈ (d.step call).2.remarks c w rest, (d.memories.storeOf id).seen = false := fun id mem => by
      cases seen : (d.memories.storeOf id).seen with
      | false => rfl
      | true =>
        have still := seenKept remarking candid.1 seen
        rw [unseen id mem] at still
        contradiction
    simp only [remarks]
    cases remark : d.remark? c w call with
    | none => exact ⟨distinct, before⟩
    | some id =>
      obtain ⟨fresh, noted⟩ := remarkSeen remarking candid.1 remark
      refine ⟨List.nodup_cons.mpr ⟨fun again => ?_, distinct⟩, fun other mem => ?_⟩
      · rw [unseen id again] at noted
        contradiction
      · rcases List.mem_cons.mp mem with rfl | mem
        · exact fresh
        · exact before other mem

theorem targetsRemarkedOnce (remarking : d.Remarking c w) {calls : List Call}
    (candid : d.Throughout (Candid c w) calls) : (d.remarks c w calls).Nodup :=
  (remarksFresh remarking candid).1

def barrelSeen (id : EntityId) (known : Bool) : Occasion where
  concept := "SeeObject"
  who := "Player"
  event := (Assoc.empty.insert targetKey (.entity id)).insert targetSeenKey (.bool known)

theorem barrelCandid {d : Dispatcher} {id : EntityId} {known : Bool} {now : Float} {memory : Store}
    (real : id.isNil = false) (told : known = (d.memories.storeOf id).seen) :
    d.Candid "SeeObject" "Player" (.dispatchAt now (barrelSeen id known) memory) where
  tells o occasion _ := by
    obtain rfl := Option.some.inj occasion
    have target : (barrelSeen id known).target = (some id).filter fun id => !id.isNil := rfl
    refine ⟨id, ?_, nofun, told⟩
    simp [target, real]
  spares := nofun

def fourSights : List Call :=
  [.dispatchAt 5.0 (barrelSeen ⟨3⟩ false) {}, .dispatchEntity ⟨3⟩ {}, .dispatchAt 20.0 (barrelSeen ⟨3⟩ true) {},
    .dispatchAt 40.0 (barrelSeen ⟨4⟩ false) {}]

theorem observerRemarks : observer.Remarking "SeeObject" "Player" where
  remarks r stands := by
    have put : r ∈ (Vocabulary.builtin.rulesOfRows [] [sighting]).1 := RuleTable.standsOfRules stands
    obtain rfl := List.mem_singleton.mp put
    exact ⟨List.mem_cons_self, List.mem_cons_self⟩
  spares c w r stands := by
    have put : r ∈ (Vocabulary.builtin.rulesOfRows [] [sighting]).1 := RuleTable.standsOfRules stands
    have authored := Vocabulary.compiledAuthored [sighting] r put
    obtain rfl := List.mem_singleton.mp put
    refine ⟨authored, fun x checked => ?_, fun e applied named => ?_⟩
    · rcases List.mem_pair.mp checked with rfl | rfl <;> decide
    · rcases List.mem_pair.mp applied with rfl | rfl
      · rfl
      · exact absurd named (by decide)

theorem targetsRemarkedOnceInFourSights :
    observer.Remarking "SeeObject" "Player" ∧ observer.Throughout (Candid "SeeObject" "Player") fourSights ∧
    (observer.remarks "SeeObject" "Player" fourSights).Nodup ∧
    observer.remarks "SeeObject" "Player" fourSights = [⟨3⟩, ⟨4⟩] := by
  have table := Vocabulary.builtin.compiledInTurn [sighting]
  have candid : observer.Throughout (Candid "SeeObject" "Player") fourSights := by
    refine ⟨barrelCandid rfl rfl, ⟨?_, nofun⟩, barrelCandid rfl ?_, barrelCandid rfl ?_, trivial⟩
    · rintro o ⟨⟩ key
      exact absurd key (by decide)
    · rw [observer, table]
      rfl
    · rw [observer, table]
      rfl
  refine ⟨observerRemarks, candid, targetsRemarkedOnce observerRemarks candid, ?_⟩
  rw [observer, table]
  rfl

end Dispatcher

end Repartee
