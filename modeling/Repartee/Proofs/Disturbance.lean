import Repartee.Proofs.Aliasing

/-! When one read disturbs another. A read writes only where it finds nothing that it can take in, and then it writes a
zero. A later read of another cell does not notice. A later read of the same cell shows what it would have shown before,
or else the zero of its kind, and the zero exactly when the cell held a value of this kind that the first read could not
take in. -/
namespace Repartee

def Kind.SameBits : (k : Kind) → k.Carrier → k.Carrier → Prop
  | .bool, x, y => x = y
  | .int, x, y => x = y
  | .float, x, y => x.toBits = y.toBits
  | .text, x, y => x = y
  | .entity, x, y => x = y
  | .color, x, y => x = y

theorem Kind.sameBitsIff {k : Kind} {x y : k.Carrier} : k.SameBits x y ↔ x = y := by
  cases k with
  | float => exact Float.toBits_inj
  | bool | int | text | entity | color => exact Iff.rfl

inductive Glance where
  | kind (k : Kind)
  | number

namespace Glance

def access : Glance → Access
  | .kind k => .get k
  | .number => .getNumber

def Misses : Glance → Kind → Prop
  | .kind k, k' => k' ≠ k
  | .number, k' => k' = .entity ∨ k' = .color

def zero : Glance → Value
  | .kind k => .ofCarrier k k.zero
  | .number => .float 0.0

def after (g : Glance) (q : Query) (key : String) (source : Source) (st : Stores) : Stores :=
  (g.access.run q key source st).2

theorem numberNone {v : Value} : v.number? = none ↔ Misses .number v.kind := by
  cases v <;> simp [Value.number?, Misses, Value.kind]

theorem zeroShown (g : Glance) (k : Kind) : (g.zero.as? k).getD k.zero = k.zero := by
  cases g with
  | kind k' =>
    by_cases same : k' = k
    · subst same
      rw [zero, Value.asOfCarrier]
      rfl
    · have miss : (Value.ofCarrier k' k'.zero).as? k = none := Value.asNoneIff.mpr (by simpa using same)
      rw [zero, miss]
      rfl
  | number => cases k <;> rfl

variable {g : Glance} {q : Query} {key : String} {source : Source} {st : Stores}

theorem afterTaken {v : Value} (found : st.cell q.toOccasion (q.place source) key = some v)
    (takes : ¬ g.Misses v.kind) : g.after q key source st = st := by
  unfold Stores.cell at found
  cases g with
  | kind k =>
    obtain ⟨x, as⟩ := Option.ne_none_iff_exists'.mp fun miss => takes (Value.asNoneIff.mp miss)
    have read : (st.contents q.toOccasion (q.place source)).read? k key = some x := by rw [Store.read?, found]; exact as
    simp only [after, access, Access.run, Query.getFound read]
  | number =>
    obtain ⟨x, as⟩ := Option.ne_none_iff_exists'.mp fun miss => takes (numberNone.mp miss)
    have read : (st.contents q.toOccasion (q.place source)).number? key = some x := by
      rw [Store.number?, found]
      exact as
    simp only [after, access, Access.run, Query.getNumberFound read]

theorem afterMissed (missed : ∀ v, st.cell q.toOccasion (q.place source) key = some v → g.Misses v.kind) :
    g.after q key source st = st.write (q.place source) key g.zero := by
  unfold Stores.cell at missed
  cases g with
  | kind k =>
    have read : (st.contents q.toOccasion (q.place source)).read? k key = none :=
      Option.bind_eq_none_iff.mpr fun v found => Value.asNoneIff.mpr (missed v found)
    simp only [after, access, Access.run, Query.getMissed read, Stores.writeOpenAt, zero]
  | number =>
    have read : (st.contents q.toOccasion (q.place source)).number? key = none :=
      Option.bind_eq_none_iff.mpr fun v found => numberNone.mpr (missed v found)
    simp only [after, access, Access.run, Query.getNumberMissed read, Stores.writeOpenAt, zero]

theorem afterClosed (closed : (q.place source).writable = false) : g.after q key source st = st := by
  by_cases taken : ∃ v, st.cell q.toOccasion (q.place source) key = some v ∧ ¬ g.Misses v.kind
  · obtain ⟨v, found, takes⟩ := taken
    exact afterTaken found takes
  · simp only [not_exists, not_and, not_not] at taken
    rw [afterMissed taken, Stores.writeClosed st key g.zero closed]

theorem shownAfterMiss (open_ : (q.place source).writable = true)
    (missed : ∀ v, st.cell q.toOccasion (q.place source) key = some v → g.Misses v.kind) (look : Look) :
    look.shown q.toOccasion (g.after q key source st) =
      if look.place = q.place source ∧ look.key = key then look.kind.zero else look.shown q.toOccasion st := by
  have cell := st.writtenCell q.toOccasion open_ look.place key look.key g.zero
  unfold Stores.cell at cell
  rw [afterMissed missed, Look.shown, Store.read?, cell]
  split
  · exact g.zeroShown look.kind
  · rfl

theorem shownOfCell {look : Look} {x : look.kind.Carrier}
    (found : st.cell q.toOccasion look.place look.key = some (.ofCarrier look.kind x)) : look.shown q.toOccasion st = x := by
  unfold Stores.cell at found
  rw [Look.shown, Store.read?, found, Option.bind_some, Value.asOfCarrier, Option.getD_some]

theorem disturbs (look : Look) : look.shown q.toOccasion (g.after q key source st) ≠ look.shown q.toOccasion st ↔
    look.place = q.place source ∧ look.key = key ∧ (q.place source).writable = true ∧ g.Misses look.kind ∧
      ∃ x, st.cell q.toOccasion look.place look.key = some (.ofCarrier look.kind x) ∧ x ≠ look.kind.zero := by
  constructor
  · intro changed
    by_cases taken : ∃ v, st.cell q.toOccasion (q.place source) key = some v ∧ ¬ g.Misses v.kind
    · obtain ⟨v, found, takes⟩ := taken
      rw [afterTaken found takes] at changed
      contradiction
    · simp only [not_exists, not_and, not_not] at taken
      cases open_ : (q.place source).writable with
      | false =>
        rw [afterClosed open_] at changed
        contradiction
      | true =>
        rw [shownAfterMiss open_ taken] at changed
        split at changed
        · rename_i here
          have held := Look.heldFound changed.symm
          refine ⟨here.1, here.2, rfl, ?_, _, held, changed.symm⟩
          rw [here.1, here.2] at held
          simpa using taken _ held
        · contradiction
  · rintro ⟨samePlace, sameKey, open_, misses, x, found, nonzero⟩
    have missed : ∀ v, st.cell q.toOccasion (q.place source) key = some v → g.Misses v.kind := by
      intro v held
      rw [← samePlace, ← sameKey, found] at held
      obtain rfl := Option.some.inj held
      rwa [Value.kindOfCarrier]
    rw [shownAfterMiss open_ missed, if_pos ⟨samePlace, sameKey⟩, shownOfCell found]
    exact nonzero.symm

end Glance

namespace Query
variable {q : Query} {k : Kind} {key : String} {source source' : Source} {st : Stores}

theorem getAgain (same : q.place source = q.place source') (open_ : (q.place source).writable = true) :
    q.get k key source' (q.get k key source st).2 = (((q.get k key source st).1.1, true), (q.get k key source st).2) := by
  have cell : (q.get k key source st).2.cell q.toOccasion (q.place source) key = _ := getCell open_ (q.place source) key
  rw [if_pos ⟨rfl, rfl⟩] at cell
  have read : ((q.get k key source st).2.contents q.toOccasion (q.place source')).read? k key =
      some (q.get k key source st).1.1 := by
    unfold Stores.cell at cell
    rw [Store.read?, ← same, cell, getShown]
    exact Value.asOfCarrier k _
  exact getFound read

/- What a later read at a kind returns after a first look, against what it returns without. -/
def DisturbedBy (q : Query) (st : Stores) (g : Glance) (key : String) (source : Source) (k : Kind) (key' : String)
    (source' : Source) : Prop :=
  ¬ k.SameBits (q.get k key' source' (g.after q key source st)).1.1 (q.get k key' source' st).1.1

theorem disturbedIff {g : Glance} {key' : String} : q.DisturbedBy st g key source k key' source' ↔
    q.place source' = q.place source ∧ key' = key ∧ (q.place source).writable = true ∧ g.Misses k ∧
      ∃ x, st.cell q.toOccasion (q.place source') key' = some (.ofCarrier k x) ∧ x ≠ k.zero := by
  unfold DisturbedBy
  rw [Kind.sameBitsIff, getShown, getShown]
  exact Glance.disturbs (q.look k key' source')

theorem readsDisturbExactly (q : Query) (st : Stores) :
    (∀ g key source k key' source', q.DisturbedBy st g key source k key' source' ↔
      ∃ p, q.Leads source p ∧ q.Leads source' p ∧ p.writable = true ∧ key = key' ∧
        ∃ x, st.cell q.toOccasion p key = some (.ofCarrier k x) ∧ ¬ k.SameBits x k.zero ∧ g.Misses k) ∧
    (∀ k key source source' p, q.Leads source p → q.Leads source' p → p.writable = true →
      q.get k key source' (q.get k key source st).2 =
        (((q.get k key source st).1.1, true), (q.get k key source st).2)) ∧
    ∀ (g : Glance) key source, q.Leads source .event ∨ q.Leads source .character ∨ q.Leads source .nowhere →
      g.after q key source st = st := by
  refine ⟨fun g key source k key' source' => ?_, fun k key source source' p leads leads' open_ => ?_,
    fun g key source closed => ?_⟩
  · simp only [disturbedIff, Kind.sameBitsIff]
    constructor
    · rintro ⟨here, rfl, open_, misses, x, found, nonzero⟩
      exact ⟨_, q.leadsToPlace source, Occasion.leadsIff.mpr here, open_, rfl, x, here ▸ found, nonzero, misses⟩
    · rintro ⟨p, leads, leads', open_, rfl, x, found, nonzero, misses⟩
      obtain rfl := Occasion.placeOfLeads leads
      have here := Occasion.placeOfLeads leads'
      exact ⟨here, rfl, open_, misses, x, here.symm ▸ found, nonzero⟩
  · obtain rfl := Occasion.placeOfLeads leads
    exact getAgain (Occasion.placeOfLeads leads').symm open_
  · refine Glance.afterClosed ?_
    rcases closed with leads | leads | leads
    all_goals rw [Occasion.placeOfLeads leads]; rfl

def grudge : Stores := { memory := Assoc.empty.insert "Mood" (.float (-0.0)) }

example : ({ now := 0.0 : Query }.get .float "Mood" .memory grudge).1 = (-0.0, true) ∧
    ({ now := 0.0 : Query }.get .float "Mood" .memory
      (Glance.after (.kind .int) { now := 0.0 } "Mood" .memory grudge)).1 = (0.0, false) := ⟨rfl, rfl⟩

end Query
end Repartee
