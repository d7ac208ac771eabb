import Repartee.Proofs.Footprint

/-! What a read or a write leaves behind. A write is found in its cell, and a read leaves in its cell the value that
it showed; every other cell is as it was. What cannot be written shows what it did before, and a source that can be
written fails to take a value only when it is the target and the event names none. -/
namespace Repartee

def Occasion.NamesTarget (o : Occasion) : Prop :=
  ∃ id, o.event.get? targetKey = some (.entity id) ∧ id.isNil = false

theorem Occasion.targetNamed {o : Occasion} {id : EntityId} :
    o.target = some id ↔ o.event.get? targetKey = some (.entity id) ∧ id.isNil = false := by
  rw [target, Option.filter_eq_some_iff]
  constructor
  · rintro ⟨read, named⟩
    exact ⟨Store.readFound read, by simpa using named⟩
  · rintro ⟨found, named⟩
    refine ⟨?_, by simp [named]⟩
    rw [Store.read?, found]
    rfl

theorem Occasion.namesTarget {o : Occasion} : o.NamesTarget ↔ ∃ id, o.target = some id :=
  exists_congr fun _ => targetNamed.symm

theorem Occasion.closed {o : Occasion} {source : Source} (allowed : source.isReadOnly = false) :
    (o.place source).writable = false ↔ source = .target ∧ ¬ o.NamesTarget := by
  rw [namesTarget]
  cases source with
  | event | character => contradiction
  | memory | world => simp [place, Place.writable]
  | target =>
    unfold place
    cases o.target with
    | none => simp [Place.writable]
    | some id => by_cases self : o.speaker = some id <;> simp [self, Place.writable]

theorem Occasion.closedNowhere {o : Occasion} {source : Source} (allowed : source.isReadOnly = false)
    (closed : (o.place source).writable = false) : o.place source = .nowhere := by
  obtain ⟨rfl, unnamed⟩ := (Occasion.closed allowed).mp closed
  rw [namesTarget, ← Option.ne_none_iff_exists', not_not] at unnamed
  rw [place, unnamed]

namespace Query
variable {q : Query} {k : Kind} {key : String} {source : Source} {st : Stores}

theorem getCell (open_ : (q.place source).writable = true) (p : Place) (key' : String) :
    (q.get k key source st).2.cell q.toOccasion p key' =
      if p = q.place source ∧ key' = key then some (.ofCarrier k ((q.look k key source).shown q.toOccasion st))
      else st.cell q.toOccasion p key' := by
  cases read : (st.contents q.toOccasion (q.place source)).read? k key with
  | some x =>
    rw [getFound read]
    simp only [Look.shown, look, read, Option.getD_some]
    split
    · rename_i here
      obtain ⟨rfl, rfl⟩ := here
      exact Store.readFound read
    · rfl
  | none =>
    rw [getMissed read, Stores.writtenCell _ _ open_, Stores.cellOpened]
    simp only [Look.shown, look, read, Option.getD_none]

theorem getClosed (closed : (q.place source).writable = false) : (q.get k key source st).2 = st := by
  cases read : (st.contents q.toOccasion (q.place source)).read? k key with
  | some x => rw [getFound read]
  | none =>
    rw [getMissed read, Stores.writeClosed _ key _ closed]
    cases here : q.place source with
    | entity id =>
      rw [here] at closed
      contradiction
    | _ => rfl

theorem closedShown (allowed : source.isReadOnly = false) (closed : (q.place source).writable = false) :
    (q.look k key source).shown q.toOccasion st = k.zero := by
  have nothing : (st.contents q.toOccasion (q.place source)).read? k key = none := by
    rw [Occasion.closedNowhere allowed closed]
    rfl
  simp only [Look.shown, look, nothing, Option.getD_none]

theorem getHeld (held : (q.look k key source).shown q.toOccasion st ≠ k.zero) : (q.get k key source st).2 = st := by
  cases read : (st.contents q.toOccasion (q.place source)).read? k key with
  | some x => rw [getFound read]
  | none =>
    simp only [Look.shown, look, read, Option.getD_none] at held
    contradiction

structure Left (q : Query) (st : Stores) (key : String) (source : Source) (v : Value)
    (outcome : Except StateError Unit × Stores) : Prop where
  closed : (q.place source).writable = false → outcome = (.error (.noTarget key), st)
  opened : (q.place source).writable = true → outcome.1 = .ok () ∧ ∀ p key',
    outcome.2.cell q.toOccasion p key' = if p = q.place source ∧ key' = key then some v else st.cell q.toOccasion p key'

theorem setClosed {v : Value} (allowed : source.isReadOnly = false) (closed : (q.place source).writable = false) :
    q.set key v source st = (.error (.noTarget key), st) := by
  rw [set, Occasion.closedNowhere allowed closed]

theorem setLeft (allowed : source.isReadOnly = false) (v : Value) : q.Left st key source v (q.set key v source st) where
  closed := setClosed allowed
  opened := fun open_ => by
    rw [setOpen open_]
    exact ⟨rfl, fun p key' => st.writtenCell q.toOccasion open_ p key key' v⟩

theorem setReadLeft (allowed : source.isReadOnly = false) (v : Value) :
    q.Left st key source v (q.set key v source (q.get k key source st).2) where
  closed := fun closed => by rw [getClosed closed, setClosed allowed closed]
  opened := fun open_ => by
    rw [setOpen open_]
    refine ⟨rfl, fun p key' => ?_⟩
    rw [Stores.writtenCell _ _ open_, getCell open_]
    split <;> rfl

end Query
end Repartee
