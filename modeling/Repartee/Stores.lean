import Repartee.Source
import Repartee.Store

/-! Occasions: what happened and who asks. The target is the entity that the event names; when that is
the speaker, the target's store is the memory itself, and without a target the source leads nowhere. Two
sources are the same store exactly when they lead to the same place. The stores that a match may change
are seen by place: what a place holds, opening it, and writing to it. A write is seen at its own place
and nowhere else; opening a place changes what no place holds. -/
namespace Repartee

structure Occasion where
  concept : String := ""
  who : String := ""
  speaker : Option EntityId := none
  event : Store := {}
  character : Store := {}

def targetKey : String := "Target"

def Occasion.target (o : Occasion) : Option EntityId :=
  (o.event.read? .entity targetKey).filter (fun id => !id.isNil)

inductive Place where
  | event
  | character
  | memory
  | world
  | entity (id : EntityId)
  | nowhere
  deriving DecidableEq, Repr

def Place.writable : Place → Bool
  | memory | world | entity _ => true
  | event | character | nowhere => false

def Occasion.place (o : Occasion) : Source → Place
  | .event => .event
  | .character => .character
  | .memory => .memory
  | .world => .world
  | .target =>
    match o.target with
    | none => .nowhere
    | some id => if o.speaker = some id then .memory else .entity id

structure Stores where
  memory : Store := {}
  world : Store := {}
  memories : Memories := {}

namespace Stores

def contents (o : Occasion) (st : Stores) : Place → Store
  | .event => o.event
  | .character => o.character
  | .memory => st.memory
  | .world => st.world
  | .entity id => st.memories.storeOf id
  | .nowhere => {}

def openAt (st : Stores) : Place → Stores
  | .entity id => { st with memories := st.memories.attach id }
  | _ => st

def write (st : Stores) (p : Place) (key : String) (v : Value) : Stores :=
  match p with
  | .memory => { st with memory := st.memory.insert key v }
  | .world => { st with world := st.world.insert key v }
  | .entity id => { st with memories := st.memories.write id key v }
  | .event | .character | .nowhere => st

@[simp] theorem contentsOpenAt (o : Occasion) (st : Stores) (p p' : Place) :
    (st.openAt p).contents o p' = st.contents o p' := by
  cases p <;> cases p' <;> simp [openAt, contents]

theorem contentsWrite (o : Occasion) (st : Stores) {p : Place} (p' : Place) (key : String) (v : Value)
    (h : p.writable = true) :
    (st.write p key v).contents o p' =
      if p' = p then (st.contents o p).insert key v else st.contents o p' := by
  cases p <;> simp only [Place.writable, Bool.false_eq_true] at h <;> cases p' <;>
    simp [write, contents, Memories.storeOfWrite]

theorem writeClosed (st : Stores) {p : Place} (key : String) (v : Value)
    (h : p.writable = false) : st.write p key v = st := by
  cases p <;> simp_all [Place.writable, write]

theorem writeOpenAt (st : Stores) (p : Place) (key : String) (v : Value) :
    (st.openAt p).write p key v = st.write p key v := by
  cases p <;> simp only [openAt, write, Memories.writeAttach]

theorem writeWrite (st : Stores) (p : Place) (key : String) (v v' : Value) :
    (st.write p key v).write p key v' = st.write p key v' := by
  cases p <;> simp only [write, Assoc.insertInsert, Memories.writeWrite]

theorem openAtFound {o : Occasion} {st : Stores} {p : Place} {key : String} {v : Value}
    (h : (st.contents o p).get? key = some v) : st.openAt p = st := by
  cases p with
  | entity id =>
    cases e : st.memories.get? id with
    | none => simp [contents, Memories.storeOf, e] at h
    | some s => simp [openAt, Memories.attachFound e]
  | _ => rfl

end Stores

end Repartee
