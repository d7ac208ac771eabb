import Repartee.Assoc
import Repartee.Value

/-! Stores of typed values by key, and the stores that belong to entities. An entity has no store
until one is attached or its store is first opened. -/
namespace Repartee

abbrev Store := Assoc String Value

namespace Store

def read? (s : Store) (k : Kind) (key : String) : Option k.Carrier := (s.get? key).bind (Value.as? k)

theorem readFound {s : Store} {k : Kind} {key : String} {x : k.Carrier}
    (h : s.read? k key = some x) : s.get? key = some (Value.ofCarrier k x) := by
  obtain ⟨v, found, same⟩ := Option.bind_eq_some_iff.1 h
  rw [found, Value.asSomeIff.1 same]

def number? (s : Store) (key : String) : Option Float := (s.get? key).bind Value.number?

def same (s t : Store) : Bool :=
  s.size == t.size && s.entries.all (fun e => (t.get? e.1).any (Value.same e.2))

end Store

abbrev Memories := Assoc EntityId Store

namespace Memories

def storeOf (m : Memories) (id : EntityId) : Store := (m.get? id).getD Assoc.empty

def attach (m : Memories) (id : EntityId) : Memories :=
  match m.get? id with
  | some _ => m
  | none => m.insert id Assoc.empty

def write (m : Memories) (id : EntityId) (key : String) (v : Value) : Memories :=
  m.insert id ((m.storeOf id).insert key v)

theorem attachFound {m : Memories} {id : EntityId} {s : Store} (h : m.get? id = some s) :
    m.attach id = m := by simp [attach, h]

theorem getAttach (m : Memories) (id id' : EntityId) :
    (m.attach id).get? id' = if id' = id then some (m.storeOf id) else m.get? id' := by
  unfold attach storeOf
  cases h : m.get? id with
  | none => simp [Assoc.getInsert]
  | some s => by_cases e : id' = id <;> simp [e, h]

@[simp] theorem storeOfAttach (m : Memories) (id id' : EntityId) :
    (m.attach id).storeOf id' = m.storeOf id' := by
  unfold storeOf
  rw [getAttach]
  by_cases e : id' = id <;> simp [e, storeOf]

theorem storeOfWrite (m : Memories) (id id' : EntityId) (key : String) (v : Value) :
    (m.write id key v).storeOf id' =
      if id' = id then (m.storeOf id).insert key v else m.storeOf id' := by
  unfold write storeOf
  rw [Assoc.getInsert]
  by_cases e : id' = id <;> simp [e]

theorem writeAttach (m : Memories) (id : EntityId) (key : String) (v : Value) :
    (m.attach id).write id key v = m.write id key v := by
  unfold write
  rw [storeOfAttach]
  cases h : m.get? id with
  | some s => rw [attachFound h]
  | none => simp only [attach, h, Assoc.insertInsert]

theorem writeWrite (m : Memories) (id : EntityId) (key : String) (v v' : Value) :
    (m.write id key v).write id key v' = m.write id key v' := by
  rw [write, storeOfWrite, if_pos rfl, Assoc.insertInsert]
  exact Assoc.insertInsert m id _ _

end Memories

end Repartee
