import Repartee.Stores

/-! Queries: an occasion at a time, and what can be asked of the stores. Reading a key that is absent,
or that holds another kind of value, writes the zero of the kind that was asked for, wherever the store
can be written. The event and the character cannot be written, and neither can a target that is not
there. What a host brings along asks through the query as well: an inquiry is a finite plan of reads and
writes whose next step depends on the answers so far. -/
namespace Repartee

structure Query extends Occasion where
  now : Float

inductive StateError where
  | readOnly (key : String) (source : Source)
  | noTarget (key : String)
  | overflow (key : String)
  deriving DecidableEq, Repr

def StateError.message : StateError → String
  | readOnly key source =>
    "cannot write '" ++ key ++ "' into read-only " ++ source.name ++ " state"
  | noTarget key => "cannot write '" ++ key ++ "' into target memory: the event names no target"
  | overflow key => "counter '" ++ key ++ "' would overflow"

namespace Query

def get (q : Query) (k : Kind) (key : String) (source : Source) (st : Stores) :
    (k.Carrier × Bool) × Stores :=
  let p := q.place source
  let st := st.openAt p
  match (st.contents q.toOccasion p).read? k key with
  | some x => ((x, true), st)
  | none => ((k.zero, false), st.write p key (Value.ofCarrier k k.zero))

theorem getFound {q : Query} {st : Stores} {k : Kind} {key : String} {source : Source} {x : k.Carrier}
    (h : (st.contents q.toOccasion (q.place source)).read? k key = some x) :
    q.get k key source st = ((x, true), st) := by
  have same := Stores.openAtFound (Store.readFound h)
  simp only [get, h, same]

theorem getMissed {q : Query} {st : Stores} {k : Kind} {key : String} {source : Source}
    (h : (st.contents q.toOccasion (q.place source)).read? k key = none) :
    q.get k key source st =
      ((k.zero, false), (st.openAt (q.place source)).write (q.place source) key (Value.ofCarrier k k.zero)) := by
  simp only [get, Stores.contentsOpenAt, h]

def value (q : Query) (k : Kind) (key : String) (source : Source) (st : Stores) : k.Carrier × Stores :=
  let (r, st) := q.get k key source st
  (r.1, st)

def getNumber (q : Query) (key : String) (source : Source) (st : Stores) : (Float × Bool) × Stores :=
  let p := q.place source
  let st := st.openAt p
  match (st.contents q.toOccasion p).number? key with
  | some x => ((x, true), st)
  | none => ((0.0, false), st.write p key (.float 0.0))

theorem getNumberFound {q : Query} {st : Stores} {key : String} {source : Source} {x : Float}
    (h : (st.contents q.toOccasion (q.place source)).number? key = some x) :
    q.getNumber key source st = ((x, true), st) := by
  obtain ⟨v, found, _⟩ := Option.bind_eq_some_iff.1 h
  simp only [getNumber, Stores.openAtFound found, h]

theorem getNumberMissed {q : Query} {st : Stores} {key : String} {source : Source}
    (h : (st.contents q.toOccasion (q.place source)).number? key = none) :
    q.getNumber key source st =
      ((0.0, false), (st.openAt (q.place source)).write (q.place source) key (.float 0.0)) := by
  simp only [getNumber, Stores.contentsOpenAt, h]

def set (q : Query) (key : String) (v : Value) (source : Source) (st : Stores) :
    Except StateError Unit × Stores :=
  match q.place source with
  | .event | .character => (.error (.readOnly key source), st)
  | .nowhere => (.error (.noTarget key), st)
  | p => (.ok (), st.write p key v)

theorem setOpen {q : Query} {st : Stores} {key : String} {v : Value} {source : Source}
    (h : (q.place source).writable = true) :
    q.set key v source st = (.ok (), st.write (q.place source) key v) := by
  unfold set
  cases e : q.place source <;> simp_all [Place.writable]

theorem setRefuses {q : Query} {st : Stores} {key : String} {v : Value} {source : Source}
    (h : (q.place source).writable = false) : ∃ e, q.set key v source st = (.error e, st) := by
  unfold set
  cases e : q.place source <;> simp_all [Place.writable]

def transform (q : Query) (k : Kind) (key : String) (source : Source) (f : k.Carrier → k.Carrier)
    (st : Stores) : Except StateError k.Carrier × Stores :=
  let (x, st) := q.value k key source st
  let y := f x
  let (r, st) := q.set key (Value.ofCarrier k y) source st
  (r.map (fun _ => y), st)

def counterSum? (n amount : Int64) : Option Int64 :=
  let sum := n.toInt + amount.toInt
  if Int64.minValue.toInt ≤ sum ∧ sum ≤ Int64.maxValue.toInt then some (Int64.ofInt sum) else none

theorem counterSumIff {n amount sum : Int64} :
    counterSum? n amount = some sum ↔ sum.toInt = n.toInt + amount.toInt := by
  have low := sum.minValue_le_toInt
  have high := sum.toInt_le
  simp only [counterSum?]
  constructor
  · intro h
    split at h
    · rename_i fits
      obtain rfl := Option.some.inj h
      rw [Int64.toInt_minValue, Int64.toInt_maxValue] at fits
      exact Int64.toInt_ofInt_of_le fits.1 (Int.lt_of_le_sub_one fits.2)
    · contradiction
  · intro h
    rw [← h, if_pos ⟨by simpa using low, by simpa using high⟩, Int64.ofInt_toInt]

def increment (q : Query) (key : String) (source : Source) (amount : Int64) (st : Stores) :
    Except StateError Int64 × Stores :=
  let (n, st) := q.value .int key source st
  match counterSum? n amount with
  | none => (.error (.overflow key), st)
  | some sum =>
    let (r, st) := q.set key (.int sum) source st
    (r.map (fun _ => sum), st)

end Query

inductive Inquiry (α : Type) where
  | done (answer : α)
  | get (k : Kind) (key : String) (source : Source) (next : k.Carrier × Bool → Inquiry α)
  | getNumber (key : String) (source : Source) (next : Float × Bool → Inquiry α)
  | set (key : String) (v : Value) (source : Source) (next : Except StateError Unit → Inquiry α)

namespace Inquiry

def run {α : Type} (q : Query) : Inquiry α → Stores → α × Stores
  | done answer, st => (answer, st)
  | get k key source next, st =>
    let (r, st) := q.get k key source st
    run q (next r) st
  | getNumber key source next, st =>
    let (r, st) := q.getNumber key source st
    run q (next r) st
  | set key v source next, st =>
    let (r, st) := q.set key v source st
    run q (next r) st

end Inquiry

end Repartee
