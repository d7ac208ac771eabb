/-! The five sources a line can name. The event and the character are read-only; memory, world and
target can be written. -/
namespace Repartee

inductive Source where
  | event
  | character
  | memory
  | world
  | target
  deriving DecidableEq, Repr

namespace Source

def all : List Source := [event, character, memory, world, target]

def letter : Source → Char
  | event => 'e'
  | character => 'c'
  | memory => 'm'
  | world => 'w'
  | target => 't'

def ofLetter? (c : Char) : Option Source := all.find? (fun s => s.letter == c)

def name : Source → String
  | event => "event"
  | character => "character"
  | memory => "memory"
  | world => "world"
  | target => "target"

def isReadOnly : Source → Bool
  | event | character => true
  | memory | world | target => false

@[simp] theorem letterRead (s : Source) : ofLetter? s.letter = some s := by cases s <;> rfl

theorem letterIff {c : Char} {s : Source} : ofLetter? c = some s ↔ c = s.letter := by
  constructor
  · intro h
    have same := List.find?_some h
    exact (beq_iff_eq.1 same).symm
  · rintro rfl; simp

end Source

end Repartee
