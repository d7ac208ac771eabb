import Repartee.Rule

/-! Choosing the rule that fires. The rules of a bucket are tried from the most specific on. Once a rule
has passed, the walk ends at the first rule that is less specific, because it could not be chosen any
more. Among the passing rules of the highest specificity one is drawn. The walk is written for any way
of trying a rule on a state and any way of drawing; a query tries rules by their criteria.

A draw is a 32-bit word. With k candidates, the product of draw and k names a candidate by its upper
word, and the draw is accepted only when the lower word is below the largest multiple of k that is k
times a power of two, so that every candidate owns equally many draws. The words are those that the
host's generator will give. A run draws finitely many, so they are a list; where it ends, every further
word is zero, and zero is accepted and names the first candidate. -/
namespace Repartee

structure Draws where
  words : List UInt32 := []

namespace Draws

def leadingZeros (k : Nat) : Nat := 31 - Nat.log2 k

def accepts (k v : Nat) : Bool := v * k % UInt32.size ≤ (k <<< leadingZeros k) - 1

def candidate (k v : Nat) : Nat := v * k / UInt32.size

def pick (k : Nat) : List UInt32 → Option Nat × List UInt32
  | [] => (none, [])
  | v :: rest => if accepts k v.toNat then (some (candidate k v.toNat), rest) else pick k rest

def index? (d : Draws) (k : Nat) : Option Nat × Draws :=
  if k = 0 then (none, d)
  else
    let (i, rest) := pick k d.words
    (some (i.getD 0), ⟨rest⟩)

def choose {α : Type} (d : Draws) (candidates : List α) : Option α × Draws :=
  let (i, d) := d.index? candidates.length
  (i.bind (candidates[·]?), d)

end Draws

/-- The rules that pass, with their positions. The mark is the highest specificity that passed so far. -/
def passing {σ : Type} (trial : Rule → σ → Bool × σ) (now : Float) (mark : Nat) :
    List (Rule × Nat) → σ → List (Rule × Nat) × σ
  | [], s => ([], s)
  | (r, i) :: rest, s =>
    if r.specificity < mark then ([], s)
    else if r.isEligible now then
      match trial r s with
      | (true, s) =>
        let (found, s) := passing trial now (max mark r.specificity) rest s
        ((r, i) :: found, s)
      | (false, s) => passing trial now mark rest s
    else passing trial now mark rest s

def highest (found : List (Rule × Nat)) : Nat := found.foldl (fun n p => max n p.1.specificity) 0

def topPositions (found : List (Rule × Nat)) : List Nat :=
  (found.filter (fun p => p.1.specificity = highest found)).map Prod.snd

def candidates {σ : Type} (trial : Rule → σ → Bool × σ) (now : Float) (bucket : List Rule) (s : σ) :
    List Nat × σ :=
  let (found, s) := passing trial now 0 bucket.zipIdx s
  (topPositions found, s)

def selectBy {σ δ : Type} (trial : Rule → σ → Bool × σ) (draw : δ → List Nat → Option Nat × δ)
    (now : Float) (bucket : List Rule) (s : σ) (d : δ) : Option Nat × σ × δ :=
  let (top, s) := candidates trial now bucket s
  let (i, d) := draw d top
  (i, s, d)

def selectRule (bucket : List Rule) (q : Query) (st : Stores) (d : Draws) : Option Nat × Stores × Draws :=
  selectBy (fun r => r.passes q) Draws.choose q.now bucket st d

end Repartee
