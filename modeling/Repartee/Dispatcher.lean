import Repartee.RuleTable
import Repartee.Selection

/-! The dispatcher: a rule table and the state that outlives a query. Its clock moves only when told to,
and nothing keeps it from moving back. Dispatching writes the time into the world, selects a rule of the
bucket for what happened and who asks, fires it, settles it in the table and delivers its response to
every sink. Without a rule that passes there is no response. -/
namespace Repartee

structure Clock where
  seconds : Float := 0.0

namespace Clock

def set (_ : Clock) (seconds : Float) : Clock := ⟨seconds⟩

def advance (c : Clock) (seconds : Float) : Clock := ⟨c.seconds + seconds⟩

end Clock

structure Config where
  seed : Option UInt64 := none
  timeKey : Option String := some "Time"
  colorKey : String := subtitleColorKey
  deriving DecidableEq, Repr

structure Sink where
  delivered : List Response := []

def Sink.deliver (s : Sink) (r : Response) : Sink := ⟨s.delivered ++ [r]⟩

structure Dispatcher where
  table : RuleTable := {}
  world : Store := {}
  memories : Memories := {}
  clock : Clock := {}
  draws : Draws := {}
  config : Config := {}
  sinks : List Sink := []

namespace Dispatcher

/- The generator is the host's: the words for a seed, and words from its entropy without one. -/
def create (table : RuleTable) (config : Config) (generator : Option UInt64 → List UInt32) : Dispatcher :=
  { table := table, config := config, draws := ⟨generator config.seed⟩ }

def addSink (d : Dispatcher) : Dispatcher := { d with sinks := d.sinks ++ [{}] }

def refreshTime (d : Dispatcher) (now : Float) : Dispatcher :=
  match d.config.timeKey with
  | none => d
  | some key => { d with world := d.world.insert key (.float now) }

def findRule (d : Dispatcher) (q : Query) (memory : Store) : Option (Nat × Rule) × Stores × Draws :=
  let st : Stores := ⟨memory, d.world, d.memories⟩
  match d.table.bucket? q.concept q.who with
  | none => (none, st, d.draws)
  | some bucket =>
    let (index, st, draws) := selectRule bucket q st d.draws
    (index.bind (fun i => bucket[i]?.map (fun r => (i, r))), st, draws)

def dispatchAt (d : Dispatcher) (now : Float) (o : Occasion) (memory : Store) :
    Option Response × Dispatcher × Store :=
  let d := d.refreshTime now
  let q : Query := { o with now := now }
  let (found, st, draws) := d.findRule q memory
  match found with
  | none => (none, { d with world := st.world, memories := st.memories, draws := draws }, st.memory)
  | some (i, r) =>
    let (r, st) := r.fire q st
    let response := r.respond q d.config.colorKey
    (some response,
      { d with
        table := d.table.settle o.concept o.who i r
        world := st.world
        memories := st.memories
        draws := draws
        sinks := d.sinks.map (·.deliver response) },
      st.memory)

def dispatch (d : Dispatcher) (o : Occasion) (memory : Store) : Option Response × Dispatcher × Store :=
  d.dispatchAt d.clock.seconds o memory

/-- Dispatches for an asker whose memory is kept among the entities' stores. While the rules run, the
store is held outside, and afterwards it is attached again. -/
def dispatchEntity (d : Dispatcher) (speaker : EntityId) (o : Occasion) : Option Response × Dispatcher :=
  let memory := d.memories.storeOf speaker
  let outside := { d with memories := d.memories.erase speaker }
  let (response, d, memory) := outside.dispatch { o with speaker := some speaker } memory
  (response, { d with memories := d.memories.insert speaker memory })

end Dispatcher

end Repartee
