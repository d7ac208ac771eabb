import Mathlib.Logic.Function.Basic
import Repartee.Proofs.Footprint

/-! Calls for which no rule may be considered. Such a call is not answered and leaves its time in the world, and
nothing else. Every call writes its own time over that one before any rule is tried, so calls of this kind put anywhere
among others are not noticed by them, and in the end they can only be told from the time. -/
namespace Repartee

theorem Selection.idleBucket {q : Query} {bucket : List Rule} (idle : ∀ r ∈ bucket, r.isEligible q.now = false)
    (st : Stores) (d : Draws) : selectRule bucket q st d = (none, st, d) := by
  have nobody : eligible q.now bucket.zipIdx = [] := List.filter_eq_nil_iff.mpr fun p mem => by
    simp [idle p.1 (List.fst_mem_of_mem_zipIdx mem)]
  have untried : exhaustive (fun r => r.passes q) q.now bucket st = [] := by
    rw [exhaustive, nobody]
    rfl
  have failed : ∀ t ∈ exhaustive (fun r => r.passes q) q.now bucket st, t.passed = false := by
    rw [untried]
    nofun
  have outcome := (nothingChosen (fun r => r.passes q) failed d).outcome
  rw [untried] at outcome
  exact outcome

namespace Dispatcher
variable {d d' : Dispatcher} {now : Float} {o : Occasion}

def Idle (d : Dispatcher) (now : Float) (o : Occasion) : Prop :=
  ∀ bucket ∈ d.table.bucket? o.concept o.who, ∀ r ∈ bucket, r.isEligible now = false

instance : Decidable (d.Idle now o) :=
  inferInstanceAs (Decidable (∀ bucket ∈ d.table.bucket? o.concept o.who, ∀ r ∈ bucket, r.isEligible now = false))

theorem idleFind (idle : d.Idle now o) (memory : Store) :
    d.findRule { o with now := now } memory = (none, ⟨memory, d.world, d.memories⟩, d.draws) := by
  unfold findRule
  cases present : d.table.bucket? o.concept o.who with
  | none => rfl
  | some bucket =>
    have outcome := Selection.idleBucket (q := { o with now := now }) (idle bucket present)
      ⟨memory, d.world, d.memories⟩ d.draws
    simp only [outcome, Option.bind_none]

theorem idleDispatch (idle : d.Idle now o) (memory : Store) :
    d.dispatchAt now o memory = (none, d.refreshTime now, memory) := by
  have still : (d.refreshTime now).Idle now o := fun bucket present => idle bucket (d.refreshTimeTable now ▸ present)
  simp only [dispatchAt, idleFind still]

theorem refreshTwice (d : Dispatcher) (early late : Float) : (d.refreshTime early).refreshTime late = d.refreshTime late := by
  unfold refreshTime
  cases known : d.config.timeKey with
  | none => simp only [known]
  | some key => simp only [known, Assoc.insertInsert]

def SameOnTime (d d' : Dispatcher) : Prop := ∀ now, d.refreshTime now = d'.refreshTime now

theorem SameOnTime.dispatchAt (same : d.SameOnTime d') (now : Float) (o : Occasion) (memory : Store) :
    d.dispatchAt now o memory = d'.dispatchAt now o memory := by
  simp only [Dispatcher.dispatchAt, same now]

structure SameButTime (d d' : Dispatcher) : Prop where
  table : d.table = d'.table
  memories : d.memories = d'.memories
  clock : d.clock = d'.clock
  draws : d.draws = d'.draws
  config : d.config = d'.config
  sinks : d.sinks = d'.sinks
  world : ∀ key, d.config.timeKey ≠ some key → d.world.get? key = d'.world.get? key

theorem refreshTimeOnly (d : Dispatcher) (now : Float) : ∃ world, d.refreshTime now = { d with world := world } := by
  unfold refreshTime
  split <;> exact ⟨_, rfl⟩

theorem SameOnTime.butTime (same : d.SameOnTime d') : d.SameButTime d' := by
  obtain ⟨world, told⟩ := d.refreshTimeOnly 0.0
  obtain ⟨world', told'⟩ := d'.refreshTimeOnly 0.0
  have equal := same 0.0
  rw [told, told', Dispatcher.mk.injEq] at equal
  obtain ⟨table, _, memories, clock, draws, config, sinks⟩ := equal
  refine ⟨table, memories, clock, draws, config, sinks, fun key timeless => ?_⟩
  rw [← d.refreshTimeWorld 0.0 timeless, same, d'.refreshTimeWorld 0.0 (config ▸ timeless)]

end Dispatcher

structure Host (κ : Type) where
  dispatcher : Dispatcher
  held : κ → Store

structure Ask (κ : Type) where
  asker : κ
  now : Float
  occasion : Occasion

structure Answer where
  response : Option Response
  sinks : List Sink

namespace Host
variable {κ : Type} [DecidableEq κ]

def ask (h : Host κ) (a : Ask κ) : Answer × Host κ :=
  let (response, d, memory) := h.dispatcher.dispatchAt a.now a.occasion (h.held a.asker)
  (⟨response, d.sinks⟩, ⟨d, Function.update h.held a.asker memory⟩)

def answers (h : Host κ) : List (Ask κ) → List Answer
  | [] => []
  | a :: rest => (h.ask a).1 :: (h.ask a).2.answers rest

def after (h : Host κ) : List (Ask κ) → Host κ
  | [] => h
  | a :: rest => (h.ask a).2.after rest

end Host

inductive Entry (κ : Type) where
  | own (a : Ask κ)
  | extra (a : Ask κ)

namespace Entry
variable {κ : Type}

def ask : Entry κ → Ask κ
  | own a | extra a => a

def own? : Entry κ → Option (Ask κ)
  | own a => some a
  | extra _ => none

end Entry

namespace Host
variable {κ : Type} [DecidableEq κ]

def record (h : Host κ) (entries : List (Entry κ)) : List (Entry κ × Answer) :=
  entries.zip (h.answers (entries.map Entry.ask))

def IdleExtras (h : Host κ) : List (Entry κ) → Prop
  | [] => True
  | e :: rest =>
    (e.own? = none → h.dispatcher.Idle e.ask.now e.ask.occasion) ∧ (h.ask e.ask).2.IdleExtras rest

/- The run with what was put in beside the run without it. -/
structure Unnoticed (h : Host κ) (entries : List (Entry κ)) (longer shorter : Host κ) : Prop where
  unanswered : ∀ p ∈ h.record entries, p.1.own? = none → p.2.response = none
  answers : ((h.record entries).filter (·.1.own?.isSome)).map Prod.snd = h.answers (entries.filterMap Entry.own?)
  held : longer.held = shorter.held
  dispatcher : longer.dispatcher.SameButTime shorter.dispatcher
  config : longer.dispatcher.config = h.dispatcher.config

structure SameOnTime (h h' : Host κ) : Prop where
  dispatcher : h.dispatcher.SameOnTime h'.dispatcher
  held : h.held = h'.held

theorem SameOnTime.own {h h' : Host κ} (same : h.SameOnTime h') (a : Ask κ) : h.ask a = h'.ask a := by
  simp only [ask, same.dispatcher.dispatchAt, same.held]

theorem SameOnTime.extra {h h' : Host κ} (same : h.SameOnTime h') {a : Ask κ} (idle : h.dispatcher.Idle a.now a.occasion) :
    (h.ask a).1.response = none ∧ (h.ask a).2.SameOnTime h' := by
  have left : h.ask a = (⟨none, (h.dispatcher.refreshTime a.now).sinks⟩, ⟨h.dispatcher.refreshTime a.now, h.held⟩) := by
    simp only [ask, Dispatcher.idleDispatch idle, Function.update_eq_self]
  rw [left]
  exact ⟨rfl, fun now => (h.dispatcher.refreshTwice a.now now).trans (same.dispatcher now), same.held⟩

theorem idleRun {h h' : Host κ} (same : h.SameOnTime h') {entries : List (Entry κ)} (idle : h.IdleExtras entries) :
    (∀ p ∈ h.record entries, p.1.own? = none → p.2.response = none) ∧
    ((h.record entries).filter (·.1.own?.isSome)).map Prod.snd = h'.answers (entries.filterMap Entry.own?) ∧
    (h.after (entries.map Entry.ask)).SameOnTime (h'.after (entries.filterMap Entry.own?)) := by
  induction entries generalizing h h' with
  | nil => exact ⟨nofun, rfl, same⟩
  | cons e rest ih =>
    cases e with
    | own a =>
      have caught := same.own a
      have together : (h.ask a).2.SameOnTime (h'.ask a).2 := caught ▸ ⟨fun _ => rfl, rfl⟩
      obtain ⟨unanswered, answers, end_⟩ := ih together idle.2
      refine ⟨fun p mem own => ?_, ?_, end_⟩
      · rcases List.mem_cons.mp mem with rfl | mem
        · contradiction
        · exact unanswered p mem own
      · exact congrArg₂ List.cons (congrArg Prod.fst caught) answers
    | extra a =>
      obtain ⟨silent, still⟩ := same.extra (idle.1 rfl)
      obtain ⟨unanswered, answers, end_⟩ := ih still idle.2
      refine ⟨fun p mem own => ?_, answers, end_⟩
      rcases List.mem_cons.mp mem with rfl | mem
      · exact silent
      · exact unanswered p mem own

theorem afterConfig (h : Host κ) (asks : List (Ask κ)) : (h.after asks).dispatcher.config = h.dispatcher.config := by
  induction asks generalizing h with
  | nil => rfl
  | cons a rest ih => exact (ih (h.ask a).2).trans (h.dispatcher.settingsKept a.now a.occasion (h.held a.asker)).2

theorem idleCallsUnnoticed {h : Host κ} {entries : List (Entry κ)} (idle : h.IdleExtras entries) :
    h.Unnoticed entries (h.after (entries.map Entry.ask)) (h.after (entries.filterMap Entry.own?)) := by
  obtain ⟨unanswered, answers, same⟩ := idleRun (h := h) ⟨fun _ => rfl, rfl⟩ idle
  exact ⟨unanswered, answers, same.held, same.dispatcher.butTime, h.afterConfig _⟩

def challenge : Row where
  id := 1
  concept := "Approach"
  who := "Guard"
  response := "Who goes there?"
  criteria := "w Time > 4.0"
  remember := "m Challenges + 1"
  cooldown := some 5.0

def approach : Occasion where
  concept := "Approach"
  who := "Guard"

def gate : Host EntityId where
  dispatcher := { table := (Vocabulary.builtin.compile [challenge]).table, sinks := [{}] }
  held _ := {}

def watch : List (Entry EntityId) :=
  [.extra ⟨⟨9⟩, 3.0, {}⟩, .own ⟨⟨1⟩, 5.0, approach⟩, .extra ⟨⟨1⟩, 6.0, approach⟩, .own ⟨⟨2⟩, 12.0, approach⟩,
    .extra ⟨⟨2⟩, 0.0 / 0.0, approach⟩]

theorem idleCallsUnnoticedOnWatch : gate.IdleExtras watch ∧
    gate.Unnoticed watch (gate.after (watch.map Entry.ask)) (gate.after (watch.filterMap Entry.own?)) ∧
    (gate.record watch).map (fun p => p.2.response.map (·.ruleId)) = [none, some 1, none, some 1, none] := by
  have table := Vocabulary.builtin.compiledInTurn [challenge]
  have idle : gate.IdleExtras watch := by
    rw [gate, table]
    exact ⟨fun _ => by decide, nofun, fun _ => by decide, nofun, fun _ => by decide, trivial⟩
  refine ⟨idle, idleCallsUnnoticed idle, ?_⟩
  rw [gate, table]
  rfl

end Host

end Repartee
