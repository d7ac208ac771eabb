import Repartee.Proofs.Custody
import Repartee.Proofs.Naming
import Repartee.Proofs.OneShot
import Repartee.Proofs.Refusal

/-! Rationed rules. One rule may fire only while a counter in the world is below a limit, and it raises the counter
when it fires. As long as no other line and no host touches the counter, it holds the number of times the rule has
fired, whoever asked and whatever else was said in between, and so the rule never fires more often than the limit. A
counter that is not there yet counts as zero, which is also what a read leaves of it. -/
namespace Repartee

def Store.counter (s : Store) (key : String) : Int := ((s.read? .int key).getD (0 : Int64)).toInt

theorem Store.counterOf {s s' : Store} {key : String} (same : s'.get? key = s.get? key) :
    s'.counter key = s.counter key := by
  unfold counter read?
  rw [same]

theorem Query.counterInWorld (q : Query) (key : String) (st : Stores) : q.counter key .world st = st.world.counter key := by
  rw [counter, valueShown]
  rfl

/- One line asks whether a counter in the world is below a limit, one line raises it by one, and no other names it. -/
structure Row.Limits (key : String) (n : Nat) (row : Row) : Prop where
  limit : ∃ raw token, (linesOfCell row.criteria).filter (Line.named? .criteria · = some (.world, key)) = [raw] ∧
    Line.parse Cell.criteria.operators raw = .ok (.operation .world key '<' token) ∧
    Literal.Denotes row.id token (.int (Int64.ofNat n))
  count : ∃ raw token, (linesOfCell row.remember).filter (Line.named? .remember · = some (.world, key)) = [raw] ∧
    Line.parse Cell.remember.operators raw = .ok (.operation .world key '+' token) ∧ Literal.Denotes row.id token (.int 1)

structure Row.SparesWorld (key : String) (row : Row) : Prop where
  criteria : ∀ raw ∈ linesOfCell row.criteria, Line.named? .criteria raw ≠ some (.world, key)
  remember : ∀ raw ∈ linesOfCell row.remember, Line.named? .remember raw ≠ some (.world, key)

structure Rule.Limits (key : String) (n : Nat) (r : Rule) : Prop where
  limit : r.criteria.filter (fun c => c.named? = some (.world, key)) =
    [.compare key .world .lessThan (.int (Int64.ofNat n))]
  count : r.effects.filter (fun e => e.named? = some (.world, key)) = [.step key .world (Step.up 1)]

structure Rule.SparesWorld (key : String) (r : Rule) : Prop where
  criteria : ∀ c ∈ r.criteria, c.named? ≠ some (.world, key)
  effects : ∀ e ∈ r.effects, e.named? ≠ some (.world, key)

namespace Vocabulary
variable {raw key token : String} {ruleId : Int64} {n : Nat} {row : Row} {r : Rule}

theorem limitLine {m : Int64} {c : Criterion}
    (parsed : Line.parse Cell.criteria.operators raw = .ok (.operation .world key '<' token))
    (denotes : Literal.Denotes ruleId token (.int m)) (made : builtin.criterionOfLine raw ruleId = .ok c) :
    c = .compare key .world .lessThan (.int m) := by
  obtain ⟨comparison, literal, sign, read, rfl⟩ := criterionCompares parsed made
  have filled := (Line.parseOperation.mp parsed).1.valued.filled
  obtain rfl := (Literal.denotesOnce filled denotes literal).mp read
  obtain rfl : comparison = .lessThan := by cases comparison <;> first | rfl | contradiction
  rfl

theorem countLine {m : Int64} {e : Effect}
    (parsed : Line.parse Cell.remember.operators raw = .ok (.operation .world key '+' token))
    (denotes : Literal.Denotes ruleId token (.int m)) (made : builtin.effectOfLine raw ruleId = .ok e) :
    e = .step key .world (Step.up m) := by
  have filled := (Line.parseOperation.mp parsed).1.valued.filled
  have literal : effectOfLine builtin raw ruleId = effectOfLiteral key .world '+' .add (.int m) := by
    unfold effectOfLine
    rw [parsed]
    simp only [bind, Except.bind, (Literal.interpretOk filled).mpr denotes]
    rfl
  rw [literal] at made
  cases made
  rfl

theorem rowLimits (read : builtin.ruleOfRow row = .ok r) (limits : row.Limits key n) : r.Limits key n := by
  obtain ⟨criteria, effects, first, second, _, rfl⟩ := ruleOfRowOk.mp read
  obtain ⟨raw, token, alone, parsed, denotes⟩ := limits.limit
  obtain ⟨c, made, only⟩ := readAlone first (fun _ _ => worldCriterion) alone
  obtain ⟨raw', token', alone', parsed', denotes'⟩ := limits.count
  obtain ⟨e, made', only'⟩ := readAlone second (fun _ _ => worldEffect) alone'
  rw [limitLine parsed denotes made] at only
  rw [countLine parsed' denotes' made'] at only'
  exact ⟨only, only'⟩

theorem rowSpares (read : builtin.ruleOfRow row = .ok r) (spares : row.SparesWorld key) : r.SparesWorld key := by
  obtain ⟨criteria, effects, first, second, _, rfl⟩ := ruleOfRowOk.mp read
  refine ⟨fun c checked named => ?_, fun e applied named => ?_⟩
  · obtain ⟨raw, line, made⟩ := relatedOrigin (readLinesOk.mp first) checked
    exact spares.criteria raw line ((worldCriterion made).mp named)
  · obtain ⟨raw, line, made⟩ := relatedOrigin (readLinesOk.mp second) applied
    exact spares.remember raw line ((worldEffect made).mp named)

end Vocabulary

structure Rule.Rationed (id : Int64) (key : String) (n : Nat) (r : Rule) : Prop where
  authored : r.Authored
  limits : r.id = id → r.Limits key n
  spares : r.id ≠ id → r.SparesWorld key

theorem Rule.rationedUnmarked {id : Int64} {key : String} {n : Nat} {r r' : Rule} (same : r'.unmarked = r.unmarked)
    (rationed : r'.Rationed id key n) : r.Rationed id key n := by
  obtain ⟨criteria, effects⟩ := Rule.linesUnmarked same
  have number : r'.id = r.id := (congrArg Rule.id same :)
  obtain ⟨authored, limits, spares⟩ := rationed
  rw [number] at limits spares
  refine ⟨Rule.authoredUnmarked same authored, fun own => ?_, fun other => ?_⟩
  · obtain ⟨limit, count⟩ := limits own
    exact ⟨criteria ▸ limit, effects ▸ count⟩
  · obtain ⟨reads, writes⟩ := spares other
    exact ⟨criteria ▸ reads, effects ▸ writes⟩

theorem Occasion.worldSource {o : Occasion} {source : Source} (leads : .world = o.place source) : source = .world := by
  cases source with
  | world => rfl
  | event | character | memory => contradiction
  | target =>
    unfold place at leads
    cases named : o.target with
    | none => simp [named] at leads
    | some id =>
      simp only [named] at leads
      split at leads <;> contradiction

theorem steppedCounter {q : Query} {st : Stores} {key : String} {n : Nat} {count : Int}
    (shown : st.world.counter key = count) (below : count < n) (small : n < 2 ^ 63) :
    ((Effect.step key .world (Step.up 1)).apply q st).2.world.counter key = count + 1 := by
  have counter := q.counterInWorld key st
  have one : (Step.up 1).change.toInt = 1 := rfl
  have least : -2 ^ 63 ≤ count := shown ▸ (counterFits _).1
  have fits : Fits64 (q.counter key .world st + (Step.up 1).change.toInt) := by
    rw [counter, shown, one]
    exact ⟨by omega, by omega⟩
  obtain ⟨sum, exact_, stored⟩ := (q.countsExactly key .world (Step.up 1).change st).stored fits (by simp) (by simp)
  have world : ((Effect.step key .world (Step.up 1)).apply q st).2.world = st.world.insert key (.int sum) :=
    congrArg (fun outcome => outcome.2.world) stored
  have read : Store.counter (st.world.insert key (.int sum)) key = sum.toInt := by
    unfold Store.counter Store.read?
    rw [Assoc.getInsertSelf]
    rfl
  rw [world, read, exact_, counter, shown, one]

namespace Rule.Rationed
variable {id : Int64} {key : String} {n : Nat} {r : Rule} (rationed : r.Rationed id key n)

include rationed

theorem checkKeeps {q : Query} {c : Criterion} (checked : c ∈ r.criteria) (st : Stores) :
    (c.check q st).2.world.counter key = st.world.counter key := by
  obtain ⟨source, key', named⟩ := (rationed.authored.criteria c checked).named
  by_cases own : c.named? = some (.world, key)
  · by_cases number : r.id = id
    · have mem : c ∈ r.criteria.filter (fun c => c.named? = some (.world, key)) :=
        List.mem_filter.mpr ⟨checked, decide_eq_true own⟩
      rw [(rationed.limits number).limit] at mem
      obtain rfl := List.mem_singleton.mp mem
      have kept : (Look.mk .world key .int).shown q.toOccasion (q.get .int key .world st).2 = _ :=
        Query.getKeeps fun _ => rfl
      exact congrArg Int64.toInt kept
    · exact absurd own ((rationed.spares number).criteria c checked)
  · have aside : ∀ v, ¬ c.Writes q .world key v := by
      intro v writes
      obtain ⟨leads, rfl⟩ := Criterion.writesNamed named writes
      exact own (Occasion.worldSource leads ▸ named)
    exact Store.counterOf (checkedAside aside st)

theorem checkedBelow (own : r.id = id) (small : n < 2 ^ 63) :
    ∃ c ∈ r.criteria, ∀ (q : Query) (st : Stores), (c.check q st).1 = true → st.world.counter key < n := by
  have limit := (rationed.limits own).limit
  refine ⟨_, List.mem_of_mem_filter (limit ▸ List.mem_singleton_self _), fun q st passed => ?_⟩
  have shown := q.valueShown .int key .world st
  have below : (q.value .int key .world st).1 < Int64.ofNat n := of_decide_eq_true passed
  rw [Int64.lt_iff_toInt_lt, Int64.toInt_ofNat_of_lt small] at below
  rwa [← q.counterInWorld]

theorem effectsAside (q : Query) {effects : List Effect} (within : ∀ e ∈ effects, e ∈ r.effects)
    (aside : ∀ e ∈ effects, e.named? ≠ some (.world, key)) (st : Stores) :
    (applyAll q effects st).world.counter key = st.world.counter key := by
  have untouched : ∀ e ∈ effects, ∀ v, ¬ e.Writes q .world key v := by
    intro e applied v writes
    obtain ⟨source, key', named⟩ := (rationed.authored.effects e (within e applied)).named
    obtain ⟨leads, rfl⟩ := Effect.writesNamed named writes
    exact aside e applied (Occasion.worldSource leads ▸ named)
  exact Store.counterOf (appliedAside untouched st)

theorem raised {q : Query} {st : Stores} (own : r.id = id) (small : n < 2 ^ 63) (below : st.world.counter key < n) :
    (applyAll q r.effects st).world.counter key = st.world.counter key + 1 := by
  obtain ⟨before, after, split, early, _, late⟩ := List.filter_eq_cons_iff.mp (rationed.limits own).count
  have first : (applyAll q before st).world.counter key = st.world.counter key :=
    rationed.effectsAside q (fun e mem => split ▸ List.mem_append_left _ mem)
      (fun e mem => by simpa using early e mem) st
  have raised : ((Effect.step key .world (Step.up 1)).apply q (applyAll q before st)).2.world.counter key =
      st.world.counter key + 1 := steppedCounter first below small
  have last := rationed.effectsAside q (fun e mem => split ▸ List.mem_append_right _ (List.mem_cons_of_mem _ mem))
    (fun e mem => by simpa using List.filter_eq_nil_iff.mp late e mem)
    ((Effect.step key .world (Step.up 1)).apply q (applyAll q before st)).2
  rw [split, appliedAppend]
  exact last.trans raised

end Rule.Rationed

namespace Dispatcher
open RuleTable
variable {d : Dispatcher} {id : Int64} {key : String} {n : Nat}

theorem foundAnswer {now : Float} {o : Occasion} {memory : Store} {i : Nat} {r : Rule}
    (found : (d.tried now o memory).1 = some (i, r)) :
    (d.dispatchAt now o memory).1.toList.map (·.ruleId) = [r.id] := by
  unfold tried at found
  simp only [dispatchAt, found]
  rfl

structure CountedUpTo (n : Nat) (before after : Int) (fired : Nat) : Prop where
  exact_ : after = before + fired
  limit : before ≤ n → after ≤ n

theorem CountedUpTo.idle {before after : Int} (same : after = before) : CountedUpTo n before after 0 :=
  ⟨same.trans (Int.add_zero _).symm, same.le.trans⟩

theorem CountedUpTo.trans {first second third : Int} {early late : Nat} (a : CountedUpTo n first second early)
    (b : CountedUpTo n second third late) : CountedUpTo n first third (early + late) := by
  refine ⟨?_, fun within => b.limit (a.limit within)⟩
  rw [b.exact_, a.exact_, Int.natCast_add, Int.add_assoc]

section Counted
variable {now : Float} {o : Occasion} (memory : Store)
  (rules : ∀ r ∈ d.table.bucket o.concept o.who, r.Rationed id key n) (timeless : d.config.timeKey ≠ some key)

include rules timeless

theorem triedCounter :
    (d.tried now o memory).2.1.world.counter key = d.world.counter key ∧
    ∀ i r, (d.tried now o memory).1 = some (i, r) → ∀ c ∈ r.criteria,
      ∃ st : Stores, st.world.counter key = d.world.counter key ∧ (c.check { o with now := now } st).1 = true := by
  have fresh := d.refreshTimeTable now
  have kept : ∀ r ∈ (d.refreshTime now).table.bucket o.concept o.who, ∀ c ∈ r.criteria, ∀ st : Stores,
      st.world.counter key = d.world.counter key →
        (c.check { o with now := now } st).2.world.counter key = d.world.counter key :=
    fun r mem c checked st same => ((rules r (fresh ▸ mem)).checkKeeps checked st).trans same
  have told := Store.counterOf (d.refreshTimeWorld now timeless)
  exact foundHeld (q := { o with now := now }) memory
    (P := fun st => st.world.counter key = d.world.counter key) kept told

theorem firedCounted (small : n < 2 ^ 63) {i : Nat} {r : Rule} (found : (d.tried now o memory).1 = some (i, r)) :
    CountedUpTo n (d.world.counter key)
      ((applyAll { o with now := now } r.effects (d.tried now o memory).2.1).world.counter key) ([r.id].count id) := by
  obtain ⟨tried, met⟩ := triedCounter memory rules timeless
  have rationed := rules r (foundStands found)
  by_cases own : r.id = id
  · obtain ⟨c, checked, limits⟩ := rationed.checkedBelow own small
    obtain ⟨st, same, passed⟩ := met i r found c checked
    have below : d.world.counter key < n := same ▸ limits _ st passed
    have raised := rationed.raised (q := { o with now := now }) own small (tried ▸ below)
    rw [raised, tried, own]
    exact ⟨by simp, fun _ => below⟩
  · have aside := rationed.effectsAside { o with now := now } (fun _ mem => mem) (rationed.spares own).effects
      (d.tried now o memory).2.1
    rw [List.count_singleton, if_neg (by simpa using own)]
    exact .idle (aside.trans tried)

theorem dispatchCounted (small : n < 2 ^ 63) :
    CountedUpTo n (d.world.counter key) ((d.dispatchAt now o memory).2.1.world.counter key)
      (((d.dispatchAt now o memory).1.toList.map (·.ruleId)).count id) := by
  cases found : (d.tried now o memory).1 with
  | none =>
    rw [missedDispatch found]
    exact .idle (triedCounter memory rules timeless).1
  | some p =>
    obtain ⟨_, _, _, stores⟩ := foundDispatch found
    have world : (d.dispatchAt now o memory).2.1.world =
        (applyAll { o with now := now } p.2.effects (d.tried now o memory).2.1).world := congrArg Stores.world stores
    rw [world, foundAnswer found]
    exact firedCounted memory rules timeless small found

end Counted

def SparesWorld (key : String) (d : Dispatcher) (call : Call) : Prop :=
  ∀ world, call = .editWorld world → world.get? key = d.world.get? key

theorem stepConfig (d : Dispatcher) (call : Call) : (d.step call).2.config = d.config := by
  cases call with
  | dispatchAt now o memory => exact (d.settingsKept now o memory).2
  | dispatch o memory => exact (d.settingsKept d.clock.seconds o memory).2
  | dispatchEntity speaker o => exact ((d.without speaker).settingsKept d.clock.seconds (o.askedBy speaker) _).2
  | editWorld | editMemories | setClock | setDraws | addSink => rfl

structure Rations (id : Int64) (key : String) (n : Nat) (d : Dispatcher) : Prop where
  rules : ∀ c w, ∀ r ∈ d.table.bucket c w, r.Rationed id key n
  timeless : d.config.timeKey ≠ some key

theorem Rations.step (rations : d.Rations id key n) (call : Call) : (d.step call).2.Rations id key n where
  rules c w r stands := by
    obtain ⟨r', stood, same⟩ := stepStanding stands
    exact Rule.rationedUnmarked same (rations.rules c w r' stood)
  timeless := (d.stepConfig call) ▸ rations.timeless

def timesFired (d : Dispatcher) (id : Int64) (calls : List Call) : Nat :=
  ((d.responses calls).map (·.ruleId)).count id

theorem stepCounted {call : Call} (rations : d.Rations id key n) (small : n < 2 ^ 63)
    (spared : d.SparesWorld key call) :
    CountedUpTo n (d.world.counter key) ((d.step call).2.world.counter key)
      (((d.step call).1.toList.map (·.ruleId)).count id) := by
  obtain ⟨rules, timeless⟩ := rations
  cases call with
  | dispatchAt now o memory => exact dispatchCounted memory (rules _ _) timeless small
  | dispatch o memory => exact dispatchCounted memory (rules _ _) timeless small
  | dispatchEntity speaker o =>
    exact dispatchCounted (d := d.without speaker) (o := o.askedBy speaker) _ (rules _ _) timeless small
  | editWorld world => exact .idle (Store.counterOf (spared world rfl))
  | editMemories | setClock | setDraws | addSink => exact .idle rfl

theorem sessionCounted (rations : d.Rations id key n) (small : n < 2 ^ 63) {calls : List Call}
    (spared : d.Throughout (SparesWorld key) calls) :
    CountedUpTo n (d.world.counter key) ((d.after calls).world.counter key) (d.timesFired id calls) := by
  induction calls generalizing d with
  | nil => exact .idle rfl
  | cons call rest ih =>
    rw [timesFired, responses, List.map_append, List.count_append]
    exact (stepCounted rations small spared.1).trans (ih (rations.step call) spared.2)

theorem compiledRations {rows : List Row} {p : Row × Rule} (compiled : d.table = (Vocabulary.builtin.compile rows).table)
    (own : p ∈ Vocabulary.builtin.accepted [] rows) (limits : p.1.Limits key n)
    (others : ∀ p' ∈ Vocabulary.builtin.accepted [] rows, p'.1.id ≠ p.1.id → p'.1.SparesWorld key)
    (timeless : d.config.timeKey ≠ some key) : d.Rations p.1.id key n := by
  refine ⟨fun c w r stands => ?_, timeless⟩
  have put : r ∈ (Vocabulary.builtin.rulesOfRows [] rows).1 := standsOfRules (compiled ▸ stands)
  have authored := Vocabulary.compiledAuthored rows r put
  have distinct := Vocabulary.builtin.ruleIdsDistinct rows
  rw [← Vocabulary.acceptedRules] at put distinct
  obtain ⟨p', mem, rfl⟩ := List.mem_map.mp put
  have read := (Vocabulary.acceptedRead own).2.2
  have read' := (Vocabulary.acceptedRead mem).2.2
  refine ⟨authored, fun same => ?_, fun other => ?_⟩
  · have numbers : p'.2.id = p.2.id := same.trans (Vocabulary.ruleId read).symm
    have one : p'.2 = p.2 := List.inj_on_of_nodup_map distinct put (List.mem_map_of_mem own) numbers
    exact one ▸ Vocabulary.rowLimits read limits
  · exact Vocabulary.rowSpares read' (others p' mem (Vocabulary.ruleId read' ▸ other))

theorem firingsRationed {rows : List Row} {p : Row × Rule} (compiled : d.table = (Vocabulary.builtin.compile rows).table)
    (own : p ∈ Vocabulary.builtin.accepted [] rows) (limits : p.1.Limits key n)
    (others : ∀ p' ∈ Vocabulary.builtin.accepted [] rows, p'.1.id ≠ p.1.id → p'.1.SparesWorld key) (small : n < 2 ^ 63)
    (timeless : d.config.timeKey ≠ some key) (fresh : d.world.get? key = none) {calls : List Call}
    (spared : d.Throughout (SparesWorld key) calls) :
    d.timesFired p.1.id calls ≤ n ∧ (d.after calls).world.counter key = d.timesFired p.1.id calls := by
  have rations := compiledRations compiled own limits others timeless
  obtain ⟨counted, within⟩ := sessionCounted rations small spared
  have zero : d.world.counter key = 0 := by
    unfold Store.counter Store.read?
    rw [fresh]
    rfl
  rw [zero, Int.zero_add] at counted
  exact ⟨Int.ofNat_le.mp (counted ▸ within (zero ▸ Int.natCast_nonneg n)), counted⟩

def alarm : Row where
  id := 1
  concept := "SeeEnemy"
  who := "Guard"
  response := "Alarm!"
  criteria := "w Alarms < 2"
  remember := "w Alarms + 1"
  cooldown := some 0.0

def mutter : Row where
  id := 2
  concept := "SeeEnemy"
  who := "Guard"
  response := "Not again."
  cooldown := some 0.0

def garrison : Dispatcher where
  table := (Vocabulary.builtin.compile [alarm, mutter]).table

def enemyInSight : Occasion where
  concept := "SeeEnemy"
  who := "Guard"

def enemySeen : List Call :=
  [.dispatchEntity ⟨1⟩ enemyInSight, .editWorld (Assoc.empty.insert "Alarms" (.int 1)), .dispatchAt 3.0 enemyInSight {},
    .dispatchEntity ⟨2⟩ enemyInSight]

theorem firingsRationedOfThreeGuards :
    garrison.Throughout (SparesWorld "Alarms") enemySeen ∧
    (garrison.responses enemySeen).map (·.ruleId) = [1, 1, 2] ∧
    garrison.timesFired 1 enemySeen ≤ 2 ∧
    (garrison.after enemySeen).world.counter "Alarms" = garrison.timesFired 1 enemySeen := by
  have spared : garrison.Throughout (SparesWorld "Alarms") enemySeen := by
    refine ⟨nofun, ?_, nofun, nofun, trivial⟩
    rintro world ⟨⟩
    rw [garrison, Vocabulary.compiledInTurn]
    rfl
  have compiled : garrison.table = (Vocabulary.builtin.compile [alarm, mutter]).table := rfl
  have two : Literal.Denotes alarm.id "2" (.int 2) := (Literal.interpretOk (by decide)).mp rfl
  have one : Literal.Denotes alarm.id "1" (.int 1) := (Literal.interpretOk (by decide)).mp rfl
  have limits : alarm.Limits "Alarms" 2 :=
    ⟨⟨"w Alarms < 2", "2", rfl, rfl, two⟩, ⟨"w Alarms + 1", "1", rfl, rfl, one⟩⟩
  have own : (alarm, _) ∈ Vocabulary.builtin.accepted [] [alarm, mutter] := List.mem_cons_self
  refine ⟨spared, ?_, firingsRationed compiled own limits ?_ (by decide) (by decide) rfl spared⟩
  · rw [garrison, Vocabulary.compiledInTurn]
    rfl
  · intro p' mem other
    obtain rfl := (List.mem_pair.mp mem).resolve_left fun same => other (same ▸ rfl)
    exact ⟨nofun, nofun⟩

end Dispatcher

end Repartee
