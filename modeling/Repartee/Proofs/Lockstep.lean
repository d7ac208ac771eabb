import Repartee.Dispatcher

/-! Two runs side by side. A relation between stores is kept in step when both sides show the same under every
key wherever a source of the query leads, and when it survives opening such a place or writing to it on both sides. Whatever
a query then does, it gives the same answers on both sides and leaves related stores. Which writes have to be
allowed is said of each criterion, effect and rule, so that a relation may count on there being no others.
A property of one run is the case in which both sides are equal. -/
namespace Repartee

structure Lockstep (q : Query) (allowed : Place → String → Value → Prop) (R : Stores → Stores → Prop) : Prop where
  shown : ∀ {st st'} source key, R st st' →
    (st'.contents q.toOccasion (q.place source)).get? key = (st.contents q.toOccasion (q.place source)).get? key
  opened : ∀ {st st'} source, R st st' → R (st.openAt (q.place source)) (st'.openAt (q.place source))
  written : ∀ {st st'} source key v, allowed (q.place source) key v → R st st' →
    R (st.write (q.place source) key v) (st'.write (q.place source) key v)

structure InStep {σ τ α : Type} (R : σ → τ → Prop) (x : α × σ) (x' : α × τ) : Prop where
  answer : x'.1 = x.1
  left : R x.2 x'.2

theorem InStep.map {σ τ α β : Type} {R : σ → τ → Prop} {x : α × σ} {x' : α × τ} (same : InStep R x x') (f : α → β) :
    InStep R (f x.1, x.2) (f x'.1, x'.2) := ⟨congrArg f same.answer, same.left⟩

namespace Lockstep

/- A property of one run, as a relation between two equal ones. -/
def Alone (P : Stores → Prop) (st st' : Stores) : Prop := st' = st ∧ P st

theorem alone {q : Query} {allowed : Place → String → Value → Prop} {P : Stores → Prop}
    (opened : ∀ {st} source, P st → P (st.openAt (q.place source)))
    (written : ∀ {st} source key v, allowed (q.place source) key v → P st → P (st.write (q.place source) key v)) :
    Lockstep q allowed (Alone P) where
  shown _ _ := by
    rintro ⟨rfl, _⟩
    rfl
  opened source := by
    rintro ⟨rfl, holds⟩
    exact ⟨rfl, opened source holds⟩
  written source key v may := by
    rintro ⟨rfl, holds⟩
    exact ⟨rfl, written source key v may holds⟩

section Query
variable {q : Query} {allowed : Place → String → Value → Prop} {R : Stores → Stores → Prop}
  (both : Lockstep q allowed R) {st st' : Stores} (alike : R st st')

include both alike

theorem get {k : Kind} {key : String} {source : Source}
    (may : allowed (q.place source) key (Value.ofCarrier k k.zero)) :
    InStep R (q.get k key source st) (q.get k key source st') := by
  have shown : (st'.contents q.toOccasion (q.place source)).read? k key =
      (st.contents q.toOccasion (q.place source)).read? k key :=
    congrArg (Option.bind · (Value.as? k)) (both.shown source key alike)
  cases read : (st.contents q.toOccasion (q.place source)).read? k key with
  | some x =>
    rw [Query.getFound read, Query.getFound (shown.trans read)]
    exact ⟨rfl, alike⟩
  | none =>
    rw [Query.getMissed read, Query.getMissed (shown.trans read)]
    exact ⟨rfl, both.written source key _ may (both.opened source alike)⟩

theorem value {k : Kind} {key : String} {source : Source}
    (may : allowed (q.place source) key (Value.ofCarrier k k.zero)) :
    InStep R (q.value k key source st) (q.value k key source st') := (both.get alike may).map Prod.fst

theorem getNumber {key : String} {source : Source} (may : allowed (q.place source) key (.float 0.0)) :
    InStep R (q.getNumber key source st) (q.getNumber key source st') := by
  have shown : (st'.contents q.toOccasion (q.place source)).number? key =
      (st.contents q.toOccasion (q.place source)).number? key :=
    congrArg (Option.bind · Value.number?) (both.shown source key alike)
  cases read : (st.contents q.toOccasion (q.place source)).number? key with
  | some x =>
    rw [Query.getNumberFound read, Query.getNumberFound (shown.trans read)]
    exact ⟨rfl, alike⟩
  | none =>
    rw [Query.getNumberMissed read, Query.getNumberMissed (shown.trans read)]
    exact ⟨rfl, both.written source key _ may (both.opened source alike)⟩

theorem set {key : String} {v : Value} {source : Source} (may : allowed (q.place source) key v) :
    InStep R (q.set key v source st) (q.set key v source st') := by
  have kept := both.written source key v may alike
  unfold Query.set
  cases place : q.place source with
  | event | character | nowhere => exact ⟨rfl, alike⟩
  | memory | world | entity id =>
    rw [place] at kept
    exact ⟨rfl, kept⟩

theorem transform {k : Kind} {key : String} {source : Source} (f : k.Carrier → k.Carrier)
    (may : ∀ v, allowed (q.place source) key v) :
    InStep R (q.transform k key source f st) (q.transform k key source f st') := by
  obtain ⟨answer, left⟩ := both.value alike (may (Value.ofCarrier k k.zero))
  simp only [Query.transform, answer]
  exact (both.set left (may _)).map _

theorem increment {key : String} {source : Source} (amount : Int64) (may : ∀ v, allowed (q.place source) key v) :
    InStep R (q.increment key source amount st) (q.increment key source amount st') := by
  obtain ⟨answer, left⟩ := both.value alike (may (Value.ofCarrier .int Kind.int.zero))
  simp only [Query.increment, answer]
  cases Query.counterSum? (q.value .int key source st).1 amount with
  | none => exact ⟨rfl, left⟩
  | some sum => exact (both.set left (may _)).map _

theorem run {α : Type} (plan : Inquiry α) (may : ∀ p key v, allowed p key v) :
    InStep R (plan.run q st) (plan.run q st') := by
  induction plan generalizing st st' with
  | done answer => exact ⟨rfl, alike⟩
  | get k key source next ih =>
    obtain ⟨answer, left⟩ := both.get (k := k) alike (may (q.place source) key _)
    simp only [Inquiry.run, answer]
    exact ih _ left
  | getNumber key source next ih =>
    obtain ⟨answer, left⟩ := both.getNumber alike (may (q.place source) key _)
    simp only [Inquiry.run, answer]
    exact ih _ left
  | set key v source next ih =>
    obtain ⟨answer, left⟩ := both.set alike (may (q.place source) key v)
    simp only [Inquiry.run, answer]
    exact ih _ left

end Query

end Lockstep

def Criterion.Writes (q : Query) : Criterion → Place → String → Value → Prop
  | .compare key source _ literal, p, k, v =>
    p = q.place source ∧ k = key ∧ v = Value.ofCarrier literal.kind literal.kind.zero
  | .within key source _, p, k, v => p = q.place source ∧ k = key ∧ v = .float 0.0
  | .custom .., _, _, _ => True

def Effect.Writes (q : Query) : Effect → Place → String → Value → Prop
  | .set key source v, p, k, v' => p = q.place source ∧ k = key ∧ v' = v
  | .step key source _, p, k, _ => p = q.place source ∧ k = key
  | .compute key source .., p, k, _ => p = q.place source ∧ k = key
  | .custom .., _, _, _ => True

namespace Lockstep
variable {q : Query} {allowed : Place → String → Value → Prop} {R : Stores → Stores → Prop}

section Rules
variable (both : Lockstep q allowed R)

include both

theorem check {c : Criterion} (may : ∀ p key v, c.Writes q p key v → allowed p key v) {st st' : Stores}
    (alike : R st st') : InStep R (c.check q st) (c.check q st') := by
  cases c with
  | compare key source op literal =>
    exact (both.value alike (may _ _ _ ⟨rfl, rfl, rfl⟩)).map (op.holds literal.kind · (literal.valueAt q.now))
  | within key source interval => exact (both.getNumber alike (may _ _ _ ⟨rfl, rfl, rfl⟩)).map (interval.contains ·.1)
  | custom label test => exact both.run alike (test q) fun p key v => may p key v trivial

theorem checkAll {criteria : List Criterion} (may : ∀ c ∈ criteria, ∀ p key v, c.Writes q p key v → allowed p key v)
    {st st' : Stores} (alike : R st st') : InStep R (checkAll q criteria st) (checkAll q criteria st') := by
  induction criteria generalizing st st' with
  | nil => exact ⟨rfl, alike⟩
  | cons c rest ih =>
    obtain ⟨answer, left⟩ := both.check (may c List.mem_cons_self) alike
    simp only [Repartee.checkAll]
    cases first : c.check q st with
    | mk verdict after =>
      cases second : c.check q st' with
      | mk verdict' after' =>
        rw [first, second] at answer left
        cases answer
        cases verdict with
        | true => exact ih (fun c mem => may c (List.mem_cons_of_mem _ mem)) left
        | false => exact ⟨rfl, left⟩

theorem apply {e : Effect} (may : ∀ p key v, e.Writes q p key v → allowed p key v) {st st' : Stores}
    (alike : R st st') : InStep R (e.apply q st) (e.apply q st') := by
  cases e with
  | set key source v => exact both.set alike (may _ _ _ ⟨rfl, rfl, rfl⟩)
  | step key source step => exact (both.increment alike step.change fun v => may _ _ v ⟨rfl, rfl⟩).map (Except.map fun _ => ())
  | compute key source op operand =>
    have combined := both.transform (k := .float) alike (op.apply · (operand.valueAt q.now)) fun v => may _ _ v ⟨rfl, rfl⟩
    exact combined.map (Except.map fun _ => ())
  | custom label run => exact both.run alike (run q) fun p key v => may p key v trivial

theorem applyAll {effects : List Effect} (may : ∀ e ∈ effects, ∀ p key v, e.Writes q p key v → allowed p key v)
    {st st' : Stores} (alike : R st st') : R (applyAll q effects st) (applyAll q effects st') := by
  induction effects generalizing st st' with
  | nil => exact alike
  | cons e rest ih =>
    exact ih (fun e mem => may e (List.mem_cons_of_mem _ mem)) (both.apply (may e List.mem_cons_self) alike).left

end Rules

end Lockstep

theorem passingInStep {σ τ : Type} {trial : Rule → σ → Bool × σ} {trial' : Rule → τ → Bool × τ} {R : σ → τ → Prop}
    (now : Float) (mark : Nat) {rules : List (Rule × Nat)}
    (trials : ∀ p ∈ rules, ∀ s s', R s s' → InStep R (trial p.1 s) (trial' p.1 s')) {s : σ} {s' : τ} (alike : R s s') :
    InStep R (passing trial now mark rules s) (passing trial' now mark rules s') := by
  induction rules generalizing mark s s' with
  | nil => exact ⟨rfl, alike⟩
  | cons p rest ih =>
    obtain ⟨r, i⟩ := p
    have later (mark : Nat) {s : σ} {s' : τ} (alike : R s s') :
        InStep R (passing trial now mark rest s) (passing trial' now mark rest s') :=
      ih mark (fun p mem => trials p (List.mem_cons_of_mem _ mem)) alike
    simp only [passing]
    split
    · exact ⟨rfl, alike⟩
    · split
      · obtain ⟨answer, left⟩ := trials (r, i) List.mem_cons_self s s' alike
        cases first : trial r s with
        | mk verdict after =>
          cases second : trial' r s' with
          | mk verdict' after' =>
            rw [first, second] at answer left
            cases answer
            cases verdict with
            | true => exact (later _ left).map _
            | false => exact later _ left
      · exact later _ alike

theorem selectByInStep {σ τ δ : Type} {trial : Rule → σ → Bool × σ} {trial' : Rule → τ → Bool × τ} {R : σ → τ → Prop}
    (draw : δ → List Nat → Option Nat × δ) (now : Float) {bucket : List Rule}
    (trials : ∀ r ∈ bucket, ∀ s s', R s s' → InStep R (trial r s) (trial' r s')) {s : σ} {s' : τ} (alike : R s s')
    (d : δ) :
    (selectBy trial' draw now bucket s' d).1 = (selectBy trial draw now bucket s d).1 ∧
    (selectBy trial' draw now bucket s' d).2.2 = (selectBy trial draw now bucket s d).2.2 ∧
    R (selectBy trial draw now bucket s d).2.1 (selectBy trial' draw now bucket s' d).2.1 := by
  have inside : ∀ p ∈ bucket.zipIdx, p.1 ∈ bucket := fun p mem => (List.fst_mem_of_mem_zipIdx mem)
  obtain ⟨answer, left⟩ := passingInStep now 0 (fun p mem => trials p.1 (inside p mem)) alike
  simp only [selectBy, candidates, answer]
  exact ⟨trivial, trivial, left⟩

end Repartee
