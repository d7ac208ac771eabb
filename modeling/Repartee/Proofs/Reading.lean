import Repartee.Proofs.Selection

/-! What a read does to other reads. A read at a kind shows the value under its key, or the zero of the kind
when no value of that kind is there, and then that zero is written. The next read of the same kind sees
what the first one saw, and so does every read of another cell; only a read of the same cell at another
kind can see the difference. Criteria that compare read one cell each, so as long as no two of them read one
cell at different kinds, each answers as if it were the only one. -/
namespace Repartee

structure Look where
  place : Place
  key : String
  kind : Kind
  deriving DecidableEq

namespace Look

def shown (o : Occasion) (st : Stores) (look : Look) : look.kind.Carrier :=
  ((st.contents o look.place).read? look.kind look.key).getD look.kind.zero

def SameCell (a b : Look) : Prop := a.place = b.place ∧ a.key = b.key ∧ a.place.writable = true
instance (a b) : Decidable (SameCell a b) := by unfold SameCell; infer_instance

end Look

namespace Query

def look (q : Query) (k : Kind) (key : String) (source : Source) : Look := ⟨q.place source, key, k⟩

theorem getShown (q : Query) (k : Kind) (key : String) (source : Source) (st : Stores) :
    (q.get k key source st).1.1 = (q.look k key source).shown q.toOccasion st := by
  unfold Look.shown
  cases read : (st.contents q.toOccasion (q.place source)).read? k key with
  | some x => simp only [getFound read, look, read, Option.getD_some]
  | none => simp only [getMissed read, look, read, Option.getD_none]

theorem missShown {q : Query} {k : Kind} {key : String} {source : Source} {st : Stores}
    (miss : (st.contents q.toOccasion (q.place source)).read? k key = none) {look : Look}
    (agree : (q.look k key source).SameCell look → k = look.kind) :
    look.shown q.toOccasion ((st.openAt (q.place source)).write (q.place source) key (Value.ofCarrier k k.zero)) =
      look.shown q.toOccasion st := by
  obtain ⟨place, key', kind⟩ := look
  cases open_ : (q.place source).writable with
  | false =>
    rw [Stores.writeClosed _ key _ open_]
    simp only [Look.shown, Stores.contentsOpenAt]
  | true =>
    simp only [Look.shown, Stores.contentsWrite _ _ place key _ open_, Stores.contentsOpenAt]
    split
    · rename_i here
      subst here
      by_cases cell : key' = key
      · subst cell
        obtain rfl : k = kind := agree ⟨rfl, rfl, open_⟩
        rw [miss]
        simp [Store.read?]
      · simp only [Store.read?, Assoc.getInsertOther _ _ cell]
    · rfl

theorem getKeeps {q : Query} {k : Kind} {key : String} {source : Source} {st : Stores} {look : Look}
    (agree : (q.look k key source).SameCell look → k = look.kind) :
    look.shown q.toOccasion (q.get k key source st).2 = look.shown q.toOccasion st := by
  cases read : (st.contents q.toOccasion (q.place source)).read? k key with
  | some x => rw [getFound read]
  | none =>
    rw [getMissed read]
    exact missShown read agree

end Query

def Criterion.look? (q : Query) : Criterion → Option Look
  | .compare key source _ literal => some (q.look literal.kind key source)
  | .within .. | .custom .. => none

def SameShown (q : Query) (looks : List Look) (st st' : Stores) : Prop :=
  ∀ look ∈ looks, look.shown q.toOccasion st' = look.shown q.toOccasion st

theorem SameShown.trans {q : Query} {looks : List Look} {st st' st'' : Stores} (first : SameShown q looks st st')
    (second : SameShown q looks st' st'') : SameShown q looks st st'' :=
  fun look seen => (second look seen).trans (first look seen)

def KindsAgree (looks : List Look) : Prop := ∀ a ∈ looks, ∀ b ∈ looks, a.SameCell b → a.kind = b.kind
instance (looks) : Decidable (KindsAgree looks) := by unfold KindsAgree; infer_instance

theorem checkKeeps {q : Query} {looks : List Look} (agree : KindsAgree looks) {c : Criterion} {look : Look}
    (reads : c.look? q = some look) (seen : look ∈ looks) (st : Stores) : SameShown q looks st (c.check q st).2 := by
  cases c with
  | compare key source op literal =>
    cases reads
    intro other also
    exact Query.getKeeps fun same => agree _ seen other also same
  | within key source interval => contradiction
  | custom label test => contradiction

theorem checkShown {q : Query} {looks : List Look} {c : Criterion} {look : Look} (reads : c.look? q = some look)
    (seen : look ∈ looks) {st st' : Stores} (same : SameShown q looks st st') : (c.check q st').1 = (c.check q st).1 := by
  cases c with
  | compare key source op literal =>
    cases reads
    have answer (st : Stores) : (Criterion.check (.compare key source op literal) q st).1 =
        op.holds literal.kind ((q.look literal.kind key source).shown q.toOccasion st) (literal.valueAt q.now) := by
      rw [← Query.getShown]
      rfl
    rw [answer, answer, same _ seen]
  | within key source interval => contradiction
  | custom label test => contradiction

def Rule.holdsAlone (r : Rule) (q : Query) (st : Stores) : Bool := r.criteria.all (fun c => (c.check q st).1)

def Reads (q : Query) (looks : List Look) (criteria : List Criterion) : Prop :=
  ∀ c ∈ criteria, ∃ look ∈ looks, c.look? q = some look

theorem checkAllAlone {q : Query} {looks : List Look} (agree : KindsAgree looks) {criteria : List Criterion}
    (reads : Reads q looks criteria) {st st' : Stores} (same : SameShown q looks st st') :
    (checkAll q criteria st').1 = criteria.all (fun c => (c.check q st).1) ∧
      SameShown q looks st (checkAll q criteria st').2 := by
  -- What carries the induction is that every look still shows what it showed at the start.
  induction criteria generalizing st' with
  | nil => exact ⟨rfl, same⟩
  | cons c rest ih =>
    obtain ⟨look, seen, read⟩ := reads c List.mem_cons_self
    have answer := checkShown read seen same
    have left := same.trans (checkKeeps agree read seen st')
    simp only [checkAll, List.all_cons, ← answer]
    cases checked : c.check q st' with
    | mk verdict after =>
      rw [checked] at left
      cases verdict with
      | true =>
        simpa using ih (fun c mem => reads c (List.mem_cons_of_mem _ mem)) left
      | false => exact ⟨rfl, left⟩

theorem turnsAlone {q : Query} {looks : List Look} (agree : KindsAgree looks) {rules : List (Rule × Nat)}
    (reads : ∀ p ∈ rules, Reads q looks p.1.criteria) {st st' : Stores} (same : SameShown q looks st st') :
    ∀ t ∈ Selection.turns (fun r => r.passes q) rules st', t.passed = t.rule.holdsAlone q st := by
  induction rules generalizing st' with
  | nil => nofun
  | cons p rest ih =>
    obtain ⟨answer, left⟩ := checkAllAlone agree (reads p List.mem_cons_self) same
    intro t mem
    rcases List.mem_cons.mp mem with rfl | later
    · exact answer
    · exact ih (fun p mem => reads p (List.mem_cons_of_mem _ mem)) left t later

end Repartee
