import Repartee.Proofs.Footprint

/-! What holds while rules are tried. A property that no check of a criterion breaks holds at every check of a
dispatch, so a rule that was chosen met each of its criteria in a state with that property. A line names one cell, by
its source and its key; checking or applying it leaves every other cell alone. -/
namespace Repartee

namespace Criterion

def named? : Criterion → Option (Source × String)
  | compare key source .. => some (source, key)
  | within key source _ => some (source, key)
  | custom .. => none

theorem writesNamed {q : Query} {c : Criterion} {source : Source} {key key' : String} {p : Place} {v : Value}
    (named : c.named? = some (source, key)) (writes : c.Writes q p key' v) : p = q.place source ∧ key' = key := by
  cases c with
  | compare | within =>
    cases named
    exact ⟨writes.1, writes.2.1⟩
  | custom => contradiction

theorem Authored.named {c : Criterion} (authored : c.Authored) : ∃ source key, c.named? = some (source, key) := by
  cases authored with
  | line read =>
    have compares := Vocabulary.builtinCompares read { now := 0.0 }
    cases c with
    | compare key source op literal => exact ⟨source, key, rfl⟩
    | within | custom => contradiction
  | compare key source op literal => exact ⟨source, key, rfl⟩
  | within key source interval => exact ⟨source, key, rfl⟩

end Criterion

namespace Effect

def named? : Effect → Option (Source × String)
  | set key source _ => some (source, key)
  | step key source _ => some (source, key)
  | compute key source .. => some (source, key)
  | custom .. => none

theorem writesNamed {q : Query} {e : Effect} {source : Source} {key key' : String} {p : Place} {v : Value}
    (named : e.named? = some (source, key)) (writes : e.Writes q p key' v) : p = q.place source ∧ key' = key := by
  cases e with
  | set =>
    cases named
    exact ⟨writes.1, writes.2.1⟩
  | step | compute =>
    cases named
    exact ⟨writes.1, writes.2⟩
  | custom => contradiction

theorem Authored.named {e : Effect} (authored : e.Authored) : ∃ source key, e.named? = some (source, key) := by
  obtain ⟨_, _, cell⟩ := authored.cell { now := 0.0 }
  cases e with
  | set key source | step key source | compute key source => exact ⟨source, key, rfl⟩
  | custom => contradiction

end Effect

theorem checkedAside {q : Query} {c : Criterion} {p : Place} {key : String} (aside : ∀ v, ¬ c.Writes q p key v)
    (st : Stores) : (c.check q st).2.cell q.toOccasion p key = st.cell q.toOccasion p key := by
  have both := cellAlone q (c.Writes q) p key (· = st.cell q.toOccasion p key) fun v writes => absurd writes (aside v)
  exact (both.check (fun _ _ _ => id) ⟨rfl, rfl⟩).left.2

theorem appliedAppend (q : Query) (first second : List Effect) (st : Stores) :
    applyAll q (first ++ second) st = applyAll q second (applyAll q first st) := by
  induction first generalizing st with
  | nil => rfl
  | cons e rest ih => exact ih (e.apply q st).2

theorem checkAllHeld {q : Query} {P : Stores → Prop} {criteria : List Criterion}
    (kept : ∀ c ∈ criteria, ∀ st, P st → P (c.check q st).2) {st : Stores} (holds : P st) :
    P (checkAll q criteria st).2 ∧
      ((checkAll q criteria st).1 = true → ∀ c ∈ criteria, ∃ st', P st' ∧ (c.check q st').1 = true) := by
  induction criteria generalizing st with
  | nil => exact ⟨holds, fun _ _ mem => absurd mem List.not_mem_nil⟩
  | cons c rest ih =>
    have left := kept c List.mem_cons_self st holds
    have later := fun c mem => kept c (List.mem_cons_of_mem _ mem)
    simp only [checkAll]
    cases checked : c.check q st with
    | mk verdict after =>
      rw [checked] at left
      cases verdict with
      | false => exact ⟨left, fun passed => absurd passed Bool.false_ne_true⟩
      | true =>
        obtain ⟨end_, held⟩ := ih later left
        refine ⟨end_, fun passed c' mem => ?_⟩
        rcases List.mem_cons.mp mem with rfl | mem
        · exact ⟨st, holds, congrArg Prod.fst checked⟩
        · exact held passed c' mem

theorem Selection.turnsKeep {σ : Type} (trial : Rule → σ → Bool × σ) {P : σ → Prop} {rules : List (Rule × Nat)}
    (kept : ∀ p ∈ rules, ∀ s, P s → P (trial p.1 s).2) {s : σ} (holds : P s) :
    P (leaves s (turns trial rules s)) ∧
      ∀ t ∈ turns trial rules s, P t.before ∧ t.passed = (trial t.rule t.before).1 := by
  induction rules generalizing s with
  | nil => exact ⟨holds, nofun⟩
  | cons p rest ih =>
    obtain ⟨end_, later⟩ := ih (fun p mem => kept p (List.mem_cons_of_mem _ mem)) (kept p List.mem_cons_self s holds)
    refine ⟨end_, fun t mem => ?_⟩
    rcases List.mem_cons.mp mem with rfl | mem
    · exact ⟨holds, rfl⟩
    · exact later t mem

theorem Selection.chosenHeld {σ : Type} (trial : Rule → σ → Bool × σ) (now : Float) {P : σ → Prop} {bucket : List Rule}
    (kept : ∀ r ∈ bucket, ∀ s, P s → P (trial r s).2) {s : σ} (holds : P s) (d : Draws) :
    P (selectBy trial Draws.choose now bucket s d).2.1 ∧
    ∀ i, (selectBy trial Draws.choose now bucket s d).1 = some i →
      ∃ r before, bucket[i]? = some r ∧ P before ∧ (trial r before).1 = true := by
  obtain ⟨walked, left, outcome⟩ := prefixChosen trial now bucket s d
  have inside : ∀ p ∈ eligible now walked, p.1 ∈ bucket := fun p mem => by
    have whole : p ∈ bucket.zipIdx := outcome.split ▸ List.mem_append_left left (List.mem_filter.mp mem).1
    exact List.fst_mem_of_mem_zipIdx whole
  obtain ⟨end_, turns⟩ := turnsKeep trial (fun p mem => kept p.1 (inside p mem)) holds
  refine ⟨outcome.state ▸ end_, fun i picked => ?_⟩
  obtain ⟨t, top, _, stands, _⟩ := outcome.chosen i picked
  obtain ⟨mem, passing⟩ := List.mem_filter.mp top
  obtain ⟨before, verdict⟩ := turns t mem
  have passed : t.passed = true := (decide_eq_true_eq.mp passing).1
  exact ⟨t.rule, t.before, stands, before, verdict.symm.trans passed⟩

namespace Dispatcher

theorem foundHeld {d : Dispatcher} {q : Query} (memory : Store) {P : Stores → Prop}
    (kept : ∀ r ∈ d.table.bucket q.concept q.who, ∀ c ∈ r.criteria, ∀ st, P st → P (c.check q st).2)
    (holds : P (d.stores memory)) :
    P (d.findRule q memory).2.1 ∧ ∀ i r, (d.findRule q memory).1 = some (i, r) →
      ∀ c ∈ r.criteria, ∃ st, P st ∧ (c.check q st).1 = true := by
  unfold RuleTable.bucket at kept
  unfold findRule
  cases present : d.table.bucket? q.concept q.who with
  | none => exact ⟨holds, nofun⟩
  | some bucket =>
    rw [present] at kept
    obtain ⟨end_, met⟩ := Selection.chosenHeld (fun r => r.passes q) q.now (P := P)
      (fun r mem st holds => (checkAllHeld (kept r mem) holds).1) holds d.draws
    refine ⟨end_, fun i r chosen => ?_⟩
    obtain ⟨j, picked, here⟩ := Option.bind_eq_some_iff.mp chosen
    obtain ⟨r', stands, same⟩ := Option.map_eq_some_iff.mp here
    cases same
    obtain ⟨r', before, stands', under, passed⟩ := met i picked
    obtain rfl : r = r' := Option.some.inj (stands.symm.trans stands')
    exact (checkAllHeld (kept r (List.mem_of_getElem? stands)) under).2 passed

theorem dispatchedCell {d : Dispatcher} {now : Float} {o : Occasion} {memory : Store} {p : Place} {key : String}
    (Fits : Option Value → Prop) (written : ∀ v, d.Writes { o with now := now } p key v → Fits (some v))
    (holds : Fits ((d.stores memory).cell o p key)) :
    Fits (((d.dispatchAt now o memory).2.1.stores (d.dispatchAt now o memory).2.2).cell o p key) :=
  dispatchedKeeps (cellAlone _ _ p key Fits written) holds

end Dispatcher

end Repartee
