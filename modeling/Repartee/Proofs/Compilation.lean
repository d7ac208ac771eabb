import Mathlib.Data.List.Forall2
import Mathlib.Data.List.Perm.Basic
import Repartee.Compile

/-! Which rows become rules. A row is accepted when it reads as a rule and no accepted row before it has
its number, so accepted rows have pairwise distinct numbers, and rows with distinct numbers are accepted
whenever they read. Lines are read one by one; their order decides only the order of what they give and
which refusal is reported. -/
namespace Repartee.Vocabulary

theorem relatedOrigin {α β : Type} {R : α → β → Prop} {as : List α} {bs : List β} (related : List.Forall₂ R as bs)
    {b : β} (mem : b ∈ bs) : ∃ a ∈ as, R a b := by
  induction related with
  | nil => contradiction
  | cons head _ ih =>
    rcases List.mem_cons.mp mem with rfl | later
    · exact ⟨_, List.mem_cons_self, head⟩
    · obtain ⟨a, inside, one⟩ := ih later
      exact ⟨a, List.mem_cons_of_mem _ inside, one⟩

theorem readLinesOk {α : Type} {ruleId : Int64} {read : String → Int64 → Except LineError α} {lines : List String}
    {as : List α} :
    readLines ruleId read lines = .ok as ↔ List.Forall₂ (fun text a => read text ruleId = .ok a) lines as := by
  induction lines generalizing as with
  | nil =>
    simp only [readLines, Except.ok.injEq, List.forall₂_nil_left_iff]
    exact eq_comm
  | cons text rest ih =>
    simp only [readLines]
    cases head : read text ruleId with
    | error cause => cases as <;> simp [head]
    | ok a =>
      cases tail : readLines ruleId read rest with
      | error e => cases as <;> simp [head, ← ih, tail]
      | ok as' => cases as <;> simp [head, ← ih, tail]

def ruleWith (row : Row) (criteria : List Criterion) (effects : List Effect) : Rule :=
  { id := row.id, concept := row.concept, who := row.who, response := row.response,
    criteria := criteria, effects := effects, cooldown := row.cooldown }

theorem ruleOfRowOk {v : Vocabulary} {row : Row} {rule : Rule} : v.ruleOfRow row = .ok rule ↔
    ∃ criteria effects, readLines row.id v.criterionOfLine (linesOfCell row.criteria) = .ok criteria ∧
      readLines row.id v.effectOfLine (linesOfCell row.remember) = .ok effects ∧
      (∀ x ∈ row.cooldown, cooldownAllowed x = true) ∧ rule = ruleWith row criteria effects := by
  unfold ruleOfRow
  cases readLines row.id v.criterionOfLine (linesOfCell row.criteria) with
  | error e => simp [bind, Except.bind]
  | ok criteria =>
    cases readLines row.id v.effectOfLine (linesOfCell row.remember) with
    | error e => simp [bind, Except.bind]
    | ok effects =>
      have given : (∃ cs es, (.ok criteria : Except RowError _) = .ok cs ∧
          (.ok effects : Except RowError _) = .ok es ∧ (∀ x ∈ row.cooldown, cooldownAllowed x = true) ∧ rule = ruleWith row cs es) ↔
          (∀ x ∈ row.cooldown, cooldownAllowed x = true) ∧ ruleWith row criteria effects = rule := by
        constructor
        · rintro ⟨_, _, ⟨⟩, ⟨⟩, allowed, rfl⟩
          exact ⟨allowed, rfl⟩
        · rintro ⟨allowed, rfl⟩
          exact ⟨_, _, rfl, rfl, allowed, rfl⟩
      rw [given]
      cases wait : row.cooldown with
      | none => simp [bind, Except.bind, ruleWith, wait]
      | some x => cases allowed : cooldownAllowed x <;> simp [bind, Except.bind, ruleWith, wait, allowed]

def accepted (v : Vocabulary) (taken : List Int64) : List Row → List (Row × Rule)
  | [] => []
  | row :: rest =>
    if row.id ∈ taken then v.accepted taken rest
    else match v.ruleOfRow row with
    | .error _ => v.accepted taken rest
    | .ok rule => (row, rule) :: v.accepted (row.id :: taken) rest

theorem acceptedRules (v : Vocabulary) (taken : List Int64) (rows : List Row) :
    (v.accepted taken rows).map Prod.snd = (v.rulesOfRows taken rows).1 := by
  induction rows generalizing taken with
  | nil => rfl
  | cons row rest ih =>
    simp only [accepted, rulesOfRows]
    split
    · exact ih taken
    · cases v.ruleOfRow row with
      | error e => exact ih taken
      | ok rule => exact congrArg (rule :: ·) (ih (row.id :: taken))

theorem acceptedRead {v : Vocabulary} {taken : List Int64} {rows : List Row} {p : Row × Rule}
    (mem : p ∈ v.accepted taken rows) : p.1 ∈ rows ∧ p.1.id ∉ taken ∧ v.ruleOfRow p.1 = .ok p.2 := by
  induction rows generalizing taken with
  | nil => contradiction
  | cons row rest ih =>
    simp only [accepted] at mem
    split at mem
    · obtain ⟨inside, fresh, read⟩ := ih mem
      exact ⟨List.mem_cons_of_mem row inside, fresh, read⟩
    · rename_i fresh
      cases read : v.ruleOfRow row with
      | error e =>
        rw [read] at mem
        obtain ⟨inside, fresh, read⟩ := ih mem
        exact ⟨List.mem_cons_of_mem row inside, fresh, read⟩
      | ok rule =>
        rw [read] at mem
        rcases List.mem_cons.mp mem with rfl | later
        · exact ⟨List.mem_cons_self, fresh, read⟩
        · obtain ⟨inside, other, read⟩ := ih later
          exact ⟨List.mem_cons_of_mem row inside, fun known => other (List.mem_cons_of_mem _ known), read⟩

theorem acceptedDistinct (v : Vocabulary) (taken : List Int64) (rows : List Row) :
    ((v.accepted taken rows).map (fun p => p.1.id)).Nodup := by
  induction rows generalizing taken with
  | nil => exact List.nodup_nil
  | cons row rest ih =>
    simp only [accepted]
    split
    · exact ih taken
    · cases v.ruleOfRow row with
      | error e => exact ih taken
      | ok rule =>
        refine List.nodup_cons.mpr ⟨fun known => ?_, ih (row.id :: taken)⟩
        obtain ⟨p, mem, same⟩ := List.mem_map.mp known
        have other := (acceptedRead mem).2.1
        rw [same] at other
        exact other List.mem_cons_self

theorem acceptedSublist (v : Vocabulary) (taken : List Int64) (rows : List Row) :
    ((v.accepted taken rows).map Prod.fst).Sublist rows := by
  induction rows generalizing taken with
  | nil => exact List.Sublist.refl _
  | cons row rest ih =>
    simp only [accepted]
    split
    · exact (ih taken).cons row
    · cases v.ruleOfRow row with
      | error e => exact (ih taken).cons row
      | ok rule => exact (ih (row.id :: taken)).cons_cons row

theorem acceptedWhenRead {v : Vocabulary} {taken : List Int64} {rows : List Row} (distinct : (rows.map Row.id).Nodup)
    (free : ∀ row ∈ rows, row.id ∉ taken) {row : Row} (mem : row ∈ rows) {rule : Rule}
    (read : v.ruleOfRow row = .ok rule) : (row, rule) ∈ v.accepted taken rows := by
  induction rows generalizing taken with
  | nil => contradiction
  | cons first rest ih =>
    obtain ⟨new, others⟩ := List.nodup_cons.mp distinct
    have later := fun row mem => free row (List.mem_cons_of_mem first mem)
    simp only [accepted, if_neg (free first List.mem_cons_self)]
    rcases List.mem_cons.mp mem with rfl | mem
    · rw [read]
      exact List.mem_cons_self
    · cases v.ruleOfRow first with
      | error e => exact ih others later mem
      | ok _ =>
        refine List.mem_cons_of_mem _ (ih others (fun other inside known => ?_) mem)
        rcases List.mem_cons.mp known with same | known
        · exact new (same ▸ List.mem_map_of_mem inside)
        · exact later other inside known

theorem ruleId {v : Vocabulary} {row : Row} {rule : Rule} (read : v.ruleOfRow row = .ok rule) : rule.id = row.id := by
  obtain ⟨criteria, effects, _, _, _, rfl⟩ := ruleOfRowOk.mp read
  rfl

theorem ruleCooldown {v : Vocabulary} {row : Row} {rule : Rule} (read : v.ruleOfRow row = .ok rule) :
    rule.cooldown = row.cooldown := by
  obtain ⟨criteria, effects, _, _, _, rfl⟩ := ruleOfRowOk.mp read
  rfl

theorem ruleIdsDistinct (v : Vocabulary) (rows : List Row) : ((v.rulesOfRows [] rows).1.map Rule.id).Nodup := by
  have same : (v.rulesOfRows [] rows).1.map Rule.id = (v.accepted [] rows).map (fun p => p.1.id) := by
    rw [← acceptedRules, List.map_map]
    exact List.map_congr_left fun p mem => ruleId (acceptedRead mem).2.2
  rw [same]
  exact acceptedDistinct v [] rows

theorem rulesWhenRead {v : Vocabulary} {rows : List Row} (distinct : (rows.map Row.id).Nodup) {rule : Rule} :
    rule ∈ (v.rulesOfRows [] rows).1 ↔ ∃ row ∈ rows, v.ruleOfRow row = .ok rule := by
  rw [← acceptedRules]
  constructor
  · intro mem
    obtain ⟨p, inside, rfl⟩ := List.mem_map.mp mem
    exact ⟨p.1, (acceptedRead inside).1, (acceptedRead inside).2.2⟩
  · rintro ⟨row, mem, read⟩
    exact List.mem_map.mpr ⟨(row, rule), acceptedWhenRead distinct (fun _ _ => List.not_mem_nil) mem read, rfl⟩

theorem rulesLength (v : Vocabulary) (rows : List Row) : (v.rulesOfRows [] rows).1.length ≤ rows.length := by
  have shorter := (v.acceptedSublist [] rows).length_le
  rw [← acceptedRules]
  simpa only [List.length_map] using shorter

end Repartee.Vocabulary
