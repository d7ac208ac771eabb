import Mathlib
import Repartee.Line.Literal

/-! What a value token denotes. Of the forms a token can have, no two fit the same token but for the last, which
takes whatever is left; so the order in which they are tried decides nothing else. A token is refused only for a
number that cannot be held: a point without a float around it, or digits beyond the largest integer. -/
namespace Repartee.Literal

def InAnyCase (word token : String) : Prop := List.Forall₂ (fun w c => c = w ∨ c = w.toUpper) word.toList token.toList

def Digits (token : String) : Prop := ∀ c ∈ token.toList, c.isDigit = true

def numeral (token : String) : Nat := Nat.ofDigits 10 (token.toList.reverse.map (fun c => c.toNat - '0'.toNat))

structure Plain (token : String) : Prop where
  noTime : ¬ InAnyCase "timestamp" token
  noRule : ¬ InAnyCase "rule" token
  noPoint : '.' ∉ token.toList
  noNumeral : ¬ Digits token
  noTruth : ∀ b, token ≠ boolText b

inductive Denotes (ruleId : Int64) (token : String) : Literal → Prop where
  | timestamp (word : InAnyCase "timestamp" token) : Denotes ruleId token .timestamp
  | rule (word : InAnyCase "rule" token) : Denotes ruleId token (.int ruleId)
  | float {x} (point : '.' ∈ token.toList) (read : Decimal.readFloat? token = some x) : Denotes ruleId token (.float x)
  | int {n : Int64} (digits : Digits token) (value : n.toInt = numeral token) : Denotes ruleId token (.int n)
  | bool {b} (word : token = boolText b) : Denotes ruleId token (.bool b)
  | text (plain : Plain token) : Denotes ruleId token (.text token)

inductive Misread (token : String) : Prop where
  | float (point : '.' ∈ token.toList) (unread : Decimal.readFloat? token = none)
  | int (digits : Digits token) (beyond : 2 ^ 63 - 1 < numeral token)

theorem anyCase {word token : String} (small : ∀ w ∈ word.toList, w.isLower = true) :
    sameWord word token = true ↔ InAnyCase word token := by
  have letter {w c : Char} (lower : w.isLower = true) : c.toLower = w ↔ c = w ∨ c = w.toUpper := by
    constructor
    · rintro rfl
      by_cases capital : c.isUpper = true
      · rw [Char.toUpper_toLower_eq_toUpper, Char.toUpper_eq_of_not_isLower (Char.not_isLower_of_isUpper capital)]
        exact .inr rfl
      · exact .inl (Char.toLower_eq_of_not_isUpper capital).symm
    · have same := Char.toLower_eq_of_not_isUpper (Char.not_isUpper_of_isLower lower)
      rintro (rfl | rfl)
      · exact same
      · rw [Char.toLower_toUpper_eq_toLower, same]
  rw [sameWord, beq_iff_eq, InAnyCase]
  generalize word.toList = ws at small
  generalize token.toList = cs
  induction ws generalizing cs with
  | nil => simp
  | cons w ws ih =>
    cases cs with
    | nil => simp
    | cons c cs =>
      have rest := ih (fun w mem => small w (List.mem_cons_of_mem _ mem)) cs
      rw [List.map_cons, List.cons.injEq, List.forall₂_cons]
      exact and_congr (letter (small w List.mem_cons_self)) rest

theorem timeSmall : ∀ w ∈ "timestamp".toList, w.isLower = true := by simp

theorem ruleSmall : ∀ w ∈ "rule".toList, w.isLower = true := by simp

theorem anyCaseLength {word token : String} (same : InAnyCase word token) : token.length = word.length := by
  rw [← String.length_toList, ← String.length_toList]
  exact same.length_eq.symm

theorem anyCaseLetters {word token : String} (small : ∀ w ∈ word.toList, w.isLower = true)
    (same : InAnyCase word token) : ∀ c ∈ token.toList, c.isAlpha = true := by
  intro c mem
  have lowered : c.toLower ∈ word.toList := by
    rw [← beq_iff_eq.mp ((anyCase small).mpr same)]
    exact List.mem_map_of_mem mem
  have letter := small _ lowered
  rw [← Char.isAlpha_toLower_eq_isAlpha, Char.isAlpha, letter, Bool.or_true]

theorem digitsNumeral (token : String) : Decimal.digitsValue token.toList = numeral token := by
  unfold Decimal.digitsValue numeral
  induction token.toList using List.reverseRecOn with
  | nil => rfl
  | append_singleton cs c ih => rw [List.foldl_concat, List.reverse_concat, List.map_cons, Nat.ofDigits_cons, ih, Nat.add_comm]

theorem integerOk {cs : List Char} (filled : cs ≠ []) {n : Int64} :
    integer? cs = some n ↔ n.toInt = Decimal.digitsValue cs := by
  have most : Int64.maxValue.toInt.toNat = 2 ^ 63 - 1 := rfl
  have high := n.toInt_le
  simp only [integer?, filled, ne_eq, not_false_eq_true, true_and, most]
  rw [Int64.toInt_maxValue] at high
  split
  · rename_i fits
    have exact_ := Int64.toInt_ofNat_of_lt (n := Decimal.digitsValue cs) (by omega)
    rw [Option.some.injEq, ← Int64.toInt_inj, exact_, eq_comm]
  · rename_i beyond
    constructor
    · nofun
    · omega

theorem integerNone {cs : List Char} (filled : cs ≠ []) : integer? cs = none ↔ 2 ^ 63 - 1 < Decimal.digitsValue cs := by
  have most : Int64.maxValue.toInt.toNat = 2 ^ 63 - 1 := rfl
  simp [integer?, filled, most]

theorem denotedWhenRead {token : String} {ruleId : Int64} {literal : Literal} (filled : token.toList ≠ [])
    (read : interpret token ruleId = .ok literal) : Denotes ruleId token literal := by
  simp only [interpret] at read
  split at read
  · rename_i word
    cases read
    exact .timestamp ((anyCase timeSmall).mp word)
  · rename_i noTime
    split at read
    · rename_i word
      cases read
      exact .rule ((anyCase ruleSmall).mp word)
    · rename_i noRule
      split at read
      · rename_i point
        split at read
        · rename_i parsed
          cases read
          exact .float point parsed
        · contradiction
      · rename_i noPoint
        split at read
        · rename_i digits
          split at read
          · rename_i parsed
            cases read
            exact .int (List.all_eq_true.mp digits) (digitsNumeral token ▸ (integerOk filled).mp parsed)
          · contradiction
        · rename_i noNumeral
          split at read
          · rename_i word
            cases read
            exact .bool (b := true) word
          · rename_i noTrue
            split at read
            · rename_i word
              cases read
              exact .bool (b := false) word
            · rename_i noFalse
              cases read
              refine .text ⟨mt (anyCase timeSmall).mpr noTime, mt (anyCase ruleSmall).mpr noRule, noPoint,
                mt List.all_eq_true.mpr noNumeral, fun b => ?_⟩
              cases b
              · exact noFalse
              · exact noTrue

theorem misreadWhenRefused {token : String} {ruleId : Int64} {e : LineError} (filled : token.toList ≠ [])
    (refused : interpret token ruleId = .error e) : e = .invalidNumber token ∧ Misread token := by
  simp only [interpret] at refused
  split at refused
  · contradiction
  · split at refused
    · contradiction
    · split at refused
      · rename_i point
        split at refused
        · contradiction
        · rename_i unread
          cases refused
          exact ⟨rfl, .float point unread⟩
      · split at refused
        · rename_i digits
          split at refused
          · contradiction
          · rename_i beyond
            cases refused
            exact ⟨rfl, .int (List.all_eq_true.mp digits) (digitsNumeral token ▸ (integerNone filled).mp beyond)⟩
        · split at refused
          · contradiction
          · split at refused <;> contradiction

theorem noWord {token : String} {c : Char} (mem : c ∈ token.toList) (noLetter : c.isAlpha = false) :
    ¬ sameWord "timestamp" token = true ∧ ¬ sameWord "rule" token = true := by
  constructor <;> intro same
  · have letter := anyCaseLetters timeSmall ((anyCase timeSmall).mp same) c mem
    rw [noLetter] at letter
    contradiction
  · have letter := anyCaseLetters ruleSmall ((anyCase ruleSmall).mp same) c mem
    rw [noLetter] at letter
    contradiction

theorem digitNoLetter {c : Char} (digit : c.isDigit = true) : c.isAlpha = false ∧ c ≠ '.' := by
  constructor
  · simp [Char.isDigit, Char.isAlpha, Char.isUpper, Char.isLower, UInt32.le_iff_toNat_le] at digit ⊢
    omega
  · rintro rfl
    contradiction

theorem interpretPoint {token : String} (ruleId : Int64) (point : '.' ∈ token.toList) :
    interpret token ruleId =
      match Decimal.readFloat? token with
      | some x => .ok (.float x)
      | none => .error (.invalidNumber token) := by
  obtain ⟨noTime, noRule⟩ := noWord point rfl
  exact (if_neg noTime).trans ((if_neg noRule).trans (if_pos point))

theorem interpretDigits {token : String} (ruleId : Int64) (filled : token.toList ≠ []) (digits : Digits token) :
    interpret token ruleId =
      match integer? token.toList with
      | some n => .ok (.int n)
      | none => .error (.invalidNumber token) := by
  obtain ⟨c, mem⟩ := List.exists_mem_of_ne_nil _ filled
  obtain ⟨noTime, noRule⟩ := noWord mem (digitNoLetter (digits c mem)).1
  have noPoint : '.' ∉ token.toList := fun point => (digitNoLetter (digits _ point)).2 rfl
  have numeral : token.toList.all Char.isDigit = true := List.all_eq_true.mpr digits
  exact (if_neg noTime).trans ((if_neg noRule).trans ((if_neg noPoint).trans (if_pos numeral)))

theorem interpretBool (b : Bool) (ruleId : Int64) : interpret (boolText b) ruleId = .ok (.bool b) := by
  cases b <;> rfl

theorem interpretOk {token : String} {ruleId : Int64} {literal : Literal} (filled : token.toList ≠ []) :
    interpret token ruleId = .ok literal ↔ Denotes ruleId token literal := by
  constructor
  · exact denotedWhenRead filled
  · intro denoted
    cases denoted with
    | timestamp word => simp only [interpret, if_pos ((anyCase timeSmall).mpr word)]
    | rule word =>
      have noTime : ¬ sameWord "timestamp" token = true := fun same => by
        have length := anyCaseLength ((anyCase timeSmall).mp same)
        rw [anyCaseLength word] at length
        contradiction
      simp only [interpret, if_neg noTime, if_pos ((anyCase ruleSmall).mpr word)]
    | float point read => rw [interpretPoint ruleId point, read]
    | int digits value =>
      rw [← digitsNumeral] at value
      rw [interpretDigits ruleId filled digits, (integerOk filled).mpr value]
    | bool word => rw [word, interpretBool]
    | text plain =>
      obtain ⟨noTime, noRule, noPoint, noNumeral, noTruth⟩ := plain
      rw [← anyCase timeSmall] at noTime
      rw [← anyCase ruleSmall] at noRule
      have noDigits : ¬ token.toList.all Char.isDigit = true := mt List.all_eq_true.mp noNumeral
      simp only [interpret, if_neg noTime, if_neg noRule, if_neg noPoint, if_neg noDigits]
      exact (if_neg (noTruth true)).trans (if_neg (noTruth false))

theorem interpretError {token : String} {ruleId : Int64} {e : LineError} (filled : token.toList ≠ []) :
    interpret token ruleId = .error e ↔ e = .invalidNumber token ∧ Misread token := by
  constructor
  · exact misreadWhenRefused filled
  · rintro ⟨rfl, misread⟩
    cases misread with
    | float point unread => rw [interpretPoint ruleId point, unread]
    | int digits beyond =>
      rw [← digitsNumeral] at beyond
      rw [interpretDigits ruleId filled digits, (integerNone filled).mpr beyond]

theorem denotesOnce {token : String} {ruleId : Int64} {literal : Literal} (filled : token.toList ≠ [])
    (denotes : Denotes ruleId token literal) (other : Literal) : Denotes ruleId token other ↔ other = literal := by
  rw [← interpretOk filled, (interpretOk filled).mpr denotes, Except.ok.injEq, eq_comm]

theorem denotedUnlessMisread {token : String} (ruleId : Int64) (filled : token.toList ≠ []) :
    (∃ literal, Denotes ruleId token literal) ↔ ¬ Misread token := by
  cases read : interpret token ruleId with
  | ok literal =>
    refine iff_of_true ⟨literal, (interpretOk filled).mp read⟩ fun misread => ?_
    rw [(interpretError filled).mpr ⟨rfl, misread⟩] at read
    contradiction
  | error e =>
    refine iff_of_false (fun ⟨literal, denotes⟩ => ?_) (not_not_intro ((interpretError filled).mp read).2)
    rw [(interpretOk filled).mpr denotes] at read
    contradiction

theorem truthToken {token : String} {ruleId : Int64} {literal : Literal} (filled : token.toList ≠ [])
    (denotes : Denotes ruleId token literal) : literal.kind = .bool ↔ ∃ b, token = boolText b := by
  constructor
  · intro truth
    cases denotes with
    | bool word => exact ⟨_, word⟩
    | timestamp | rule | float | int | text => contradiction
  · rintro ⟨b, word⟩
    rw [← (denotesOnce filled denotes (.bool b)).mp (.bool word)]
    rfl

end Repartee.Literal
