import Mathlib.Data.List.Basic
import Mathlib.Data.List.TakeWhile
import Repartee.Text.Blank

/-! Trimming, seen from what was written. A solid text has no blank at either end; written between blanks it is
what trimming gives back, and trimming gives nothing for blanks alone. So a text is known by its first solid
character: what stands before it is blank, and only blanks are cut off behind. -/
namespace Repartee.Text

def Blank (cs : List Char) : Prop := ∀ c ∈ cs, isBlank c = true

structure Solid (cs : List Char) : Prop where
  filled : cs ≠ []
  front : ∀ c ∈ cs.head?, isBlank c = false
  back : ∀ c ∈ cs.getLast?, isBlank c = false

def Padded (core cs : List Char) : Prop := ∃ before tail, Blank before ∧ Blank tail ∧ cs = before ++ core ++ tail

theorem Blank.append {cs ds : List Char} : Blank (cs ++ ds) ↔ Blank cs ∧ Blank ds := List.forall_mem_append

theorem Blank.reverse {cs : List Char} : Blank cs.reverse ↔ Blank cs := by simp [Blank]

theorem trimStartBlank {before : List Char} (blank : Blank before) (cs : List Char) :
    trimStart (before ++ cs) = trimStart cs := List.dropWhile_append_of_pos blank

theorem trimEndBlank {tail : List Char} (blank : Blank tail) (cs : List Char) : trimEnd (cs ++ tail) = trimEnd cs := by
  unfold trimEnd
  rw [List.reverse_append]
  exact congrArg List.reverse (trimStartBlank (Blank.reverse.mpr blank) cs.reverse)

theorem trimStartSplit (cs : List Char) : ∃ before, Blank before ∧ cs = before ++ trimStart cs := by
  refine ⟨cs.takeWhile isBlank, fun c mem => List.mem_takeWhile_imp mem, ?_⟩
  exact List.takeWhile_append_dropWhile.symm

theorem trimEndSplit (cs : List Char) : ∃ tail, Blank tail ∧ cs = trimEnd cs ++ tail := by
  obtain ⟨before, blank, split⟩ := trimStartSplit cs.reverse
  refine ⟨before.reverse, Blank.reverse.mpr blank, ?_⟩
  rw [← List.reverse_inj, split, List.reverse_append, List.reverse_reverse]
  unfold trimEnd
  rw [List.reverse_reverse]
  rfl

theorem trimSplit (cs : List Char) : Padded (trim cs) cs := by
  obtain ⟨before, first, front⟩ := trimStartSplit cs
  obtain ⟨tail, last, back⟩ := trimEndSplit (trimStart cs)
  refine ⟨before, tail, first, last, ?_⟩
  rw [List.append_assoc, trim, ← back]
  exact front

theorem trimSolid {cs : List Char} (filled : trim cs ≠ []) : Solid (trim cs) := by
  obtain ⟨front, back⟩ := trimSelf.mp (trimTwice cs)
  exact ⟨filled, front, back⟩

theorem trimPadded {core cs : List Char} (solid : Solid core) (padded : Padded core cs) : trim cs = core := by
  obtain ⟨before, tail, first, last, rfl⟩ := padded
  have front : trimStart (core ++ tail) = core ++ tail := by
    rw [trimStartSelf, List.head?_append_of_ne_nil core solid.filled]
    exact solid.front
  rw [trim, List.append_assoc, trimStartBlank first, front, trimEndBlank last, trimEndSelf]
  exact solid.back

theorem trimNil {cs : List Char} : trim cs = [] ↔ Blank cs := by
  constructor
  · intro nothing
    obtain ⟨before, tail, first, last, split⟩ := trimSplit cs
    rw [nothing, List.append_nil] at split
    exact split ▸ Blank.append.mpr ⟨first, last⟩
  · intro blank
    by_contra filled
    obtain ⟨c, front⟩ := Option.ne_none_iff_exists'.mp (mt List.head?_eq_none_iff.mp filled)
    have solid := (trimSolid filled).front c front
    rw [blank c (trimMember (List.mem_of_mem_head? front))] at solid
    contradiction

theorem trimTail (cs : List Char) {tail : List Char} (blank : Blank tail) : trim (cs ++ tail) = trim cs := by
  obtain ⟨before, rest, first, last, split⟩ := trimSplit cs
  by_cases filled : trim cs = []
  · rw [filled, trimNil, Blank.append]
    exact ⟨trimNil.mp filled, blank⟩
  · refine trimPadded (trimSolid filled) ⟨before, rest ++ tail, first, Blank.append.mpr ⟨last, blank⟩, ?_⟩
    rw [← List.append_assoc, ← split]

theorem keptByTrim {c : Char} {cs : List Char} (mem : c ∈ cs) (solid : isBlank c = false) : c ∈ trim cs := by
  obtain ⟨before, tail, first, last, split⟩ := trimSplit cs
  rw [split, List.mem_append, List.mem_append] at mem
  rcases mem with (front | inside) | back
  · rw [first c front] at solid
    contradiction
  · exact inside
  · rw [last c back] at solid
    contradiction

theorem firstSolid (cs : List Char) : Blank cs ∨ ∃ before c rest, Blank before ∧ isBlank c = false ∧ cs = before ++ c :: rest := by
  obtain ⟨before, blank, split⟩ := trimStartSplit cs
  cases start : trimStart cs with
  | nil =>
    rw [start, List.append_nil] at split
    exact .inl (split ▸ blank)
  | cons c rest =>
    have solid := @headTrimStart cs c (by rw [start]; rfl)
    exact .inr ⟨before, c, rest, blank, solid, start ▸ split⟩

theorem trimFirst {before : List Char} {c : Char} (rest : List Char) (blank : Blank before) (solid : isBlank c = false) :
    trim (before ++ c :: rest) = c :: trimEnd rest := by
  obtain ⟨tail, last, split⟩ := trimEndSplit rest
  refine trimPadded ⟨List.cons_ne_nil _ _, ?_, ?_⟩ ⟨before, tail, blank, last, ?_⟩
  · rintro _ ⟨⟩
    exact solid
  · cases end_ : trimEnd rest with
    | nil =>
      rintro _ ⟨⟩
      exact solid
    | cons d ds =>
      rw [List.getLast?_cons_cons, ← end_]
      exact lastTrimEnd
  · rw [List.append_assoc, List.cons_append, ← split]

end Repartee.Text
