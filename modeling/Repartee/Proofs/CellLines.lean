import Repartee.Line.Grammar
import Repartee.Proofs.Padding

/-! The lines of a cell. A cell is cut at its line feeds and nowhere else. Of the pieces the blank ones are left out, and
from the others the blanks around them are cut off; what is left are the lines, in order. -/
namespace Repartee
namespace Text

inductive CutAtFeeds : List Char → List (List Char) → Prop where
  | last {piece} (whole : '\n' ∉ piece) : CutAtFeeds piece [piece]
  | feed {piece rest pieces} (whole : '\n' ∉ piece) (later : CutAtFeeds rest pieces) :
    CutAtFeeds (piece ++ '\n' :: rest) (piece :: pieces)

inductive Gathered : List (List Char) → List String → Prop where
  | nil : Gathered [] []
  | blank {piece pieces texts} (blank : Blank piece) (later : Gathered pieces texts) : Gathered (piece :: pieces) texts
  | line {piece core pieces texts} (solid : Solid core) (padded : Padded core piece) (later : Gathered pieces texts) :
    Gathered (piece :: pieces) (String.ofList core :: texts)

theorem linesWhole {piece : List Char} (whole : '\n' ∉ piece) : lines piece = [piece] := by
  induction piece with
  | nil => rfl
  | cons c rest ih =>
    obtain ⟨other, later⟩ := not_or.mp (mt List.mem_cons.mpr whole)
    simp only [lines, if_neg (Ne.symm other), ih later]

theorem linesFeed {piece : List Char} (whole : '\n' ∉ piece) (rest : List Char) :
    lines (piece ++ '\n' :: rest) = piece :: lines rest := by
  induction piece with
  | nil => simp [lines]
  | cons c piece ih =>
    obtain ⟨other, later⟩ := not_or.mp (mt List.mem_cons.mpr whole)
    simp only [List.cons_append, lines, if_neg (Ne.symm other), ih later]

theorem linesOfCut {cs : List Char} {pieces : List (List Char)} (cut : CutAtFeeds cs pieces) : lines cs = pieces := by
  induction cut with
  | last whole => exact linesWhole whole
  | @feed piece rest pieces whole _ ih => rw [linesFeed whole, ih]

theorem cutExists (cs : List Char) : ∃ pieces, CutAtFeeds cs pieces := by
  induction cs with
  | nil => exact ⟨_, .last List.not_mem_nil⟩
  | cons c rest ih =>
    obtain ⟨pieces, cut⟩ := ih
    by_cases feed : c = '\n'
    · subst feed
      have whole : '\n' ∉ ([] : List Char) := List.not_mem_nil
      exact ⟨_, .feed whole cut⟩
    · have longer {piece : List Char} (whole : '\n' ∉ piece) : '\n' ∉ c :: piece := by
        simp [Ne.symm feed, whole]
      cases cut with
      | last whole => exact ⟨_, .last (longer whole)⟩
      | feed whole later => exact ⟨_, .feed (longer whole) later⟩

theorem cutIff {cs : List Char} {pieces : List (List Char)} : CutAtFeeds cs pieces ↔ lines cs = pieces := by
  refine ⟨linesOfCut, ?_⟩
  rintro rfl
  obtain ⟨pieces, cut⟩ := cutExists cs
  rwa [linesOfCut cut]

def gather (pieces : List (List Char)) : List String := ((pieces.map trim).filter (· ≠ [])).map String.ofList

theorem gatherBlank {piece : List Char} (blank : Blank piece) (pieces : List (List Char)) :
    gather (piece :: pieces) = gather pieces := by
  simp [gather, trimNil.mpr blank]

theorem gatherLine {piece core : List Char} (solid : Solid core) (padded : Padded core piece) (pieces : List (List Char)) :
    gather (piece :: pieces) = String.ofList core :: gather pieces := by
  simp [gather, trimPadded solid padded, solid.filled]

theorem gatheredIff {pieces : List (List Char)} {texts : List String} : Gathered pieces texts ↔ gather pieces = texts := by
  constructor
  · intro gathered
    induction gathered with
    | nil => rfl
    | blank blank _ ih => rw [gatherBlank blank, ih]
    | line solid padded _ ih => rw [gatherLine solid padded, ih]
  · rintro rfl
    induction pieces with
    | nil => exact .nil
    | cons piece pieces ih =>
      by_cases blank : Blank piece
      · rw [gatherBlank blank]
        exact .blank blank ih
      · have solid : Solid (trim piece) := trimSolid (mt trimNil.mp blank)
        rw [gatherLine solid (trimSplit piece)]
        exact .line solid (trimSplit piece) ih

end Text

def Listed (cell : String) (texts : List String) : Prop :=
  ∃ pieces, Text.CutAtFeeds cell.toList pieces ∧ Text.Gathered pieces texts

theorem listedIff {cell : String} {texts : List String} : Listed cell texts ↔ linesOfCell cell = texts := by
  simp only [Listed, Text.cutIff, Text.gatheredIff, exists_eq_left']
  rfl

end Repartee
