import Repartee.Proofs.CellLines
import Repartee.Row

/-! Lines joined to a cell, and the cell cut again. At a line feed the lines of a cell fall into those before it and those
behind it, so what was joined comes back in order, but for the blanks around each line, and the blank lines are gone. What
came back once comes back unchanged. It makes no difference whether the carriage return in front of a line feed is taken
off with it, nor whether an empty last line counts. -/
namespace Repartee
namespace Text

/- Lines as most texts have them: each ends with a line feed or with a carriage return and a line feed, and the last one
with the text, unless nothing is left for it. -/
inductive CutAtEnds : List Char → List (List Char) → Prop where
  | nothing : CutAtEnds [] []
  | last {piece} (whole : '\n' ∉ piece) (filled : piece ≠ []) : CutAtEnds piece [piece]
  | feed {piece rest pieces} (whole : '\n' ∉ piece) (bare : piece.getLast? ≠ some '\r') (later : CutAtEnds rest pieces) :
    CutAtEnds (piece ++ '\n' :: rest) (piece :: pieces)
  | returnFeed {piece rest pieces} (whole : '\n' ∉ piece) (later : CutAtEnds rest pieces) :
    CutAtEnds (piece ++ '\r' :: '\n' :: rest) (piece :: pieces)

theorem gatherAppend (pieces pieces' : List (List Char)) : gather (pieces ++ pieces') = gather pieces ++ gather pieces' := by
  simp only [gather, List.map_append, List.filter_append]

theorem gatherCons (piece : List Char) (pieces : List (List Char)) :
    gather (piece :: pieces) = gather [piece] ++ gather pieces := gatherAppend [piece] pieces

theorem gatherReturn (piece : List Char) : gather [piece ++ ['\r']] = gather [piece] := by
  have blank : Blank ['\r'] := by simp [Blank, isBlank]
  simp only [gather, List.map_cons, trimTail piece blank]

theorem gatherSolid {texts : List String} (solid : ∀ text ∈ texts, Solid text.toList) :
    gather (texts.map String.toList) = texts := by
  induction texts with
  | nil => rfl
  | cons text rest ih =>
    obtain ⟨first, later⟩ := List.forall_mem_cons.mp solid
    have bare : Padded text.toList text.toList := ⟨[], [], nofun, nofun, by simp⟩
    rw [List.map_cons, gatherLine first bare, String.ofList_toList, ih later]

theorem linesAtFeed (before after : List Char) : lines (before ++ '\n' :: after) = lines before ++ lines after := by
  obtain ⟨pieces, cut⟩ := cutExists before
  induction cut with
  | last whole => rw [linesFeed whole, linesWhole whole, List.singleton_append]
  | @feed piece rest pieces whole _ ih =>
    rw [List.append_assoc, List.cons_append, linesFeed whole, linesFeed whole, ih, List.cons_append]

theorem endsExist {cs : List Char} {pieces : List (List Char)} (cut : CutAtFeeds cs pieces) :
    ∃ pieces', CutAtEnds cs pieces' ∧ gather pieces' = gather pieces := by
  induction cut with
  | @last piece whole =>
    by_cases filled : piece = []
    · subst filled
      exact ⟨[], .nothing, rfl⟩
    · exact ⟨_, .last whole filled, rfl⟩
  | @feed piece rest pieces whole _ ih =>
    obtain ⟨pieces', later, same⟩ := ih
    by_cases bare : piece.getLast? = some '\r'
    · obtain ⟨front, rfl⟩ := List.getLast?_eq_some_iff.mp bare
      have wholeFront : '\n' ∉ front := fun mem => whole (List.mem_append_left _ mem)
      refine ⟨front :: pieces', ?_, ?_⟩
      · rw [List.append_assoc]
        exact .returnFeed wholeFront later
      · rw [gatherCons, gatherCons _ pieces, gatherReturn, same]
    · refine ⟨piece :: pieces', .feed whole bare later, ?_⟩
      rw [gatherCons, gatherCons piece pieces, same]

end Text

theorem gatheredLines (cell : String) : linesOfCell cell = Text.gather (Text.lines cell.toList) := rfl

theorem linesOfWhole {text : String} (whole : '\n' ∉ text.toList) : linesOfCell text = Text.gather [text.toList] := by
  rw [gatheredLines, Text.linesWhole whole]

theorem joinedAtFeed (text next : String) (rest : List String) :
    (cellOfLines (text :: next :: rest)).toList = text.toList ++ '\n' :: (cellOfLines (next :: rest)).toList := by
  simp only [cellOfLines, String.toList_ofList, List.map_cons, Text.joinLines]

theorem linesOfJoined (texts : List String) : linesOfCell (cellOfLines texts) = texts.flatMap linesOfCell := by
  induction texts with
  | nil => rfl
  | cons text rest ih =>
    cases rest with
    | nil =>
      have alone : cellOfLines [text] = text := String.ofList_toList
      rw [alone, List.flatMap_singleton]
    | cons next rest =>
      rw [gatheredLines, joinedAtFeed, Text.linesAtFeed, Text.gatherAppend, ← gatheredLines, ← gatheredLines, ih,
        ← List.flatMap_cons]

theorem joinedGathered {texts : List String} (whole : ∀ text ∈ texts, '\n' ∉ text.toList) :
    linesOfCell (cellOfLines texts) = Text.gather (texts.map String.toList) := by
  rw [linesOfJoined]
  induction texts with
  | nil => rfl
  | cons text rest ih =>
    obtain ⟨first, later⟩ := List.forall_mem_cons.mp whole
    rw [List.flatMap_cons, List.map_cons, Text.gatherCons, linesOfWhole first, ih later]

theorem lineStands {cell line : String} (mem : line ∈ linesOfCell cell) : Text.Solid line.toList ∧ '\n' ∉ line.toList := by
  obtain ⟨core, kept, rfl⟩ := List.mem_map.mp mem
  obtain ⟨trimmed, filled⟩ := List.mem_filter.mp kept
  obtain ⟨piece, cut, rfl⟩ := List.mem_map.mp trimmed
  rw [String.toList_ofList]
  exact ⟨Text.trimSolid (by simpa using filled), fun feed => Text.linesFeedless cut (Text.trimMember feed)⟩

theorem joinedLinesReturn :
    (∀ (row : Row) (texts : List String), (∀ text ∈ texts, '\n' ∉ text.toList) →
      Text.Gathered (texts.map String.toList) (linesOfCell (row.withCriteria texts).criteria) ∧
      Text.Gathered (texts.map String.toList) (linesOfCell (row.withRemember texts).remember)) ∧
    ∀ cell, (∃ pieces, Text.CutAtEnds cell.toList pieces ∧ Text.Gathered pieces (linesOfCell cell)) ∧
      (∀ line ∈ linesOfCell cell, Text.Solid line.toList ∧ '\n' ∉ line.toList) ∧
      linesOfCell (cellOfLines (linesOfCell cell)) = linesOfCell cell := by
  refine ⟨fun row texts whole => ?_, fun cell => ⟨?_, fun line mem => lineStands mem, ?_⟩⟩
  · have gathered := Text.gatheredIff.mpr (joinedGathered whole).symm
    exact ⟨gathered, gathered⟩
  · obtain ⟨pieces, cut⟩ := Text.cutExists cell.toList
    obtain ⟨pieces', ends, same⟩ := Text.endsExist cut
    refine ⟨pieces', ends, Text.gatheredIff.mpr ?_⟩
    rw [same, ← Text.linesOfCut cut]
    rfl
  · rw [joinedGathered fun line mem => (lineStands mem).2]
    exact Text.gatherSolid fun line mem => (lineStands mem).1

def watchLines : List String := ["  m Fear > 2\r", "\u3000", "", "w Alarm = true"]

theorem joinedLinesReturnToWatch :
    (∀ text ∈ watchLines, '\n' ∉ text.toList) ∧
    Text.Gathered (watchLines.map String.toList)
      (linesOfCell (({ id := 1, concept := "Idle", who := "Guard", response := "" } : Row).withCriteria watchLines).criteria) ∧
    linesOfCell (cellOfLines watchLines) = ["m Fear > 2", "w Alarm = true"] := by
  have whole : ∀ text ∈ watchLines, '\n' ∉ text.toList := by decide
  exact ⟨whole, (joinedLinesReturn.1 _ watchLines whole).1, rfl⟩

end Repartee
