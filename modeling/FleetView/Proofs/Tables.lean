/-
This file says what can be read off a table. A table tells its lines, since none of them
has a line end in it. The line at the top tells how wide the columns are, and with that
the lines of a row tell its cells up to the spaces behind them. So where two tables are the
same and a row of the one has a single cell that the row of the other has not, the first
lines of these cells look the same.
-/

import FleetView.Proofs.Joining
import FleetView.Text.Table

namespace FleetView.Text

/-! ### Lines -/

theorem not_mem_ruleLine {char : Char} (other : char ≠ '─') {left middle right : String}
    (leftFree : char ∉ left.toList) (middleFree : char ∉ middle.toList)
    (rightFree : char ∉ right.toList) (widths : List Nat) :
    char ∉ (ruleLine left middle right widths).toList := by
  simp only [ruleLine, String.toList_append, List.mem_append, not_or]
  refine ⟨⟨leftFree, not_mem_joinWith middleFree fun part member => ?_⟩, rightFree⟩
  obtain ⟨columns, -, rfl⟩ := List.mem_map.mp member
  rw [String.toList_ofList]
  exact fun found => other (List.eq_of_mem_replicate found)

theorem not_mem_padded {columns position : Nat} (cell : String) :
    '\n' ∉ (padded columns ((cellLines cell).getD position [])).toList := by
  rw [padded, String.toList_ofList, List.mem_append, not_or]
  refine ⟨?_, fun found => absurd (List.eq_of_mem_replicate found) (by decide)⟩
  rw [List.getD_eq_getElem?_getD]
  cases there : (cellLines cell)[position]? with
  | none => exact List.not_mem_nil
  | some line => exact not_mem_of_mem_splitOn (List.mem_of_getElem? there)

theorem not_mem_rowLines {widths : List Nat} {row : List String} {line : String}
    (member : line ∈ rowLines widths row) : '\n' ∉ line.toList := by
  obtain ⟨position, -, rfl⟩ := List.mem_map.mp member
  simp only [String.toList_append, List.mem_append, not_or]
  refine ⟨⟨by decide, not_mem_joinWith (by decide) fun part there => ?_⟩, by decide⟩
  rw [List.zipWith_map_right, ← List.map_uncurry_zip_eq_zipWith] at there
  obtain ⟨⟨columns, cell⟩, -, rfl⟩ := List.mem_map.mp there
  exact not_mem_padded cell

/-- The lines of a table. -/
def tableLines (header : List String) (rows : List (List String)) : List String :=
  let widths := columnWidths header rows
  ruleLine "╭" "┬" "╮" widths :: rowLines widths header ++
    ruleLine "├" "┼" "┤" widths :: rows.flatMap (rowLines widths) ++
    [ruleLine "╰" "┴" "╯" widths]

theorem not_mem_tableLines {header : List String} {rows : List (List String)} {line : String}
    (member : line ∈ tableLines header rows) : '\n' ∉ line.toList := by
  simp only [tableLines, List.mem_append, List.mem_cons, List.mem_flatMap, List.not_mem_nil,
    or_false] at member
  rcases member with ((rfl | there) | rfl | ⟨row, -, there⟩) | rfl
  · exact not_mem_ruleLine (by decide) (by decide) (by decide) (by decide) _
  · exact not_mem_rowLines there
  · exact not_mem_ruleLine (by decide) (by decide) (by decide) (by decide) _
  · exact not_mem_rowLines there
  · exact not_mem_ruleLine (by decide) (by decide) (by decide) (by decide) _

/-- A table tells its lines. -/
theorem tableLines_eq_of_table_eq {header : List String} {rows others : List (List String)}
    (same : table header rows = table header others) :
    tableLines header rows = tableLines header others :=
  eq_of_joinWith_eq '\n' (List.cons_ne_nil _ _) (List.cons_ne_nil _ _)
    (fun _ => not_mem_tableLines) (fun _ => not_mem_tableLines) same

theorem table_ne_empty (header : List String) (rows : List (List String)) :
    table header rows ≠ "" := by
  refine joinWith_ne_empty (fun empty => ?_) _
  rw [ruleLine, String.append_assoc] at empty
  exact absurd (String.append_eq_empty_iff.mp empty).1 (by decide)

/-- A line from edge to edge tells the widths of the columns. -/
theorem widths_of_ruleLine_eq {left right : String} {widths others : List Nat}
    (filled : widths ≠ []) (otherFilled : others ≠ [])
    (same : ruleLine left "┬" right widths = ruleLine left "┬" right others) : widths = others := by
  have free : ∀ widths : List Nat, ∀ part ∈ widths.map fun columns =>
      String.ofList (List.replicate (columns + 2) '─'), '┬' ∉ part.toList := by
    intro widths part member
    obtain ⟨columns, -, rfl⟩ := List.mem_map.mp member
    rw [String.toList_ofList]
    exact fun found => absurd (List.eq_of_mem_replicate found) (by decide)
  have parts := eq_of_joinWith_eq '┬' (List.map_eq_nil_iff.not.mpr filled)
    (List.map_eq_nil_iff.not.mpr otherFilled) (free widths) (free others)
    ((String.append_right_inj _).mp ((String.append_left_inj _).mp same))
  refine List.map_injective_iff.mpr (fun columns other alike => ?_) parts
  have lengths := congrArg List.length (String.ofList_injective alike)
  rwa [List.length_replicate, List.length_replicate, Nat.add_right_cancel_iff] at lengths

/-! ### Rows -/

section

variable {header : List String} {rows others : List (List String)}

theorem length_columnWidths (level : ∀ row ∈ rows, row.length = header.length) :
    (columnWidths header rows).length = header.length := by
  have folded : ∀ widths : List Nat, widths.length = header.length →
      (rows.foldl (fun widths row => List.zipWith max widths (row.map cellWidth)) widths).length =
        header.length := by
    induction rows with
    | nil => exact fun _ length => length
    | cons row rest inductionHypothesis =>
      intro widths length
      refine inductionHypothesis (fun other member => level other (List.mem_cons_of_mem _ member))
        _ ?_
      rw [List.length_zipWith, List.length_map, length, level row List.mem_cons_self, Nat.min_self]
  exact folded _ (List.length_map cellWidth)

/-- Tables that are the same have columns of the same widths, and the same lines of rows. -/
theorem rows_of_table_eq (headed : header ≠ []) (level : ∀ row ∈ rows, row.length = header.length)
    (otherLevel : ∀ row ∈ others, row.length = header.length)
    (same : table header rows = table header others) :
    rows.flatMap (rowLines (columnWidths header rows)) =
      others.flatMap (rowLines (columnWidths header rows)) := by
  have filled : ∀ {rows : List (List String)}, (∀ row ∈ rows, row.length = header.length) →
      columnWidths header rows ≠ [] := fun level =>
    List.ne_nil_of_length_pos (length_columnWidths level ▸ List.length_pos_of_ne_nil headed)
  have lines := tableLines_eq_of_table_eq same
  simp only [tableLines, List.cons_append] at lines
  have widths := widths_of_ruleLine_eq (filled level) (filled otherLevel) (List.cons.inj lines).1
  rw [← widths] at lines
  simpa using lines

end

/-- How many lines a row has. -/
def rowHeight (row : List String) : Nat :=
  (row.map fun cell => (cellLines cell).length).foldl max 1

theorem length_rowLines (widths : List Nat) (row : List String) :
    (rowLines widths row).length = rowHeight row := by
  rw [rowLines, List.length_map, List.length_range, rowHeight, List.foldl_map, List.foldl_map]

theorem rowHeight_pos (row : List String) : 0 < rowHeight row := by
  have grows : ∀ (heights : List Nat) (least : Nat), 0 < least → 0 < heights.foldl max least := by
    intro heights
    induction heights with
    | nil => exact fun _ above => above
    | cons height rest inductionHypothesis =>
      exact fun least above => inductionHypothesis _ (lt_max_of_lt_left above)
  exact grows _ 1 Nat.one_pos

/-- Lists that are put together from pieces of the same lengths are the same only if the pieces
are. -/
theorem forall₂_of_flatMap_eq {α β : Type} {piece : α → List β} {relation : α → α → Prop}
    (level : ∀ one other, relation one other → (piece one).length = (piece other).length)
    {items others : List α} (matched : List.Forall₂ relation items others)
    (same : items.flatMap piece = others.flatMap piece) :
    List.Forall₂ (fun one other => relation one other ∧ piece one = piece other) items others := by
  induction matched with
  | nil => exact .nil
  | cons first _ inductionHypothesis =>
    rw [List.flatMap_cons, List.flatMap_cons] at same
    obtain ⟨here, behind⟩ := List.append_inj same (level _ _ first)
    exact .cons ⟨first, here⟩ (inductionHypothesis behind)

/-- Tables of rows that are equally high are the same only if the lines of the rows are. -/
theorem rowLines_of_table_eq {α : Type} {header : List String} {row : α → List String}
    {relation : α → α → Prop} {items others : List α} (headed : header ≠ [])
    (long : ∀ item, (row item).length = header.length)
    (level : ∀ one other, relation one other → rowHeight (row one) = rowHeight (row other))
    (matched : List.Forall₂ relation items others)
    (same : table header (items.map row) = table header (others.map row)) :
    ∃ widths : List Nat, widths.length = header.length ∧
      List.Forall₂ (fun one other => relation one other ∧
        rowLines widths (row one) = rowLines widths (row other)) items others := by
  have every : ∀ items : List α, ∀ cells ∈ items.map row, cells.length = header.length :=
    fun _ => List.forall_mem_map.mpr fun item _ => long item
  have rows := rows_of_table_eq headed (every items) (every others) same
  rw [List.flatMap_map, List.flatMap_map] at rows
  refine ⟨_, length_columnWidths (every items), forall₂_of_flatMap_eq (fun one other related => ?_)
    matched rows⟩
  rw [length_rowLines, length_rowLines, level one other related]

/-! ### Cells -/

/-- The first line of a cell. -/
def firstLine (cell : String) : List Char := (cellLines cell).getD 0 []

/-- Whether two lines cannot be told apart once spaces are put behind them. -/
def LooksLike (one other : List Char) : Prop :=
  ∃ few many, one ++ List.replicate few ' ' = other ++ List.replicate many ' '

/-- The first line of a row, with spaces behind each of its cells. -/
theorem head?_rowLines (widths : List Nat) (row : List String) :
    (rowLines widths row).head? =
      some ("│ " ++ joinWith " │ " (List.zipWith (fun columns cell =>
        padded columns (firstLine cell)) widths row) ++ " │") := by
  have above := rowHeight_pos row
  rw [rowHeight, List.foldl_map] at above
  rw [rowLines, List.head?_map, List.head?_range, List.foldl_map, if_neg above.ne',
    Option.map_some, List.zipWith_map_right]
  rfl

/-- Rows that have the same lines and differ in a single cell look the same in its first line. -/
theorem looksLike_of_rowLines_eq {widths : List Nat} {front behind : List String}
    {one other : String} (wide : front.length < widths.length)
    (same : rowLines widths (front ++ one :: behind) = rowLines widths (front ++ other :: behind)) :
    LooksLike (firstLine one) (firstLine other) := by
  have heads := congrArg List.head? same
  have long : (widths.take front.length).length = front.length := List.length_take_of_le wide.le
  rw [head?_rowLines, head?_rowLines, ← widths.take_append_drop front.length,
    List.drop_eq_getElem_cons wide, List.zipWith_append long, List.zipWith_append long,
    List.zipWith_cons_cons, List.zipWith_cons_cons] at heads
  have cells := part_of_joinWith_eq
    ((String.append_right_inj _).mp ((String.append_left_inj _).mp (Option.some.inj heads)))
  exact ⟨_, _, String.ofList_injective cells⟩

end FleetView.Text
