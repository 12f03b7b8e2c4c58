import UnitRouting.Proofs.Text.Members

/-! # Lines

The lines of a text that was joined of pieces are those of the pieces. So its first line is found in the
first piece and its last line in the last one, whatever line ends there are in between. -/

namespace UnitRouting.Text

/-- The lines of a text. -/
def lines (t : Text) : List Text := t.splitOn '\n'

/-- The text fills a line: it is not empty, and no line ends in it. -/
def FitsLine (t : Text) : Prop := t ≠ [] ∧ CodePoint.ofChar '\n' ∉ t

theorem lines_of_not_mem {t : Text} (free : CodePoint.ofChar '\n' ∉ t) : t.lines = [t] :=
  splitOn_of_not_mem free

/-- The lines of joined pieces are those of the pieces. -/
theorem lines_join {pieces : List Text} (some : pieces ≠ []) :
    (join "\n" pieces).lines = pieces.flatMap lines := by
  obtain ⟨piece, rest, rfl⟩ := List.exists_cons_of_ne_nil some
  induction rest generalizing piece with
  | nil => simp [join]
  | cons next rest ih =>
      have lineEnd : Text.ofString "\n" = [CodePoint.ofChar '\n'] := rfl
      have later : (join "\n" (next :: rest)).lines = (next :: rest).flatMap lines :=
        ih next (List.cons_ne_nil next rest)
      rw [List.flatMap_cons, ← later, join, lineEnd, List.append_assoc, List.singleton_append, lines,
        splitOn_append]
      · rfl
      · exact List.cons_ne_nil next rest

theorem head?_lines_join (piece : Text) (rest : List Text) :
    (join "\n" (piece :: rest)).lines.head? = some (piece.before '\n') := by
  obtain ⟨pieces, split⟩ := exists_splitOn '\n' piece
  rw [lines_join (List.cons_ne_nil piece rest), List.flatMap_cons, lines, split, List.cons_append,
    List.head?_cons]

/-- The last line is in the last piece, and it is this piece if that is a single line. -/
theorem getLast?_lines_join {pieces : List Text} {last : Text} (ends : pieces.getLast? = some last)
    (free : CodePoint.ofChar '\n' ∉ last) : (join "\n" pieces).lines.getLast? = some last := by
  obtain ⟨front, rfl⟩ := List.getLast?_eq_some_iff.mp ends
  rw [lines_join (by simp), List.flatMap_append, List.flatMap_singleton, lines_of_not_mem free,
    List.getLast?_concat]

end UnitRouting.Text
