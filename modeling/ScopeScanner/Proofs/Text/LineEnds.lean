import ScopeScanner.Proofs.Text.Boundary

/-!
# Lines without their ends

`Text.dropLineEnds` cuts a row of characters in two: what is left ends with some other character, and what
is dropped are line feeds and carriage returns only.
-/

namespace ScopeScanner

namespace Text

/-- What is dropped are line ends. -/
theorem exists_lineEnds (chars : List Char) :
    ∃ ends, chars = dropLineEnds chars ++ ends ∧ ∀ c ∈ ends, isLineEnd c = true := by
  refine ⟨(chars.reverse.takeWhile isLineEnd).reverse, ?_, fun c hmem => ?_⟩
  · rw [dropLineEnds, ← List.reverse_append, List.takeWhile_append_dropWhile, List.reverse_reverse]
  · exact List.all_eq_true.mp List.all_takeWhile c (List.mem_reverse.mp hmem)

/-- What is left does not end with a line end. -/
theorem isLineEnd_of_getLast?_dropLineEnds {chars : List Char} {c : Char}
    (h : (dropLineEnds chars).getLast? = some c) : isLineEnd c = false := by
  have hhead := List.head?_dropWhile_not isLineEnd chars.reverse
  rw [dropLineEnds, List.getLast?_reverse] at h
  rwa [h] at hhead

/-- So no line feed is left of a line. -/
theorem newLine_not_mem_dropLineEnds {chars line : List Char} (h : line ∈ lines chars) :
    '\n' ∉ dropLineEnds line := by
  intro hmem
  obtain ⟨before, after, hsplit⟩ := List.append_of_mem hmem
  obtain ⟨ends, hline, _⟩ := exists_lineEnds line
  rw [hsplit, List.append_assoc, List.cons_append] at hline
  obtain ⟨rfl, _⟩ := List.append_eq_nil_iff.mp (eq_last_of_mem_lines h hline)
  have hlast : (dropLineEnds line).getLast? = some '\n' := by rw [hsplit]; simp
  exact absurd (isLineEnd_of_getLast?_dropLineEnds hlast) (by decide)

end Text

namespace Line

/-- Nothing lies behind the end of a line. -/
theorem drop_of_size_lt (line : Line) {p : Nat} (h : line.size < p) : line.drop p = [] := by
  have hbefore : ∀ boundary ∈ line.offsets, decide (p ≤ boundary) = false := by
    intro boundary hmem
    have hboundary : line.Boundary boundary := by
      rw [Boundary, ← line.offsets_eq]
      exact Array.mem_toList_iff.mpr hmem
    have hle := hboundary.le_size
    exact decide_eq_false (by omega)
  have hindex : line.index p = line.chars.size := by
    rw [index, Array.findIdx_eq_size_of_false hbefore, line.offsets_size]
    omega
  rw [drop, hindex]
  simp

end Line

end ScopeScanner
