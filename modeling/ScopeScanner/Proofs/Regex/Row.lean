import ScopeScanner.Proofs.Regex.Limits
import ScopeScanner.Proofs.Regex.Parens

/-!
# Rows of items

A text taken literally is a row of items, one for each character (`Regex.Item.ofChar`), and so is one with
the character that never matches among them (`Regex.Item.never`). An item is read without a look at what
comes before it, and what comes behind it matters only if it could be a quantifier or a comment
(`Regex.Sets`). An automaton runs the row, and nothing but its size can keep it from being compiled:

* **`Regex.readExpression_row`**: a row with the mark for lines in front is read as the sequence of its
  items. It rests on `Regex.readBranch_row`, an induction on the row.
* **`Regex.compile_row`**: it is compiled to an automaton for that sequence, unless it takes too much
  room.
-/

namespace ScopeScanner.Regex

/-- A text that is read as one character, whatever text that sets off from it follows, and the plain
expression that an automaton runs for it. -/
structure Item where
  text : List Char
  node : Node
  plain : Plain
  nonempty : text ≠ []
  solid : node.isEmpty = false
  sets : ∀ rest, Sets (text ++ rest)
  read : ∀ fuel depth rest, Sets rest →
    readPiece (fuel + 2) depth .lines (text ++ rest) = .ok (node, rest, .lines)
  easy : node.isHard [] = false
  toPlain : node.toPlain = .ok plain
  flat : ∀ within ≤ 2, node.depth within + 2 ≤ Node.maxPlainDepth

/-- The text of a row of items. -/
def rowText (row : List Item) : List Char :=
  row.flatMap Item.text

/-- The plain expression of a row of items. -/
def rowPlain (row : List Item) : Plain :=
  .ofItems (row.map Item.plain)

theorem Sets.row (row : List Item) : Sets (rowText row) := by
  cases row with
  | nil => exact .nil
  | cons item row =>
    rw [rowText, List.flatMap_cons]
    exact item.sets _

/-! ## Reading -/

theorem length_le_rowText (row : List Item) : row.length ≤ (rowText row).length := by
  induction row with
  | nil => exact Nat.le_refl 0
  | cons item row ih =>
    have hpos := List.length_pos_iff.mpr item.nonempty
    rw [rowText] at ih ⊢
    rw [List.flatMap_cons, List.length_append, List.length_cons]
    omega

/-- **A row is read item by item.** By induction on the row; the items in front of it have been read
already. -/
theorem readBranch_row (row : List Item) (depth fuel : Nat) (items : List Node)
    (hfuel : row.length + 3 ≤ fuel) :
    readBranch fuel depth .lines items (rowText row) =
      .ok (Node.ofItems (items.reverse ++ row.map Item.node), [], .lines) := by
  induction row generalizing fuel items with
  | nil =>
    obtain ⟨fuel, rfl⟩ : ∃ left, fuel = left + 1 := ⟨fuel - 1, by omega⟩
    rw [readBranch, List.map_nil, List.append_nil]
    rfl
  | cons item row ih =>
    obtain ⟨fuel, rfl⟩ : ∃ left, fuel = left + 3 := ⟨fuel - 3, by omega⟩
    have htext : rowText (item :: row) = item.text ++ rowText row := List.flatMap_cons
    have hpos : 0 < item.text.length := List.length_pos_iff.mpr item.nonempty
    have hsome : (item.text ++ rowText row).isEmpty = false :=
      List.isEmpty_eq_false_iff.mpr fun hnil => item.nonempty (List.append_eq_nil_iff.mp hnil).1
    have hshorter : (rowText row).length ≠ (item.text ++ rowText row).length := by
      rw [List.length_append]
      omega
    rw [htext, readBranch, hsome, item.read _ _ _ (.row row)]
    dsimp only [bind, Except.bind]
    rw [if_neg Bool.false_ne_true, if_neg hshorter, item.solid, if_neg Bool.false_ne_true,
      ih (fuel + 2) _ (by simp only [List.length_cons] at hfuel; omega)]
    rw [List.reverse_cons, List.append_assoc, List.map_cons]
    rfl

/-- **A row with the mark for lines is read as the sequence of its items.** -/
theorem readExpression_row (row : List Item) :
    readExpression (Pattern.multilineMark ++ rowText row) =
      .ok { node := Node.ofItems (row.map Item.node), groups := 0, referenced := [] } := by
  have hlength := length_le_rowText row
  have hshorter : (rowText row).length ≠ (Pattern.multilineMark ++ rowText row).length := by
    rw [List.length_append]
    exact Nat.ne_of_lt (Nat.lt_add_of_pos_left (by decide))
  have hbranch : readBranch (8 * (Pattern.multilineMark ++ rowText row).length + 15) 0 {} []
      (Pattern.multilineMark ++ rowText row) =
        .ok (Node.ofItems (row.map Item.node), [], .lines) := by
    rw [readBranch, readPiece_mark _ _ (.row row) (by decide)]
    dsimp only [bind, Except.bind]
    rw [if_neg hshorter]
    exact readBranch_row row 0 _ [] (by rw [List.length_append]; omega)
  rw [readExpression, readAlternatives, hbranch]
  rfl

/-! ## Compiling -/

theorem toPlainAll_row (row : List Item) :
    Node.toPlainAll (row.map Item.node) = .ok (row.map Item.plain) := by
  induction row with
  | nil => rfl
  | cons item row ih =>
    rw [List.map_cons, Node.toPlainAll, item.toPlain, ih]
    rfl

theorem anyHard_row (row : List Item) : Node.anyHard [] (row.map Item.node) = false := by
  rw [Node.anyHard_eq_false_iff, List.forall_mem_map]
  exact fun item _ => item.easy

theorem depthOfAll_row (row : List Item) :
    Node.depthOfAll 2 (row.map Item.node) + 2 ≤ Node.maxPlainDepth := by
  induction row with
  | nil => decide
  | cons item row ih =>
    have hitem := item.flat 2 (Nat.le_refl 2)
    rw [List.map_cons, Node.depthOfAll]
    omega

/-- What is not hard does not end in a lookahead, so all of it is the whole match. -/
theorem withWhole_of_easy {node : Node} (h : node.isHard [] = false) :
    Expression.withWhole { node, groups := 0, referenced := [] } =
      { node := .group 0 node, groups := 0, referenced := [] } := by
  rw [Expression.withWhole]
  dsimp only
  split
  · next items =>
    split
    · next body hlast =>
      rw [Node.isHard, Node.anyHard_eq_false_iff] at h
      have heasy := h _ (List.mem_of_getLast? hlast)
      rw [Node.isHard] at heasy
      cases heasy
    · rfl
  · rfl

/-- A row is plain and nests little. -/
theorem ofItems_row (row : List Item) :
    (Node.ofItems (row.map Item.node)).toPlain = .ok (rowPlain row) ∧
      (Node.ofItems (row.map Item.node)).isHard [] = false ∧
      (Node.ofItems (row.map Item.node)).depth 0 ≤ Node.maxPlainDepth := by
  match row with
  | [] => exact ⟨rfl, rfl, by decide⟩
  | [item] =>
    exact ⟨item.toPlain, item.easy, Nat.le_of_add_right_le (item.flat 0 (Nat.zero_le 2))⟩
  | first :: second :: rest =>
    have hdepth := depthOfAll_row (first :: second :: rest)
    refine ⟨?_, anyHard_row (first :: second :: rest), ?_⟩
    · show (Node.seq ((first :: second :: rest).map Item.node)).toPlain = _
      rw [Node.toPlain, toPlainAll_row]
      rfl
    · show (Node.seq ((first :: second :: rest).map Item.node)).depth 0 ≤ _
      rw [Node.depth, if_neg (by decide)]
      omega

/-- **A row is compiled to an automaton for its items**, unless it takes too much room. -/
theorem compile_row (row : List Item) :
    compile (Pattern.multilineMark ++ rowText row) =
      if (Plain.group 0 (rowPlain row)).takesAtMost Footprint.limit then
        .ok { engine := .automaton (.ofPlain (.group 0 (rowPlain row)))
              groups := (rowPlain row).lastGroup }
      else .error .tooLarge := by
  obtain ⟨hplain, heasy, hdepth⟩ := ofItems_row row
  have hwhole : (Node.group 0 (.ofItems (row.map Item.node))).toPlain =
      .ok (.group 0 (rowPlain row)) := by
    rw [Node.toPlain, hplain]
    rfl
  have hhard : (Node.group 0 (.ofItems (row.map Item.node))).isHard [] = false := by
    rw [Node.isHard, heasy]
    rfl
  have hnested : ¬ Node.maxPlainDepth <
      (Node.group 0 (.ofItems (row.map Item.node))).depthOfWhole := Nat.not_lt_of_le hdepth
  rw [compile, readExpression_row]
  dsimp only [bind, Except.bind]
  rw [withWhole_of_easy heasy, ofExpression, hhard, if_neg Bool.false_ne_true, hwhole]
  dsimp only [bind, Except.bind]
  rw [if_neg hnested, Plain.lastGroup, Nat.zero_max]
  cases (Plain.group 0 (rowPlain row)).takesAtMost Footprint.limit <;> rfl

end ScopeScanner.Regex
