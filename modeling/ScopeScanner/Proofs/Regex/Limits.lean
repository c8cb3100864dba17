import Mathlib.Data.List.TakeWhile
import ScopeScanner.Regex.Search

/-!
# Limits of the engine

A tree that has been read may still fail to compile: the bounds of a repetition may be in the wrong
order, and a lookbehind has to know how far to go back. A tree without such faults is sound
(`Regex.Node.Sound`). Only its size and the depth of its nesting can then keep it from being compiled
(`Regex.ofExpression_upToLimits`), whether it becomes an automaton or a program.

Programs are put together by emitters, and what is put together from emitters that get through gets
through itself. So the induction over trees (`Regex.Node.emit_works`) has one short case for each kind
of node.
-/

namespace ScopeScanner.Regex

/-- The outcome is as wanted, unless the expression is too large or nests too deep. -/
inductive UpToLimits {α : Type} (Wanted : α → Prop) : Except Fault α → Prop where
  | ok {outcome : α} (h : Wanted outcome) : UpToLimits Wanted (.ok outcome)
  | tooLarge : UpToLimits Wanted (.error .tooLarge)
  | nestedTooDeep : UpToLimits Wanted (.error .nestedTooDeep)

namespace UpToLimits

variable {α β : Type} {Wanted : α → Prop} {Wanted' : β → Prop}

theorem bind {outcome : Except Fault α} (h : UpToLimits Wanted outcome) {next : α → Except Fault β}
    (hnext : ∀ result, Wanted result → UpToLimits Wanted' (next result)) :
    UpToLimits Wanted' (outcome >>= next) := by
  cases h with
  | ok h => exact hnext _ h
  | tooLarge => exact .tooLarge
  | nestedTooDeep => exact .nestedTooDeep

end UpToLimits

/-! ## Emitters -/

namespace Emitter

/-- Wherever it starts, an emitter gets through up to limits. -/
def Works (part : Emitter) : Prop :=
  ∀ start slot, UpToLimits (fun _ => True) (part start slot)

variable {part first second : Emitter}

namespace Works

theorem nothing : Works nothing :=
  fun _ _ => .ok trivial

theorem one (instruction : Instruction) : Works (one instruction) :=
  fun _ _ => .ok trivial

theorem append (hfirst : first.Works) (hsecond : second.Works) : (first.append second).Works :=
  fun start slot => (hfirst start slot).bind fun _ _ => (hsecond _ _).bind fun _ _ => .ok trivial

theorem all {parts : List Emitter} (h : ∀ part ∈ parts, part.Works) : (Emitter.all parts).Works := by
  induction parts with
  | nil => exact nothing
  | cons part parts ih =>
    rw [List.forall_mem_cons] at h
    exact h.1.append (ih h.2)

theorem followedBy (h : part.Works) (last : Nat → Nat → Instruction) : (part.followedBy last).Works :=
  fun start slot => (h start slot).bind fun _ _ => .ok trivial

theorem ledBy (first : Nat → Nat → Instruction) (h : part.Works) : (ledBy first part).Works :=
  fun _ slot => (h _ slot).bind fun _ _ => .ok trivial

theorem either (hfirst : first.Works) (hsecond : second.Works) : (either first second).Works :=
  fun _ slot => (hfirst _ slot).bind fun _ _ => (hsecond _ _).bind fun _ _ => .ok trivial

theorem anyOf {parts : List Emitter} (h : ∀ part ∈ parts, part.Works) : (anyOf parts).Works := by
  induction parts with
  | nil => exact nothing
  | cons part parts ih =>
    rw [List.forall_mem_cons] at h
    cases parts with
    | nil => exact h.1
    | cons next parts => exact h.1.either (ih h.2)

theorem optional (greedy : Bool) (h : part.Works) : (optional greedy part).Works :=
  h.ledBy _

theorem star (greedy : Bool) (h : part.Works) : (star greedy part).Works :=
  fun start => (h.followedBy _).ledBy _ start

theorem plus (greedy : Bool) (h : part.Works) : (plus greedy part).Works :=
  h.followedBy _

theorem counted (least : Nat) (most : Option Nat) (greedy : Bool) (h : part.Works) :
    (counted least most greedy part).Works :=
  fun start slot => ((one _).append ((h.followedBy _).ledBy _)) start (slot + 1)

theorem countedMoving (least : Nat) (greedy : Bool) (h : part.Works) :
    (countedMoving least greedy part).Works :=
  fun start slot => ((one _).append ((h.followedBy _).ledBy _)) start (slot + 2)

/-- A part between two instructions. -/
theorem between (before after : Instruction) (h : part.Works) :
    (Emitter.all [.one before, part, .one after]).Works :=
  (one before).append (h.append ((one after).append nothing))

theorem looking (negated : Bool) (h : part.Works) : (looking negated part).Works := by
  cases negated with
  | true => exact (h.append (one _)).ledBy _
  | false => exact fun start slot => h.between _ _ start (slot + 1)

theorem conditional {condition yes no : Emitter} (hcondition : condition.Works) (hyes : yes.Works)
    (hno : no.Works) : (conditional condition yes no).Works :=
  (one _).append ((hcondition.append ((one _).append (hyes.append nothing))).either hno)

end Works

end Emitter

/-! ## Sound trees -/

namespace Node

/-- The bounds of a repetition are in order and not too large. -/
def InOrder (least : Nat) (most : Option Nat) : Prop :=
  least ≤ maxBound ∧ ∀ bound ∈ most, least ≤ bound ∧ bound ≤ maxBound

variable (referenced : List Nat)

mutual

/-- All bounds of repetitions are in order, and the body of a lookbehind is plain or has a fixed
width. -/
def Sound : Node → Prop
  | empty | leaf _ _ | assertion _ | backreference _ _ _ _ | keepOut | groupIsSet _ => True
  | seq items => AllSound items
  | alt branches => AllSound branches
  | group _ body => body.Sound
  | repeated least most _ body => InOrder least most ∧ body.Sound
  | look .ahead _ body => body.Sound
  | look .behind _ body => body.Sound ∧ (body.isHard referenced = false ∨ body.hasFixedWidth = true)
  | atomic body => body.Sound
  | conditional condition yes no => condition.Sound ∧ yes.Sound ∧ no.Sound

/-- All of several trees are sound. -/
def AllSound : List Node → Prop
  | [] => True
  | node :: nodes => node.Sound ∧ AllSound nodes

end

variable {referenced} {least : Nat} {most : Option Nat} {greedy : Bool} {body : Node}

theorem allSound_iff {nodes : List Node} :
    AllSound referenced nodes ↔ ∀ node ∈ nodes, node.Sound referenced := by
  induction nodes with
  | nil => exact iff_of_true trivial (List.forall_mem_nil _)
  | cons node nodes ih => rw [AllSound, ih, List.forall_mem_cons]

theorem anyHard_eq_false_iff {nodes : List Node} :
    anyHard referenced nodes = false ↔ ∀ node ∈ nodes, node.isHard referenced = false := by
  induction nodes with
  | nil => exact iff_of_true rfl (List.forall_mem_nil _)
  | cons node nodes ih => rw [anyHard, Bool.or_eq_false_iff, ih, List.forall_mem_cons]

theorem repeatPlain_of_inOrder (h : InOrder least most) (plain : Plain) :
    repeatPlain least most greedy plain = .ok (Plain.repeat least most greedy plain) := by
  have hordered : most.any (· < least) = false := by
    cases most with
    | none => rfl
    | some bound => exact decide_eq_false (Nat.not_lt_of_le (h.2 bound rfl).1)
  have hsmall : most.any (maxBound < ·) = false := by
    cases most with
    | none => rfl
    | some bound => exact decide_eq_false (Nat.not_lt_of_le (h.2 bound rfl).2)
  rw [repeatPlain, hordered, hsmall, decide_eq_false (Nat.not_lt_of_le h.1)]
  rfl

/-- A quantifier behind a leaf belongs to the last of its parts, and otherwise to the whole body. -/
theorem exists_toPlain_repeated (h : InOrder least most) (hbody : ∃ plain, body.toPlain = .ok plain) :
    ∃ plain, (repeated least most greedy body).toPlain = .ok plain := by
  obtain ⟨plain, hplain⟩ := hbody
  by_cases hleaf : ∃ parts depth, body = leaf parts depth
  · obtain ⟨parts, depth, rfl⟩ := hleaf
    rw [toPlain, repeatPlain_of_inOrder h]
    exact ⟨_, rfl⟩
  · rw [toPlain, hplain]
    · exact ⟨_, repeatPlain_of_inOrder h plain⟩
    · intro parts depth heq
      exact hleaf ⟨parts, depth, heq⟩

mutual

/-- A sound tree that is not hard has a plain expression. -/
theorem exists_toPlain : (node : Node) → node.Sound referenced → node.isHard referenced = false →
    ∃ plain, node.toPlain = .ok plain
  | empty, _, _ | leaf _ _, _, _ | assertion _, _, _ => ⟨_, rfl⟩
  | seq items, hsound, heasy => by
    rw [Sound] at hsound
    rw [isHard] at heasy
    obtain ⟨plains, hplains⟩ := exists_toPlainAll items hsound heasy
    rw [toPlain, hplains]
    exact ⟨_, rfl⟩
  | alt branches, hsound, heasy => by
    rw [Sound] at hsound
    rw [isHard] at heasy
    obtain ⟨plains, hplains⟩ := exists_toPlainAll branches hsound heasy
    rw [toPlain, hplains]
    exact ⟨_, rfl⟩
  | group number body, hsound, heasy => by
    rw [Sound] at hsound
    rw [isHard, Bool.or_eq_false_iff] at heasy
    obtain ⟨plain, hplain⟩ := exists_toPlain body hsound heasy.1
    rw [toPlain, hplain]
    exact ⟨_, rfl⟩
  | repeated least most greedy body, hsound, heasy => by
    rw [Sound] at hsound
    rw [isHard] at heasy
    exact exists_toPlain_repeated hsound.1 (exists_toPlain body hsound.2 heasy)
  | look _ _ _, _, heasy | atomic _, _, heasy | backreference _ _ _ _, _, heasy | keepOut, _, heasy
  | groupIsSet _, _, heasy | conditional _ _ _, _, heasy => by
    rw [isHard] at heasy
    cases heasy

/-- The same for several trees. -/
theorem exists_toPlainAll : (nodes : List Node) → AllSound referenced nodes →
    anyHard referenced nodes = false → ∃ plains, toPlainAll nodes = .ok plains
  | [], _, _ => ⟨[], rfl⟩
  | node :: nodes, hsound, heasy => by
    rw [AllSound] at hsound
    rw [anyHard, Bool.or_eq_false_iff] at heasy
    obtain ⟨plain, hplain⟩ := exists_toPlain node hsound.1 heasy.1
    obtain ⟨plains, hplains⟩ := exists_toPlainAll nodes hsound.2 heasy.2
    rw [toPlainAll, hplain, hplains]
    exact ⟨_, rfl⟩

end

end Node

open Emitter (Works)

/-! ## Compiling -/

section Compiling

variable {referenced : List Nat} {nodes : List Node}

theorem automatonOf_upToLimits (hsound : Node.AllSound referenced nodes)
    (heasy : Node.anyHard referenced nodes = false) (reversed : Bool) (room : Nat) :
    UpToLimits (fun _ => True) (automatonOf nodes reversed room) := by
  obtain ⟨plains, hplains⟩ := Node.exists_toPlainAll nodes hsound heasy
  rw [automatonOf, hplains]
  split
  · exact .nestedTooDeep
  · dsimp only [bind, Except.bind]
    split
    · exact .tooLarge
    · exact .ok trivial

theorem emitPlain_works (hsound : Node.AllSound referenced nodes)
    (heasy : Node.anyHard referenced nodes = false) : Works (emitPlain nodes) := by
  intro start slot
  rw [emitPlain]
  split
  · exact .ok trivial
  · exact (automatonOf_upToLimits hsound heasy false _).bind fun _ _ => .ok trivial

/-- Several plain parts of a sound sequence, whichever they are. -/
theorem emitPlain_works_of_mem (referenced : List Nat) (h : ∀ node ∈ nodes, node.Sound referenced ∧
    node.isHard referenced = false) : Works (emitPlain nodes) :=
  emitPlain_works (Node.allSound_iff.mpr fun node hmem => (h node hmem).1)
    (Node.anyHard_eq_false_iff.mpr fun node hmem => (h node hmem).2)

theorem emitPlain_works_of_easy {node : Node} (hsound : node.Sound referenced)
    (heasy : node.isHard referenced = false) : Works (emitPlain [node]) :=
  emitPlain_works_of_mem referenced (List.forall_mem_singleton.mpr ⟨hsound, heasy⟩)

/-- One can go back over the body of a lookbehind if it has a fixed width, and else if it can be read
backwards. -/
theorem emitBehind_works {body : Node} {part : Emitter} (hsound : body.Sound referenced)
    (hback : body.isHard referenced = false ∨ body.hasFixedWidth = true) (hpart : part.Works) :
    Works (emitBehind body (body.isHard referenced) part) := by
  intro start slot
  rw [emitBehind]
  split
  · exact (Works.one _).append hpart start slot
  · next hfree =>
    have heasy : body.isHard referenced = false := hback.resolve_right hfree
    have hall : Node.AllSound referenced [body] := ⟨hsound, trivial⟩
    have hnone : Node.anyHard referenced [body] = false := by
      rw [Node.anyHard, heasy, Node.anyHard]
      rfl
    rw [heasy, if_neg Bool.false_ne_true]
    exact (automatonOf_upToLimits hall hnone _ _).bind fun _ _ =>
      (automatonOf_upToLimits hall hnone _ _).bind fun _ _ => .ok trivial

namespace Node

variable {body : Node}

/-- A lookbehind whose body is no choice goes back over the body. A choice is gone back over as a
whole, or branch by branch. -/
theorem emit_behind_works (hard negated : Bool) (hsound : body.Sound referenced)
    (hback : body.isHard referenced = false ∨ body.hasFixedWidth = true)
    (hbody : (body.emit referenced false).Works)
    (hbranches : ∀ branches, body = alt branches →
      ∀ part ∈ emitEach referenced false branches, part.Works) :
    ((look .behind negated body).emit referenced hard).Works := by
  by_cases halt : ∃ branches, body = alt branches
  · obtain ⟨branches, rfl⟩ := halt
    rw [emit]
    split
    · exact (emitBehind_works hsound hback hbody).looking negated
    · next hfree =>
      have heasy : (alt branches).isHard referenced = false := hback.resolve_right hfree
      rw [isHard, anyHard_eq_false_iff] at heasy
      rw [Sound, allSound_iff] at hsound
      have hparts : ∀ part ∈ (branches.zip (emitEach referenced false branches)).map
          (fun pair => Emitter.looking negated
            (emitBehind pair.1 (pair.1.isHard referenced) pair.2)), part.Works := by
        intro part hmem
        obtain ⟨⟨branch, inner⟩, hzip, rfl⟩ := List.mem_map.mp hmem
        obtain ⟨hbranch, hinner⟩ := List.of_mem_zip hzip
        exact (emitBehind_works (hsound branch hbranch) (Or.inl (heasy branch hbranch))
          (hbranches branches rfl inner hinner)).looking negated
      cases negated with
      | true => exact Works.all hparts
      | false => exact Works.anyOf hparts
  · rw [emit]
    · exact (emitBehind_works hsound hback hbody).looking negated
    · intro branches heq
      exact halt ⟨branches, heq⟩

/-- The plain parts at both ends of a sound sequence become one instruction each, and the parts between
them are written one by one. -/
theorem emit_seq_works {items : List Node} (hard : Bool) (hsound : AllSound referenced items)
    (hparts : ∀ part ∈ emitEach referenced true items, part.Works) :
    ((seq items).emit referenced hard).Works := by
  rw [allSound_iff] at hsound
  rw [emit]
  split
  · next heasy =>
    simp only [Bool.and_eq_true, Bool.not_eq_true'] at heasy
    refine emitPlain_works_of_easy ?_ (by rw [isHard]; exact heasy.2)
    rwa [Sound, allSound_iff]
  · refine .append (emitPlain_works_of_mem referenced fun item hmem => ?_)
      (.append (.all fun part hmem => ?_) (emitPlain_works_of_mem referenced fun item hmem => ?_))
    · have hsettled := List.mem_takeWhile_imp hmem
      rw [Bool.and_eq_true, Bool.not_eq_true'] at hsettled
      exact ⟨hsound item ((List.takeWhile_prefix _).subset hmem), hsettled.2⟩
    · exact hparts part (List.mem_of_mem_drop (List.mem_of_mem_take hmem))
    · have hlast := List.mem_reverse.mp hmem
      have hrest := List.mem_reverse.mp ((List.takeWhile_prefix _).subset hlast)
      have hplain := List.mem_takeWhile_imp hlast
      refine ⟨hsound item ((List.dropWhile_suffix _).subset hrest), ?_⟩
      cases hard with
      | true =>
        rw [if_pos rfl, Bool.and_eq_true, Bool.not_eq_true'] at hplain
        exact hplain.2
      | false =>
        rw [if_neg Bool.false_ne_true, Bool.not_eq_true'] at hplain
        exact hplain

theorem emit_repeated_works {least : Nat} {most : Option Nat} (hard greedy : Bool)
    (hsound : (repeated least most greedy body).Sound referenced)
    (hbody : ∀ hard, (body.emit referenced hard).Works) :
    ((repeated least most greedy body).emit referenced hard).Works := by
  rw [emit]
  dsimp only
  split
  · next heasy =>
    simp only [Bool.and_eq_true, Bool.not_eq_true'] at heasy
    exact emitPlain_works_of_easy hsound (by rw [isHard]; exact heasy.2)
  · split
    · exact (hbody hard).optional greedy
    · split
      · exact (hbody _).countedMoving least greedy
      · split
        · exact (hbody _).star greedy
        · split
          · exact (hbody _).plus greedy
          · exact (hbody _).counted least most greedy

mutual

/-- **The program of a sound tree is written** up to limits. By induction on the tree. -/
theorem emit_works : (node : Node) → (hard : Bool) → node.Sound referenced →
    (node.emit referenced hard).Works
  | empty, _, _ => .nothing
  | leaf parts depth, hard, hsound => by
    rw [emit]
    exact emitPlain_works_of_easy hsound (by rw [isHard])
  | assertion a, _, _ | backreference _ _ _ _, _, _ | keepOut, _, _ | groupIsSet _, _, _ => .one _
  | seq items, hard, hsound => by
    rw [Sound] at hsound
    exact emit_seq_works hard hsound (emitEach_works items true hsound)
  | alt branches, hard, hsound => by
    rw [emit]
    split
    · next heasy =>
      simp only [Bool.and_eq_true, Bool.not_eq_true'] at heasy
      exact emitPlain_works_of_easy hsound (by rw [isHard]; exact heasy.2)
    · rw [Sound] at hsound
      exact .anyOf (emitEach_works branches hard hsound)
  | group number body, hard, hsound => by
    rw [emit]
    split
    · next heasy =>
      simp only [Bool.and_eq_true, Bool.not_eq_true'] at heasy
      exact emitPlain_works_of_easy hsound heasy.2
    · rw [Sound] at hsound
      exact (emit_works body hard hsound).between _ _
  | repeated least most greedy body, hard, hsound => by
    refine emit_repeated_works hard greedy hsound fun hard => ?_
    rw [Sound] at hsound
    exact emit_works body hard hsound.2
  | look .ahead negated body, _, hsound => by
    rw [Sound] at hsound
    rw [emit]
    exact (emit_works body false hsound).looking negated
  | look .behind negated body, hard, hsound => by
    rw [Sound] at hsound
    refine emit_behind_works hard negated hsound.1 hsound.2 (emit_works body false hsound.1) ?_
    intro branches hbranches part hmem
    cases body with
    | alt others =>
      obtain rfl : others = branches := by injection hbranches
      have hall := hsound.1
      rw [Sound] at hall
      exact emitEach_works others false hall part hmem
    | _ => cases hbranches
  | atomic body, _, hsound => by
    rw [Sound] at hsound
    exact (emit_works body false hsound).between _ _
  | conditional condition yes no, hard, hsound => by
    rw [Sound] at hsound
    exact (emit_works condition hard hsound.1).conditional (emit_works yes hard hsound.2.1)
      (emit_works no hard hsound.2.2)

/-- The same for several trees. -/
theorem emitEach_works : (nodes : List Node) → (hard : Bool) → AllSound referenced nodes →
    ∀ part ∈ emitEach referenced hard nodes, part.Works
  | [], _, _ => List.forall_mem_nil _
  | node :: nodes, hard, hsound => by
    rw [AllSound] at hsound
    rw [emitEach, List.forall_mem_cons]
    exact ⟨emit_works node hard hsound.1, emitEach_works nodes hard hsound.2⟩

end

end Node

/-! ## Whole expressions -/

theorem ofNode_upToLimits {expression : Expression}
    (hsound : expression.node.Sound expression.referenced) :
    UpToLimits (fun _ => True) (Program.ofNode expression) := by
  have hany : (Node.ofSet (.anyChar true)).Sound [] := by
    rw [Node.ofSet, Node.Sound]
    trivial
  have hskipped : (emitPlain [.ofSet (.anyChar true)]).Works := emitPlain_works_of_easy hany rfl
  have hstart : Works (if expression.node.isAnchored then Emitter.nothing
      else .star false (emitPlain [.ofSet (.anyChar true)])) := by
    split
    · exact .nothing
    · exact hskipped.star false
  have hwhole := hstart.append ((Node.emit_works expression.node false hsound).append
    ((Works.one .finish).append .nothing))
  exact (hwhole 0 (2 * expression.groups + 2)).bind fun _ _ => .ok trivial

/-- **A sound expression compiles** up to limits. -/
theorem ofExpression_upToLimits {expression : Expression}
    (hsound : expression.node.Sound expression.referenced) :
    UpToLimits (fun _ => True) (ofExpression expression) := by
  rw [ofExpression]
  split
  · exact (ofNode_upToLimits hsound).bind fun _ _ => .ok trivial
  · next heasy =>
    obtain ⟨plain, hplain⟩ :=
      Node.exists_toPlain expression.node hsound (Bool.eq_false_iff.mpr heasy)
    rw [hplain]
    dsimp only [bind, Except.bind]
    split
    · exact .nestedTooDeep
    · split
      · exact .tooLarge
      · exact .ok trivial

/-- The group for the whole match keeps an expression sound, also where it leaves out a lookahead. -/
theorem Expression.withWhole_sound {expression : Expression}
    (hsound : expression.node.Sound expression.referenced) :
    expression.withWhole.node.Sound expression.referenced := by
  rw [withWhole]
  dsimp only
  split
  · next items hitems =>
    rw [hitems, Node.Sound, Node.allSound_iff] at hsound
    split
    · next body hlast =>
      have hbody := hsound _ (List.mem_of_getLast? hlast)
      rw [Node.Sound] at hbody
      rw [Node.Sound, Node.AllSound, Node.AllSound, Node.Sound, Node.Sound, Node.allSound_iff]
      exact ⟨fun item hmem => hsound item ((List.dropLast_prefix items).subset hmem), hbody, trivial⟩
    · rw [Node.Sound, hitems, Node.Sound, Node.allSound_iff]
      exact hsound
  · rw [Node.Sound]
    exact hsound

/-- A text that is read as a sound expression compiles up to limits. -/
theorem compile_upToLimits {text : List Char}
    (h : UpToLimits (fun expression => expression.node.Sound expression.referenced)
      (readExpression text)) :
    UpToLimits (fun _ => True) (compile text) :=
  h.bind fun _ hsound => ofExpression_upToLimits (Expression.withWhole_sound hsound)

end Compiling

end ScopeScanner.Regex
