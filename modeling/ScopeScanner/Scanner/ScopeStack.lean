import ScopeScanner.Repository.Basic

/-!
# Scope stacks

The only thing a scan has to remember from one line to the next. The bottom frame stands for the
grammar and is always there; above it stand the regions that have begun and not yet ended.
-/

namespace ScopeScanner

/-- A region that has begun, or the grammar itself. -/
structure Frame where
  rule : RuleId
  /-- Scopes of the whole region, its ends included. -/
  nameScopes : List String
  /-- Scopes of what lies between the ends of the region. -/
  contentScopes : List String := []
  /-- The end to look for. The bottom frame has none, nor has a region whose end does not compile
  with the texts of its begin. -/
  closing : Option Pattern := none
  /-- Where the region began, in the buffer of the scan that met its begin. -/
  start : Nat := 0
  /-- Whether the begin went up to the very end of its line. -/
  beganAtLineEnd : Bool := false
  /-- The anchor that was in force before the region began. -/
  parentAnchor : Option Nat := none

namespace Frame

/-- Frames are equal if they agree in everything, ends being compared by their sources. -/
instance : BEq Frame where
  beq a b :=
    a.rule == b.rule && a.nameScopes == b.nameScopes && a.contentScopes == b.contentScopes
      && a.closing.map (·.source) == b.closing.map (·.source) && a.start == b.start
      && a.beganAtLineEnd == b.beganAtLineEnd && a.parentAnchor == b.parentAnchor

/-- Scopes of text inside the frame. -/
def scopes (frame : Frame) : List String :=
  frame.nameScopes ++ frame.contentScopes

end Frame

/-- The regions that are open, above the frame of the grammar. -/
structure ScopeStack where
  bottom : Frame
  /-- Open regions, the innermost first. -/
  regions : List Frame := []

namespace ScopeStack

instance : BEq ScopeStack where
  beq a b := a.bottom == b.bottom && a.regions == b.regions

/-- The stack at the start of a buffer. -/
def fresh (repository : Repository) : ScopeStack where
  bottom := {
    rule := repository.root
    nameScopes := (repository.rule? repository.root).elim [] (·.scopes) }

/-- The innermost frame. -/
def top (stack : ScopeStack) : Frame :=
  stack.regions.headD stack.bottom

/-- All frames, the bottom one first. -/
def frames (stack : ScopeStack) : List Frame :=
  stack.bottom :: stack.regions.reverse

/-- Number of frames, the bottom one included. -/
def depth (stack : ScopeStack) : Nat :=
  stack.regions.length + 1

/-- Opens a region. -/
def push (stack : ScopeStack) (frame : Frame) : ScopeStack :=
  { stack with regions := frame :: stack.regions }

/-- Closes the innermost region, if there is one. -/
def pop? (stack : ScopeStack) : Option (Frame × ScopeStack) :=
  match stack.regions with
  | [] => none
  | frame :: rest => some (frame, { stack with regions := rest })

/-- The scopes of text inside the innermost frame. -/
def scopes (stack : ScopeStack) : List String :=
  stack.frames.flatMap Frame.scopes

/-- The scopes of the ends of the innermost region, which its content scopes do not cover. -/
def delimiterScopes (stack : ScopeStack) : List String :=
  match stack.regions with
  | [] => stack.bottom.nameScopes
  | top :: rest => ({ stack with regions := rest } : ScopeStack).scopes ++ top.nameScopes

/-- The innermost regions as far as they began at `start`, the innermost first. -/
def openedAt (stack : ScopeStack) (start : Nat) : List Frame :=
  stack.regions.takeWhile (·.start = start)

/-- Forgets all anchors, which hold on one line only. -/
def clearAnchors (stack : ScopeStack) : ScopeStack where
  bottom := { stack.bottom with parentAnchor := none }
  regions := stack.regions.map fun frame => { frame with parentAnchor := none }

end ScopeStack

end ScopeScanner
