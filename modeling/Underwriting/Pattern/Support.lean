import Underwriting.Pattern.Reader

/-!
# Patterns that can be used

A pattern can be used if it is not nested too deeply and needs no table of characters: there is none
of letter case, of digits, of white space or of words. Where characters are taken for bytes, these
are known for ASCII, and nothing may match a byte beyond it.
-/

namespace Underwriting

/-- How characters are compared. -/
structure PatternMode where
  ignoreCase : Bool
  unicode : Bool
deriving DecidableEq

namespace PatternMode

/-- The mode in which a pattern begins. -/
def start : PatternMode := ⟨false, true⟩

/-- The mode with switches. -/
def apply (mode : PatternMode) (change : FlagChange) : PatternMode :=
  ⟨change.ignoreCase?.getD mode.ignoreCase, change.unicode?.getD mode.unicode⟩

end PatternMode

/-- An ASCII character. -/
def PatternLiteral.isAscii (literal : PatternLiteral) : Bool := literal.character.toNat < 128

namespace ClassSet

mutual

/-- The class can be used in a mode. -/
def isSupported (mode : PatternMode) : ClassSet → Bool
  | .empty => true
  | .literal value => if mode.unicode then !mode.ignoreCase else value.isAscii
  | .range first last =>
    if mode.unicode then !mode.ignoreCase else first.isAscii && last.isAscii
  | .named negated => if mode.unicode then !mode.ignoreCase else !negated
  | .shorthand negated => !mode.unicode && !negated
  | .union items => areSupported mode items
  | .bracketed negated inner => inner.isSupported mode && (mode.unicode || !negated)
  | .combination left right => left.isSupported mode && right.isSupported mode

/-- All classes can be used in a mode. -/
def areSupported (mode : PatternMode) : List ClassSet → Bool
  | [] => true
  | item :: rest => item.isSupported mode && areSupported mode rest

end

mutual

/-- How deeply a class is nested inside its brackets. -/
def height : ClassSet → Nat
  | .union items => maxHeight items + 1
  | .bracketed _ inner => inner.height + 1
  | .combination left right => max left.height right.height + 1
  | _ => 0

/-- How deeply the deepest of several classes is nested. -/
def maxHeight : List ClassSet → Nat
  | [] => 0
  | item :: rest => max item.height (maxHeight rest)

end

end ClassSet

namespace Pattern

/-- The deepest nesting. -/
def heightLimit : Nat := 250

mutual

/-- How deeply a pattern is nested. -/
def height : Pattern → Nat
  | .bracketed _ set => set.height + 1
  | .repetition inner | .group _ inner => inner.height + 1
  | .alternation branches => maxHeight branches + 1
  | .sequence members => maxHeight members + 1
  | _ => 0

/-- How deeply the deepest of several patterns is nested. -/
def maxHeight : List Pattern → Nat
  | [] => 0
  | pattern :: rest => max pattern.height (maxHeight rest)

end

mutual

/-- The mode behind a pattern that can be used; switches hold to the end of their group. -/
def modeAfter? (mode : PatternMode) : Pattern → Option PatternMode
  | .empty | .anchor => some mode
  | .flags change => some (mode.apply change)
  | .literal value =>
    if (if mode.unicode then !mode.ignoreCase else value.isAscii || !value.isByte) then some mode
    else none
  | .dot => if mode.unicode then some mode else none
  | .boundary => if mode.unicode then none else some mode
  | .shorthand negated => if mode.unicode || negated then none else some mode
  | .bracketed negated set =>
    if (ClassSet.bracketed negated set).isSupported mode then some mode else none
  | .repetition inner => inner.modeAfter? mode
  | .group change inner => (inner.modeAfter? (mode.apply change)).map fun _ => mode
  | .alternation branches => modeAfterAll? mode branches
  | .sequence members => modeAfterAll? mode members

/-- The mode behind several patterns that can be used. -/
def modeAfterAll? (mode : PatternMode) : List Pattern → Option PatternMode
  | [] => some mode
  | pattern :: rest => match pattern.modeAfter? mode with
    | some mode => modeAfterAll? mode rest
    | none => none

end

/-- The pattern can be used. -/
def isSupported (pattern : Pattern) : Bool :=
  pattern.height ≤ heightLimit && (pattern.modeAfter? .start).isSome

end Pattern

/-- The text is a pattern that can be used. -/
def isPattern (text : List Char) : Bool := (Pattern.read? text).any (·.isSupported)

end Underwriting
