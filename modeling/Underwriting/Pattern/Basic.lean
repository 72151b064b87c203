import Underwriting.Text.Blank

/-!
# Patterns

The syntax of regular expressions, as far as it decides whether a pattern can be used. A pattern
stands in front of a closing brace and has none in it, so counted repetition and properties by
name, which would need one, do not occur.
-/

namespace Underwriting

/-- A character of a pattern. `isByte` marks one that is written as a byte of two digits. -/
structure PatternLiteral where
  character : Char
  isByte : Bool
deriving DecidableEq

/-- What stands between the brackets of a class. `named` is a class by its name, as in `[:digit:]`,
and `shorthand` one by a letter, as in `\d`. A combination is an intersection or a difference. -/
inductive ClassSet
  | empty
  | literal (value : PatternLiteral)
  | range (first last : PatternLiteral)
  | named (negated : Bool)
  | shorthand (negated : Bool)
  | union (items : List ClassSet)
  | bracketed (negated : Bool) (inner : ClassSet)
  | combination (left right : ClassSet)

/-- Switches that a pattern sets for a part of itself: whether case is ignored, whether characters
are taken for Unicode or for bytes, and whether blanks in the pattern are ignored. -/
structure FlagChange where
  ignoreCase? : Option Bool
  unicode? : Option Bool
  ignoreBlanks? : Option Bool
deriving DecidableEq

/-- No switch is set. -/
def FlagChange.none : FlagChange := ⟨.none, .none, .none⟩

/-- A regular expression. An anchor is tied to an end of the text or of a line, a boundary to the
beginning or the end of a word. -/
inductive Pattern
  | empty
  | literal (value : PatternLiteral)
  | dot
  | anchor
  | boundary
  | shorthand (negated : Bool)
  | bracketed (negated : Bool) (set : ClassSet)
  | repetition (inner : Pattern)
  | group (change : FlagChange) (inner : Pattern)
  | flags (change : FlagChange)
  | alternation (branches : List Pattern)
  | sequence (members : List Pattern)

namespace Pattern

/-- Patterns one after the other. -/
def ofMembers : List Pattern → Pattern
  | [] => .empty
  | [member] => member
  | members => .sequence members

/-- Patterns of which one is chosen. -/
def ofBranches : List Pattern → Pattern
  | [] => .empty
  | [branch] => branch
  | branches => .alternation branches

end Pattern

/-- Text without the white space and the comments at its front. A comment goes from a number sign
to the end of its line. -/
def dropRemarks (inComment : Bool) : List Char → List Char
  | [] => []
  | character :: rest =>
    if inComment then dropRemarks (character ≠ '\n') rest
    else if isBlank character then dropRemarks false rest
    else if character = '#' then dropRemarks true rest
    else character :: rest

/-- Text without what is ignored at its front. -/
def passOver (ignoreBlanks : Bool) (text : List Char) : List Char :=
  if ignoreBlanks then dropRemarks false text else text

end Underwriting
