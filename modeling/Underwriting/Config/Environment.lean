import Underwriting.Register

/-!
# Environments

The named texts from which a program takes its settings.
-/

namespace Underwriting

/-- Variables with their values. -/
abbrev Environment := Register String String

namespace Environment

/-- The environment of a list of variables. -/
def ofList (bindings : List (String × String)) : Environment :=
  bindings.foldl (fun environment (name, value) => environment.put name value) .empty

/-- The value of a variable, or a default where it is not set. -/
def valueOr (environment : Environment) (name default : String) : String :=
  (environment.find? name).getD default

/-- The text behind a reference and an equals sign in an entry that begins with them. The entry of
a variable is its name and its value with an equals sign between them, so a reference may go on
into the value; a name alone gives the whole value. -/
def textBehind? (environment : Environment) (reference : List Char) : Option (List Char) :=
  let name := reference.takeWhile (· ≠ '=')
  let begun := reference.dropWhile (· ≠ '=')
  (environment.find? (String.ofList name)).bind fun value =>
    (begun ++ ['=']).isPrefixOf? ('=' :: value.toList)

/-- Sets a variable that is not set. -/
def supply (environment : Environment) (name value : String) : Environment :=
  match environment.find? name with
  | some _ => environment
  | none => environment.put name value

/-- Supplying a variable keeps the value it has. -/
theorem find?_supply (environment : Environment) (name value other : String) :
    (environment.supply name value).find? other =
      if other = name ∧ environment.find? name = none then some value
      else environment.find? other := by
  unfold supply
  split
  · next held found => simp [found]
  · next missing =>
    rw [Register.find?_put]
    simp [missing]

end Environment

end Underwriting
