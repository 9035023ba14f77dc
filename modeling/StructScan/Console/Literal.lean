import StructScan.Console.Literal.Expression

/-!
# Literals

A literal is an expression that is written out: a number, a text, a constant, or
a tuple, set or dictionary of literals.  The items of a set and the keys of a
dictionary cannot be sets or dictionaries themselves.
-/

namespace StructScan.Console.Literal

/-- A number, perhaps with one sign; whether it is imaginary. -/
def Expression.signedNumber? : Expression → Option Bool
  | .number imaginary => some imaginary
  | .signed (.number imaginary) => some imaginary
  | _ => none

/-- Requires that a value can be an item of a set or a key. -/
def requireHashable : Option String → Except Fault Unit
  | none => .ok ()
  | some type => .error (.unhashable type)

mutual

/-- Requires a literal; gives the type of a value that can be no item of a set and no key. -/
def Expression.check : Expression → Except Fault (Option String)
  | .number _ => .ok none
  | .text false => .ok none
  | .constant _ => .ok none
  | .tuple items => checkItems items
  | .set items => do
    checkMembers items
    return some "set"
  | .dictionary entries => do
    checkEntries entries
    return some "dict"
  | .signed (.number _) => .ok none
  | .sum left (.number true) =>
    if left.signedNumber? = some false then .ok none else .error (.notLiteral false)
  | .call (.name "set") true => .ok (some "set")
  | _ => .error (.notLiteral false)

/-- Requires literals; gives the type of the first one that can be no item of a set. -/
def checkItems : List Expression → Except Fault (Option String)
  | [] => .ok none
  | e :: rest => do
    let first ← e.check
    let others ← checkItems rest
    return first <|> others

/-- Requires literals that can be items of a set. -/
def checkMembers : List Expression → Except Fault Unit
  | [] => .ok ()
  | e :: rest => do
    requireHashable (← e.check)
    checkMembers rest

/-- Requires literals that can be the entries of a dictionary. -/
def checkEntries : List (Option Expression × Expression) → Except Fault Unit
  | [] => .ok ()
  | (none, _) :: _ => .error (.notLiteral true)
  | (some key, value) :: rest => do
    let type ← key.check
    let _ ← value.check
    requireHashable type
    checkEntries rest

end

/-- Requires a text to be a literal. -/
def check (cs : List Char) : Except Fault Unit := do
  let e ← read cs
  let _ ← e.check
  return ()

end StructScan.Console.Literal
