import StructScan.Console.Literal
import StructScan.Text.Split

/-!
# Actions

A tag may name an action in place of a style.  Its parameters are a handler with
arguments in parentheses, or a literal alone.
-/

namespace StructScan.Console.Action

/-- A character of the name of a handler. -/
def isHandlerChar (c : Char) : Bool :=
  Text.isWordChar c || c = '.'

/-- The arguments in parameters: those of the handler, or all if there is none. -/
def arguments (parameters : List Char) : List Char :=
  let trimmed := Text.trim parameters
  match trimmed.dropWhile isHandlerChar with
  | [] => "()".toList
  | '(' :: rest =>
    if rest.getLast? = some ')' && !rest.contains '\n' then '(' :: rest else trimmed
  | _ => trimmed

/-- Parameters that cannot be read. -/
structure Error where
  parameters : List Char
  fault : Literal.Fault
  deriving DecidableEq, Repr

/-- The error in words. -/
def Error.message (e : Error) : String :=
  let whole := Text.quote (String.ofList e.parameters)
  if e.fault.isOfValue then s!"error parsing {whole}; {e.fault.message}"
  else
    let text := Text.quote (String.ofList (arguments e.parameters))
    s!"error parsing {text} in {whole}; {e.fault.message}"

/-- Requires the arguments in parameters to be a literal. -/
def check (parameters : List Char) : Except Error Unit :=
  match Literal.check (arguments parameters) with
  | .ok () => .ok ()
  | .error f => .error ⟨parameters, f⟩

end StructScan.Console.Action
