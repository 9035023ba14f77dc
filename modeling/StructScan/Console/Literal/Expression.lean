import StructScan.Console.Literal.Token

/-!
# Expressions

Reads the words of a literal as an expression.  Reading goes over the words
twice if need be: the first time by the grammar alone, the second time with
checks that tell what may have been meant.
-/

namespace StructScan.Console.Literal

/-- An expression, as far as its value or its form matters. -/
inductive Expression where
  | number (imaginary : Bool)
  | text (formatted : Bool)
  /-- A constant with a name of its own. -/
  | constant (name : String)
  | name (s : String)
  | tuple (items : List Expression)
  | set (items : List Expression)
  /-- A dictionary; an entry without a key takes in another dictionary. -/
  | dictionary (entries : List (Option Expression × Expression))
  /-- A number with a sign in front. -/
  | signed (e : Expression)
  /-- A sum or a difference. -/
  | sum (left right : Expression)
  | call (f : Expression) (bare : Bool)
  | starred (e : Expression)
  /-- A comparison, which may ask whether its left side is contained in another value. -/
  | comparison (left : Expression) (membership : Bool)
  /-- Conditions that are joined or negated. -/
  | condition
  | other (form : String)
  deriving Repr

/-- What an expression is called. -/
def Expression.form : Expression → String
  | number _ => "literal"
  | text false => "literal"
  | text true => "f-string expression"
  | constant word => word
  | name _ => "name"
  | tuple _ => "tuple"
  | set _ => "set display"
  | dictionary _ => "dict literal"
  | signed _ => "expression"
  | sum _ _ => "expression"
  | call _ _ => "function call"
  | starred _ => "starred"
  | comparison _ _ => "comparison"
  | condition => "expression"
  | other form => form

mutual

/-- The part of an expression that no value can be assigned to. -/
def Expression.fixedPart? : Expression → Option Expression
  | .name _ => none
  | .tuple items => fixedItem? items
  | .starred e => e.fixedPart?
  | .comparison left true => left.fixedPart?
  | .other form => if form = "attribute" then none else some (.other form)
  | e => some e

/-- The first of some expressions that no value can be assigned to. -/
def fixedItem? : List Expression → Option Expression
  | [] => none
  | e :: rest =>
    match e.fixedPart? with
    | some part => some part
    | none => fixedItem? rest

end

/-- Whether an operator made an expression that is weaker than all arithmetic ones. -/
def Expression.isLoose : Expression → Bool
  | .comparison _ _ => true
  | .condition => true
  | .other form => form = "conditional expression" || form = "lambda"
  | _ => false

/-- Forms before an equals sign that are told apart from other mistakes. -/
def neverTargets : List String := ["tuple", "generator expression", "None", "True", "False"]

/-! ## Reading words -/

/-- Why a rule of the grammar does not apply. -/
inductive Failure where
  /-- Another rule may apply. -/
  | noMatch
  /-- The text is at fault. -/
  | stop (f : Fault)
  deriving DecidableEq, Repr

/-- The outcome of a rule; most rules give what they read and the words behind it. -/
abbrev Reading := Except Failure

/-- Tries a rule. -/
def attempt (r : Reading (α × List Token)) : Reading (Option (α × List Token)) :=
  match r with
  | .ok x => .ok (some x)
  | .error .noMatch => .ok none
  | .error (.stop f) => .error (.stop f)

/-- The word that comes next. -/
def next (ts : List Token) : Reading Kind :=
  match ts with
  | [] => .ok .finish
  | t :: _ =>
    match t.kind with
    | .stop f => .error (.stop f)
    | kind => .ok kind

/-- Whether a word is a given operator or keyword. -/
def Kind.reads (k : Kind) (s : String) : Bool :=
  k = .operator s || k = .name s

/-- Whether a word is one of some operators or keywords. -/
def Kind.readsAny (k : Kind) (ss : List String) : Bool :=
  ss.any k.reads

/-- Whether a given operator or keyword comes next, if it is asked for. -/
def comesNext (asked : Bool) (s : String) (ts : List Token) : Reading Bool :=
  if asked then (next ts).map (·.reads s) else .ok false

/-- Requires a given operator or keyword. -/
def expect (s : String) (ts : List Token) : Reading (List Token) := do
  if (← next ts).reads s then return ts.drop 1 else throw .noMatch

/-- The words that are no names. -/
def keywords : List String :=
  ["False", "None", "True", "and", "as", "assert", "async", "await", "break", "class",
   "continue", "def", "del", "elif", "else", "except", "finally", "for", "from", "global",
   "if", "import", "in", "is", "lambda", "nonlocal", "not", "or", "pass", "raise", "return",
   "try", "while", "with", "yield"]

/-- The name that a word is. -/
def Kind.name? : Kind → Option String
  | .name s => if keywords.contains s then none else some s
  | _ => none

/-- Stops at a fault. -/
def fault (f : Fault) : Reading α :=
  .error (.stop f)

/-- Adjoining quoted texts, and the words behind them. -/
def adjoining : List Token → List Kind × List Token
  | [] => ([], [])
  | t :: rest =>
    match t.kind with
    | .text _ _ _ => (t.kind :: (adjoining rest).1, (adjoining rest).2)
    | _ => ([], t :: rest)

/-- Joins quoted texts, which must all be of bytes or none of them, as the first one says. -/
def joinTexts (bytes formatted : Bool) : List Kind → Reading Expression
  | .text b f flaw :: rest =>
    match flaw with
    | some flaw => fault flaw
    | none => if b ≠ bytes then fault .mixedBytes else joinTexts bytes (formatted || f) rest
  | _ => .ok (.text formatted)

/-- Reads adjoining quoted texts as one text, whose first one may be of bytes. -/
def texts (bytes : Bool) (ts : List Token) : Reading (Expression × List Token) := do
  let (parts, rest) := adjoining ts
  let _ ← next rest
  return (← joinTexts bytes false parts, rest)

/-- The operators of arithmetic, the weakest first. -/
def precedence : List (List String) :=
  [["|"], ["^"], ["&"], ["<<", ">>"], ["+", "-"], ["*", "/", "//", "%", "@"]]

/-- The operators of comparison. -/
def comparisons : List String :=
  ["==", "!=", "<=", "<", ">=", ">"]

/-- Joins two operands. -/
def join (operator : Kind) (left right : Expression) : Expression :=
  if operator.readsAny ["+", "-"] then .sum left right else .other "expression"

/-- Names that are keywords in some places. -/
def softKeywords : List String := ["_", "case", "match"]

/-- Whether words may be meant otherwise than as expressions that a comma separates. -/
def isOdd (ts : List Token) : Bool :=
  match ts with
  | a :: b :: _ =>
    (match a.kind.name?, b.kind with
      | some _, .text _ _ _ => true
      | _, _ => false) || a.kind.readsAny softKeywords
  | [a] => a.kind.readsAny softKeywords
  | [] => false

/-- The number of open brackets behind the last word that was read. -/
def levelBetween (before after : List Token) : Nat :=
  ((before.take (before.length - after.length)).getLast?.map Token.level).getD 0

/-- Names of calls that are often written without parentheses. -/
def statementNames : List String := ["print", "exec"]

/-- Whether an expression is the name of a call that is often written without parentheses. -/
def Expression.isStatementName : Expression → Bool
  | .name s => statementNames.contains s
  | _ => false

/-- How the arguments of a call have to go on. -/
inductive ArgumentPhase where
  | positional
  | keyword
  | unpacked
  deriving DecidableEq, Repr

/-! ## The grammar -/

mutual

/-- An expression; `checks` is set for the second reading. -/
def expression : Nat → Bool → List Token → Reading (Expression × List Token)
  | 0, _, _ => .error .noMatch
  | n + 1, checks, ts => do
    match ← attempt (disjunction n checks ts) with
    | none => lambda n checks ts
    | some (a, rest) =>
      if checks then
        if !isOdd ts then
          match ← attempt (expression n false rest) with
          | some (_, after) =>
            if !a.isStatementName && levelBetween rest after ≠ 0 then fault .missingComma
          | none => pure ()
        if (← next rest).reads "if" then
          match ← attempt (disjunction n checks (rest.drop 1)) with
          | some (_, after) =>
            if !(← next after).readsAny ["else", ":"] then fault .missingElse
          | none => pure ()
        match (← next ts).name? with
        | some name =>
          if !(← next (ts.drop 1)).reads "(" then
            match ← attempt (starredItems n checks (ts.drop 1)) with
            | some _ => if statementNames.contains name then fault (.missingParentheses name)
            | none => pure ()
        | none => pure ()
      conditional n checks a rest

/-- What follows the first part of an expression with a condition. -/
def conditional : Nat → Bool → Expression → List Token → Reading (Expression × List Token)
  | 0, _, _, _ => .error .noMatch
  | n + 1, checks, a, rest => do
    if (← next rest).reads "if" then
      match ← attempt (branches n checks (rest.drop 1)) with
      | some r => return r
      | none => return (a, rest)
    else return (a, rest)

/-- The condition of an expression, and its value otherwise. -/
def branches : Nat → Bool → List Token → Reading (Expression × List Token)
  | 0, _, _ => .error .noMatch
  | n + 1, checks, ts => do
    let (_, rest) ← disjunction n checks ts
    let rest ← expect "else" rest
    let (_, rest) ← expression n checks rest
    return (.other "conditional expression", rest)

/-- A function without a name. -/
def lambda : Nat → Bool → List Token → Reading (Expression × List Token)
  | 0, _, _ => .error .noMatch
  | n + 1, checks, ts => do
    let rest ← expect "lambda" ts
    let rest ← if (← next rest).reads ":" then pure rest else lambdaParameters n checks rest
    let rest ← expect ":" rest
    let (_, rest) ← expression n checks rest
    return (.other "lambda", rest)

/-- The parameters of a function without a name. -/
def lambdaParameters : Nat → Bool → List Token → Reading (List Token)
  | 0, _, _ => .error .noMatch
  | n + 1, checks, ts => do
    let kind ← next ts
    let rest := if kind.readsAny ["*", "**", "/"] then ts.drop 1 else ts
    let rest ← match (← next rest).name? with
      | some _ =>
        if (← next (rest.drop 1)).reads "=" then
          let (_, rest) ← expression n checks (rest.drop 2)
          pure rest
        else pure (rest.drop 1)
      | none => if kind.readsAny ["*", "/"] then pure rest else throw .noMatch
    if (← next rest).reads "," then
      if (← next (rest.drop 1)).reads ":" then return rest.drop 1
      else lambdaParameters n checks (rest.drop 1)
    else return rest

/-- Alternatives. -/
def disjunction : Nat → Bool → List Token → Reading (Expression × List Token)
  | 0, _, _ => .error .noMatch
  | n + 1, checks, ts => do
    let (a, rest) ← conjunction n checks ts
    disjunctionTail n checks a rest

/-- Further alternatives. -/
def disjunctionTail : Nat → Bool → Expression → List Token → Reading (Expression × List Token)
  | 0, _, _, _ => .error .noMatch
  | n + 1, checks, a, rest => do
    if (← next rest).reads "or" then
      match ← attempt (conjunction n checks (rest.drop 1)) with
      | some (_, after) => disjunctionTail n checks (.condition) after
      | none => return (a, rest)
    else return (a, rest)

/-- Conditions that all have to hold. -/
def conjunction : Nat → Bool → List Token → Reading (Expression × List Token)
  | 0, _, _ => .error .noMatch
  | n + 1, checks, ts => do
    let (a, rest) ← inversion n checks ts
    conjunctionTail n checks a rest

/-- Further conditions. -/
def conjunctionTail : Nat → Bool → Expression → List Token → Reading (Expression × List Token)
  | 0, _, _, _ => .error .noMatch
  | n + 1, checks, a, rest => do
    if (← next rest).reads "and" then
      match ← attempt (inversion n checks (rest.drop 1)) with
      | some (_, after) => conjunctionTail n checks (.condition) after
      | none => return (a, rest)
    else return (a, rest)

/-- A condition that may be negated. -/
def inversion : Nat → Bool → List Token → Reading (Expression × List Token)
  | 0, _, _ => .error .noMatch
  | n + 1, checks, ts => do
    if (← next ts).reads "not" then
      let (_, rest) ← inversion n checks (ts.drop 1)
      return (.condition, rest)
    else
      let (a, rest) ← binary n checks precedence ts
      comparisonTail n checks a rest

/-- Further sides of a comparison. -/
def comparisonTail : Nat → Bool → Expression → List Token → Reading (Expression × List Token)
  | 0, _, _, _ => .error .noMatch
  | n + 1, checks, a, rest => do
    let kind ← next rest
    let operand ←
      if kind.readsAny comparisons || kind.reads "in" then pure (some (rest.drop 1))
      else if kind.reads "not" then
        pure (if (← next (rest.drop 1)).reads "in" then some (rest.drop 2) else none)
      else if kind.reads "is" then
        pure (some (if (← next (rest.drop 1)).reads "not" then rest.drop 2 else rest.drop 1))
      else pure none
    match operand with
    | none => return (a, rest)
    | some operand =>
      match ← attempt (binary n checks precedence operand) with
      | some (_, after) => comparisonTail n checks (.comparison a (kind.reads "in")) after
      | none => return (a, rest)

/-- Operands that operators of arithmetic join, the weakest of which are given. -/
def binary : Nat → Bool → List (List String) → List Token → Reading (Expression × List Token)
  | 0, _, _, _ => .error .noMatch
  | n + 1, checks, [], ts => factor n checks ts
  | n + 1, checks, operators :: stronger, ts => do
    let (a, rest) ← binary n checks stronger ts
    binaryTail n checks operators stronger a rest

/-- Further operands. -/
def binaryTail : Nat → Bool → List String → List (List String) → Expression → List Token →
    Reading (Expression × List Token)
  | 0, _, _, _, _, _ => .error .noMatch
  | n + 1, checks, operators, stronger, a, rest => do
    let kind ← next rest
    if kind.readsAny operators then
      match ← attempt (binary n checks stronger (rest.drop 1)) with
      | some (b, after) => binaryTail n checks operators stronger (join kind a b) after
      | none => return (a, rest)
    else return (a, rest)

/-- An operand that may have signs, or that is raised to a power. -/
def factor : Nat → Bool → List Token → Reading (Expression × List Token)
  | 0, _, _ => .error .noMatch
  | n + 1, checks, ts => do
    let kind ← next ts
    if kind.readsAny ["+", "-", "~"] then
      let (a, rest) ← factor n checks (ts.drop 1)
      return (if kind.reads "~" then .other "expression" else .signed a, rest)
    else
      let waits := kind.reads "await"
      let (a, rest) ← primary n checks (if waits then ts.drop 1 else ts)
      let a := if waits then .other "await expression" else a
      if (← next rest).reads "**" then
        match ← attempt (factor n checks (rest.drop 1)) with
        | some (_, after) => return (.other "expression", after)
        | none => return (a, rest)
      else return (a, rest)

/-- A value with what is taken from it. -/
def primary : Nat → Bool → List Token → Reading (Expression × List Token)
  | 0, _, _ => .error .noMatch
  | n + 1, checks, ts => do
    let (a, rest) ← atom n checks ts
    primaryTail n checks a rest

/-- Attributes and calls of a value. -/
def primaryTail : Nat → Bool → Expression → List Token → Reading (Expression × List Token)
  | 0, _, _, _ => .error .noMatch
  | n + 1, checks, a, rest => do
    let kind ← next rest
    if kind.reads "." then
      match (← next (rest.drop 1)).name? with
      | some _ => primaryTail n checks (.other "attribute") (rest.drop 2)
      | none => return (a, rest)
    else if kind.reads "(" then
      match ← attempt (arguments n checks .positional true (rest.drop 1)) with
      | some (bare, after) => primaryTail n checks (.call a bare) after
      | none => return (a, rest)
    else return (a, rest)

/-- The arguments of a call up to its closing parenthesis; whether there are none. -/
def arguments : Nat → Bool → ArgumentPhase → Bool → List Token → Reading (Bool × List Token)
  | 0, _, _, _, _ => .error .noMatch
  | n + 1, checks, phase, first, ts => do
    let kind ← next ts
    if kind.reads ")" then return (first, ts.drop 1)
    if kind.reads "*" then
      if phase = .unpacked then
        if checks then fault .starredAfterUnpacked else throw .noMatch
      match ← attempt (expression n checks (ts.drop 1)) with
      | some (_, rest) => argumentsTail n checks phase rest
      | none => fault .missingStarred
    else if kind.reads "**" then
      let (_, rest) ← expression n checks (ts.drop 1)
      argumentsTail n checks .unpacked rest
    else if ← comesNext kind.name?.isSome "=" (ts.drop 1) then
      let (_, rest) ← expression n checks (ts.drop 2)
      if checks then
        match ← attempt (clauses n checks rest) with
        | some _ => fault .singleEquals
        | none => pure ()
      argumentsTail n checks (if phase = .unpacked then .unpacked else .keyword) rest
    else
      if ← comesNext (checks && kind.readsAny ["True", "False", "None"]) "=" (ts.drop 1) then
        match kind with
        | .name s => fault (.assignment s)
        | _ => pure ()
      let (_, rest) ← argument n checks ts
      let after ← next rest
      if after.reads "=" then
        if checks then fault .argumentAssignment else throw .noMatch
      if after.readsAny ["for", "async"] then
        let (_, rest) ← clauses n checks rest
        if ← comesNext first ")" rest then return (false, rest.drop 1)
        else if checks then fault .bareGenerator
        else throw .noMatch
      if phase ≠ .positional then
        if checks then fault (.positionalAfterKeyword (phase = .unpacked)) else throw .noMatch
      argumentsTail n checks phase rest

/-- An argument without a keyword. -/
def argument : Nat → Bool → List Token → Reading (Expression × List Token)
  | 0, _, _ => .error .noMatch
  | n + 1, checks, ts => do
    if ← comesNext (← next ts).name?.isSome ":=" (ts.drop 1) then
      let (_, rest) ← expression n checks (ts.drop 2)
      return (.other "named expression", rest)
    else
      let (a, rest) ← expression n checks ts
      if (← next rest).reads ":=" then throw .noMatch
      return (a, rest)

/-- What follows an argument. -/
def argumentsTail : Nat → Bool → ArgumentPhase → List Token → Reading (Bool × List Token)
  | 0, _, _, _ => .error .noMatch
  | n + 1, checks, phase, rest => do
    let kind ← next rest
    if kind.reads ")" then return (false, rest.drop 1)
    else if kind.reads "," then arguments n checks phase false (rest.drop 1)
    else throw .noMatch

/-- A value. -/
def atom : Nat → Bool → List Token → Reading (Expression × List Token)
  | 0, _, _ => .error .noMatch
  | n + 1, checks, ts => do
    match ← next ts with
    | .number imaginary => return (.number imaginary, ts.drop 1)
    | .text bytes _ _ => texts bytes ts
    | .name s =>
      if ["None", "True", "False"].contains s then return (.constant s, ts.drop 1)
      else if keywords.contains s then throw .noMatch
      else return (.name s, ts.drop 1)
    | .operator "(" => group n checks (ts.drop 1)
    | .operator "\x7b" => braces n checks (ts.drop 1)
    | .operator "..." => return (.constant "ellipsis", ts.drop 1)
    | _ => throw .noMatch

/-- What stands in parentheses, up to the closing one. -/
def group : Nat → Bool → List Token → Reading (Expression × List Token)
  | 0, _, _ => .error .noMatch
  | n + 1, checks, ts => do
    let kind ← next ts
    if kind.reads ")" then return (.tuple [], ts.drop 1)
    if kind.reads "yield" then
      let rest := ts.drop 1
      let rest ←
        if (← next rest).reads "from" then
          let (_, rest) ← expression n checks (rest.drop 1)
          pure rest
        else
          match ← attempt (starredItems n checks rest) with
          | some (_, rest) => pure rest
          | none => pure rest
      return (.other "yield expression", ← expect ")" rest)
    match ← attempt (item n checks ts) with
    | none =>
      if checks && kind.readsAny ["*", "**"] then starredGroup n ts
      else throw .noMatch
    | some (a, rest) =>
      let after ← next rest
      if after.reads "," then
        let (more, rest) ← items n checks (rest.drop 1)
        return (.tuple (a :: more), ← expect ")" rest)
      else if kind.reads "*" then
        if checks then starredGroup n ts else throw .noMatch
      else if after.reads ")" then return (a, rest.drop 1)
      else if after.readsAny ["for", "async"] then
        let (_, rest) ← clauses n checks rest
        return (.other "generator expression", ← expect ")" rest)
      else throw .noMatch

/-- Tells what is wrong with stars in brackets. -/
def starredGroup : Nat → List Token → Reading (Expression × List Token)
  | 0, _ => .error .noMatch
  | n + 1, ts => do
    let double := (← next ts).reads "**"
    match ← attempt (expression n true (ts.drop 1)) with
    | none => if double then throw .noMatch else fault .missingStarred
    | some (_, rest) =>
      if (← next rest).reads ")" then fault (.starredInGroup double)
      if !double then
        let _ ← clauses n true rest
        fault (.starredInComprehension false)
      throw .noMatch

/-- An item of a tuple or a set. -/
def item : Nat → Bool → List Token → Reading (Expression × List Token)
  | 0, _, _ => .error .noMatch
  | n + 1, checks, ts => do
    if (← next ts).reads "*" then
      let (a, rest) ← binary n checks precedence (ts.drop 1)
      return (.starred a, rest)
    else named n checks ts

/-- Items separated by commas, perhaps with a comma behind them; there may be none. -/
def items : Nat → Bool → List Token → Reading (List Expression × List Token)
  | 0, _, _ => .error .noMatch
  | n + 1, checks, ts => do
    match ← attempt (item n checks ts) with
    | none => return ([], ts)
    | some (a, rest) =>
      if (← next rest).reads "," then
        let (more, rest) ← items n checks (rest.drop 1)
        return (a :: more, rest)
      else return ([a], rest)

/-- Expressions or starred operands separated by commas. -/
def starredItems : Nat → Bool → List Token → Reading (Unit × List Token)
  | 0, _, _ => .error .noMatch
  | n + 1, checks, ts => do
    let (_, rest) ←
      if (← next ts).reads "*" then binary n checks precedence (ts.drop 1)
      else expression n checks ts
    if (← next rest).reads "," then
      match ← attempt (starredItems n checks (rest.drop 1)) with
      | some r => return r
      | none => return ((), rest.drop 1)
    else return ((), rest)

/-- An expression that may be given a name. -/
def named : Nat → Bool → List Token → Reading (Expression × List Token)
  | 0, _, _ => .error .noMatch
  | n + 1, checks, ts => do
    let isName := (← next ts).name?.isSome
    if ← comesNext isName ":=" (ts.drop 1) then
      let (_, rest) ← expression n checks (ts.drop 2)
      return (.other "named expression", rest)
    let found ← attempt (expression n checks ts)
    if checks then
      match found with
      | some (a, rest) =>
        if (← next rest).reads ":=" then
          match ← attempt (expression n checks (rest.drop 1)) with
          | some _ => fault (.namedAssignment a.form)
          | none => pure ()
        if ← comesNext (!a.isLoose) "=" rest then
          match ← attempt (binary n checks precedence (rest.drop 1)) with
          | some (_, after) =>
            if !(← next after).readsAny ["=", ":="] then
              if isName && rest.length + 1 = ts.length then fault .singleEquals
              else if !neverTargets.contains a.form then fault (.assignmentHere a.form)
          | none => pure ()
      | none => pure ()
    match found with
    | none => throw .noMatch
    | some (a, rest) => if (← next rest).reads ":=" then throw .noMatch else return (a, rest)

/-- The clauses of a comprehension. -/
def clauses : Nat → Bool → List Token → Reading (Unit × List Token)
  | 0, _, _ => .error .noMatch
  | n + 1, checks, ts => do
    let ts := if (← next ts).reads "async" then ts.drop 1 else ts
    let rest ← expect "for" ts
    let operand ← match ← attempt (targets n checks rest) with
      | some (_, after) => pure after
      | none =>
        if checks then
          match ← attempt (expression n checks rest) with
          | some (a, _) =>
            match a.fixedPart? with
            | some part => fault (.assignment part.form)
            | none => pure ()
          | none => pure ()
        throw .noMatch
    let (_, rest) ← disjunction n checks operand
    let rest ← conditions n checks rest
    if (← next rest).readsAny ["for", "async"] then clauses n checks rest
    else return ((), rest)

/-- The targets of a clause and the word behind them. -/
def targets : Nat → Bool → List Token → Reading (Unit × List Token)
  | 0, _, _ => .error .noMatch
  | n + 1, checks, ts => do
    let ts := if (← next ts).reads "*" then ts.drop 1 else ts
    let (a, rest) ← primary n checks ts
    if a.fixedPart?.isSome then throw .noMatch
    if (← next rest).reads "," then
      if (← next (rest.drop 1)).reads "in" then return ((), rest.drop 2)
      else targets n checks (rest.drop 1)
    else return ((), ← expect "in" rest)

/-- The conditions of a clause. -/
def conditions : Nat → Bool → List Token → Reading (List Token)
  | 0, _, _ => .error .noMatch
  | n + 1, checks, ts => do
    if (← next ts).reads "if" then
      let (_, rest) ← disjunction n checks (ts.drop 1)
      conditions n checks rest
    else return ts

/-- What stands in braces, up to the closing one. -/
def braces : Nat → Bool → List Token → Reading (Expression × List Token)
  | 0, _, _ => .error .noMatch
  | n + 1, checks, ts => do
    let kind ← next ts
    if kind.reads "\x7d" then return (.dictionary [], ts.drop 1)
    if kind.reads "**" then
      let (a, rest) ← binary n checks precedence (ts.drop 1)
      if (← next rest).readsAny ["for", "async"] then
        let (_, rest) ← clauses n checks rest
        if ← comesNext checks "\x7d" rest then fault (.starredInComprehension true)
        throw .noMatch
      let (more, rest) ← entriesTail n checks rest
      return (.dictionary ((none, a) :: more), rest)
    match ← attempt (item n checks ts) with
    | none => if checks && kind.reads "*" then starredGroup n ts else throw .noMatch
    | some (first, rest) =>
      let after ← next rest
      if after.reads ":" then
        let (value, rest) ← entryValue n checks (rest.drop 1)
        if (← next rest).readsAny ["for", "async"] then
          let (_, rest) ← clauses n checks rest
          return (.other "dict comprehension", ← expect "\x7d" rest)
        let (more, rest) ← entriesTail n checks rest
        return (.dictionary ((some first, value) :: more), rest)
      else if after.reads "," then
        let (more, rest) ← items n checks (rest.drop 1)
        if checks && (← next rest).readsAny ["for", "async"] then
          match ← attempt (clauses n checks rest) with
          | some _ => fault .bareTarget
          | none => pure ()
        return (.set (first :: more), ← expect "\x7d" rest)
      else if after.readsAny ["for", "async"] then
        if kind.reads "*" then
          if checks then starredGroup n ts else throw .noMatch
        else
          let (_, rest) ← clauses n checks rest
          return (.other "set comprehension", ← expect "\x7d" rest)
      else return (.set [first], ← expect "\x7d" rest)

/-- The value of an entry, behind its colon. -/
def entryValue : Nat → Bool → List Token → Reading (Expression × List Token)
  | 0, _, _ => .error .noMatch
  | n + 1, checks, ts => do
    match ← attempt (expression n checks ts) with
    | some r => return r
    | none =>
      let kind ← next ts
      if kind.reads "*" then
        match ← attempt (binary n checks precedence (ts.drop 1)) with
        | some _ => fault .starredValue
        | none => pure ()
      if kind.readsAny ["\x7d", ","] then fault .missingValue
      throw .noMatch

/-- The entries behind the first one, up to the closing brace. -/
def entriesTail : Nat → Bool → List Token →
    Reading (List (Option Expression × Expression) × List Token)
  | 0, _, _ => .error .noMatch
  | n + 1, checks, ts => do
    let kind ← next ts
    if kind.reads "\x7d" then return ([], ts.drop 1)
    if !kind.reads "," then throw .noMatch
    let ts := ts.drop 1
    let kind ← next ts
    if kind.reads "\x7d" then return ([], ts.drop 1)
    if kind.reads "**" then
      let (a, rest) ← binary n checks precedence (ts.drop 1)
      let (more, rest) ← entriesTail n checks rest
      return ((none, a) :: more, rest)
    else
      let (key, rest) ← expression n checks ts
      if (← next rest).reads ":" then
        let (value, rest) ← entryValue n checks (rest.drop 1)
        let (more, rest) ← entriesTail n checks rest
        return ((some key, value) :: more, rest)
      else fault .missingColon

end

/-! ## Whole texts -/

/-- Expressions separated by commas: one expression, or a tuple. -/
def expressions (n : Nat) (checks : Bool) :
    Nat → List Token → Reading ((List Expression × Bool) × List Token)
  | 0, _ => .error .noMatch
  | fuel + 1, ts => do
    let (a, rest) ← expression n checks ts
    if (← next rest).reads "," then
      match ← attempt (expressions n checks fuel (rest.drop 1)) with
      | some ((more, _), rest) => return ((a :: more, true), rest)
      | none => return (([a], true), rest.drop 1)
    else return (([a], false), rest)

/-- Requires the end of the text. -/
def endOfText : List Token → Reading Unit
  | [] => .ok ()
  | t :: rest =>
    match t.kind with
    | .newline => endOfText rest
    | .finish => .ok ()
    | .stop f => fault f
    | .indent => fault .unexpectedIndent
    | _ => .error .noMatch

/-- Reads the words of a whole text. -/
def readAll (checks : Bool) (ts : List Token) : Reading Expression := do
  let ((all, isTuple), rest) ← expressions (40 * ts.length + 40) checks (ts.length + 1) ts
  endOfText rest
  match all, isTuple with
  | [a], false => return a
  | _, _ => return .tuple all

/-- The expression that a text is. -/
def read (cs : List Char) : Except Fault Expression := do
  let ts ← tokens cs
  match readAll false ts with
  | .ok e => return e
  | .error (.stop f) => throw f
  | .error .noMatch =>
    match readAll true ts with
    | .error (.stop f) => throw f
    | _ =>
      match ts with
      | ⟨.indent, _⟩ :: _ => throw .unexpectedIndent
      | _ => throw .ungrammatical

end StructScan.Console.Literal
