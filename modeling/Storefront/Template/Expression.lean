import Storefront.Template.Basic
import Storefront.Template.Scan
import Storefront.Json.Reader

/-!
# The inside of tags

Names, paths, literals, parameters and calls. White space may stand between any two of them but
not inside a name or a path. `parameter depth` allows calls to nest `depth` deep in parentheses.
-/

namespace Storefront.Template

open Grammar

/-- The characters of names. -/
def isSymbol (c : Char) : Bool :=
  c.isAlphanum || c == '-' || c == '_' || c == '$' || c == ':' || 0x80 ≤ c.toNat

/-- The characters of the names of parts. -/
def isPartSymbol (c : Char) : Bool :=
  c.isAlphanum || c == '-' || c == '_' || c == '@' || c == '/' || c == '.' || 0x80 ≤ c.toNat

/-- Succeeds without taking anything where no symbol stands. -/
def symbolEnds : Grammar Unit := do
  match (← get).rest with
  | c :: _ => if isSymbol c then failure else pure ()
  | [] => pure ()

def identifier : Grammar String :=
  String.ofList <$> Grammar.run isSymbol

/-! ### Literals -/

/-- The inside of a string literal up to its closing quote, with the quote. -/
def quotedRest (quote : Char) : (skip : Nat) → List Char → Option (List Char)
  | _, [] => none
  | skip + 1, _ :: rest => quotedRest quote skip rest
  | 0, c :: rest =>
    if c = quote then some rest
    else if c = '\\' then
      match rest with
      | 'u' :: a :: b :: c :: d :: _ =>
        if [a, b, c, d].all fun c => (Json.hexValue? c).isSome then quotedRest quote 5 rest
        else none
      | e :: _ =>
        if e = quote ∨ e ∈ ['\\', '/', 'b', 'f', 'n', 'r', 't'] then quotedRest quote 1 rest
        else none
      | [] => none
    else quotedRest quote 0 rest

def stringText : Grammar Unit := do
  match (← get).rest with
  | c :: rest =>
    if c = '"' ∨ c = '\'' then
      match quotedRest c 0 rest with
      | some rest => modify fun s => { s with rest }
      | none => failure
    else failure
  | [] => failure

def numberText : Grammar Unit := do
  let _ ← given (exactly ['-'])
  let _ ← Grammar.run Char.isDigit
  let _ ← given (exactly ['.'])
  let _ ← given (Grammar.run Char.isDigit)
  let _ ← given (do
    exactly ['E']
    let _ ← given (exactly ['-'])
    Grammar.run Char.isDigit)
  symbolEnds

def wordText (word : List Char) : Grammar Unit := do
  exactly word
  symbolEnds

/-- Takes a literal whose arrays and objects nest at most `depth` deep. -/
def literalText : (depth : Nat) → Grammar Unit
  | 0 => failure
  | depth + 1 =>
    stringText
    <|> (do
      exactly ['[']
      let _ ← given (do blanks; literalText depth)
      let fuel ← left
      let _ ← many (do next [',']; blanks; literalText depth) fuel
      next [']'])
    <|> (do
      exactly ['{']
      let field : Grammar Unit := do
        blanks
        stringText
        next [':']
        blanks
        literalText depth
      let _ ← given field
      let fuel ← left
      let _ ← many (do next [',']; field) fuel
      next ['}'])
    <|> numberText
    <|> wordText ['n', 'u', 'l', 'l']
    <|> wordText ['t', 'r', 'u', 'e']
    <|> wordText ['f', 'a', 'l', 's', 'e']

/-- Rewrites the inside of a single-quoted string for double quotes. -/
def requote : List Char → List Char
  | '\\' :: '\'' :: rest => '\'' :: requote rest
  | '\\' :: c :: rest => '\\' :: c :: requote rest
  | '"' :: rest => '\\' :: '"' :: requote rest
  | c :: rest => c :: requote rest
  | [] => []

/-- The value of a literal, if its text is valid JSON. -/
def literalValue? (text : List Char) : Option Json.Value :=
  let json := match text with
    | '\'' :: rest => '"' :: (requote rest.dropLast ++ ['"'])
    | text => text
  (Json.whole (Json.value Json.nestingLimit) json).toOption

/-- Takes a literal; one that is no valid JSON is a fault. -/
def literal : Grammar Expr := do
  let depth ← left
  let (text, _) ← taken (literalText depth)
  match literalValue? text with
  | some v => return .literal v
  | none =>
    modify fun s => { s with fault := s.fault <|> some (String.ofList text) }
    return .literal .null

/-! ### Paths -/

/-- One step of a path: a name, or any text in brackets. -/
def pathItem : Grammar String :=
  identifier <|> do
    exactly ['[']
    let key := (← get).rest.takeWhile (· != ']')
    modify fun s => { s with rest := s.rest.dropWhile (· != ']') }
    exactly [']']
    return String.ofList key

def pathSeparator : Grammar Unit :=
  exactly ['/'] <|> exactly ['.']

/-- A path; the name `this` is no key. -/
def path : Grammar Path := do
  let (text, fromRoot, isMarked, levels, steps) ← taken do
    let _ ← given ((do exactly ['t', 'h', 'i', 's']; pathSeparator) <|> exactly ['.', '/'])
    let fromRoot ← given (do exactly ['@', 'r', 'o', 'o', 't']; pathSeparator)
    let isMarked ← given (exactly ['@'])
    let fuel ← left
    let ups ← many (do exactly ['.', '.']; pathSeparator) fuel
    let first ← pathItem
    let others ← many (do pathSeparator; pathItem) fuel
    return (fromRoot, isMarked, ups.length, first :: others)
  let keys := steps.filter (· != "this")
  return { text := String.ofList text, fromRoot, isMarked, levels, keys }

/-! ### Parameters and calls -/

/-- The words that end the parameters of a tag. -/
def keyword : Grammar Unit := do
  exactly ['a', 's'] <|> exactly ['e', 'l', 's', 'e']
  blanks
  symbolEnds

/-- A positional or named argument, whose value is a parameter. -/
def argument (parameter : Grammar Expr) : Grammar Argument :=
  (do
    let name ← identifier
    next ['=']
    blanks
    return .named name (← parameter))
  <|> Argument.positional <$> parameter

/-- A name with at least one argument. -/
def application (parameter : Grammar Expr) : Grammar Expr := do
  let name ← identifier
  blanks
  let first ← argument parameter
  let fuel ← left
  let others ← many (do blanks; argument parameter) fuel
  return Expr.ofArguments (.name name) (first :: others)

/-- A call in parentheses, given how its parameters are read. -/
def subexpressionOf (parameter : Grammar Expr) : Grammar Expr := do
  exactly ['(']
  blanks
  let e ← application parameter <|> (do return Expr.ofArguments (.path (← path)) [])
  next [')']
  return e

/-- A parameter in which calls nest at most `depth` deep. -/
def parameterWithin : (depth : Nat) → Grammar Expr
  | 0 => failure
  | depth + 1 => do
    notAhead keyword
    literal <|> Expr.path <$> path <|> subexpressionOf (parameterWithin depth)

/-- A parameter: a literal, a path or a call in parentheses. -/
def parameter : Grammar Expr := do
  parameterWithin ((← left) + 1)

def subexpression : Grammar Expr :=
  subexpressionOf parameter

/-- What a tag names when it has no arguments: a call in parentheses or a path. -/
def bareName : Grammar Expr :=
  (do return Expr.ofArguments (← subexpression) [])
  <|> (do return Expr.ofArguments (.path (← path)) [])

/-- The inside of a tag that writes a value. -/
def valueCall : Grammar Expr :=
  application parameter <|> bareName

/-- The arguments that follow, as many as there are. -/
def arguments : Grammar (List Argument) := do
  let fuel ← left
  many (do blanks; argument parameter) fuel

/-- The names in bars that a block gives to its values. -/
def blockNames : Grammar BlockNames := do
  let names ← optional? do
    next ['a', 's']
    next ['|']
    blanks
    let first ← identifier
    let second ← optional? (do blanks; identifier)
    next ['|']
    return match second with
      | some second => BlockNames.two first second
      | none => .one first
  return names.getD .none

/-- The inside of a block's opening tag. -/
def blockCall : Grammar (Expr × BlockNames) := do
  let name ← identifier
  let args ← arguments
  let names ← blockNames
  return (Expr.ofArguments (.name name) args, names)

def partName : Grammar String :=
  String.ofList <$> (Grammar.run isPartSymbol <|> quotedPartName)
where
  /-- A name between single quotes, which are kept. -/
  quotedPartName : Grammar (List Char) := do
    let (text, _) ← taken do
      exactly ['\'']
      let body := (← get).rest
      match quotedEnd body with
      | some n =>
        if n = 0 then failure
        modify fun s => { s with rest := body.drop n }
        exactly ['\'']
      | none => failure
    return text
  /-- The number of characters before the closing single quote; a quote after a backslash does not
  close. -/
  quotedEnd : List Char → Option Nat
    | [] => none
    | '\\' :: '\'' :: rest => (quotedEnd rest).map (· + 2)
    | c :: rest => if c = '\'' then some 0 else (quotedEnd rest).map (· + 1)

/-- The inside of a tag that calls a part. -/
def partCall : Grammar Expr := do
  let callee ← (Expr.name <$> partName) <|> subexpression <|> (Expr.path <$> path)
  let args ← arguments
  return Expr.ofArguments callee args

end Storefront.Template
