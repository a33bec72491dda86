import Storefront.Command.Basic
import Storefront.Command.Usage

/-!
# Command lines

A command line names a command, its argument and its options in any order. The value of an option
follows it, or stands behind an equals sign, or directly behind the letter of the option; behind two
dashes alone there are no options any more. What is asked for before the first mistake is answered:
help and the version.
-/

namespace Storefront.CommandLine

/-- Why the words of a command line make up no command. -/
inductive Stop where
  | mistake
  /-- A text is asked for and no command. -/
  | print (text : String)
deriving DecidableEq

/-- What has been read of a command. -/
structure Draft where
  argument : Option String := none
  /-- The values of options by their long names. -/
  values : Table String := []

namespace Draft

/-- Adds the argument, of which there is one. -/
def addArgument (d : Draft) (u : CommandUsage) (word : String) : Except Stop Draft :=
  if d.argument.isSome || (u.isPath && word.isEmpty) then .error .mistake
  else .ok { d with argument := some word }

/-- Adds the value of an option, which is given once. -/
def addValue (d : Draft) (o : OptionUsage) (value : String) : Except Stop Draft :=
  if Table.contains d.values o.long || (o.isPath && value.isEmpty) then .error .mistake
  else .ok { d with values := Table.insert d.values o.long value }

/-- Whether the argument and all required options are there. -/
def isComplete (d : Draft) (u : CommandUsage) : Bool :=
  d.argument.isSome && u.options.all fun o => !o.isRequired || Table.contains d.values o.long

end Draft

/-- Whether a word starts like an option; a dash alone does not. -/
def isOption (word : String) : Bool :=
  match word.toList with
  | '-' :: _ :: _ => true
  | _ => false

inductive Word where
  /-- The mark behind which there are no options. -/
  | mark
  | help
  /-- An option, with the value that is attached to it. -/
  | option (o : OptionUsage) (value : Option String)
  | unknown
  | argument

/-- Reads a word on the command line of a command. -/
def Word.read (u : CommandUsage) (word : String) : Word :=
  match word.toList with
  | ['-', '-'] => mark
  | '-' :: '-' :: rest =>
    let name := rest.takeWhile (· != '=')
    let value := match rest.dropWhile (· != '=') with
      | _ :: value => some (String.ofList value)
      | [] => none
    match u.ofLong? name with
    | some o => option o value
    | none => if name = "help".toList ∧ value.isNone then help else unknown
  | '-' :: c :: rest =>
    match u.ofShort? c with
    | some o =>
      option o (match rest with
        | [] => none
        | '=' :: value => some (String.ofList value)
        | value => some (String.ofList value))
    | none => if c = 'h' then help else unknown
  | _ => argument

def readWords (u : CommandUsage) : Draft → List String → Except Stop Draft
  | d, [] => if d.isComplete u then .ok d else .error .mistake
  | d, word :: rest =>
    match Word.read u word with
    | .mark => do
      let d ← rest.foldlM (fun d word => d.addArgument u word) d
      if d.isComplete u then .ok d else .error .mistake
    | .help => .error (.print (Usage.helpOn u))
    | .option o (some value) => do readWords u (← d.addValue o value) rest
    | .option o none =>
      match rest with
      | value :: rest =>
        if isOption value then .error .mistake else do readWords u (← d.addValue o value) rest
      | [] => .error .mistake
    | .unknown => .error .mistake
    | .argument => do readWords u (← d.addArgument u word) rest

def Draft.renderOptions (d : Draft) : RenderOptions where
  context := Table.get? d.values Usage.context.long
  configuration := Table.get? d.values Usage.configuration.long
  engine := Table.get? d.values "engine"

/-- The text that `help` prints behind it, given the names that follow. -/
def helpText? : List String → Option String
  | [] => some Usage.help
  | [name] =>
    if name = "help" then some Usage.helpOnHelp
    else (Usage.commands.find? (·.name == name)).map Usage.helpOn
  | _ => none

/-- Reads what stands in place of a command. -/
def readOption (word : String) : Stop :=
  match word.toList with
  | '-' :: '-' :: name =>
    if name = "help".toList then .print Usage.help
    else if name = "version".toList then .print (Usage.program ++ " " ++ Usage.version ++ "\n")
    else .mistake
  | '-' :: 'h' :: _ => .print Usage.help
  | '-' :: 'V' :: _ => .print (Usage.program ++ " " ++ Usage.version ++ "\n")
  | _ => .mistake

def read : List String → Except Stop Command
  | [] => .error .mistake
  | name :: rest =>
    if name = Usage.precompile.name then do
      let d ← readWords Usage.precompile {} rest
      return .precompile (d.argument.getD "") (Table.get? d.values Usage.output.long)
        (Table.get? d.values "engine")
    else if name = Usage.render.name then do
      let d ← readWords Usage.render {} rest
      return .render (d.argument.getD "") ((Table.get? d.values Usage.templates.long).getD "")
        d.renderOptions
    else if name = Usage.renderString.name then do
      let d ← readWords Usage.renderString {} rest
      return .renderString (d.argument.getD "") d.renderOptions
    else if name = "help" then
      match helpText? rest with
      | some text => .error (.print text)
      | none => .error .mistake
    else .error (readOption name)

/-- What running the program shows: its exit status and the texts that it prints. -/
structure Response where
  status : Nat
  output : String := ""
  diagnostics : String := ""
deriving DecidableEq

namespace Response

/-- A command has printed a text or nothing. -/
def done : Option String → Response
  | some text => { status := 0, output := text ++ "\n" }
  | none => { status := 0 }

/-- A command has failed. -/
def failed (e : CommandError) : Response where
  status := 1
  diagnostics := match e.chain with
    | [] => "Error\n"
    | [message] => "Error: " ++ message ++ "\n"
    | message :: causes =>
      "Error: " ++ message ++ "\n\nCaused by:\n" ++
        String.join (causes.map fun cause => "    " ++ cause ++ "\n")

/-- A command has used up the stack: the program is aborted. -/
def aborted : Response where
  status := 134

/-- The words make up no command. -/
def stopped : Stop → Response
  | .print text => { status := 0, output := text }
  | .mistake => { status := 2, diagnostics := Usage.help }

end Response

/-- Runs a command line: what it shows, and the files after it. -/
def run (fs : FileSystem) (words : List String) : Response × FileSystem :=
  match read words with
  | .ok c =>
    match c.run fs with
    | (.ok printed, fs) => (.done printed, fs)
    | (.error (.failed e), fs) => (.failed e, fs)
    | (.error .overflow, fs) => (.aborted, fs)
  | .error stop => (.stopped stop, fs)

end Storefront.CommandLine
