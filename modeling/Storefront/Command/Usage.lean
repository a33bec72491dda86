/-!
# What the commands accept

Each command has one argument and some options, and the help texts are made from their descriptions.
-/

namespace Storefront

structure OptionUsage where
  long : String
  short : Option Char := none
  placeholder : String
  description : String
  /-- Whether the value is a path, which cannot be empty. -/
  isPath : Bool
  isRequired : Bool := false

structure CommandUsage where
  name : String
  description : String
  placeholder : String
  argumentDescription : String
  /-- Whether the argument is a path, which cannot be empty. -/
  isPath : Bool
  options : List OptionUsage

namespace CommandUsage

def ofLong? (u : CommandUsage) (name : List Char) : Option OptionUsage :=
  u.options.find? fun o => o.long.toList == name

def ofShort? (u : CommandUsage) (c : Char) : Option OptionUsage :=
  u.options.find? fun o => o.short == some c

end CommandUsage

namespace Usage

def engine (description : String) : OptionUsage where
  long := "engine"
  placeholder := "ENGINE"
  description := description
  isPath := false

def context : OptionUsage where
  long := "context"
  short := some 'c'
  placeholder := "CONTEXT"
  description := "JSON file with the render context"
  isPath := true

def configuration : OptionUsage where
  long := "config"
  placeholder := "CONFIG"
  description := "YAML or JSON renderer configuration"
  isPath := true

def templates : OptionUsage where
  long := "templates"
  short := some 't'
  placeholder := "TEMPLATES"
  description := "Template directory or precompiled JSON bundle"
  isPath := true
  isRequired := true

def output : OptionUsage where
  long := "output"
  short := some 'o'
  placeholder := "OUTPUT"
  description := "Write the bundle to FILE instead of stdout"
  isPath := true

/-- The options of the commands that render. -/
def rendering : List OptionUsage :=
  [context, configuration, engine "Engine version (v3 or v4), overriding the configuration"]

def precompile : CommandUsage where
  name := "precompile"
  description := "Precompile every .html template under a directory into a JSON bundle"
  placeholder := "DIR"
  argumentDescription := "Template directory"
  isPath := true
  options := [output, engine "Engine version (v3 or v4)"]

def render : CommandUsage where
  name := "render"
  description := "Render a registered template"
  placeholder := "PATH"
  argumentDescription := "Registry path of the template to render (e.g. pages/home)"
  isPath := false
  options := templates :: rendering

def renderString : CommandUsage where
  name := "render-string"
  description := "Render template source given on the command line"
  placeholder := "SOURCE"
  argumentDescription := "Template source"
  isPath := false
  options := rendering

def commands : List CommandUsage := [precompile, render, renderString]

/-! ### Help texts -/

/-- The name of the program and its version. -/
def program : String := "vellum"
def version : String := "0.1.0"

/-- Lines of two columns, the first as wide as its widest entry. -/
def rows (entries : List (String × String)) : String :=
  let width := (entries.map fun e => e.1.length).foldl max 0
  String.join (entries.map fun e =>
    let padding := String.ofList (List.replicate (width - e.1.length) ' ')
    "  " ++ e.1 ++ padding ++ "  " ++ e.2 ++ "\n")

/-- A value in the description of a command. -/
def inAngles (placeholder : String) : String :=
  "<" ++ placeholder ++ ">"

def helpDescription : String :=
  "Print this message or the help of the given subcommand(s)"

def helpRow : String × String := ("-h, --help", "Print help")

def help : String :=
  "Precompile and render storefront theme templates\n\nUsage: " ++ program ++
    " <COMMAND>\n\nCommands:\n" ++
    rows (commands.map (fun u => (u.name, u.description)) ++ [("help", helpDescription)]) ++
    "\nOptions:\n" ++ rows [helpRow, ("-V, --version", "Print version")]

def helpOnHelp : String :=
  helpDescription ++ "\n\nUsage: " ++ program ++ " help [COMMAND]...\n\nArguments:\n" ++
    rows [("[COMMAND]...", "Print help for the subcommand(s)")]

def optionRow (o : OptionUsage) : String × String :=
  let letter := match o.short with
    | some c => String.ofList ['-', c, ',', ' ']
    | none => "    "
  (letter ++ "--" ++ o.long ++ " " ++ inAngles o.placeholder, o.description)

def helpOn (u : CommandUsage) : String :=
  let required := (u.options.filter (·.isRequired)).map fun o =>
    " --" ++ o.long ++ " " ++ inAngles o.placeholder
  u.description ++ "\n\nUsage: " ++ program ++ " " ++ u.name ++ " [OPTIONS]" ++
    String.join required ++ " " ++ inAngles u.placeholder ++ "\n\nArguments:\n" ++
    rows [(inAngles u.placeholder, u.argumentDescription)] ++ "\nOptions:\n" ++
    rows (u.options.map optionRow ++ [helpRow])

end Usage

end Storefront
