import TypedRows.Command.Arguments

/-!
Pages of help: what the program and its actions are for, and what may follow their names.
-/

namespace TypedRows

/-- Names under a title, each with what it means. -/
structure HelpSection where
  title : String
  rows : List (String × String)

structure HelpPage where
  about : String
  usage : String
  sections : List HelpSection

namespace HelpSection

def width (s : HelpSection) : Nat :=
  (s.rows.map fun row => row.1.length).foldl max 0

def text (s : HelpSection) : String :=
  s.title ++ ":\n" ++ String.join (s.rows.map fun (name, meaning) =>
    "  " ++ name.pushn ' ' (s.width - name.length) ++ "  " ++ meaning ++ "\n")

end HelpSection

def HelpPage.text (page : HelpPage) : String :=
  page.about ++ "\n\nUsage: rowgen " ++ page.usage ++ "\n" ++
    String.join (page.sections.map fun s => "\n" ++ s.text)

namespace Action

def about : Action → String
  | generate _ => "Generate Rust code from the schema, queries and migrations"
  | check => "Analyse every SQL file and report the first error, writing nothing"
  | inspect _ => "Print the analysed model as JSON"
  | migrations => "List the migrations in version order"

/-- What the option `--out` means for an action that has it. -/
def outMeaning? : Action → Option String
  | generate _ =>
    some "Directory to write the generated module into. Defaults to the configured output directory"
  | inspect _ => some "Path to write the JSON. Prints to stdout if not set"
  | check | migrations => none

end Action

namespace HelpTopic

def configRow : String × String :=
  ("    --config <CONFIG>", "Project configuration file [default: rowgen.toml]")

def helpRow : String × String := ("-h, --help", "Print help")

def about : HelpTopic → String
  | program => "Generate typed row access code from annotated SQLite schema and query files"
  | action a => a.about
  | help => "Print this message or the help of the given subcommand(s)"

def page (topic : HelpTopic) : HelpPage where
  about := topic.about
  usage :=
    match topic with
    | program => "[OPTIONS] <COMMAND>"
    | action a => a.name ++ " [OPTIONS]"
    | help => "help [COMMAND]..."
  sections :=
    match topic with
    | program =>
      [⟨"Commands", Action.all.map (fun a => (a.name, a.about)) ++ [("help", help.about)]⟩,
        ⟨"Options", [configRow, helpRow, ("-V, --version", "Print version")]⟩]
    | action a =>
      let out := (a.outMeaning?.map fun meaning => ("    --out <OUT>", meaning)).toList
      [⟨"Options", configRow :: out ++ [helpRow]⟩]
    | help => [⟨"Arguments", [("[COMMAND]...", "Print help for the subcommand(s)")]⟩]

end HelpTopic

end TypedRows
