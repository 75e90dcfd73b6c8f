import TypedRows.Config.Settings

/-!
The arguments of the command line.
-/

namespace TypedRows

inductive Action where
  | generate (out : Option String)
  | check
  | inspect (out : Option String)
  | migrations
  deriving DecidableEq

inductive HelpTopic where
  | program
  | action (action : Action)
  /-- The help itself. -/
  | help
  deriving DecidableEq

inductive Request where
  | run (config : String) (action : Action)
  | version
  | help (topic : HelpTopic)
  /-- The arguments make no sense. -/
  | usage
  deriving DecidableEq

namespace Action

def name : Action → String
  | generate _ => "generate"
  | check => "check"
  | inspect _ => "inspect"
  | migrations => "migrations"

/-- The actions without their options. -/
def all : List Action := [generate none, check, inspect none, migrations]

def ofString? (name : String) : Option Action :=
  all.find? fun action => action.name == name

/-- Sets the option `--out`, which may be given once. -/
def withOut? (path : String) : Action → Option Action
  | generate none => some (generate (some path))
  | inspect none => some (inspect (some path))
  | generate (some _) | inspect (some _) | check | migrations => none

end Action

namespace Request

/-- An argument that is taken for the value of an option: a dash makes it an option, unless it is
nothing but a dash. -/
def isValue (argument : String) : Bool :=
  argument == "-" || argument.toList.head? != some '-'

/-- The value of an option and the arguments after it. It may be joined to the option by an equals
sign. -/
def option? (name : String) : List String → Option (Option String × List String)
  | [] => none
  | argument :: rest =>
    match Text.dropPrefix? argument (name ++ "=") with
    | some value => some (some value, rest)
    | none =>
      if argument = name then
        match rest with
        | value :: rest => if isValue value then some (some value, rest) else some (none, rest)
        | [] => some (none, [])
      else none

def isHelp (argument : String) : Bool :=
  argument == "--help" || Text.hasPrefix argument "-h"

def isVersion (argument : String) : Bool :=
  argument == "--version" || Text.hasPrefix argument "-V"

/-- The arguments after the name of an action. `own` is the configuration file given among them,
and `outer` the one given before. `fuel` bounds the number of arguments. -/
def ofActionArguments (outer : Option String) : Nat → Option String → Action → List String →
    Request
  | 0, _, _, _ => .usage
  | fuel + 1, own, action, arguments =>
    match arguments with
    | [] | ["--"] => .run ((own.or outer).getD Settings.fileName) action
    | argument :: _ =>
      if isHelp argument then .help (.action action)
      else
        match option? "--config" arguments, option? "--out" arguments with
        | some (some path, rest), _ =>
          if own.isSome || path.isEmpty then .usage
          else ofActionArguments outer fuel (some path) action rest
        | none, some (some path, rest) =>
          match action.withOut? path with
          | some action => ofActionArguments outer fuel own action rest
          | none => .usage
        | _, _ => .usage

/-- What the arguments after `help` ask for. -/
def ofHelpArguments : List String → Request
  | [] => .help .program
  | ["help"] => .help .help
  | [name] =>
    match Action.ofString? name with
    | some action => .help (.action action)
    | none => .usage
  | _ => .usage

/-- Help is given even if something before it makes no sense. -/
def onlyHelp : Request → Request
  | help topic => help topic
  | _ => usage

/-- What the arguments from the name of an action on ask for, if they start with one. -/
def ofNamed? (config : Option String) : List String → Option Request
  | [] => none
  | name :: rest =>
    if name == "help" then some (ofHelpArguments rest)
    else (Action.ofString? name).map fun action =>
      ofActionArguments config (rest.length + 1) none action rest

/-- The arguments before the name of an action. A path that is empty or the second one makes no
sense; where the name of an action follows it at once, this is seen only after the arguments of
the action. -/
def ofRootArguments : Nat → Option String → List String → Request
  | 0, _, _ => .usage
  | fuel + 1, config, arguments =>
    match ofNamed? config arguments, arguments with
    | some request, _ => request
    | none, [] => .usage
    | none, argument :: _ =>
      if isVersion argument then .version
      else if isHelp argument then .help .program
      else
        match option? "--config" arguments with
        | some (some path, rest) =>
          if config.isSome || path.isEmpty then
            if argument = "--config" then ((ofNamed? config rest).getD .usage).onlyHelp
            else .usage
          else ofRootArguments fuel (some path) rest
        | _ => .usage

def ofArguments (arguments : List String) : Request :=
  ofRootArguments (arguments.length + 1) none arguments

end Request

end TypedRows
