set_option autoImplicit false

namespace DeployWizard.CommandLine

inductive Subcommand where
  | validate
  | submit
  | watch
  | deploy
  deriving DecidableEq

namespace Subcommand

def name : Subcommand → String
  | .validate => "validate"
  | .submit => "submit"
  | .watch => "watch"
  | .deploy => "deploy"

def all : List Subcommand := [.validate, .submit, .watch, .deploy]

def ofName? (s : String) : Option Subcommand :=
  all.find? (·.name = s)

end Subcommand

inductive Setting where
  | config
  | server
  | name
  deriving DecidableEq

namespace Setting

def flag : Setting → String
  | .config => "config"
  | .server => "server"
  | .name => "name"

def ofFlag? (s : String) : Option Setting :=
  [config, server, name].find? (·.flag = s)

def envName? : Setting → Option String
  | .config => some "OBD_WIZARD_CONFIG"
  | .server => some "OBD_DEPLOYER_URL"
  | .name => none

/-- A path is not empty; the other settings may be. -/
def allows (s : Setting) (value : String) : Bool :=
  s ≠ .config || value ≠ ""

end Setting

structure Settings where
  config : Option String := none
  server : Option String := none
  name : Option String := none
  deriving DecidableEq

namespace Settings

def get (s : Settings) : Setting → Option String
  | .config => s.config
  | .server => s.server
  | .name => s.name

def set (s : Settings) (value : String) : Setting → Settings
  | .config => { s with config := some value }
  | .server => { s with server := some value }
  | .name => { s with name := some value }

def give? (s : Settings) (setting : Setting) (value : String) : Option Settings :=
  if (s.get setting).isNone && setting.allows value then some (s.set value setting) else none

def fill? (environment : String → Option String) (setting : Setting) (s : Settings) :
    Option Settings :=
  if (s.get setting).isSome then some s
  else
    match setting.envName?.bind environment with
    | some value => s.give? setting value
    | none => some s

end Settings

inductive Argument where
  | help
  | version
  | setting (s : Setting) (value : Option String)
  | word (s : String)
  | unknown

namespace Argument

/-- The value after an equals sign, or the rest itself. -/
def attached : List Char → Option String
  | [] => none
  | '=' :: cs => some (String.ofList cs)
  | cs => some (String.ofList cs)

def ofFlag (flag : String) (value : Option String) : Argument :=
  match Setting.ofFlag? flag with
  | some s => .setting s value
  | none =>
    if value.isSome then .unknown
    else if flag = "help" then .help
    else if flag = "version" then .version
    else .unknown

def ofText (s : String) : Argument :=
  match s.toList with
  | '-' :: '-' :: cs =>
    let flag := String.ofList (cs.takeWhile (· ≠ '='))
    match cs.dropWhile (· ≠ '=') with
    | [] => ofFlag flag none
    | _ :: value => ofFlag flag (some (String.ofList value))
  | ['-'] => .word s
  | '-' :: 'h' :: _ => .help
  | '-' :: 'V' :: _ => .version
  | '-' :: 'c' :: cs => .setting .config (attached cs)
  | '-' :: _ => .unknown
  | _ => .word s

def isValue (s : String) : Bool :=
  match s.toList with
  | '-' :: _ :: _ => false
  | _ => true

end Argument

structure Invocation where
  config : String
  server : Option String
  name : Option String
  subcommand : Subcommand
  deriving DecidableEq

inductive Request where
  | run (i : Invocation)
  | version
  | help (s : Option Subcommand)
  | helpOfHelp
  | misused
  deriving DecidableEq

def defaultConfig : String := "wizard.toml"

def invoke (environment : String → Option String) (s : Settings) (subcommand : Subcommand) :
    Request :=
  match (s.fill? environment .config).bind (Settings.fill? environment .server) with
  | some s => .run ⟨s.config.getD defaultConfig, s.server, s.name, subcommand⟩
  | none => .misused

def afterSubcommand (request : Request) (subcommand : Subcommand) : List String → Request
  | [] => request
  | ["--"] => request
  | a :: _ =>
    match Argument.ofText a with
    | .help => .help (some subcommand)
    | _ => .misused

def afterHelp : List String → Request
  | [] => .help none
  | [a] =>
    if a = "help" then .helpOfHelp
    else
      match Subcommand.ofName? a with
      | some s => .help (some s)
      | none => .misused
  | _ => .misused

def readFrom (environment : String → Option String) : Settings → List String → Request
  | _, [] => .misused
  | s, a :: rest =>
    match Argument.ofText a with
    | .help => .help none
    | .version => .version
    | .unknown => .misused
    | .setting setting (some value) =>
      match s.give? setting value with
      | some s => readFrom environment s rest
      | none => .misused
    | .setting setting none =>
      match rest with
      | [] => .misused
      | value :: rest =>
        if !Argument.isValue value then .misused
        else
          match s.give? setting value with
          | some s => readFrom environment s rest
          | none => .misused
    | .word w =>
      if w = "help" then afterHelp rest
      else
        match Subcommand.ofName? w with
        | some subcommand => afterSubcommand (invoke environment s subcommand) subcommand rest
        | none => .misused

def read (environment : String → Option String) (arguments : List String) : Request :=
  readFrom environment {} arguments

end DeployWizard.CommandLine
