import DeployWizard.CommandLine.Arguments
import DeployWizard.Text.Controls

set_option autoImplicit false

/-!
The texts that the command line shows on request. What the environment holds is part of a text,
with the controls in it; so the text is made with those for bold letters, and all are taken out
together.
-/
namespace DeployWizard.CommandLine

def versionText : String := "obd-wizard 0.1.0\n"

def Subcommand.about : Subcommand → String
  | .validate => "Check the wizard file without contacting the deployer"
  | .submit => "Create the deployment configuration on the deployer"
  | .watch => "Follow the install task of an existing deployment"
  | .deploy => "Submit, then follow the install task to the end"

def helpAbout : String := "Print this message or the help of the given subcommand(s)"

def column (width : Nat) (s : String) : String :=
  s ++ String.ofList (List.replicate (width - s.length) ' ')

def text (lines : List String) : String :=
  String.join (lines.map (· ++ "\n"))

def variableNote (environment : String → Option String) (s : Setting) : String :=
  match s.envName? with
  | some v => " [env: " ++ v ++ "=" ++ (environment v).getD "" ++ "]"
  | none => ""

def bold (s : String) : String :=
  "\x1b[1m" ++ s ++ "\x1b[0m"

def heading (s : String) : String :=
  "\x1b[1m\x1b[4m" ++ s ++ "\x1b[0m"

def noteColumn : Nat := 25

def note (s : String) : String :=
  String.ofList (s.toList.flatMap fun c =>
    if c = '\n' then c :: List.replicate noteColumn ' ' else [c])

def styledHelp (environment : String → Option String) : String :=
  text (["OceanBase deploy wizard", "",
      heading "Usage:" ++ " " ++ bold "obd-wizard" ++ " [OPTIONS] <COMMAND>", "",
      heading "Commands:"] ++
    (Subcommand.all.map fun s =>
      "  " ++ bold s.name ++ column (10 - s.name.length) "" ++ s.about) ++
    ["  " ++ bold "help" ++ column 6 "" ++ helpAbout, "", heading "Options:",
      "  " ++ bold "-c" ++ ", " ++ bold "--config" ++ " <CONFIG>  " ++
        note ("Wizard file" ++ variableNote environment .config ++
          " [default: " ++ defaultConfig ++ "]"),
      "      " ++ bold "--server" ++ " <SERVER>  " ++
        note ("Deployer service URL, overrides `server.base_url`" ++
          variableNote environment .server),
      "      " ++ bold "--name" ++ " <NAME>      Deployment name, overrides `deployment.appname`",
      "  " ++ bold "-h" ++ ", " ++ bold "--help" ++ "             Print help",
      "  " ++ bold "-V" ++ ", " ++ bold "--version" ++ "          Print version"])

def programHelp (environment : String → Option String) : String :=
  Text.Controls.strip (styledHelp environment)

def subcommandHelp (s : Subcommand) : String :=
  text [s.about, "", "Usage: obd-wizard " ++ s.name, "", "Options:", "  -h, --help  Print help"]

def helpHelp : String :=
  text [helpAbout, "", "Usage: obd-wizard help [COMMAND]...", "", "Arguments:",
    "  [COMMAND]...  Print help for the subcommand(s)"]

end DeployWizard.CommandLine
