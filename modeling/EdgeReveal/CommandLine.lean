import EdgeReveal.Compositor.Sockets
import EdgeReveal.Config.Load

/-!
# The command line

Arguments are read from left to right and the first one that settles the run
does so: a request for help or the version, or a fault. Only options that may
be repeated may be; the others fail the second time.
-/
namespace EdgeReveal

/-- `verbosity` stops counting at the largest byte. -/
structure Options where
  config : Option String := none
  output : Option String := none
  verbosity : Nat := 0
  printConfig : Bool := false
  deriving DecidableEq, Repr, Inhabited

/-- What a command line asks for. -/
inductive Invocation where
  | help
  | version
  | usageFault
  | run (options : Options)
  deriving DecidableEq, Repr, Inhabited

namespace Options

def raise (o : Options) : Options := { o with verbosity := min (o.verbosity + 1) 255 }

/-- An option that takes a value, and how the value is put in. It is refused if the option
was given before. -/
def valued? : String → Option (Options → String → Option Options)
  | "config" => some fun o value =>
    if o.config.isSome ∨ value.isEmpty then none else some { o with config := some value }
  | "output" => some fun o value =>
    if o.output.isSome then none else some { o with output := some value }
  | _ => none

/-- What an option without a value does. -/
inductive Effect where
  | settled (invocation : Invocation)
  | changed (options : Options)

def flag (o : Options) : String → Effect
  | "help" => .settled .help
  | "version" => .settled .version
  | "verbose" => .changed o.raise
  | "print-config" =>
    if o.printConfig then .settled .usageFault else .changed { o with printConfig := true }
  | _ => .settled .usageFault

def shortFlag (o : Options) : Char → Effect
  | 'h' => o.flag "help"
  | 'V' => o.flag "version"
  | 'v' => o.flag "verbose"
  | _ => .settled .usageFault

/-- Flags written behind one dash. -/
def shortFlags (o : Options) : List Char → Effect
  | [] => .changed o
  | c :: rest =>
    match o.shortFlag c with
    | .changed next => next.shortFlags rest
    | settled => settled

end Options

namespace Invocation

/-- A value may not look like an option, except for a lone dash. -/
def isValue (argument : String) : Bool :=
  match argument.toList with
  | '-' :: _ :: _ => false
  | _ => true

/-- Splits a long option at its first equals sign. -/
def splitValue (option : List Char) : String × Option String :=
  (String.ofList (option.takeWhile (· != '=')),
    match option.dropWhile (· != '=') with
    | [] => none
    | _ :: value => some (String.ofList value))

/-- Nothing may follow the end of the options, because there are no other arguments. -/
def ofArguments (o : Options) : List String → Invocation
  | [] => .run o
  | argument :: rest =>
    match argument.toList with
    | ['-', '-'] => if rest = [] then .run o else .usageFault
    | '-' :: '-' :: option =>
      match splitValue option with
      | (name, some value) =>
        match Options.valued? name with
        | some put =>
          match put o value with
          | some next => ofArguments next rest
          | none => .usageFault
        | none => .usageFault
      | (name, none) =>
        match Options.valued? name, rest with
        | some put, value :: rest =>
          if isValue value then
            match put o value with
            | some next => ofArguments next rest
            | none => .usageFault
          else .usageFault
        | some _, [] => .usageFault
        | none, rest =>
          match o.flag name with
          | .changed next => ofArguments next rest
          | .settled invocation => invocation
    | '-' :: c :: flags =>
      match o.shortFlags (c :: flags) with
      | .changed next => ofArguments next rest
      | .settled invocation => invocation
    | _ => .usageFault

end Invocation

/-- The surroundings that the program looks at. -/
structure Environment where
  files : Files := {}
  configHome : ConfigHome
  signature : Option String := none
  runtime : Option String := none
  deriving Repr, Inhabited

/-- How a run ended: its exit code, what it wrote, and the fault it reported. -/
structure Report where
  code : Nat
  output : String := ""
  fault : Option String := none
  deriving DecidableEq, Repr, Inhabited

/-- A run either ends by itself or goes on to serve the panel. -/
inductive Ending where
  | finished (report : Report)
  | serving (config : Config) (sockets : SocketPaths)
  deriving DecidableEq, Repr, Inhabited

namespace CommandLine

def helpLines : List String :=
  ["Hide a panel until the pointer reaches the top edge",
    "",
    "Usage: panel-autohide [OPTIONS]",
    "",
    "Options:",
    "      --config <CONFIG>  Config file to load instead of the default location",
    "      --output <OUTPUT>  Output whose top edge drives the panel. Defaults to the focused one",
    "  -v, --verbose...       Raise log verbosity; repeat for more",
    "      --print-config     Print the resolved configuration and exit",
    "  -h, --help             Print help",
    "  -V, --version          Print version"]

def helpText : String := String.join (helpLines.map fun line => line ++ "\n")

def versionText : String := "panel-autohide 0.1.0\n"

/-- A fault ends the program with code 1 and its description behind a fixed word. -/
def failed (message : String) : Ending := .finished ⟨1, "", some s!"Error: {message}"⟩

/-- The first line that describes a configuration fault. -/
def configFaultLine : ConfigError → String
  | .read path cause => (ConfigError.read path cause).message
  | .parse path cause => (ConfigError.parse path cause).prefixText

/-- The configuration that a run uses: an output on the command line replaces the configured one. -/
def resolve (env : Environment) (o : Options) : Except ConfigError Config :=
  match Config.load env.files env.configHome o.config with
  | .error e => .error e
  | .ok config =>
    let output := o.output.or config.panel.output
    .ok { config with panel := { config.panel with output := output } }

def runWith (env : Environment) (o : Options) : Ending :=
  match resolve env o with
  | .error e => failed (configFaultLine e)
  | .ok config =>
    if o.printConfig then .finished ⟨0, config.validated.toToml, none⟩
    else
      match SocketPaths.locate env.files env.runtime env.signature with
      | .error fault => failed fault.message
      | .ok sockets => .serving config sockets

def run (env : Environment) (arguments : List String) : Ending :=
  match Invocation.ofArguments {} arguments with
  | .help => .finished ⟨0, helpText, none⟩
  | .version => .finished ⟨0, versionText, none⟩
  | .usageFault => .finished ⟨2, "", none⟩
  | .run options => runWith env options

end CommandLine

end EdgeReveal
