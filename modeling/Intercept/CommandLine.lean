import Intercept.Failure.Listener
import Intercept.Host
import Intercept.Settings.Load

/-!
# The command line

Arguments are read from left to right. One that names the settings file takes the next argument as
the path, whatever it looks like; the others set what is to be done, and the last of them counts.
Only when all arguments have been read is anything done. What is done is done through a host, up to
the point from which the program serves.
-/

namespace Intercept.CommandLine

/-- What the program is to do. -/
inductive Mode where
  | run
  | generate
  | check
  | help
  | version
deriving DecidableEq

/-- What the arguments say. -/
structure Arguments where
  path : String
  mode : Mode
deriving DecidableEq

/-- Why arguments cannot be read. -/
inductive Misuse where
  | unknown (argument : String)
  /-- The argument must be followed by a path. -/
  | pathMissing (argument : String)
deriving DecidableEq

def Misuse.text : Misuse → String
  | .unknown argument => "Unknown argument: " ++ argument
  | .pathMissing argument => argument ++ " needs a path"

def defaultPath : String := "/etc/tproxy-tunnel/config.json"

def Arguments.default : Arguments := ⟨defaultPath, .run⟩

def isPathFlag (argument : String) : Bool := argument = "-c" || argument = "--config"

def modeFlag? : String → Option Mode
  | "-g" => some .generate
  | "--generate-config" => some .generate
  | "--check" => some .check
  | "-h" => some .help
  | "--help" => some .help
  | "-v" => some .version
  | "--version" => some .version
  | _ => none

def read (sofar : Arguments) : List String → Except Misuse Arguments
  | [] => .ok sofar
  | [argument] =>
    if isPathFlag argument then .error (.pathMissing argument)
    else match modeFlag? argument with
      | some mode => .ok { sofar with mode := mode }
      | none => .error (.unknown argument)
  | argument :: next :: rest =>
    if isPathFlag argument then read { sofar with path := next } rest
    else match modeFlag? argument with
      | some mode => read { sofar with mode := mode } (next :: rest)
      | none => .error (.unknown argument)

def parse (arguments : List String) : Except Misuse Arguments := read .default arguments

/-! ### Texts -/

def banner : String := "tproxy-tunnel v0.1.0\n"

def help : String := banner ++ "
Transparent proxy that carries TPROXY-intercepted TCP and UDP flows through
a SOCKS5 upstream.

USAGE:
    tproxy-tunnel [OPTIONS]

OPTIONS:
    -c, --config <PATH>     Configuration file path [default: /etc/tproxy-tunnel/config.json]
    -g, --generate-config   Generate default configuration and exit
    --check                 Check configuration and exit
    -h, --help              Print help information
    -v, --version           Print version information

ENVIRONMENT:
    TPROXY_TUNNEL_LISTEN_ADDR      Override listen address
    TPROXY_TUNNEL_LOG_LEVEL        Override log level (trace, debug, info, warn, error)
    TPROXY_TUNNEL_MAX_CONNECTIONS  Override maximum connections
    TPROXY_TUNNEL_UPSTREAM_ADDR    Override SOCKS5 upstream address

REQUIREMENTS:
    - Linux kernel with TPROXY support
    - CAP_NET_ADMIN capability (or root)
    - iptables TPROXY rules configured

EXAMPLE:
    iptables -t mangle -A PREROUTING -p tcp -j TPROXY \\
        --on-ip 127.0.0.1 --on-port 7893 --tproxy-mark 0x1
    iptables -t mangle -A PREROUTING -p udp -j TPROXY \\
        --on-ip 127.0.0.1 --on-port 7893 --tproxy-mark 0x1
    ip rule add fwmark 0x1 lookup 100
    ip route add local 0.0.0.0/0 dev lo table 100

    sudo tproxy-tunnel -c /etc/tproxy-tunnel/config.json

"

/-- A text with `lead` before its first line and `follow` before every other. -/
def indented (lead follow : String) (text : String) : String :=
  let lines := (Ip.pieces '\n' text.toList).map String.ofList
  lead ++ String.intercalate ("\n" ++ follow) lines

/-- The causes of a failure, one below the other; several are numbered. -/
def causes : List String → String
  | [] => ""
  | [cause] => "\n\nCaused by:\n" ++ indented "    " "    " cause
  | many => "\n\nCaused by:" ++ String.join ((many.zipIdx).map fun (cause, n) =>
      "\n" ++ indented ("    " ++ Decimal.text n ++ ": ") "       " cause)

/-- What a failure of the settings comes from. -/
def underlying : Failure.Settings → List String
  | .io f => [f.text]
  | _ => []

/-- What is reported when the program ends with an error. -/
def report (text : String) (chain : List String) : String :=
  "Error: " ++ text ++ causes chain ++ "\n"

def listenerName : Transport → String
  | .tcp => "TCP"
  | .udp => "UDP"

/-! ### Doing what was asked -/

/-- How a run ends. What it enters into a log is left out. -/
structure Report where
  code : Nat
  output : String
  errors : String
deriving DecidableEq

/-- The report about arguments that cannot be read. -/
def reportMisuse (misuse : Misuse) : Report := ⟨1, help, misuse.text ++ "\n"⟩

/-- The report after a file of default settings was asked for, and was written or not. -/
def reportGenerated (path : String) : Except IoFault Unit → Report
  | .ok () => ⟨0, "Generated default configuration at " ++ path ++ "\n", ""⟩
  | .error f => ⟨1, "", report (Failure.Settings.io f).text (underlying (.io f))⟩

/-- The report when settings cannot be loaded. -/
def reportUnloaded (path : String) (e : Failure.Settings) : Report :=
  ⟨1, "", report ("Failed to load configuration from " ++ path) (e.text :: underlying e)⟩

/-- The report when settings were loaded to be checked. -/
def reportValid : Report := ⟨0, "Configuration is valid\n", ""⟩

/-- The report when there is no listener. -/
def reportUnheard (transport : Transport) (f : Failure.Socket) : Report :=
  ⟨1, "", report ("Failed to create TPROXY " ++ listenerName transport ++ " listener")
    ((Failure.Listener.socket f).text :: f.text :: f.fault?.toList.map (·.text))⟩

/-- What a run comes to. -/
inductive Outcome where
  | ended (report : Report)
  /-- The program breaks off, since there cannot be so many slots. -/
  | broken
  /-- Everything is listening that should, and the program serves. -/
  | serves (settings : Settings)
deriving DecidableEq

/-- What has been reported by then. -/
def Outcome.report : Outcome → Report
  | .ended report => report
  | .broken => ⟨101, "", ""⟩
  | .serves _ => ⟨0, "", ""⟩

/-- The most slots that there can be. -/
def mostSlots : UInt64 := 2305843009213693951

/-- The transports that are listened to, in the order in which their listeners are made. -/
def transports (listen : Settings.Listen) : List Transport :=
  [Transport.tcp, .udp].filter fun
    | .tcp => listen.tcp
    | .udp => listen.udp

section

variable {m : Type → Type} [Monad m] (host : Host m)

/-- Makes one listener after the other, up to the first that cannot be made. -/
def listenTo (settings : Settings) : List Transport → m Outcome
  | [] => return .serves settings
  | transport :: rest => do
    match ← host.listen transport settings.listen with
    | .ok () => listenTo settings rest
    | .error f => return .ended (reportUnheard transport f)

/-- Begins to serve. -/
def start (settings : Settings) : m Outcome :=
  if mostSlots < settings.connection.maximum then return .broken
  else listenTo host settings (transports settings.listen)

/-- Does what the arguments say. -/
def execute (a : Arguments) : m Outcome := do
  match a.mode with
  | .help => return .ended ⟨0, help, ""⟩
  | .version => return .ended ⟨0, banner, ""⟩
  | .generate =>
    return .ended (reportGenerated a.path
      (← host.write a.path (Utf8.encode Settings.defaultText)))
  | .check | .run =>
    let contents := Files.textOf (← host.read a.path)
    match Settings.ofFileWith (← host.environment) a.path contents with
    | .error e => return .ended (reportUnloaded a.path e)
    | .ok settings => if a.mode = .check then return .ended reportValid else start host settings

/-- A run of the program. -/
def invoke (arguments : List String) : m Outcome :=
  match parse arguments with
  | .ok a => execute host a
  | .error misuse => return .ended (reportMisuse misuse)

end

end Intercept.CommandLine
