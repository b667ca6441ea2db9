import Mathlib.Data.List.DropRight
import NexusD.Tools.Tokenizer

/-! The command line tool: its options, its commands, and PUBLISH among them. -/

namespace NexusD.Tools

open NexusD.Core

/-- `std::toupper` -/
def toupper (byte : UInt8) : UInt8 := if 97 ≤ byte && byte ≤ 122 then byte - 32 else byte

/-- `to_upper` -/
def toUpper (text : ByteString) : ByteString := text.map toupper

/-- One of `" \t\r\n"`. -/
def isBlank (byte : UInt8) : Bool := byte = 32 || byte = 9 || byte = 13 || byte = 10

def trim (text : ByteString) : ByteString := (text.dropWhile isBlank).rdropWhile isBlank

structure ParsedCommand where
  command : ByteString := []
  subcommand : ByteString := []
  args : List ByteString := []
deriving DecidableEq, Repr

/-- Whether `arg` is the flag, bare or after one or two dashes. -/
def isFlag (flag arg : ByteString) : Bool :=
  toUpper arg = toUpper flag || toUpper arg = ascii "-" ++ toUpper flag
    || toUpper arg = ascii "--" ++ toUpper flag

/-- All arguments are looked at, the positional ones too. -/
def ParsedCommand.hasFlag (cmd : ParsedCommand) (flag : ByteString) : Bool :=
  cmd.args.any (isFlag flag)

/-- The argument behind the first `-name` or `--name` that has one. -/
def optionValue (name defaultVal : ByteString) : List ByteString → ByteString
  | [] => defaultVal
  | [_] => defaultVal
  | arg :: value :: rest =>
      if arg = ascii "-" ++ name ∨ arg = ascii "--" ++ name then value
      else optionValue name defaultVal (value :: rest)

def ParsedCommand.getOption (cmd : ParsedCommand) (name defaultVal : ByteString)
    : ByteString :=
  optionValue name defaultVal cmd.args

inductive Handler where
  | discover
  | info
  | mesh
  | pubsub
  | client
  | debug
  | publish
  | subscribe
  | monitor
  | ping
  | connect
  | disconnect
  | help
  | quit
  | clear
deriving DecidableEq, Repr

structure CommandInfo where
  name : ByteString
  subcommands : List ByteString := []
  handler : Handler
deriving DecidableEq, Repr

/-- `register_commands` -/
def commands : List CommandInfo := [
  { name := ascii "DISCOVER", handler := .discover },
  { name := ascii "INFO", handler := .info,
    subcommands := ["SERVER", "STATS", "MEMORY", "CONFIG", "ALL"].map ascii },
  { name := ascii "MESH", handler := .mesh,
    subcommands := ["PEERS", "STATUS", "TOPOLOGY", "GOSSIP"].map ascii },
  { name := ascii "PUBSUB", handler := .pubsub,
    subcommands := ["TOPICS", "CHANNELS", "NUMSUB", "NUMPAT", "RETAINED"].map ascii },
  { name := ascii "CLIENT", handler := .client,
    subcommands := ["LIST", "INFO", "KILL", "GETNAME", "SETNAME"].map ascii },
  { name := ascii "DEBUG", handler := .debug,
    subcommands :=
      ["OBJECT", "SEGFAULT", "SLEEP", "DIGEST", "STRUCTSIZE", "LOG"].map ascii },
  { name := ascii "PUBLISH", handler := .publish },
  { name := ascii "SUBSCRIBE", handler := .subscribe },
  { name := ascii "MONITOR", handler := .monitor },
  { name := ascii "PING", handler := .ping },
  { name := ascii "CONNECT", handler := .connect },
  { name := ascii "DISCONNECT", handler := .disconnect },
  { name := ascii "HELP", handler := .help },
  { name := ascii "QUIT", handler := .quit },
  { name := ascii "CLEAR", handler := .clear }]

/-- The aliases the parser is built with. -/
def aliases : List (ByteString × ByteString) :=
  [("Q", "QUIT"), ("EXIT", "QUIT"), ("?", "HELP"), ("H", "HELP"), ("DISC", "DISCOVER"),
    ("LS", "DISCOVER"), ("PUB", "PUBLISH"), ("SUB", "SUBSCRIBE"), ("MON", "MONITOR")].map
    (fun entry => (ascii entry.1, ascii entry.2))

def resolveAlias (name : ByteString) : ByteString :=
  (aliases.lookup (toUpper name)).getD (toUpper name)

def getCommandInfo (command : ByteString) : Option CommandInfo :=
  commands.find? (fun info => info.name = toUpper command)

/-- The subcommand and the arguments in what follows the command. -/
def splitSubcommand (info : Option CommandInfo) (tokens : List ByteString)
    : ByteString × List ByteString :=
  match info, tokens with
  | some info, first :: rest =>
      if info.subcommands.any (fun name => name = toUpper first) then (toUpper first, rest)
      else ([], first :: rest)
  | _, _ => ([], tokens)

def parse (line : ByteString) : ParsedCommand :=
  match tokenize (trim line) with
  | [] => {}
  | first :: rest =>
      let command := resolveAlias (toUpper first)
      let (subcommand, args) := splitSubcommand (getCommandInfo command) rest
      { command, subcommand, args }

-----------------------------------------------------------------------------------------
-- PUBLISH
-----------------------------------------------------------------------------------------

/-- The arguments of `GrpcClient::publish`. -/
structure PublishCall where
  topic : ByteString
  payload : ByteString
  contentType : ByteString
  retain : Bool
deriving DecidableEq, Repr

/-- The loop that builds the message, up to the first argument with a dash. -/
def buildMessage : ByteString → List ByteString → ByteString
  | message, [] => message
  | message, arg :: rest =>
      if arg.head? = some 45 then message
      else buildMessage ((if message = [] then message else message ++ [32]) ++ arg) rest

/-- `publish_cmd` up to its call, or the error it prints. -/
def publishCmd (connected : Bool) (cmd : ParsedCommand) : Except String PublishCall :=
  if !connected then
    .error "Not connected. Use DISCOVER and CONNECT first."
  else
    match cmd.args with
    | topic :: word :: rest =>
        .ok {
          topic
          payload := buildMessage [] (word :: rest)
          contentType :=
            cmd.getOption (ascii "type") (cmd.getOption (ascii "t") (ascii "text/plain"))
          retain := cmd.hasFlag (ascii "retain") || cmd.hasFlag (ascii "r")
        }
    | _ => .error "Usage: PUBLISH <topic> <message> [--retain] [--type <content-type>]"

/-- What a line leads to. -/
inductive Execution where
  | nothing
  | unknownCommand (command : ByteString)
  | publish (outcome : Except String PublishCall)
  | other (handler : Handler) (cmd : ParsedCommand)

/-- `Cli::execute`, with the connection as it is then. -/
def execute (connected : Bool) (line : ByteString) : Execution :=
  let cmd := parse line
  if cmd.command = [] then
    .nothing
  else
    match commands.find? (fun info => info.name = cmd.command) with
    | none => .unknownCommand cmd.command
    | some info =>
        match info.handler with
        | .publish => .publish (publishCmd connected cmd)
        | handler => .other handler cmd

/-- The call a line makes to `GrpcClient::publish`, if it makes one. -/
def Execution.call : Execution → Option PublishCall
  | .publish (.ok call) => some call
  | _ => none

structure CliConfig where
  jsonMode : Bool := false
  host : ByteString := ascii "localhost"
  port : Nat := 5672
  instanceIndex : Int := -1
  autoConnect : Bool := true
  discoveryTimeout : Int := 2000
deriving DecidableEq, Repr

/-- How `main` goes on after its loop over the arguments. -/
inductive Startup where
  | exits (code : Int)
  | interactive (config : CliConfig)
  | command (config : CliConfig) (line : ByteString)
deriving DecidableEq, Repr

/-- `full_command` -/
def fullCommand (command : ByteString) (commandArgs : List ByteString) : ByteString :=
  commandArgs.foldl (fun line arg => line ++ (ascii " " ++ arg)) command

/-- The loop over the arguments. A value that is missing at the end is passed over. -/
def parseArguments (config : CliConfig) : List ByteString → Except ConversionError Startup
  | [] => .ok (.interactive config)
  | arg :: rest =>
      if arg = ascii "-h" ∨ arg = ascii "--host" then
        match rest with
        | [] => parseArguments config []
        | value :: others => parseArguments { config with host := value } others
      else if arg = ascii "-p" ∨ arg = ascii "--port" then
        match rest with
        | [] => parseArguments config []
        | value :: others => do
            let port ← stoi value
            parseArguments { config with port := (port % 2 ^ 16).toNat } others
      else if arg = ascii "-n" then
        match rest with
        | [] => parseArguments config []
        | value :: others => do
            let instanceIndex ← stoi value
            parseArguments { config with instanceIndex } others
      else if arg = ascii "--json" then
        parseArguments { config with jsonMode := true } rest
      else if arg = ascii "--no-connect" then
        parseArguments { config with autoConnect := false } rest
      else if arg = ascii "--timeout" then
        match rest with
        | [] => parseArguments config []
        | value :: others => do
            let discoveryTimeout ← stoi value
            parseArguments { config with discoveryTimeout } others
      else if arg = ascii "--help" ∨ arg = ascii "--version" then
        .ok (.exits 0)
      else if arg.head? ≠ some 45 then
        .ok (.command config (fullCommand arg rest))
      else
        .ok (.exits 1)

/-- `Cli::run_command` of a fresh client: it is connected if it is to connect by itself and
the daemon is `reachable`.
-/
def runCommand (config : CliConfig) (reachable : Bool) (command : ByteString) : Execution :=
  execute (config.autoConnect && reachable) command

/-- The call to `GrpcClient::publish` that a run of the program makes. `config` is what the
options before these arguments have set.
-/
def publishedBy (config : CliConfig) (reachable : Bool) (arguments : List ByteString)
    : Option PublishCall :=
  match parseArguments config arguments with
  | .ok (.command config line) => (runCommand config reachable line).call
  | _ => none

end NexusD.Tools
