import FundLedger.Command
import FundLedger.Rest.Message
import FundLedger.Settings
import Std.Async.DNS
import Std.Async.TCP
import Std.Async.Timer
/-!
# The program

Reads the arguments, the environment and the files with settings, talks to the storage server, and prints the report
of a command.  Bad arguments end with status 2, all other failures with status 1.
-/

open Std.Async Std.Net

namespace FundLedger.Program

/-- The variables of the environment. -/
def environmentVariables : IO (List (String × String)) := do
  let bytes ← IO.FS.readBinFile "/proc/self/environ"
  let text := (String.fromUTF8? bytes).getD ""
  return ((text.splitOn "\x00").filter (·.contains '=')).map fun entry =>
    ((entry.takeWhile (· != '=')).toString, ((entry.dropWhile (· != '=')).drop 1).toString)

/-- The text of a file, if there is one. -/
def fileText? (path : String) : IO (Option String) := do
  try
    return some (← IO.FS.readFile path)
  catch _ => return none

/-- Loads the settings. -/
def loadSettings? : IO (Option Settings) := do
  let environment ← environmentVariables
  let exact := ["default", Settings.modeOf environment].map SettingsFile.path
  let paths := exact ++ exact.filterMap SettingsFile.withJson?
  let files ← paths.mapM fun path => return (path, ← fileText? path)
  return Settings.load? environment fun path => (files.find? fun f => f.1 == path).bind (·.2)

/-- All bytes that come until the other side closes the connection. -/
partial def readAll (client : TCP.Socket.Client) (received : ByteArray) : Async ByteArray := do
  match ← client.recv? 65536 with
  | some bytes => readAll client (received ++ bytes)
  | none => return received

/-- Sends a message and reads what is answered. -/
def converse (host : String) (port : Nat) (message : String) : Async ByteArray := do
  let found ← DNS.getAddrInfo host (toString port)
  match found.toList.head? with
  | none => throw (IO.userError "host not found")
  | some address =>
    let client ← TCP.Socket.Client.mk
    client.connect (match address with
      | .v4 a => .v4 ⟨a, port.toUInt16⟩
      | .v6 a => .v6 ⟨a, port.toUInt16⟩)
    client.send message.toUTF8
    readAll client .empty

/-- Sends a request to the server.  Connections are plain ones: a server with an `https` address counts as one that
cannot be reached. -/
def exchange (server : RestServer) (seconds : Nat) (request : RestRequest) : IO RestOutcome := do
  let address := server.address
  if address.scheme != "http" then return .error "the scheme is not supported"
  let message := server.message (address.directory.getD "/") request
  let late : Async ByteArray := do
    sleep (Std.Time.Millisecond.Offset.ofNat (1000 * seconds))
    throw (IO.userError "no answer in time")
  try
    let bytes ← (Async.race (converse address.host (address.port.getD 80) message) late).block
    return match RestResponse.ofBytes? bytes.toList with
      | some response => .ok response
      | none => .error "the answer is no message"
  catch e => return .error (toString e)

/-- Performs a command with the storage behind a server. -/
def perform (server : RestServer) (seconds : Nat) (command : Command) : IO (Except Failure Json) :=
  command.report.run.answeredBy (m := IO) fun request =>
    (server.answer request).run.answeredBy (m := IO) (exchange server seconds)

/-- Reports a failure. -/
def fail (message : String) : IO UInt32 := do
  IO.eprintln ("Error: " ++ message)
  return 1

/-- Runs a command with the settings that there are. -/
def runCommand (command : Command) : IO UInt32 := do
  match ← loadSettings? with
  | none => fail (AppError.configuration "the settings cannot be read").message
  | some settings =>
    match Address.ofBase? settings.baseUrl with
    | none => fail (StoreError.toFinance (.unavailable "invalid base address")).message
    | some address =>
      match ← perform ⟨address, settings.tenant⟩ settings.timeoutSeconds command with
      | .ok report =>
        IO.println report.indented
        return 0
      | .error (.finance e) => fail e.toAppError.message
      | .error (.overflow operation) => fail operation.message

/-- Does what the arguments ask for. -/
def run (arguments : List String) : IO UInt32 := do
  match Invocation.ofArguments arguments with
  | .error e =>
    IO.eprintln ("error: " ++ e.message)
    return 2
  | .ok .version =>
    IO.println versionText
    return 0
  | .ok .help =>
    IO.println helpText
    return 0
  | .ok (.run command) => runCommand command

end FundLedger.Program

/-- The program. -/
def main (arguments : List String) : IO UInt32 := FundLedger.Program.run arguments
