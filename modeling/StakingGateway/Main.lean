import StakingGateway.CommandLine
import StakingGateway.Crypto.Standard
import StakingGateway.Http.Server
import StakingGateway.Node.Client

/-!
# The program

Reads the command line and serves requests from standard input: each line is a path, a blank and a
JSON body, and each response is a line with the status, a blank and the body.  A request that is cut
short has an empty line for a response.  The listener that passes requests on this way, and the
transport to a node, are outside of the program.
-/

open StakingGateway

/-- No node can be reached from here. -/
def noTransport : Transport IO where
  dial := return .error "no transport"
  send method _ := return .error ⟨.unavailable, method.path⟩

def requestOfLine (line : String) : HttpRequest :=
  let chars := line.toList
  let target := chars.takeWhile (· != ' ')
  { method := "POST"
    target := String.ofList target
    contentType := some "application/json"
    body := Utf8.encode (String.ofList (chars.drop (target.length + 1))) }

/-- Serves requests until the input ends. -/
partial def serve (gateway : Gateway (Client.Effect IO)) (client : ClientState) : IO Unit := do
  let line ← (← IO.getStdin).getLine
  if line.isEmpty then return
  let (response, client) ← (gateway.respond (requestOfLine line)).run.run client
  IO.println (response.elim "" fun response => toString response.status ++ " " ++ response.text)
  (← IO.getStdout).flush
  serve gateway client

def main (args : List String) : IO UInt32 := do
  let environment ← (Setting.all.filterMap Setting.environmentName?).mapM fun name => do
    return (name, ← IO.getEnv name)
  match Command.read args fun name => (environment.lookup name).join with
  | .error reason =>
    IO.eprintln reason.message
    return 1
  | .ok .showVersion =>
    IO.print versionText
    return 0
  | .ok (.serveOffline _ _ chainId) =>
    serve (.offline chainId) .initial
    return 0
  | .ok (.serveNode _ _ nodeAddress) =>
    serve (.online (Client.node noTransport nodeAddress)) .initial
    return 0
