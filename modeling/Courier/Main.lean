import Courier.Program

/-!
# The command line

The worker as a command.  Its queue is the standard input, one payload a line, and the end of the
input asks it to terminate.  It takes its configuration from the environment and from a file `.env`
in the working directory, writes its log to the standard output, and reports failures on the error
output.
-/

namespace Courier.Main

/-- The variables that the program itself looks at. -/
def ownVariables : List String :=
  [Filter.variableName, Resource.variableName] ++ Sampling.variableNames ++
    Export.headerVariables ++ Export.Limits.variableNames ++
    ([.brokerUrl, .queue, .deadLetterExchange, .shutdownGrace, .serviceName, .traceEndpoint,
      .podName, .podNamespace, .nodeName] : List Config.Variable).map Config.Variable.name

/-- The words of a text that may name a variable. -/
def words (text : String) : List String :=
  let marked := text.toList.map fun c => if EnvFile.isKeyChar c then c else ' '
  ((splitOn ' ' marked).filter (· ≠ [])).map String.ofList

/-- The part of the environment that matters to the program and its environment file. -/
def readEnvironment (envFile : String) : IO Environment :=
  (ownVariables ++ words envFile).foldlM (fun environment name => do
    match ← IO.getEnv name with
    | some value => return environment.insert name value
    | none => return environment) .empty

/-- The text of the environment file. -/
def readEnvFile : IO String := do
  try IO.FS.readFile ".env" catch _ => return ""

/-- The byte that ends a line. -/
def newline : UInt8 := 0x0A

/-- The lines of a text, without what ends them. -/
def payloads : List UInt8 → List (List UInt8)
  | [] => []
  | b :: rest =>
    if b = newline then [] :: payloads rest
    else
      match payloads rest with
      | [] => [[b]]
      | line :: lines => (b :: line) :: lines

/-- A source of fresh tokens. -/
def readTokens : IO (Nat → String) := do
  let seed ← IO.getRandomBytes 16
  let start := seed.toList.foldl (fun n b => 256 * n + b.toNat) 0
  -- An odd step runs through all tokens before one comes again.
  return fun n => hexFixed 32 ((start + n * 0x9E3779B97F4A7C15F39CC0605CEDC835) % Nat.pow 2 128)

end Courier.Main

open Courier in
/-- Runs a worker over the standard input. -/
def main : IO UInt32 := do
  let envFile ← Main.readEnvFile
  let environment ← Main.readEnvironment envFile
  let tokens ← Main.readTokens
  let input ← (← IO.getStdin).readBinToEnd
  let broker : Amqp.Broker :=
    { messages := (Main.payloads input.toList).map fun payload => { payload } }
  let run := Program.run
    { environment, envFile, tokens, brokerAt := fun _ => .found broker
      collectorAt := fun _ => .refused, occasion := .signal .terminate }
  for line in run.lines do
    IO.println line.render
  for line in run.report do
    IO.eprintln line
  return UInt32.ofNat run.exitCode
