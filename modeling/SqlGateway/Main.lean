import SqlGateway.CommandLine.Run
import SqlGateway.Server.Script

/-!
# The command

This program speaks no wire protocol, so all its servers are out of reach: it says what a call
comes to on a machine without a network.
-/

namespace SqlGateway

open CommandLine (Invocation)

def unreachableServers (invocation : Invocation) : Backend Script.State :=
  Script.backend ⟨.unreachable, .granted, invocation.connectTimeout.toNat * 1000⟩
    invocation.queryTimeout.toNat

end SqlGateway

def main (arguments : List String) : IO UInt32 := do
  let (outcome, _) := SqlGateway.CommandLine.run arguments SqlGateway.unreachableServers 0 ⟨[], []⟩
  (← IO.getStdout).putStr outcome.output
  (← IO.getStderr).putStr outcome.errors
  return outcome.exitCode
