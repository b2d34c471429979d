import UnaryNumeral.CommandLine.Run

open UnaryNumeral

def usage : String :=
  "usage: nat-numeral [--schema] [--pretty] [--dev] [--path PATH] [--verbose] [parse|print] [text]"

def main (words : List String) : IO UInt32 := do
  let settings : Settings :=
    { path := ← IO.getEnv "NAT_NUMERAL_PATH"
      development := ← IO.getEnv "NAT_NUMERAL_DEV" }
  match (CommandLine.run settings words).result with
  | .ok (.finished status output diagnostics) =>
    IO.eprint diagnostics
    IO.print output
    pure (UInt32.ofNat status)
  | .ok (.misused message) =>
    IO.eprintln usage
    IO.eprintln ("nat-numeral: error: " ++ message.getD "invalid arguments")
    pure 2
  | .error error =>
    IO.eprintln error.message
    pure 1
