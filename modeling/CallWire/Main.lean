import CallWire.Cli.Program

/-!
The command line. The program runs on a host of its own, where it meets nobody else: messages are
inspected, a call finds nobody listening, and a server serves in vain.
-/

open CallWire

def main (arguments : List String) : IO UInt32 := do
  let (running, host) := Running.start arguments {}
  let (output, _) := running.finishAlone host
  let stdout ← IO.getStdout
  stdout.write (ByteArray.mk output.stdout.toArray)
  stdout.flush
  if let some text := output.failure then
    IO.eprintln s!"error: {text}"
  return UInt32.ofNat output.status
