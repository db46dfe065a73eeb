import Admittance.Demo

/-!
# The demonstration as a program

Runs the demonstration with the configuration file that is named on the command line, or with its
own configuration.
-/

open Admittance

/-- The configuration that the command line asks for. -/
def configSource (args : List String) : IO Demo.Source := do
  match args with
  | [] => return .builtIn
  | path :: _ =>
    try
      return .text (← IO.FS.readFile path)
    catch _ =>
      return .unreadable

def main (args : List String) : IO UInt32 := do
  let seed ← IO.rand 0 0x1000000000000000
  let chance ← IO.rand 0 0x1000000000000000
  let draw (n : Nat) : SessionToken := .ofNumber (seed * wordCount + chance * 2 + n)
  let output := Demo.run (← configSource args) draw (fun limit => chance % (limit + 1))
  output.lines.forM IO.println
  return output.exitCode.toUInt32
