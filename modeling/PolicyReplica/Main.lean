import PolicyReplica.Settings.CommandLine

/-
The program: reads its command line and shows the settings that it makes.
-/

open PolicyReplica

def main (arguments : List String) : IO UInt32 := do
  match CommandLine.parse arguments with
  | .ok settings =>
      for (name, text) in settings.entries do
        IO.println (name ++ ": " ++ text)
      pure 0
  | .error fault =>
      IO.eprintln ("error: " ++ fault.label?.getD "broken off")
      pure 2
