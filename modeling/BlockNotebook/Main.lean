import BlockNotebook.CommandLine.Run
/-!
The program on a real command line: files and the environment are read, and what the
session leaves is printed.
-/

namespace BlockNotebook

/-- The file with a name. -/
def findFile (name : String) : IO CommandLine.Found := do
  try
    return .text (Text.ofString (← IO.FS.readFile name))
  catch
    | .invalidArgument _ 36 _ => return .tooLong
    | _ => return .nothing

/-- The variables with these names that are set. -/
def readEnvironment : List Text → IO Environment
  | [] => return []
  | name :: rest => do
    let others ← readEnvironment rest
    match ← IO.getEnv (String.ofList name.characters) with
    | some s => return (name, s) :: others
    | none => return others

/-- To write a text, with stand-ins for its surrogates. -/
def write (out : IO.FS.Stream) (t : Text) : IO Unit := out.putStr (String.ofList t.characters)

end BlockNotebook

open BlockNotebook in
def main (words : List String) : IO UInt32 := do
  let arguments := words.map Text.ofString
  let settings? := (← findFile "dnb.yml").text?
  let environment ← readEnvironment ((settings?.map Settings.environmentNames).getD [])
  let name? := (CommandLine.Line.command? arguments).bind CommandLine.Command.file?
  let found ←
    match name? with
    | some name => findFile (String.ofList name.characters)
    | none => pure .nothing
  let (session, ending) := CommandLine.run ⟨environment, settings?, fun _ => found⟩ arguments
  write (← IO.getStdout) session.output
  let err ← IO.getStderr
  write err session.journal
  match ending with
  | some (.broken f) => write err (f.message ++ "\n")
  | _ => pure ()
  return UInt32.ofNat (CommandLine.exitCode ending)
