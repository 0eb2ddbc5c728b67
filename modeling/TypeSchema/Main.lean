import TypeSchema.Command.Program

/-!
# The command line

Reads the source that a request needs, carries the request out and prints the report.
-/

open TypeSchema.Command

/-- Reads a stream to its end. -/
partial def readToEnd (stream : IO.FS.Stream) (before : ByteArray) : IO ByteArray := do
  let chunk ← stream.read 65536
  if chunk.isEmpty then return before else readToEnd stream (before ++ chunk)

/-- Why the system could not read a file. -/
def faultOf : IO.Error → SourceFault
  | .noFileOrDirectory _ _ _ => .missing
  | .inappropriateType _ 21 _ => .directory
  | .inappropriateType _ code details =>
      .other (details ++ " (os error " ++ toString code ++ ")")
  | .permissionDenied _ code details =>
      .other (details ++ " (os error " ++ toString code ++ ")")
  | error => .other (toString error)

/-- The content of a source. -/
def contentOf : Source → IO Content
  | .standardInput => do
      return .ok (← readToEnd (← IO.getStdin) .empty)
  | .file path => do
      match ← (IO.FS.readBinFile path).toBaseIO with
      | .ok bytes => return .ok bytes
      | .error error => return .error (faultOf error)

/-- Runs the program; its result is the exit status. -/
def main (arguments : List String) : IO UInt32 := do
  match Request.ofArguments? arguments with
  | none =>
      (← IO.getStderr).putStr ("error: wrong usage\n\n" ++ usage)
      return 2
  | some request =>
      let content ← match request.source? with
        | some source => contentOf source
        | none => pure (.ok .empty)
      let report := request.run content
      (← IO.getStdout).putStr report.output
      (← IO.getStderr).putStr report.errors
      return report.status.toUInt32
