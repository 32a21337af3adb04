import RecordBridge.Command.Run
import RecordBridge.Site.Installed

namespace RecordBridge.Command.Process

def known : List String :=
  [Config.libraryVariable, Config.logVariable, LogFilter.overrideVariable]

def setting (name : String) : IO (List (String × Bytes)) := do
  match ← IO.getEnv name with
  | some value => return [(name, Utf8.encode value)]
  | none => return []

def surroundings : IO Environment := do
  let settings ← known.mapM setting
  return settings.flatten

def directory : IO Bytes := do
  let named ← IO.getEnv "PWD"
  return Utf8.encode (named.getD "/")

partial def readAll (input : IO.FS.Stream) (read : ByteArray) : IO ByteArray := do
  let more ← input.read 65536
  if more.isEmpty then return read else readAll input (read ++ more)

def tell (report : Report) : IO Unit := do
  let output ← IO.getStdout
  output.write ⟨report.output.toArray⟩
  output.flush
  report.log.forM fun line => IO.eprintln line
  match report.error with
  | some message => IO.eprintln ("streampy: " ++ message)
  | none => return ()

end RecordBridge.Command.Process

def main (line : List String) : IO UInt32 := do
  let site := RecordBridge.Site.installed (← RecordBridge.Command.Process.directory)
  let environment ← RecordBridge.Command.Process.surroundings
  let input ← RecordBridge.Command.Process.readAll (← IO.getStdin) .empty
  let report := RecordBridge.Command.Run.invoke site environment line input.toList
  RecordBridge.Command.Process.tell report
  return report.status.toUInt32
