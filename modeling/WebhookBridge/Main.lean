import WebhookBridge.Command.Line
import WebhookBridge.Server.Isolated

/-!
# The program

Reads the words of the command line, the variables and the files that they may name, and writes what the command comes
to. The host is taken to be without a network: connections fail, and only its own addresses can be bound.
-/

namespace WebhookBridge

/-- A peer that cannot be reached. -/
def unreachable : Peer := fun _ => .failed "ConnectError" "All connection attempts failed"

/-- The surroundings of a host without a network, at a moment. -/
def isolatedHost (now : Moment) : Surroundings := ⟨.isolated [] 40000, .http unreachable now⟩

/-- A text as a string; what is no character becomes the replacement character. -/
def Text.toString (t : Text) : String :=
  String.ofList (t.map fun c => if c.isSurrogate then Char.ofNat 0xFFFD else Char.ofNat c.val)

/-- What stands under a path. -/
def readEntry (path : String) : IO FileEntry := do
  if ← (System.mkFilePath [path]).isDir then return .directory
  try
    let content ← IO.FS.readBinFile path
    return .file (content.toList.map fun b => Octet.ofNat b.toNat)
  catch _ => return .missing

/-- The variables that are set among those of the settings. -/
def readVariables : IO (Table Text) := do
  let mut found : Table Text := []
  for setting in Setting.all do
    if let some value ← IO.getEnv (Text.toString setting.variable) then
      found := found ++ [(setting.variable, Text.ofString value)]
  return found

/-- The world as it is seen from the words of a command line. -/
def readWorld (words : List String) : IO World := do
  let entries ← words.mapM fun word => return (Text.ofString word, ← readEntry word)
  return {
    environment := ← readVariables
    file := fun path => ((entries.find? fun (name, _) => name = path).map (·.2)).getD .missing
    surroundings := isolatedHost ⟨0, 1970⟩
    catalogue := .installed
    make := makeInstalled }

/-- A log event as a line. -/
def LogEvent.line (e : LogEvent) : Text :=
  ("service-webman: " : Text) ++ e.level.name ++ " " ++ e.source.name ++ ": " ++ e.message

/-- What is said of something that escapes from a command. -/
def Escape.message : Escape → Text
  | .defect d => d.message
  | .undecodable fault => fault.message
  | .loading fault => fault.message
  | .factory d => d.message
  | .route e => e.message
  | .service fault => fault.message

/-- The command line on its words, with everything that it comes to written out. -/
def runMain (words : List String) : IO UInt32 := do
  let report := runLine (← readWorld words) (words.map Text.ofString)
  for e in report.log do IO.eprintln (Text.toString e.line)
  for line in report.errors do IO.eprintln (Text.toString line)
  if let some e := report.escaped then IO.eprintln (Text.toString e.message)
  IO.print (Text.toString report.output)
  return UInt32.ofNat (report.exitCode.getD 0)

end WebhookBridge

/-- The program. -/
def main (words : List String) : IO UInt32 := WebhookBridge.runMain words
