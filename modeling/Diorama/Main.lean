import Diorama.Command.Execution

-- The program: reads the document and the configuration, carries the command out and writes what
-- comes of it. A show takes its keys from the standard input, a piece at a time, so that nothing is
-- being read any more when it is over.

namespace Diorama.Host

-- The words of the system for a fault, with its number.
def reason : IO.Error → String
  | .noFileOrDirectory _ code details => numbered details code
  | .permissionDenied _ code details => numbered details code
  | .inappropriateType _ code details => numbered details code
  | .invalidArgument _ code details => numbered details code
  | e => toString e
where
  -- some calls give the number with its sign turned
  numbered (details : String) (code : UInt32) : String :=
    let number := if 0x80000000 ≤ code then 0 - code else code
    details.capitalize ++ " (os error " ++ toString number ++ ")"

def readDocument (path : String) : IO (Except String String) := do
  try
    let bytes ← IO.FS.readBinFile path
    match String.fromUTF8? bytes with
    | some text => return .ok text
    | none => return .error "stream did not contain valid UTF-8"
  catch e => return .error (reason e)

def readConfig : IO (Option String) := do
  let home := (← IO.getEnv "HOME").getD "."
  return (← readDocument (home ++ "/.config/scene-animator/player.json")).toOption

def sizeVariable (name : String) (usual : Nat) : IO Nat := do
  let text ← IO.getEnv name
  return (text.bind fun t => (Numeral.count 65536 t).toOption).getD usual

def terminalSize : IO TerminalSize :=
  return ⟨← sizeVariable "COLUMNS" 80, ← sizeVariable "LINES" 24⟩

def passOn (house : Theater) : IO Theater := do
  let (text, house) := house.takeOutput
  let out ← IO.getStdout
  out.putStr text
  out.flush
  return house

def readKeys : IO (List TheaterEvent) := do
  let bytes ← (← IO.getStdin).read 1024
  if bytes.isEmpty then return [.press { code := .esc }]
  return (Key.decode ((String.fromUTF8? bytes).getD "")).map .press

-- The events of a show until it ends. Frames are due at regular times; keys go before them.
partial def present (step due last : Nat) (keys : Task (Except IO.Error (List TheaterEvent)))
    (house : Theater) : IO Theater := do
  let house ← passOn house
  if !house.isOpen then return house
  if ← IO.hasFinished keys then
    let house := Theater.run ((keys.get.toOption).getD [.press { code := .esc }]) house
    if !house.isOpen then return house
    present step due last (← IO.asTask readKeys) house
  else
    let now ← IO.monoMsNow
    if now < due then
      IO.sleep (UInt32.ofNat (min 5 (due - now)))
      present step due last keys house
    else
      let elapsed := Float32.ofNat (now - last) / 1000
      present step (due + step) now keys (house.step (.tick elapsed))

def perform (house : Theater) (frameStep : Float32) : IO UInt32 := do
  let step := (Scalar.toInt .up 1 1000 (frameStep * 1000)).toNat
  let house ← passOn house.start
  let now ← IO.monoMsNow
  let house ← present step (now + step) now (← IO.asTask readKeys) house
  let _ ← passOn house.close
  return 0

def run (arguments : List String) : IO UInt32 := do
  let refuse (fault : CommandFault) : IO UInt32 := do
    (← IO.getStderr).putStrLn ("Error: " ++ fault.message)
    return 1
  match Command.ofArguments arguments with
  | .error fault => refuse fault
  | .ok command =>
    let document ← readDocument command.path
    let config ← readConfig
    let out ← IO.getStdout
    match command.execute document config (← terminalSize) with
    | .finished lines remark =>
      for line in lines do out.putStrLn line
      if let some text := remark then (← IO.getStderr).putStrLn text
      return 0
    | .failed lines fault =>
      for line in lines do out.putStrLn line
      refuse fault
    | .overflowed =>
      (← IO.getStderr).putStrLn Command.overflowMessage
      return 101
    | .playing house => perform house (Command.config config).frameStep

end Diorama.Host

def main (arguments : List String) : IO UInt32 := Diorama.Host.run arguments
