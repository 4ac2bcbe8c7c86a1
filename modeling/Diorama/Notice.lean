import Diorama.Json.Fault
import Diorama.Animation.PropertyKey
import Diorama.Stage.Fault

-- What the library remarks on while it works. Content that makes no sense is never an error: it is
-- replaced by something sensible and remarked on.

namespace Diorama

inductive Level where
  | debug
  | info
  | warn
deriving DecidableEq

inductive Notice where
  -- reading a document
  | malformedNumber (value : Json)
  | malformedValue (value : Json) (fault : DocumentFault)
  | malformedProperty (value : Json) (key : PropertyKey)
  | unsupportedProperty (key : PropertyKey)
  | malformedKey (text : String)
  | unknownEasing (name : String)
  | unknownColor (text : String)
  | invalidDuration (duration fallback : Float32)
  -- setting up a session
  | duplicateActor (id : String)
  | unknownKind (kind id : String)
  | unknownFollow (id : String)
  | leftBehind (id : String) (fault : StageFault)
  | notReleased (fault : StageFault)
  | loaded (actors events annotations : Nat) (duration : Float32) (looping : Bool)
  -- running it
  | danglingKey (key : PropertyKey)
  | started (time : Float32)
  | paused (time : Float32)
  | ended
  -- configuration
  | invalidConfig (fault : DocumentFault)
  | invalidStep (step fallback : Float32)
  | largeStep (step limit : Float32)

namespace Notice

def level : Notice → Level
  | .danglingKey _ | .started _ | .paused _ | .ended => .debug
  | .loaded .. => .info
  | _ => .warn

def number (x : Float32) : String := Layout.message.writeSingle x

def looping (yes : Bool) : String := if yes then " (looping)" else ""

def text : Notice → String
  | .malformedNumber value => "Ignoring malformed number " ++ value.text ++ ", using the default"
  | .malformedValue value fault =>
    "Ignoring malformed value " ++ value.text ++ " (" ++ fault.message ++ "), using the default"
  | .malformedProperty value key =>
    "Ignoring malformed value " ++ value.text ++ " for '" ++ key.text ++ "'"
  | .unsupportedProperty key =>
    "Ignoring unsupported property '" ++ key.property ++ "' in key '" ++ key.text ++ "'"
  | .malformedKey key => "Ignoring malformed property key '" ++ key ++ "'"
  | .unknownEasing name => "Unknown easing '" ++ name ++ "', falling back to linear"
  | .unknownColor name => "Unrecognized color '" ++ name ++ "', using white"
  | .invalidDuration duration fallback =>
    "Invalid animation duration " ++ number duration ++ ", using " ++ number fallback ++ "s"
  | .duplicateActor id => "Duplicate actor id '" ++ id ++ "', skipping later definition"
  | .unknownKind kind id =>
    "Unknown actor type '" ++ kind ++ "' for actor '" ++ id ++ "', using an empty placeholder"
  | .unknownFollow id =>
    "Camera follows unknown actor '" ++ id ++ "', keeping a fixed target"
  | .leftBehind id fault => "Failed to destroy primitive for '" ++ id ++ "': " ++ fault.message
  | .notReleased fault => "Failed to release primitives after a load error: " ++ fault.message
  | .loaded actors events annotations duration loops =>
    "Loaded animation: " ++ toString actors ++ " actors, " ++ toString events ++
      " timeline events, " ++ toString annotations ++ " annotations, " ++ number duration ++ "s" ++
      looping loops
  | .danglingKey key => "Timeline key '" ++ key.text ++ "' names no actor"
  | .started time => "Playback started at " ++ fixed 3 time ++ "s"
  | .paused time => "Playback paused at " ++ fixed 3 time ++ "s"
  | .ended => "Reached the end of a non-looping animation"
  | .invalidConfig fault => "Invalid player config (" ++ fault.message ++ "), using defaults"
  | .invalidStep step fallback =>
    "Invalid frame_step " ++ number step ++ ", using " ++ number fallback
  | .largeStep step limit =>
    "frame_step " ++ number step ++ " is too large, using " ++ number limit

end Notice

end Diorama
