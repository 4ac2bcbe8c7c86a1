import Diorama.Number.Numeral
import Diorama.Playback.Theater

-- What the program can be asked for on its command line, and why it may refuse.

namespace Diorama

inductive Verb where
  | play
  | trace
  | check
deriving DecidableEq

namespace Verb

def all : List Verb := [.play, .trace, .check]

def name : Verb → String
  | .play => "play"
  | .trace => "trace"
  | .check => "check"

def usage (v : Verb) : String :=
  "scene-animator " ++ v.name ++ " <animation.json>" ++
    (if v = .trace then " [frames]" else "")

def ofName? (text : String) : Option Verb := all.find? (·.name == text)

end Verb

structure Command where
  verb : Verb
  path : String
  -- for a trace, how many frames it is to have
  count : Option String
deriving DecidableEq

inductive CommandFault where
  | noVerb
  | noPath (verb : Verb)
  | unreadable (path reason : String)
  | notLoaded (path : String) (fault : LoadFault)
  | badCount (text : String) (fault : Numeral.CountFault)
  | smallTerminal (size : TerminalSize)
  | terminal (reason : String)
  | stage (fault : StageFault)

namespace TerminalSize

def text (s : TerminalSize) : String := toString s.columns ++ "x" ++ toString s.rows

end TerminalSize

namespace CommandFault

-- A document that cannot be read names its fault twice: as what failed, and as its cause.
def causes : LoadFault → String
  | .document fault => (LoadFault.document fault).message ++ ": " ++ fault.message
  | .stage fault => (LoadFault.stage fault).message

def message : CommandFault → String
  | .noVerb =>
    "scene-animator: declarative 3-D animation interpreter\n\nUsage:" ++
      String.join (Verb.all.map fun v => "\n  " ++ v.usage)
  | .noPath verb => verb.usage
  | .unreadable path reason => "Failed to read " ++ path ++ ": " ++ reason
  | .notLoaded path fault => "Failed to load " ++ path ++ ": " ++ causes fault
  | .badCount text fault =>
    "Invalid frame count '" ++ text ++ "'\n\nUsage: " ++ Verb.trace.usage ++ ": " ++ fault.message
  | .smallTerminal size =>
    "Terminal too small: need at least " ++ Theater.smallestSize.text ++ ", have " ++ size.text
  | .terminal reason => "Terminal error: " ++ reason
  | .stage fault => fault.message

end CommandFault

-- The command that arguments spell. What comes after it does not matter.
def Command.ofArguments (arguments : List String) : Except CommandFault Command :=
  match arguments with
  | [] => .error .noVerb
  | name :: rest =>
    match Verb.ofName? name, rest with
    | none, _ => .error .noVerb
    | some verb, [] => .error (.noPath verb)
    | some verb, path :: rest => .ok ⟨verb, path, rest.head?⟩

end Diorama
