import Diorama.Command.Arguments
import Diorama.Command.Check
import Diorama.Command.Trace
import Diorama.Report

-- Carrying out a command. All that it needs from outside is given: the text of its document, the
-- configuration if there is one, and the size of the terminal.

namespace Diorama

inductive Execution where
  -- lines that were written, and a remark at the end
  | finished (lines : List String) (remark : Option String)
  -- lines that were written before something failed
  | failed (lines : List String) (fault : CommandFault)
  -- a count went over what a word holds: the program stops where it is
  | overflowed
  -- a show that is ready to start
  | playing (theater : Theater)

namespace Command

def config (text : Option String) : PlayerConfig :=
  match text with
  | some text => (PlayerConfig.ofText text).2
  | none => {}

def loadOn {σ : Type} [Stage σ] (path text : String) (s : σ) : Except CommandFault (Session × σ) :=
  match Session.ofText text s with
  | (_, .ok e, s) => .ok (e, s)
  | (_, .error fault, _) => .error (.notLoaded path fault)

def check (path text : String) : Execution :=
  match loadOn path text Recorder.fresh with
  | .error fault => .failed [] fault
  | .ok (e, _) => .finished (Check.lines e) none

-- What is said of a count that went over.
def overflowMessage : String := "attempt to add with overflow"

-- How many frames are asked for. Without a number it is as many as the animation has, if those can
-- be counted.
def frameCount (given : Option String) (duration step : Float32) :
    Except CommandFault (Option Nat) :=
  match given with
  | none => .ok (Trace.defaultCount? duration step)
  | some text =>
    match Numeral.count (Nat.pow 2 64) text with
    | .ok n => .ok (some n)
    | .error fault => .error (.badCount text fault)

def traceRemark (path : String) (t : Trace Recorder) : String :=
  "Traced " ++ toString t.snapshots.size ++ " frames (" ++ toString t.stage.framesRendered ++
    " rendered) from " ++ path

def trace (path text : String) (c : PlayerConfig) (given : Option String) : Execution :=
  match loadOn path text Recorder.fresh with
  | .error fault => .failed [] fault
  | .ok (e, s) =>
    match frameCount given e.duration c.frameStep with
    | .error fault => .failed [] fault
    | .ok none => .overflowed
    | .ok (some count) =>
      let t := Trace.ofSession count c.frameStep e s
      let lines := t.snapshots.toList.map fun shown => shown.sheet.text
      match t.result with
      | .error fault => .failed lines (.stage fault)
      | .ok () => .finished lines (some (traceRemark path t))

def play (path text : String) (c : PlayerConfig) (size : TerminalSize) : Execution :=
  if Theater.isRoomy size then
    match loadOn path text (Theater.screenFor size c) with
    | .error fault => .failed [] fault
    | .ok (e, screen) => .playing (.ofSession e screen c size)
  else .failed [] (.smallTerminal size)

-- Carries a command out on a document, or says why there is no document.
def execute (command : Command) (document : Except String String) (configText : Option String)
    (size : TerminalSize) : Execution :=
  match document with
  | .error reason => .failed [] (.unreadable command.path reason)
  | .ok text =>
    match command.verb with
    | .check => check command.path text
    | .trace => trace command.path text (config configText) command.count
    | .play => play command.path text (config configText) size

end Command

end Diorama
