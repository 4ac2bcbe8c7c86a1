import Diorama.Playback.Config
import Diorama.Playback.Key
import Diorama.Playback.Player
import Diorama.Terminal.Screen

-- A theater: a session that plays in a terminal. A menu stands above the picture and a status line
-- below it. Whatever happens comes as an event, and after each one the screen is up to date.

namespace Diorama

structure TerminalSize where
  columns : Nat
  rows : Nat
deriving DecidableEq, Inhabited

inductive TheaterEvent where
  | press (key : Key)
  | resize (size : TerminalSize)
  -- the time for a frame, so many seconds after the last one
  | tick (elapsed : Float32)
  -- anything else that a terminal may report, such as the release of a key
  | other

structure Theater where
  player : Player
  screen : Screen
  bindings : KeyBindings
  size : TerminalSize
  isOpen : Bool := true

namespace Theater

def menuRows : Nat := 1

def statusRows : Nat := 1

def smallestSize : TerminalSize := ⟨20, menuRows + 6⟩

def isRoomy (size : TerminalSize) : Bool :=
  smallestSize.columns ≤ size.columns && smallestSize.rows ≤ size.rows

-- The picture between menu and status line.
def screenFor (size : TerminalSize) (config : PlayerConfig) : Screen :=
  .ofSize size.columns (size.rows - menuRows - statusRows) menuRows config.unitsPerCell

def ofSession (session : Session) (screen : Screen) (config : PlayerConfig) (size : TerminalSize) :
    Theater :=
  { player := .ofSession session config.clockMode, screen, bindings := config.bindings, size }

def menuItems (b : KeyBindings) : List String :=
  ["[" ++ b.togglePause ++ "] play/pause", "[" ++ b.restart ++ "] restart",
    "[" ++ b.quit ++ "][Esc] quit"]

def stateName : PlaybackState → String
  | .playing => "PLAYING"
  | .paused => "PAUSED"
  | .stopped => "STOPPED"

-- What the status line says: the scene, the state, and how far it has come.
def status (p : Player) : String :=
  " " ++ p.session.definition.scene.getD "scene" ++ " | " ++ stateName p.state ++ " | " ++
    padLeft 6 (fixed 2 p.time) ++ "s / " ++ fixed 2 p.session.duration ++ "s" ++
    (if p.session.looping then " (loop)" else "") ++ " "

def statusRow (house : Theater) : Nat := house.screen.originRow + house.screen.height

def draw (drawings : List Drawing) (house : Theater) : Theater :=
  { house with screen := house.screen.write drawings }

def drawMenu (house : Theater) : Theater := house.draw [.menuBar (menuItems house.bindings)]

-- A terminal that has become too small has no status line.
def drawStatus (house : Theater) : Theater :=
  if house.statusRow < house.size.rows then
    house.draw [.statusLine house.statusRow (status house.player)]
  else house

-- The picture at a time. A screen does what it is told, so that nothing can go wrong.
def seek (t : Float32) (house : Theater) : Theater :=
  let (_, player, screen) := house.player.seek t house.screen
  { house with player, screen }

def play (house : Theater) : Theater := { house with player := house.player.play }

def restart (house : Theater) : Theater :=
  ({ house with player := house.player.stop }.seek 0).play

def start (house : Theater) : Theater :=
  ((house.draw [.enter]).drawMenu.seek 0).play.drawStatus

-- Escape always ends the show, whatever the bindings are.
def isQuit (b : KeyBindings) (key : Key) : Bool :=
  Binding.isMatch b.quit key || key.code == .esc

-- What a key does that does not end the show. Pausing goes before restarting where both have the
-- same key.
def act (key : Key) (house : Theater) : Theater :=
  if Binding.isMatch house.bindings.togglePause key then
    { house with player := house.player.toggle }
  else if Binding.isMatch house.bindings.restart key then house.restart
  else house

def tick (elapsed : Float32) (house : Theater) : Theater :=
  if house.player.frameRequested then
    let (_, player, screen) := (house.player.measure elapsed).frame house.screen
    { house with player, screen }.drawStatus
  else house

-- The terminal has lost its contents; everything is drawn once more.
def redraw (house : Theater) : Theater :=
  let house := house.draw [.clear]
  let house := { house with screen := house.screen.invalidate }.drawMenu
  (house.seek house.player.time).drawStatus

def step (event : TheaterEvent) (house : Theater) : Theater :=
  match event with
  | .press key =>
    if isQuit house.bindings key then { house with isOpen := false } else (house.act key).drawStatus
  | .resize size => { house with size }.redraw
  | .tick elapsed => house.tick elapsed
  | .other => house

def run : List TheaterEvent → Theater → Theater
  | [], house => house
  | event :: rest, house => if house.isOpen then run rest (house.step event) else house

def takeOutput (house : Theater) : String × Theater :=
  let (text, screen) := house.screen.takeOutput
  (text, { house with screen })

-- Gives the terminal back and takes the scene down.
def close (house : Theater) : Theater :=
  let house := house.draw [.leave]
  { house with screen := (house.player.session.teardown house.screen).2 }

end Theater

end Diorama
