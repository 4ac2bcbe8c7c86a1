import Diorama.Stage.Primitive

-- Why a stage did not do what it was asked for.

namespace Diorama

inductive Request where
  | createPrimitive
  | setTransform
  | renderFrame
  | destroyPrimitive
  | setCamera
  | createOverlay
  | updateOverlay
deriving DecidableEq, Inhabited

def Request.name : Request → String
  | .createPrimitive => "create_primitive"
  | .setTransform => "set_transform"
  | .renderFrame => "render_frame"
  | .destroyPrimitive => "destroy_primitive"
  | .setCamera => "set_camera"
  | .createOverlay => "create_annotation"
  | .updateOverlay => "update_annotation"

inductive StageFault where
  | noRenderTarget
  | noOverlays
  | refused (request : Request)
  | unknownPrimitive (handle : Handle)
deriving DecidableEq, Inhabited

def StageFault.message : StageFault → String
  | .noRenderTarget => "Render adapter error: no render target available"
  | .noOverlays => "Render adapter error: overlays are not supported"
  | .refused request => "Render adapter error: " ++ request.name ++ " refused"
  | .unknownPrimitive handle => "Unknown primitive handle: " ++ toString handle.number

end Diorama
