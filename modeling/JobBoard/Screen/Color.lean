/-!
The colours of a screen, and shades of them.
-/

namespace JobBoard

inductive Color where
  | plain
  | rgb (red green blue : UInt8)
  | indexed (n : UInt8)
  deriving DecidableEq

namespace Color

def share (x : Float32) : Float32 := if x < 0 then 0 else if 1 < x then 1 else x

def channel (x : Float32) : UInt8 := x.round.toUInt8

/-- Changes every channel; colours without channels stay as they are. -/
def mapChannels (f : Float32 → Float32) : Color → Color
  | rgb r g b => rgb (channel (f r.toFloat32)) (channel (f g.toFloat32)) (channel (f b.toFloat32))
  | c => c

def darken (factor : Float32) (c : Color) : Color := c.mapChannels (· * share factor)

/-- Moves every channel by a share of its distance from white. -/
def lighten (amount : Float32) (c : Color) : Color := c.mapChannels fun x => x + (255 - x) * share amount

end Color

end JobBoard
