/-
This file holds tiles and rectangles of them.
-/

namespace ScriptHost.Content

structure Tile where
  x : Int32
  y : Int32
  deriving DecidableEq, Repr

/-- Both corners belong to the region. -/
structure Region where
  min : Tile
  max : Tile
  deriving DecidableEq, Repr

def Region.contains (region : Region) (tile : Tile) : Bool :=
  region.min.x ≤ tile.x && region.min.y ≤ tile.y && tile.x ≤ region.max.x && tile.y ≤ region.max.y

end ScriptHost.Content
