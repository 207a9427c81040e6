import Stencil.Frame.Path
import Stencil.Value.Basic

/-!
# Stencil.Frame.Basic — chains of data frames

Templates see data through a frame. Frames form a chain: a block puts a frame in front
of the one it runs in, and `~` and leading dots reach outwards along the chain. Frames
never change.

A key applied to a sequence is applied to each item: items that are sequences themselves
are flattened one level, items that stand for nothing are left out, and when nothing is
left the result is `null`.
-/

namespace Stencil

/-- A frame, with the frame around it if there is one. The name is that of the template whose
directives see the frame. -/
inductive Frame where
  | mk (data : Value) (name : Option String) (parent : Option Frame)

namespace Frame

/-- The data of the frame. -/
def data : Frame → Value
  | mk data _ _ => data

/-- The name of the template that the frame belongs to. -/
def name : Frame → Option String
  | mk _ name _ => name

/-- The frame around this one. -/
def parent : Frame → Option Frame
  | mk _ _ parent => parent

/-- An outermost frame. -/
def ofData (data : Value) : Frame := mk data none none

/-- How many frames are around this one. -/
def depth : Frame → Nat
  | mk _ _ none => 0
  | mk _ _ (some parent) => parent.depth + 1

/-- The outermost frame of the chain. -/
def outermost : Frame → Frame
  | mk _ _ (some parent) => parent.outermost
  | frame => frame

/-- The frame around this one, or this one if it is the outermost. -/
def pop (frame : Frame) : Frame := frame.parent.getD frame

/-- The frame `n` steps outwards, as far as there are any. -/
def up (frame : Frame) : Nat → Frame
  | 0 => frame
  | n + 1 => frame.pop.up n

/-- A frame with this data inside this one, for the same template. -/
def push (frame : Frame) (data : Value) : Frame := mk data frame.name (some frame)

/-- A frame with the same data inside this one, for the template `name`. -/
def named (frame : Frame) (name : String) : Frame := mk frame.data (some name) (some frame)

/-- The frame, made at this place: data that was made on the way is known by it. -/
def hold (site : Site) : Frame → Frame
  | mk data name parent => mk (data.heldAt site) name parent

end Frame

/-! ## Following paths -/

namespace Value

/-- What a key finds in an item of a sequence. -/
def contribution (key : String) (item : Value) : List Value :=
  match item.property key with
  | undefined | null => []
  | array _ nested => nested
  | v => [v]

/-- What a key finds in a sequence. -/
def fanOut (key : String) (items : List Value) : Value :=
  match items.flatMap (contribution key) with
  | [] => null
  | found => array .fresh found

/-- What a list of keys finds in a value. -/
def follow : List String → Value → Value
  | [], v => v
  | key :: keys, v =>
    match v with
    | array _ items => follow keys (fanOut key items)
    | undefined | null => undefined
    | v => follow keys (v.property key)

end Value

namespace Frame

/-- The frame at which a path starts. -/
def start (frame : Frame) : Anchor → Frame
  | .outermost => frame.outermost
  | .up hops => frame.up hops

/-- The value at the end of a path. -/
def lookup (frame : Frame) (path : String) : Value :=
  let p := Path.ofString path
  (frame.start p.anchor).data.follow p.keys

/-- A frame with the value at the end of a path, inside the frame where the path starts. -/
def get (frame : Frame) (path : String) : Frame :=
  (frame.start (Path.ofString path).anchor).push (frame.lookup path)

/-- The frame that a directive with this context sees; one that is new is made at `site`. -/
def reroot (frame : Frame) (site : Site) : Option String → Frame
  | none => frame
  | some path => (frame.get path).hold site

end Frame

end Stencil
