import Telemetry.Generator.Walk
import Telemetry.Overrides
import Telemetry.Point.Basic
import Telemetry.Random.Attribute

/-!
# File systems

A disk of fixed size.  The free bytes and the free index nodes walk between zero and the total, and
the used ones are what is left.
-/

namespace Telemetry.Generator

open Telemetry.Random

/-- a file system -/
structure Disk where
  path : String
  fstype : String
  total : UInt64
  inodesTotal : UInt64
  free : IntWalk
  inodesFree : IntWalk

namespace Disk

def name : String := "disk"

def tagKeys : List String := ["path", "fstype"]

def fieldKeys : List String :=
  ["total", "free", "used", "used_percent", "inodes_total", "inodes_free", "inodes_used"]

/-- bytes in a gibibyte -/
def gib : UInt64 := 1073741824

/-- bytes per index node -/
def bytesPerInode : UInt64 := 16384

/-- a disk of a listed size, filled to some degree -/
def new (o : Overrides) : Choice Disk := do
  let size ← choose (256 : UInt64) [512, 1024, 2048]
  let total := size * gib
  let inodes := total / bytesPerInode
  let free ← within 0 total.toNat
  let inodesFree ← within 0 inodes.toNat
  return {
    path := o.getD name "path" "/"
    fstype := o.getD name "fstype" "ext4"
    total := total
    inodesTotal := inodes
    free := IntWalk.start free.toUInt64 0 total gib UInt64.zero_le
    inodesFree :=
      IntWalk.start inodesFree.toUInt64 0 inodes (inodes / 1000) UInt64.zero_le }

/-- one row, added to a point -/
def emit (g : Disk) (p : Point) : Draw (Bool × Point × Disk) := do
  let p := p.setMeasurement name
  let p := p.appendTag tagKeys[0]! g.path
  let p := p.appendTag tagKeys[1]! g.fstype
  let (free, freeWalk) ← g.free.advance
  let used := g.total - free
  let (inodesFree, inodesWalk) ← g.inodesFree.advance
  let p := p.appendField fieldKeys[0]! (.unsigned g.total)
  let p := p.appendField fieldKeys[1]! (.unsigned free)
  let p := p.appendField fieldKeys[2]! (.unsigned used)
  let p := p.appendField fieldKeys[3]! (.float (used.toFloat * 100.0 / g.total.toFloat))
  let p := p.appendField fieldKeys[4]! (.unsigned g.inodesTotal)
  let p := p.appendField fieldKeys[5]! (.unsigned inodesFree)
  let p := p.appendField fieldKeys[6]! (.unsigned (g.inodesTotal - inodesFree))
  return (true, p, { g with free := freeWalk, inodesFree := inodesWalk })

end Disk

end Telemetry.Generator
