/-!
# Bit slices

One draw feeds several small fields: each field reads its own slice of the 64 bits.

* `bitsAt word offset width`  the `width` bits that start at bit `offset`;
* `bits word index width`     the slice number `index` when the word is cut into equal widths;
* `scale slice width lo hi`   the slice as a float of `[lo, hi]`.

A slice is meant to have a width from 1 to 32 and to end within the word.
-/

namespace Telemetry.Random

/-- the low `width` bits set -/
def mask (width : UInt32) : UInt64 := (1 <<< width.toUInt64) - 1

/-- the `width` bits of `word` from bit `offset` on -/
def bitsAt (word : UInt64) (offset width : UInt32) : UInt32 :=
  ((word >>> offset.toUInt64) &&& mask width).toUInt32

/-- the slice number `index` of `word`, every slice `width` bits wide -/
def bits (word : UInt64) (index width : UInt32) : UInt32 := bitsAt word (index * width) width

/-- the slice on a line from `lo` (no bit set) to `hi` (all `width` bits set) -/
def scale (slice width : UInt32) (lo hi : Float) : Float :=
  lo + (hi - lo) * (slice.toFloat / (mask width).toFloat)

end Telemetry.Random
