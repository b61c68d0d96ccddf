import Mathlib

/-!
# Geometry/Rect — rectangles, float rectangles and transform bits

The geometry `BufferLayer.cpp` reads off `ui/Rect.h`, `ui/FloatRect.h` and the
`NATIVE_WINDOW_*` constants.  A `Rect` holds its `int32_t` edges as integers; the one
constructor the file uses to build a rectangle from an unsigned size, `Rect(w, h)`, has to
fit a `uint32_t` into an `int32_t` and clamps at `INT32_MAX`.  A `FloatRect` keeps each edge as
the integer the code converts to `float`: every `FloatRect` this file builds converts one integer
per edge, and equal integers convert to equal `float`s.  Above `2^24` the conversion rounds; the
model keeps the integer (the rounding itself is in Geometry/Float32).
-/

namespace SurfaceFlinger

/-! ## Rectangles -/

/-- **`Rect`**: left, top, right and bottom edges. -/
structure Rect where
  left : Int
  top : Int
  right : Int
  bottom : Int
deriving DecidableEq, Repr

namespace Rect

/-- `Rect::INVALID_RECT`, the rectangle `[0, 0, -1, -1]`. -/
def INVALID_RECT : Rect := ⟨0, 0, -1, -1⟩

/-- `INT32_MAX`. -/
def INT32_MAX : Nat := 2 ^ 31 - 1

/-- One dimension of `Rect(w, h)` for a `uint32_t` size: clamped to `INT32_MAX`, then stored as
an `int32_t`. -/
def ofSizeCoord (w : UInt32) : Int := if w.toNat > INT32_MAX then INT32_MAX else w.toNat

/-- **`Rect(w, h)`** for an unsigned size: the rectangle `[0, 0, w, h]`. -/
def ofSize (w h : UInt32) : Rect := ⟨0, 0, ofSizeCoord w, ofSizeCoord h⟩

def getWidth (r : Rect) : Int := r.right - r.left

def getHeight (r : Rect) : Int := r.bottom - r.top

/-- `Rect::isValid`: width and height are not negative. -/
def isValid (r : Rect) : Bool := 0 ≤ r.getWidth && 0 ≤ r.getHeight

/-- `Rect::isEmpty`: width or height is not positive. -/
def isEmpty (r : Rect) : Bool := r.getWidth ≤ 0 || r.getHeight ≤ 0

/-- A size below `2^31` survives `Rect(w, h)` unchanged. -/
theorem ofSizeCoord_of_lt {w : UInt32} (h : w.toNat < 2 ^ 31) : ofSizeCoord w = w.toNat := by
  simp only [ofSizeCoord, INT32_MAX]
  split_ifs <;> omega

/-- …and a larger one is clamped, so it never survives. -/
theorem ofSizeCoord_lt (w : UInt32) : ofSizeCoord w < 2 ^ 31 := by
  simp only [ofSizeCoord, INT32_MAX]
  split_ifs <;> omega

@[simp] theorem getWidth_ofSize (w h : UInt32) : (ofSize w h).getWidth = ofSizeCoord w := by
  simp [ofSize, getWidth]

@[simp] theorem getHeight_ofSize (w h : UInt32) : (ofSize w h).getHeight = ofSizeCoord h := by
  simp [ofSize, getHeight]

theorem ofSizeCoord_nonneg (w : UInt32) : 0 ≤ ofSizeCoord w := by
  simp only [ofSizeCoord, INT32_MAX]
  split_ifs <;> omega

/-- Only a zero size gives a zero side: the clamp keeps every other size positive. -/
theorem ofSizeCoord_eq_zero (w : UInt32) : ofSizeCoord w = 0 ↔ w = 0 := by
  have hw : w = 0 ↔ w.toNat = 0 := ⟨fun h => h ▸ rfl, fun h => UInt32.eq_of_val_eq (Fin.ext h)⟩
  rw [hw]
  simp only [ofSizeCoord, INT32_MAX]
  split_ifs <;> omega

/-- A rectangle built from a size is valid. -/
theorem isValid_ofSize (w h : UInt32) : (ofSize w h).isValid = true := by
  simp [isValid, ofSizeCoord_nonneg]

/-- …so it is never `INVALID_RECT`. -/
theorem ofSize_ne_INVALID_RECT (w h : UInt32) : ofSize w h ≠ INVALID_RECT := fun he => by
  have := congrArg right he
  simp only [ofSize, INVALID_RECT] at this
  exact absurd (ofSizeCoord_nonneg w) (by omega)

end Rect

/-- **`FloatRect`**, each edge kept as the integer the code converts to `float`, which the `float`
rounds above `2^24`. -/
structure FloatRect where
  left : ℚ
  top : ℚ
  right : ℚ
  bottom : ℚ
deriving DecidableEq, Repr

/-! ## Transform and scaling-mode constants -/

/-- `NATIVE_WINDOW_TRANSFORM_FLIP_H`, `HAL_TRANSFORM_FLIP_H`. -/
def NATIVE_WINDOW_TRANSFORM_FLIP_H : UInt32 := 0x01

/-- `NATIVE_WINDOW_TRANSFORM_FLIP_V`. -/
def NATIVE_WINDOW_TRANSFORM_FLIP_V : UInt32 := 0x02

/-- `NATIVE_WINDOW_TRANSFORM_ROT_90`, which is also `ui::Transform::ROT_90`. -/
def NATIVE_WINDOW_TRANSFORM_ROT_90 : UInt32 := 0x04

/-- `transform & ROT_90`, read as a condition. -/
def hasRot90 (transform : UInt32) : Bool := transform &&& NATIVE_WINDOW_TRANSFORM_ROT_90 != 0

/-- `NATIVE_WINDOW_SCALING_MODE_FREEZE`: the buffer keeps its own size. -/
def NATIVE_WINDOW_SCALING_MODE_FREEZE : UInt32 := 0

/-- `NATIVE_WINDOW_SCALING_MODE_SCALE_TO_WINDOW`. -/
def NATIVE_WINDOW_SCALING_MODE_SCALE_TO_WINDOW : UInt32 := 1

end SurfaceFlinger
