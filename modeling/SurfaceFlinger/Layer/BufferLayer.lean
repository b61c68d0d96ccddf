import SurfaceFlinger.Geometry.Rect
import SurfaceFlinger.Ledger.SyncPoints

/-!
# Layer/BufferLayer — the state of a buffer layer and the getters that read it

`BufferLayer` keeps the fields of `BufferLayer.cpp` that its latch, composition and geometry code
read or write: the latched `mBufferInfo`, the sideband stream, the drawing state, the scaling-mode
override, the frame counters, `mRefreshPending` and the ledger `mLocalSyncPoints`.

The getters are written as the file writes them.  `getBufferSize` and `computeSourceBounds` are
two copies of one size derivation; `getBufferSize_eq` and `computeSourceBounds_eq` rewrite both onto
`sourceSize`, the pair they compute before building their rectangles.
-/

namespace SurfaceFlinger

/-- A `native_handle_t` of a sideband stream. -/
abbrev NativeHandle := Nat

/-- **`GraphicBuffer`**, as far as this file reads it: `getWidth()`, `getHeight()`,
`getUsage()`. -/
structure GraphicBuffer where
  width : UInt32
  height : UInt32
  usage : UInt64
deriving DecidableEq, Repr

/-- `GRALLOC_USAGE_PROTECTED`. -/
def GRALLOC_USAGE_PROTECTED : UInt64 := 0x00004000

/-- `GraphicBuffer::getBounds()`, the rectangle `Rect(width, height)`. -/
def GraphicBuffer.getBounds (b : GraphicBuffer) : Rect := Rect.ofSize b.width b.height

/-- **`BufferInfo`**: what the layer latched last. -/
structure BufferInfo where
  mBuffer : Option GraphicBuffer
  mCrop : Rect
  mTransform : UInt32
  mScaleMode : UInt32
  mTransformToDisplayInverse : Bool
  mFrameLatencyNeeded : Bool
  mPixelFormat : Int
  mDesiredPresentTime : Int
deriving DecidableEq, Repr

/-- **`Layer::State`**, the fields this file reads: the flags, the sideband stream, and the size
`getActiveWidth(s)` and `getActiveHeight(s)` answer for it. -/
structure LayerState where
  flags : Nat
  sidebandStream : Option NativeHandle
  activeWidth : UInt32
  activeHeight : UInt32
deriving DecidableEq, Repr

/-- `layer_state_t::eLayerOpaque`. -/
def eLayerOpaque : Nat := 0x02

/-- What `onPostComposition` reports to `mFrameTracker` and `TimeStats` for one frame. -/
structure FrameRecord where
  frameNumber : Nat
  desiredPresentTime : Int
deriving DecidableEq, Repr

/-- **A `BufferLayer`**: its own fields, and the `Layer` fields its code reads.  `mFrameTracker`
lists the frames `onPostComposition` reported, oldest first. -/
structure BufferLayer where
  mBufferInfo : BufferInfo
  mSidebandStream : Option NativeHandle
  mDrawingState : LayerState
  mOverrideScalingMode : Int
  mCurrentFrameNumber : Nat
  mRefreshPending : Bool
  mLocalSyncPoints : List SyncPoint
  mNeedsFiltering : Bool
  mFrameTracker : List FrameRecord
deriving DecidableEq, Repr

namespace BufferLayer

variable (l : BufferLayer)

/-- A 16×16 layer that has latched nothing yet, waiting on the given sync points. -/
def idleLayer (points : List SyncPoint) : BufferLayer where
  mBufferInfo := ⟨none, ⟨0, 0, 0, 0⟩, 0, 0, false, false, 1, 0⟩
  mSidebandStream := none
  mDrawingState := ⟨0, none, 16, 16⟩
  mOverrideScalingMode := -1
  mCurrentFrameNumber := 0
  mRefreshPending := false
  mLocalSyncPoints := points
  mNeedsFiltering := false
  mFrameTracker := []

/-! ## Opacity -/

/-- `HAL_PIXEL_FORMAT_RGBA_8888`. -/
def HAL_PIXEL_FORMAT_RGBA_8888 : UInt32 := 1

/-- `HAL_PIXEL_FORMAT_BGRA_8888`. -/
def HAL_PIXEL_FORMAT_BGRA_8888 : UInt32 := 5

/-- `HAL_PIXEL_FORMAT_RGBA_FP16`. -/
def HAL_PIXEL_FORMAT_RGBA_FP16 : UInt32 := 0x16

/-- `HAL_PIXEL_FORMAT_RGBA_1010102`. -/
def HAL_PIXEL_FORMAT_RGBA_1010102 : UInt32 := 0x2B

/-- **`getOpacityForFormat`**: device formats `0x100`–`0x1FF` have no alpha; of the others only the
four listed formats blend. -/
def getOpacityForFormat (format : UInt32) : Bool :=
  if 0x100 ≤ format && format ≤ 0x1FF then true
  else !(format == HAL_PIXEL_FORMAT_RGBA_8888 || format == HAL_PIXEL_FORMAT_BGRA_8888 ||
    format == HAL_PIXEL_FORMAT_RGBA_FP16 || format == HAL_PIXEL_FORMAT_RGBA_1010102)

/-- `getPixelFormat()`, passed on as the `uint32_t` `getOpacityForFormat` takes. -/
def getPixelFormat : UInt32 := UInt32.ofNat (l.mBufferInfo.mPixelFormat % 4294967296).toNat

/-- **`isOpaque(s)`**: translucent without a buffer or sideband stream; otherwise the opaque flag or
the buffer's format decides. -/
def isOpaque (s : LayerState) : Bool :=
  if l.mSidebandStream.isNone && l.mBufferInfo.mBuffer.isNone then false
  else s.flags &&& eLayerOpaque != 0 || getOpacityForFormat l.getPixelFormat

/-! ## Geometry getters -/

/-- **`getEffectiveScalingMode`**: the override when it is set, the buffer's mode otherwise. -/
def getEffectiveScalingMode : UInt32 :=
  if l.mOverrideScalingMode ≥ 0 then UInt32.ofNat l.mOverrideScalingMode.toNat
  else l.mBufferInfo.mScaleMode

def isFixedSize : Bool := l.getEffectiveScalingMode != NATIVE_WINDOW_SCALING_MODE_FREEZE

def getBufferTransform : UInt32 := l.mBufferInfo.mTransform

def getTransformToDisplayInverse : Bool := l.mBufferInfo.mTransformToDisplayInverse

def isProtected : Bool :=
  match l.mBufferInfo.mBuffer with
  | some b => b.usage &&& GRALLOC_USAGE_PROTECTED != 0
  | none => false

/-- **`getBufferCrop`**: the buffer crop when it is not empty, else the whole buffer, else `Rect()`,
which is `INVALID_RECT`. -/
def getBufferCrop : Rect :=
  if !l.mBufferInfo.mCrop.isEmpty then l.mBufferInfo.mCrop
  else match l.mBufferInfo.mBuffer with
    | some b => b.getBounds
    | none => Rect.INVALID_RECT

/-- **`getBufferSize(s)`**, where `orientation` is
`DisplayDevice::getPrimaryDisplayOrientationTransform()`. -/
def getBufferSize (orientation : UInt32) (s : LayerState) : Rect :=
  if s.sidebandStream.isSome || l.getEffectiveScalingMode != NATIVE_WINDOW_SCALING_MODE_FREEZE then
    Rect.ofSize s.activeWidth s.activeHeight
  else match l.mBufferInfo.mBuffer with
    | none => Rect.INVALID_RECT
    | some b =>
      let (bufWidth, bufHeight) :=
        if hasRot90 l.mBufferInfo.mTransform then (b.height, b.width) else (b.width, b.height)
      let (bufWidth, bufHeight) :=
        if l.getTransformToDisplayInverse && hasRot90 orientation then (bufHeight, bufWidth)
        else (bufWidth, bufHeight)
      Rect.ofSize bufWidth bufHeight

/-- **`computeSourceBounds(parentBounds)`**, on the drawing state. -/
def computeSourceBounds (orientation : UInt32) (parentBounds : FloatRect) : FloatRect :=
  let s := l.mDrawingState
  if s.sidebandStream.isSome || l.getEffectiveScalingMode != NATIVE_WINDOW_SCALING_MODE_FREEZE then
    ⟨0, 0, s.activeWidth.toNat, s.activeHeight.toNat⟩
  else match l.mBufferInfo.mBuffer with
    | none => parentBounds
    | some b =>
      let (bufWidth, bufHeight) :=
        if hasRot90 l.mBufferInfo.mTransform then (b.height, b.width) else (b.width, b.height)
      let (bufWidth, bufHeight) :=
        if l.getTransformToDisplayInverse && hasRot90 orientation then (bufHeight, bufWidth)
        else (bufWidth, bufHeight)
      ⟨0, 0, bufWidth.toNat, bufHeight.toNat⟩

/-! ## One size derivation, two rectangles -/

/-- The branch of `getBufferSize` and `computeSourceBounds` that reads the buffer: no sideband
stream and the freeze scaling mode. -/
def usesBufferSize (s : LayerState) : Bool :=
  s.sidebandStream.isNone && l.getEffectiveScalingMode == NATIVE_WINDOW_SCALING_MODE_FREEZE

/-- Whether the buffer's width and height trade places: `mTransform` and, under
`getTransformToDisplayInverse()`, the display orientation, rotate by 90° an odd number of times. -/
def swapsBufferSize (orientation : UInt32) : Bool :=
  hasRot90 l.mBufferInfo.mTransform != (l.getTransformToDisplayInverse && hasRot90 orientation)

/-- **The size both functions derive** before building a rectangle: the active size, or the
buffer's size with its rotations undone; `none` when the freeze branch has no buffer. -/
def sourceSize (orientation : UInt32) (s : LayerState) : Option (UInt32 × UInt32) :=
  if l.usesBufferSize s then
    l.mBufferInfo.mBuffer.map fun b =>
      if l.swapsBufferSize orientation then (b.height, b.width) else (b.width, b.height)
  else some (s.activeWidth, s.activeHeight)

/-- `usesBufferSize` is the negation of the test both functions make first. -/
theorem usesBufferSize_eq (s : LayerState) :
    l.usesBufferSize s =
      !(s.sidebandStream.isSome ||
        l.getEffectiveScalingMode != NATIVE_WINDOW_SCALING_MODE_FREEZE) := by
  unfold usesBufferSize
  cases s.sidebandStream <;> simp [bne]

/-- **`getBufferSize` is `Rect(w, h)` of the derived size**, `INVALID_RECT` without one. -/
theorem getBufferSize_eq (o : UInt32) (s : LayerState) :
    l.getBufferSize o s = match l.sourceSize o s with
      | some (w, h) => Rect.ofSize w h
      | none => Rect.INVALID_RECT := by
  unfold getBufferSize sourceSize swapsBufferSize
  rw [usesBufferSize_eq]
  cases s.sidebandStream.isSome || l.getEffectiveScalingMode != NATIVE_WINDOW_SCALING_MODE_FREEZE
  · cases l.mBufferInfo.mBuffer
    · rfl
    · cases hasRot90 l.mBufferInfo.mTransform <;>
        cases l.getTransformToDisplayInverse && hasRot90 o <;> rfl
  · rfl

/-- **`computeSourceBounds` is the float rectangle of the derived size**, `parentBounds` without
one. -/
theorem computeSourceBounds_eq (o : UInt32) (parentBounds : FloatRect) :
    l.computeSourceBounds o parentBounds = match l.sourceSize o l.mDrawingState with
      | some (w, h) => ⟨0, 0, w.toNat, h.toNat⟩
      | none => parentBounds := by
  unfold computeSourceBounds sourceSize swapsBufferSize
  dsimp only
  rw [usesBufferSize_eq]
  cases l.mDrawingState.sidebandStream.isSome ||
    l.getEffectiveScalingMode != NATIVE_WINDOW_SCALING_MODE_FREEZE
  · cases l.mBufferInfo.mBuffer
    · rfl
    · cases hasRot90 l.mBufferInfo.mTransform <;>
        cases l.getTransformToDisplayInverse && hasRot90 o <;> rfl
  · rfl

/-! ## Layers with the same geometry

The getters read the buffer only through its width and height, so two layers agreeing on those and
on the crop, transform, scaling modes and display-inverse flag answer alike. -/

/-- **The fields the geometry getters read agree on `l` and `l'`**: the buffer's size (not the
buffer), crop, transform, scaling mode and its override, and the display-inverse flag. -/
structure SameGeometry (l l' : BufferLayer) : Prop where
  bufferSize : l'.mBufferInfo.mBuffer.map (fun b => (b.width, b.height)) =
    l.mBufferInfo.mBuffer.map (fun b => (b.width, b.height))
  crop : l'.mBufferInfo.mCrop = l.mBufferInfo.mCrop
  transform : l'.mBufferInfo.mTransform = l.mBufferInfo.mTransform
  scaleMode : l'.mBufferInfo.mScaleMode = l.mBufferInfo.mScaleMode
  transformToDisplayInverse :
    l'.mBufferInfo.mTransformToDisplayInverse = l.mBufferInfo.mTransformToDisplayInverse
  override : l'.mOverrideScalingMode = l.mOverrideScalingMode

namespace SameGeometry

variable {l l' : BufferLayer} (h : SameGeometry l l')
include h

/-- Both layers have no buffer, or buffers of one size. -/
theorem buffer_cases :
    (l.mBufferInfo.mBuffer = none ∧ l'.mBufferInfo.mBuffer = none) ∨
      ∃ b b', l.mBufferInfo.mBuffer = some b ∧ l'.mBufferInfo.mBuffer = some b' ∧
        b'.width = b.width ∧ b'.height = b.height := by
  have hs := h.bufferSize
  rcases hb : l.mBufferInfo.mBuffer with _ | b <;>
    rcases hb' : l'.mBufferInfo.mBuffer with _ | b' <;> simp_all

theorem getEffectiveScalingMode_eq : l'.getEffectiveScalingMode = l.getEffectiveScalingMode := by
  simp only [getEffectiveScalingMode, h.override, h.scaleMode]

theorem getBufferCrop_eq : l'.getBufferCrop = l.getBufferCrop := by
  unfold getBufferCrop GraphicBuffer.getBounds
  rcases h.buffer_cases with ⟨hb, hb'⟩ | ⟨b, b', hb, hb', hw, hh⟩ <;> simp [hb, hb', h.crop, *]

theorem sourceSize_eq (o : UInt32) (s : LayerState) : l'.sourceSize o s = l.sourceSize o s := by
  unfold sourceSize usesBufferSize swapsBufferSize getTransformToDisplayInverse
  rw [h.getEffectiveScalingMode_eq, h.transform, h.transformToDisplayInverse]
  rcases h.buffer_cases with ⟨hb, hb'⟩ | ⟨b, b', hb, hb', hw, hh⟩ <;> simp [hb, hb', *]

theorem getBufferSize_eq (o : UInt32) (s : LayerState) :
    l'.getBufferSize o s = l.getBufferSize o s := by
  rw [BufferLayer.getBufferSize_eq, BufferLayer.getBufferSize_eq, h.sourceSize_eq]

end SameGeometry

end BufferLayer

end SurfaceFlinger
