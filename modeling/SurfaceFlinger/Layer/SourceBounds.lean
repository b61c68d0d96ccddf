import SurfaceFlinger.Layer.BufferLayer

/-!
# Layer/SourceBounds — `computeSourceBounds` against `getBufferSize`

`computeSourceBounds` and `getBufferSize` are two copies of one size derivation, `sourceSize`
(`computeSourceBounds_eq`, `getBufferSize_eq`).  They differ in what they build from it:
`getBufferSize` an `int32_t` `Rect` through `Rect(w, h)`, `computeSourceBounds` a `FloatRect` from
the `uint32_t` size itself.  So the two agree while the size fits an `int32_t`
(`computeSourceBounds_of_getBufferSize`), and part ways past it: a layer scaled to its window with
an active width of `0xFFFFFFFF` has source bounds `2^32 - 1` wide and a buffer size `INT32_MAX`
wide (`computeSourceBounds_outgrows_getBufferSize`).
-/

namespace SurfaceFlinger

namespace BufferLayer

variable (l : BufferLayer) (o : UInt32) (s : LayerState)

/-- The size derivation comes up empty exactly on the freeze branch without a buffer. -/
theorem sourceSize_eq_none :
    l.sourceSize o s = none ↔ l.usesBufferSize s = true ∧ l.mBufferInfo.mBuffer = none := by
  unfold sourceSize
  split_ifs with h <;> simp [h]

theorem getBufferSize_eq_INVALID_RECT :
    l.getBufferSize o s = Rect.INVALID_RECT ↔ l.sourceSize o s = none := by
  rw [getBufferSize_eq]
  rcases l.sourceSize o s with _ | ⟨w, h⟩
  · simp
  · simpa using Rect.ofSize_ne_INVALID_RECT w h

/-- **`computeSourceBounds` returns `parentBounds` exactly where `getBufferSize` is `INVALID_RECT`,
and otherwise the rectangle `(0, 0, w, h)` of its width and height while both fit an `int32_t`;
on the freeze branch with a buffer the size is the buffer's, swapped exactly when its transform
and the display orientation it is inverted against rotate by 90° an odd number of times.** -/
theorem computeSourceBounds_of_getBufferSize (parentBounds : FloatRect) :
    (l.getBufferSize o l.mDrawingState = Rect.INVALID_RECT ↔
        l.usesBufferSize l.mDrawingState = true ∧ l.mBufferInfo.mBuffer = none) ∧
      (l.getBufferSize o l.mDrawingState = Rect.INVALID_RECT →
        l.computeSourceBounds o parentBounds = parentBounds) ∧
      (∀ w h : UInt32, l.sourceSize o l.mDrawingState = some (w, h) →
        w.toNat < 2 ^ 31 → h.toNat < 2 ^ 31 →
        l.computeSourceBounds o parentBounds = ⟨0, 0, (l.getBufferSize o l.mDrawingState).getWidth,
          (l.getBufferSize o l.mDrawingState).getHeight⟩) ∧
      (∀ b : GraphicBuffer, l.usesBufferSize l.mDrawingState = true →
        l.mBufferInfo.mBuffer = some b →
        l.getBufferSize o l.mDrawingState =
          if l.swapsBufferSize o then Rect.ofSize b.height b.width
          else Rect.ofSize b.width b.height) := by
  refine ⟨(getBufferSize_eq_INVALID_RECT l o _).trans (sourceSize_eq_none l o _), fun hi => ?_,
    fun w h hs hw hh => ?_, fun b hu hb => ?_⟩
  · rw [computeSourceBounds_eq, (getBufferSize_eq_INVALID_RECT l o _).1 hi]
  · rw [computeSourceBounds_eq, getBufferSize_eq, hs, Rect.getWidth_ofSize, Rect.getHeight_ofSize,
      Rect.ofSizeCoord_of_lt hw, Rect.ofSizeCoord_of_lt hh]
    simp
  · rw [getBufferSize_eq, sourceSize, if_pos hu, hb]
    split_ifs <;> rfl

/-- A layer scaled to its window, the largest `uint32_t` wide. -/
def wideLayer : BufferLayer :=
  { idleLayer [] with
    mDrawingState := ⟨0, none, 0xFFFFFFFF, 16⟩
    mOverrideScalingMode := NATIVE_WINDOW_SCALING_MODE_SCALE_TO_WINDOW.toNat }

/-- **Past `INT32_MAX` the two part ways**: `Rect(w, h)` cannot hold a width of `0xFFFFFFFF`, the
`FloatRect` keeps it. -/
theorem computeSourceBounds_outgrows_getBufferSize :
    ¬ ∀ (l : BufferLayer) (o : UInt32) (parentBounds : FloatRect),
      l.getBufferSize o l.mDrawingState ≠ Rect.INVALID_RECT →
        l.computeSourceBounds o parentBounds = ⟨0, 0, (l.getBufferSize o l.mDrawingState).getWidth,
          (l.getBufferSize o l.mDrawingState).getHeight⟩ := by
  intro h
  have hs : wideLayer.sourceSize 0 wideLayer.mDrawingState = some (0xFFFFFFFF, 16) := by decide
  have hr := congrArg FloatRect.right (h wideLayer 0 ⟨0, 0, 0, 0⟩ (by decide))
  rw [computeSourceBounds_eq, getBufferSize_eq, hs, Rect.getWidth_ofSize] at hr
  have hc : Rect.ofSizeCoord 0xFFFFFFFF = 2147483647 := by decide
  rw [hc] at hr
  norm_num at hr

end BufferLayer

end SurfaceFlinger
