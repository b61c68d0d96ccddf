import SurfaceFlinger.Layer.BufferLayer
import SurfaceFlinger.Geometry.Float32

/-!
# Composition/ClientComposition — `prepareClientComposition`

`prepareClientComposition` takes what the base `Layer::prepareClientComposition` built and fills in
the buffer.  It has two paths:

* **never drawn** (`mBufferInfo.mBuffer` null): walk the layers in Z order up to this one, collect
  what they cover, and add the part of the clip they leave uncovered to `clearRegion`.  That part is
  the clip minus exactly the layers strictly below this one
  (`prepareClientComposition_plugs_holes`);
* **with a buffer**: unless the layer is blacked out, scale and translate the window onto the buffer
  size, dividing by `bufferWidth` and `bufferHeight` in `float`.  A valid buffer size can be zero
  wide — an empty active size when scaled to the window — and the division then has no finite result
  (`prepareClientComposition_divides_by_zero`).  The transform is finite exactly when the size the
  layer derives has no zero side (`prepareClientComposition_draws_buffer`).

`Region` is not part of this file: `RegionOps` takes its operations, with the set of points each
region covers and the laws relating them.  The layer settings carry, in `TextureScale`, only the
four `float` quotients the code builds its flip-and-scale matrix from; the `mat4` products, with the
consumer's matrix and the orientation correction, are in Composition/TextureTransform.
-/

namespace SurfaceFlinger

/-- **`Region`**, as far as `prepareClientComposition` uses it: the empty region, `orSelf`,
`subtract` and `isEmpty`, with the pixels each region covers. -/
structure RegionOps (R : Type) where
  empty : R
  orSelf : R → R → R
  subtract : R → R → R
  isEmpty : R → Bool
  points : R → Set (ℤ × ℤ)
  points_empty : points empty = ∅
  points_orSelf : ∀ a b, points (orSelf a b) = points a ∪ points b
  points_subtract : ∀ a b, points (subtract a b) = points a \ points b
  isEmpty_iff : ∀ a, isEmpty a = true ↔ points a = ∅

/-- Regions as finite sets of pixels. -/
def finsetRegion : RegionOps (Finset (ℤ × ℤ)) where
  empty := ∅
  orSelf := (· ∪ ·)
  subtract := (· \ ·)
  isEmpty a := a == ∅
  points a := ↑a
  points_empty := Finset.coe_empty
  points_orSelf := Finset.coe_union
  points_subtract := Finset.coe_sdiff
  isEmpty_iff a := by simp

/-- **`ClientCompositionTargetSettings`**, the fields this file reads or writes. -/
structure ClientCompositionTargetSettings (R : Type) where
  clip : R
  needsFiltering : Bool
  isSecure : Bool
  supportsProtectedContent : Bool
  clearRegion : R

/-- The four `float`s the texture transform's flip-and-scale matrix is built from; `none` where the
division that makes one has no finite result. -/
structure TextureScale where
  scaleHeight : Option ℚ
  scaleWidth : Option ℚ
  translateY : Option ℚ
  translateX : Option ℚ
deriving DecidableEq, Repr

/-- Whether every quotient of the texture transform is finite. -/
def TextureScale.isFinite (t : TextureScale) : Bool :=
  t.scaleHeight.isSome && t.scaleWidth.isSome && t.translateY.isSome && t.translateX.isSome

/-- **`renderengine::LayerSettings`**, the fields `prepareClientComposition` writes. -/
structure LayerSettings where
  buffer : Option GraphicBuffer
  isOpaque : Bool
  useTextureFiltering : Bool
  textureTransform : TextureScale
  alpha : ℚ
deriving DecidableEq, Repr

/-- What the calls `prepareClientComposition` makes outside this file answer. -/
structure CompositionContext (R : Type) where
  /-- `Layer::prepareClientComposition(targetSettings)`. -/
  base : Option LayerSettings
  /-- `isSecure()`. -/
  isSecure : Bool
  /-- `getBounds()`, as the `Rect` `win`. -/
  bounds : Rect
  /-- `DisplayDevice::getPrimaryDisplayOrientationTransform()`. -/
  orientation : UInt32
  /-- The layers of `mFlinger->mDrawingState`, in `traverseInZOrder` order. -/
  layersInZOrder : List LayerId
  /-- This layer. -/
  self : LayerId
  /-- `getScreenBounds()` of each layer, as a region. -/
  screenBounds : LayerId → R

/-- `float(n)`: an `int32_t` converted to `float`. -/
def toFloat (n : ℤ) : ℚ := round32 n

/-- `a / b` in `float`: `none` when `b` is zero, where the quotient is infinite or NaN.  The
quotients here divide numbers below `2^32` by numbers at least 1, so they never overflow. -/
def floatDiv (a b : ℚ) : Option ℚ := if b = 0 then none else some (round32 (a / b))

@[simp] theorem floatDiv_isSome (a b : ℚ) : (floatDiv a b).isSome = true ↔ b ≠ 0 := by
  unfold floatDiv
  split_ifs <;> simp_all

namespace BufferLayer

variable {R : Type} (ops : RegionOps R)

/-! ## The never-drawn path -/

/-- The traversal callback of lines 163–171 over the layers left to visit, with its `finished` flag
and the region `under` built so far. -/
def coveredBelow (self : LayerId) (screenBounds : LayerId → R) : Bool → R → List LayerId → R
  | _, under, [] => under
  | finished, under, layer :: layers =>
    if finished || layer == self then coveredBelow self screenBounds true under layers
    else coveredBelow self screenBounds false (ops.orSelf under (screenBounds layer)) layers

/-- The pixels the layers of `layers` cover. -/
def coverOf (screenBounds : LayerId → R) (layers : List LayerId) : Set (ℤ × ℤ) :=
  {pt | ∃ layer ∈ layers, pt ∈ ops.points (screenBounds layer)}

/-- Once `finished`, the traversal adds nothing. -/
theorem coveredBelow_finished (self : LayerId) (screenBounds : LayerId → R) :
    ∀ (under : R) (layers : List LayerId),
      coveredBelow ops self screenBounds true under layers = under
  | _, [] => rfl
  | under, _ :: layers => by
    rw [coveredBelow, if_pos (Bool.true_or _)]
    exact coveredBelow_finished self screenBounds under layers

/-- **The traversal covers exactly the layers before this one**, all of them if it is not in the
list. -/
theorem points_coveredBelow (self : LayerId) (screenBounds : LayerId → R) :
    ∀ (under : R) (layers : List LayerId),
      ops.points (coveredBelow ops self screenBounds false under layers) =
        ops.points under ∪ coverOf ops screenBounds (layers.takeWhile (· != self))
  | under, [] => by simp [coveredBelow, coverOf]
  | under, layer :: layers => by
    by_cases h : layer = self
    · rw [coveredBelow, if_pos (by simp [h]), coveredBelow_finished]
      simp [coverOf, h]
    · rw [coveredBelow, if_neg (by simp [h]), points_coveredBelow, ops.points_orSelf,
        List.takeWhile_cons_of_pos (by simp [h])]
      ext pt
      simp only [coverOf, Set.mem_union, Set.mem_setOf_eq, List.mem_cons, exists_eq_or_imp]
      tauto

/-- Lines 162–177: add to `clearRegion` the part of the clip the layers below leave uncovered. -/
def plugHoles (ctx : CompositionContext R) (targetSettings : ClientCompositionTargetSettings R) :
    ClientCompositionTargetSettings R :=
  let under := coveredBelow ops ctx.self ctx.screenBounds false ops.empty ctx.layersInZOrder
  let holes := ops.subtract targetSettings.clip under
  if !ops.isEmpty holes then
    { targetSettings with clearRegion := ops.orSelf targetSettings.clearRegion holes }
  else targetSettings

/-! ## The texture transform -/

/-- Lines 225–241: the window scaled and translated onto the buffer size, or onto the window itself
when the buffer size is invalid, in `float`. -/
def textureScale (l : BufferLayer) (win : Rect) (orientation : UInt32) : TextureScale :=
  let s := l.mDrawingState
  let bufferWidth :=
    if !(l.getBufferSize orientation s).isValid then round32 (toFloat win.right - toFloat win.left)
    else toFloat (l.getBufferSize orientation s).getWidth
  let bufferHeight :=
    if !(l.getBufferSize orientation s).isValid then round32 (toFloat win.bottom - toFloat win.top)
    else toFloat (l.getBufferSize orientation s).getHeight
  ⟨floatDiv (round32 (toFloat win.bottom - toFloat win.top)) bufferHeight,
    floatDiv (round32 (toFloat win.right - toFloat win.left)) bufferWidth,
    floatDiv (toFloat win.top) bufferHeight, floatDiv (toFloat win.left) bufferWidth⟩

/-- **Once the layer derives a size `(w, h)`, the texture transform is finite exactly when neither
side is zero**: `Rect(w, h)` is always valid, so the window fallback is never taken. -/
theorem textureScale_isFinite (l : BufferLayer) (win : Rect) (o : UInt32) {w h : UInt32}
    (hs : l.sourceSize o l.mDrawingState = some (w, h)) :
    (textureScale l win o).isFinite = true ↔ w ≠ 0 ∧ h ≠ 0 := by
  have hg : l.getBufferSize o l.mDrawingState = Rect.ofSize w h := by rw [getBufferSize_eq, hs]
  simp [textureScale, TextureScale.isFinite, hg, Rect.isValid_ofSize, toFloat,
    round32_intCast_eq_zero, Rect.ofSizeCoord_eq_zero]
  tauto

/-- **`prepareClientComposition(targetSettings)`**: the layer settings it returns, and the target
settings after the call. -/
def prepareClientComposition (ctx : CompositionContext R) (l : BufferLayer)
    (targetSettings : ClientCompositionTargetSettings R) :
    Option LayerSettings × ClientCompositionTargetSettings R :=
  match ctx.base with
  | none => (none, targetSettings)
  | some layer =>
    if l.mBufferInfo.mBuffer.isNone then (none, plugHoles ops ctx targetSettings)
    else
      let blackOutLayer := (l.isProtected && !targetSettings.supportsProtectedContent) ||
        (ctx.isSecure && !targetSettings.isSecure)
      let s := l.mDrawingState
      if !blackOutLayer then
        let useFiltering := targetSettings.needsFiltering || l.mNeedsFiltering || l.isFixedSize
        (some { layer with
          buffer := l.mBufferInfo.mBuffer
          isOpaque := l.isOpaque s
          useTextureFiltering := useFiltering
          textureTransform := textureScale l ctx.bounds ctx.orientation }, targetSettings)
      else (some { layer with buffer := none, alpha := 1 }, targetSettings)

/-! ## What the two paths do -/

/-- **A never-drawn layer draws nothing and plugs the holes below it**: the only change to the
target settings is `clearRegion`, which gains the clip minus the screen bounds of exactly the layers
before this one in Z order. -/
theorem prepareClientComposition_plugs_holes (ctx : CompositionContext R) (l : BufferLayer)
    (targetSettings : ClientCompositionTargetSettings R) (settings : LayerSettings)
    (hb : l.mBufferInfo.mBuffer = none) (hr : ctx.base = some settings) :
    (prepareClientComposition ops ctx l targetSettings).1 = none ∧
      (prepareClientComposition ops ctx l targetSettings).2 = { targetSettings with
        clearRegion := (prepareClientComposition ops ctx l targetSettings).2.clearRegion } ∧
      ops.points (prepareClientComposition ops ctx l targetSettings).2.clearRegion =
        ops.points targetSettings.clearRegion ∪ (ops.points targetSettings.clip \
          coverOf ops ctx.screenBounds (ctx.layersInZOrder.takeWhile (· != ctx.self))) := by
  have hholes : ops.points (ops.subtract targetSettings.clip
      (coveredBelow ops ctx.self ctx.screenBounds false ops.empty ctx.layersInZOrder)) =
      ops.points targetSettings.clip \
        coverOf ops ctx.screenBounds (ctx.layersInZOrder.takeWhile (· != ctx.self)) := by
    rw [ops.points_subtract, points_coveredBelow, ops.points_empty, Set.empty_union]
  have hp : prepareClientComposition ops ctx l targetSettings =
      (none, plugHoles ops ctx targetSettings) := by
    simp [prepareClientComposition, hr, hb]
  rw [hp, plugHoles]
  dsimp only
  split_ifs with he
  · exact ⟨rfl, rfl, by rw [ops.points_orSelf, hholes]⟩
  · have he : ops.points _ = ∅ := (ops.isEmpty_iff _).1 (by simpa using he)
    exact ⟨rfl, rfl, by rw [← hholes, he, Set.union_empty]⟩

/-- Settings from the base `Layer::prepareClientComposition`. -/
def baseSettings : LayerSettings := ⟨none, false, false, ⟨none, none, none, none⟩, 1⟩

/-- Layers 1, 2 and 3 in Z order, layer `i` covering the pixel `(i, 0)`; this layer is layer 2. -/
def stackContext : CompositionContext (Finset (ℤ × ℤ)) :=
  ⟨some baseSettings, false, ⟨0, 0, 16, 16⟩, 0, [1, 2, 3], 2, fun i => {((i : ℤ), 0)}⟩

/-- A clip of three pixels, nothing to clear yet. -/
def clipTarget : ClientCompositionTargetSettings (Finset (ℤ × ℤ)) :=
  ⟨{(1, 0), (2, 0), (5, 0)}, false, false, false, ∅⟩

/-- Layer 2, never drawn, plugs the clip outside the pixel of layer 1 below it. -/
theorem prepareClientComposition_plugs_holes_above_one :
    (idleLayer []).mBufferInfo.mBuffer = none ∧ stackContext.base = some baseSettings ∧
      (prepareClientComposition finsetRegion stackContext (idleLayer []) clipTarget).1 = none ∧
      (prepareClientComposition finsetRegion stackContext (idleLayer []) clipTarget).2 =
        { clipTarget with
          clearRegion := (prepareClientComposition finsetRegion stackContext (idleLayer [])
            clipTarget).2.clearRegion } ∧
      finsetRegion.points (prepareClientComposition finsetRegion stackContext (idleLayer [])
          clipTarget).2.clearRegion =
        finsetRegion.points clipTarget.clearRegion ∪ (finsetRegion.points clipTarget.clip \
          coverOf finsetRegion stackContext.screenBounds
            (stackContext.layersInZOrder.takeWhile (· != stackContext.self))) :=
  ⟨rfl, rfl,
    prepareClientComposition_plugs_holes finsetRegion stackContext (idleLayer []) clipTarget
      baseSettings rfl rfl⟩

example :
    (prepareClientComposition finsetRegion stackContext (idleLayer []) clipTarget).2.clearRegion =
      {(2, 0), (5, 0)} := by
  decide

/-- **A layer with a buffer leaves the target settings alone and draws its buffer unless it is
blacked out, through a texture transform that is finite exactly when the derived size `(w, h)` has
no zero side**; blacked out, it is drawn black: no buffer, alpha 1. -/
theorem prepareClientComposition_draws_buffer (ctx : CompositionContext R) (l : BufferLayer)
    (targetSettings : ClientCompositionTargetSettings R) (settings : LayerSettings)
    (b : GraphicBuffer) (w h : UInt32)
    (hb : l.mBufferInfo.mBuffer = some b) (hr : ctx.base = some settings)
    (hs : l.sourceSize ctx.orientation l.mDrawingState = some (w, h)) :
    (prepareClientComposition ops ctx l targetSettings).2 = targetSettings ∧
      ∃ out, (prepareClientComposition ops ctx l targetSettings).1 = some out ∧
        if (l.isProtected && !targetSettings.supportsProtectedContent) ||
            (ctx.isSecure && !targetSettings.isSecure) then
          out.buffer = none ∧ out.alpha = 1
        else out.buffer = some b ∧ (out.textureTransform.isFinite = true ↔ w ≠ 0 ∧ h ≠ 0) := by
  simp only [prepareClientComposition, hr, hb, Option.isNone_some, Bool.false_eq_true, if_false]
  cases (l.isProtected && !targetSettings.supportsProtectedContent) ||
    (ctx.isSecure && !targetSettings.isSecure)
  · exact ⟨rfl, _, rfl, rfl, textureScale_isFinite l ctx.bounds ctx.orientation hs⟩
  · exact ⟨rfl, _, rfl, rfl, rfl⟩

/-- A layer that latched a 16×32 buffer and keeps its size. -/
def drawnLayer : BufferLayer :=
  { idleLayer [] with
    mBufferInfo := { (idleLayer []).mBufferInfo with mBuffer := some ⟨16, 32, 0⟩ } }

/-- The 16×32 layer is drawn from its buffer, through a finite texture transform. -/
theorem prepareClientComposition_draws_buffer_sized :
    drawnLayer.mBufferInfo.mBuffer = some ⟨16, 32, 0⟩ ∧ stackContext.base = some baseSettings ∧
      drawnLayer.sourceSize stackContext.orientation drawnLayer.mDrawingState = some (16, 32) ∧
      (prepareClientComposition finsetRegion stackContext drawnLayer clipTarget).2 = clipTarget ∧
      ∃ out, (prepareClientComposition finsetRegion stackContext drawnLayer clipTarget).1 =
          some out ∧
        if (drawnLayer.isProtected && !clipTarget.supportsProtectedContent) ||
            (stackContext.isSecure && !clipTarget.isSecure) then
          out.buffer = none ∧ out.alpha = 1
        else out.buffer = some ⟨16, 32, 0⟩ ∧
          (out.textureTransform.isFinite = true ↔ (16 : UInt32) ≠ 0 ∧ (32 : UInt32) ≠ 0) :=
  ⟨rfl, rfl, by decide,
    prepareClientComposition_draws_buffer finsetRegion stackContext drawnLayer clipTarget
      baseSettings ⟨16, 32, 0⟩ 16 32 rfl rfl (by decide)⟩

/-- A layer with a 16×16 buffer, scaled to a window of active size 0×0. -/
def emptyScaledLayer : BufferLayer :=
  { idleLayer [] with
    mBufferInfo := { (idleLayer []).mBufferInfo with mBuffer := some ⟨16, 16, 0⟩ }
    mDrawingState := ⟨0, none, 0, 0⟩
    mOverrideScalingMode := NATIVE_WINDOW_SCALING_MODE_SCALE_TO_WINDOW.toNat }

/-- **A valid but empty buffer size reaches the division**: the layer has a buffer and is not
blacked out, `getBufferSize` is the valid rectangle `(0, 0, 0, 0)`, and in every window every
quotient of the texture transform divides by zero. -/
theorem prepareClientComposition_divides_by_zero (bounds : Rect) :
    (emptyScaledLayer.getBufferSize 0 emptyScaledLayer.mDrawingState).isValid = true ∧
      (prepareClientComposition finsetRegion { stackContext with bounds := bounds } emptyScaledLayer
          clipTarget).1.map (fun settings => (settings.buffer, settings.textureTransform)) =
        some (some ⟨16, 16, 0⟩, ⟨none, none, none, none⟩) := by
  have hg : emptyScaledLayer.getBufferSize 0 emptyScaledLayer.mDrawingState = ⟨0, 0, 0, 0⟩ := by
    decide
  have hb : emptyScaledLayer.mBufferInfo.mBuffer = some ⟨16, 16, 0⟩ := rfl
  have hp : emptyScaledLayer.isProtected = false := by decide
  refine ⟨by rw [hg]; decide, ?_⟩
  simp [prepareClientComposition, stackContext, hb, hp, textureScale, hg, floatDiv, toFloat,
    Rect.getWidth, Rect.getHeight, Rect.isValid]

end BufferLayer

end SurfaceFlinger
