import SurfaceFlinger.Layer.BufferLayer

/-!
# Latch/LatchBuffer — `latchBuffer`, exit by exit

`latchBuffer` has nine exits: the sideband early return, four gates (`hasReadyFrame`,
`mRefreshPending`, the acquire fence, `allTransactionsSignaled`), three producer failures, and the
buffer latch itself.  `LatchExit` names them, so a statement about "every exit" is a statement
over a finite type.

The hooks `latchBuffer` calls are pure virtual in `BufferLayer` and implemented outside this file;
`Producer` takes each as a parameter.  Two lemmas say all a call can do: `latchBuffer_latched`
(the gates a buffer latch passed, and the state it leaves) and `latchBuffer_frame` (what every
other exit leaves unchanged).
-/

namespace SurfaceFlinger

/-- A `status_t`. -/
abbrev Status := Int

/-- `NO_ERROR`. -/
def NO_ERROR : Status := 0

/-- **What the producer-side hooks answer during one call.**  Each pure virtual hook of
`BufferLayer` is a parameter: its answer, and what it does to the layer.  `updateTexImage` acts
whatever status it returns; a failing `updateActiveBuffer` or `updateFrameNumber` installs nothing;
the two hooks that take `recomputeVisibleRegions` by reference may only raise it. -/
structure Producer where
  /-- `latchSidebandStream`: `some (stream, raise)` when it latched the sideband `stream`. -/
  latchSidebandStream : Option (Option NativeHandle × Bool)
  hasFrameUpdate : Bool
  getSidebandStreamChanged : Bool
  getAutoRefresh : Bool
  fenceHasSignaled : Bool
  /-- `getFrameNumber(expectedPresentTime)`. -/
  getFrameNumber : Nat
  /-- `framePresentTimeIsCurrent(expectedPresentTime)`. -/
  framePresentTimeIsCurrent : Bool
  /-- `updateTexImage`: its status, and whether it raised `recomputeVisibleRegions`. -/
  updateTexImage : Status × Bool
  /-- The drawing state `updateTexImage` leaves, whatever its status: `some s` when its
  `LayerRejecter` latched the requested geometry `s`, raising `recomputeVisibleRegions` with it. -/
  texImageDrawingState : Option LayerState
  updateActiveBuffer : Status
  updateFrameNumber : Status
  /-- The buffer a successful `updateActiveBuffer` makes current. -/
  activeBuffer : GraphicBuffer
  /-- The rest of what `gatherBufferInfo` latches with it. -/
  bufferInfo : BufferInfo
  /-- The frame number a successful `updateFrameNumber` makes current. -/
  currentFrameNumber : Nat
deriving DecidableEq, Repr

/-- **The exits of `latchBuffer`**, in source order. -/
inductive LatchExit
  | sideband
  | noReadyFrame
  | refreshPending
  | fenceUnsignaled
  | transactionsPending
  | texImageFailed
  | activeBufferFailed
  | frameNumberFailed
  | latched
deriving DecidableEq, Repr

/-- What `latchBuffer` returns at an exit. -/
def LatchExit.returns : LatchExit → Bool
  | .sideband | .latched => true
  | _ => false

/-- Whether `latchBuffer` went past `allTransactionsSignaled`, into the producer updates, before
returning. -/
def LatchExit.pastScan : LatchExit → Bool
  | .texImageFailed | .activeBufferFailed | .frameNumberFailed | .latched => true
  | _ => false

/-- The outcome of one `latchBuffer` call: the exit taken, `recomputeVisibleRegions` at return, and
the layer. -/
structure LatchResult where
  exit : LatchExit
  recomputeVisibleRegions : Bool
  layer : BufferLayer
deriving DecidableEq, Repr

namespace BufferLayer

/-- **`hasReadyFrame`**. -/
def hasReadyFrame (p : Producer) : Bool :=
  p.hasFrameUpdate || p.getSidebandStreamChanged || p.getAutoRefresh

/-- **`getHeadFrameNumber(expectedPresentTime)`**: the producer's next frame when it has one, else
the frame latched last. -/
def getHeadFrameNumber (l : BufferLayer) (p : Producer) : Nat :=
  if p.hasFrameUpdate then p.getFrameNumber else l.mCurrentFrameNumber

/-- Line 386: what `updateTexImage` does, whatever status it returns — the drawing state its
`LayerRejecter` latched, if any, which raises `recomputeVisibleRegions` with it. -/
def updateTexImage (p : Producer) (recomputeVisibleRegions : Bool) (l : BufferLayer) :
    Bool × BufferLayer :=
  (recomputeVisibleRegions || p.updateTexImage.2 || p.texImageDrawingState.isSome,
    { l with mDrawingState := p.texImageDrawingState.getD l.mDrawingState })

/-- Line 391, when `updateActiveBuffer` succeeds: the producer's buffer becomes current. -/
def updateActiveBuffer (p : Producer) (l : BufferLayer) : BufferLayer :=
  { l with mBufferInfo := { l.mBufferInfo with mBuffer := some p.activeBuffer } }

/-- Line 396, when `updateFrameNumber` succeeds: the producer's frame becomes current. -/
def updateFrameNumber (p : Producer) (l : BufferLayer) : BufferLayer :=
  { l with mCurrentFrameNumber := p.currentFrameNumber }

/-- Lines 401–404 of `latchBuffer`: `gatherBufferInfo` latches the rest of the buffer's info, and
`mRefreshPending` and `mFrameLatencyNeeded` are set. -/
def installBuffer (p : Producer) (l : BufferLayer) : BufferLayer :=
  { l with
    mBufferInfo := { p.bufferInfo with
      mBuffer := l.mBufferInfo.mBuffer
      mFrameLatencyNeeded := true }
    mRefreshPending := true }

/-- Lines 405–429 of `latchBuffer`: whether the new buffer invalidates the geometry, against the
`BufferInfo` and opacity captured before the latch.  The new buffer is present, since
`updateActiveBuffer` succeeded. -/
def geometryInvalidated (oldBufferInfo : BufferInfo) (oldOpacity : Bool) (l : BufferLayer) : Bool :=
  oldBufferInfo.mBuffer.isNone ||
    (l.mBufferInfo.mCrop != oldBufferInfo.mCrop ||
      l.mBufferInfo.mTransform != oldBufferInfo.mTransform ||
      l.mBufferInfo.mScaleMode != oldBufferInfo.mScaleMode ||
      l.mBufferInfo.mTransformToDisplayInverse != oldBufferInfo.mTransformToDisplayInverse) ||
    (match oldBufferInfo.mBuffer, l.mBufferInfo.mBuffer with
      | some old, some new => new.width != old.width || new.height != old.height
      | _, _ => false) ||
    oldOpacity != l.isOpaque l.mDrawingState

/-- Lines 401–455 of `latchBuffer`, once the three producer updates succeeded: install the rest of
the buffer, decide the geometry invalidation, and drop the sync points the new frame satisfies. -/
def finishLatch (p : Producer) (recomputeVisibleRegions : Bool) (oldBufferInfo : BufferInfo)
    (oldOpacity : Bool) (l : BufferLayer) : LatchResult :=
  let l := installBuffer p l
  ⟨.latched, recomputeVisibleRegions || geometryInvalidated oldBufferInfo oldOpacity l,
    { l with mLocalSyncPoints := removeSyncPoints l.mCurrentFrameNumber l.mLocalSyncPoints }⟩

/-- Lines 386–399 of `latchBuffer`: the three producer updates, each of which may fail.  Nothing is
undone at a failure: the exit keeps what the updates before it did. -/
def acquireBuffer (p : Producer) (recomputeVisibleRegions : Bool) (oldBufferInfo : BufferInfo)
    (oldOpacity : Bool) (l : BufferLayer) : LatchResult :=
  let texImage := updateTexImage p recomputeVisibleRegions l
  let recomputeVisibleRegions := texImage.1
  let l := texImage.2
  if p.updateTexImage.1 != NO_ERROR then ⟨.texImageFailed, recomputeVisibleRegions, l⟩
  else if p.updateActiveBuffer != NO_ERROR then ⟨.activeBufferFailed, recomputeVisibleRegions, l⟩
  else
    let l := updateActiveBuffer p l
    if p.updateFrameNumber != NO_ERROR then ⟨.frameNumberFailed, recomputeVisibleRegions, l⟩
    else finishLatch p recomputeVisibleRegions oldBufferInfo oldOpacity (updateFrameNumber p l)

/-- Lines 375–384 of `latchBuffer`, once the fence has signaled: capture the old state and ask
`allTransactionsSignaled` before the producer updates. -/
def latchSignaled (p : Producer) (recomputeVisibleRegions : Bool) (l : BufferLayer) :
    LatchResult :=
  let oldOpacity := l.isOpaque l.mDrawingState
  let oldBufferInfo := l.mBufferInfo
  let signaled := allTransactionsSignaled (l.getHeadFrameNumber p) l.mLocalSyncPoints
  let l := { l with mLocalSyncPoints := signaled.2 }
  if !signaled.1 then ⟨.transactionsPending, recomputeVisibleRegions, l⟩
  else acquireBuffer p recomputeVisibleRegions oldBufferInfo oldOpacity l

/-- **`latchBuffer(recomputeVisibleRegions, latchTime, expectedPresentTime)`**, the producer's
answers for that call given by `p`. -/
def latchBuffer (p : Producer) (recomputeVisibleRegions : Bool) (l : BufferLayer) : LatchResult :=
  match p.latchSidebandStream with
  | some (stream, raise) =>
    ⟨.sideband, recomputeVisibleRegions || raise, { l with mSidebandStream := stream }⟩
  | none =>
    if !hasReadyFrame p then ⟨.noReadyFrame, recomputeVisibleRegions, l⟩
    else if l.mRefreshPending then ⟨.refreshPending, recomputeVisibleRegions, l⟩
    else if !p.fenceHasSignaled then ⟨.fenceUnsignaled, recomputeVisibleRegions, l⟩
    else latchSignaled p recomputeVisibleRegions l

/-! ## What one call can do

Each stage gets two lemmas: the gates a buffer latch passed through it, and what every other exit
leaves (`LatchFrame`).  The producer updates undo nothing, so an exit past the scan keeps the
drawing state `updateTexImage` left, and the `updateFrameNumber` failure keeps the buffer
`updateActiveBuffer` made current. -/

variable {p : Producer} {rec : Bool} {l : BufferLayer} {old : BufferInfo} {op : Bool}

/-- `updateTexImage` never lowers `recomputeVisibleRegions`. -/
theorem updateTexImage_fst_of_true (h : rec = true) : (updateTexImage p rec l).1 = true := by
  simp [updateTexImage, h]

/-- The gates a buffer latch passed: no sideband latch, a ready frame, no pending refresh, a
signaled fence, every reached sync point satisfied, and three successful updates. -/
structure LatchGates (p : Producer) (l : BufferLayer) : Prop where
  sideband : p.latchSidebandStream = none
  ready : hasReadyFrame p = true
  notPending : l.mRefreshPending = false
  fence : p.fenceHasSignaled = true
  signaled : (allTransactionsSignaled (l.getHeadFrameNumber p) l.mLocalSyncPoints).1 = true
  texImage : p.updateTexImage.1 = NO_ERROR
  activeBuffer : p.updateActiveBuffer = NO_ERROR
  frameNumber : p.updateFrameNumber = NO_ERROR

/-- **What an exit other than the buffer latch leaves**: the layer as it was but for the sideband
stream (at the sideband exit), the flag the scan raises, the drawing state `updateTexImage` left (at
an exit past the scan) and the buffer `updateActiveBuffer` made current (when `updateFrameNumber`
failed); and `recomputeVisibleRegions` not lowered. -/
structure LatchFrame (p : Producer) (rec : Bool) (l : BufferLayer) (r : LatchResult) : Prop where
  layer : r.layer = { l with
    mBufferInfo := { l.mBufferInfo with mBuffer := r.layer.mBufferInfo.mBuffer }
    mSidebandStream := r.layer.mSidebandStream
    mDrawingState := r.layer.mDrawingState
    mLocalSyncPoints := r.layer.mLocalSyncPoints }
  sideband : r.exit ≠ .sideband → r.layer.mSidebandStream = l.mSidebandStream
  drawingState : r.layer.mDrawingState =
    if r.exit.pastScan then p.texImageDrawingState.getD l.mDrawingState else l.mDrawingState
  buffer : r.layer.mBufferInfo.mBuffer =
    if r.exit = .frameNumberFailed then some p.activeBuffer else l.mBufferInfo.mBuffer
  syncPoints : r.layer.mLocalSyncPoints = l.mLocalSyncPoints ∨
    ScanRaised (l.getHeadFrameNumber p) r.layer.mLocalSyncPoints l.mLocalSyncPoints
  recompute : rec = true → r.recomputeVisibleRegions = true

/-- An early exit leaves the layer and `recomputeVisibleRegions` as they were. -/
theorem LatchFrame.early {e : LatchExit} (he : e.pastScan = false)
    (hf : e ≠ .frameNumberFailed) : LatchFrame p rec l ⟨e, rec, l⟩ :=
  ⟨rfl, fun _ => rfl, by simp [he], by simp [hf], .inl rfl, id⟩

theorem acquireBuffer_latched (h : (acquireBuffer p rec old op l).exit = .latched) :
    p.updateTexImage.1 = NO_ERROR ∧ p.updateActiveBuffer = NO_ERROR ∧
      p.updateFrameNumber = NO_ERROR ∧
      acquireBuffer p rec old op l = finishLatch p (updateTexImage p rec l).1 old op
        (updateFrameNumber p (updateActiveBuffer p (updateTexImage p rec l).2)) := by
  unfold acquireBuffer at h ⊢
  split_ifs at h ⊢ with h₁ h₂ h₃
  exact ⟨by simpa using h₁, by simpa using h₂, by simpa using h₃, rfl⟩

/-- The producer updates never touch the ledger. -/
theorem acquireBuffer_syncPoints_of_ne (h : (acquireBuffer p rec old op l).exit ≠ .latched) :
    (acquireBuffer p rec old op l).layer.mLocalSyncPoints = l.mLocalSyncPoints := by
  unfold acquireBuffer at h ⊢
  split_ifs at h ⊢ <;> first | exact absurd rfl h | rfl

theorem acquireBuffer_frame (h : (acquireBuffer p rec old op l).exit ≠ .latched) :
    LatchFrame p rec l (acquireBuffer p rec old op l) := by
  have hr : rec = true → (updateTexImage p rec l).1 = true := updateTexImage_fst_of_true
  unfold acquireBuffer at h ⊢
  split_ifs at h ⊢
  all_goals first
    | exact absurd rfl h
    | exact ⟨rfl, fun _ => rfl, rfl, by simp [updateTexImage, updateActiveBuffer], .inl rfl, hr⟩

theorem latchSignaled_latched (h : (latchSignaled p rec l).exit = .latched) :
    (allTransactionsSignaled (l.getHeadFrameNumber p) l.mLocalSyncPoints).1 = true ∧
      latchSignaled p rec l = acquireBuffer p rec l.mBufferInfo (l.isOpaque l.mDrawingState) l := by
  unfold latchSignaled at h ⊢
  dsimp only at h ⊢
  by_cases hs : (allTransactionsSignaled (l.getHeadFrameNumber p) l.mLocalSyncPoints).1 = true
  · rw [if_neg (by simpa using hs), allTransactionsSignaled_snd_of_fst _ _ hs]
    exact ⟨hs, rfl⟩
  · rw [if_pos (by simpa using hs)] at h
    cases h

theorem latchSignaled_frame (h : (latchSignaled p rec l).exit ≠ .latched) :
    LatchFrame p rec l (latchSignaled p rec l) := by
  unfold latchSignaled at h ⊢
  dsimp only at h ⊢
  by_cases hs : (allTransactionsSignaled (l.getHeadFrameNumber p) l.mLocalSyncPoints).1 = true
  · rw [if_neg (by simpa using hs), allTransactionsSignaled_snd_of_fst _ _ hs] at h ⊢
    exact acquireBuffer_frame h
  · rw [if_pos (by simpa using hs)]
    exact ⟨rfl, fun _ => rfl, rfl, rfl, allTransactionsSignaled_snd _ _, id⟩

/-- **A buffer latch passed every gate, and its result is `finishLatch` on the layer the three
updates left.** -/
theorem latchBuffer_latched (h : (latchBuffer p rec l).exit = .latched) :
    LatchGates p l ∧ latchBuffer p rec l =
      finishLatch p (updateTexImage p rec l).1 l.mBufferInfo (l.isOpaque l.mDrawingState)
        (updateFrameNumber p (updateActiveBuffer p (updateTexImage p rec l).2)) := by
  unfold latchBuffer at h ⊢
  rcases hs : p.latchSidebandStream with _ | ⟨stream, raise⟩ <;> simp only [hs] at h ⊢
  · split_ifs at h ⊢ with h₁ h₂ h₃
    obtain ⟨h₄, hl⟩ := latchSignaled_latched h
    rw [hl] at h ⊢
    obtain ⟨h₅, h₆, h₇, ha⟩ := acquireBuffer_latched h
    exact ⟨⟨hs, by simpa using h₁, by simpa using h₂, by simpa using h₃, h₄, h₅, h₆, h₇⟩, ha⟩
  · cases h

/-- **What a buffer latch leaves**: the producer's buffer, its info and its frame installed, the
drawing state `updateTexImage` left, `mRefreshPending` and `mFrameLatencyNeeded` set, and the sync
points the new frame satisfies gone. -/
theorem latchBuffer_latched_layer (h : (latchBuffer p rec l).exit = .latched) :
    (latchBuffer p rec l).layer = { l with
      mBufferInfo := { p.bufferInfo with
        mBuffer := some p.activeBuffer
        mFrameLatencyNeeded := true }
      mDrawingState := p.texImageDrawingState.getD l.mDrawingState
      mCurrentFrameNumber := p.currentFrameNumber
      mRefreshPending := true
      mLocalSyncPoints := removeSyncPoints p.currentFrameNumber l.mLocalSyncPoints } := by
  rw [(latchBuffer_latched h).2]
  rfl

/-- **Every exit but the buffer latch leaves the layer as `LatchFrame` says.** -/
theorem latchBuffer_frame (h : (latchBuffer p rec l).exit ≠ .latched) :
    LatchFrame p rec l (latchBuffer p rec l) := by
  unfold latchBuffer at h ⊢
  rcases hs : p.latchSidebandStream with _ | ⟨stream, raise⟩ <;> simp only [hs] at h ⊢
  · split_ifs at h ⊢
    · exact .early rfl (by decide)
    · exact .early rfl (by decide)
    · exact .early rfl (by decide)
    · exact latchSignaled_frame h
  · exact ⟨rfl, fun h' => absurd rfl h', rfl, rfl, .inl rfl, fun h' => by simp [h']⟩

end BufferLayer

end SurfaceFlinger
