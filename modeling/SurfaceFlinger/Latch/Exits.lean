import SurfaceFlinger.Latch.LatchBuffer

/-!
# Latch/Exits — what a latch promises, exit by exit

Three properties of one `latchBuffer` call, each read off `latchBuffer_latched` and
`latchBuffer_frame`:

* a buffer latch passed its gates, and every sync point **the scan reached** was satisfied
  (`latchBuffer_gates`); on a ledger out of target order the scan stops early, so a sync point at
  or below the head frame can stay unsatisfied (`latchBuffer_outruns_unsorted_syncPoint`); and
  the gates are all a latch needs (`latchBuffer_latched_iff`);
* every exit returning `false` keeps `mRefreshPending`, raises at most the first unavailable flag
  the scan reached, and keeps `mBufferInfo` and the drawing state but for what the producer
  updates it reached left (`latchBuffer_returns_false_state`): nothing is undone, so when
  `updateFrameNumber` fails the buffer `updateActiveBuffer` made current stays
  (`latchBuffer_fails_with_new_buffer`);
* a latch that changes any geometry getter reports it in `recomputeVisibleRegions`, which no
  exit lowers (`latchBuffer_recomputeVisibleRegions`).
-/

namespace SurfaceFlinger

namespace BufferLayer

variable {p : Producer} {rec : Bool} {l : BufferLayer}

/-- A producer with frame 3 queued, its acquire fence signaled, and every update succeeding. -/
def readyProducer : Producer where
  latchSidebandStream := none
  hasFrameUpdate := true
  getSidebandStreamChanged := false
  getAutoRefresh := false
  fenceHasSignaled := true
  getFrameNumber := 3
  framePresentTimeIsCurrent := true
  updateTexImage := (NO_ERROR, false)
  texImageDrawingState := none
  updateActiveBuffer := NO_ERROR
  updateFrameNumber := NO_ERROR
  activeBuffer := ⟨16, 16, 0⟩
  bufferInfo := ⟨none, ⟨0, 0, 16, 16⟩, 0, 0, false, false, 1, 0⟩
  currentFrameNumber := 3

/-! ## The gates of a buffer latch -/

/-- **A buffer latch passed its gates, and every sync point the scan reached was satisfied** — on
an ascending ledger, every sync point at or below the head frame. -/
theorem latchBuffer_gates (h : (latchBuffer p rec l).exit = .latched) :
    l.mRefreshPending = false ∧ hasReadyFrame p = true ∧ p.fenceHasSignaled = true ∧
      (∀ q ∈ scanPrefix (l.getHeadFrameNumber p) l.mLocalSyncPoints,
        q.frameAvailable = true ∧ q.transactionApplied = true) ∧
      (Ascending l.mLocalSyncPoints → ∀ q ∈ l.mLocalSyncPoints,
        q.frameNumber ≤ l.getHeadFrameNumber p →
          q.frameAvailable = true ∧ q.transactionApplied = true) := by
  have hg := (latchBuffer_latched h).1
  have hs := hg.signaled
  rw [allTransactionsSignaled_fst, List.all_eq_true] at hs
  have hscan : ∀ q ∈ scanPrefix (l.getHeadFrameNumber p) l.mLocalSyncPoints,
      q.frameAvailable = true ∧ q.transactionApplied = true := fun q hq => by
    simpa using hs q hq
  exact ⟨hg.notPending, hg.ready, hg.fence, hscan,
    fun ha q hq hle => hscan q (mem_scanPrefix_of_ascending ha hq hle)⟩

theorem latchBuffer_gates_ascending :
    (latchBuffer readyProducer false
        (idleLayer [⟨1, true, true, none⟩, ⟨5, false, false, none⟩])).exit = .latched ∧
      (idleLayer [⟨1, true, true, none⟩, ⟨5, false, false, none⟩]).mRefreshPending = false ∧
      hasReadyFrame readyProducer = true ∧ readyProducer.fenceHasSignaled = true ∧
      (∀ q ∈ scanPrefix
          ((idleLayer [⟨1, true, true, none⟩, ⟨5, false, false, none⟩]).getHeadFrameNumber
            readyProducer)
          (idleLayer [⟨1, true, true, none⟩, ⟨5, false, false, none⟩]).mLocalSyncPoints,
        q.frameAvailable = true ∧ q.transactionApplied = true) ∧
      (Ascending (idleLayer [⟨1, true, true, none⟩, ⟨5, false, false, none⟩]).mLocalSyncPoints →
        ∀ q ∈ (idleLayer [⟨1, true, true, none⟩, ⟨5, false, false, none⟩]).mLocalSyncPoints,
          q.frameNumber ≤
              (idleLayer [⟨1, true, true, none⟩, ⟨5, false, false, none⟩]).getHeadFrameNumber
                readyProducer →
            q.frameAvailable = true ∧ q.transactionApplied = true) :=
  ⟨by decide, @latchBuffer_gates readyProducer false _ (by decide)⟩

/-- **A buffer can become visible ahead of an unsatisfied sync point at or below the head frame**:
with a target-5 point ahead of an unavailable target-1 point and head frame 3, the scan stops at
the first point and the latch goes through. -/
theorem latchBuffer_outruns_unsorted_syncPoint :
    ¬ ∀ (p : Producer) (rec : Bool) (l : BufferLayer), (latchBuffer p rec l).exit = .latched →
      l.mRefreshPending = false ∧ hasReadyFrame p = true ∧ p.fenceHasSignaled = true ∧
        ∀ q ∈ l.mLocalSyncPoints, q.frameNumber ≤ l.getHeadFrameNumber p →
          q.frameAvailable = true ∧ q.transactionApplied = true := by
  intro h
  have := (h readyProducer false (idleLayer [⟨5, false, false, none⟩, ⟨1, false, false, none⟩])
    (by decide)).2.2.2 ⟨1, false, false, none⟩ (by simp [idleLayer]) (by decide)
  exact absurd this.1 (by decide)

/-- **`latchBuffer` latches a buffer exactly when every gate passes.** -/
theorem latchBuffer_latched_iff : (latchBuffer p rec l).exit = .latched ↔ LatchGates p l := by
  refine ⟨fun h => (latchBuffer_latched h).1, fun g => ?_⟩
  simp [latchBuffer, g.sideband, g.ready, g.notPending, g.fence, latchSignaled, g.signaled,
    acquireBuffer, g.texImage, g.activeBuffer, g.frameNumber, finishLatch]

/-! ## Exits returning `false` -/

/-- **What an exit returning `false` keeps**: `mRefreshPending`; every field of `mBufferInfo` but
the buffer, which is the one `updateActiveBuffer` made current when `updateFrameNumber` failed; the
drawing state, unless the call reached `updateTexImage`; and the sync points in order, with at most
the first unavailable reached flag raised. -/
theorem latchBuffer_returns_false_state (h : (latchBuffer p rec l).exit.returns = false) :
    (latchBuffer p rec l).layer.mRefreshPending = l.mRefreshPending ∧
      (latchBuffer p rec l).layer.mBufferInfo = { l.mBufferInfo with
        mBuffer := if (latchBuffer p rec l).exit = .frameNumberFailed then some p.activeBuffer
          else l.mBufferInfo.mBuffer } ∧
      (latchBuffer p rec l).layer.mDrawingState =
        (if (latchBuffer p rec l).exit.pastScan then p.texImageDrawingState.getD l.mDrawingState
          else l.mDrawingState) ∧
      ((latchBuffer p rec l).layer.mLocalSyncPoints = l.mLocalSyncPoints ∨
        ScanRaised (l.getHeadFrameNumber p) (latchBuffer p rec l).layer.mLocalSyncPoints
          l.mLocalSyncPoints) := by
  have hf := @latchBuffer_frame p rec l fun he => by
    rw [he] at h
    cases h
  have hb := congrArg BufferLayer.mBufferInfo hf.layer
  refine ⟨by rw [hf.layer], ?_, hf.drawingState, hf.syncPoints⟩
  rw [hb, hf.buffer]

/-- `readyProducer`'s frame, with `updateFrameNumber` failing with `BAD_VALUE`. -/
def frameNumberFailingProducer : Producer := { readyProducer with updateFrameNumber := -22 }

/-- The failure exit of `updateFrameNumber`, on a layer with no buffer yet. -/
theorem latchBuffer_returns_false_state_frameNumber :
    (latchBuffer frameNumberFailingProducer false (idleLayer [])).exit.returns = false ∧
      (latchBuffer frameNumberFailingProducer false (idleLayer [])).layer.mRefreshPending =
        (idleLayer []).mRefreshPending ∧
      (latchBuffer frameNumberFailingProducer false (idleLayer [])).layer.mBufferInfo =
        { (idleLayer []).mBufferInfo with
          mBuffer :=
            if (latchBuffer frameNumberFailingProducer false (idleLayer [])).exit =
              .frameNumberFailed then some frameNumberFailingProducer.activeBuffer
            else (idleLayer []).mBufferInfo.mBuffer } ∧
      (latchBuffer frameNumberFailingProducer false (idleLayer [])).layer.mDrawingState =
        (if (latchBuffer frameNumberFailingProducer false (idleLayer [])).exit.pastScan then
          frameNumberFailingProducer.texImageDrawingState.getD (idleLayer []).mDrawingState
        else (idleLayer []).mDrawingState) ∧
      ((latchBuffer frameNumberFailingProducer false (idleLayer [])).layer.mLocalSyncPoints =
          (idleLayer []).mLocalSyncPoints ∨
        ScanRaised ((idleLayer []).getHeadFrameNumber frameNumberFailingProducer)
          (latchBuffer frameNumberFailingProducer false (idleLayer [])).layer.mLocalSyncPoints
          (idleLayer []).mLocalSyncPoints) :=
  ⟨by decide, latchBuffer_returns_false_state (by decide)⟩

/-- **A failed latch keeps the buffer `updateActiveBuffer` made current**: on a layer with no
buffer, `updateActiveBuffer` makes the 16×16 buffer current and `updateFrameNumber` fails;
`latchBuffer` returns false with that buffer installed. -/
theorem latchBuffer_fails_with_new_buffer :
    (latchBuffer frameNumberFailingProducer false (idleLayer [])).exit = .frameNumberFailed ∧
      (latchBuffer frameNumberFailingProducer false (idleLayer [])).exit.returns = false ∧
      (idleLayer []).mBufferInfo.mBuffer = none ∧
      (latchBuffer frameNumberFailingProducer false (idleLayer [])).layer.mBufferInfo.mBuffer =
        some ⟨16, 16, 0⟩ := by
  decide

/-! ## Geometry invalidation

The detector at lines 405–429 compares raw `BufferInfo` fields; the getters derive sizes through
rotation swaps and fallbacks.  A latch that leaves the detector quiet keeps every field the getters
read (`sameGeometry_of_not_invalidated`), so no derived change slips past it. -/

/-- **A quiet detector means the same geometry and the same opacity**: an old buffer was present,
and crop, transform, scaling mode, display-inverse flag, buffer size and opacity all agree. -/
theorem sameGeometry_of_not_invalidated {op : Bool} {l' : BufferLayer}
    (h : geometryInvalidated l.mBufferInfo op l' = false) (hb : l'.mBufferInfo.mBuffer.isSome)
    (ho : l'.mOverrideScalingMode = l.mOverrideScalingMode) :
    SameGeometry l l' ∧ l'.isOpaque l'.mDrawingState = op := by
  unfold geometryInvalidated at h
  rcases hob : l.mBufferInfo.mBuffer with _ | ob
  · simp [hob] at h
  rcases hnb : l'.mBufferInfo.mBuffer with _ | nb
  · simp [hnb] at hb
  simp only [hob, hnb, Option.isNone_some, Bool.false_or, Bool.or_eq_false_iff, bne_eq_false_iff_eq]
    at h
  obtain ⟨⟨⟨⟨⟨hc, ht⟩, hs⟩, hd⟩, hw, hh⟩, hop⟩ := h
  exact ⟨⟨by simp [hob, hnb, hw, hh], hc, ht, hs, hd, ho⟩, hop.symm⟩

/-- **A latch that changes a geometry getter raises `recomputeVisibleRegions`, and no exit lowers
it.**  The getters are read against the drawing state before the call; a drawing state that
`updateTexImage` latches raises the flag itself. -/
theorem latchBuffer_recomputeVisibleRegions (o : UInt32) :
    ((latchBuffer p rec l).exit = .latched →
      ((latchBuffer p rec l).layer.getBufferSize o l.mDrawingState ≠
          l.getBufferSize o l.mDrawingState ∨
        (latchBuffer p rec l).layer.getBufferCrop ≠ l.getBufferCrop ∨
        (latchBuffer p rec l).layer.getBufferTransform ≠ l.getBufferTransform ∨
        (latchBuffer p rec l).layer.getTransformToDisplayInverse ≠ l.getTransformToDisplayInverse ∨
        (latchBuffer p rec l).layer.getEffectiveScalingMode ≠ l.getEffectiveScalingMode ∨
        (latchBuffer p rec l).layer.isOpaque l.mDrawingState ≠ l.isOpaque l.mDrawingState) →
      (latchBuffer p rec l).recomputeVisibleRegions = true) ∧
    (rec = true → (latchBuffer p rec l).recomputeVisibleRegions = true) := by
  by_cases h : (latchBuffer p rec l).exit = .latched
  · rw [(latchBuffer_latched h).2]
    refine ⟨fun _ hd => ?_, fun hr => by simp [finishLatch, updateTexImage_fst_of_true hr]⟩
    rcases hs : p.texImageDrawingState with _ | s
    · -- `updateTexImage` left the drawing state: the detector sees every change
      have hl : (updateTexImage p rec l).2 = l := by simp [updateTexImage, hs]
      rw [hl] at hd ⊢
      by_contra hq
      simp only [finishLatch, Bool.or_eq_true, not_or, Bool.not_eq_true] at hq
      obtain ⟨hg, hop⟩ := sameGeometry_of_not_invalidated hq.2 rfl rfl
      replace hg : SameGeometry l (finishLatch p (updateTexImage p rec l).1 l.mBufferInfo
        (l.isOpaque l.mDrawingState) (updateFrameNumber p (updateActiveBuffer p l))).layer :=
        { hg with }
      simp only [hg.getBufferSize_eq, hg.getBufferCrop_eq, hg.getEffectiveScalingMode_eq,
        getBufferTransform, getTransformToDisplayInverse, hg.transform,
        hg.transformToDisplayInverse, ne_eq, not_true_eq_false, false_or] at hd
      exact hd hop
    · -- `LayerRejecter` latched a drawing state, raising the flag itself
      simp [finishLatch, updateTexImage, hs]
  · exact ⟨fun h' => absurd h' h, (latchBuffer_frame h).recompute⟩

end BufferLayer

end SurfaceFlinger
