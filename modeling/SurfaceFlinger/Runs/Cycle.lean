import SurfaceFlinger.Runs.Retry
import SurfaceFlinger.Composition.ClientComposition

/-!
# Runs/Cycle — refresh after refresh, every frame latched is reported once

SurfaceFlinger drives a layer once per refresh, in one order: the latch (`handlePageFlip`), then
`onPreComposition`, the client composition, and `onPostComposition` — `refreshCycle`.  The latch
sets `mRefreshPending` and `mFrameLatencyNeeded`; `onPreComposition` clears the first, so the next
refresh may latch again, and `onPostComposition` reports the frame and clears the second.

`Settled` is the state between two refreshes with no transaction outstanding: no refresh pending,
and every sync point available and applied.  `refreshCycles_report_every_frame`: from a settled
layer, with a producer that passes its gates at every refresh, every refresh latches, the layer is
settled again after it, and `mFrameTracker` gains exactly the frames latched, in order, each with
its desired present time.

The other side of a refresh: SurfaceFlinger redraws a layer when `latchBuffer` returns true.  A
call returning false can still change the picture, since the producer updates undo nothing: the
drawing state `updateTexImage` latched stays, and so does the buffer `updateActiveBuffer` made
current when `updateFrameNumber` then fails.  `run_composes_as_without_latch`: along any run with
no such call and no clone copying its original, the layer composes exactly as it did at the start.
Composition never reads the refresh and frame-report bookkeeping (`composesAs_bookkeeping`), and
every other operation touches only that and the sync points.
-/

namespace SurfaceFlinger

/-- What `onPostComposition` records for the frame `p` latches. -/
def Producer.frameRecord (p : Producer) : FrameRecord :=
  ⟨p.currentFrameNumber, p.bufferInfo.mDesiredPresentTime⟩

/-- Whether a `latchBuffer` call with the producer's answers `p` can leave a different picture: it
returns true, or a producer update it reached left its effect — a drawing state `LayerRejecter`
latched, or the buffer `updateActiveBuffer` made current before `updateFrameNumber` failed. -/
def LatchResult.changesPicture (p : Producer) (r : LatchResult) : Bool :=
  r.exit.returns || r.exit.pastScan && p.texImageDrawingState.isSome ||
    r.exit == .frameNumberFailed

namespace BufferLayer

/-- **One refresh of the compositor** for this layer, in the order SurfaceFlinger drives it. -/
def refreshCycle (p : Producer) : List Op :=
  [.latchBuffer p false, .onPreComposition p, .prepareClientComposition, .onPostComposition]

/-- **A layer between two refreshes with no transaction outstanding**: no refresh pending, and
every sync point's frame available and its transaction applied. -/
structure Settled (l : BufferLayer) : Prop where
  notPending : l.mRefreshPending = false
  applied : ∀ q ∈ l.mLocalSyncPoints, q.frameAvailable = true ∧ q.transactionApplied = true

/-- The producer's side of the gates of a buffer latch: no sideband latch, a ready frame, a
signaled fence, and three successful updates. -/
structure ProducerReady (p : Producer) : Prop where
  sideband : p.latchSidebandStream = none
  ready : hasReadyFrame p = true
  fence : p.fenceHasSignaled = true
  texImage : p.updateTexImage.1 = NO_ERROR
  activeBuffer : p.updateActiveBuffer = NO_ERROR
  frameNumber : p.updateFrameNumber = NO_ERROR

variable {p : Producer} {l : BufferLayer}

/-- On a settled layer a ready producer's latch goes through. -/
theorem latchBuffer_of_settled (hl : Settled l) (hp : ProducerReady p) :
    (latchBuffer p false l).exit = .latched := by
  have hs : (allTransactionsSignaled (l.getHeadFrameNumber p) l.mLocalSyncPoints).1 = true := by
    rw [allTransactionsSignaled_fst, List.all_eq_true]
    intro q hq
    simpa using hl.applied q ((List.takeWhile_sublist _).subset hq)
  simp [latchBuffer, hp.sideband, hp.ready, hl.notPending, hp.fence, latchSignaled, hs,
    acquireBuffer, hp.texImage, hp.activeBuffer, hp.frameNumber, finishLatch]

/-- **The layer after one refresh from a settled layer**: the frame installed, no refresh pending,
the satisfied sync points gone, the frame recorded and no frame left to report. -/
theorem run_refreshCycle_eq (hl : Settled l) (hp : ProducerReady p) :
    run l (refreshCycle p) = { l with
      mBufferInfo := { p.bufferInfo with
        mBuffer := some p.activeBuffer
        mFrameLatencyNeeded := false }
      mDrawingState := p.texImageDrawingState.getD l.mDrawingState
      mCurrentFrameNumber := p.currentFrameNumber
      mRefreshPending := false
      mLocalSyncPoints := removeSyncPoints p.currentFrameNumber l.mLocalSyncPoints
      mFrameTracker := l.mFrameTracker ++ [p.frameRecord] } := by
  simp [refreshCycle, step, latchBuffer_latched_layer (latchBuffer_of_settled hl hp),
    onPreComposition, onPostComposition, Producer.frameRecord]

/-- **One refresh from a settled layer**: the latch goes through, the layer is settled again, and
`mFrameTracker` gains the latched frame. -/
theorem run_refreshCycle (hl : Settled l) (hp : ProducerReady p) :
    latchesBuffer l (.latchBuffer p false) = true ∧ Settled (run l (refreshCycle p)) ∧
      (run l (refreshCycle p)).mFrameTracker = l.mFrameTracker ++ [p.frameRecord] := by
  rw [run_refreshCycle_eq hl hp]
  refine ⟨by simp [latchesBuffer, latchBuffer_of_settled hl hp], ⟨rfl, fun q hq => ?_⟩, rfl⟩
  rw [removeSyncPoints_eq_filter] at hq
  exact hl.applied q (List.mem_of_mem_filter hq)

/-- **Refresh after refresh, every frame latched is reported once, in order**: from a settled
layer, with a producer that passes its gates at every refresh, each refresh latches, the layer is
settled after the last one, and `mFrameTracker` gains exactly one record per refresh — the frame
that refresh latched, with its desired present time. -/
theorem refreshCycles_report_every_frame (l : BufferLayer) (ps : List Producer)
    (hl : Settled l) (hps : ∀ p ∈ ps, ProducerReady p) :
    (∀ pre p post, ps = pre ++ p :: post →
      latchesBuffer (run l (pre.flatMap refreshCycle)) (.latchBuffer p false) = true) ∧
      Settled (run l (ps.flatMap refreshCycle)) ∧
      (run l (ps.flatMap refreshCycle)).mFrameTracker =
        l.mFrameTracker ++ ps.map Producer.frameRecord := by
  induction ps generalizing l with
  | nil => exact ⟨fun pre _ _ h => absurd h (by simp), hl, by simp⟩
  | cons p ps ih =>
    obtain ⟨hlatch, hs, ht⟩ := run_refreshCycle hl (hps p (List.mem_cons_self _ _))
    obtain ⟨ihl, ihs, iht⟩ := ih _ hs fun q hq => hps q (List.mem_cons_of_mem _ hq)
    simp only [List.flatMap_cons, run_append]
    refine ⟨fun pre q post he => ?_, ihs, by rw [iht, ht, List.map_cons, List.append_assoc]; rfl⟩
    cases pre with
    | nil =>
      obtain ⟨rfl, -⟩ := List.cons_eq_cons.1 he
      exact hlatch
    | cons r pre =>
      obtain ⟨rfl, hrest⟩ := List.cons_eq_cons.1 he
      simpa [List.flatMap_cons, run_append] using ihl pre q post hrest

/-- The producer of the frame after `readyProducer`'s. -/
def nextProducer : Producer := { readyProducer with getFrameNumber := 4, currentFrameNumber := 4 }

/-- Frames 3 and 4, one refresh each, from a layer with nothing pending. -/
theorem refreshCycles_report_frames_three_four :
    Settled (idleLayer []) ∧ (∀ p ∈ [readyProducer, nextProducer], ProducerReady p) ∧
      (∀ pre p post, [readyProducer, nextProducer] = pre ++ p :: post →
        latchesBuffer (run (idleLayer []) (pre.flatMap refreshCycle)) (.latchBuffer p false) =
          true) ∧
      Settled (run (idleLayer []) ([readyProducer, nextProducer].flatMap refreshCycle)) ∧
      (run (idleLayer []) ([readyProducer, nextProducer].flatMap refreshCycle)).mFrameTracker =
        (idleLayer []).mFrameTracker ++ [readyProducer, nextProducer].map Producer.frameRecord :=
  have hl : Settled (idleLayer []) := ⟨rfl, fun _ h => absurd h (List.not_mem_nil _)⟩
  have hps : ∀ p ∈ [readyProducer, nextProducer], ProducerReady p := fun p hp => by
    simp only [List.mem_cons, List.mem_singleton, List.not_mem_nil, or_false] at hp
    rcases hp with rfl | rfl <;> exact ⟨rfl, rfl, rfl, rfl, rfl, rfl⟩
  ⟨hl, hps, refreshCycles_report_every_frame (idleLayer []) [readyProducer, nextProducer] hl hps⟩

example : (run (idleLayer []) ([readyProducer, nextProducer].flatMap refreshCycle)).mFrameTracker =
    [⟨3, 0⟩, ⟨4, 0⟩] := by
  decide

/-! ## Refreshes that latch nothing -/

/-- **`l` composes as `l'`**: the same layer settings and target settings from
`prepareClientComposition` in every composition, the same source bounds and buffer size at every
display orientation, and the same opacity. -/
structure ComposesAs (l l' : BufferLayer) : Prop where
  draws : ∀ {R : Type} (regions : RegionOps R) (ctx : CompositionContext R)
    (targetSettings : ClientCompositionTargetSettings R),
    prepareClientComposition regions ctx l targetSettings =
      prepareClientComposition regions ctx l' targetSettings
  sourceBounds : ∀ (o : UInt32) (parentBounds : FloatRect),
    l.computeSourceBounds o parentBounds = l'.computeSourceBounds o parentBounds
  bufferSize : ∀ o : UInt32, l.getBufferSize o l.mDrawingState = l'.getBufferSize o l'.mDrawingState
  opacity : l.isOpaque l.mDrawingState = l'.isOpaque l'.mDrawingState

/-- Whether `op`, from `l`, can change what the layer shows: a `latchBuffer` call, on its own or
inside `latchAndReleaseBuffer`, that changes the picture, or a clone's copy of its original. -/
def changesPicture (l : BufferLayer) : Op → Bool
  | .latchBuffer p r => (latchBuffer p r l).changesPicture p
  | .latchAndReleaseBuffer p =>
    hasReadyFrame p && (latchBuffer p false { l with mRefreshPending := false }).changesPicture p
  | .updateCloneBufferInfo c => c.isSome
  | _ => false

theorem ComposesAs.refl (l : BufferLayer) : ComposesAs l l :=
  ⟨fun _ _ _ => rfl, fun _ _ => rfl, fun _ => rfl, rfl⟩

theorem ComposesAs.trans {l₁ l₂ l₃ : BufferLayer} (h₁ : ComposesAs l₁ l₂)
    (h₂ : ComposesAs l₂ l₃) : ComposesAs l₁ l₃ :=
  ⟨fun regions ctx t => (h₁.draws regions ctx t).trans (h₂.draws regions ctx t),
    fun o b => (h₁.sourceBounds o b).trans (h₂.sourceBounds o b),
    fun o => (h₁.bufferSize o).trans (h₂.bufferSize o), h₁.opacity.trans h₂.opacity⟩

/-- **Composition reads none of the bookkeeping**: `mRefreshPending`, the sync points,
`mFrameTracker` and `mFrameLatencyNeeded`. -/
theorem composesAs_bookkeeping (l : BufferLayer) (pending : Bool) (points : List SyncPoint)
    (tracker : List FrameRecord) (latency : Bool) :
    ComposesAs { l with
        mRefreshPending := pending
        mLocalSyncPoints := points
        mFrameTracker := tracker
        mBufferInfo := { l.mBufferInfo with mFrameLatencyNeeded := latency } } l :=
  ⟨fun _ _ _ => rfl, fun _ _ => rfl, fun _ => rfl, rfl⟩

/-- A `latchBuffer` call that changes no picture composes as the layer before it: it kept the
sideband stream, the drawing state and the buffer. -/
theorem latchBuffer_composesAs {p : Producer} {r : Bool} {l : BufferLayer}
    (h : (latchBuffer p r l).changesPicture p = false) :
    ComposesAs (latchBuffer p r l).layer l := by
  simp only [LatchResult.changesPicture, Bool.or_eq_false_iff, Bool.and_eq_false_iff,
    beq_eq_false_iff_ne] at h
  obtain ⟨⟨hr, hd⟩, hb⟩ := h
  have hf := @latchBuffer_frame p r l fun he => by
    simp [he, LatchExit.returns] at hr
  have hds : (if (latchBuffer p r l).exit.pastScan then p.texImageDrawingState.getD l.mDrawingState
      else l.mDrawingState) = l.mDrawingState := by
    split_ifs with hp
    · rcases hq : p.texImageDrawingState with _ | s
      · rfl
      · simp [hp, hq] at hd
    · rfl
  rw [hf.layer, hf.sideband fun he => by simp [he, LatchExit.returns] at hr, hf.drawingState, hds,
    hf.buffer, if_neg hb]
  exact composesAs_bookkeeping l _ _ _ _

/-- **An operation that changes no picture is a stuttering step of what the layer shows.** -/
theorem step_composesAs (l : BufferLayer) (op : Op) (h : changesPicture l op = false) :
    ComposesAs (step l op) l := by
  cases op with
  | latchBuffer p r => exact latchBuffer_composesAs h
  | latchAndReleaseBuffer p =>
    simp only [step, latchAndReleaseBuffer]
    split_ifs with hr
    · simp only [changesPicture, hr, Bool.true_and] at h
      exact (latchBuffer_composesAs h).trans (composesAs_bookkeeping l _ _ _ _)
    · exact composesAs_bookkeeping l _ _ _ _
  | notifyAvailableFrames p | allTransactionsSignaled p | onPreComposition p =>
    exact composesAs_bookkeeping l _ _ _ _
  | onPostComposition =>
    simp only [step, onPostComposition]
    split_ifs
    exacts [.refl l, composesAs_bookkeeping l _ _ _ _]
  | prepareClientComposition => exact .refl l
  | updateCloneBufferInfo c =>
    cases c with
    | none => exact .refl l
    | some c => cases h

/-- **Nothing latched, nothing changes on screen**: along any run in which no `latchBuffer` call
returns true or leaves a producer update's effect, and no clone copies its original, the layer
composes exactly as it did at the start —
the same layer settings and target settings from `prepareClientComposition` in every composition,
and the same source bounds, buffer size and opacity. -/
theorem run_composes_as_without_latch (l : BufferLayer) (ops : List Op)
    (h : countAlong changesPicture l ops = 0) : ComposesAs (run l ops) l := by
  induction ops generalizing l with
  | nil => exact .refl l
  | cons op ops ih =>
    simp only [countAlong, Nat.add_eq_zero, Bool.toNat_eq_zero] at h
    exact (ih (step l op) h.2).trans (step_composesAs l op h.1)

/-- A refresh held back by a sync point of layer 7 whose frame 2 is not yet available. -/
theorem refused_refresh_composes_as_before :
    countAlong changesPicture (idleLayer [⟨2, false, false, some 7⟩])
        (refreshCycle readyProducer) = 0 ∧
      ComposesAs (run (idleLayer [⟨2, false, false, some 7⟩]) (refreshCycle readyProducer))
        (idleLayer [⟨2, false, false, some 7⟩]) :=
  have h : countAlong changesPicture (idleLayer [⟨2, false, false, some 7⟩])
      (refreshCycle readyProducer) = 0 := by decide
  ⟨h, run_composes_as_without_latch _ _ h⟩

end BufferLayer

end SurfaceFlinger
