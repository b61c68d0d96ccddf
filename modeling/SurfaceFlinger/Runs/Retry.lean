import SurfaceFlinger.Runs.Step

/-!
# Runs/Retry — a latch held back by sync points goes through after finitely many attempts

`allTransactionsSignaled` stops at the first reached sync point whose frame is not yet available,
raises its flag, and refuses the latch.  So a layer whose producer keeps a frame ready, with its
fence signaled, its updates succeeding and every reached transaction applied, is refused once per
reached point still waiting for its frame, each refusal raising one of those points' flags, and
latches at the attempt after (`latchBuffer_latches_after_pendingFrames`).  The refusals leave
everything but those flags as it was, so each attempt faces the same head frame and one point
fewer to wait for.
-/

namespace SurfaceFlinger

namespace BufferLayer

/-- The gates of a buffer latch other than the sync points: no sideband latch, a ready frame, no
pending refresh, a signaled fence, and three successful updates. -/
structure AcquireGates (p : Producer) (l : BufferLayer) : Prop where
  sideband : p.latchSidebandStream = none
  ready : hasReadyFrame p = true
  notPending : l.mRefreshPending = false
  fence : p.fenceHasSignaled = true
  texImage : p.updateTexImage.1 = NO_ERROR
  activeBuffer : p.updateActiveBuffer = NO_ERROR
  frameNumber : p.updateFrameNumber = NO_ERROR

variable {p : Producer} {l : BufferLayer}

/-- A refused attempt: a reached point still waits for its frame, and the scan raises its flag. -/
theorem latchBuffer_of_pendingFrames_pos (hg : AcquireGates p l)
    (hp : 0 < pendingFrames (l.getHeadFrameNumber p) l.mLocalSyncPoints) :
    latchBuffer p false l = ⟨.transactionsPending, false, { l with mLocalSyncPoints :=
      (allTransactionsSignaled (l.getHeadFrameNumber p) l.mLocalSyncPoints).2 }⟩ := by
  simp [latchBuffer, hg.sideband, hg.ready, hg.notPending, hg.fence, latchSignaled,
    (allTransactionsSignaled_of_pendingFrames_pos hp).1]

/-- With no reached point waiting for its frame and every reached transaction applied, the
attempt latches. -/
theorem latchBuffer_of_pendingFrames_zero (hg : AcquireGates p l)
    (hp : pendingFrames (l.getHeadFrameNumber p) l.mLocalSyncPoints = 0)
    (happ : (scanPrefix (l.getHeadFrameNumber p) l.mLocalSyncPoints).all (·.transactionApplied)) :
    (latchBuffer p false l).exit = .latched := by
  simp [latchBuffer, hg.sideband, hg.ready, hg.notPending, hg.fence, latchSignaled,
    allTransactionsSignaled_of_pendingFrames_zero hp, happ, acquireBuffer, hg.texImage,
    hg.activeBuffer, hg.frameNumber, finishLatch]

/-- **A latch held back only by frames not yet available goes through**: with every gate but the
sync points passing and every reached transaction applied, `latchBuffer` is refused once for each
reached sync point still waiting for its frame — each refusal returns false and raises the flag of
one of those points — and latches at the attempt after. -/
theorem latchBuffer_latches_after_pendingFrames (p : Producer) (l : BufferLayer)
    (hg : AcquireGates p l)
    (happ : ∀ q ∈ scanPrefix (l.getHeadFrameNumber p) l.mLocalSyncPoints,
      q.transactionApplied = true) :
    (∀ i < pendingFrames (l.getHeadFrameNumber p) l.mLocalSyncPoints,
      (latchBuffer p false (run l (List.replicate i (.latchBuffer p false)))).exit.returns =
        false ∧
      ScanRaised (l.getHeadFrameNumber p)
        (latchBuffer p false (run l (List.replicate i (.latchBuffer p false)))).layer.mLocalSyncPoints
        (run l (List.replicate i (.latchBuffer p false))).mLocalSyncPoints) ∧
    latchesBuffer (run l (List.replicate (pendingFrames (l.getHeadFrameNumber p) l.mLocalSyncPoints)
      (.latchBuffer p false))) (.latchBuffer p false) = true := by
  generalize hn : pendingFrames (l.getHeadFrameNumber p) l.mLocalSyncPoints = n
  induction n generalizing l with
  | zero =>
    refine ⟨fun i hi => absurd hi (Nat.not_lt_zero _), ?_⟩
    simpa [latchesBuffer] using latchBuffer_of_pendingFrames_zero hg hn (List.all_eq_true.2 happ)
  | succ n ih =>
    have hpos : 0 < pendingFrames (l.getHeadFrameNumber p) l.mLocalSyncPoints := by omega
    have hstep := latchBuffer_of_pendingFrames_pos hg hpos
    have hr := (allTransactionsSignaled_of_pendingFrames_pos hpos).2
    have happ' : ∀ b ∈ (scanPrefix (l.getHeadFrameNumber p) l.mLocalSyncPoints).map
        (·.transactionApplied), b = true := List.forall_mem_map.2 happ
    rw [← hr.map_transactionApplied] at happ'
    obtain ⟨ihf, iht⟩ := ih { l with mLocalSyncPoints :=
        (allTransactionsSignaled (l.getHeadFrameNumber p) l.mLocalSyncPoints).2 } { hg with }
      (List.forall_mem_map.1 happ') (Nat.succ.inj (hr.pendingFrames_succ.trans hn))
    have hl : step l (.latchBuffer p false) = _ := congrArg LatchResult.layer hstep
    refine ⟨fun i hi => ?_, by rw [List.replicate_succ, run_cons, hl]; exact iht⟩
    cases i with
    | zero => exact ⟨by simp [hstep, LatchExit.returns], by simpa [hstep] using hr⟩
    | succ i =>
      rw [List.replicate_succ, run_cons, hl]
      exact ihf i (by omega)

/-- A 16×16 layer waiting on two sync points whose transactions are applied but whose frames are
not yet available. -/
def waitingLayer : BufferLayer := idleLayer [⟨1, false, true, none⟩, ⟨2, false, true, none⟩]

/-- Two refusals, then the latch. -/
theorem latchBuffer_latches_after_two_refusals :
    AcquireGates readyProducer waitingLayer ∧
      (∀ q ∈ scanPrefix (waitingLayer.getHeadFrameNumber readyProducer)
        waitingLayer.mLocalSyncPoints, q.transactionApplied = true) ∧
      (∀ i < pendingFrames (waitingLayer.getHeadFrameNumber readyProducer)
          waitingLayer.mLocalSyncPoints,
        (latchBuffer readyProducer false
            (run waitingLayer (List.replicate i (.latchBuffer readyProducer false)))).exit.returns =
          false ∧
        ScanRaised (waitingLayer.getHeadFrameNumber readyProducer)
          (latchBuffer readyProducer false (run waitingLayer
            (List.replicate i (.latchBuffer readyProducer false)))).layer.mLocalSyncPoints
          (run waitingLayer (List.replicate i (.latchBuffer readyProducer false))).mLocalSyncPoints) ∧
      latchesBuffer (run waitingLayer (List.replicate
          (pendingFrames (waitingLayer.getHeadFrameNumber readyProducer)
            waitingLayer.mLocalSyncPoints) (.latchBuffer readyProducer false)))
        (.latchBuffer readyProducer false) = true :=
  have hg : AcquireGates readyProducer waitingLayer := ⟨rfl, rfl, rfl, rfl, rfl, rfl, rfl⟩
  have happ : ∀ q ∈ scanPrefix (waitingLayer.getHeadFrameNumber readyProducer)
      waitingLayer.mLocalSyncPoints, q.transactionApplied = true := by decide
  ⟨hg, happ, latchBuffer_latches_after_pendingFrames readyProducer waitingLayer hg happ⟩

example : pendingFrames (waitingLayer.getHeadFrameNumber readyProducer)
    waitingLayer.mLocalSyncPoints = 2 := by
  decide

end BufferLayer

end SurfaceFlinger
