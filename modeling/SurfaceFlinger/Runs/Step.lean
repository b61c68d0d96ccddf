import SurfaceFlinger.Latch.Exits

/-!
# Runs/Step — the layer's operations, and what every run of them keeps

The operations of `BufferLayer.cpp` that write the layer: `latchBuffer`, `latchAndReleaseBuffer`,
`notifyAvailableFrames`, `allTransactionsSignaled`, `onPreComposition`, `onPostComposition`,
`prepareClientComposition` (which writes no member of the layer) and `updateCloneBufferInfo`.
`step` runs one of them and `run` a list of them, in any order.

Two lemmas say all one operation can do: `step_of_latches` (a buffer latch, made by `latchBuffer`
or inside `latchAndReleaseBuffer`) and `step_of_not_latches` (everything else).  From them:

* `run_syncPoints` — sync points leave the ledger only at a buffer latch, exactly those the new
  frame satisfies; every other operation only raises flags, so the ledger descends along a run and
  stays ascending;
* `latchBuffer_waits_for_composition` — between two buffer latches some operation cleared
  `mRefreshPending`: an `onPreComposition`, or the `latchAndReleaseBuffer` making the second latch;
* `run_reports_frames` — `onPostComposition` reports no more frames than the layer was given.
-/

namespace SurfaceFlinger

namespace BufferLayer

/-! ## The operations -/

/-- **`onPreComposition(refreshStartTime)`**: the composition that follows a latch ends the wait for
it; the answer is whether another frame is ready.  (The frame event history it feeds is not
modelled.) -/
def onPreComposition (p : Producer) (l : BufferLayer) : Bool × BufferLayer :=
  (hasReadyFrame p, { l with mRefreshPending := false })

/-- **`onPostComposition(...)`**: when a new frame was latched, report it to `mFrameTracker` and
`TimeStats` once and clear `mFrameLatencyNeeded`. -/
def onPostComposition (l : BufferLayer) : Bool × BufferLayer :=
  if !l.mBufferInfo.mFrameLatencyNeeded then (false, l)
  else (true, { l with
    mFrameTracker := l.mFrameTracker ++ [⟨l.mCurrentFrameNumber, l.mBufferInfo.mDesiredPresentTime⟩]
    mBufferInfo := { l.mBufferInfo with mFrameLatencyNeeded := false } })

/-- `onPostComposition` answers whether a frame was pending… -/
@[simp] theorem onPostComposition_fst (l : BufferLayer) :
    (onPostComposition l).1 = l.mBufferInfo.mFrameLatencyNeeded := by
  unfold onPostComposition
  split_ifs with h <;> simp_all

/-- …and leaves none pending, whether or not it reported. -/
@[simp] theorem onPostComposition_frameLatencyNeeded (l : BufferLayer) :
    (onPostComposition l).2.mBufferInfo.mFrameLatencyNeeded = false := by
  unfold onPostComposition
  split_ifs with h <;> simp_all

/-- …and adds a record to `mFrameTracker` exactly when it reports. -/
@[simp] theorem onPostComposition_frameTracker_length (l : BufferLayer) :
    (onPostComposition l).2.mFrameTracker.length =
      l.mFrameTracker.length + l.mBufferInfo.mFrameLatencyNeeded.toNat := by
  unfold onPostComposition
  split_ifs with h <;> simp_all

/-- **`latchAndReleaseBuffer()`**: clear `mRefreshPending`, then latch if a frame is ready,
ignoring `recomputeVisibleRegions`.  (`releasePendingBuffer` is producer-side.) -/
def latchAndReleaseBuffer (p : Producer) (l : BufferLayer) : BufferLayer :=
  let l := { l with mRefreshPending := false }
  if hasReadyFrame p then (latchBuffer p false l).layer else l

/-- **`updateCloneBufferInfo()`**, given the cloned-from layer when this layer is a clone whose
original is alive, `none` otherwise: copy what the original latched, and its drawing state. -/
def updateCloneBufferInfo (clonedFrom : Option BufferLayer) (l : BufferLayer) : BufferLayer :=
  match clonedFrom with
  | none => l
  | some c => { l with
      mBufferInfo := c.mBufferInfo
      mSidebandStream := c.mSidebandStream
      mCurrentFrameNumber := c.mCurrentFrameNumber
      mDrawingState := c.mDrawingState }

/-- **An operation on the layer**, with the producer's answers for that call. -/
inductive Op
  | latchBuffer (p : Producer) (recomputeVisibleRegions : Bool)
  | latchAndReleaseBuffer (p : Producer)
  | notifyAvailableFrames (p : Producer)
  | allTransactionsSignaled (p : Producer)
  | onPreComposition (p : Producer)
  | onPostComposition
  | prepareClientComposition
  | updateCloneBufferInfo (clonedFrom : Option BufferLayer)

/-- The layer after one operation.  `prepareClientComposition` writes the target settings and its
result, never the layer. -/
def step (l : BufferLayer) : Op → BufferLayer
  | .latchBuffer p r => (latchBuffer p r l).layer
  | .latchAndReleaseBuffer p => latchAndReleaseBuffer p l
  | .notifyAvailableFrames p => { l with
      mLocalSyncPoints := (notifyAvailableFrames (l.getHeadFrameNumber p) p.fenceHasSignaled
        p.framePresentTimeIsCurrent l.mLocalSyncPoints).1 }
  | .allTransactionsSignaled p => { l with
      mLocalSyncPoints := (allTransactionsSignaled (l.getHeadFrameNumber p) l.mLocalSyncPoints).2 }
  | .onPreComposition p => (onPreComposition p l).2
  | .onPostComposition => (onPostComposition l).2
  | .prepareClientComposition => l
  | .updateCloneBufferInfo c => updateCloneBufferInfo c l

/-- The layer after a run of operations, first to last. -/
def run (l : BufferLayer) (ops : List Op) : BufferLayer := ops.foldl step l

@[simp] theorem run_nil (l : BufferLayer) : run l [] = l := rfl

@[simp] theorem run_cons (l : BufferLayer) (op : Op) (ops : List Op) :
    run l (op :: ops) = run (step l op) ops := rfl

theorem run_append (l : BufferLayer) (xs ys : List Op) : run l (xs ++ ys) = run (run l xs) ys :=
  List.foldl_append _ _ _ _

/-- Whether `op`, from `l`, latches a buffer: a `latchBuffer` call, on its own or inside
`latchAndReleaseBuffer`, that returns through the buffer path. -/
def latchesBuffer (l : BufferLayer) : Op → Bool
  | .latchBuffer p r => (latchBuffer p r l).exit == .latched
  | .latchAndReleaseBuffer p =>
    hasReadyFrame p && (latchBuffer p false { l with mRefreshPending := false }).exit == .latched
  | _ => false

/-- The operations that clear `mRefreshPending`. -/
def Op.clearsRefreshPending : Op → Bool
  | .onPreComposition _ | .latchAndReleaseBuffer _ => true
  | _ => false

/-! ## What one operation can do -/

variable {l : BufferLayer} {op : Op}

/-- A `latchBuffer` call that latches no buffer only raises flags, and keeps `mRefreshPending` and
`mFrameLatencyNeeded`. -/
theorem latchBuffer_flagsRaised {p : Producer} {r : Bool}
    (h : (latchBuffer p r l).exit ≠ .latched) :
    FlagsRaised (latchBuffer p r l).layer.mLocalSyncPoints l.mLocalSyncPoints ∧
      (latchBuffer p r l).layer.mRefreshPending = l.mRefreshPending ∧
      (latchBuffer p r l).layer.mBufferInfo.mFrameLatencyNeeded =
        l.mBufferInfo.mFrameLatencyNeeded := by
  have hf := latchBuffer_frame h
  exact ⟨hf.syncPoints.elim (fun he => he ▸ FlagsRaised.refl _) ScanRaised.flagsRaised,
    by rw [hf.layer], by rw [hf.layer]⟩

/-- No exit of `latchBuffer` touches `mFrameTracker`… -/
theorem latchBuffer_frameTracker (p : Producer) (r : Bool) (l : BufferLayer) :
    (latchBuffer p r l).layer.mFrameTracker = l.mFrameTracker := by
  by_cases h : (latchBuffer p r l).exit = .latched
  · rw [latchBuffer_latched_layer h]
  · rw [(latchBuffer_frame h).layer]

/-- …and a buffer latch is the one exit that raises `mFrameLatencyNeeded`. -/
theorem latchBuffer_frameLatencyNeeded (p : Producer) (r : Bool) (l : BufferLayer) :
    (latchBuffer p r l).layer.mBufferInfo.mFrameLatencyNeeded =
      (l.mBufferInfo.mFrameLatencyNeeded || (latchBuffer p r l).exit == .latched) := by
  by_cases h : (latchBuffer p r l).exit = .latched
  · simp [latchBuffer_latched_layer h, h]
  · rw [(latchBuffer_flagsRaised h).2.2]
    simp [h]

/-- **What a buffer latch leaves**, whichever operation makes it: the producer's frame current,
`mRefreshPending` set, the sync points the frame satisfies gone; and the call found no refresh
pending, unless the operation cleared it first. -/
theorem step_of_latches (h : latchesBuffer l op = true) :
    ∃ p : Producer, (op.clearsRefreshPending = false → l.mRefreshPending = false) ∧
      (step l op).mCurrentFrameNumber = p.currentFrameNumber ∧
      (step l op).mRefreshPending = true ∧
      (step l op).mLocalSyncPoints = removeSyncPoints p.currentFrameNumber l.mLocalSyncPoints := by
  cases op with
  | latchBuffer p r =>
    have hl : (latchBuffer p r l).exit = .latched := by simpa [latchesBuffer] using h
    refine ⟨p, fun _ => (latchBuffer_latched hl).1.notPending, ?_⟩
    simp [step, latchBuffer_latched_layer hl]
  | latchAndReleaseBuffer p =>
    simp only [latchesBuffer, Bool.and_eq_true, beq_iff_eq] at h
    refine ⟨p, by simp [Op.clearsRefreshPending], ?_⟩
    simp [step, latchAndReleaseBuffer, h.1, latchBuffer_latched_layer h.2]
  | _ => simp [latchesBuffer] at h

/-- **What every other operation leaves**: the same sync points in the same order with at most
some flags raised, and `mRefreshPending` as it was unless the operation clears it. -/
theorem step_of_not_latches (h : latchesBuffer l op = false) :
    FlagsRaised (step l op).mLocalSyncPoints l.mLocalSyncPoints ∧
      (step l op).mRefreshPending = (l.mRefreshPending && !op.clearsRefreshPending) := by
  cases op with
  | latchBuffer p r =>
    obtain ⟨hf, hr, -⟩ := latchBuffer_flagsRaised (by simpa [latchesBuffer] using h)
    exact ⟨hf, by simp [step, hr, Op.clearsRefreshPending]⟩
  | latchAndReleaseBuffer p =>
    simp only [step, latchAndReleaseBuffer, Op.clearsRefreshPending, Bool.not_true, Bool.and_false]
    split_ifs with hr
    · simp only [latchesBuffer, hr, Bool.true_and, beq_eq_false_iff_ne] at h
      exact ⟨(latchBuffer_flagsRaised h).1, (latchBuffer_flagsRaised h).2.1⟩
    · exact ⟨FlagsRaised.refl _, rfl⟩
  | notifyAvailableFrames p =>
    exact ⟨notifyAvailableFrames_flagsRaised _ _ _ _, by simp [step, Op.clearsRefreshPending]⟩
  | allTransactionsSignaled p =>
    exact ⟨allTransactionsSignaled_flagsRaised _ _, by simp [step, Op.clearsRefreshPending]⟩
  | onPreComposition p =>
    exact ⟨FlagsRaised.refl _, by simp [step, onPreComposition, Op.clearsRefreshPending]⟩
  | onPostComposition =>
    simp only [step, onPostComposition, Op.clearsRefreshPending, Bool.not_false, Bool.and_true]
    split_ifs <;> exact ⟨FlagsRaised.refl _, rfl⟩
  | prepareClientComposition => exact ⟨FlagsRaised.refl _, by simp [step, Op.clearsRefreshPending]⟩
  | updateCloneBufferInfo c =>
    cases c <;>
      exact ⟨FlagsRaised.refl _, by simp [step, updateCloneBufferInfo, Op.clearsRefreshPending]⟩

/-! ## The ledger along a run -/

/-- A buffer latch drops exactly the sync points the frame it installed satisfies. -/
theorem step_syncPoints_of_latches (h : latchesBuffer l op = true) :
    (step l op).mLocalSyncPoints =
      l.mLocalSyncPoints.filter fun q => !q.satisfied (step l op).mCurrentFrameNumber := by
  obtain ⟨p, -, hc, -, hs⟩ := step_of_latches h
  rw [hs, hc]
  exact removeSyncPoints_eq_filter _ _

theorem step_descends (l : BufferLayer) (op : Op) :
    Descends (step l op).mLocalSyncPoints l.mLocalSyncPoints := by
  cases h : latchesBuffer l op
  · exact (step_of_not_latches h).1.descends
  · rw [step_syncPoints_of_latches h]
    exact Descends.of_sublist (List.filter_sublist _)

theorem run_descends (l : BufferLayer) (ops : List Op) :
    Descends (run l ops).mLocalSyncPoints l.mLocalSyncPoints := by
  induction ops generalizing l with
  | nil => exact Descends.refl _
  | cons op ops ih => exact (ih (step l op)).trans (step_descends l op)

/-- **Along any run, sync points leave the ledger only at a buffer latch, and then exactly those
the latched frame satisfies; every other operation keeps them in order and only raises flags.**
So over the whole run the ledger descends from the first one, and an ascending ledger stays
ascending. -/
theorem run_syncPoints (l : BufferLayer) (ops : List Op) :
    (∀ (s : BufferLayer) (op : Op),
      (latchesBuffer s op = true →
        (step s op).mLocalSyncPoints =
          s.mLocalSyncPoints.filter fun q => !q.satisfied (step s op).mCurrentFrameNumber) ∧
      (latchesBuffer s op = false → FlagsRaised (step s op).mLocalSyncPoints s.mLocalSyncPoints)) ∧
    Descends (run l ops).mLocalSyncPoints l.mLocalSyncPoints ∧
    (Ascending l.mLocalSyncPoints → Ascending (run l ops).mLocalSyncPoints) :=
  ⟨fun _ _ => ⟨step_syncPoints_of_latches, fun h => (step_of_not_latches h).1⟩,
    run_descends l ops, Ascending.of_descends (run_descends l ops)⟩

/-! ## `mRefreshPending` along a run -/

theorem step_refreshPending_of_latches (h : latchesBuffer l op = true) :
    (step l op).mRefreshPending = true := by
  obtain ⟨p, -, -, hr, -⟩ := step_of_latches h
  exact hr

/-- An operation that does not clear `mRefreshPending` keeps it set. -/
theorem step_refreshPending (hp : l.mRefreshPending = true) (hc : op.clearsRefreshPending = false) :
    (step l op).mRefreshPending = true := by
  cases h : latchesBuffer l op
  · rw [(step_of_not_latches h).2, hp, hc]
    rfl
  · exact step_refreshPending_of_latches h

theorem run_refreshPending (hp : l.mRefreshPending = true) (ops : List Op)
    (hc : ∀ o ∈ ops, o.clearsRefreshPending = false) : (run l ops).mRefreshPending = true := by
  induction ops generalizing l with
  | nil => exact hp
  | cons op ops ih =>
    exact ih (step_refreshPending hp (hc op (List.mem_cons_self _ _)))
      fun o ho => hc o (List.mem_cons_of_mem _ ho)

/-- **Between two buffer latches the layer went through a composition step**: some operation in
between is an `onPreComposition` or a `latchAndReleaseBuffer`, or the second latch is made by
`latchAndReleaseBuffer` itself. -/
theorem latchBuffer_waits_for_composition (l : BufferLayer) (pre mid : List Op) (a b : Op)
    (ha : latchesBuffer (run l pre) a = true)
    (hb : latchesBuffer (run l (pre ++ a :: mid)) b = true) :
    (∃ o ∈ mid, o.clearsRefreshPending = true) ∨ b.clearsRefreshPending = true := by
  by_contra hn
  simp only [not_or, not_exists, not_and, Bool.not_eq_true] at hn
  have hpend : (run l (pre ++ a :: mid)).mRefreshPending = true := by
    rw [run_append, run_cons]
    exact run_refreshPending (step_refreshPending_of_latches ha) mid hn.1
  obtain ⟨p, hp, -⟩ := step_of_latches hb
  rw [hp hn.2] at hpend
  cases hpend

theorem latchBuffer_waits_for_composition_twice :
    latchesBuffer (run (idleLayer []) []) (.latchBuffer readyProducer false) = true ∧
      latchesBuffer (run (idleLayer []) ([] ++ .latchBuffer readyProducer false ::
        [.onPreComposition readyProducer])) (.latchBuffer readyProducer false) = true ∧
      ((∃ o ∈ [Op.onPreComposition readyProducer], o.clearsRefreshPending = true) ∨
        (Op.latchBuffer readyProducer false).clearsRefreshPending = true) :=
  ⟨by decide, by decide, latchBuffer_waits_for_composition (idleLayer []) []
    [.onPreComposition readyProducer] (.latchBuffer readyProducer false)
    (.latchBuffer readyProducer false) (by decide) (by decide)⟩

/-! ## Frames reported along a run

`onPostComposition` reports a frame when `mFrameLatencyNeeded` is set, and clears it; a buffer latch
sets it, and so does `updateCloneBufferInfo` copying an original that has not reported its frame.
Counting both along a run, `mFrameTracker` grows by one record per report, and no frame is reported
twice (`run_reports_frames`). -/

/-- Whether `op`, from `l`, reports a frame: an `onPostComposition` that returns `true`. -/
def reportsFrame (l : BufferLayer) : Op → Bool
  | .onPostComposition => (onPostComposition l).1
  | _ => false

/-- Whether `op`, from `l`, gives the layer a frame to report: a buffer latch, or a copy of an
original with a frame it has not reported. -/
def givesFrame (l : BufferLayer) : Op → Bool
  | .updateCloneBufferInfo (some c) => c.mBufferInfo.mFrameLatencyNeeded
  | op => latchesBuffer l op

/-- How many operations of a run from `l` satisfy `f` at the state each one starts from. -/
def countAlong (f : BufferLayer → Op → Bool) : BufferLayer → List Op → Nat
  | _, [] => 0
  | l, op :: ops => (f l op).toNat + countAlong f (step l op) ops

/-- One operation adds a record to `mFrameTracker` exactly when it reports, and a report takes the
pending frame away while only a frame given can leave one pending. -/
theorem step_frames (l : BufferLayer) (op : Op) :
    (step l op).mFrameTracker.length = l.mFrameTracker.length + (reportsFrame l op).toNat ∧
      (step l op).mBufferInfo.mFrameLatencyNeeded.toNat + (reportsFrame l op).toNat ≤
        l.mBufferInfo.mFrameLatencyNeeded.toNat + (givesFrame l op).toNat := by
  cases op with
  | latchBuffer p r =>
    simp only [step, reportsFrame, givesFrame, latchesBuffer, latchBuffer_frameTracker,
      latchBuffer_frameLatencyNeeded]
    cases l.mBufferInfo.mFrameLatencyNeeded <;> cases (latchBuffer p r l).exit == .latched <;> simp
  | latchAndReleaseBuffer p =>
    simp only [step, latchAndReleaseBuffer, reportsFrame, givesFrame, latchesBuffer]
    split_ifs with hr
    · simp only [latchBuffer_frameTracker, latchBuffer_frameLatencyNeeded, hr, Bool.true_and]
      cases l.mBufferInfo.mFrameLatencyNeeded <;>
        cases (latchBuffer p false { l with mRefreshPending := false }).exit == .latched <;> simp
    · simp
  | onPostComposition => simp [step, reportsFrame]
  | updateCloneBufferInfo c =>
    cases c <;> simp [step, reportsFrame, givesFrame, updateCloneBufferInfo, latchesBuffer]
  | _ => simp [step, reportsFrame, givesFrame, latchesBuffer, onPreComposition]

/-- **Every frame given is reported at most once**: along any run, `mFrameTracker` gains one record
per report, and the reports, with one more if a frame is pending at the end, are at most the frames
given — buffer latches and copies of an unreported frame — with one more if a frame was pending at
the start. -/
theorem run_reports_frames (l : BufferLayer) (ops : List Op) :
    (run l ops).mFrameTracker.length = l.mFrameTracker.length + countAlong reportsFrame l ops ∧
      countAlong reportsFrame l ops + (run l ops).mBufferInfo.mFrameLatencyNeeded.toNat ≤
        countAlong givesFrame l ops + l.mBufferInfo.mFrameLatencyNeeded.toNat := by
  induction ops generalizing l with
  | nil => simp [countAlong]
  | cons op ops ih =>
    obtain ⟨ht, hf⟩ := step_frames l op
    obtain ⟨iht, ihf⟩ := ih (step l op)
    simp only [run_cons, countAlong]
    constructor <;> omega

end BufferLayer

end SurfaceFlinger
