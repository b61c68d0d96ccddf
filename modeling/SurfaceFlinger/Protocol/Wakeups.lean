import SurfaceFlinger.Runs.Step

/-!
# Protocol/Wakeups — who is told when a sync point's frame becomes available

A transaction that waits on this layer is applied by the layer that asked for it, never by this
file: `BufferLayer.cpp` only raises `frameAvailable`, and what makes the waiting layer look again is
the request sent with the raise.

* `notifyAvailableFrames` sets `eTransactionNeeded` on the requesting layer of every sync point it
  makes available (line 472);
* `allTransactionsSignaled` tells no one, but its one caller, `latchBuffer`, sets `eTraversalNeeded`
  on the flinger when the scan holds the latch back (line 382).

`step_wakes_requesters`: outside the bare scan, no operation makes a frame available without one of
those requests — a buffer latch only drops sync points, and every other operation raises a flag
only while it wakes the layer waiting on it.
-/

namespace SurfaceFlinger

/-- **A request sent outside the layer** by the operations of this file. -/
inductive Wakeup
  /-- `mFlinger->signalLayerUpdate()`: try the latch again at the next refresh. -/
  | signalLayerUpdate
  /-- `mFlinger->setTransactionFlags(eTraversalNeeded)`: look at every layer's transactions. -/
  | traversalNeeded
  /-- `requestedSyncLayer->setTransactionFlags(eTransactionNeeded)`. -/
  | transactionNeeded (layer : LayerId)
deriving DecidableEq, Repr

/-- The requests `latchBuffer` sends on the way to an exit: `signalLayerUpdate` when the acquire
fence has not signaled (line 371), `eTraversalNeeded` when a sync point holds the latch back
(line 382). -/
def LatchExit.wakeups : LatchExit → List Wakeup
  | .fenceUnsignaled => [.signalLayerUpdate]
  | .transactionsPending => [.traversalNeeded]
  | _ => []

/-- **`q'` is `q`, or `q` made available while `ws` wakes the layer waiting on it**: a traversal of
every layer's transactions, or `eTransactionNeeded` on `q`'s requesting layer while it is alive. -/
def WokenRaised (ws : List Wakeup) (q' q : SyncPoint) : Prop :=
  q' = q ∨ q' = q.setFrameAvailable ∧
    (.traversalNeeded ∈ ws ∨ ∀ r, q.requestedSyncLayer = some r → .transactionNeeded r ∈ ws)

theorem wokenRaised_refl (ws : List Wakeup) (points : List SyncPoint) :
    List.Forall₂ (WokenRaised ws) points points :=
  List.forall₂_same.2 fun _ _ => .inl rfl

/-- Flags raised under a traversal request wake every waiting layer. -/
theorem FlagsRaised.wokenRaised {ws : List Wakeup} {points' points : List SyncPoint}
    (h : FlagsRaised points' points) (hw : .traversalNeeded ∈ ws) :
    List.Forall₂ (WokenRaised ws) points' points :=
  h.imp fun _ _ hr => hr.imp_right fun he => ⟨he, .inl hw⟩

theorem notifySyncPoint_cases (h : Nat) (f c : Bool) (q : SyncPoint) :
    notifySyncPoint h f c q = (q, none) ∨
      notifySyncPoint h f c q = (q.setFrameAvailable, q.requestedSyncLayer) := by
  unfold notifySyncPoint
  split <;> simp

/-- `notifyAvailableFrames` flags the requesting layer of every sync point it makes available. -/
theorem notifyAvailableFrames_wokenRaised (h : Nat) (f c : Bool) (points : List SyncPoint) :
    List.Forall₂ (WokenRaised ((notifyAvailableFrames h f c points).2.map .transactionNeeded))
      (notifyAvailableFrames h f c points).1 points := by
  unfold notifyAvailableFrames
  rw [List.forall₂_map_left_iff, List.forall₂_same]
  intro q hq
  rcases notifySyncPoint_cases h f c q with hn | hn
  · exact .inl (by rw [hn])
  · refine .inr ⟨by rw [hn], .inr fun r hr => List.mem_map_of_mem _ ?_⟩
    exact List.mem_filterMap.2 ⟨q, hq, by rw [hn, hr]⟩

namespace BufferLayer

variable {p : Producer} {r : Bool} {l : BufferLayer}

/-- The requests one operation sends. -/
def wakeups (l : BufferLayer) : Op → List Wakeup
  | .latchBuffer p r => (latchBuffer p r l).exit.wakeups
  | .latchAndReleaseBuffer p =>
    if hasReadyFrame p then (latchBuffer p false { l with mRefreshPending := false }).exit.wakeups
    else []
  | .notifyAvailableFrames p =>
    (notifyAvailableFrames (l.getHeadFrameNumber p) p.fenceHasSignaled p.framePresentTimeIsCurrent
      l.mLocalSyncPoints).2.map .transactionNeeded
  | _ => []

theorem latchSignaled_syncPoints_of_ne (h : (latchSignaled p r l).exit ≠ .latched)
    (ht : (latchSignaled p r l).exit ≠ .transactionsPending) :
    (latchSignaled p r l).layer.mLocalSyncPoints = l.mLocalSyncPoints := by
  unfold latchSignaled at h ht ⊢
  dsimp only at h ht ⊢
  by_cases hsig : (allTransactionsSignaled (l.getHeadFrameNumber p) l.mLocalSyncPoints).1 = true
  · rw [if_neg (by simpa using hsig)] at h ⊢
    rw [acquireBuffer_syncPoints_of_ne h]
    exact allTransactionsSignaled_snd_of_fst _ _ hsig
  · rw [if_pos (by simpa using hsig)] at ht
    exact absurd rfl ht

/-- Short of a latch, only the exit that sets `eTraversalNeeded` changes the ledger. -/
theorem latchBuffer_syncPoints_of_ne (h : (latchBuffer p r l).exit ≠ .latched)
    (ht : (latchBuffer p r l).exit ≠ .transactionsPending) :
    (latchBuffer p r l).layer.mLocalSyncPoints = l.mLocalSyncPoints := by
  unfold latchBuffer at h ht ⊢
  rcases hs : p.latchSidebandStream with _ | ⟨stream, raise⟩ <;> simp only [hs] at h ht ⊢
  split_ifs at h ht ⊢
  exacts [rfl, rfl, rfl, latchSignaled_syncPoints_of_ne h ht]

/-- A `latchBuffer` call that latches nothing raises a flag only while it sets
`eTraversalNeeded`. -/
theorem latchBuffer_wokenRaised (h : (latchBuffer p r l).exit ≠ .latched) :
    List.Forall₂ (WokenRaised (latchBuffer p r l).exit.wakeups)
      (latchBuffer p r l).layer.mLocalSyncPoints l.mLocalSyncPoints := by
  by_cases ht : (latchBuffer p r l).exit = .transactionsPending
  · have hf := (latchBuffer_flagsRaised h).1
    rw [ht]
    exact hf.wokenRaised (List.mem_singleton_self _)
  · rw [latchBuffer_syncPoints_of_ne h ht]
    exact wokenRaised_refl _ _

/-- **No sync point's frame becomes available without a wake-up for the layer waiting on it.**
Every operation but the bare scan, whose one caller is `latchBuffer`, either latches a buffer and
only drops sync points, or keeps the ledger in order and raises a `frameAvailable` flag only while
it sends `eTraversalNeeded`, or `eTransactionNeeded` to the point's requesting layer. -/
theorem step_wakes_requesters (l : BufferLayer) (op : Op)
    (hop : ∀ p, op ≠ .allTransactionsSignaled p) :
    (latchesBuffer l op = true → (step l op).mLocalSyncPoints.Sublist l.mLocalSyncPoints) ∧
      (latchesBuffer l op = false →
        List.Forall₂ (WokenRaised (wakeups l op)) (step l op).mLocalSyncPoints
          l.mLocalSyncPoints) := by
  refine ⟨fun h => by rw [step_syncPoints_of_latches h]; exact List.filter_sublist _, fun h => ?_⟩
  cases op with
  | latchBuffer p r => exact latchBuffer_wokenRaised (by simpa [latchesBuffer] using h)
  | latchAndReleaseBuffer p =>
    simp only [step, latchAndReleaseBuffer, wakeups]
    split_ifs with hr
    · simp only [latchesBuffer, hr, Bool.true_and, beq_eq_false_iff_ne] at h
      exact latchBuffer_wokenRaised h
    · exact wokenRaised_refl _ _
  | notifyAvailableFrames p => exact notifyAvailableFrames_wokenRaised _ _ _ _
  | allTransactionsSignaled p => exact absurd rfl (hop p)
  | onPostComposition =>
    simp only [step, onPostComposition]
    split_ifs <;> exact wokenRaised_refl _ _
  | updateCloneBufferInfo c => cases c <;> exact wokenRaised_refl _ _
  | _ => exact wokenRaised_refl _ _

/-- A target-2 sync point of layer 7 not yet available at head frame 3: `notifyAvailableFrames`
makes it available and flags layer 7. -/
theorem step_wakes_requesters_notify :
    (∀ p, Op.notifyAvailableFrames readyProducer ≠ .allTransactionsSignaled p) ∧
      (latchesBuffer (idleLayer [⟨2, false, false, some 7⟩])
          (.notifyAvailableFrames readyProducer) = true →
        (step (idleLayer [⟨2, false, false, some 7⟩])
          (.notifyAvailableFrames readyProducer)).mLocalSyncPoints.Sublist
          (idleLayer [⟨2, false, false, some 7⟩]).mLocalSyncPoints) ∧
      (latchesBuffer (idleLayer [⟨2, false, false, some 7⟩])
          (.notifyAvailableFrames readyProducer) = false →
        List.Forall₂ (WokenRaised (wakeups (idleLayer [⟨2, false, false, some 7⟩])
            (.notifyAvailableFrames readyProducer)))
          (step (idleLayer [⟨2, false, false, some 7⟩])
            (.notifyAvailableFrames readyProducer)).mLocalSyncPoints
          (idleLayer [⟨2, false, false, some 7⟩]).mLocalSyncPoints) :=
  ⟨fun _ h => Op.noConfusion h,
    step_wakes_requesters _ (.notifyAvailableFrames readyProducer) fun _ h => Op.noConfusion h⟩

example : wakeups (idleLayer [⟨2, false, false, some 7⟩]) (.notifyAvailableFrames readyProducer) =
    [.transactionNeeded 7] := by
  decide

end BufferLayer

end SurfaceFlinger
