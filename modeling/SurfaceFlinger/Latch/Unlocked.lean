import SurfaceFlinger.Latch.Exits

/-!
# Latch/Unlocked — the window `latchBuffer` leaves unlocked

`latchBuffer` holds `mLocalSyncPointMutex` twice: inside `allTransactionsSignaled` (line 514) and
around the erase loop (line 434).  In between it runs the three producer updates holding no lock on
the ledger, and another thread may append sync points there (`Layer::addSyncPoint`).  The erase
loop expects it: "This sync point must have been added since we started latching. Don't drop it
yet."

`latchBufferInterleaved` runs `latchBuffer` with the ledger changed by `interfere` inside that
window.  With no change it is `latchBuffer` (`latchBufferInterleaved_id`).  With sync points
appended whose frames are not yet available — every new sync point starts so — it ends as
`latchBuffer` alone followed by the appends (`latchBuffer_appends_commute`): the call takes the
same exit and the same decisions, and the erase loop drops none of the new points.

The latch's fence gate may also let a buffer through unsignaled, under the property
`debug.sf.latch_unsignaled` that `latchUnsignaledBuffers` reads into two statics shared by every
layer, under a mutex of its own.  `latchUnsignaledBuffers_reads_once`: however the property
changes, every call answers what the first call read.
-/

namespace SurfaceFlinger

/-- `r` with `added` at the end of its layer's ledger. -/
def LatchResult.appendSyncPoints (r : LatchResult) (added : List SyncPoint) : LatchResult :=
  { r with layer := { r.layer with mLocalSyncPoints := r.layer.mLocalSyncPoints ++ added } }

namespace BufferLayer

/-- Lines 375–455 of `latchBuffer`, with other threads changing the ledger by `interfere` between
the scan, which releases `mLocalSyncPointMutex` at its end, and the erase loop, which takes it
again. -/
def latchSignaledInterleaved (interfere : List SyncPoint → List SyncPoint) (p : Producer)
    (recomputeVisibleRegions : Bool) (l : BufferLayer) : LatchResult :=
  let oldOpacity := l.isOpaque l.mDrawingState
  let oldBufferInfo := l.mBufferInfo
  let signaled := allTransactionsSignaled (l.getHeadFrameNumber p) l.mLocalSyncPoints
  let l := { l with mLocalSyncPoints := signaled.2 }
  if !signaled.1 then ⟨.transactionsPending, recomputeVisibleRegions, l⟩
  else acquireBuffer p recomputeVisibleRegions oldBufferInfo oldOpacity
    { l with mLocalSyncPoints := interfere l.mLocalSyncPoints }

/-- **`latchBuffer` with other threads changing the ledger by `interfere` in the window it leaves
unlocked.** -/
def latchBufferInterleaved (interfere : List SyncPoint → List SyncPoint) (p : Producer)
    (recomputeVisibleRegions : Bool) (l : BufferLayer) : LatchResult :=
  match p.latchSidebandStream with
  | some (stream, raise) =>
    ⟨.sideband, recomputeVisibleRegions || raise, { l with mSidebandStream := stream }⟩
  | none =>
    if !hasReadyFrame p then ⟨.noReadyFrame, recomputeVisibleRegions, l⟩
    else if l.mRefreshPending then ⟨.refreshPending, recomputeVisibleRegions, l⟩
    else if !p.fenceHasSignaled then ⟨.fenceUnsignaled, recomputeVisibleRegions, l⟩
    else latchSignaledInterleaved interfere p recomputeVisibleRegions l

/-- With nothing done in the window, the interleaved latch is `latchBuffer`. -/
theorem latchBufferInterleaved_id (p : Producer) (rec : Bool) (l : BufferLayer) :
    latchBufferInterleaved id p rec l = latchBuffer p rec l :=
  rfl

variable {p : Producer} {rec : Bool} {l : BufferLayer} {old : BufferInfo} {op : Bool}
  {added : List SyncPoint}

/-- Sync points whose frames are not yet available survive the erase loop, wherever they stand. -/
theorem removeSyncPoints_append_unavailable (c : Nat) (points : List SyncPoint)
    (hadded : ∀ q ∈ added, q.frameAvailable = false) :
    removeSyncPoints c (points ++ added) = removeSyncPoints c points ++ added := by
  rw [removeSyncPoints_eq_filter, removeSyncPoints_eq_filter, List.filter_append]
  congr 1
  exact List.filter_eq_self.2 fun q hq => by simp [SyncPoint.satisfied, hadded q hq]

/-- The updates and the install never read the ledger, and the erase loop keeps the appended
points. -/
theorem acquireBuffer_append (points : List SyncPoint)
    (hadded : ∀ q ∈ added, q.frameAvailable = false) :
    acquireBuffer p rec old op { l with mLocalSyncPoints := points ++ added } =
      (acquireBuffer p rec old op { l with mLocalSyncPoints := points }).appendSyncPoints
        added := by
  unfold acquireBuffer
  split_ifs <;>
    simp [LatchResult.appendSyncPoints, finishLatch, installBuffer, updateTexImage,
      updateActiveBuffer, updateFrameNumber, removeSyncPoints_append_unavailable _ _ hadded,
      geometryInvalidated, isOpaque, getPixelFormat]

theorem acquireBuffer_pastScan : (acquireBuffer p rec old op l).exit.pastScan = true := by
  unfold acquireBuffer
  split_ifs <;> rfl

theorem latchSignaledInterleaved_append (hadded : ∀ q ∈ added, q.frameAvailable = false) :
    latchSignaledInterleaved (· ++ added) p rec l =
      if (latchSignaled p rec l).exit.pastScan then (latchSignaled p rec l).appendSyncPoints added
      else latchSignaled p rec l := by
  unfold latchSignaledInterleaved latchSignaled
  dsimp only
  split_ifs with hs hp hp
  · cases hp
  · rfl
  · exact acquireBuffer_append _ hadded
  · exact absurd acquireBuffer_pastScan hp

/-- **Appends in the unlocked window commute with the latch**: when other threads append sync
points whose frames are not yet available while `latchBuffer` holds no lock, the call takes the
same exit with the same `recomputeVisibleRegions` and leaves the same layer as `latchBuffer` made
alone, with the appended points, all kept, at the end of its ledger. -/
theorem latchBuffer_appends_commute (added : List SyncPoint)
    (hadded : ∀ q ∈ added, q.frameAvailable = false) (p : Producer) (rec : Bool)
    (l : BufferLayer) :
    latchBufferInterleaved (· ++ added) p rec l =
      if (latchBuffer p rec l).exit.pastScan then (latchBuffer p rec l).appendSyncPoints added
      else latchBuffer p rec l := by
  unfold latchBufferInterleaved latchBuffer
  rcases p.latchSidebandStream with _ | ⟨stream, raise⟩
  · dsimp only
    by_cases h₁ : hasReadyFrame p = true
    · by_cases h₂ : l.mRefreshPending = true
      · simp [h₁, h₂, LatchExit.pastScan]
      · by_cases h₃ : p.fenceHasSignaled = true
        · simp only [h₁, h₂, h₃, Bool.not_true, Bool.false_eq_true, if_false]
          exact latchSignaledInterleaved_append hadded
        · simp [h₁, h₂, h₃, LatchExit.pastScan]
    · simp [h₁, LatchExit.pastScan]
  · rfl

/-- A sync point of layer 9 for frame 4, appended while frame 3 is latched, stays at the end. -/
theorem latchBuffer_appends_commute_fresh :
    (∀ q ∈ [(⟨4, false, false, some 9⟩ : SyncPoint)], q.frameAvailable = false) ∧
      latchBufferInterleaved (· ++ [⟨4, false, false, some 9⟩]) readyProducer false
          (idleLayer []) =
        if (latchBuffer readyProducer false (idleLayer [])).exit.pastScan then
          (latchBuffer readyProducer false (idleLayer [])).appendSyncPoints
            [⟨4, false, false, some 9⟩]
        else latchBuffer readyProducer false (idleLayer []) :=
  ⟨by decide, latchBuffer_appends_commute _ (by decide) _ _ _⟩

example : (latchBufferInterleaved (· ++ [⟨4, false, false, some 9⟩]) readyProducer false
    (idleLayer [])).layer.mLocalSyncPoints = [⟨4, false, false, some 9⟩] := by
  decide

end BufferLayer

/-! ## `debug.sf.latch_unsignaled`, read once -/

/-- The function-local statics of `latchUnsignaledBuffers`, one pair for the whole process. -/
structure LatchUnsignaledStatics where
  propertyLoaded : Bool
  latch : Bool
deriving DecidableEq, Repr

/-- The statics before the first call. -/
def LatchUnsignaledStatics.init : LatchUnsignaledStatics := ⟨false, false⟩

namespace BufferLayer

/-- **`latchUnsignaledBuffers()`**, under its mutex: `property` is `atoi` of
`debug.sf.latch_unsignaled` (default `"0"`) as a `bool`, at the time of the call. -/
def latchUnsignaledBuffers (property : Bool) (s : LatchUnsignaledStatics) :
    Bool × LatchUnsignaledStatics :=
  let s := if !s.propertyLoaded then { s with latch := property, propertyLoaded := true } else s
  (s.latch, s)

/-- The answers of calls the mutex puts one after the other, each with the property's value at its
time. -/
def latchUnsignaledCalls : List Bool → LatchUnsignaledStatics → List Bool
  | [], _ => []
  | property :: properties, s =>
    (latchUnsignaledBuffers property s).1 ::
      latchUnsignaledCalls properties (latchUnsignaledBuffers property s).2

/-- After a call the statics are loaded and hold its answer. -/
theorem latchUnsignaledBuffers_snd (property : Bool) (s : LatchUnsignaledStatics) :
    (latchUnsignaledBuffers property s).2 = ⟨true, (latchUnsignaledBuffers property s).1⟩ := by
  obtain ⟨_ | _, latch⟩ := s <;> rfl

/-- Once the statics are loaded, every call answers `latch`, whatever the property. -/
theorem latchUnsignaledCalls_loaded (latch : Bool) :
    ∀ properties, latchUnsignaledCalls properties ⟨true, latch⟩ =
      List.replicate properties.length latch
  | [] => rfl
  | _ :: properties => by
    rw [List.length_cons, List.replicate_succ, ← latchUnsignaledCalls_loaded latch properties]
    rfl

/-- **The property is read at the first call only**: from any state of the statics, whatever
values the property takes from call to call, every call answers what the first one did. -/
theorem latchUnsignaledBuffers_reads_once (property : Bool) (properties : List Bool)
    (s : LatchUnsignaledStatics) :
    latchUnsignaledCalls (property :: properties) s =
      List.replicate (properties.length + 1) (latchUnsignaledBuffers property s).1 := by
  rw [latchUnsignaledCalls, latchUnsignaledBuffers_snd, latchUnsignaledCalls_loaded,
    List.replicate_succ]

example : latchUnsignaledCalls [true, false, true] .init = [true, true, true] := by
  decide

end BufferLayer

end SurfaceFlinger
