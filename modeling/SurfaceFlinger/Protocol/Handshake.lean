import SurfaceFlinger.Runs.Retry

/-!
# Protocol/Handshake — a latch and the layers waiting on it, taking turns

A sync point is a handshake between two layers.  This layer makes the frame available; the layer
that asked for the point then applies its transaction and raises `transactionApplied`
(`Layer::applyPendingStates`, outside this file); only then does this layer latch past the point.

`RemoteApplies` is what this layer relies on from the requesting layers between two of its latch
attempts: they raise `transactionApplied` flags and change nothing else, and afterwards every sync
point whose frame is available has its transaction applied.  `handshake` is one round — a
`latchBuffer` attempt, then the requesting layers' turn — and `waitRounds` counts the rounds the
ledger holds the latch back.

`handshake_latches_after_waitRounds`: with a producer ready at every attempt, the latch is refused
in exactly the first `waitRounds` rounds and goes through in the next.  Two inputs: a refused round
lowers `pendingFrames` by one or leaves it at zero (`latchBuffer_refuses_of_waitRounds`), and the
requesting layers' turn leaves `waitRounds` equal to `pendingFrames`
(`waitRounds_of_remoteApplies`).
-/

namespace SurfaceFlinger

/-- `SyncPoint::setTransactionApplied()`, called by the requesting layer. -/
def SyncPoint.setTransactionApplied (p : SyncPoint) : SyncPoint :=
  { p with transactionApplied := true }

/-- **The requesting layers' turn, as this layer relies on it**: they set `transactionApplied` on
some sync points and change nothing else, and afterwards every sync point whose frame is available
has its transaction applied. -/
structure RemoteApplies (points' points : List SyncPoint) : Prop where
  rely : List.Forall₂ (fun q' q => q' = q ∨ q' = q.setTransactionApplied) points' points
  fair : ∀ q ∈ points', q.frameAvailable = true → q.transactionApplied = true

section Rely

variable {points' points : List SyncPoint}
  (hr : List.Forall₂ (fun q' q => q' = q ∨ q' = q.setTransactionApplied) points' points)
include hr

theorem scanPrefix_of_rely (h : Nat) :
    List.Forall₂ (fun q' q => q' = q ∨ q' = q.setTransactionApplied)
      (scanPrefix h points') (scanPrefix h points) := by
  induction hr with
  | nil => exact .nil
  | @cons q' q _ _ hq _ ih =>
    have hn : q'.frameNumber = q.frameNumber := by rcases hq with rfl | rfl <;> rfl
    rw [scanPrefix_cons, scanPrefix_cons, hn]
    split_ifs
    exacts [.cons hq ih, .nil]

/-- The requesting layers' turn makes no frame available. -/
theorem pendingFrames_of_rely (h : Nat) : pendingFrames h points' = pendingFrames h points := by
  have hs := scanPrefix_of_rely hr h
  unfold pendingFrames
  generalize scanPrefix h points' = a, scanPrefix h points = b at hs ⊢
  induction hs with
  | nil => rfl
  | cons hq _ ih =>
    rcases hq with rfl | rfl <;> simp [List.countP_cons, ih, SyncPoint.setTransactionApplied]

end Rely

/-- **After the requesting layers' turn the ledger holds the latch back only for frames**: once no
reached frame is waited for, every reached transaction is applied. -/
theorem waitRounds_of_remoteApplies {points' points : List SyncPoint} (h : Nat)
    (hr : RemoteApplies points' points) :
    max (pendingFrames h points')
        (if (scanPrefix h points').all (·.transactionApplied) then 0 else 1) =
      pendingFrames h points := by
  rw [← pendingFrames_of_rely hr.rely h]
  rcases Nat.eq_zero_or_pos (pendingFrames h points') with hp | hp
  · have hav := List.countP_eq_zero.1 hp
    have happ : (scanPrefix h points').all (·.transactionApplied) = true :=
      List.all_eq_true.2 fun q hq =>
        hr.fair q ((List.takeWhile_sublist _).subset hq) (by simpa using hav q hq)
    rw [happ, hp]
    rfl
  · split_ifs <;> omega

namespace BufferLayer

variable {p : Producer} {l : BufferLayer}

/-- **One round of the handshake**: this layer attempts a latch, then the requesting layers take
their turn on its ledger. -/
def handshake (p : Producer) (remote : List SyncPoint → List SyncPoint) (l : BufferLayer) :
    BufferLayer :=
  let l := step l (.latchBuffer p false)
  { l with mLocalSyncPoints := remote l.mLocalSyncPoints }

/-- The rounds the ledger holds a latch back: one per reached sync point still waiting for its
frame, or one for the transactions when no frame is waited for but a reached transaction is not
applied. -/
def waitRounds (headFrameNumber : Nat) (points : List SyncPoint) : Nat :=
  max (pendingFrames headFrameNumber points)
    (if (scanPrefix headFrameNumber points).all (·.transactionApplied) then 0 else 1)

/-- With every reached frame available, the scan changes nothing. -/
theorem allTransactionsSignaled_snd_of_pendingFrames_zero {h : Nat} {points : List SyncPoint}
    (hp : pendingFrames h points = 0) : (allTransactionsSignaled h points).2 = points := by
  rcases scanSyncPoints_ledger h false true points with ⟨-, he⟩ | ⟨hall, -⟩
  · exact he
  · have hav := List.countP_eq_zero.1 hp
    obtain ⟨q, hq, hqa⟩ := by simpa using hall
    exact absurd (hav q hq) (by simp [hqa])

/-- **A refused round**: while the ledger holds the latch back, the attempt is refused at the sync
points, raising at most one flag, and the reached sync points still waiting for their frame go
down by one, or stay at none. -/
theorem latchBuffer_refuses_of_waitRounds (hg : AcquireGates p l) {n : Nat}
    (hw : waitRounds (l.getHeadFrameNumber p) l.mLocalSyncPoints = n + 1) :
    ∃ points, latchBuffer p false l =
        ⟨.transactionsPending, false, { l with mLocalSyncPoints := points }⟩ ∧
      pendingFrames (l.getHeadFrameNumber p) points = n := by
  unfold waitRounds at hw
  rcases Nat.eq_zero_or_pos (pendingFrames (l.getHeadFrameNumber p) l.mLocalSyncPoints) with
    hp | hp
  · have happ : (scanPrefix (l.getHeadFrameNumber p) l.mLocalSyncPoints).all
        (·.transactionApplied) = false := by
      by_contra hc
      rw [hp, if_pos (by simpa using hc)] at hw
      omega
    refine ⟨l.mLocalSyncPoints, ?_, by split_ifs at hw <;> omega⟩
    simp [latchBuffer, hg.sideband, hg.ready, hg.notPending, hg.fence, latchSignaled,
      allTransactionsSignaled_of_pendingFrames_zero hp, happ,
      allTransactionsSignaled_snd_of_pendingFrames_zero hp]
  · refine ⟨_, latchBuffer_of_pendingFrames_pos hg hp, ?_⟩
    have := (allTransactionsSignaled_of_pendingFrames_pos hp).2.pendingFrames_succ
    split_ifs at hw <;> omega

/-- **The handshake goes through**: with a producer ready at every attempt — a frame, a signaled
fence, three successful updates, no refresh pending — and requesting layers that apply, in each of
their turns, every transaction whose frame is available, the latch is refused in exactly the first
`waitRounds` rounds and goes through in the next. -/
theorem handshake_latches_after_waitRounds (p : Producer)
    (remote : List SyncPoint → List SyncPoint) (l : BufferLayer) (hg : AcquireGates p l)
    (hr : ∀ points, RemoteApplies (remote points) points) :
    (∀ i < waitRounds (l.getHeadFrameNumber p) l.mLocalSyncPoints,
      latchesBuffer ((handshake p remote)^[i] l) (.latchBuffer p false) = false) ∧
    latchesBuffer ((handshake p remote)^[waitRounds (l.getHeadFrameNumber p) l.mLocalSyncPoints] l)
      (.latchBuffer p false) = true := by
  generalize hn : waitRounds (l.getHeadFrameNumber p) l.mLocalSyncPoints = n
  induction n generalizing l with
  | zero =>
    refine ⟨fun i hi => absurd hi (Nat.not_lt_zero _), ?_⟩
    have hp : pendingFrames (l.getHeadFrameNumber p) l.mLocalSyncPoints = 0 := by
      unfold waitRounds at hn
      omega
    have happ : (scanPrefix (l.getHeadFrameNumber p) l.mLocalSyncPoints).all
        (·.transactionApplied) = true := by
      unfold waitRounds at hn
      split_ifs at hn with h
      exacts [h, by omega]
    simpa [latchesBuffer] using latchBuffer_of_pendingFrames_zero hg hp happ
  | succ n ih =>
    obtain ⟨points, hl, hp⟩ := latchBuffer_refuses_of_waitRounds hg hn
    have hh : handshake p remote l = { l with mLocalSyncPoints := remote points } := by
      rw [handshake, step, hl]
    obtain ⟨ihf, iht⟩ := ih { l with mLocalSyncPoints := remote points } { hg with }
      ((waitRounds_of_remoteApplies _ (hr points)).trans hp)
    refine ⟨fun i hi => ?_, by rw [Function.iterate_succ_apply, hh]; exact iht⟩
    cases i with
    | zero => simp [latchesBuffer, hl]
    | succ i =>
      rw [Function.iterate_succ_apply, hh]
      exact ihf i (by omega)

/-- The requesting layers applying, in their turn, every transaction whose frame is available. -/
def applyAvailable (points : List SyncPoint) : List SyncPoint :=
  points.map fun q => if q.frameAvailable then q.setTransactionApplied else q

theorem remoteApplies_applyAvailable (points : List SyncPoint) :
    RemoteApplies (applyAvailable points) points where
  rely := List.forall₂_map_left_iff.2 <| List.forall₂_same.2 fun q _ => by
    by_cases h : q.frameAvailable = true <;> simp [h]
  fair q hq hav := by
    obtain ⟨q', -, rfl⟩ := List.mem_map.1 hq
    by_cases h : q'.frameAvailable = true
    · simp [h, SyncPoint.setTransactionApplied]
    · simp [h] at hav

/-- A 16×16 layer waiting on two transactions of layers 5 and 6, whose frames are not yet
available. -/
def handshakeLayer : BufferLayer :=
  idleLayer [⟨1, false, false, some 5⟩, ⟨2, false, false, some 6⟩]

/-- Two refused rounds, then the latch. -/
theorem handshake_latches_after_two_rounds :
    AcquireGates readyProducer handshakeLayer ∧
      (∀ points, RemoteApplies (applyAvailable points) points) ∧
      (∀ i < waitRounds (handshakeLayer.getHeadFrameNumber readyProducer)
          handshakeLayer.mLocalSyncPoints,
        latchesBuffer ((handshake readyProducer applyAvailable)^[i] handshakeLayer)
          (.latchBuffer readyProducer false) = false) ∧
      latchesBuffer ((handshake readyProducer applyAvailable)^[waitRounds
          (handshakeLayer.getHeadFrameNumber readyProducer) handshakeLayer.mLocalSyncPoints]
          handshakeLayer) (.latchBuffer readyProducer false) = true :=
  have hg : AcquireGates readyProducer handshakeLayer := ⟨rfl, rfl, rfl, rfl, rfl, rfl, rfl⟩
  ⟨hg, remoteApplies_applyAvailable,
    handshake_latches_after_waitRounds readyProducer applyAvailable handshakeLayer hg
      remoteApplies_applyAvailable⟩

example : waitRounds (handshakeLayer.getHeadFrameNumber readyProducer)
    handshakeLayer.mLocalSyncPoints = 2 := by
  decide

end BufferLayer

end SurfaceFlinger
