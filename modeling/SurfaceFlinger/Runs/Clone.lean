import SurfaceFlinger.Runs.Step

/-!
# Runs/Clone — an original layer and its clone, and when each reports a frame

A clone layer shows the content of the layer it was cloned from: `updateCloneBufferInfo` copies the
original's `mBufferInfo`, `mFrameLatencyNeeded` included.  `onPostComposition` reports a frame
exactly when `mFrameLatencyNeeded` is set, and clears it.

`ClonePair` runs any interleaving of `latchBuffer`, `onPreComposition` and `onPostComposition` on
either layer and `updateCloneBufferInfo` on the clone, each through the layer's own `step`.  Between
two reports of one layer, that layer was given a new frame (`onPostComposition_reports_new_frame`):
a buffer latch of its own, or, for the clone, a copy of a frame the original has not reported yet.
A buffer latch of the original is not needed for the clone: copying one pending frame twice makes
the clone report it twice (`clone_reports_frame_twice`), though the comment in `onPostComposition`
says the flag is set "when a new frame was latched for the composition".
-/

namespace SurfaceFlinger

/-- The two layers of a clone pair. -/
inductive Side
  | original
  | clone
deriving DecidableEq, Repr

/-- **An original layer and its clone**, the original alive. -/
structure ClonePair where
  original : BufferLayer
  clone : BufferLayer

/-- **An operation of the pair**: `latchBuffer`, `onPreComposition` or `onPostComposition` on one
side, or `updateCloneBufferInfo` on the clone. -/
inductive CloneOp
  | latchBuffer (side : Side) (p : Producer) (recomputeVisibleRegions : Bool)
  | onPreComposition (side : Side) (p : Producer)
  | onPostComposition (side : Side)
  | updateCloneBufferInfo

namespace ClonePair

open BufferLayer (idleLayer readyProducer)

def get (s : ClonePair) : Side → BufferLayer
  | .original => s.original
  | .clone => s.clone

def set (s : ClonePair) : Side → BufferLayer → ClonePair
  | .original, l => { s with original := l }
  | .clone, l => { s with clone := l }

@[simp] theorem get_set_self (s : ClonePair) (side : Side) (l : BufferLayer) :
    (s.set side l).get side = l := by
  cases side <;> rfl

theorem get_set_of_ne (s : ClonePair) {side side' : Side} (h : side' ≠ side) (l : BufferLayer) :
    (s.set side' l).get side = s.get side := by
  cases side <;> cases side' <;> first | rfl | exact absurd rfl h

/-- The pair after one operation, each made by the layer's own `step`. -/
def step (s : ClonePair) : CloneOp → ClonePair
  | .latchBuffer side p r => s.set side ((s.get side).step (.latchBuffer p r))
  | .onPreComposition side p => s.set side ((s.get side).step (.onPreComposition p))
  | .onPostComposition side => s.set side ((s.get side).step .onPostComposition)
  | .updateCloneBufferInfo =>
    { s with clone := s.clone.step (.updateCloneBufferInfo (some s.original)) }

/-- The pair after a run of operations, first to last. -/
def run (s : ClonePair) (ops : List CloneOp) : ClonePair := ops.foldl step s

@[simp] theorem run_cons (s : ClonePair) (op : CloneOp) (ops : List CloneOp) :
    s.run (op :: ops) = (s.step op).run ops := rfl

theorem run_append (s : ClonePair) (xs ys : List CloneOp) : s.run (xs ++ ys) = (s.run xs).run ys :=
  List.foldl_append _ _ _ _

/-- Whether `op` is an `onPostComposition` of `side` that reports a frame, returning `true`. -/
def reports (s : ClonePair) (side : Side) : CloneOp → Bool
  | .onPostComposition side' => side' == side && (BufferLayer.onPostComposition (s.get side)).1
  | _ => false

/-- Whether `op` gives `side` a frame to report: a buffer latch of `side`, or an
`updateCloneBufferInfo` copying into the clone a frame the original has not reported. -/
def givesFrame (s : ClonePair) (side : Side) : CloneOp → Bool
  | .latchBuffer side' p r =>
    side' == side && (BufferLayer.latchBuffer p r (s.get side)).exit == .latched
  | .updateCloneBufferInfo => side == .clone && s.original.mBufferInfo.mFrameLatencyNeeded
  | _ => false

/-- Whether `op` is a buffer latch of the original, the content source of both layers. -/
def latchesOriginal (s : ClonePair) : CloneOp → Bool
  | .latchBuffer .original p r => (BufferLayer.latchBuffer p r s.original).exit == .latched
  | _ => false

/-! ## `mFrameLatencyNeeded` along a run -/

variable {s : ClonePair} {side : Side} {op : CloneOp}

/-- A reporting `onPostComposition` found `mFrameLatencyNeeded` set, and clears it. -/
theorem reports_spec (h : reports s side op = true) :
    (s.get side).mBufferInfo.mFrameLatencyNeeded = true ∧
      ((s.step op).get side).mBufferInfo.mFrameLatencyNeeded = false := by
  cases op with
  | onPostComposition side' =>
    simp only [reports, Bool.and_eq_true, beq_iff_eq] at h
    obtain ⟨rfl, h⟩ := h
    exact ⟨by simpa using h, by simp [step, BufferLayer.step]⟩
  | _ => simp [reports] at h

/-- **An operation that gives `side` no new frame leaves its `mFrameLatencyNeeded` cleared.** -/
theorem frameLatencyNeeded_step (hf : (s.get side).mBufferInfo.mFrameLatencyNeeded = false)
    (hg : givesFrame s side op = false) :
    ((s.step op).get side).mBufferInfo.mFrameLatencyNeeded = false := by
  cases op with
  | latchBuffer side' p r =>
    by_cases hs : side' = side
    · subst hs
      simp only [givesFrame, beq_self_eq_true, Bool.true_and, beq_eq_false_iff_ne] at hg
      simpa [step, BufferLayer.step, (BufferLayer.latchBuffer_flagsRaised hg).2.2] using hf
    · simpa [step, get_set_of_ne _ hs] using hf
  | onPreComposition side' p =>
    by_cases hs : side' = side
    · subst hs
      simpa [step, BufferLayer.step, BufferLayer.onPreComposition] using hf
    · simpa [step, get_set_of_ne _ hs] using hf
  | onPostComposition side' =>
    by_cases hs : side' = side
    · subst hs
      simp [step, BufferLayer.step]
    · simpa [step, get_set_of_ne _ hs] using hf
  | updateCloneBufferInfo =>
    cases side
    · exact hf
    · simpa [givesFrame, step, get, BufferLayer.step, BufferLayer.updateCloneBufferInfo] using hg

theorem frameLatencyNeeded_run (hf : (s.get side).mBufferInfo.mFrameLatencyNeeded = false)
    (ops : List CloneOp)
    (hg : ∀ pre o post, ops = pre ++ o :: post → givesFrame (s.run pre) side o = false) :
    ((s.run ops).get side).mBufferInfo.mFrameLatencyNeeded = false := by
  induction ops generalizing s with
  | nil => exact hf
  | cons op ops ih =>
    exact ih (frameLatencyNeeded_step hf (hg [] op ops rfl))
      fun pre o post h => hg (op :: pre) o post (by rw [h, List.cons_append])

/-- **Between two reports of one layer, the layer was given a new frame**: a buffer latch of its
own, or, for the clone, an `updateCloneBufferInfo` made while the original had a frame it had not
reported. -/
theorem onPostComposition_reports_new_frame (s : ClonePair) (side : Side)
    (pre mid : List CloneOp) (a b : CloneOp)
    (ha : reports (s.run pre) side a = true)
    (hb : reports (s.run (pre ++ a :: mid)) side b = true) :
    ∃ mid₁ o mid₂, mid = mid₁ ++ o :: mid₂ ∧
      givesFrame (s.run (pre ++ a :: mid₁)) side o = true := by
  by_contra hn
  simp only [not_exists, not_and, Bool.not_eq_true] at hn
  have hf := frameLatencyNeeded_run (reports_spec ha).2 mid fun mid₁ o mid₂ h => by
    simpa [run_append] using hn mid₁ o mid₂ h
  rw [← run_cons, ← run_append] at hf
  rw [(reports_spec hb).1] at hf
  cases hf

/-- The pair where the original latches frame 3, the clone copies it and reports it, and copies it
again before the original reports. -/
theorem onPostComposition_reports_new_frame_copied :
    reports (run ⟨idleLayer [], idleLayer []⟩
        [.latchBuffer .original readyProducer false, .updateCloneBufferInfo]) .clone
        (.onPostComposition .clone) = true ∧
      reports (run ⟨idleLayer [], idleLayer []⟩
        ([.latchBuffer .original readyProducer false, .updateCloneBufferInfo] ++
          .onPostComposition .clone :: [.updateCloneBufferInfo])) .clone
        (.onPostComposition .clone) = true ∧
      ∃ mid₁ o mid₂, [CloneOp.updateCloneBufferInfo] = mid₁ ++ o :: mid₂ ∧
        givesFrame (run ⟨idleLayer [], idleLayer []⟩
          ([.latchBuffer .original readyProducer false, .updateCloneBufferInfo] ++
            .onPostComposition .clone :: mid₁)) .clone o = true :=
  ⟨by decide, by decide, onPostComposition_reports_new_frame ⟨idleLayer [], idleLayer []⟩ .clone
    [.latchBuffer .original readyProducer false, .updateCloneBufferInfo] [.updateCloneBufferInfo]
    (.onPostComposition .clone) (.onPostComposition .clone) (by decide) (by decide)⟩

/-- **A clone reports frame 3 twice**: the original latches frame 3; the clone copies it and
reports it, then copies the frame the original has still not reported and reports it again.  No
latch of the original stands between the two reports, and the clone's `mFrameTracker` records
frame 3 twice. -/
theorem clone_reports_frame_twice :
    reports (run ⟨idleLayer [], idleLayer []⟩
        [.latchBuffer .original readyProducer false, .updateCloneBufferInfo]) .clone
        (.onPostComposition .clone) = true ∧
      reports (run ⟨idleLayer [], idleLayer []⟩
        [.latchBuffer .original readyProducer false, .updateCloneBufferInfo,
          .onPostComposition .clone, .updateCloneBufferInfo]) .clone
        (.onPostComposition .clone) = true ∧
      latchesOriginal (run ⟨idleLayer [], idleLayer []⟩
        [.latchBuffer .original readyProducer false, .updateCloneBufferInfo,
          .onPostComposition .clone]) .updateCloneBufferInfo = false ∧
      (run ⟨idleLayer [], idleLayer []⟩
        [.latchBuffer .original readyProducer false, .updateCloneBufferInfo,
          .onPostComposition .clone, .updateCloneBufferInfo,
          .onPostComposition .clone]).clone.mFrameTracker = [⟨3, 0⟩, ⟨3, 0⟩] := by
  decide

end ClonePair

end SurfaceFlinger
