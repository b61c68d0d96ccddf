import SurfaceFlinger.Geometry.Rect

/-!
# Ledger/SyncPoints — the three loops over `mLocalSyncPoints`

A layer keeps the sync points other layers' transactions wait on in `mLocalSyncPoints`, a list
in insertion order.  `BufferLayer.cpp` walks it in three loops:

* `allTransactionsSignaled` scans from the front and **stops at the first target above the head
  frame**, raising at most one `frameAvailable` flag (`allTransactionsSignaled_fst`,
  `scanSyncPoints_ledger`);
* `notifyAvailableFrames` raises the flag of every sync point at or below the head frame;
* the erase-while-iterating loop at the end of `latchBuffer` drops exactly the satisfied points
  (`removeSyncPoints_eq_filter`).

None of them lowers a flag or reorders the list: `Descends` is the relation every run keeps.
-/

namespace SurfaceFlinger

/-- A layer, as a weak reference that still resolves names it. -/
abbrev LayerId := Nat

/-- **`Layer::SyncPoint`**: a transaction of `requestedSyncLayer` waits for this layer to latch
frame `frameNumber`.  `requestedSyncLayer` is `none` once the weak reference no longer resolves. -/
structure SyncPoint where
  frameNumber : Nat
  frameAvailable : Bool
  transactionApplied : Bool
  requestedSyncLayer : Option LayerId
deriving DecidableEq, Repr

namespace SyncPoint

def setFrameAvailable (p : SyncPoint) : SyncPoint := { p with frameAvailable := true }

@[simp] theorem frameNumber_setFrameAvailable (p : SyncPoint) :
    p.setFrameAvailable.frameNumber = p.frameNumber := rfl

@[simp] theorem frameAvailable_setFrameAvailable (p : SyncPoint) :
    p.setFrameAvailable.frameAvailable = true := rfl

@[simp] theorem transactionApplied_setFrameAvailable (p : SyncPoint) :
    p.setFrameAvailable.transactionApplied = p.transactionApplied := rfl

@[simp] theorem setFrameAvailable_setFrameAvailable (p : SyncPoint) :
    p.setFrameAvailable.setFrameAvailable = p.setFrameAvailable := rfl

/-- The condition under which the loop at the end of `latchBuffer` drops a sync point: frame
available, transaction applied, target at or below the frame just latched. -/
def satisfied (currentFrameNumber : Nat) (p : SyncPoint) : Bool :=
  p.frameAvailable && p.transactionApplied && decide (p.frameNumber ≤ currentFrameNumber)

/-- **`q` is `p` with its `frameAvailable` flag possibly raised** — the only change any loop of
this file makes to a sync point. -/
def Raised (q p : SyncPoint) : Prop := q = p ∨ q = p.setFrameAvailable

theorem Raised.refl (p : SyncPoint) : Raised p p := .inl rfl

theorem Raised.trans {r q p : SyncPoint} (h₁ : Raised r q) (h₂ : Raised q p) : Raised r p := by
  rcases h₁ with rfl | rfl <;> rcases h₂ with rfl | rfl <;> simp [Raised]

instance : IsRefl SyncPoint Raised := ⟨Raised.refl⟩

instance : IsTrans SyncPoint Raised := ⟨fun _ _ _ => Raised.trans⟩

theorem Raised.frameNumber_eq {q p : SyncPoint} (h : Raised q p) :
    q.frameNumber = p.frameNumber := by
  rcases h with rfl | rfl <;> rfl

theorem Raised.transactionApplied_eq {q p : SyncPoint} (h : Raised q p) :
    q.transactionApplied = p.transactionApplied := by
  rcases h with rfl | rfl <;> rfl

theorem Raised.frameAvailable_le {q p : SyncPoint} (h : Raised q p) :
    p.frameAvailable = true → q.frameAvailable = true := by
  rcases h with rfl | rfl <;> simp

end SyncPoint

/-! ## Ledger relations

`FlagsRaised points' points`: the same sync points in the same order, flags only raised.
`Descends points' points`: in addition some points may be gone. -/

/-- **`points'` is `points` with some `frameAvailable` flags raised.** -/
def FlagsRaised (points' points : List SyncPoint) : Prop :=
  List.Forall₂ SyncPoint.Raised points' points

/-- **Every sync point of `points'` is one of `points`, in the same order, with its
`frameAvailable` flag possibly raised** and its target and `transactionApplied` flag kept. -/
def Descends (points' points : List SyncPoint) : Prop :=
  List.SublistForall₂ SyncPoint.Raised points' points

/-- A ledger sorted by ascending target. -/
def Ascending (points : List SyncPoint) : Prop :=
  points.Pairwise fun p q => p.frameNumber ≤ q.frameNumber

theorem FlagsRaised.refl (points : List SyncPoint) : FlagsRaised points points :=
  List.forall₂_refl points

theorem FlagsRaised.map_frameNumber {points' points : List SyncPoint}
    (h : FlagsRaised points' points) :
    points'.map SyncPoint.frameNumber = points.map SyncPoint.frameNumber := by
  induction h with
  | nil => rfl
  | cons hp _ ih => simp [hp.frameNumber_eq, ih]

theorem FlagsRaised.descends {points' points : List SyncPoint} (h : FlagsRaised points' points) :
    Descends points' points :=
  List.sublistForall₂_iff.2 ⟨points, h, List.Sublist.refl _⟩

theorem Descends.refl (points : List SyncPoint) : Descends points points :=
  (FlagsRaised.refl points).descends

theorem Descends.trans {a b c : List SyncPoint} (h₁ : Descends a b) (h₂ : Descends b c) :
    Descends a c :=
  (inferInstance : IsTrans (List SyncPoint) (List.SublistForall₂ SyncPoint.Raised)).trans
    _ _ _ h₁ h₂

theorem Descends.of_sublist {points' points : List SyncPoint} (h : points'.Sublist points) :
    Descends points' points :=
  h.sublistForall₂

theorem Ascending.of_flagsRaised {points' points : List SyncPoint} (h : FlagsRaised points' points)
    (ha : Ascending points) : Ascending points' := by
  have hmap := h.map_frameNumber
  rw [Ascending, ← List.pairwise_map (R := (· ≤ ·))] at ha ⊢
  rwa [hmap]

/-- **Descent keeps a ledger ascending.** -/
theorem Ascending.of_descends {points' points : List SyncPoint} (h : Descends points' points)
    (ha : Ascending points) : Ascending points' := by
  obtain ⟨m, hm, hsub⟩ := List.sublistForall₂_iff.1 h
  exact Ascending.of_flagsRaised hm (ha.sublist hsub)

/-! ## `allTransactionsSignaled`

The loop breaks at the first sync point whose target is above the head frame, so what it sees is
the prefix `scanPrefix` of the ledger, not every point at or below the head frame.  On that prefix
it answers whether every point is available and applied (`allTransactionsSignaled_fst`), and it
raises at most the first unavailable flag there (`scanSyncPoints_ledger`). -/

/-- The loop of `allTransactionsSignaled`, entered with the values `matchingFramesFound` and
`allTransactionsApplied` have reached: their values at the end, and the ledger it leaves. -/
def scanSyncPoints (headFrameNumber : Nat) :
    Bool → Bool → List SyncPoint → Bool × Bool × List SyncPoint
  | found, applied, [] => (found, applied, [])
  | found, applied, point :: points =>
    if point.frameNumber > headFrameNumber then (found, applied, point :: points)
    else if !point.frameAvailable then (true, false, point.setFrameAvailable :: points)
    else
      let r := scanSyncPoints headFrameNumber true (applied && point.transactionApplied) points
      (r.1, r.2.1, point :: r.2.2)

/-- **`allTransactionsSignaled`**, given the head frame number: its answer
`!matchingFramesFound || allTransactionsApplied`, and the ledger after the loop. -/
def allTransactionsSignaled (headFrameNumber : Nat) (points : List SyncPoint) :
    Bool × List SyncPoint :=
  let r := scanSyncPoints headFrameNumber false true points
  (!r.1 || r.2.1, r.2.2)

theorem scanSyncPoints_cons_above {h : Nat} {p : SyncPoint} (hp : ¬p.frameNumber ≤ h)
    (found applied : Bool) (ps : List SyncPoint) :
    scanSyncPoints h found applied (p :: ps) = (found, applied, p :: ps) := by
  simp [scanSyncPoints, Nat.lt_of_not_le hp]

theorem scanSyncPoints_cons_unavailable {h : Nat} {p : SyncPoint} (hp : p.frameNumber ≤ h)
    (hav : p.frameAvailable = false) (found applied : Bool) (ps : List SyncPoint) :
    scanSyncPoints h found applied (p :: ps) = (true, false, p.setFrameAvailable :: ps) := by
  simp [scanSyncPoints, Nat.not_lt.2 hp, hav]

theorem scanSyncPoints_cons_available {h : Nat} {p : SyncPoint} (hp : p.frameNumber ≤ h)
    (hav : p.frameAvailable = true) (found applied : Bool) (ps : List SyncPoint) :
    scanSyncPoints h found applied (p :: ps) =
      let r := scanSyncPoints h true (applied && p.transactionApplied) ps
      (r.1, r.2.1, p :: r.2.2) := by
  simp [scanSyncPoints, Nat.not_lt.2 hp, hav]

/-- The sync points the loop of `allTransactionsSignaled` reaches: those before the first target
above the head frame number. -/
def scanPrefix (headFrameNumber : Nat) (points : List SyncPoint) : List SyncPoint :=
  points.takeWhile fun p => decide (p.frameNumber ≤ headFrameNumber)

@[simp] theorem scanPrefix_nil (h : Nat) : scanPrefix h [] = [] := rfl

theorem scanPrefix_cons (h : Nat) (p : SyncPoint) (ps : List SyncPoint) :
    scanPrefix h (p :: ps) = if p.frameNumber ≤ h then p :: scanPrefix h ps else [] := by
  simp only [scanPrefix, List.takeWhile_cons, decide_eq_true_eq]

/-- **`points'` is `points` with the one flag the scan raises**: the first sync point of the scanned
prefix whose frame is not yet available now has it available; nothing else differs. -/
def ScanRaised (headFrameNumber : Nat) (points' points : List SyncPoint) : Prop :=
  ∃ pre point post, points = pre ++ point :: post ∧
    (∀ p ∈ pre, p.frameNumber ≤ headFrameNumber ∧ p.frameAvailable = true) ∧
    point.frameNumber ≤ headFrameNumber ∧ point.frameAvailable = false ∧
    points' = pre ++ point.setFrameAvailable :: post

theorem ScanRaised.cons {h : Nat} {points' points : List SyncPoint} {p : SyncPoint}
    (hr : ScanRaised h points' points) (hp : p.frameNumber ≤ h ∧ p.frameAvailable = true) :
    ScanRaised h (p :: points') (p :: points) := by
  obtain ⟨pre, q, post, rfl, hpre, hq, hqa, rfl⟩ := hr
  exact ⟨p :: pre, q, post, rfl, by simpa [hp] using hpre, hq, hqa, rfl⟩

theorem ScanRaised.flagsRaised {h : Nat} {points' points : List SyncPoint}
    (hr : ScanRaised h points' points) : FlagsRaised points' points := by
  obtain ⟨pre, q, post, rfl, -, -, -, rfl⟩ := hr
  exact List.rel_append (FlagsRaised.refl pre) (.cons (.inr rfl) (FlagsRaised.refl post))

/-- **What `allTransactionsSignaled` answers**, entered with any values of its two flags in which
`allTransactionsApplied` is set while nothing has been found: whether every reached point is
available and applied. -/
theorem scanSyncPoints_signaled (h : Nat) :
    ∀ (found applied : Bool) (points : List SyncPoint), (found = false → applied = true) →
      (!(scanSyncPoints h found applied points).1 || (scanSyncPoints h found applied points).2.1) =
        ((!found || applied) &&
          (scanPrefix h points).all fun p => p.frameAvailable && p.transactionApplied)
  | found, applied, [], _ => by simp [scanSyncPoints]
  | found, applied, p :: ps, hfa => by
    rw [scanPrefix_cons]
    by_cases hp : p.frameNumber ≤ h
    · cases hav : p.frameAvailable
      · simp [scanSyncPoints_cons_unavailable hp hav, hp, hav]
      · have ih := scanSyncPoints_signaled h true (applied && p.transactionApplied) ps (by simp)
        rw [scanSyncPoints_cons_available hp hav]
        cases found <;> simp_all [Bool.and_assoc]
    · simp [scanSyncPoints_cons_above hp, hp]

theorem allTransactionsSignaled_fst (h : Nat) (points : List SyncPoint) :
    (allTransactionsSignaled h points).1 =
      (scanPrefix h points).all fun p => p.frameAvailable && p.transactionApplied := by
  simpa using scanSyncPoints_signaled h false true points (fun _ => rfl)

/-- **The ledger the scan leaves**: unchanged when every reached point is available, and otherwise
the first unavailable reached point raised. -/
theorem scanSyncPoints_ledger (h : Nat) :
    ∀ (found applied : Bool) (points : List SyncPoint),
      ((scanPrefix h points).all (·.frameAvailable) = true ∧
          (scanSyncPoints h found applied points).2.2 = points) ∨
        ((scanPrefix h points).all (·.frameAvailable) = false ∧
          ScanRaised h (scanSyncPoints h found applied points).2.2 points)
  | found, applied, [] => by simp [scanSyncPoints]
  | found, applied, p :: ps => by
    rw [scanPrefix_cons]
    by_cases hp : p.frameNumber ≤ h
    · cases hav : p.frameAvailable
      · rw [scanSyncPoints_cons_unavailable hp hav]
        exact .inr ⟨by simp [hp, hav], [], p, ps, rfl, by simp, hp, hav, rfl⟩
      · rw [scanSyncPoints_cons_available hp hav]
        rcases scanSyncPoints_ledger h true (applied && p.transactionApplied) ps with
          ⟨hall, heq⟩ | ⟨hall, hr⟩
        · exact .inl ⟨by simp [hp, hav, hall], by simp [heq]⟩
        · exact .inr ⟨by simp [hp, hav, hall], hr.cons ⟨hp, hav⟩⟩
    · rw [scanSyncPoints_cons_above hp]
      exact .inl ⟨by simp [hp], rfl⟩

/-- **A signaled scan leaves the ledger as it was.** -/
theorem allTransactionsSignaled_snd_of_fst (h : Nat) (points : List SyncPoint)
    (hs : (allTransactionsSignaled h points).1 = true) :
    (allTransactionsSignaled h points).2 = points := by
  rw [allTransactionsSignaled_fst, List.all_eq_true] at hs
  rcases scanSyncPoints_ledger h false true points with ⟨-, heq⟩ | ⟨hall, -⟩
  · exact heq
  · obtain ⟨p, hp, hpa⟩ := by simpa using hall
    simp_all

/-- Every ledger the scan leaves is the old one, or it with the first reached unavailable flag
raised. -/
theorem allTransactionsSignaled_snd (h : Nat) (points : List SyncPoint) :
    (allTransactionsSignaled h points).2 = points ∨
      ScanRaised h (allTransactionsSignaled h points).2 points := by
  rcases scanSyncPoints_ledger h false true points with ⟨-, heq⟩ | ⟨-, hr⟩
  exacts [.inl heq, .inr hr]

theorem allTransactionsSignaled_flagsRaised (h : Nat) (points : List SyncPoint) :
    FlagsRaised (allTransactionsSignaled h points).2 points :=
  (allTransactionsSignaled_snd h points).elim (fun he => by rw [he]; exact FlagsRaised.refl _)
    ScanRaised.flagsRaised

/-- **On an ascending ledger the scan reaches every point at or below the head frame.** -/
theorem mem_scanPrefix_of_ascending {h : Nat} {points : List SyncPoint} (ha : Ascending points)
    {q : SyncPoint} (hq : q ∈ points) (hle : q.frameNumber ≤ h) : q ∈ scanPrefix h points := by
  induction points with
  | nil => cases hq
  | cons p ps ih =>
    rw [Ascending, List.pairwise_cons] at ha
    rw [scanPrefix_cons]
    by_cases hp : p.frameNumber ≤ h
    · rw [if_pos hp]
      rcases List.mem_cons.1 hq with rfl | hq
      exacts [List.mem_cons_self _ _, List.mem_cons_of_mem _ (ih ha.2 hq)]
    · rcases List.mem_cons.1 hq with rfl | hq
      · exact absurd hle hp
      · exact absurd (le_trans (ha.1 q hq) hle) hp

/-! ## How far the scan has got

Each scan that stops at an unavailable point raises its flag, so the reached points still waiting
for their frame, `pendingFrames`, drop by one (`ScanRaised.pendingFrames_succ`), while the reached
points and their transactions stay as they were (`ScanRaised.map_transactionApplied`). -/

/-- The sync points the scan reaches whose frame is not yet available. -/
def pendingFrames (headFrameNumber : Nat) (points : List SyncPoint) : Nat :=
  (scanPrefix headFrameNumber points).countP fun p => !p.frameAvailable

theorem scanPrefix_append_of_le {h : Nat} {pre : List SyncPoint}
    (hpre : ∀ p ∈ pre, p.frameNumber ≤ h) (rest : List SyncPoint) :
    scanPrefix h (pre ++ rest) = pre ++ scanPrefix h rest := by
  induction pre with
  | nil => rfl
  | cons p ps ih =>
    rw [List.cons_append, scanPrefix_cons, if_pos (hpre p (List.mem_cons_self _ _)),
      ih fun q hq => hpre q (List.mem_cons_of_mem _ hq)]
    rfl

/-- The reached part of a ledger the scan raised a flag in: the same points, the one flag raised. -/
theorem ScanRaised.scanPrefix_split {h : Nat} {points' points : List SyncPoint}
    (hr : ScanRaised h points' points) :
    ∃ pre q rest, scanPrefix h points = pre ++ q :: rest ∧
      scanPrefix h points' = pre ++ q.setFrameAvailable :: rest ∧
      (∀ p ∈ pre, p.frameAvailable = true) ∧ q.frameAvailable = false := by
  obtain ⟨pre, q, post, rfl, hpre, hq, hqa, rfl⟩ := hr
  have hle : ∀ p ∈ pre, p.frameNumber ≤ h := fun p hp => (hpre p hp).1
  refine ⟨pre, q, scanPrefix h post, ?_, ?_, fun p hp => (hpre p hp).2, hqa⟩
  · rw [scanPrefix_append_of_le hle, scanPrefix_cons, if_pos hq]
  · rw [scanPrefix_append_of_le hle, scanPrefix_cons, SyncPoint.frameNumber_setFrameAvailable,
      if_pos hq]

theorem ScanRaised.pendingFrames_succ {h : Nat} {points' points : List SyncPoint}
    (hr : ScanRaised h points' points) : pendingFrames h points' + 1 = pendingFrames h points := by
  obtain ⟨pre, q, rest, he, he', hpre, hq⟩ := hr.scanPrefix_split
  have h0 : pre.countP (fun p => !p.frameAvailable) = 0 :=
    List.countP_eq_zero.2 fun p hp => by simp [hpre p hp]
  simp only [pendingFrames, he, he', List.countP_append, List.countP_cons, h0, hq,
    SyncPoint.frameAvailable_setFrameAvailable]
  rfl

theorem ScanRaised.map_transactionApplied {h : Nat} {points' points : List SyncPoint}
    (hr : ScanRaised h points' points) :
    (scanPrefix h points').map (·.transactionApplied) =
      (scanPrefix h points).map (·.transactionApplied) := by
  obtain ⟨pre, q, rest, he, he', -, -⟩ := hr.scanPrefix_split
  simp [he, he']

/-- **A scan that reaches a point still waiting for its frame refuses, and raises one flag.** -/
theorem allTransactionsSignaled_of_pendingFrames_pos {h : Nat} {points : List SyncPoint}
    (hp : 0 < pendingFrames h points) :
    (allTransactionsSignaled h points).1 = false ∧
      ScanRaised h (allTransactionsSignaled h points).2 points := by
  obtain ⟨q, hq, hqa⟩ := List.countP_pos_iff.1 hp
  replace hqa : q.frameAvailable = false := by simpa using hqa
  have hall : (scanPrefix h points).all (·.frameAvailable) = false :=
    List.all_eq_false.2 ⟨q, hq, by simp [hqa]⟩
  refine ⟨?_, ?_⟩
  · rw [allTransactionsSignaled_fst]
    exact List.all_eq_false.2 ⟨q, hq, by simp [hqa]⟩
  · rcases scanSyncPoints_ledger h false true points with ⟨ha, -⟩ | ⟨-, hr⟩
    · rw [ha] at hall
      cases hall
    · exact hr

/-- With every reached point's frame available, the scan answers whether every reached
transaction is applied. -/
theorem allTransactionsSignaled_of_pendingFrames_zero {h : Nat} {points : List SyncPoint}
    (hp : pendingFrames h points = 0) :
    (allTransactionsSignaled h points).1 = (scanPrefix h points).all (·.transactionApplied) := by
  have hav := List.countP_eq_zero.1 hp
  rw [allTransactionsSignaled_fst, Bool.eq_iff_iff]
  simp only [List.all_eq_true, Bool.and_eq_true]
  exact ⟨fun ha q hq => (ha q hq).2, fun ha q hq => ⟨by simpa using hav q hq, ha q hq⟩⟩

/-! ## `notifyAvailableFrames` -/

/-- One iteration of the loop of `notifyAvailableFrames`: the sync point after it, and the
requesting layer it flags with `eTransactionNeeded`, if any. -/
def notifySyncPoint (headFrameNumber : Nat) (headFenceSignaled presentTimeIsCurrent : Bool)
    (point : SyncPoint) : SyncPoint × Option LayerId :=
  if headFrameNumber ≥ point.frameNumber && headFenceSignaled && presentTimeIsCurrent then
    (point.setFrameAvailable, point.requestedSyncLayer)
  else (point, none)

theorem notifySyncPoint_raised (h : Nat) (f c : Bool) (p : SyncPoint) :
    SyncPoint.Raised (notifySyncPoint h f c p).1 p := by
  unfold notifySyncPoint
  split <;> simp [SyncPoint.Raised]

/-- **`notifyAvailableFrames`** on the ledger: every sync point after the loop, and the requesting
layers it flags, in ledger order. -/
def notifyAvailableFrames (headFrameNumber : Nat) (headFenceSignaled presentTimeIsCurrent : Bool)
    (points : List SyncPoint) : List SyncPoint × List LayerId :=
  (points.map fun p => (notifySyncPoint headFrameNumber headFenceSignaled presentTimeIsCurrent p).1,
    points.filterMap fun p =>
      (notifySyncPoint headFrameNumber headFenceSignaled presentTimeIsCurrent p).2)

theorem notifyAvailableFrames_flagsRaised (h : Nat) (f c : Bool) (points : List SyncPoint) :
    FlagsRaised (notifyAvailableFrames h f c points).1 points := by
  induction points with
  | nil => exact .nil
  | cons p ps ih => exact .cons (notifySyncPoint_raised h f c p) ih

/-- With the head frame's fence signaled and its present time current, every sync point the scan
reaches has been raised. -/
theorem scanPrefix_notifyAvailableFrames (h : Nat) (points : List SyncPoint) :
    scanPrefix h (notifyAvailableFrames h true true points).1 =
      (scanPrefix h points).map SyncPoint.setFrameAvailable := by
  induction points with
  | nil => rfl
  | cons p ps ih =>
    simp only [notifyAvailableFrames, List.map_cons] at ih ⊢
    rw [scanPrefix_cons, scanPrefix_cons]
    by_cases hp : p.frameNumber ≤ h
    · have hn : (notifySyncPoint h true true p).1 = p.setFrameAvailable := by
        simp [notifySyncPoint, hp]
      simp only [hn, SyncPoint.frameNumber_setFrameAvailable, if_pos hp, ih, List.map_cons]
    · have hn : (notifySyncPoint h true true p).1 = p := by simp [notifySyncPoint, hp]
      simp only [hn, if_neg hp, List.map_nil]

/-- **Once `notifyAvailableFrames` has seen the head frame ready, `allTransactionsSignaled` at that
head frame raises nothing and waits only on transactions**: it answers whether every sync point it
reaches has its transaction applied. -/
theorem allTransactionsSignaled_notifyAvailableFrames (h : Nat) (points : List SyncPoint) :
    (allTransactionsSignaled h (notifyAvailableFrames h true true points).1).2 =
        (notifyAvailableFrames h true true points).1 ∧
      (allTransactionsSignaled h (notifyAvailableFrames h true true points).1).1 =
        (scanPrefix h points).all (·.transactionApplied) := by
  have hs := scanPrefix_notifyAvailableFrames h points
  refine ⟨?_, by simp [allTransactionsSignaled_fst, hs, List.all_map, Function.comp_def]⟩
  rcases scanSyncPoints_ledger h false true (notifyAvailableFrames h true true points).1 with
    ⟨-, he⟩ | ⟨hall, -⟩
  · exact he
  · simp [hs, List.all_map, Function.comp_def] at hall

/-! ## Removing satisfied sync points -/

/-- The loop at the end of `latchBuffer` that erases, while iterating, each sync point satisfied by
the frame `currentFrameNumber` just latched. -/
def removeSyncPoints (currentFrameNumber : Nat) : List SyncPoint → List SyncPoint
  | [] => []
  | point :: points =>
    if !point.frameAvailable || !point.transactionApplied then
      point :: removeSyncPoints currentFrameNumber points
    else if point.frameNumber ≤ currentFrameNumber then removeSyncPoints currentFrameNumber points
    else point :: removeSyncPoints currentFrameNumber points

/-- **The erase loop skips nothing**: it removes exactly the satisfied sync points and keeps the
rest in order. -/
theorem removeSyncPoints_eq_filter (c : Nat) (points : List SyncPoint) :
    removeSyncPoints c points = points.filter fun p => !p.satisfied c := by
  induction points with
  | nil => rfl
  | cons p ps ih =>
    cases ha : p.frameAvailable <;> cases ht : p.transactionApplied <;>
      by_cases hc : p.frameNumber ≤ c <;>
      simp [removeSyncPoints, SyncPoint.satisfied, List.filter_cons, ha, ht, hc, ih]

end SurfaceFlinger
