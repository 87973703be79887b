import ConsumerGroupManager.Concurrent.Merge

/-!
# `customConsumerGroup` の consume loop と `Close()`

factory の `StartConsumerGroup` は consumer group を作った後で、`errorCh`（容量 10）、
`releasedCh`（buffer なし）、`ctx` を作り、consume loop の goroutine を一つ起こす。

```
for {
  consumeErr := manager.Consume(groupID, ctx, topics, &consumerHandler)
  if consumeErr == sarama.ErrClosedConsumerGroup { return }
  if consumeErr != nil { errorCh <- consumeErr }
  select { case <-ctx.Done(): return; default: }
}
```

loop を出ると defer が `close(errorCh)` の後で `releasedCh <- true` を送る。`Close()` は `cancel()`、
`<-releasedCh`、`ConsumerGroup.Close()` の順に進む。`manager.Consume` の k 回目の呼び出しの結果と、
その間に handler が `errorCh` に送る error は `consumes k` が決める。
-/

namespace Consumer

variable {α : Type}

/-! ## 模型 -/

/-- `manager.Consume` の結果。`closedGroup` は `sarama.ErrClosedConsumerGroup`。 -/
inductive ConsumeResult (α : Type) where
  | closedGroup
  | error (e : α)
  | ok
  deriving DecidableEq, Repr

/-- consume loop の場所。`consuming` は `Consume` の中で、handler がこれから送る error を持つ。 -/
inductive LoopPc (α : Type) where
  | consume
  | consuming (errs : List α) (r : ConsumeResult α)
  | report (e : α)
  | select
  | closeErrors
  | release
  | exited
  deriving DecidableEq, Repr

def LoopPc.closedErrors : LoopPc α → Bool
  | .release | .exited => true
  | _ => false

def LoopPc.sending : LoopPc α → Bool
  | .consuming (_ :: _) _ | .report _ => true
  | _ => false

theorem LoopPc.closedErrors_of_sending {p : LoopPc α} (h : p.sending = true) : p.closedErrors = false := by
  cases p <;> first | rfl | cases h

/-- `customConsumerGroup.Close()` を呼ぶ goroutine の場所。 -/
inductive CustomClosePc where
  | idle
  | cancel
  | wait
  | closeGroup
  | returned
  deriving DecidableEq, Repr

def CustomClosePc.rank : CustomClosePc → Nat
  | .idle => 0
  | .cancel => 1
  | .wait => 2
  | .closeGroup => 3
  | .returned => 4

/-- schedule の一歩を進める goroutine。`reader` は `errorCh` の読み手。 -/
inductive GroupActor where
  | loop
  | closer
  | reader
  deriving DecidableEq, Repr

/-- `errorCh := make(chan error, 10)` の容量。 -/
def errorCapacity : Nat := 10

/-- `customConsumerGroup` と、その consume loop の状態。`sent` と `received` は ghost。 -/
structure CustomGroup (α : Type) where
  loop : LoopPc α
  closer : CustomClosePc
  cancelled : Bool
  errorCh : List α
  errClosed : Bool
  calls : Nat
  groupClosed : Bool
  sent : List α
  received : List α
  panic : Option Panic
  deriving DecidableEq, Repr

namespace CustomGroup

/-- factory の `StartConsumerGroup` が `&customConsumerGroup{...}` を返した直後。 -/
def started : CustomGroup α where
  loop := .consume
  closer := .idle
  cancelled := false
  errorCh := []
  errClosed := false
  calls := 0
  groupClosed := false
  sent := []
  received := []
  panic := none

/-- `errorCh <- v`。buffer が一杯なら待つ。 -/
def sendError (s : CustomGroup α) (v : α) (next : LoopPc α) : CustomGroup α :=
  if s.errClosed then { s with panic := some .sendOnClosedChannel }
  else if s.errorCh.length < errorCapacity then
    { s with errorCh := s.errorCh ++ [v], sent := s.sent ++ [v], loop := next }
  else s

/-- `releasedCh` は buffer のない channel なので、loop の送りと `Close()` の受信は一緒に終わる。 -/
def handoff (s : CustomGroup α) : CustomGroup α :=
  match s.loop, s.closer with
  | .release, .wait => { s with loop := .exited, closer := .closeGroup }
  | _, _ => s

variable (consumes : Nat → List α × ConsumeResult α)

def loopStep (s : CustomGroup α) : CustomGroup α :=
  match s.loop with
  | .consume => { s with loop := .consuming (consumes s.calls).1 (consumes s.calls).2, calls := s.calls + 1 }
  | .consuming (v :: rest) r => s.sendError v (.consuming rest r)
  | .consuming [] .closedGroup => { s with loop := .closeErrors }
  | .consuming [] (.error e) => { s with loop := .report e }
  | .consuming [] .ok => { s with loop := .select }
  | .report e => s.sendError e .select
  | .select => { s with loop := if s.cancelled then .closeErrors else .consume }
  | .closeErrors =>
    if s.errClosed then { s with panic := some .closeOfClosedChannel }
    else { s with errClosed := true, loop := .release }
  | .release => s.handoff
  | .exited => s

def closeStep (s : CustomGroup α) : CustomGroup α :=
  match s.closer with
  | .idle => { s with closer := .cancel }
  | .cancel => { s with cancelled := true, closer := .wait }
  | .wait => s.handoff
  | .closeGroup => { s with groupClosed := true, closer := .returned }
  | .returned => s

def readStep (s : CustomGroup α) : CustomGroup α :=
  match s.errorCh with
  | v :: rest => { s with errorCh := rest, received := s.received ++ [v] }
  | [] => s

/-- schedule の一歩。panic の後は何も動かない。 -/
def step (s : CustomGroup α) (a : GroupActor) : CustomGroup α :=
  if s.panic.isSome then s else
    match a with
    | .loop => s.loopStep consumes
    | .closer => s.closeStep
    | .reader => s.readStep

def run (s : CustomGroup α) : List GroupActor → CustomGroup α
  | [] => s
  | a :: as => (s.step consumes a).run as

theorem run_append (s : CustomGroup α) (l₁ l₂ : List GroupActor) :
    s.run consumes (l₁ ++ l₂) = (s.run consumes l₁).run consumes l₂ := by
  induction l₁ generalizing s with
  | nil => rfl
  | cons a as ih => exact ih _

/-! ## 不変量 -/

/-- **consume loop と `Close()` の不変量。** -/
structure Inv (s : CustomGroup α) : Prop where
  flow : s.received ++ s.errorCh = s.sent
  capacity : s.errorCh.length ≤ errorCapacity
  errClosed : s.errClosed = s.loop.closedErrors
  exited : s.loop = .exited ↔ 3 ≤ s.closer.rank
  cancelled : 2 ≤ s.closer.rank → s.cancelled = true
  groupClosed : s.groupClosed = true ↔ s.closer = .returned
  panic : s.panic = none

variable {s : CustomGroup α}

theorem Inv.started : Inv (started : CustomGroup α) :=
  ⟨rfl, Nat.zero_le _, rfl, by simp [CustomGroup.started, CustomClosePc.rank], nofun, by simp [CustomGroup.started],
    rfl⟩

/-- loop の場所だけを、`errorCh` を閉じたかも終わったかも変えずに移す。 -/
theorem Inv.setLoop (h : Inv s) {next : LoopPc α} (c : Nat) (hc : next.closedErrors = s.loop.closedErrors)
    (he : next = .exited ↔ s.loop = .exited) : Inv { s with loop := next, calls := c } :=
  { h with errClosed := h.errClosed.trans hc.symm, exited := he.trans h.exited }

theorem Inv.sendError (h : Inv s) {v : α} {next : LoopPc α} (hl : s.loop.closedErrors = false)
    (hn : next.closedErrors = false) : Inv (s.sendError v next) := by
  have hne : ∀ p : LoopPc α, p.closedErrors = false → p ≠ .exited := by rintro p hp rfl; cases hp
  unfold CustomGroup.sendError
  rw [if_neg (by rw [h.errClosed, hl]; nofun)]
  split
  · next hlt =>
    refine { h with flow := ?_, capacity := ?_, errClosed := ?_, exited := ?_ }
    · rw [← h.flow]; simp
    · simp only [List.length_append, List.length_singleton]; exact hlt
    · rw [h.errClosed, hl, hn]
    · exact (iff_of_false (hne _ hn) (hne _ hl)).trans h.exited
  · exact h

theorem Inv.handoff (h : Inv s) : Inv s.handoff := by
  unfold CustomGroup.handoff
  split
  · next hl hc =>
    exact { h with
      errClosed := by rw [h.errClosed, hl]; rfl
      exited := by simp [CustomClosePc.rank]
      cancelled := fun _ => h.cancelled (by simp [hc, CustomClosePc.rank])
      groupClosed := by simpa [hc] using h.groupClosed }
  · exact h

theorem Inv.loopStep (h : Inv s) : Inv (s.loopStep consumes) := by
  unfold CustomGroup.loopStep
  split
  case h_2 | h_6 => exact h.sendError (by simp [*, LoopPc.closedErrors]) rfl
  case h_7 => exact h.setLoop _ (by split <;> simp [*, LoopPc.closedErrors]) (by split <;> simp [*])
  case h_8 hl =>
    -- loop は `close(errorCh)` を一度だけ呼ぶ
    rw [if_neg (by simp [h.errClosed, hl, LoopPc.closedErrors])]
    exact { h with errClosed := rfl, exited := by simpa [hl] using h.exited }
  case h_9 => exact h.handoff
  case h_10 => exact h
  all_goals exact h.setLoop _ (by simp [*, LoopPc.closedErrors]) (by simp [*])

theorem Inv.closeStep (h : Inv s) : Inv s.closeStep := by
  unfold CustomGroup.closeStep
  split
  · next hc =>
    exact { h with
      exited := by simpa [hc, CustomClosePc.rank] using h.exited
      cancelled := by simp [CustomClosePc.rank]
      groupClosed := by simpa [hc] using h.groupClosed }
  · next hc =>
    exact { h with
      exited := by simpa [hc, CustomClosePc.rank] using h.exited
      cancelled := fun _ => rfl
      groupClosed := by simpa [hc] using h.groupClosed }
  · exact h.handoff
  · next hc =>
    exact { h with
      exited := by simpa [hc, CustomClosePc.rank] using h.exited
      cancelled := fun _ => h.cancelled (by simp [hc, CustomClosePc.rank])
      groupClosed := by simp }
  · exact h

theorem Inv.readStep (h : Inv s) : Inv s.readStep := by
  unfold CustomGroup.readStep
  split
  · next v rest hb =>
    refine { h with flow := ?_, capacity := ?_ }
    · rw [← h.flow, hb]; simp
    · have := h.capacity; simp only [hb, List.length_cons] at this; simp only; omega
  · exact h

/-- **一歩は不変量を保つ。** -/
theorem Inv.step (h : Inv s) (a : GroupActor) : Inv (s.step consumes a) := by
  unfold CustomGroup.step
  rw [if_neg (by simp [h.panic])]
  cases a with
  | loop => exact h.loopStep consumes
  | closer => exact h.closeStep
  | reader => exact h.readStep

theorem Inv.run (h : Inv s) (sched : List GroupActor) : Inv (s.run consumes sched) := by
  induction sched generalizing s with
  | nil => exact h
  | cons a as ih => exact ih (h.step consumes a)

end CustomGroup

/-- **`Close()` は loop が終わった後でしか返らない。** どの交錯でも panic せず、`errorCh` の値は
失われず順も保たれる。 -/
theorem customConsumerGroup_close_after_release (consumes : Nat → List α × ConsumeResult α)
    (sched : List GroupActor) :
    ∃ s, CustomGroup.started.run consumes sched = s ∧ s.panic = none ∧
      s.received ++ s.errorCh = s.sent ∧ s.errorCh.length ≤ errorCapacity ∧
      (s.closer = .returned → s.cancelled = true ∧ s.loop = .exited ∧ s.errClosed = true ∧
        s.groupClosed = true) := by
  have h := CustomGroup.Inv.started.run consumes sched
  refine ⟨_, rfl, h.panic, h.flow, h.capacity, fun hc => ?_⟩
  have hrank : (CustomGroup.started.run consumes sched).closer.rank = 4 := by rw [hc]; rfl
  have he := h.exited.mpr (by omega)
  exact ⟨h.cancelled (by omega), he, by rw [h.errClosed, he]; rfl, h.groupClosed.mpr hc⟩

/-! ## `errorCh` に送られる error -/

/-- `Consume` の結果のうち、loop が `errorCh <- consumeErr` で送るもの。 -/
def ConsumeResult.reported : ConsumeResult α → List α
  | .error e => [e]
  | _ => []

/-- 始めの `k` 回の `Consume` で `errorCh` に送られるはずの error。 -/
def reportedErrors (consumes : Nat → List α × ConsumeResult α) : Nat → List α
  | 0 => []
  | k + 1 => reportedErrors consumes k ++ ((consumes k).1 ++ (consumes k).2.reported)

def LoopPc.unsent : LoopPc α → List α
  | .consuming errs r => errs ++ r.reported
  | .report e => [e]
  | _ => []

theorem LoopPc.unsent_of_closedErrors {p : LoopPc α} (h : p.closedErrors = true) : p.unsent = [] := by
  cases p <;> first | rfl | cases h

namespace CustomGroup

/-- 送った error とまだ送っていない error を並べると、これまでの `Consume` の error の列になる。 -/
def Reports (consumes : Nat → List α × ConsumeResult α) (s : CustomGroup α) : Prop :=
  s.sent ++ s.loop.unsent = reportedErrors consumes s.calls

variable {consumes : Nat → List α × ConsumeResult α} {s : CustomGroup α}

theorem Reports.of_eq (h : Reports consumes s) {s' : CustomGroup α} (hs : s'.sent = s.sent)
    (hc : s'.calls = s.calls) (hu : s'.loop.unsent = s.loop.unsent) : Reports consumes s' := by
  unfold Reports
  rw [hs, hc, hu]
  exact h

theorem Reports.sendError (h : Reports consumes s) {v : α} {next : LoopPc α}
    (hu : s.loop.unsent = v :: next.unsent) : Reports consumes (s.sendError v next) := by
  unfold CustomGroup.sendError
  split
  · exact h
  · split
    · show (s.sent ++ [v]) ++ next.unsent = _
      rw [← h, hu, List.append_assoc]
      rfl
    · exact h

theorem Reports.handoff (h : Reports consumes s) : Reports consumes s.handoff := by
  unfold CustomGroup.handoff
  split
  · next hl _ => exact h.of_eq rfl rfl (by rw [hl]; rfl)
  · exact h

theorem Reports.loopStep (h : Reports consumes s) : Reports consumes (s.loopStep consumes) := by
  have hloop : ∀ next : LoopPc α, next.unsent = s.loop.unsent → Reports consumes { s with loop := next } :=
    fun next hu => h.of_eq rfl rfl hu
  unfold CustomGroup.loopStep
  split
  case h_1 hl =>
    show s.sent ++ ((consumes s.calls).1 ++ (consumes s.calls).2.reported) =
      reportedErrors consumes s.calls ++ ((consumes s.calls).1 ++ (consumes s.calls).2.reported)
    rw [← h, hl]
    exact (congrArg (· ++ _) (List.append_nil s.sent)).symm
  case h_2 hl | h_6 hl => exact h.sendError (by rw [hl]; rfl)
  case h_3 hl | h_4 hl | h_5 hl => exact hloop _ (by rw [hl]; rfl)
  case h_7 hl => exact hloop _ (by rw [hl]; split <;> rfl)
  case h_8 hl =>
    split
    · exact h
    · exact h.of_eq rfl rfl (by rw [hl]; rfl)
  case h_9 => exact h.handoff
  case h_10 => exact h

theorem Reports.closeStep (h : Reports consumes s) : Reports consumes s.closeStep := by
  unfold CustomGroup.closeStep
  split
  case h_3 => exact h.handoff
  all_goals exact h.of_eq rfl rfl rfl

theorem Reports.readStep (h : Reports consumes s) : Reports consumes s.readStep := by
  unfold CustomGroup.readStep
  split <;> exact h.of_eq rfl rfl rfl

theorem Reports.step (h : Reports consumes s) (a : GroupActor) : Reports consumes (s.step consumes a) := by
  unfold CustomGroup.step
  split
  · exact h
  · cases a with
    | loop => exact h.loopStep
    | closer => exact h.closeStep
    | reader => exact h.readStep

theorem Reports.run (h : Reports consumes s) (sched : List GroupActor) : Reports consumes (s.run consumes sched) := by
  induction sched generalizing s with
  | nil => exact h
  | cons a as ih => exact ih (h.step a)

end CustomGroup

/-- **consume loop は、handler の error と `Consume` の error を、呼び出しの順にそのまま `errorCh` に送る。** -/
theorem customConsumerGroup_reports_consume_errors (consumes : Nat → List α × ConsumeResult α)
    (sched : List GroupActor) :
    ∃ s, CustomGroup.started.run consumes sched = s ∧
      s.received ++ s.errorCh ++ s.loop.unsent = reportedErrors consumes s.calls ∧
      (s.loop.closedErrors = true → s.received ++ s.errorCh = reportedErrors consumes s.calls) := by
  have h : CustomGroup.Reports consumes (CustomGroup.started.run consumes sched) :=
    CustomGroup.Reports.run (s := CustomGroup.started) rfl sched
  have hflow := (CustomGroup.Inv.started.run consumes sched).flow
  refine ⟨_, rfl, by rw [hflow]; exact h, fun hc => ?_⟩
  rw [hflow, ← h, LoopPc.unsent_of_closedErrors hc, List.append_nil]

end Consumer
