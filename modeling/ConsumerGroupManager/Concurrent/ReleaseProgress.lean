import ConsumerGroupManager.Concurrent.Release

/-!
# `Close()` が返るとき、返らないとき

`errorCh` の読み手が動けば、`Close()` はどの交錯の後からでも返ることができる。
仕事量 `CustomGroup.work` は、loop に残る一歩（これから `errorCh` に送る error の分を含む）、
`Close()` に残る一歩、`errorCh` に残る値を数える。`Close()` がまだ `cancel()` を終えていなければ
`Close()` を進め、その後は `ctx` が取り消されているので loop は高々一度 `Consume` を呼んで終わる。

読み手が動かなければ、一杯の `errorCh` に送ろうとしている loop は止まったままで、
`releasedCh` に送れないので `Close()` も `<-c.releasedCh` から先に進めない。
-/

namespace Consumer

variable {α : Type}

/-- `Consume` が返った後に loop に残る一歩の数。 -/
def ConsumeResult.work : ConsumeResult α → Nat
  | .closedGroup => 2
  | .error _ => 6
  | .ok => 3

/-- loop に残る一歩の数。`errorCh` に送る error は、送りと読み手の受信の分を数える。
`select` から `Consume` に戻る一歩は数えない：`ctx` が取り消された後にしか使わない。 -/
def LoopPc.work (consumes : Nat → List α × ConsumeResult α) (calls : Nat) : LoopPc α → Nat
  | .consume => 3 * (consumes calls).1.length + (consumes calls).2.work + 2
  | .consuming errs r => 3 * errs.length + r.work + 1
  | .report _ => 6
  | .select => 3
  | .closeErrors => 2
  | .release => 1
  | .exited => 0

namespace CustomGroup

variable (consumes : Nat → List α × ConsumeResult α) {s : CustomGroup α}

/-- loop、`Close()`、`errorCh` の読み手に残る仕事。 -/
def work (s : CustomGroup α) : Nat := s.loop.work consumes s.calls + (4 - s.closer.rank) + s.errorCh.length

/-! ## 仕事量の減る一歩 -/

/-- 空の `errorCh` への送りは仕事を減らす。 -/
theorem work_sendError (h : Inv s) (hl : s.loop.closedErrors = false) (he : s.errorCh = []) {v : α}
    {next : LoopPc α} (hw : next.work consumes s.calls + 3 ≤ s.loop.work consumes s.calls + 1) :
    (s.sendError v next).work consumes < s.work consumes := by
  unfold CustomGroup.sendError
  rw [if_neg (by rw [h.errClosed, hl]; nofun), if_pos (by simp [he, errorCapacity])]
  simp only [work, he, List.nil_append, List.length_singleton, List.length_nil]
  omega

/-- `Close()` が `<-c.releasedCh` で待ち、`errorCh` が空なら、loop の一歩が仕事を減らす。 -/
theorem Inv.work_loopStep (h : Inv s) (hc : s.closer = .wait) (he : s.errorCh = []) :
    (s.loopStep consumes).work consumes < s.work consumes := by
  have hcan : s.cancelled = true := h.cancelled (by rw [hc]; decide)
  unfold CustomGroup.loopStep
  split
  case h_2 hl | h_6 hl =>
    exact work_sendError consumes h (by rw [hl]; rfl) he (by simp only [hl, LoopPc.work, List.length_cons]; omega)
  case h_8 hl =>
    rw [if_neg (by simp [h.errClosed, hl, LoopPc.closedErrors])]
    simp [work, hl, LoopPc.work]
  case h_9 hl => simp [CustomGroup.handoff, hl, hc, work, LoopPc.work, CustomClosePc.rank]
  case h_10 hl => exact absurd (h.exited.mp hl) (by rw [hc]; decide)
  all_goals simp [work, LoopPc.work, ConsumeResult.work, hcan, *]

theorem work_closeStep (hc : s.closer ≠ .wait ∧ s.closer ≠ .returned) :
    s.closeStep.work consumes < s.work consumes := by
  unfold CustomGroup.closeStep
  split <;> simp_all [work, CustomClosePc.rank]

theorem work_readStep (he : s.errorCh ≠ []) : s.readStep.work consumes < s.work consumes := by
  unfold CustomGroup.readStep
  split
  · next hb => simp [work, hb]
  · contradiction

/-- **`Close()` が返って `errorCh` が空になるまでは、どれかの goroutine の一歩が仕事を減らす。** -/
theorem Inv.progress (h : Inv s) (hd : ¬(s.closer = .returned ∧ s.errorCh = [])) :
    ∃ a, (s.step consumes a).work consumes < s.work consumes := by
  unfold CustomGroup.step
  simp only [h.panic, Option.isSome_none, Bool.false_eq_true, if_false]
  by_cases he : s.errorCh = []
  · by_cases hc : s.closer = .wait
    · exact ⟨.loop, h.work_loopStep consumes hc he⟩
    · exact ⟨.closer, work_closeStep consumes ⟨hc, fun hr => hd ⟨hr, he⟩⟩⟩
  · exact ⟨.reader, work_readStep consumes he⟩

/-- **どの状態からでも、続けて動かせば `Close()` が返り、`errorCh` が空になる。** -/
theorem Inv.can_return (h : Inv s) :
    ∃ rest, (s.run consumes rest).closer = .returned ∧ (s.run consumes rest).errorCh = [] := by
  generalize hw : s.work consumes = w
  induction w using Nat.strong_induction_on generalizing s with
  | _ w ih =>
    by_cases hd : s.closer = .returned ∧ s.errorCh = []
    · exact ⟨[], hd⟩
    · obtain ⟨a, ha⟩ := h.progress consumes hd
      obtain ⟨rest, hr⟩ := ih _ (hw ▸ ha) (h.step consumes a) rfl
      exact ⟨a :: rest, hr⟩

/-! ## 読み手が動かないとき -/

/-- loop が一杯の `errorCh` に送ろうとしていて、`Close()` は `<-c.releasedCh` より先にいない。 -/
structure Blocked (s : CustomGroup α) : Prop where
  sending : s.loop.sending = true
  full : s.errorCh.length = errorCapacity
  closer : s.closer.rank ≤ 2
  errClosed : s.errClosed = false
  panic : s.panic = none

/-- 読み手でない一歩は、loop を動かさず、`Close()` を `<-c.releasedCh` より先に進めない。 -/
theorem Blocked.step (h : Blocked s) {a : GroupActor} (ha : a ≠ .reader) :
    Blocked (s.step consumes a) ∧ (s.step consumes a).loop = s.loop := by
  have hfull : ¬s.errorCh.length < errorCapacity := by rw [h.full]; exact Nat.lt_irrefl _
  have hsend : ∀ {v : α} {next : LoopPc α}, s.sendError v next = s := by
    simp [CustomGroup.sendError, h.errClosed, hfull]
  have hoff : s.handoff = s := by
    unfold CustomGroup.handoff
    split
    · next hl _ => have := h.sending; simp [hl, LoopPc.sending] at this
    · rfl
  unfold CustomGroup.step
  rw [if_neg (by simp [h.panic])]
  cases a with
  | loop =>
    have hloop : s.loopStep consumes = s := by
      have hs := h.sending
      unfold CustomGroup.loopStep
      split <;> first | exact hsend | simp_all [LoopPc.sending]
    dsimp only
    rw [hloop]
    exact ⟨h, rfl⟩
  | closer =>
    dsimp only
    unfold CustomGroup.closeStep
    split
    · exact ⟨{ h with closer := by simp [CustomClosePc.rank] }, rfl⟩
    · exact ⟨{ h with closer := by simp [CustomClosePc.rank] }, rfl⟩
    · rw [hoff]; exact ⟨h, rfl⟩
    all_goals next hc => have := h.closer; simp [hc, CustomClosePc.rank] at this
  | reader => exact absurd rfl ha

theorem Blocked.run (h : Blocked s) {sched : List GroupActor} (hr : GroupActor.reader ∉ sched) :
    Blocked (s.run consumes sched) ∧ (s.run consumes sched).loop = s.loop := by
  induction sched generalizing s with
  | nil => exact ⟨h, rfl⟩
  | cons a as ih =>
    obtain ⟨h', hl⟩ := h.step consumes (a := a) (fun ha => hr (ha ▸ List.mem_cons_self _ _))
    obtain ⟨h'', hl'⟩ := ih h' (fun hm => hr (List.mem_cons_of_mem _ hm))
    exact ⟨h'', hl'.trans hl⟩

end CustomGroup

/-- **読み手がいれば `Close()` は返る。** 送られた error はすべて、送られた順で読み手に届く。 -/
theorem customConsumerGroup_close_returns (consumes : Nat → List α × ConsumeResult α)
    (sched : List GroupActor) :
    ∃ rest s, CustomGroup.started.run consumes (sched ++ rest) = s ∧ s.closer = .returned ∧
      s.loop = .exited ∧ s.errClosed = true ∧ s.received = s.sent := by
  have h := CustomGroup.Inv.started.run consumes sched
  obtain ⟨rest, hc, he⟩ := h.can_return consumes
  have h' := h.run consumes rest
  have hl : ((CustomGroup.started.run consumes sched).run consumes rest).loop = .exited :=
    h'.exited.mpr (by rw [hc]; decide)
  refine ⟨rest, _, CustomGroup.run_append consumes _ _ _, hc, hl, by rw [h'.errClosed, hl]; rfl, ?_⟩
  simpa [he] using h'.flow

/-- **読み手がいなければ `Close()` は返らない。** loop は一杯の `errorCh` への送りで止まったままである。 -/
theorem customConsumerGroup_close_blocks_without_reader (consumes : Nat → List α × ConsumeResult α)
    (pre sched : List GroupActor) (hs : (CustomGroup.started.run consumes pre).loop.sending = true)
    (hf : (CustomGroup.started.run consumes pre).errorCh.length = errorCapacity)
    (hr : GroupActor.reader ∉ sched) :
    (CustomGroup.started.run consumes (pre ++ sched)).closer ≠ .returned ∧
      (CustomGroup.started.run consumes (pre ++ sched)).loop = (CustomGroup.started.run consumes pre).loop := by
  have h := CustomGroup.Inv.started.run consumes pre
  have hl := LoopPc.closedErrors_of_sending hs
  have hne : (CustomGroup.started.run consumes pre).loop ≠ .exited := fun he => by rw [he] at hl; cases hl
  have hb : CustomGroup.Blocked (CustomGroup.started.run consumes pre) :=
    ⟨hs, hf, by have := mt h.exited.mpr hne; omega, h.errClosed.trans hl, h.panic⟩
  obtain ⟨hb', hloop⟩ := hb.run consumes hr
  rw [CustomGroup.run_append]
  refine ⟨fun hc => ?_, hloop⟩
  have := hb'.closer
  rw [hc] at this
  exact absurd this (by decide)

set_option maxRecDepth 4000 in
/-- 毎回の `Consume` が error を返し、だれも `Errors()` を読まないとき：10 個の error で `errorCh` が
一杯になり、11 個目を送ろうとする loop の後では、`Close()` を呼んでも返らない。 -/
theorem customConsumerGroup_close_blocks_after_ten_errors :
    (CustomGroup.started.run (fun _ => ([], ConsumeResult.error 0)) (List.replicate 42 .loop)).loop.sending = true ∧
      (CustomGroup.started.run (fun _ => ([], ConsumeResult.error 0))
        (List.replicate 42 .loop)).errorCh.length = errorCapacity ∧
      GroupActor.reader ∉ [GroupActor.closer, .closer, .loop, .closer, .closer] ∧
      (CustomGroup.started.run (fun _ => ([], ConsumeResult.error (0 : Nat)))
        (List.replicate 42 .loop ++ [.closer, .closer, .loop, .closer, .closer])).closer ≠ .returned ∧
      (CustomGroup.started.run (fun _ => ([], ConsumeResult.error (0 : Nat)))
        (List.replicate 42 .loop ++ [.closer, .closer, .loop, .closer, .closer])).loop =
        (CustomGroup.started.run (fun _ => ([], ConsumeResult.error 0)) (List.replicate 42 .loop)).loop :=
  ⟨by decide, by decide, by decide,
    customConsumerGroup_close_blocks_without_reader _ _ _ (by decide) (by decide) (by decide)⟩

end Consumer
