import ConsumerGroupManager.Concurrent.Merge

/-!
# fan-in は行き詰まらない

`Concurrent/Merge.lean` の安全性は、どの schedule の後でも悪いことが起きていないことを言う。
ここでは、どの schedule の後からでも、続けて動かせば `out` が閉じられ、入力ごとに台本の値が
すべてその順で読み手に届くことを示す。forwarder が `out <- v` で、closer が `wg.Wait()` で
待ったまま動けなくなる状態には、どの交錯でも入らない。

* 送り手の台本（送った値とこれから送る値）は、どの一歩でも変わらない（`Merge.script_run`）。
* 仕事量 `Merge.work` は、まだ送られていない値、channel に残る値、閉じていない channel、
  forwarder と closer の残りの一歩を数える。
* `out` が開いていれば、どれかの goroutine の一歩が仕事量を減らす（`Merge.Inv.progress`）。
  減らす一歩を選び続ければ、いつか `out` が閉じられる（`Merge.Inv.can_close`）。
-/

namespace Consumer

variable {α : Type}

/-- 入力の送り手の台本：送った値と、これから送る値。 -/
def Chan.script (c : Chan α) : List α := c.sent ++ c.toSend

/-- forwarder が `wg.Done()` を終えるまでに残る一歩の数（channel の値を除く）。 -/
def Forwarder.stage : Forwarder α → Nat
  | .range => 2
  | .send _ => 3
  | .done => 1
  | .exited => 0

/-- 入力の残りの仕事：送る値は送り手・forwarder・読み手の三歩、channel の値は二歩、
閉じていない channel は `close` の一歩。 -/
def Input.work (x : Input α) : Nat :=
  3 * x.chan.toSend.length + 2 * x.chan.buf.length + (if x.chan.closed then 0 else 1) + x.fwd.stage

/-- closer に残る一歩の数。 -/
def Closer.work : Closer → Nat
  | .wait => 2
  | .close => 1
  | .exited => 0

namespace Merge

/-- 入力の仕事の和と closer の仕事。 -/
def work (s : Merge α) : Nat := sumBelow (fun i => (s.inputs i).work) s.n + s.closer.work

variable {s : Merge α} {i : Nat}

/-! ## 台本は変わらない -/

theorem script_setInput (s : Merge α) {x : Input α} (h : x.chan.script = (s.inputs i).chan.script)
    (j : Nat) : ((s.setInput i x).inputs j).chan.script = (s.inputs j).chan.script := by
  by_cases hj : j = i
  · subst hj; simpa using h
  · simp [hj]

/-- 送り手は台本の次の値を、送った値に移すだけである。 -/
theorem script_produce (s : Merge α) (i j : Nat) :
    ((s.produce i).inputs j).chan.script = (s.inputs j).chan.script := by
  unfold Merge.produce
  dsimp only
  split
  · next ht => exact script_setInput s (by simp [Chan.script, ht]) j
  · exact script_setInput s (by rfl) j

theorem script_forward (s : Merge α) (i j : Nat) :
    ((s.forward i).inputs j).chan.script = (s.inputs j).chan.script := by
  unfold Merge.forward
  dsimp only
  repeat' split
  all_goals first | rfl | exact script_setInput s (by rfl) j

theorem script_read (s : Merge α) (i j : Nat) :
    ((s.read i).inputs j).chan.script = (s.inputs j).chan.script := by
  unfold Merge.read
  dsimp only
  repeat' split
  all_goals first | rfl | exact script_setInput s (by rfl) j

theorem closeOut_inputs (s : Merge α) : s.closeOut.inputs = s.inputs := by
  unfold Merge.closeOut
  repeat' split
  all_goals rfl

/-- 一歩は、どの入力の台本も変えない。 -/
theorem script_step (s : Merge α) (a : Actor) (j : Nat) :
    ((s.step a).inputs j).chan.script = (s.inputs j).chan.script := by
  unfold Merge.step
  split
  · rfl
  cases a with
  | produce i => dsimp only; split; exacts [script_produce s i j, rfl]
  | forward i => dsimp only; split; exacts [script_forward s i j, rfl]
  | closer => rw [closeOut_inputs]
  | read i => dsimp only; split; exacts [script_read s i j, rfl]

theorem script_run (s : Merge α) (sched : List Actor) (j : Nat) :
    ((s.run sched).inputs j).chan.script = (s.inputs j).chan.script := by
  induction sched generalizing s with
  | nil => rfl
  | cons a as ih => exact (ih _).trans (script_step s a j)

/-! ## 仕事量の減る一歩 -/

/-- 入力 `i` だけを、仕事の少ない `x` に書き換えれば、全体の仕事も減る。 -/
theorem work_update {s' : Merge α} {x : Input α} (hn : s'.n = s.n)
    (hs : s'.inputs = Function.update s.inputs i x) (hc : s'.closer = s.closer) (hi : i < s.n)
    (hx : x.work < (s.inputs i).work) : s'.work < s.work := by
  have := sumBelow_update Input.work (F := s.inputs) hi x
  unfold work
  rw [hn, hs, hc]
  omega

/-- 送り手は、送る値が残っているか channel を閉じていなければ、仕事を減らす。 -/
theorem work_produce (hi : i < s.n)
    (hx : (s.inputs i).chan.toSend ≠ [] ∨ (s.inputs i).chan.closed = false) : (s.produce i).work < s.work := by
  unfold Merge.produce
  dsimp only
  split
  · next ht => exact work_update rfl rfl rfl hi (by simp [Input.work, ht]; omega)
  · next ht =>
    have hc : (s.inputs i).chan.closed = false := by simpa [ht] using hx
    exact work_update rfl rfl rfl hi (by simp [Input.work, hc])

/-- 閉じた channel を読む forwarder は、値を受け取るか loop を出て、仕事を減らす。 -/
theorem work_forward_range (hi : i < s.n) (hf : (s.inputs i).fwd = .range)
    (hc : (s.inputs i).chan.closed = true) : (s.forward i).work < s.work := by
  simp only [Merge.forward, hf]
  split
  · next hb => exact work_update rfl rfl rfl hi (by simp [Input.work, hb, hf, Forwarder.stage]; omega)
  · rw [if_pos hc]
    exact work_update rfl rfl rfl hi (by simp [Input.work, hf, Forwarder.stage])

/-- `wg.Done()` の前の forwarder は、counter を減らして終わる。 -/
theorem Inv.work_forward_done (h : Inv s) (hi : i < s.n) (hf : (s.inputs i).fwd = .done) :
    (s.forward i).work < s.work := by
  simp only [Merge.forward, hf, if_neg (h.wg_ne_zero hi (by rw [hf]; nofun))]
  exact work_update rfl rfl rfl hi (by simp [Input.work, hf, Forwarder.stage])

/-- `out` が開いていれば、読み手は forwarder の送りを受け取る。 -/
theorem work_read {v : α} (hi : i < s.n) (hf : (s.inputs i).fwd = .send v) (ho : s.outClosed = false) :
    (s.read i).work < s.work := by
  simp only [Merge.read, hf, ho]
  exact work_update rfl rfl rfl hi (by simp [Input.work, hf, Forwarder.stage])

/-- panic の前は、範囲内の goroutine の一歩はその関数である。 -/
theorem step_of_lt (hp : s.panic = none) (hi : i < s.n) :
    s.step (.produce i) = s.produce i ∧ s.step (.forward i) = s.forward i ∧ s.step (.read i) = s.read i := by
  simp [Merge.step, hp, hi]

/-- 入力 `i` が終わっていなければ（channel が開いているか、forwarder が残っていれば）、
その入力の送り手、forwarder、読み手のどれかの一歩が仕事を減らす。 -/
theorem Inv.progress_input (h : Inv s) (hi : i < s.n) (ho : s.outClosed = false)
    (hx : (s.inputs i).chan.closed = false ∨ (s.inputs i).fwd ≠ .exited) : ∃ a, (s.step a).work < s.work := by
  obtain ⟨hP, hF, hR⟩ := step_of_lt h.panic hi
  by_cases hs : (s.inputs i).chan.toSend ≠ [] ∨ (s.inputs i).chan.closed = false
  · exact ⟨.produce i, hP ▸ work_produce hi hs⟩
  -- 送り手は送り終えて channel を閉じている：forwarder が進むか、読み手が受け取る
  have hc : (s.inputs i).chan.closed = true := by simpa using (not_or.mp hs).2
  cases hf : (s.inputs i).fwd with
  | range => exact ⟨.forward i, hF ▸ work_forward_range hi hf hc⟩
  | send v => exact ⟨.read i, hR ▸ work_read hi hf ho⟩
  | done => exact ⟨.forward i, hF ▸ h.work_forward_done hi hf⟩
  | exited => simp [hc, hf] at hx

/-- **`out` が開いていれば、どれかの goroutine の一歩が仕事を減らす。** どの入力も終わっていれば
counter は 0 なので、closer が `wg.Wait()` を抜けて `out` を閉じる。 -/
theorem Inv.progress (h : Inv s) (ho : s.outClosed = false) : ∃ a, (s.step a).work < s.work := by
  by_cases hall : ∃ i < s.n, (s.inputs i).chan.closed = false ∨ (s.inputs i).fwd ≠ .exited
  · obtain ⟨i, hi, hx⟩ := hall
    exact h.progress_input hi ho hx
  · push_neg at hall
    have hwg : s.wg = 0 := h.wg.trans (pending_eq_zero fun i hi => (hall i hi).2)
    have hstep : s.step .closer = s.closeOut := by simp [Merge.step, h.panic]
    refine ⟨.closer, hstep ▸ ?_⟩
    cases hc : s.closer with
    | wait => simp [Merge.closeOut, work, hc, hwg, Closer.work]
    | close => simp [Merge.closeOut, work, hc, ho, Closer.work]
    | exited => simp [h.outClosed.mpr hc] at ho

/-- **どの状態からでも、続けて動かせば `out` が閉じられる。** -/
theorem Inv.can_close (h : Inv s) : ∃ rest, (s.run rest).outClosed = true := by
  generalize hw : s.work = w
  induction w using Nat.strong_induction_on generalizing s with
  | _ w ih =>
    cases ho : s.outClosed
    · obtain ⟨a, ha⟩ := h.progress ho
      obtain ⟨rest, hr⟩ := ih _ (hw ▸ ha) (h.step a) rfl
      exact ⟨a :: rest, hr⟩
    · exact ⟨[], ho⟩

end Merge

/-- **fan-in は行き詰まらない。** 続けて動かせば `out` が閉じられ、入力ごとに台本どおりの値が届く。 -/
theorem mergeErrorChannels_can_finish (channels : List (List α)) (sched : List Actor) :
    ∃ rest, ((mergeErrorChannels channels).run (sched ++ rest)).outClosed = true ∧
      ∀ i < channels.length,
        ((mergeErrorChannels channels).run (sched ++ rest)).deliveredFrom i = channels.getD i [] := by
  obtain ⟨h, hn⟩ := (Merge.Inv.init channels).run sched
  obtain ⟨rest, ho⟩ := h.can_close
  obtain ⟨h', hn'⟩ := h.run rest
  simp only [Merge.run_append]
  refine ⟨rest, ho, fun i hi => ?_⟩
  have hi' : i < (((mergeErrorChannels channels).run sched).run rest).n := by rw [hn', hn]; exact hi
  obtain ⟨hc, -, hd⟩ := h'.drained_of_outClosed ho hi'
  have hs := (Merge.script_run _ rest i).trans (Merge.script_run (mergeErrorChannels channels) sched i)
  rw [Chan.script, (h'.inputs i hi').script hc, List.append_nil, ← hd] at hs
  exact hs

end Consumer
