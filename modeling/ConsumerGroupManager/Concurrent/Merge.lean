import ConsumerGroupManager.Basic

/-!
# error channel の fan-in

`mergeErrorChannels(channels...)` は入力の channel ごとに forwarder goroutine を一つ起こし、
受け取った値を出力の channel `out` に送らせる。forwarder は入力が閉じられて空になると
`wg.Done()` を呼び、もう一つの goroutine（closer）が `wg.Wait()` の後で `out` を閉じる。
`customConsumerGroup.Errors` は、session の error channel と handler の error channel をこれで一つにする。

次の goroutine の一歩ずつの交錯を、schedule（`Actor` の列）で決める。

* 入力 `i` の送り手（`produce i`）：台本の値を順に送り、送り終えたら channel を閉じる。
  送り手は `mergeErrorChannels` の外にあり、いつ送るかは schedule が決める。
* forwarder `i`（`forward i`）：`for v := range c { out <- v }; wg.Done()`。
* closer（`closer`）：`wg.Wait(); close(out)`。
* `out` の読み手（`read i`）：`out` は buffer のない channel なので、送りは読み手が受け取ったときに
  終わる。`read i` は forwarder `i` の送りを受け取る。

入力の channel は上限のない FIFO とする。buffer に上限のある channel（`errorCh` の 10）の実行は
どれもこの模型の実行でもあるので、ここで示す安全性はそれらにも当てはまる。
Go の panic（閉じた channel への送り、閉じた channel の close、WaitGroup の counter が負）は
`panic` に記し、その後は何も動かない。

不変量 `Merge.Inv`：

1. WaitGroup の counter は、まだ `wg.Done()` を呼んでいない forwarder の数である。
2. 入力ごとに、読み手が受け取った値、forwarder が持つ値、channel に残る値を並べると、
   送られた値の列になる（`InputOk`）。
3. `out` が閉じられているのは closer が終わったときだけで、closer が待ち終えたとき counter は 0 である。

一歩がこれを保つ（`Merge.Inv.step`）ので、どの schedule の後でも成り立つ（`Merge.Inv.run`）。
-/

namespace Consumer

variable {α : Type}

/-! ## 模型 -/

/-- 入力の channel と、その送り手。 -/
structure Chan (α : Type) where
  /-- 送り手がこれから送る値。 -/
  toSend : List α
  /-- 送られて、まだ forwarder が受け取っていない値。 -/
  buf : List α
  closed : Bool
  /-- 送られた値の全体、送った順（ghost）。 -/
  sent : List α
  deriving DecidableEq, Repr

/-- forwarder goroutine の場所。 -/
inductive Forwarder (α : Type) where
  /-- `for v := range c` の受信。 -/
  | range
  /-- `out <- v`。 -/
  | send (v : α)
  /-- loop を出て、`wg.Done()` の前。 -/
  | done
  | exited
  deriving DecidableEq, Repr

/-- forwarder が受け取って、まだ `out` に渡していない値。 -/
def Forwarder.holding : Forwarder α → List α
  | .send v => [v]
  | _ => []

/-- WaitGroup の counter に数えられている（まだ `wg.Done()` を呼んでいない）なら 1。 -/
def Forwarder.pending : Forwarder α → Nat
  | .exited => 0
  | _ => 1

/-- 入力の一つ：channel と、それを読む forwarder（`go func(c <-chan error) {...}(channel)`）。 -/
structure Input (α : Type) where
  chan : Chan α
  fwd : Forwarder α
  deriving DecidableEq, Repr

/-- まだ何も送られていない channel と、受信を待つ forwarder。 -/
def Input.init (script : List α) : Input α := ⟨⟨script, [], false, []⟩, .range⟩

/-- closer goroutine の場所。 -/
inductive Closer where
  /-- `wg.Wait()`。 -/
  | wait
  /-- `close(out)`。 -/
  | close
  | exited
  deriving DecidableEq, Repr

/-- Go の runtime の panic。 -/
inductive Panic where
  | sendOnClosedChannel
  | closeOfClosedChannel
  | negativeWaitGroupCounter
  deriving DecidableEq, Repr

/-- schedule の一歩を進める goroutine。 -/
inductive Actor where
  | produce (i : Nat)
  | forward (i : Nat)
  | closer
  | read (i : Nat)
  deriving DecidableEq, Repr

/-- `mergeErrorChannels` の goroutine と channel の状態。 -/
structure Merge (α : Type) where
  /-- `len(channels)`。 -/
  n : Nat
  inputs : Nat → Input α
  wg : Nat
  closer : Closer
  outClosed : Bool
  /-- `close(out)` を呼んだ回数（ghost）。 -/
  closes : Nat
  /-- 読み手が受け取った値と、それが来た入力、受け取った順（ghost）。 -/
  delivered : List (Nat × α)
  panic : Option Panic

/-- `mergeErrorChannels(channels...)`：`out` を作り、`wg.Add(len(channels))` の後で、入力ごとの
forwarder と closer を起こす。入力 `i` の送り手の台本が `channels[i]` である。 -/
def mergeErrorChannels (channels : List (List α)) : Merge α where
  n := channels.length
  inputs i := Input.init (channels.getD i [])
  wg := channels.length
  closer := .wait
  outClosed := false
  closes := 0
  delivered := []
  panic := none

namespace Merge

/-- 入力 `i` を書き換える。 -/
@[simps]
def setInput (s : Merge α) (i : Nat) (x : Input α) : Merge α :=
  { s with inputs := Function.update s.inputs i x }

/-- 送り手 `i` の一歩：台本の次の値を送るか、送り終えていれば channel を閉じる。 -/
def produce (s : Merge α) (i : Nat) : Merge α :=
  let x := s.inputs i
  let c := x.chan
  match c.toSend with
  | v :: rest =>
    s.setInput i { x with chan := { c with toSend := rest, buf := c.buf ++ [v], sent := c.sent ++ [v] } }
  | [] => s.setInput i { x with chan := { c with closed := true } }

/-- forwarder `i` の一歩：`for v := range c { out <- v }; wg.Done()`。
`out <- v` は読み手が受け取るまで待つ（受け取るのは `read`）。 -/
def forward (s : Merge α) (i : Nat) : Merge α :=
  let x := s.inputs i
  match x.fwd with
  | .range =>
    match x.chan.buf with
    | v :: rest => s.setInput i ⟨{ x.chan with buf := rest }, .send v⟩
    | [] => if x.chan.closed then s.setInput i { x with fwd := .done } else s
  | .send _ => if s.outClosed then { s with panic := some .sendOnClosedChannel } else s
  | .done =>
    if s.wg = 0 then { s with panic := some .negativeWaitGroupCounter }
    else { s.setInput i { x with fwd := .exited } with wg := s.wg - 1 }
  | .exited => s

/-- closer の一歩：`wg.Wait()` は counter が 0 になるまで待ち、それから `close(out)`。 -/
def closeOut (s : Merge α) : Merge α :=
  match s.closer with
  | .wait => if s.wg = 0 then { s with closer := .close } else s
  | .close =>
    if s.outClosed then { s with panic := some .closeOfClosedChannel }
    else { s with outClosed := true, closes := s.closes + 1, closer := .exited }
  | .exited => s

/-- 読み手が `out` から受け取る：forwarder `i` が送っていれば、その値を受け取る。 -/
def read (s : Merge α) (i : Nat) : Merge α :=
  let x := s.inputs i
  match x.fwd with
  | .send v =>
    if s.outClosed then s
    else { s.setInput i { x with fwd := .range } with delivered := s.delivered ++ [(i, v)] }
  | _ => s

/-- schedule の一歩。panic の後は何も動かない。 -/
def step (s : Merge α) (a : Actor) : Merge α :=
  if s.panic.isSome then s else
    match a with
    | .produce i => if i < s.n then s.produce i else s
    | .forward i => if i < s.n then s.forward i else s
    | .closer => s.closeOut
    | .read i => if i < s.n then s.read i else s

/-- schedule を順に進める。 -/
def run (s : Merge α) : List Actor → Merge α
  | [] => s
  | a :: as => (s.step a).run as

/-- 読み手が入力 `i` から受け取った値、受け取った順。 -/
def deliveredFrom (s : Merge α) (i : Nat) : List α :=
  s.delivered.filterMap fun p => if p.1 = i then some p.2 else none

/-- 番号が `n` より小さい入力の `w` の和。 -/
def sumBelow (w : Nat → Nat) : Nat → Nat
  | 0 => 0
  | n + 1 => sumBelow w n + w n

/-- まだ `wg.Done()` を呼んでいない forwarder の数。 -/
def pending (s : Merge α) : Nat := sumBelow (fun i => (s.inputs i).fwd.pending) s.n

/-! ## 数と列の補題 -/

section Sum

variable {β : Type} (g : β → Nat) {F : Nat → β} {i : Nat}

theorem sumBelow_update_of_le {n : Nat} (h : n ≤ i) (b : β) :
    sumBelow (fun j => g (Function.update F i b j)) n = sumBelow (fun j => g (F j)) n := by
  induction n with
  | zero => rfl
  | succ n ih => simp only [sumBelow, ih (Nat.le_of_succ_le h), Function.update_noteq (Nat.ne_of_lt h)]

/-- **一つの入力が `F i` から `b` に移ったときの和の変わり方。** -/
theorem sumBelow_update {n : Nat} (hi : i < n) (b : β) :
    sumBelow (fun j => g (Function.update F i b j)) n + g (F i) = sumBelow (fun j => g (F j)) n + g b := by
  induction n with
  | zero => exact absurd hi (Nat.not_lt_zero _)
  | succ n ih =>
    simp only [sumBelow]
    rcases Nat.lt_succ_iff_lt_or_eq.mp hi with hi | rfl
    · rw [Function.update_noteq (Nat.ne_of_gt hi)]
      have := ih hi
      omega
    · rw [sumBelow_update_of_le g le_rfl, Function.update_same]
      omega

theorem le_sumBelow (w : Nat → Nat) {n : Nat} (hi : i < n) : w i ≤ sumBelow w n := by
  induction n with
  | zero => exact absurd hi (Nat.not_lt_zero _)
  | succ n ih =>
    rcases Nat.lt_succ_iff_lt_or_eq.mp hi with hi | rfl
    · exact Nat.le_add_right_of_le (ih hi)
    · exact Nat.le_add_left _ _

theorem sumBelow_const (n : Nat) : sumBelow (fun _ => 1) n = n := by
  induction n with
  | zero => rfl
  | succ n ih => simp [sumBelow, ih]

theorem sumBelow_eq_zero {w : Nat → Nat} {n : Nat} (h : ∀ i < n, w i = 0) : sumBelow w n = 0 := by
  induction n with
  | zero => rfl
  | succ n ih => rw [sumBelow, ih fun i hi => h i (Nat.lt_succ_of_lt hi), h n (Nat.lt_succ_self n)]

end Sum

variable {s : Merge α} {i : Nat}

/-- 入力 `i` だけを `x` に書き換えた状態の数。 -/
theorem pending_update {s' : Merge α} {x : Input α} (hn : s'.n = s.n)
    (hs : s'.inputs = Function.update s.inputs i x) (hi : i < s.n) :
    s'.pending + (s.inputs i).fwd.pending = s.pending + x.fwd.pending := by
  unfold pending
  rw [hn, hs]
  exact sumBelow_update (fun x : Input α => x.fwd.pending) hi x

theorem le_pending (hi : i < s.n) : (s.inputs i).fwd.pending ≤ s.pending :=
  le_sumBelow (fun i => (s.inputs i).fwd.pending) hi

theorem pending_eq_zero (h : ∀ i < s.n, (s.inputs i).fwd = .exited) : s.pending = 0 :=
  sumBelow_eq_zero fun i hi => by rw [h i hi]; rfl

theorem exited_of_pending_eq_zero (h : s.pending = 0) (hi : i < s.n) : (s.inputs i).fwd = .exited := by
  have := le_pending hi
  cases hf : (s.inputs i).fwd <;> simp_all [Forwarder.pending]

end Merge

/-! ## 入力ごとの値の行方 -/

/-- **入力の値の行方。** 読み手が受け取った値 `d`、forwarder が持つ値、channel に残る値を並べると、
送られた値の列になる。閉じた channel にはもう送られない。forwarder が loop を出たなら、channel は
閉じられて空である。 -/
structure InputOk (d : List α) (x : Input α) : Prop where
  flow : d ++ x.fwd.holding ++ x.chan.buf = x.chan.sent
  script : x.chan.closed = true → x.chan.toSend = []
  drained : x.fwd = .done ∨ x.fwd = .exited → x.chan.closed = true ∧ x.chan.buf = []

namespace InputOk

variable {d : List α} {x : Input α} {v : α} {rest : List α}

theorem init (script : List α) : InputOk [] (Input.init script) :=
  ⟨rfl, nofun, nofun⟩

/-- 送り手が値を一つ送る。 -/
theorem send (h : InputOk d x) (ht : x.chan.toSend = v :: rest) :
    InputOk d { x with
      chan := { x.chan with toSend := rest, buf := x.chan.buf ++ [v], sent := x.chan.sent ++ [v] } } where
  flow := by rw [← h.flow]; simp
  script hc := absurd (h.script hc) (by simp [ht])
  drained hf := absurd (h.script (h.drained hf).1) (by simp [ht])

/-- 送り手が送り終えて channel を閉じる。 -/
theorem close (h : InputOk d x) (ht : x.chan.toSend = []) :
    InputOk d { x with chan := { x.chan with closed := true } } where
  flow := h.flow
  script _ := ht
  drained hf := ⟨rfl, (h.drained hf).2⟩

/-- forwarder が channel の先頭の値を受け取る。 -/
theorem receive (h : InputOk d x) (hf : x.fwd = .range) (hb : x.chan.buf = v :: rest) :
    InputOk d ⟨{ x.chan with buf := rest }, .send v⟩ where
  flow := by rw [← h.flow, hf, hb]; simp [Forwarder.holding]
  script := h.script
  drained := nofun

/-- 閉じられて空の channel で、forwarder が loop を出る。 -/
theorem finish (h : InputOk d x) (hf : x.fwd = .range) (hb : x.chan.buf = [])
    (hc : x.chan.closed = true) : InputOk d { x with fwd := .done } :=
  ⟨by simpa [hf, Forwarder.holding] using h.flow, h.script, fun _ => ⟨hc, hb⟩⟩

/-- forwarder が `wg.Done()` を呼ぶ。 -/
theorem exit (h : InputOk d x) (hf : x.fwd = .done) : InputOk d { x with fwd := .exited } :=
  ⟨by simpa [hf, Forwarder.holding] using h.flow, h.script, fun _ => h.drained (.inl hf)⟩

/-- 読み手が forwarder の値を受け取る。 -/
theorem deliver (h : InputOk d x) (hf : x.fwd = .send v) : InputOk (d ++ [v]) { x with fwd := .range } where
  flow := by rw [← h.flow, hf]; simp [Forwarder.holding]
  script := h.script
  drained := nofun

end InputOk

/-! ## 不変量 -/

namespace Merge

variable {s : Merge α} {i : Nat}

/-- **fan-in の不変量。** -/
structure Inv (s : Merge α) : Prop where
  wg : s.wg = s.pending
  inputs : ∀ i < s.n, InputOk (s.deliveredFrom i) (s.inputs i)
  delivered_lt : ∀ p ∈ s.delivered, p.1 < s.n
  waited : s.closer ≠ .wait → s.wg = 0
  outClosed : s.outClosed = true ↔ s.closer = .exited
  closes : s.closes = if s.closer = .exited then 1 else 0
  panic : s.panic = none

theorem Inv.init (channels : List (List α)) : Inv (mergeErrorChannels channels) where
  wg := (sumBelow_const _).symm
  inputs _ _ := InputOk.init _
  delivered_lt := nofun
  waited h := absurd rfl h
  outClosed := by simp [mergeErrorChannels]
  closes := rfl
  panic := rfl

/-- `out` が閉じられていれば、どの forwarder も終わっている。 -/
theorem Inv.exited_of_outClosed (h : Inv s) (ho : s.outClosed = true) (hi : i < s.n) :
    (s.inputs i).fwd = .exited :=
  exited_of_pending_eq_zero (h.wg ▸ h.waited (by rw [h.outClosed.mp ho]; nofun)) hi

/-- `out` が閉じられていれば、どの入力も閉じられて空で、送られた値はすべて受け取られている。 -/
theorem Inv.drained_of_outClosed (h : Inv s) (ho : s.outClosed = true) (hi : i < s.n) :
    (s.inputs i).chan.closed = true ∧ (s.inputs i).chan.buf = [] ∧
      s.deliveredFrom i = (s.inputs i).chan.sent := by
  have hx := h.inputs i hi
  have he := h.exited_of_outClosed ho hi
  obtain ⟨hcl, hb⟩ := hx.drained (.inr he)
  exact ⟨hcl, hb, by simpa [he, hb, Forwarder.holding] using hx.flow⟩

/-- counter は `wg.Done()` の前の forwarder を数えているので、終わっていない forwarder があれば 0 でない。 -/
theorem Inv.wg_ne_zero (h : Inv s) (hi : i < s.n) (hf : (s.inputs i).fwd ≠ .exited) : s.wg ≠ 0 := by
  have hle := le_pending hi
  rw [h.wg]
  cases hx : (s.inputs i).fwd <;> simp [hx, Forwarder.pending] at hle hf <;> omega

/-- 入力 `i` だけを書き換えた後の `InputOk`：`i` では新しい値について、ほかでは前のまま。 -/
theorem Inv.inputs_update (h : Inv s) {x : Input α} {s' : Merge α} (hn : s'.n = s.n)
    (hs : s'.inputs = Function.update s.inputs i x)
    (hd : ∀ j, j ≠ i → s'.deliveredFrom j = s.deliveredFrom j) (hx : InputOk (s'.deliveredFrom i) x) :
    ∀ j < s'.n, InputOk (s'.deliveredFrom j) (s'.inputs j) := by
  intro j hj
  rw [hs]
  by_cases hji : j = i
  · subst hji; simpa using hx
  · rw [hd j hji]; simpa [hji] using h.inputs j (hn ▸ hj)

/-- 入力 `i` だけを書き換えた後の counter：forwarder の移動と同じだけ変われば、数と等しいまま。 -/
theorem Inv.wg_update (h : Inv s) (hi : i < s.n) {x : Input α} {s' : Merge α} (hn : s'.n = s.n)
    (hs : s'.inputs = Function.update s.inputs i x)
    (hw : s'.wg + (s.inputs i).fwd.pending = s.wg + x.fwd.pending) : s'.wg = s'.pending := by
  have := pending_update hn hs hi
  have := h.wg
  omega

/-- 入力 `i` を、数を変えずに `InputOk` を保って書き換える。 -/
theorem Inv.update (h : Inv s) (hi : i < s.n) {x : Input α} (hx : InputOk (s.deliveredFrom i) x)
    (hp : x.fwd.pending = (s.inputs i).fwd.pending) : Inv (s.setInput i x) where
  wg := h.wg_update hi rfl rfl (by rw [hp]; rfl)
  inputs := h.inputs_update rfl rfl (fun _ _ => rfl) hx
  delivered_lt := h.delivered_lt
  waited := h.waited
  outClosed := h.outClosed
  closes := h.closes
  panic := h.panic

theorem Inv.produce (h : Inv s) (hi : i < s.n) : Inv (s.produce i) := by
  unfold Merge.produce
  dsimp only
  split
  · next ht => exact h.update hi ((h.inputs i hi).send ht) rfl
  · next ht => exact h.update hi ((h.inputs i hi).close ht) rfl

theorem Inv.forward (h : Inv s) (hi : i < s.n) : Inv (s.forward i) := by
  unfold Merge.forward
  have hx := h.inputs i hi
  dsimp only
  split
  · next hf =>
    split
    · next hb => exact h.update hi (hx.receive hf hb) (by rw [hf]; rfl)
    · next hb =>
      split
      · next hc => exact h.update hi (hx.finish hf hb hc) (by rw [hf]; rfl)
      · exact h
  · next hf =>
    -- `out` が閉じられていれば forwarder は終わっているので、送りの途中ではない
    have : s.outClosed = false :=
      Bool.eq_false_iff.mpr fun ho => nomatch (h.exited_of_outClosed ho hi).symm.trans hf
    simpa [this] using h
  · next hf =>
    have hpos := h.wg_ne_zero hi (by rw [hf]; nofun)
    rw [if_neg hpos]
    exact ⟨h.wg_update hi rfl rfl (by simp only [hf, Forwarder.pending]; omega),
      h.inputs_update rfl rfl (fun _ _ => rfl) (hx.exit hf),
      h.delivered_lt, fun hw => absurd (h.waited hw) hpos, h.outClosed, h.closes, h.panic⟩
  · exact h

theorem Inv.closeOut (h : Inv s) : Inv s.closeOut := by
  unfold Merge.closeOut
  split
  · next hw =>
    split
    · next hz =>
      refine ⟨h.wg, h.inputs, h.delivered_lt, fun _ => hz, ?_, ?_, h.panic⟩
      · simpa [hw] using h.outClosed
      · simpa [hw] using h.closes
    · exact h
  · next hw =>
    -- closer が一度だけ `close(out)` を呼ぶ：それまで `out` は開いている
    have ho : s.outClosed = false := by simpa [hw] using h.outClosed
    have hz : s.wg = 0 := h.waited (by rw [hw]; nofun)
    rw [if_neg (by simp [ho])]
    refine ⟨h.wg, h.inputs, h.delivered_lt, fun _ => hz, by simp, ?_, h.panic⟩
    simpa [hw] using h.closes
  · exact h

theorem Inv.read (h : Inv s) (hi : i < s.n) : Inv (s.read i) := by
  unfold Merge.read
  dsimp only
  split
  · next v hf =>
    split
    · exact h
    · -- 読み手が受け取った値は、入力 `i` から受け取った値の最後に付く
      refine ⟨h.wg_update hi rfl rfl (by simp only [hf, Forwarder.pending]; rfl),
        h.inputs_update rfl rfl (fun j hj => by simp [deliveredFrom, Ne.symm hj])
          (by simpa [deliveredFrom] using (h.inputs i hi).deliver hf),
        fun p hp => ?_, h.waited, h.outClosed, h.closes, h.panic⟩
      rcases List.mem_append.mp hp with hp | hp
      · exact h.delivered_lt p hp
      · rw [List.mem_singleton.mp hp]; exact hi
  · exact h

/-- **一歩は不変量を保つ。** -/
theorem Inv.step (h : Inv s) (a : Actor) : Inv (s.step a) := by
  unfold Merge.step
  rw [if_neg (by simp [h.panic])]
  cases a with
  | produce i => dsimp only; split; exacts [h.produce ‹_›, h]
  | forward i => dsimp only; split; exacts [h.forward ‹_›, h]
  | closer => exact h.closeOut
  | read i => dsimp only; split; exacts [h.read ‹_›, h]

theorem step_n (s : Merge α) (a : Actor) : (s.step a).n = s.n := by
  unfold Merge.step Merge.produce Merge.forward Merge.closeOut Merge.read
  dsimp only
  repeat' split
  all_goals rfl

theorem run_append (s : Merge α) (l₁ l₂ : List Actor) : s.run (l₁ ++ l₂) = (s.run l₁).run l₂ := by
  induction l₁ generalizing s with
  | nil => rfl
  | cons a as ih => exact ih _

/-- **どの schedule の後でも不変量が成り立つ。** -/
theorem Inv.run (h : Inv s) (sched : List Actor) : Inv (s.run sched) ∧ (s.run sched).n = s.n := by
  induction sched generalizing s with
  | nil => exact ⟨h, rfl⟩
  | cons a as ih =>
    obtain ⟨h', hn⟩ := ih (h.step a)
    exact ⟨h', hn.trans (step_n s a)⟩

end Merge

/-! ## `mergeErrorChannels` の性質 -/

/-- **fan-in は値を失わず、重ねず、入力ごとの順を保ち、`out` を一度だけ、最後に閉じる。** -/
theorem mergeErrorChannels_forwards_all (channels : List (List α)) (sched : List Actor) :
    let s := (mergeErrorChannels channels).run sched
    s.panic = none ∧ s.closes ≤ 1 ∧
      (∀ p ∈ s.delivered, p.1 < channels.length ∧ p.2 ∈ (s.inputs p.1).chan.sent) ∧
      (∀ i < channels.length, s.deliveredFrom i <+: (s.inputs i).chan.sent ∧
        s.deliveredFrom i ++ (s.inputs i).fwd.holding ++ (s.inputs i).chan.buf = (s.inputs i).chan.sent) ∧
      (s.outClosed = true → ∀ i < channels.length, (s.inputs i).chan.closed = true ∧
        (s.inputs i).chan.buf = [] ∧ s.deliveredFrom i = (s.inputs i).chan.sent) := by
  obtain ⟨h, hn⟩ := (Merge.Inv.init channels).run sched
  have hn : ((mergeErrorChannels channels).run sched).n = channels.length := hn
  refine ⟨h.panic, by rw [h.closes]; split <;> omega, fun p hp => ?_, fun i hi => ?_, fun ho i hi => ?_⟩
  · have hlt := hn ▸ h.delivered_lt p hp
    refine ⟨hlt, ?_⟩
    rw [← (h.inputs p.1 (hn ▸ hlt)).flow, List.append_assoc]
    exact List.mem_append_left _ (List.mem_filterMap.mpr ⟨p, hp, by simp⟩)
  · have hf := (h.inputs i (hn ▸ hi)).flow
    exact ⟨⟨_, by rw [← List.append_assoc]; exact hf⟩, hf⟩
  · exact h.drained_of_outClosed ho (hn ▸ hi)

/-- 二つの入力の値が、入力ごとの順を保って交互に届き、最後に `out` が閉じられる。 -/
example :
    let s := (mergeErrorChannels [[1, 2], [3]]).run [.produce 0, .produce 1, .forward 1, .produce 0,
      .forward 0, .read 1, .read 0, .forward 0, .produce 0, .produce 1, .forward 1, .read 0, .forward 0,
      .forward 0, .forward 0, .forward 1, .closer, .closer]
    s.delivered = [(1, 3), (0, 1), (0, 2)] ∧ s.outClosed = true ∧ s.panic = none := by
  decide

end Consumer
