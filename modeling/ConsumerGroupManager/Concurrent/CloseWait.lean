import ConsumerGroupManager.Concurrent.Locks

/-!
# `close()` は consume loop が返るのを待つ

spec §4.2 の `close()` は、`cancel_outer` で consume loop を止め、`released_signal` を待ってから session と
`persistent_errors` を閉じて Closed に移る。§5 では `close()` は loop が返るまで返らない。
`managed_group.go` は src/ にないので、この待ちは spec から模型にする。

`Threads.lean` の `close` の段は、待ちの後の `close()`（`Consumer.close`）を一段で行う。ここではその段を
`cancel` と `wait` に分け、consume loop に外側の context を持たせる。loop は context が cancel されると
返って `released_signal` を閉じ、`wait` はそれまで動かない。

外側の context を忘れると（`WSys.erase`）、一歩は `Threads.lean` の一歩か、何も変えない一歩である
（`WThread.step_erase`）。だから実行は `Sys` を部分 schedule で走らせたものに写る（`WSys.run_erase`）。
-/

namespace Consumer

/-! ## 外側の context -/

/-- managed group の外側の context。`StartConsumerGroup` が `startExistingConsumerGroup` で起こした loop を、
その `StartConsumerGroup` が factory から得た session の番号で指す。 -/
structure Outer where
  /-- managed group の `cancel_outer`（`customGroup.cancel`）が止める loop。 -/
  ctxOf : Nat → Nat
  cancelled : Nat → Bool
  /-- loop が返り、`released_signal` が閉じられた。 -/
  released : Nat → Bool

/-- 何も cancel されていない context。 -/
def Outer.init : Outer := ⟨fun _ => 0, fun _ => false, fun _ => false⟩

/-- `close()` の `cancel_outer`。 -/
@[simps]
def Outer.cancel (o : Outer) (k : Nat) : Outer := { o with cancelled := Function.update o.cancelled k true }

/-- loop が返り、`released_signal` を閉じる。 -/
@[simps]
def Outer.release (o : Outer) (k : Nat) : Outer := { o with released := Function.update o.released k true }

/-- `createManagedGroup(..., customGroup.cancel)`：managed group `mg` に loop `k` の `cancel_outer` を渡す。 -/
@[simps]
def Outer.attach (o : Outer) (mg k : Nat) : Outer := { o with ctxOf := Function.update o.ctxOf mg k }

/-! ## goroutine -/

/-- `CloseConsumerGroup` の途中。`managedGrp.close()` を二段に分ける。 -/
inductive WClosePc where
  | getGroup
  /-- `close()` の `cancel_outer`。 -/
  | cancel (mg : Nat)
  /-- `close()` の `released_signal` の待ち。loop が返っていれば、session と `persistent_errors` を閉じて
  Closed に移る。 -/
  | wait (mg : Nat)
  | remove
  | done (res : Option Err)
  deriving DecidableEq, Repr

/-- `Threads.lean` の段。`cancel` と `wait` は、どちらも `close` の段である。 -/
def WClosePc.erase : WClosePc → ClosePc
  | .getGroup => .getGroup
  | .cancel mg | .wait mg => .close mg
  | .remove => .remove
  | .done res => .done res

/-- `Threads.lean` の段から：`close` の段は `cancel` から始まる。 -/
def ClosePc.split : ClosePc → WClosePc
  | .getGroup => .getGroup
  | .close mg => .cancel mg
  | .remove => .remove
  | .done res => .done res

@[simp] theorem ClosePc.erase_split (pc : ClosePc) : pc.split.erase = pc := by cases pc <;> rfl

/-- 一つの goroutine。consume loop は外側の context と、返ったかを持つ。 -/
inductive WThread where
  | startGroup (groupId : String) (pc : StartPc)
  | closeGroup (groupId : String) (pc : WClosePc)
  | command (op : OpCode) (lock : CommandLock) (groupId : String) (pc : CmdPc)
  | reconfigure (brokers : List String) (config : Nat) (pc : ReconfPc)
  | consumeLoop (groupId : String) (ctx : Nat) (exited : Bool)
  deriving DecidableEq, Repr

def WThread.erase : WThread → Thread
  | .startGroup g pc => .startGroup g pc
  | .closeGroup g pc => .closeGroup g pc.erase
  | .command op lock g pc => .command op lock g pc
  | .reconfigure brokers config pc => .reconfigure brokers config pc
  | .consumeLoop g _ _ => .consumeLoop g

/-- ほかの goroutine を待つことのない goroutine：`CloseConsumerGroup` と consume loop のほか。 -/
def WThread.waitFree : WThread → Bool
  | .startGroup .. | .command .. | .reconfigure .. => true
  | .closeGroup .. | .consumeLoop .. => false

/-- consume loop なら、その外側の context。 -/
def WThread.loopCtx : WThread → Option Nat
  | .consumeLoop _ k _ => some k
  | _ => none

/-- 返った goroutine。 -/
def WThread.finished (t : WThread) : Bool := t.erase.finished

section Step

variable (env : Env)

/-- `startExistingConsumerGroup` が起こす loop は、この `StartConsumerGroup` の context を持つ。 -/
def spawnedLoops (g : String) : StartPc → List WThread
  | .spawn k => [.consumeLoop g k false]
  | _ => []

/-- `createManagedGroup` の段は、作る managed group に loop の `cancel_outer` を渡す。 -/
def startOuter : StartPc → Manager → Outer → Outer
  | .manage k, m, o => o.attach m.nextManaged k
  | _, _, o => o

/-- `CloseConsumerGroup` の一段。`cancel` と `wait` のほかは `closeStep` である。 -/
def wCloseStep (g : String) : WClosePc → Manager → Outer → WClosePc × Manager × Outer
  | .getGroup, m, o =>
    let r := closeStep env g .getGroup m
    (r.1.split, r.2, o)
  | .cancel mg, m, o => (.wait mg, m, o.cancel (o.ctxOf mg))
  | .wait mg, m, o =>
    if o.released (o.ctxOf mg) then
      let r := closeStep env g (.close mg) m
      (r.1.split, r.2, o)
    else (.wait mg, m, o)
  | .remove, m, o =>
    let r := closeStep env g .remove m
    (r.1.split, r.2, o)
  | .done res, m, o => (.done res, m, o)

/-- 一つの goroutine の一段：次の姿、状態、外側の context、観測、起こした goroutine。
consume loop は context が cancel されていれば返る。 -/
def WThread.step : WThread → Manager → Outer → WThread × Manager × Outer × List Act × List WThread
  | .startGroup g pc, m, o =>
    let r := startStep env g pc m
    (.startGroup g r.1, r.2.1, startOuter pc m o, [], spawnedLoops g pc)
  | .closeGroup g pc, m, o =>
    let r := wCloseStep env g pc m o
    (.closeGroup g r.1, r.2.1, r.2.2, [], [])
  | .command op lock g pc, m, o =>
    let r := cmdStep env op lock g pc m
    (.command op lock g r.1, r.2.1, o, r.2.2, [])
  | .reconfigure brokers config pc, m, o =>
    let r := reconfStep env brokers config pc m
    (.reconfigure brokers config r.1, r.2.1, o, r.2.2, [])
  | .consumeLoop g k exited, m, o =>
    if exited then (.consumeLoop g k true, m, o, [], [])
    else if o.cancelled k then (.consumeLoop g k true, m, o.release k, [], [])
    else (.consumeLoop g k false, m, o, [consumeAct g m], [])

end Step

/-! ## 系 -/

/-- 共有の状態、外側の context、goroutine の列、観測の履歴。 -/
structure WSys where
  m : Manager
  o : Outer
  threads : List WThread
  log : List (Nat × Act)

/-- goroutine `i` の一段。`i` がなければ何もしない。起こした goroutine は列の後ろに足す。 -/
def WSys.step (env : Env) (w : WSys) (i : Nat) : WSys :=
  match w.threads[i]? with
  | none => w
  | some t =>
    let r := t.step env w.m w.o
    { m := r.2.1
      o := r.2.2.1
      threads := w.threads.set i r.1 ++ r.2.2.2.2
      log := w.log ++ r.2.2.2.1.map (i, ·) }

def WSys.run (env : Env) (w : WSys) : List Nat → WSys
  | [] => w
  | i :: is => (w.step env i).run env is

/-- 始まりの状態：manager と、呼び出しの goroutine。 -/
def WSys.init (m : Manager) (threads : List WThread) : WSys := ⟨m, Outer.init, threads, []⟩

/-- 外側の context を忘れる。 -/
def WSys.erase (w : WSys) : Sys := ⟨w.m, w.threads.map WThread.erase, w.log⟩

theorem WSys.step_none (env : Env) {w : WSys} {i : Nat} (h : w.threads[i]? = none) : w.step env i = w := by
  simp [WSys.step, h]

theorem WSys.step_some (env : Env) {w : WSys} {i : Nat} {t : WThread} (h : w.threads[i]? = some t) :
    w.step env i =
      { m := (t.step env w.m w.o).2.1
        o := (t.step env w.m w.o).2.2.1
        threads := w.threads.set i (t.step env w.m w.o).1 ++ (t.step env w.m w.o).2.2.2.2
        log := w.log ++ (t.step env w.m w.o).2.2.2.1.map (i, ·) } := by
  simp [WSys.step, h]

/-- 一歩の後の `i` 番の goroutine：その一歩が `i` 番なら一歩進んだもの、そうでなければ元のまま。 -/
theorem WSys.step_thread (env : Env) {w : WSys} {i : Nat} {t : WThread} (ht : w.threads[i]? = some t) (j : Nat) :
    (w.step env j).threads[i]? = some (if j = i then (t.step env w.m w.o).1 else t) := by
  have hil : i < w.threads.length := (List.getElem?_eq_some_iff.mp ht).1
  cases hj : w.threads[j]? with
  | none =>
    rw [WSys.step_none env hj, if_neg]
    · exact ht
    · rintro rfl; rw [ht] at hj; cases hj
  | some u =>
    rw [WSys.step_some env hj, List.getElem?_append_left (by simpa using hil)]
    by_cases hji : j = i
    · subst hji; rw [ht] at hj; cases hj; simp [hil]
    · rw [List.getElem?_set_ne hji, if_neg hji, ht]

/-! ## 外側の context を忘れる -/

theorem set_eq_self {α : Type} {l : List α} {i : Nat} {a : α} (h : l[i]? = some a) : l.set i a = l :=
  List.ext_getElem? fun n => by
    rw [List.getElem?_set]
    split
    · subst_vars; rw [if_pos (List.getElem?_eq_some_iff.mp h).1, h]
    · rfl

/-- loop が返る前の `wait` は動かない。 -/
theorem wCloseStep_wait_blocked (env : Env) (g : String) {mg : Nat} (m : Manager) {o : Outer}
    (h : o.released (o.ctxOf mg) = false) : wCloseStep env g (.wait mg) m o = (.wait mg, m, o) := by
  simp [wCloseStep, h]

theorem WThread.step_waitFree (env : Env) (t : WThread) (m : Manager) (o : Outer) :
    (t.step env m o).1.waitFree = t.waitFree := by
  cases t with
  | consumeLoop g k e => simp only [WThread.step]; split <;> (try split) <;> rfl
  | _ => rfl

/-- **一段は、`Threads.lean` の一段か、manager に何もしない一段である。** 何もしないのは `cancel`、loop が
返る前の `wait`、consume loop が返る段と返った後の段で、どれもほかの goroutine を待ちうる goroutine の段である。 -/
theorem WThread.step_erase (env : Env) (t : WThread) (m : Manager) (o : Outer) :
    (t.waitFree = false ∧ (t.step env m o).1.erase = t.erase ∧ (t.step env m o).2.1 = m ∧
      (t.step env m o).2.2.2 = ([], [])) ∨
    ((t.step env m o).1.erase, (t.step env m o).2.1, (t.step env m o).2.2.2.1,
      (t.step env m o).2.2.2.2.map WThread.erase) = t.erase.step env m := by
  cases t with
  | startGroup g pc =>
    right
    cases pc with
    | create => simp only [WThread.step, Thread.step, WThread.erase, startStep, spawnedLoops]; split <;> rfl
    | _ => rfl
  | closeGroup g pc =>
    cases pc with
    | cancel mg => exact .inl ⟨rfl, rfl, rfl, rfl⟩
    | wait mg =>
      cases hr : o.released (o.ctxOf mg)
      · left
        refine ⟨rfl, ?_, ?_, ?_⟩ <;> simp only [WThread.step, wCloseStep_wait_blocked env g m hr]
      · right
        simp only [WThread.step, wCloseStep, hr, if_true, WThread.erase, ClosePc.erase_split]
        rfl
    | getGroup | remove =>
      right
      simp only [WThread.step, wCloseStep, WThread.erase, ClosePc.erase_split]
      rfl
    | done => exact .inr rfl
  | command | reconfigure => exact .inr rfl
  | consumeLoop g k e =>
    simp only [WThread.step]
    split
    · exact .inl ⟨rfl, rfl, rfl, rfl⟩
    · split
      · exact .inl ⟨rfl, rfl, rfl, rfl⟩
      · exact .inr rfl

/-- **系の一歩も、`Sys` の一歩か、外側の context のほかを変えない一歩である。** -/
theorem WSys.step_erase (env : Env) (w : WSys) (i : Nat) :
    ((w.step env i).erase = w.erase ∧ ∀ t, w.threads[i]? = some t → t.waitFree = false) ∨
      (w.step env i).erase = w.erase.step env i := by
  cases ht : w.threads[i]? with
  | none =>
    right
    rw [WSys.step_none env ht, Sys.step_none env (by simp [WSys.erase, ht])]
  | some t =>
    have hte : (w.threads.map WThread.erase)[i]? = some t.erase := by simp [ht]
    rw [WSys.step_some env ht]
    rcases WThread.step_erase env t w.m w.o with ⟨hw, he, hm, hx⟩ | h
    · left
      refine ⟨?_, fun t' ht' => by cases ht'; exact hw⟩
      simp only [WSys.erase, hm, hx, List.append_nil, List.map_nil, List.map_set, he, set_eq_self hte]
    · right
      rw [Sys.step_some env hte]
      simp only [WSys.erase]
      rw [← h]
      simp [List.map_set]

/-- 実行についての帰納法。 -/
theorem WSys.run_erase (env : Env) (w : WSys) (sched : List Nat) :
    ∃ sched', sched'.Sublist sched ∧
      (∀ i t, w.threads[i]? = some t → t.waitFree = true → sched'.count i = sched.count i) ∧
      (w.run env sched).erase = w.erase.run env sched' := by
  induction sched generalizing w with
  | nil => exact ⟨[], .slnil, fun _ _ _ _ => rfl, rfl⟩
  | cons j js ih =>
    obtain ⟨s', hsub, hcount, heq⟩ := ih (w.step env j)
    have hkeep : ∀ i t, w.threads[i]? = some t → t.waitFree = true →
        (w.step env j).threads[i]? = some (if j = i then (t.step env w.m w.o).1 else t) ∧
          (if j = i then (t.step env w.m w.o).1 else t).waitFree = true := fun i t ht hw =>
      ⟨WSys.step_thread env ht j, by split <;> simp only [WThread.step_waitFree, hw]⟩
    rcases WSys.step_erase env w j with ⟨hst, hwf⟩ | hst
    · refine ⟨s', hsub.cons j, fun i t ht hw => ?_, heq.trans (by rw [hst])⟩
      have hji : j ≠ i := by rintro rfl; rw [hwf t ht] at hw; cases hw
      obtain ⟨ht', hw'⟩ := hkeep i t ht hw
      rw [hcount i _ ht' hw', List.count_cons_of_ne (Ne.symm hji)]
    · refine ⟨j :: s', hsub.cons₂ j, fun i t ht hw => ?_, by rw [WSys.run, heq, hst]; rfl⟩
      obtain ⟨ht', hw'⟩ := hkeep i t ht hw
      simp only [List.count_cons, hcount i _ ht' hw']

/-- **`close()` の待ちを入れた模型は、`Threads.lean` の模型を詳しくしたものである。** 外側の context を
忘れた実行は、待たない goroutine の段をすべて残す部分 schedule での `Sys` の実行である。 -/
theorem close_wait_refines_atomic_close (env : Env) (w : WSys) (sched : List Nat) :
    ∃ sched', sched'.Sublist sched ∧
      (∀ i t, w.threads[i]? = some t → t.waitFree = true → sched'.count i = sched.count i) ∧
      (w.run env sched).erase = w.erase.run env sched' :=
  WSys.run_erase env w sched

/-! ## 一歩の姿 -/

section Inversion

variable {env : Env} {m : Manager} {o : Outer} {g : String}

/-- 外側の context が一歩で変わりうること：`ctxOf` は新しい番号のところだけ変わり、cancel と
`released_signal` は取り消されない。 -/
structure OuterStep (m : Manager) (o o' : Outer) : Prop where
  ctxOf : ∀ mg, mg < m.nextManaged → o'.ctxOf mg = o.ctxOf mg
  cancelled : ∀ k, o.cancelled k = true → o'.cancelled k = true
  released : ∀ k, o.released k = true → o'.released k = true

theorem OuterStep.refl (m : Manager) (o : Outer) : OuterStep m o o := ⟨fun _ _ => rfl, fun _ h => h, fun _ h => h⟩

theorem WThread.step_outer (env : Env) (t : WThread) (m : Manager) (o : Outer) :
    OuterStep m o (t.step env m o).2.2.1 := by
  cases t with
  | startGroup g pc =>
    cases pc with
    | manage k => exact ⟨fun mg h => by simp [WThread.step, startOuter, Nat.ne_of_lt h], fun _ h => h, fun _ h => h⟩
    | _ => exact .refl m o
  | closeGroup g pc =>
    cases pc with
    | cancel mg =>
      refine ⟨fun _ _ => rfl, fun k h => ?_, fun _ h => h⟩
      simp only [WThread.step, wCloseStep, Outer.cancel_cancelled, Function.update_apply]
      split <;> simp_all
    | wait mg => simp only [WThread.step, wCloseStep]; split <;> exact .refl m o
    | _ => exact .refl m o
  | command | reconfigure => exact .refl m o
  | consumeLoop g k e =>
    simp only [WThread.step]
    split
    · exact .refl m o
    · split
      · refine ⟨fun _ _ => rfl, fun _ h => h, fun k' h => ?_⟩
        simp only [Outer.release_released, Function.update_apply]
        split <;> simp_all
      · exact .refl m o

theorem WThread.step_loopCtx (env : Env) (t : WThread) (m : Manager) (o : Outer) :
    (t.step env m o).1.loopCtx = t.loopCtx := by
  cases t with
  | consumeLoop g k e => simp only [WThread.step]; split <;> (try split) <;> rfl
  | _ => rfl

/-- map と番号への一歩は、外側の context を忘れた一歩と同じ（`RegStep`）。 -/
theorem WThread.step_regStep (env : Env) (t : WThread) (m : Manager) (o : Outer) :
    RegStep t.erase (t.step env m o).1.erase m (t.step env m o).2.1 := by
  rcases WThread.step_erase env t m o with ⟨-, he, hm, -⟩ | h
  · rw [he, hm]; exact .keep rfl rfl
  · have h1 := congrArg Prod.fst h
    have h2 := congrArg (fun x => x.2.1) h
    simp only at h1 h2
    rw [h1, h2]
    exact Thread.step_regStep env t.erase m

/-- 起こされる goroutine は、`startExistingConsumerGroup` の consume loop だけである。 -/
theorem WThread.mem_spawned {t u : WThread} (h : u ∈ (t.step env m o).2.2.2.2) :
    ∃ g k, t = .startGroup g (.spawn k) ∧ u = .consumeLoop g k false := by
  cases t with
  | startGroup g pc =>
    cases pc with
    | spawn k => exact ⟨g, k, rfl, List.mem_singleton.mp h⟩
    | _ => simp [WThread.step, spawnedLoops] at h
  | closeGroup | command | reconfigure => simp [WThread.step] at h
  | consumeLoop g k e =>
    simp only [WThread.step] at h
    split at h
    · cases h
    · split at h <;> cases h

/-- 返った consume loop は、返った loop か、この一歩で返って `released_signal` を閉じた loop である。 -/
theorem WThread.step_exited {t : WThread} {k : Nat} (h : (t.step env m o).1 = .consumeLoop g k true) :
    t = .consumeLoop g k true ∨ (t = .consumeLoop g k false ∧ (t.step env m o).2.2.1 = o.release k) := by
  cases t with
  | consumeLoop g' k' e =>
    cases e with
    | true => simp only [WThread.step, if_true] at h; cases h; exact .inl rfl
    | false =>
      cases hc : o.cancelled k'
      · simp [WThread.step, hc] at h
      · simp only [WThread.step, hc, if_true, Bool.false_eq_true, if_false] at h ⊢
        cases h
        exact .inr ⟨rfl, rfl⟩
  | startGroup | closeGroup | command | reconfigure => cases h

/-- `createManagedGroup` の段の後：新しい番号の group を持ち、その group に loop の context を渡した。 -/
theorem WThread.step_register {t : WThread} {mg : Nat} (h : (t.step env m o).1 = .startGroup g (.register mg)) :
    ∃ k, t = .startGroup g (.manage k) ∧ mg = m.nextManaged ∧
      (t.step env m o).2.1.nextManaged = m.nextManaged + 1 ∧ (t.step env m o).2.2.1.ctxOf mg = k := by
  cases t with
  | startGroup g' pc =>
    cases pc with
    | manage k =>
      simp only [WThread.step, startStep, createManagedGroup_apply] at h
      cases h
      exact ⟨k, rfl, rfl, rfl, by simp [WThread.step, startOuter]⟩
    | create => simp only [WThread.step, startStep] at h; split at h <;> cases h
    | spawn | register | done => cases h
  | closeGroup | command | reconfigure => cases h
  | consumeLoop => simp only [WThread.step] at h; split at h <;> (try split at h) <;> cases h

/-- `createManagedGroup` の段に入るのは、consume loop を起こした段からだけである。 -/
theorem WThread.step_manage {t : WThread} {k : Nat} (h : (t.step env m o).1 = .startGroup g (.manage k)) :
    t = .startGroup g (.spawn k) := by
  cases t with
  | startGroup g' pc =>
    cases pc with
    | spawn k' => cases h; rfl
    | create => simp only [WThread.step, startStep] at h; split at h <;> cases h
    | manage => simp only [WThread.step, startStep, createManagedGroup_apply] at h; cases h
    | register | done => cases h
  | closeGroup | command | reconfigure => cases h
  | consumeLoop => simp only [WThread.step] at h; split at h <;> (try split at h) <;> cases h

/-- `cancel` に入るのは `getGroup` が group を引いた段から、`wait` にいるのは `cancel` の後か、待っている間である。 -/
theorem WThread.step_closing {t : WThread} {mg : Nat}
    (h : (t.step env m o).1 = .closeGroup g (.cancel mg) ∨ (t.step env m o).1 = .closeGroup g (.wait mg)) :
    (t = .closeGroup g .getGroup ∧ m.groups.lookup g = some mg) ∨
      t = .closeGroup g (.cancel mg) ∨ t = .closeGroup g (.wait mg) := by
  cases t with
  | closeGroup g' pc =>
    cases pc with
    | getGroup =>
      simp only [WThread.step, wCloseStep, closeStep] at h
      split at h <;> rcases h with h | h <;> cases h
      exact .inl ⟨rfl, ‹_›⟩
    | cancel mg' => rcases h with h | h <;> cases h; exact .inr (.inl rfl)
    | wait mg' =>
      simp only [WThread.step, wCloseStep] at h
      split at h
      · simp only [closeStep] at h; split at h <;> rcases h with h | h <;> cases h
      · rcases h with h | h <;> cases h; exact .inr (.inr rfl)
    | remove | done => rcases h with h | h <;> cases h
  | startGroup | command | reconfigure => rcases h with h | h <;> cases h
  | consumeLoop => simp only [WThread.step] at h; split at h <;> (try split at h) <;> rcases h with h | h <;> cases h

end Inversion

/-! ## 系の一歩 -/

section SysStep

variable {env : Env} {w : WSys}

/-- 一歩の後の `l` 番は、元の列のもの、`j` 番の次の姿、`j` 番が起こした loop のどれかである。 -/
theorem WSys.step_cases {j l : Nat} {t u : WThread} (hj : w.threads[j]? = some t)
    (h : (w.step env j).threads[l]? = some u) :
    w.threads[l]? = some u ∨ (l = j ∧ u = (t.step env w.m w.o).1) ∨
      ∃ g k, t = .startGroup g (.spawn k) ∧ u = .consumeLoop g k false := by
  rw [WSys.step_some env hj] at h
  by_cases hl : l < w.threads.length
  · rw [List.getElem?_append_left (by simpa using hl), List.getElem?_set] at h
    by_cases hlj : j = l
    · subst hlj; simp only [if_true, hl, Option.some.injEq] at h; exact .inr (.inl ⟨rfl, h.symm⟩)
    · rw [if_neg hlj] at h; exact .inl h
  · rw [List.getElem?_append_right (by simp; omega)] at h
    exact .inr (.inr (WThread.mem_spawned (List.getElem?_mem h)))

theorem WSys.step_outer (w : WSys) (j : Nat) : OuterStep w.m w.o (w.step env j).o := by
  cases hj : w.threads[j]? with
  | none => rw [WSys.step_none env hj]; exact .refl _ _
  | some t => rw [WSys.step_some env hj]; exact WThread.step_outer env t w.m w.o

theorem WSys.step_nextManaged (w : WSys) (j : Nat) : w.m.nextManaged ≤ (w.step env j).m.nextManaged := by
  cases hj : w.threads[j]? with
  | none => rw [WSys.step_none env hj]
  | some t => rw [WSys.step_some env hj]; exact (WThread.step_regStep env t w.m w.o).next_le

/-- 列にあった goroutine の loop の context は、一歩の後も同じである。 -/
theorem WSys.step_loopCtx (env : Env) {l : Nat} {u : WThread} (hu : w.threads[l]? = some u) (j : Nat) :
    (w.step env j).threads[l]?.bind WThread.loopCtx = u.loopCtx := by
  rw [WSys.step_thread env hu j]
  split <;> simp [WThread.step_loopCtx]

end SysStep

/-- 一歩の後に map で引ける group は、元から引けたか、その一歩が map に入れた、持っていた番号である。 -/
theorem RegStep.lookup {t t' : Thread} {m m' : Manager} (h : RegStep t t' m m') {g : String} {mg : Nat}
    (hg : m'.groups.lookup g = some mg) : m.groups.lookup g = some mg ∨ t.pending = some mg := by
  rcases h with ⟨hr, -⟩ | ⟨hg', -⟩ | ⟨g₀, mg₀, hp, -, hg', -⟩ | ⟨g₀, -, hg', -⟩
  · exact .inl (by rwa [show m'.groups = m.groups from congrArg Prod.fst hr] at hg)
  · exact .inl (by rwa [hg'] at hg)
  · rw [hg'] at hg
    by_cases hgg : g = g₀
    · subst hgg; rw [AList.lookup_insert] at hg; cases hg; exact .inr hp
    · exact .inl (by rwa [AList.lookup_insert_ne hgg] at hg)
  · rw [hg'] at hg
    by_cases hgg : g = g₀
    · subst hgg; rw [AList.lookup_erase] at hg; cases hg
    · exact .inl (by rwa [AList.lookup_erase_ne hgg] at hg)

theorem WThread.eq_of_pending {t : WThread} {mg : Nat} (h : t.erase.pending = some mg) :
    ∃ g, t = .startGroup g (.register mg) := by
  cases t with
  | startGroup g pc => cases pc <;> cases h; exact ⟨g, rfl⟩
  | closeGroup g pc => cases pc <;> cases h
  | _ => cases h

/-! ## consume loop の見張り -/

/-- 外側の context `k` の consume loop がある。 -/
def WSys.HasLoop (w : WSys) (k : Nat) : Prop := ∃ j : Nat, w.threads[j]?.bind WThread.loopCtx = some k

/-- managed group `mg` は作られていて、その `cancel_outer` が止める loop がある。 -/
def WSys.Guarded (w : WSys) (mg : Nat) : Prop := mg < w.m.nextManaged ∧ w.HasLoop (w.o.ctxOf mg)

theorem WSys.HasLoop.step {env : Env} {w : WSys} {k : Nat} (h : w.HasLoop k) (j : Nat) :
    (w.step env j).HasLoop k := by
  obtain ⟨l, hl⟩ := h
  obtain ⟨u, hu, hk⟩ := Option.bind_eq_some.mp hl
  exact ⟨l, (WSys.step_loopCtx env hu j).trans hk⟩

theorem WSys.Guarded.step {env : Env} {w : WSys} {mg : Nat} (h : w.Guarded mg) (j : Nat) :
    (w.step env j).Guarded mg :=
  ⟨Nat.lt_of_lt_of_le h.1 (WSys.step_nextManaged w j), by
    rw [(WSys.step_outer w j).ctxOf mg h.1]; exact h.2.step j⟩

/-- **consume loop の見張り。** 返った loop は `released_signal` を閉じている。map の group、`createManagedGroup`
を待つ `StartConsumerGroup`、まだ map に入れていない group、`close()` の途中の group には、その
`cancel_outer` が止める loop がある。 -/
structure Supervised (w : WSys) : Prop where
  released : ∀ (j : Nat) g k, w.threads[j]? = some (.consumeLoop g k true) → w.o.released k = true
  groups : ∀ g mg, w.m.groups.lookup g = some mg → w.Guarded mg
  manage : ∀ (i : Nat) g k, w.threads[i]? = some (.startGroup g (.manage k)) → w.HasLoop k
  register : ∀ (i : Nat) g mg, w.threads[i]? = some (.startGroup g (.register mg)) → w.Guarded mg
  closing : ∀ (i : Nat) g mg, w.threads[i]? = some (.closeGroup g (.cancel mg)) ∨
    w.threads[i]? = some (.closeGroup g (.wait mg)) → w.Guarded mg

/-- 呼ばれたばかりの goroutine。 -/
def WThread.fresh : WThread → Bool
  | .startGroup _ .create | .closeGroup _ .getGroup | .command .. | .reconfigure .. => true
  | _ => false

namespace Supervised

theorem init (m : Manager) (ts : List WThread) (hm : m.groups = ∅) (hts : ∀ t ∈ ts, t.fresh = true) :
    Supervised (WSys.init m ts) := by
  have hf : ∀ (i : Nat) (t : WThread), ts[i]? = some t → t.fresh = true := fun i t h => hts t (List.getElem?_mem h)
  refine ⟨fun j g k h => ?_, fun g mg h => ?_, fun i g k h => ?_, fun i g mg h => ?_, fun i g mg h => ?_⟩
  · cases hf j _ h
  · simp [WSys.init, hm] at h
  · cases hf i _ h
  · cases hf i _ h
  · rcases h with h | h <;> cases hf i _ h

/-- map の group は一歩の後も見張られている。新しく入る group は `register` の段の group である。 -/
theorem groups_step {env : Env} {w : WSys} (h : Supervised w) {j : Nat} {t : WThread} (hj : w.threads[j]? = some t)
    {g : String} {mg : Nat} (hg : (w.step env j).m.groups.lookup g = some mg) : (w.step env j).Guarded mg := by
  rw [WSys.step_some env hj] at hg
  refine WSys.Guarded.step ?_ j
  rcases (WThread.step_regStep env t w.m w.o).lookup hg with hg | hp
  · exact h.groups g mg hg
  · obtain ⟨g', rfl⟩ := WThread.eq_of_pending hp
    exact h.register j g' mg hj

theorem step (env : Env) {w : WSys} (h : Supervised w) (j : Nat) : Supervised (w.step env j) := by
  cases hj : w.threads[j]? with
  | none => rw [WSys.step_none env hj]; exact h
  | some t =>
    have hs := WSys.step_some env hj
    have hm : (w.step env j).m = (t.step env w.m w.o).2.1 := by rw [hs]
    have ho : (w.step env j).o = (t.step env w.m w.o).2.2.1 := by rw [hs]
    refine ⟨fun l g k hl => ?_, fun g mg hg => h.groups_step hj hg, fun l g k hl => ?_, fun l g mg hl => ?_,
      fun l g mg hl => ?_⟩
    · -- 返った loop
      rcases WSys.step_cases hj hl with hl | ⟨-, hu⟩ | ⟨_, _, -, hu⟩
      · exact (WSys.step_outer w j).released k (h.released l g k hl)
      · rcases WThread.step_exited hu.symm with rfl | ⟨-, ho'⟩
        · exact (WSys.step_outer w j).released k (h.released j g k hj)
        · rw [ho, ho']; simp
      · cases hu
    · -- `createManagedGroup` を待つ `StartConsumerGroup`
      rcases WSys.step_cases hj hl with hl | ⟨-, hu⟩ | ⟨_, _, -, hu⟩
      · exact (h.manage l g k hl).step j
      · obtain rfl := WThread.step_manage hu.symm
        refine ⟨w.threads.length, ?_⟩
        rw [hs, List.getElem?_append_right (by simp)]
        simp [WThread.step, spawnedLoops, WThread.loopCtx]
      · cases hu
    · -- まだ map に入れていない group
      rcases WSys.step_cases hj hl with hl | ⟨-, hu⟩ | ⟨_, _, -, hu⟩
      · exact (h.register l g mg hl).step j
      · obtain ⟨k, rfl, rfl, hn, hk⟩ := WThread.step_register hu.symm
        refine ⟨by rw [hm, hn]; exact Nat.lt_succ_self _, ?_⟩
        rw [ho, hk]
        exact (h.manage j g k hj).step j
      · cases hu
    · -- `close()` の途中の group
      have key : ∀ u, (w.step env j).threads[l]? = some u →
          u = .closeGroup g (.cancel mg) ∨ u = .closeGroup g (.wait mg) → w.Guarded mg := by
        intro u hu hcw
        rcases WSys.step_cases hj hu with hu' | ⟨-, rfl⟩ | ⟨_, _, -, rfl⟩
        · exact h.closing l g mg (by rcases hcw with rfl | rfl; exacts [.inl hu', .inr hu'])
        · rcases WThread.step_closing hcw with ⟨rfl, hg⟩ | rfl | rfl
          · exact h.groups g mg hg
          · exact h.closing j g mg (.inl hj)
          · exact h.closing j g mg (.inr hj)
        · rcases hcw with h' | h' <;> cases h'
      exact (hl.elim (key _ · (.inl rfl)) (key _ · (.inr rfl))).step j

theorem run (env : Env) {w : WSys} (h : Supervised w) (sched : List Nat) : Supervised (w.run env sched) := by
  induction sched generalizing w with
  | nil => exact h
  | cons j js ih => exact ih (h.step env j)

end Supervised

/-! ## 実行 -/

section Runs

variable {env : Env} {w : WSys}

theorem WSys.run_append (env : Env) (w : WSys) (l₁ l₂ : List Nat) :
    w.run env (l₁ ++ l₂) = (w.run env l₁).run env l₂ := by
  induction l₁ generalizing w with
  | nil => rfl
  | cons i is ih => exact ih _

theorem OuterStep.trans {m₁ : Manager} {o o₁ o₂ : Outer} {m : Manager} (h₁ : OuterStep m o o₁)
    (hn : m.nextManaged ≤ m₁.nextManaged) (h₂ : OuterStep m₁ o₁ o₂) : OuterStep m o o₂ :=
  ⟨fun mg hmg => (h₂.ctxOf mg (Nat.lt_of_lt_of_le hmg hn)).trans (h₁.ctxOf mg hmg),
    fun k h => h₂.cancelled k (h₁.cancelled k h), fun k h => h₂.released k (h₁.released k h)⟩

end Runs

/-! ## `close()` の待ち -/

theorem WSys.Guarded.run {env : Env} {w : WSys} {mg : Nat} (h : w.Guarded mg) (sched : List Nat) :
    (w.run env sched).Guarded mg := by
  induction sched generalizing w with
  | nil => exact h
  | cons j js ih => exact ih (h.step j)

end Consumer
