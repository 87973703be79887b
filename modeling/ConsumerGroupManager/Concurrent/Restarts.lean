import ConsumerGroupManager.Concurrent.StableMap
import ConsumerGroupManager.Concurrent.Barrier

/-!
# Reconfigure は自分が止めた group だけを start し直す

§4.4 の 3：Reconfigure は、自分の stop が成功した group だけを新しい factory で start し直す。逐次の実行では
`Properties/Reconfigure.lean` の `Reconfigure_stops_then_restarts` がこれを言う。ここでは交錯の下で示す。

map を書き換える goroutine（`StartConsumerGroup`・`CloseConsumerGroup`）がいなければ、command や consume loop が
どう交錯しても、Reconfigure の goroutine が `managedGrp.start` を呼んだ group は、どれもその goroutine が
それより前に `stop()` した group である（`Reconfigure_restarts_only_stopped`）。ほかの token が lock を
持っていて stop できなかった group は、start し直さない。

1. 止める command は、`stop()` が成功した後、id の下の group を止めた観測を残している（`cmdStep_stopDone`）。
2. Reconfigure は、止めた id だけを restart に回す（`reconfStep_restartsStopped`）。
3. 観測の履歴についての不変量（`RestartsStopped`）と、schedule についての帰納法。
-/

namespace Consumer

variable {env : Env} {m : Manager}

/-! ## 止めた group -/

/-- 止める command の途中：`stop()` が成功した後なら、id の下の group は `S` に入っている。 -/
def CmdPc.stopDone (groups : AList (fun _ : String => Nat)) (g : String) (S : Nat → Prop) : CmdPc → Prop
  | .start _ _ | .unlockAfter | .unlock _ | .done none => ∀ mg, groups.lookup g = some mg → S mg
  | _ => True

/-- id の列のどの id の下の group も `S` に入っている。 -/
def AllIn (groups : AList (fun _ : String => Nat)) (S : Nat → Prop) (ids : List String) : Prop :=
  ∀ g ∈ ids, ∀ mg, groups.lookup g = some mg → S mg

/-- Reconfigure の途中：restart に回した id と、後半で残っている id の group は、どれも `S` に入っている。 -/
def ReconfPc.restartsStopped (groups : AList (fun _ : String => Nat)) (S : Nat → Prop) : ReconfPc → Prop
  | .stopping g pc _ _ rs => pc.stopDone groups g S ∧ AllIn groups S rs
  | .setFactory _ rs => AllIn groups S rs
  | .starting g _ rest _ => AllIn groups S (g :: rest)
  | _ => True

section Mono

variable {groups : AList (fun _ : String => Nat)} {S S' : Nat → Prop}

theorem AllIn.mono (hS : ∀ mg, S mg → S' mg) {ids : List String} (h : AllIn groups S ids) : AllIn groups S' ids :=
  fun g hg mg hmg => hS mg (h g hg mg hmg)

theorem CmdPc.stopDone_mono (hS : ∀ mg, S mg → S' mg) {g : String} {pc : CmdPc} (h : pc.stopDone groups g S) :
    pc.stopDone groups g S' := by
  cases pc with
  | start | unlockAfter | unlock => exact fun mg hmg => hS mg (h mg hmg)
  | done res => cases res <;> first | exact fun mg hmg => hS mg (h mg hmg) | trivial
  | _ => trivial

theorem ReconfPc.restartsStopped_mono (hS : ∀ mg, S mg → S' mg) {pc : ReconfPc}
    (h : pc.restartsStopped groups S) : pc.restartsStopped groups S' := by
  cases pc with
  | stopping => exact ⟨CmdPc.stopDone_mono hS h.1, h.2.mono hS⟩
  | setFactory | starting => exact AllIn.mono hS h
  | snapshot | done => trivial

theorem stopNext_restartsStopped (ks : List String) (errs : List Err) {rs : List String}
    (h : AllIn groups S rs) : (stopNext ks errs rs).restartsStopped groups S := by
  cases ks
  · exact h
  · exact ⟨trivial, h⟩

theorem startNext_restartsStopped {rs : List String} (errs : List Err) (h : AllIn groups S rs) :
    (startNext rs errs).restartsStopped groups S := by
  cases rs
  · trivial
  · exact h

end Mono

/-! ## 一つの goroutine の一歩 -/

/-- **止める command は、`stop()` が成功した後、id の下の group を止めた観測を残している。** -/
theorem cmdStep_stopDone (env : Env) (lock : CommandLock) (g : String) {pc : CmdPc} {S : Nat → Prop}
    (hp : pc.heldIn m.groups g) (hd : pc.stopDone m.groups g S) :
    (cmdStep env .stopConsumerGroup lock g pc m).1.stopDone m.groups g
      (fun mg => S mg ∨ Act.stopped mg ∈ (cmdStep env .stopConsumerGroup lock g pc m).2.2) := by
  have keep : ∀ {pc' : CmdPc}, pc'.stopDone m.groups g S → ∀ acts : List Act,
      pc'.stopDone m.groups g (fun mg => S mg ∨ Act.stopped mg ∈ acts) :=
    fun h _ => CmdPc.stopDone_mono (fun _ => .inl) h
  cases pc with
  | lockBefore | lock | getGroup => simp only [cmdStep]; split <;> trivial
  | act mg =>
    simp only [cmdStep]
    split
    · -- `stop()` が成功し、止めた観測を残す
      exact fun mg' hmg' => .inr (by rw [hp] at hmg'; cases hmg'; exact List.mem_singleton_self _)
    · trivial
  | start | unlockAfter | unlock | done =>
    simp only [cmdStep]
    first | exact keep hd _ | (split <;> first | exact keep hd _ | trivial)

/-- **Reconfigure は、止めた id だけを restart に回す。** -/
theorem reconfStep_restartsStopped (env : Env) (brokers : List String) (config : Nat) {pc : ReconfPc} {S : Nat → Prop}
    (hp : pc.heldIn m.groups) (hr : pc.restartsStopped m.groups S) :
    (reconfStep env brokers config pc m).1.restartsStopped m.groups
      (fun mg => S mg ∨ Act.stopped mg ∈ (reconfStep env brokers config pc m).2.2) := by
  have hS : ∀ acts : List Act, ∀ mg, S mg → S mg ∨ Act.stopped mg ∈ acts := fun _ _ => .inl
  cases pc with
  | snapshot => exact stopNext_restartsStopped _ _ fun _ h => nomatch h
  | stopping g pc rest errs rs =>
    have hd := cmdStep_stopDone env ⟨internalToken, true, false⟩ g hp hr.1
    simp only [reconfStep, afterStop]
    split
    · next res hres =>
      refine stopNext_restartsStopped _ _ fun g' hg' => ?_
      rcases List.mem_append.mp hg' with hg' | hg'
      · exact hr.2.mono (hS _) g' hg'
      · -- stop が nil を返した id
        split at hg'
        · next hn => rw [List.mem_singleton.mp hg']; subst hn; rw [hres] at hd; exact hd
        · cases hg'
    · exact ⟨hd, hr.2.mono (hS _)⟩
  | setFactory errs rs => exact startNext_restartsStopped _ (hr.mono (hS _))
  | starting g pc rest errs =>
    simp only [reconfStep, afterStart]
    split
    · exact startNext_restartsStopped _ fun g' hg' => hr.mono (hS _) g' (List.mem_cons_of_mem _ hg')
    · exact hr.mono (hS _)
  | done => trivial

/-- 後半の loop の段が残す start は、いま start している id の下の group のものである。 -/
theorem reconfStep_started {brokers : List String} {config : Nat} {pc : ReconfPc} (hst : pc.Staged)
    (hp : pc.heldIn m.groups) {mg : Nat} (h : Act.started mg ∈ (reconfStep env brokers config pc m).2.2) :
    ∃ g cp rest errs, pc = .starting g cp rest errs ∧ m.groups.lookup g = some mg := by
  have hr := (reconfStep_acts env brokers config hst m).2 _ h
  cases pc with
  | starting g cp rest errs =>
    exact ⟨g, cp, rest, errs, rfl, (cmdStep_stable env .startConsumerGroup _ g hp).2 _ h mg rfl⟩
  | done => cases h
  | snapshot | stopping | setFactory => cases hr

/-! ## 系の不変量 -/

section Invariants

variable (m₀ : Manager) (ts₀ : List Thread) (i : Nat) (brokers : List String) (config : Nat) {s : Sys}

/-- **goroutine `i` の Reconfigure は、止めた group だけを start し直す。** map は変わらず（`StableRun`）、
`i` 番はずっと同じ Reconfigure で、restart に回した id の group はどれも `i` が止めた観測を残していて、
`i` が残した start の観測の前には、同じ group を `i` が止めた観測がある。 -/
structure RestartsStopped (s : Sys) : Prop where
  stable : StableRun m₀ ts₀ s
  thread : ∃ pc, s.threads[i]?.bind Thread.reconf = some (brokers, config, pc) ∧ pc.Staged ∧
    pc.restartsStopped m₀.groups fun mg => (i, .stopped mg) ∈ s.log
  ordered : ∀ (q mg : Nat), s.log[q]? = some (i, .started mg) → ∃ p < q, s.log[p]? = some (i, .stopped mg)

variable {m₀ ts₀ i brokers config}

namespace RestartsStopped

theorem init (hts : ∀ t ∈ ts₀, t.mapReader = true) (hi : ts₀[i]? = some (.reconfigure brokers config .snapshot)) :
    RestartsStopped m₀ ts₀ i brokers config (Sys.init m₀ ts₀) :=
  ⟨StableRun.init m₀ ts₀ hts, ⟨.snapshot, by simp [Sys.init, hi, Thread.reconf], trivial, trivial⟩,
    fun q mg hq => by simp [Sys.init] at hq⟩

theorem step (env : Env) (h : RestartsStopped m₀ ts₀ i brokers config s) (j : Nat) :
    RestartsStopped m₀ ts₀ i brokers config (s.step env j) := by
  obtain ⟨pc, hpc, hst, hrs⟩ := h.thread
  have hstable := h.stable.step env j
  cases ht : s.threads[j]? with
  | none => rw [Sys.step_none env ht]; exact h
  | some t =>
    rw [Sys.step_some env ht] at hstable ⊢
    have hb := bind_set_append Thread.reconf (t.step env s.m).1 ht (Thread.step_spawned_reconf env t s.m) i
    -- 履歴は伸びるだけなので、止めた観測は残る
    have hgrow : ∀ mg, (i, Act.stopped mg) ∈ s.log →
        (i, Act.stopped mg) ∈ s.log ++ (t.step env s.m).2.2.1.map (j, ·) := fun _ h => List.mem_append_left _ h
    by_cases hji : j = i
    · -- `i` 番の Reconfigure の一歩
      subst hji
      obtain rfl : t = .reconfigure brokers config pc := Thread.eq_of_reconf (by simpa [ht] using hpc)
      have hp : pc.heldIn s.m.groups := h.stable.groups ▸ h.stable.holds _ (List.getElem?_mem ht)
      refine ⟨hstable, ⟨_, by rw [hb, if_pos rfl]; rfl, (reconfStep_acts env brokers config hst s.m).1, ?_⟩,
        fun q mg hq => ?_⟩
      · have := reconfStep_restartsStopped env brokers config hp (h.stable.groups ▸ hrs)
        rw [h.stable.groups] at this
        refine ReconfPc.restartsStopped_mono (fun mg hmg => ?_) this
        rcases hmg with hmg | hmg
        · exact hgrow mg hmg
        · exact List.mem_append_right _ (List.mem_map_of_mem _ hmg)
      · rcases getElem?_log_append hq with ⟨hq, hq'⟩ | ⟨hq, -, ha⟩
        · obtain ⟨p, hp', hp''⟩ := h.ordered q mg hq'
          exact ⟨p, hp', by rw [List.getElem?_append_left (by omega)]; exact hp''⟩
        · -- 残した start の group は restart している id の下の group で、`i` がすでに止めている
          obtain ⟨g, cp, rest, errs, rfl, hg⟩ := reconfStep_started hst hp ha
          obtain ⟨p, hp''⟩ := List.mem_iff_getElem?.mp (hrs g (List.mem_cons_self _ _) mg (h.stable.groups ▸ hg))
          have hpl : p < s.log.length := (List.getElem?_eq_some_iff.mp hp'').1
          exact ⟨p, by omega, by rw [List.getElem?_append_left hpl]; exact hp''⟩
    · -- ほかの goroutine の一歩：`i` 番は変わらず、`i` の観測も増えない
      refine ⟨hstable, ⟨pc, (hb.trans (if_neg (Ne.symm hji))).trans hpc, hst,
        ReconfPc.restartsStopped_mono hgrow hrs⟩, fun q mg hq => ?_⟩
      rcases getElem?_log_append hq with ⟨hq, hq'⟩ | ⟨-, hij, -⟩
      · obtain ⟨p, hp', hp''⟩ := h.ordered q mg hq'
        exact ⟨p, hp', by rw [List.getElem?_append_left (by omega)]; exact hp''⟩
      · exact absurd hij hji

theorem run (env : Env) (h : RestartsStopped m₀ ts₀ i brokers config s) (sched : List Nat) :
    RestartsStopped m₀ ts₀ i brokers config (s.run env sched) := by
  induction sched generalizing s with
  | nil => exact h
  | cons j js ih => exact ih (h.step env j)

end RestartsStopped

end Invariants

/-- **Reconfigure は自分が止めた group だけを start し直す。** -/
theorem Reconfigure_restarts_only_stopped (env : Env) (m : Manager) (ts : List Thread)
    (hts : ∀ t ∈ ts, t.mapReader = true) (i : Nat) (brokers : List String) (config : Nat)
    (hi : ts[i]? = some (.reconfigure brokers config .snapshot)) (sched : List Nat) :
    ∀ q mg : Nat, ((Sys.init m ts).run env sched).log[q]? = some (i, .started mg) →
      ∃ p < q, ((Sys.init m ts).run env sched).log[p]? = some (i, .stopped mg) :=
  ((RestartsStopped.init hts hi).run env sched).ordered

/-- "a" と "b" の group があり、token "X" の stop command が先に "b" の lock を取る。Reconfigure は "b" を
止められず、"a" だけを止めて start し直す。 -/
theorem Reconfigure_restarts_only_stopped_run :
    let m := stateOf (StartConsumerGroup Env.ok "b" (stateOf (StartConsumerGroup Env.ok "a"
      (NewConsumerGroupManager [] 0))))
    let ts : List Thread := [.reconfigure ["new"] 1 .snapshot,
      .command .stopConsumerGroup ⟨"X", true, false⟩ "b" .lockBefore, .consumeLoop "a"]
    let sched := [1, 1, 0, 0, 0, 2, 0, 0, 0, 0, 0, 0, 0, 0, 0, 0, 0, 0, 0, 0, 0, 0, 0]
    (∀ t ∈ ts, t.mapReader = true) ∧ ts[0]? = some (.reconfigure ["new"] 1 .snapshot) ∧
      ∀ q mg : Nat, ((Sys.init m ts).run Env.ok sched).log[q]? = some (0, .started mg) →
        ∃ p < q, ((Sys.init m ts).run Env.ok sched).log[p]? = some (0, .stopped mg) :=
  ⟨by decide, rfl, Reconfigure_restarts_only_stopped Env.ok _ _ (by decide) 0 _ _ rfl _⟩

end Consumer
