import ConsumerGroupManager.Concurrent.StableMap
import ConsumerGroupManager.Concurrent.Locks

/-!
# lock を取った command は互いを締め出す

外の controller は、lock で command を直列にできることを当てにする（§1、§4.2 の lock discipline）。
`LockBefore` の command は group の lock を自分の token で取り、別の token が持っていれば
LockConflict で失敗する。

map を書き換える goroutine（`StartConsumerGroup`・`CloseConsumerGroup`）がいなければ、これで十分である。
token が goroutine ごとに違うなら、`LockBefore` の command が lock を取ってから返るまでの間
（`Thread.lockHeld`）、その id の group の lock はその command の token のままで、同じ group について
その間にいる command は一つだけである（`locked_commands_exclusive`）。map を書き換える goroutine が
いると成り立たない（`Races.lean` の `command_stops_group_locked_by_other`）。

1. command の一段は、lock を取った後の間にいる限り lock を自分の token のままにする（`cmdStep_lockHeld`）。
2. ほかの goroutine の一段は、自分の token でない lock を変えない（`Thread.step_locks_of_holds`）。
3. schedule についての帰納法。`StableMap.lean` の `StableRun` と一緒に運ぶ。
-/

namespace Consumer

variable {env : Env} {m m' : Manager}

/-! ## lock を取った後の間 -/

/-- command が `processLock(lock, true)` を終え、まだ返っていない段。 -/
def CmdPc.pastLock : CmdPc → Bool
  | .getGroup | .act _ | .start _ _ | .unlockAfter | .unlock _ => true
  | _ => false

/-- `LockBefore` の command が lock を取り、まだ返っていない group：その id の下の group。 -/
def Thread.lockHeld (groups : AList (fun _ : String => Nat)) : Thread → Option Nat
  | .command _ lock g pc => if lock.lockBefore && pc.pastLock then groups.lookup g else none
  | _ => none

/-- `LockBefore` の `processLock` が成功すれば、lock の持ち主は command の token である。 -/
theorem locks_processLock_before {lock : CommandLock} {mg : Nat} {u : Unit}
    (h : processLock lock true mg m = .ok u m') (hlb : lock.lockBefore = true) :
    m'.locks mg = some lock.token := by
  obtain ⟨r, hr, rfl⟩ := processLock_ok h
  simp [Manager.locks, ManagedGroup.processLock_lockedBy hr, ManagedGroup.acts, hlb]

/-- **command の一段は、lock を取った後の間にいる限り、その id の group の lock を自分の token のままに
する。** 間に入るのは `processLock(lock, true)` が成功したときで、間の段は lock に触れない。 -/
theorem cmdStep_lockHeld (op : OpCode) (lock : CommandLock) (g : String) {pc : CmdPc}
    (hp : pc.heldIn m.groups g) (hlb : lock.lockBefore = true)
    (hprev : pc.pastLock = true → ∀ mg, m.groups.lookup g = some mg → m.locks mg = some lock.token)
    (hnext : (cmdStep env op lock g pc m).1.pastLock = true) {mg : Nat} (hmg : m.groups.lookup g = some mg) :
    (cmdStep env op lock g pc m).2.1.locks mg = some lock.token := by
  have hkeep : ∀ {α : Type} {r : EStateM.Result Err Manager α}, m.locks = (stateOf r).locks → pc.pastLock = true →
      (stateOf r).locks mg = some lock.token := fun he hpast => he ▸ hprev hpast mg hmg
  cases pc with
  | lockBefore =>
    simp only [cmdStep] at hnext ⊢
    split at hnext
    · exact nomatch hnext
    · next hg => rw [hg] at hmg; cases hmg
  | lock mg' =>
    simp only [cmdStep] at hnext ⊢
    split at hnext
    · next h =>
      rw [hp] at hmg; cases hmg
      simp only [h]
      exact locks_processLock_before h hlb
    · exact nomatch hnext
  | getGroup | unlockAfter =>
    simp only [cmdStep] at hnext ⊢
    split at hnext
    · simp only [‹m.groups.lookup g = _›]; exact hprev rfl mg hmg
    · exact nomatch hnext
  | act mg' =>
    simp only [cmdStep] at hnext ⊢
    split at hnext
    · split at hnext
      · next h => simp only [h]; exact hkeep (keepsLocks_stop.of_eq h).symm rfl
      · exact nomatch hnext
    · split at hnext
      · next h => simp only [h]; exact hkeep (keepsLocks_createConsumerGroup.of_eq h).symm rfl
      · exact nomatch hnext
  | start mg' k => exact hkeep (keepsLocks_start m).symm rfl
  | unlock mg' =>
    simp only [cmdStep] at hnext
    split at hnext <;> exact nomatch hnext
  | done => simp [cmdStep, CmdPc.pastLock] at hnext

/-- map を書き換えない goroutine の一段が lock を変えるのは、自分の token の lock か、持ち主のない lock
だけである。 -/
theorem Thread.step_locks_of_holds {t : Thread} (ht : t.Holds m.groups) {x : Nat}
    (h : (t.step env m).2.1.locks x ≠ m.locks x) : ∀ T, m.locks x = some T → t.token = some T := by
  cases t with
  | command op lock g pc => exact fun T hT => congrArg some ((cmdStep_locks op lock g pc h).2 T hT)
  | reconfigure brokers config pc => exact fun T hT => congrArg some ((reconfStep_locks brokers config pc h).2 T hT)
  | consumeLoop => exact absurd rfl h
  | startGroup | closeGroup => cases ht

theorem Thread.lockHeld_eq_some {groups : AList (fun _ : String => Nat)} {t : Thread} {mg : Nat}
    (h : t.lockHeld groups = some mg) :
    ∃ op lock g pc, t = .command op lock g pc ∧ lock.lockBefore = true ∧ pc.pastLock = true ∧
      groups.lookup g = some mg := by
  cases t with
  | command op lock g pc =>
    simp only [Thread.lockHeld] at h
    split at h
    · next hc =>
      simp only [Bool.and_eq_true] at hc
      exact ⟨op, lock, g, pc, rfl, hc.1, hc.2, h⟩
    · cases h
  | _ => cases h

/-! ## 系の不変量 -/

/-- **lock を取った後の間の不変量。** map は変わらず（`StableRun`）、`i` 番の goroutine の token は始めの
`ts₀[i]` のもので、lock を取った後の間にいる command の group の lock は、その command の token である。 -/
structure LockSections (m₀ : Manager) (ts₀ : List Thread) (s : Sys) : Prop where
  stable : StableRun m₀ ts₀ s
  tokens : ∀ i : Nat, s.threads[i]?.map Thread.token = ts₀[i]?.map Thread.token
  held : ∀ (i : Nat) (t : Thread) (mg : Nat), s.threads[i]? = some t → t.lockHeld m₀.groups = some mg → s.m.locks mg = t.token

namespace LockSections

variable {m₀ : Manager} {ts₀ : List Thread} {s : Sys}

theorem init (m₀ : Manager) (ts₀ : List Thread) (h : ∀ t ∈ ts₀, t.mapReader = true) :
    LockSections m₀ ts₀ (Sys.init m₀ ts₀) where
  stable := StableRun.init m₀ ts₀ h
  tokens _ := rfl
  held i t mg ht hmg := by
    -- 呼ばれたばかりの command は、まだ lock を取っていない
    obtain ⟨op, lock, g, pc, rfl, -, hpast, -⟩ := Thread.lockHeld_eq_some hmg
    have := h _ (List.getElem?_mem ht)
    cases pc <;> simp_all [Thread.mapReader, CmdPc.pastLock]

/-- `i` 番の goroutine の token は、始めの `ts₀[i]` の token である。 -/
theorem token_eq (h : LockSections m₀ ts₀ s) {i : Nat} {t : Thread} (ht : s.threads[i]? = some t) :
    ts₀[i]?.bind Thread.token = t.token ∧ i < ts₀.length := by
  have := h.tokens i
  rw [ht] at this
  cases hts : ts₀[i]? with
  | none => rw [hts] at this; cases this
  | some t₀ =>
    rw [hts] at this
    exact ⟨(Option.some.inj this).symm, (List.getElem?_eq_some_iff.mp hts).1⟩

/-- **系の一歩は不変量を保つ。** 一歩を踏む command は `cmdStep_lockHeld` で、ほかの command の lock は、
token が goroutine ごとに違うので変わらない。 -/
theorem step (env : Env) (h : LockSections m₀ ts₀ s)
    (htok : ∀ i < ts₀.length, ∀ j < ts₀.length, (ts₀[i]?.bind Thread.token).isSome →
      ts₀[i]?.bind Thread.token = ts₀[j]?.bind Thread.token → i = j) (i : Nat) :
    LockSections m₀ ts₀ (s.step env i) := by
  have hst := h.stable.step env i
  cases ht : s.threads[i]? with
  | none => rw [Sys.step_none env ht]; exact h
  | some t =>
    rw [Sys.step_some env ht] at hst ⊢
    have hh : t.Holds s.m.groups := h.stable.groups ▸ h.stable.holds t (List.getElem?_mem ht)
    obtain ⟨-, -, hsp, -, -⟩ := Thread.step_stable env hh
    have hil : i < s.threads.length := (List.getElem?_eq_some_iff.mp ht).1
    refine ⟨hst, fun j => ?_, fun j t' mg hj hmg => ?_⟩ <;> dsimp only at * <;>
      rw [hsp, List.append_nil, List.getElem?_set] at * <;> split at * <;> rename_i hij
    · subst hij
      rw [← h.tokens i, ht]
      simp [Thread.step_token]
    · exact h.tokens j
    · -- 一歩を踏んだ command：lock を取ったか、取った後の間を進んだ
      subst hij
      cases hj
      obtain ⟨op, lock, g, pc', he, hlb, hpast, hg⟩ := Thread.lockHeld_eq_some hmg
      cases t with
      | command _ _ _ pc =>
        cases he
        have hprev : pc.pastLock = true → ∀ mg, s.m.groups.lookup g = some mg → s.m.locks mg = some lock.token :=
          fun hp mg' hmg' => h.held i _ mg' ht (by simp [Thread.lockHeld, hlb, hp, ← h.stable.groups, hmg'])
        exact cmdStep_lockHeld op lock g hh hlb hprev hpast (h.stable.groups ▸ hg)
      | reconfigure | consumeLoop | startGroup | closeGroup => cases he
    · -- ほかの command：その lock はこの一歩で変わらない
      obtain ⟨op, lock, g, pc, rfl, -, -, -⟩ := Thread.lockHeld_eq_some hmg
      have hT := h.held j _ mg hj hmg
      by_contra hne
      have htt := Thread.step_locks_of_holds hh (fun he => hne (he.trans hT)) lock.token hT
      obtain ⟨hti, hil'⟩ := h.token_eq ht
      obtain ⟨htj, hjl⟩ := h.token_eq hj
      exact hij (htok i hil' j hjl (by rw [hti, htt]; rfl) (by rw [hti, htj, htt]; rfl))

theorem run (env : Env) (h : LockSections m₀ ts₀ s)
    (htok : ∀ i < ts₀.length, ∀ j < ts₀.length, (ts₀[i]?.bind Thread.token).isSome →
      ts₀[i]?.bind Thread.token = ts₀[j]?.bind Thread.token → i = j) (sched : List Nat) :
    LockSections m₀ ts₀ (s.run env sched) := by
  induction sched generalizing s with
  | nil => exact h
  | cons i is ih => exact ih (h.step env htok i)

end LockSections

/-- **lock を取った command は互いを締め出す。** lock を取ってから返るまで、group の lock はその command の
token で、同じ group についてその間にいる goroutine はその command だけである。 -/
theorem locked_commands_exclusive (env : Env) (m : Manager) (ts : List Thread)
    (hts : ∀ t ∈ ts, t.mapReader = true)
    (htok : ∀ i < ts.length, ∀ j < ts.length, (ts[i]?.bind Thread.token).isSome →
      ts[i]?.bind Thread.token = ts[j]?.bind Thread.token → i = j) (sched : List Nat) :
    ∀ (i j : Nat) (ti tj : Thread) (mg : Nat), ((Sys.init m ts).run env sched).threads[i]? = some ti →
      ((Sys.init m ts).run env sched).threads[j]? = some tj → ti.lockHeld m.groups = some mg →
      (((Sys.init m ts).run env sched).m.managed mg).lockedBy = ti.token ∧
        (tj.lockHeld m.groups = some mg → i = j) := by
  have h := (LockSections.init m ts hts).run env htok sched
  intro i j ti tj mg hi hj hmi
  refine ⟨h.held i ti mg hi hmi, fun hmj => ?_⟩
  obtain ⟨_, li, _, _, rfl, -, -, -⟩ := Thread.lockHeld_eq_some hmi
  obtain ⟨_, lj, _, _, rfl, -, -, -⟩ := Thread.lockHeld_eq_some hmj
  -- 二つの command の token は、どちらも group の lock の持ち主である
  have hT : some li.token = some lj.token := (h.held i _ mg hi hmi).symm.trans (h.held j _ mg hj hmj)
  obtain ⟨hti, hil⟩ := h.token_eq hi
  obtain ⟨htj, hjl⟩ := h.token_eq hj
  exact htok i hil j hjl (by rw [hti]; rfl) (by rw [hti, htj]; exact hT)

/-- "g" の group に、token "T" の stop と token "U" の start が `LockBefore` で向かい、Reconfigure と
consume loop が交錯する。"T" が先に lock を取ると、"U" はその間に入れない。 -/
theorem locked_commands_exclusive_run :
    let m := stateOf (StartConsumerGroup Env.ok "g" (NewConsumerGroupManager [] 0))
    let ts : List Thread := [.command .stopConsumerGroup ⟨"T", true, false⟩ "g" .lockBefore,
      .command .startConsumerGroup ⟨"U", true, true⟩ "g" .lockBefore, .reconfigure ["new"] 1 .snapshot,
      .consumeLoop "g"]
    let sched := [0, 0, 1, 2, 1, 3, 2, 0, 1]
    (∀ t ∈ ts, t.mapReader = true) ∧
      (∀ i < ts.length, ∀ j < ts.length, (ts[i]?.bind Thread.token).isSome →
        ts[i]?.bind Thread.token = ts[j]?.bind Thread.token → i = j) ∧
      ∀ (i j : Nat) (ti tj : Thread) (mg : Nat), ((Sys.init m ts).run Env.ok sched).threads[i]? = some ti →
        ((Sys.init m ts).run Env.ok sched).threads[j]? = some tj → ti.lockHeld m.groups = some mg →
        (((Sys.init m ts).run Env.ok sched).m.managed mg).lockedBy = ti.token ∧
          (tj.lockHeld m.groups = some mg → i = j) :=
  ⟨by decide, by decide, locked_commands_exclusive Env.ok _ _ (by decide) (by decide) _⟩

end Consumer
