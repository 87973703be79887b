import ConsumerGroupManager.Concurrent.StableMap
import ConsumerGroupManager.Concurrent.Barrier
import ConsumerGroupManager.Concurrent.Exclusive

/-!
# ほかの id の操作は、id `g` の登録を乱さない

map の `g` の項を書くのは `StartConsumerGroup(g)` の `setGroup` と `CloseConsumerGroup(g)` の
`removeGroup` だけである。だからその二つが走っていなければ、ほかの id の `StartConsumerGroup` と
`CloseConsumerGroup`、command、`Reconfigure`、consume loop がどう交錯しても、

* map で `g` が指すものは変わらず、`IsManaged(g)` と `Errors(g)` は同じ答えを返し続ける
  （`Errors` の channel は stop と start をまたいで残る）。
* `g` の consume loop の `m.consume` が引く group と、`g` の command が lock し、止め、start する group は、
  どれも始めに `g` の下にあった group である。

`StableMap.lean` は、map を書き換える goroutine がいない交錯で map 全体が変わらないことを言う。
ここでは書き換える goroutine がいても、それがほかの id を書くなら `g` の項は変わらないことを言う。
`Races.lean` の交錯で command が別の group に触れたのは、同じ id の `CloseConsumerGroup` と
`StartConsumerGroup` が割り込んだからである。
-/

namespace Consumer

/-! ## `g` を書く goroutine -/

/-- 次の段から map の `g` を書きうる goroutine：まだ返っていない `StartConsumerGroup(g)` と
`CloseConsumerGroup(g)`。 -/
def Thread.mayWrite (g : String) : Thread → Bool
  | .startGroup _ (.done _) | .closeGroup _ (.done _) => false
  | .startGroup g' _ | .closeGroup g' _ => g' == g
  | _ => false

/-- `g` の command の途中で持っている group は、map が `g` の下に置く group である。 -/
def Thread.HeldIn (groups : AList (fun _ : String => Nat)) (g : String) : Thread → Prop
  | .command _ _ g' pc => g' = g → pc.heldIn groups g
  | _ => True

instance CmdPc.decHeldIn (groups : AList (fun _ : String => Nat)) (g : String) :
    (pc : CmdPc) → Decidable (pc.heldIn groups g)
  | .lock mg | .act mg | .start mg _ | .unlock mg => inferInstanceAs (Decidable (groups.lookup g = some mg))
  | .lockBefore | .getGroup | .unlockAfter | .done _ => inferInstanceAs (Decidable True)

instance Thread.decHeldIn (groups : AList (fun _ : String => Nat)) (g : String) :
    (t : Thread) → Decidable (t.HeldIn groups g)
  | .command _ _ g' pc => inferInstanceAs (Decidable (g' = g → pc.heldIn groups g))
  | .startGroup .. | .closeGroup .. | .reconfigure .. | .consumeLoop _ => inferInstanceAs (Decidable True)

theorem CmdPc.heldIn_congr {groups groups' : AList (fun _ : String => Nat)} {g : String}
    (h : groups'.lookup g = groups.lookup g) (pc : CmdPc) : pc.heldIn groups' g ↔ pc.heldIn groups g := by
  cases pc <;> simp only [CmdPc.heldIn, h]

theorem Thread.step_mayWrite (env : Env) {g : String} {t : Thread} (hw : t.mayWrite g = false) (m : Manager) :
    (t.step env m).1.mayWrite g = false := by
  cases t with
  | startGroup g' pc =>
    show (Thread.startGroup g' (startStep env g' pc m).1).mayWrite g = false
    cases pc with
    | done => rfl
    | _ => cases (startStep env g' _ m).1 <;> first | rfl | exact hw
  | closeGroup g' pc =>
    show (Thread.closeGroup g' (closeStep env g' pc m).1).mayWrite g = false
    cases pc with
    | done => rfl
    | _ => cases (closeStep env g' _ m).1 <;> first | rfl | exact hw
  | _ => rfl

theorem Thread.step_target (env : Env) (t : Thread) (m : Manager) : (t.step env m).1.target = t.target := by
  cases t <;> rfl

/-- **`g` を書かない goroutine の一歩は、map の `g` を変えない。** ほかの id の `setGroup` と
`removeGroup` は `g` の項に触れない。 -/
theorem Thread.step_lookup (env : Env) {g : String} {t : Thread} (hw : t.mayWrite g = false) (m : Manager) :
    (t.step env m).2.1.groups.lookup g = m.groups.lookup g := by
  cases t with
  | startGroup g' pc =>
    cases pc with
    | create =>
      simp only [Thread.step, startStep]
      split <;> (rename_i h; exact congrArg (AList.lookup g) (keepsGroups_createConsumerGroup.of_eq h))
    | register mg => exact AList.lookup_insert_ne (Ne.symm (ne_of_beq_false hw))
    | spawn | manage | done => rfl
  | closeGroup g' pc =>
    cases pc with
    | getGroup => simp only [Thread.step, closeStep]; split <;> rfl
    | close mg =>
      simp only [Thread.step, closeStep]
      split <;> (rename_i h; exact congrArg (fun r => AList.lookup g r.1) (keepsRegistry_close.of_eq h))
    | remove => exact AList.lookup_erase_ne (Ne.symm (ne_of_beq_false hw))
    | done => rfl
  | command op lock g' pc => exact congrArg (fun r => AList.lookup g r.1) (cmdStep_registry env op lock g' pc m)
  | reconfigure brokers config pc =>
    exact congrArg (fun r => AList.lookup g r.1) (reconfStep_registry env brokers config pc m)
  | consumeLoop => rfl

/-- command の段が観測に残すのは lock、stop、start だけである。 -/
theorem cmdStep_not_consumed (env : Env) (op : OpCode) (lock : CommandLock) (g : String) (pc : CmdPc)
    (m : Manager) : ∀ a ∈ (cmdStep env op lock g pc m).2.2, ∀ g' mg, a ≠ .consumed g' mg := by
  cases pc <;> (try cases op) <;> simp only [cmdStep] <;> (repeat' split) <;> simp

/-- consume loop の `m.consume` が `g` の group を引けたのは、map が `g` の下にその group を置いていたとき
だけである。ほかの goroutine はこの観測を残さない。 -/
theorem Thread.step_consumed (env : Env) {t : Thread} {m : Manager} {g : String} {mg : Nat}
    (h : Act.consumed g mg ∈ (t.step env m).2.2.1) : m.groups.lookup g = some mg := by
  cases t with
  | startGroup | closeGroup => cases h
  | command op lock g' pc => exact absurd rfl (cmdStep_not_consumed env op lock g' pc m _ h g mg)
  | reconfigure brokers config pc =>
    cases pc with
    | stopping g' pc => exact absurd rfl (cmdStep_not_consumed env _ _ g' pc m _ h g mg)
    | starting g' pc => exact absurd rfl (cmdStep_not_consumed env _ _ g' pc m _ h g mg)
    | snapshot | setFactory | done => cases h
  | consumeLoop g' =>
    simp only [Thread.step, consumeAct, List.mem_singleton] at h
    split at h
    · next mg' _ hc =>
      cases h
      revert hc
      cases hl : m.groups.lookup g <;> simp_all [consume]
    · cases h

/-- `g` の command は、一歩の後も持つ group を map と合わせている。 -/
theorem Thread.step_heldIn (env : Env) {g : String} {t : Thread} {m : Manager} (hw : t.mayWrite g = false)
    (hh : t.HeldIn m.groups g) : (t.step env m).1.HeldIn (t.step env m).2.1.groups g := by
  cases t with
  | command op lock g' pc =>
    rintro rfl
    exact (CmdPc.heldIn_congr (Thread.step_lookup env hw m) _).mpr (cmdStep_stable env op lock g' (hh rfl)).1
  | _ => trivial

theorem Thread.eq_of_target {t : Thread} {g : String} (h : t.target = some g) :
    ∃ op lock pc, t = .command op lock g pc := by
  cases t <;> cases h
  exact ⟨_, _, _, rfl⟩

/-! ## 系の不変量 -/

/-- **`g` の項が動かない実行の不変量。** 残った観測で `g` の loop と command が触れた group は、始めに
`g` の下にあった group である。 -/
structure Isolated (g : String) (s₀ s : Sys) : Prop where
  lookup : s.m.groups.lookup g = s₀.m.groups.lookup g
  writers : ∀ t ∈ s.threads, t.mayWrite g = false
  held : ∀ t ∈ s.threads, t.HeldIn s.m.groups g
  targets : ∀ j : Nat, s₀.threads[j]?.bind Thread.target = some g → s.threads[j]?.bind Thread.target = some g
  log : ∀ (p j : Nat) (a : Act) (mg : Nat), s₀.log.length ≤ p → s.log[p]? = some (j, a) → a.group = some mg →
    (a = .consumed g mg ∨ s₀.threads[j]?.bind Thread.target = some g) → s₀.m.groups.lookup g = some mg

namespace Isolated

variable {g : String} {s₀ s : Sys}

theorem init (hw : ∀ t ∈ s.threads, t.mayWrite g = false) (hh : ∀ t ∈ s.threads, t.HeldIn s.m.groups g) :
    Isolated g s s :=
  ⟨rfl, hw, hh, fun _ h => h, fun p _ _ _ hp hl => by rw [List.getElem?_eq_none hp] at hl; cases hl⟩

theorem step (env : Env) (h : Isolated g s₀ s) (i : Nat) : Isolated g s₀ (s.step env i) := by
  cases ht : s.threads[i]? with
  | none => rw [Sys.step_none env ht]; exact h
  | some t =>
    rw [Sys.step_some env ht]
    have hmem := List.getElem?_mem ht
    have hw := h.writers t hmem
    have hl := Thread.step_lookup env hw s.m
    have hsp : ∀ x ∈ (t.step env s.m).2.2.2, x.mayWrite g = false ∧ x.target = none ∧
        x.HeldIn (t.step env s.m).2.1.groups g := fun x hx => by
      rcases Thread.step_spawned env t s.m with h' | ⟨g', h'⟩ <;> rw [h'] at hx
      · cases hx
      · rw [List.mem_singleton.mp hx]; exact ⟨rfl, rfl, trivial⟩
    have htg := bind_set_append_self Thread.target _ ht (fun x hx => (hsp x hx).2.1)
      (Thread.step_target env t s.m)
    refine ⟨hl.trans h.lookup, fun x hx => ?_, fun x hx => ?_, fun j hj => ?_, fun p j a mg hp hq ha hor => ?_⟩
    · rcases List.mem_append.mp hx with hx | hx
      · rcases List.mem_or_eq_of_mem_set hx with hx | rfl
        exacts [h.writers x hx, Thread.step_mayWrite env hw s.m]
      · exact (hsp x hx).1
    · rcases List.mem_append.mp hx with hx | hx
      · rcases List.mem_or_eq_of_mem_set hx with hx | rfl
        · exact match x, h.held x hx with
          | .command _ _ _ _, hh => fun hg => (CmdPc.heldIn_congr hl _).mpr (hh hg)
          | .startGroup .., _ | .closeGroup .., _ | .reconfigure .., _ | .consumeLoop _, _ => trivial
        · exact Thread.step_heldIn env hw (h.held t hmem)
      · exact (hsp x hx).2.2
    · exact (congrFun htg j).trans (h.targets j hj)
    · rcases getElem?_log_append hq with ⟨hp', hq⟩ | ⟨-, rfl, ha'⟩
      · exact h.log p j a mg hp hq ha hor
      · -- この一歩の観測：consume loop なら引いた group、command なら持っていた group
        rw [← h.lookup]
        rcases hor with rfl | hj
        · exact Thread.step_consumed env ha'
        · have htj : t.target = some g := by simpa [ht] using h.targets _ hj
          obtain ⟨op, lock, pc, rfl⟩ := Thread.eq_of_target htj
          exact (cmdStep_stable env op lock g (h.held _ hmem rfl)).2 a ha' mg ha

theorem run (env : Env) (h : Isolated g s₀ s) (sched : List Nat) : Isolated g s₀ (s.run env sched) := by
  induction sched generalizing s with
  | nil => exact h
  | cons i is ih => exact ih (h.step env i)

end Isolated

/-- **ほかの id の操作は、`g` の登録を乱さない。** `IsManaged(g)` と `Errors(g)` は始めと同じで、`g` の loop と
command が触れる group は始めに `g` の下にあった group である。 -/
theorem other_ids_leave_group_alone (env : Env) (s : Sys) (g : String)
    (hw : ∀ t ∈ s.threads, t.mayWrite g = false) (hh : ∀ t ∈ s.threads, t.HeldIn s.m.groups g)
    (sched : List Nat) :
    ∃ s', s.run env sched = s' ∧ IsManaged g s'.m = IsManaged g s.m ∧ Errors g s'.m = Errors g s.m ∧
      ∀ p j a mg, s.log.length ≤ p → s'.log[p]? = some (j, a) → a.group = some mg →
        (a = .consumed g mg ∨ s.threads[j]?.bind Thread.target = some g) → s.m.groups.lookup g = some mg := by
  have h := (Isolated.init hw hh).run env sched
  exact ⟨_, rfl, by rw [IsManaged, IsManaged, h.lookup], h.lookup, h.log⟩

/-- "a" を start した後、"b" の start と close、"a" の stop の command、"a" の consume loop が交錯する。 -/
theorem other_ids_leave_group_alone_run :
    let s := (Sys.init (NewConsumerGroupManager [] 0) [.startGroup "a" .create, .startGroup "b" .create,
      .closeGroup "b" .getGroup, .command .stopConsumerGroup ⟨"T", true, false⟩ "a" .lockBefore,
      .consumeLoop "a"]).run Env.ok [0, 0, 0, 0]
    (∀ t ∈ s.threads, t.mayWrite "a" = false) ∧ (∀ t ∈ s.threads, t.HeldIn s.m.groups "a") ∧
      ∃ s', s.run Env.ok [1, 4, 3, 1, 2, 3, 1, 2, 4, 1, 3, 2, 3, 3, 3, 4] = s' ∧
        IsManaged "a" s'.m = IsManaged "a" s.m ∧ Errors "a" s'.m = Errors "a" s.m ∧
        ∀ p j a mg, s.log.length ≤ p → s'.log[p]? = some (j, a) → a.group = some mg →
          (a = .consumed "a" mg ∨ s.threads[j]?.bind Thread.target = some "a") →
          s.m.groups.lookup "a" = some mg :=
  ⟨by decide, by decide, other_ids_leave_group_alone Env.ok _ "a" (by decide) (by decide) _⟩

end Consumer
