import ConsumerGroupManager.Concurrent.Solo
import ConsumerGroupManager.Concurrent.Distinct

/-!
# 逐次の実行は goroutine の模型の直列な実行である

`Solo.lean` は、一つの goroutine を邪魔されずに走らせると逐次の関数と同じ結果になることを示した。
ここではそれを要求の列全体に広げる。

1. 要求ごとに、それを処理する goroutine を起こす（`Request.thread`）。`Errors`、`IsManaged`、
   読めない command、version の違う command は状態に触れないので（`Request.handle_of_thread`）、
   goroutine を持たない。
2. 一つの goroutine の邪魔されない実行は、その番号だけを並べた schedule での系の実行である
   （`Sys.run_solo`）。ほかの goroutine はそのままで、起こされた consume loop は後ろに足される。
3. 前の goroutine が返ってから次の goroutine を走らせる schedule では、manager の状態は逐次の模型
   `run` の最後の状態と同じになり、返った goroutine の返事は `run` の trace の返事と同じ順に並ぶ
   （`run_is_serial_execution`）。

逐次の模型について示したこと（`Properties/`）は、こうして goroutine の模型の直列な実行についての
ことになる。交錯した実行は直列な実行と同じになるとは限らない（`Races.lean`）。
-/

namespace Consumer

variable {env : Env} {version : UInt16}

/-! ## 要求と goroutine -/

/-- 要求を処理する goroutine。状態に触れない要求は goroutine を持たない。 -/
def Request.thread (version : UInt16) : Request → Option Thread
  | .reconfigure brokers config => some (.reconfigure brokers config .snapshot)
  | .startConsumerGroup g => some (.startGroup g .create)
  | .closeConsumerGroup g => some (.closeGroup g .getGroup)
  | .errors _ | .isManaged _ | .command _ none => none
  | .command op (some cmd) =>
    if cmd.version = version then some (.command op cmd.lock cmd.groupId .lockBefore) else none

/-- 返った goroutine の返事。返っていない goroutine と consume loop は `none`。 -/
def Thread.reply : Thread → Option Reply
  | .startGroup _ (.done res) | .closeGroup _ (.done res) => some (.err res)
  | .command _ _ _ (.done none) => some (.notify (some .success))
  | .command _ _ _ (.done (some e)) => some (.notify (some (.failed e)))
  | .reconfigure _ _ (.done errs) => some (.errs errs)
  | _ => none

theorem errReply_eq (x : EStateM.Result Err Manager Unit) : errReply x = (.err (errOf x), stateOf x) := by
  cases x <;> rfl

/-- goroutine を持たない要求は状態に触れない。 -/
theorem Request.handle_of_thread {r : Request} (h : r.thread version = none) (m : Manager) :
    (handle env version r m).2 = m := by
  cases r with
  | errors | isManaged => rfl
  | command op parsed =>
    cases parsed with
    | none => rfl
    | some cmd =>
      have hv : cmd.version ≠ version := fun hv => by simp [Request.thread, hv] at h
      simp [handle, processAsyncGroupNotification, hv]
  | _ => cases h

/-- **要求の goroutine を邪魔されずに走らせると、逐次の模型の `handle` と同じ状態と返事で返る。** -/
theorem Request.solo (env : Env) (r : Request) {t : Thread} (h : r.thread version = some t) (m : Manager) :
    ∃ t', SoloSteps env (t, m) (t', (handle env version r m).2) ∧
      t'.reply = some (handle env version r m).1 := by
  cases r with
  | reconfigure brokers config =>
    cases h
    obtain ⟨errs, m', hR, hs⟩ := @solo_reconfigure env brokers config m
    exact ⟨_, by simpa [handle, hR] using hs, by simp [handle, hR, Thread.reply]⟩
  | startConsumerGroup g =>
    cases h
    exact ⟨_, by simpa [handle, errReply_eq] using @solo_startGroup env g m,
      by simp [handle, errReply_eq, Thread.reply]⟩
  | closeConsumerGroup g =>
    cases h
    exact ⟨_, by simpa [handle, errReply_eq] using @solo_closeGroup env g m,
      by simp [handle, errReply_eq, Thread.reply]⟩
  | command op parsed =>
    obtain ⟨cmd, rfl⟩ : ∃ cmd, parsed = some cmd := by cases parsed <;> simp_all [Request.thread]
    have hv : cmd.version = version := by
      by_contra hv
      simp [Request.thread, hv] at h
    simp only [Request.thread, hv, if_true, Option.some.injEq] at h
    subst h
    have hs := @solo_command env op cmd.lock cmd.groupId m
    cases hh : handler env op cmd.lock cmd.groupId m <;> rw [hh] at hs <;>
      exact ⟨_, by simpa [handle, processAsyncGroupNotification, hv, hh] using hs,
        by simp [handle, processAsyncGroupNotification, hv, hh, Thread.reply]⟩
  | errors | isManaged => cases h

/-! ## 一つの goroutine の実行を系の実行に持ち上げる -/

theorem set_eq_of_getElem? {α : Type} {l : List α} {i : Nat} {a : α} (h : l[i]? = some a) :
    l.set i a = l := by
  apply List.ext_getElem?
  intro j
  rw [List.getElem?_set]
  split
  · next hij => subst hij; simp [(List.getElem?_eq_some_iff.mp h).1, h]
  · rfl

/-- 起こされる goroutine（consume loop）は返事をしない。 -/
theorem Thread.step_spawned_reply (env : Env) (t : Thread) (m : Manager) :
    ∀ x ∈ (t.step env m).2.2.2, x.reply = none := by
  rcases Thread.step_spawned env t m with h | ⟨g, h⟩ <;> simp [h, Thread.reply]

/-- **一つの goroutine の邪魔されない実行は、その番号だけを並べた schedule での系の実行である。**
ほかの goroutine は変わらず、起こされた consume loop は後ろに足される。 -/
theorem Sys.run_solo {a b : Thread × Manager} (h : SoloSteps env a b) (s : Sys) {i : Nat}
    (hi : s.threads[i]? = some a.1) (hm : s.m = a.2) :
    ∃ n sp, (s.run env (List.replicate n i)).m = b.2 ∧
      (s.run env (List.replicate n i)).threads = s.threads.set i b.1 ++ sp ∧ ∀ t ∈ sp, t.reply = none := by
  have hl : i < s.threads.length := (List.getElem?_eq_some_iff.mp hi).1
  induction h with
  | refl => exact ⟨0, [], hm, by simp [Sys.run, set_eq_of_getElem? hi], List.forall_mem_nil _⟩
  | @tail b' _ _ hbc ih =>
    obtain ⟨n, sp, hm', ht, hsp⟩ := ih
    subst hbc
    have hb : (s.run env (List.replicate n i)).threads[i]? = some b'.1 := by
      rw [ht, List.getElem?_append_left (by simpa using hl), List.getElem?_set_self hl]
    refine ⟨n + 1, sp ++ (b'.1.step env b'.2).2.2.2, ?_, ?_, ?_⟩
    · rw [List.replicate_succ', Sys.run_append, Sys.run, Sys.run, Sys.step_some env hb, hm']
      rfl
    · rw [List.replicate_succ', Sys.run_append, Sys.run, Sys.run, Sys.step_some env hb, hm', ht,
        List.set_append_left _ _ (by simpa using hl), List.set_set, List.append_assoc]
      rfl
    · exact fun t ht' => (List.mem_append.mp ht').elim (hsp t) (Thread.step_spawned_reply env _ _ t)

/-! ## 直列な schedule -/

/-- 返事を持つ要求（goroutine を持つ要求）の返事。 -/
def threadReplies (version : UInt16) (trace : List (Request × Reply)) : List Reply :=
  (trace.filter fun p => (p.1.thread version).isSome).map Prod.snd

/-- 前の `pre` 個が返り、続く goroutine が `rs` のものなら、それらを順に走らせると `run` と同じ状態と返事に着く。 -/
theorem serial_run (env : Env) (version : UInt16) (rs : List Request) :
    ∀ (s : Sys) (pre sp : List Thread), s.threads = pre ++ rs.filterMap (Request.thread version) ++ sp →
      (∀ t ∈ sp, t.reply = none) →
      ∃ sched, sched.Pairwise (· ≤ ·) ∧
        (∀ j ∈ sched, pre.length ≤ j ∧ j < pre.length + (rs.filterMap (Request.thread version)).length) ∧
        (s.run env sched).m = (run env version rs s.m).2 ∧
        (s.run env sched).threads.filterMap Thread.reply =
          pre.filterMap Thread.reply ++ threadReplies version (run env version rs s.m).1 := by
  induction rs with
  | nil =>
    intro s pre sp hs hsp
    refine ⟨[], .nil, List.forall_mem_nil _, rfl, ?_⟩
    simp [Sys.run, hs, List.filterMap_eq_nil_iff.mpr hsp, run, threadReplies]
  | cons r rs ih =>
    intro s pre sp hs hsp
    cases hr : r.thread version with
    | none =>
      -- 状態に触れない要求：goroutine を持たない
      have hs' : s.threads = pre ++ rs.filterMap (Request.thread version) ++ sp := by
        simpa [List.filterMap_cons, hr] using hs
      obtain ⟨sched, hmono, hidx, hm, hrep⟩ := ih s pre sp hs' hsp
      refine ⟨sched, hmono, fun j hj => by simpa [List.filterMap_cons, hr] using hidx j hj, ?_, ?_⟩
      · simp only [run, Request.handle_of_thread hr]; exact hm
      · simp only [run, Request.handle_of_thread hr, threadReplies, List.filter_cons, hr]
        exact hrep
    | some t =>
      -- 要求の goroutine を返るまで走らせ、残りの要求に進む
      have hs' : s.threads = pre ++ t :: (rs.filterMap (Request.thread version) ++ sp) := by
        simpa [List.filterMap_cons, hr] using hs
      obtain ⟨t', hsolo, hreply⟩ := Request.solo env r hr s.m
      obtain ⟨n, sp₁, hm₁, ht₁, hsp₁⟩ :=
        Sys.run_solo hsolo s (i := pre.length)
          (by rw [hs', List.getElem?_append_right (Nat.le_refl _), Nat.sub_self]; simp) rfl
      have ht₁' : (s.run env (List.replicate n pre.length)).threads =
          (pre ++ [t']) ++ rs.filterMap (Request.thread version) ++ (sp ++ sp₁) := by
        rw [ht₁, hs']; simp
      obtain ⟨sched, hmono, hidx, hm, hrep⟩ := ih _ (pre ++ [t']) (sp ++ sp₁) ht₁'
        fun x hx => (List.mem_append.mp hx).elim (hsp x) (hsp₁ x)
      refine ⟨List.replicate n pre.length ++ sched, ?_, fun j hj => ?_, ?_, ?_⟩
      · refine List.pairwise_append.mpr ⟨List.pairwise_replicate.mpr (.inr le_rfl), hmono, ?_⟩
        intro a ha b hb
        rw [List.eq_of_mem_replicate ha]
        have := (hidx b hb).1
        simp at this
        omega
      · rcases List.mem_append.mp hj with hj | hj
        · rw [List.eq_of_mem_replicate hj]; simp [List.filterMap_cons, hr]
        · have := hidx j hj
          simp [List.filterMap_cons, hr] at this ⊢
          omega
      · rw [Sys.run_append, hm, hm₁]; rfl
      · rw [Sys.run_append, hrep, hm₁]
        simp [run, threadReplies, List.filter_cons, hr, hreply]

/-- **逐次の実行は goroutine の模型の直列な実行である。** -/
theorem run_is_serial_execution (env : Env) (version : UInt16) (rs : List Request) (m : Manager) :
    ∃ sched s, (Sys.init m (rs.filterMap (Request.thread version))).run env sched = s ∧
      sched.Pairwise (· ≤ ·) ∧ (∀ j ∈ sched, j < (rs.filterMap (Request.thread version)).length) ∧
      s.m = (run env version rs m).2 ∧
      s.threads.filterMap Thread.reply = threadReplies version (run env version rs m).1 := by
  obtain ⟨sched, hmono, hidx, hm, hrep⟩ :=
    serial_run env version rs (Sys.init m (rs.filterMap (Request.thread version))) [] []
      (by rw [List.nil_append, List.append_nil]; rfl) (List.forall_mem_nil _)
  exact ⟨sched, _, rfl, hmono, fun j hj => by simpa using (hidx j hj).2, hm, hrep⟩

end Consumer
