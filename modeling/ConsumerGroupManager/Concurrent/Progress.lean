import ConsumerGroupManager.Concurrent.CloseWait

/-!
# どう交錯しても、manager の goroutine は決まった段数で返る

lock をほかの token が持っていれば、`lockBefore` は lock-timeout の後に LockConflict を返す（待ちは一段と
数える）。map に group がなければ、また factory や `Close()` が失敗すれば、操作は error を返す。だから
`CloseConsumerGroup` のほかの goroutine は、ほかを待たずに自分の段を上界の回数だけ走れば返る。
上界（`Thread.budget`）は自分の一段ごとに減り、ほかの goroutine の段では増えない。まだ key を読んでいない
Reconfigure の上界は、map に入りうる id の数（`Sys.idBound`）で決まり、それはどの一歩でも増えない。

`CloseConsumerGroup` の `close()` は consume loop が返るのを待つ（`CloseWait.lean`）。それは自分の二段、
その group の loop の一段、自分の二段で返る。
-/

namespace Consumer

/-! ## 残りの段数の上界 -/

/-- command の残りの段数の上界。どの段も、`done` に近い段へ進む。 -/
def CmdPc.budget : CmdPc → Nat
  | .lockBefore => 7
  | .lock _ => 6
  | .getGroup => 5
  | .act _ => 4
  | .start _ _ => 3
  | .unlockAfter => 2
  | .unlock _ => 1
  | .done _ => 0

/-- Reconfigure の残りの段数の上界。`n` は、まだ key を読んでいないときに読む key の数の上界。
前半の loop の一つの key には、その stop と、後半の loop で restart に回ったときの start の分を数える。 -/
def ReconfPc.budget (n : Nat) : ReconfPc → Nat
  | .snapshot => 16 * n + 2
  | .stopping _ pc rest _ groupsToRestart => pc.budget + 16 * rest.length + 8 * groupsToRestart.length + 10
  | .setFactory _ groupsToRestart => 8 * groupsToRestart.length + 1
  | .starting _ pc rest _ => pc.budget + 8 * rest.length + 1
  | .done _ => 0

def StartPc.budget : StartPc → Nat
  | .create => 4
  | .spawn _ => 3
  | .manage _ => 2
  | .register _ => 1
  | .done _ => 0

def ClosePc.budget : ClosePc → Nat
  | .getGroup => 3
  | .close _ => 2
  | .remove => 1
  | .done _ => 0

/-- goroutine の残りの段数の上界。`n` は Reconfigure がこれから読む key の数の上界。 -/
def Thread.budget (n : Nat) : Thread → Nat
  | .startGroup _ pc => pc.budget
  | .closeGroup _ pc => pc.budget
  | .command _ _ _ pc => pc.budget
  | .reconfigure _ _ pc => pc.budget n
  | .consumeLoop _ => 0

/-- 一歩の後の `i` 番の goroutine：その一歩が `i` 番なら一歩進んだもの、そうでなければ元のまま。 -/
theorem Sys.step_thread (env : Env) {s : Sys} {i : Nat} {t : Thread} (ht : s.threads[i]? = some t) (j : Nat) :
    (s.step env j).threads[i]? = some (if j = i then (t.step env s.m).1 else t) := by
  have hil : i < s.threads.length := (List.getElem?_eq_some_iff.mp ht).1
  cases hj : s.threads[j]? with
  | none =>
    rw [Sys.step_none env hj, if_neg]
    · exact ht
    · rintro rfl; rw [ht] at hj; cases hj
  | some u =>
    rw [Sys.step_some env hj, List.getElem?_append_left (by simpa using hil)]
    by_cases hji : j = i
    · subst hji; rw [ht] at hj; cases hj; simp [hil]
    · rw [List.getElem?_set_ne hji, if_neg hji, ht]

end Consumer
