/-
# A pass over settled answers

The pass after a successful one judges some derivations in another way, although all conditions and
expressions have the answers that they had: a one-shot derivation that was marked in the meantime
keeps what its variable has, and that may well be the value of another derivation, or a value where
it had found none itself.  What is kept is what prevailed before, so it makes no difference.  As
long as the answers are the same, an environment that a pass has left behind is therefore a fixed
point: one more pass succeeds and changes neither the variables nor the marks
(`refresh_of_same_answers`).
-/
import SetupWizard.Proofs.Environment.Settling

namespace SetupWizard

namespace Derivation

/-- The condition and the expression of a derivation have the same answers on two stores. -/
structure AnswersAlike (conditions : Authority) (evaluate : Evaluator) (s s' : Store)
    (d : Derivation) : Prop where
  inForce : d.inForce conditions s' = d.inForce conditions s
  evaluate : evaluate d.expression s' = evaluate d.expression s

variable {conditions : Authority} {evaluate : Evaluator} {s s' : Store} {d : Derivation}

/-- To keep a value is no failure, so only a derivation that failed before can fail again. -/
lemma AnswersAlike.isFailed (h : d.AnswersAlike conditions evaluate s s')
    (hgoes : (d.judge conditions evaluate s).isFailed = false) :
    ((d.after (d.judge conditions evaluate s)).judge conditions evaluate s').isFailed = false := by
  rcases verdict_again h.inForce h.evaluate with hsame | hcarried
  · rw [hsame, hgoes]
  · rw [hcarried]
    rfl

/-- To keep a value sets no mark, and to have the same verdict again sets no further one. -/
lemma AnswersAlike.after (h : d.AnswersAlike conditions evaluate s s') :
    let marked := d.after (d.judge conditions evaluate s)
    marked.after (marked.judge conditions evaluate s') = marked := by
  intro marked
  rcases verdict_again h.inForce h.evaluate with hsame | hcarried
  · rw [hsame]
    simp only [marked]
    cases d.judge conditions evaluate s <;> rfl
  · rw [hcarried]
    rfl

end Derivation

namespace Environment

variable {env env' : Environment}

/-- **A pass is idempotent where the answers stay the same.**  If a pass succeeds, and the condition
and the expression of every derivation have the same answers on the store that it leaves behind as
on the store that it found, then a second pass succeeds and leaves everything as it is, the marks of
the derivations included. -/
theorem refresh_of_same_answers (h : env.refresh = .ok env')
    (hsame : ∀ d ∈ env.derivations,
      d.AnswersAlike env.conditions env.evaluate env.store env'.store) :
    env'.refresh = .ok env' := by
  have hmarked := derivations_of_refresh h
  have hverdict (d : Derivation) :
      env'.verdict d = d.judge env.conditions env.evaluate env'.store := by
    rw [verdict, (refresh_eq_ok_iff.mp h).2]
  have hgoes : ∀ d ∈ env'.derivations, (env'.verdict d).isFailed = false := by
    intro d' hd'
    rw [hmarked] at hd'
    obtain ⟨d, hd, rfl⟩ := List.mem_map.mp hd'
    rw [hverdict]
    exact (hsame d hd).isFailed ((refresh_eq_ok_iff.mp h).1 d hd)
  obtain ⟨again, hagain⟩ : ∃ again, env'.refresh = .ok again :=
    ⟨_, refresh_eq_ok_iff.mpr ⟨hgoes, rfl⟩⟩
  have hstore : again.store = env'.store := by
    refine Store.ext_get? (fun n => ?_) (respects_of_refresh hagain).holds
    exact get?_refresh_again h hagain fun d hd _ => ⟨(hsame d hd).inForce, (hsame d hd).evaluate⟩
  have hmarks : again.derivations = env'.derivations := by
    rw [derivations_of_refresh hagain, hmarked, List.map_map]
    refine List.map_congr_left fun d hd => ?_
    rw [Function.comp_apply, hverdict]
    exact (hsame d hd).after
  -- A pass changes nothing but the store and the derivations.
  have hrest : again = { env' with derivations := again.derivations, store := again.store } := by
    rw [(refresh_eq_ok_iff.mp hagain).2]
  rw [hagain, hrest, hmarks, hstore]

/-- Three rules for `A`: the first has a value again and again, the second once, the third never.
In the second pass the third keeps the value of the second, and so does the second itself.  `K` is
computed once while it is blocked, and `B` is not in force. -/
theorem refresh_of_kept_answers :
    let env : Environment :=
      { store := (Store.ofList [("P", "1"), ("Q", "2"), ("K", "old")]).block "K" "panel"
        derivations := [{ name := "A", expression := "P", condition? := some "P" },
          { name := "A", expression := "Q", oneShot := true },
          { name := "A", expression := "R", oneShot := true },
          { name := "K", expression := "P", oneShot := true },
          { name := "B", expression := "P", condition? := some "R" }]
        conditions := fun id store => store.contains id
        evaluate := fun expression store => .ok (store.get? expression) }
    let env' := env.refreshed
    env.refresh = .ok env' ∧
      (∀ d ∈ env.derivations,
        d.AnswersAlike env.conditions env.evaluate env.store env'.store) ∧
      env.derivations.map env.verdict =
        [.computed (some "1"), .computed (some "2"), .computed none, .computed (some "1"),
          .withdrawn] ∧
      env'.derivations.map env'.verdict =
        [.computed (some "1"), .carried (some "2"), .carried (some "2"), .carried (some "old"),
          .withdrawn] ∧
      env'.refresh = .ok env' := by
  intro env env'
  have hrefresh : env.refresh = .ok env' := refresh_eq_ok_refreshed (by decide +kernel)
  have hforce : ∀ d ∈ env.derivations,
      d.inForce env.conditions env'.store = d.inForce env.conditions env.store := by decide +kernel
  have hvalue : ∀ d ∈ env.derivations,
      env'.store.get? d.expression = env.store.get? d.expression := by decide +kernel
  have hsame : ∀ d ∈ env.derivations,
      d.AnswersAlike env.conditions env.evaluate env.store env'.store := fun d hd =>
    ⟨hforce d hd, congrArg Except.ok (hvalue d hd)⟩
  exact ⟨hrefresh, hsame, by decide +kernel, by decide +kernel,
    refresh_of_same_answers hrefresh hsame⟩

end Environment

end SetupWizard
