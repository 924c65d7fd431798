/-
# What a validated run certifies

In a run with validation a panel is only left when its data is valid, and the data of the last
panel is validated at the end.  So of every panel in the record it is known that, when it was
validated last, the requirements it refers to were met (`certified_run`).  A run comes to its end
after at most as many moves as there are panels, and one that fails delivers nothing.
-/
import SetupWizard.Proofs.Command.Delivery
import SetupWizard.Proofs.Unattended.Ending
import SetupWizard.Proofs.Unattended.Skipping
import SetupWizard.Proofs.Wizard.Advance

namespace SetupWizard

open Attempt

variable {d : Definition} {R : List PanelRecord} {i k : Nat} {env : Environment}
  {js ks : List Event}

/-- A panel was validated in an environment just before another one was entered, and it was not
validated again. -/
def ValidatedOnLeaving (js : List Event) (i : Nat) (env : Environment) : Prop :=
  ∃ before j env' after,
    js = before ++ .turned .validating i env :: .turned .entering j env' :: after ∧
      ∀ env'', .turned .validating i env'' ∉ after

lemma validatedOnLeaving_append (before : List Event) (i j : Nat) (env env' : Environment) :
    ValidatedOnLeaving (before ++ [.turned .validating i env, .turned .entering j env']) i env :=
  ⟨before, j, env', [], rfl, fun _ => List.not_mem_nil⟩

lemma ValidatedOnLeaving.append (h : ValidatedOnLeaving js i env)
    (hks : ∀ env', .turned .validating i env' ∉ ks) : ValidatedOnLeaving (js ++ ks) i env := by
  obtain ⟨before, j, env', after, rfl, hafter⟩ := h
  refine ⟨before, j, env', after ++ ks, ?_, fun env'' hmem => ?_⟩
  · rw [List.append_assoc, List.cons_append, List.cons_append]
  · rcases List.mem_append.mp hmem with hmem | hmem
    · exact hafter env'' hmem
    · exact hks env'' hmem

namespace Course

variable {answers : String → Texts} {validate : Bool} {x y z : Course}

/-! ### What a move validates -/

/-- Only the current panel is validated. -/
lemma at_of_mem_journal_approve (h : .turned .validating i env ∈ (approve d validate x).journal) :
    x.at? = some i := by
  cases validate with
  | false => cases h
  | true =>
    have hcheck : .turned .validating i env ∈ (check d x).journal := h
    cases hat : x.at? with
    | none =>
      rw [check_of_none hat] at hcheck
      cases hcheck
    | some c =>
      rw [check_of_some hat] at hcheck
      cases hrefresh : x.env.refresh <;> rw [hrefresh] at hcheck <;>
      · cases List.mem_singleton.mp hcheck
        rfl

/-- A move that is not made is no more than an attempt to have the data approved. -/
lemma approve_of_stayed (h : next d answers validate x = ⟨.ok false, y, js⟩) :
    ∃ approved, approve d validate x = ⟨.ok approved, y, js⟩ := by
  obtain ⟨approved, u, js₁, js₂, happrove, hrest, rfl⟩ := exists_of_bind_ok h
  cases approved with
  | false =>
    cases hrest
    exact ⟨false, by rw [List.append_nil]; exact happrove⟩
  | true =>
    rw [if_pos rfl, stepForward, Attempt.get_bind] at hrest
    cases htarget : u.target? d with
    | none =>
      rw [htarget] at hrest
      cases hrest
      exact ⟨true, by rw [List.append_nil]; exact happrove⟩
    | some new =>
      rw [htarget] at hrest
      exact absurd (stride_ok hrest).1 Bool.false_ne_true

/-- A move that is made enters a panel once the data of the current one has been approved. -/
lemma approval_of_moved (h : next d answers validate x = ⟨.ok true, y, js⟩) :
    ∃ u js₁ new env, Approval d validate x u js₁ ∧ y.trail = x.trail ++ [new] ∧
      js = js₁ ++ [.turned .entering new env] := by
  obtain ⟨approved, u, js₁, js₂, happrove, hrest, rfl⟩ := exists_of_bind_ok h
  cases approved with
  | false => cases hrest
  | true =>
    have htrail : u.trail = x.trail := by
      have htrail := trail_approve (d := d) validate x
      rwa [happrove] at htrail
    rw [if_pos rfl, stepForward, Attempt.get_bind] at hrest
    cases htarget : u.target? d with
    | none =>
      rw [htarget] at hrest
      cases hrest
    | some new =>
      rw [htarget] at hrest
      obtain ⟨-, hy, env, rfl⟩ := stride_ok hrest
      exact ⟨u, js₁, new, env, approval_of_approve happrove, htrail ▸ hy, rfl⟩

lemma Approval.at_of_mem (h : Approval d validate x y js)
    (hmem : .turned .validating i env ∈ js) : x.at? = some i := by
  cases h with
  | waived => cases hmem
  | granted _ hat _ _ =>
    cases List.mem_singleton.mp hmem
    exact hat

/-! ### The panels that have been left -/

/-- The panels that have been left met with approval when they were validated last. -/
def LeftApproved (d : Definition) (js : List Event) (x : Course) : Prop :=
  ∀ i ∈ x.trail, x.at? ≠ some i → ∃ env env', ValidatedOnLeaving js i env ∧
    env.refresh = .ok env' ∧ d.verdict env' i = .ok true

/-- What is validated later than a panel that has been left is not this panel. -/
lemma LeftApproved.append (h : LeftApproved d js x) (htrail : y.trail = x.trail)
    (hks : ∀ i env, .turned .validating i env ∈ ks → x.at? = some i) :
    LeftApproved d (js ++ ks) y := by
  intro i hi hat
  rw [at?, htrail] at hat
  rw [htrail] at hi
  obtain ⟨env, env', hleaving, hrefresh, hverdict⟩ := h i hi hat
  exact ⟨env, env', hleaving.append fun env'' hmem => hat (hks i env'' hmem), hrefresh, hverdict⟩

/-- A validated move keeps this up: the panel that it leaves has just been approved. -/
lemma LeftApproved.moved (h : LeftApproved d js x)
    (hnext : next d answers true x = ⟨.ok true, y, ks⟩) : LeftApproved d (js ++ ks) y := by
  obtain ⟨u, ks₁, new, env, happroval, hy, rfl⟩ := approval_of_moved hnext
  intro i hi hat
  have hnew : i ≠ new := by
    rintro rfl
    rw [at?, hy] at hat
    exact hat List.getLast?_concat
  have hmem : i ∈ x.trail := by
    rw [hy] at hi
    exact (List.mem_append.mp hi).resolve_right fun h => hnew (List.mem_singleton.mp h)
  by_cases hi' : x.at? = some i
  · obtain ⟨hrefresh, hverdict, rfl⟩ := happroval.of_at hi'
    exact ⟨x.env, u.env, validatedOnLeaving_append js i new x.env env, hrefresh, hverdict⟩
  · obtain ⟨env₁, env₁', hleaving, hrefresh, hverdict⟩ := h i hmem hi'
    refine ⟨env₁, env₁', hleaving.append fun env'' hvalidated => ?_, hrefresh, hverdict⟩
    rcases List.mem_append.mp hvalidated with hvalidated | hvalidated
    · exact hi' (happroval.at_of_mem hvalidated)
    · cases List.mem_singleton.mp hvalidated

/-- **Panels that are left in a validated run have been approved.** -/
lemma LeftApproved.advance {limit : Nat} (h : LeftApproved d js x)
    (hadvance : advance d answers true limit x = ⟨.ok k, z, ks⟩) :
    LeftApproved d (js ++ ks) z := by
  induction limit generalizing x js k ks with
  | zero =>
    cases hadvance
    rwa [List.append_nil]
  | succ limit ih =>
    obtain ⟨hnext, -⟩ | ⟨y, ks₁, ks₂, moves, hnext, hrest, -, rfl⟩ := advance_cases hadvance
    · obtain ⟨approved, happrove⟩ := approve_of_stayed hnext
      refine h.append (trail_of_stayed hnext) fun i env hmem => ?_
      have hjournal : .turned .validating i env ∈ (approve d true x).journal := by
        rw [happrove]
        exact hmem
      exact at_of_mem_journal_approve hjournal
    · rw [← List.append_assoc]
      exact ih (h.moved hnext) hrest

/-- Every panel that a validated run has entered was approved when it was validated last: just
before the next panel was entered, or at the very end. -/
lemma approved_of_proceed
    (h : proceed d answers true (start d) = ⟨.ok true, y, js⟩) (hi : i ∈ y.trail) :
    ∃ env env', (ValidatedOnLeaving js i env ∨ js.getLast? = some (.turned .validating i env)) ∧
      env.refresh = .ok env' ∧ d.verdict env' i = .ok true := by
  obtain ⟨k, z, js₁, js₂, hadvance, -, happroval, rfl⟩ := exists_of_proceed h
  have hstart : LeftApproved d [] (start d) := fun i hi => absurd hi List.not_mem_nil
  have hleft : LeftApproved d js₁ z := hstart.advance hadvance
  by_cases hc : z.at? = some i
  · obtain ⟨hrefresh, hverdict, rfl⟩ := happroval.of_at hc
    exact ⟨z.env, y.env, .inr List.getLast?_concat, hrefresh, hverdict⟩
  · obtain ⟨env, env', hleaving, hrefresh, hverdict⟩ := hleft i (happroval.trail_eq ▸ hi) hc
    exact ⟨env, env', .inl (hleaving.append fun _ hmem => hc (happroval.at_of_mem hmem)), hrefresh,
      hverdict⟩

end Course

namespace Unattended

open Course

/-- What has become of a panel in the record of a validated run. -/
lemma approved_of_record (hunvisited : ∀ p ∈ d.panels, p.visited = false)
    {written : List PanelRecord} (h : record d R true = .ok written) {r : PanelRecord}
    (hr : r ∈ written) :
    ∃ i p env env', d.panels[i]? = some p ∧ r.panel = p.id ∧
      (ValidatedOnLeaving (course d R true).journal i env ∨
        (course d R true).journal.getLast? = some (.turned .validating i env)) ∧
      env.refresh = .ok env' ∧ d.verdict env' i = .ok true := by
  obtain ⟨-, hresult, rfl⟩ := record_eq_ok_iff.mp h
  have hascends : Ascends d (course d R true).state := ascends_proceed d _ true
  obtain ⟨i, hi, hentry⟩ := List.mem_filterMap.mp hr
  obtain ⟨p, hp, rfl⟩ := panel_of_entryAt? hentry
  rw [recorded_of_unvisited hunvisited hascends] at hi
  rcases hcourse : course d R true with ⟨result, y, js⟩
  rw [hcourse] at hresult hi
  obtain rfl : result = .ok true := hresult
  obtain ⟨env, env', hvalidated, hrefresh, hverdict⟩ := approved_of_proceed hcourse hi
  exact ⟨i, p, env, env', hp, rfl, hvalidated, hrefresh, hverdict⟩

/-- A run that fails delivers nothing. -/
lemma carryOut_of_failed {e : RunError} (h : run d R true = .error e) (files : Command.Files)
    {path : String} {replay? : Option String} (record? : Option String)
    (hload : Command.loadDefinition files path = .ok d)
    (hreplay : replay?.elim (.ok []) (fun path => Command.loadRecords (files.read path)) = .ok R) :
    Command.carryOut files (.run path replay? record? false) {} = .error (.run e) {} := by
  have hrecords : Command.loadReplay files replay? = .ok R := by
    cases replay? with
    | none =>
      obtain rfl : [] = R := Except.ok.inj hreplay
      rfl
    | some path =>
      have hreplay : Command.loadRecords (files.read path) = .ok R := hreplay
      rw [Command.loadReplay, hreplay]
      rfl
  rw [Command.carryOut_run hload hrecords, Bool.not_false, h]

/-- **What a validated run certifies.**  Let no panel of a definition be marked as visited, as it is
with every definition that has been loaded (`Definition.unvisited_of_load`).  A run with validation
makes at most as many moves as there are panels, each to a panel behind the
current one, and then one that does not succeed; the limit on their number is not reached.  If the
run writes a record, then every panel in it was validated, for the last time just before the next
panel was entered or at the very end, and after the refresh with which this validation began the
last declared requirement under each id that the panel lists was met.  If the run fails, there is
no record, and the command for it prints nothing and writes no file. -/
theorem certified_run (hunvisited : ∀ p ∈ d.panels, p.visited = false) (R : List PanelRecord) :
    let T : Crew Texts := toolkit d R
    let journal := landmarks (proceed T true d.wizard).journal
    (∃ k ≤ d.panels.length, Wizard.Halts T true d.wizard k ∧
      (∀ j < k, ∃ i, (Wizard.afterMoves T true d.wizard (j + 1)).index? = some i ∧
        ∀ c, (Wizard.afterMoves T true d.wizard j).index? = some c → c < i) ∧
      (Wizard.advance T true (d.panels.length + 1) d.wizard).result =
        (Wizard.next T true (Wizard.afterMoves T true d.wizard k)).result.map (fun _ => k) ∧
      (Wizard.advance T true (d.panels.length + 1) d.wizard).state =
        Wizard.afterMoves T true d.wizard (k + 1)) ∧
    (∀ written, record d R true = .ok written → ∀ r ∈ written, ∃ i p env env',
      d.panels[i]? = some p ∧ r.panel = p.id ∧
      (ValidatedOnLeaving journal i env ∨
        journal.getLast? = some (.turned .validating i env)) ∧
      env.refresh = .ok env' ∧
      ∀ id ∈ p.validators, ∃ q, d.requirement? id = some q ∧ q.Met env'.store) ∧
    (∀ e, run d R true = .error e → record d R true = .error e ∧
      ∀ (files : Command.Files) (path : String) (replay? record? : Option String),
        Command.loadDefinition files path = .ok d →
        replay?.elim (.ok []) (fun path => Command.loadRecords (files.read path)) = .ok R →
        Command.execute files (.run path replay? record? false) = .error (.run e) ∧
          Command.carryOut files (.run path replay? record? false) {} = .error (.run e) {}) := by
  intro T journal
  have hbounds : (d.wizard : Wizard Texts).InBounds := Wizard.inBounds_ofPanels d.panels _
  have hsize : (d.wizard : Wizard Texts).size = d.panels.length := by
    rw [Wizard.size_eq, Definition.wizard, Wizard.panels_ofPanels]
  have hjournal : journal = (course d R true).journal :=
    (follows_proceed true (follows_start d R)).journal
  refine ⟨?_, ?_, ?_⟩
  · obtain ⟨k, hk, hhalts⟩ := Wizard.exists_halts T true hbounds
    rw [hsize] at hk
    have hadvance := hhalts.advance (Nat.lt_succ_of_le hk)
    exact ⟨k, hk, hhalts, fun j hj => hhalts.index hbounds hj, hadvance.1, hadvance.2⟩
  · intro written hwritten r hr
    obtain ⟨i, p, env, env', hp, hid, hvalidated, hrefresh, hverdict⟩ :=
      approved_of_record hunvisited hwritten hr
    rw [← hjournal] at hvalidated
    exact ⟨i, p, env, env', hp, hid, hvalidated, hrefresh,
      (Definition.verdict_eq_true hp).mp hverdict⟩
  · intro e he
    refine ⟨record_of_failed he, fun files path replay? record? hload hreplay => ?_⟩
    have hcarry := carryOut_of_failed he files record? hload hreplay
    exact ⟨by rw [Command.execute, hcarry], hcarry⟩

/-- With the answer `2` the first panel is recorded, and its requirement was met when it was
validated last. -/
theorem certified_chainedPanel :
    let R : List PanelRecord := [⟨"A", .ofList [("X", "2")]⟩]
    (∀ p ∈ chainedPanel.panels, p.visited = false) ∧ record chainedPanel R true = .ok R ∧
      ∃ (i : Nat) (p : Panel) (env env' : Environment),
        chainedPanel.panels[i]? = some p ∧ p.id = "A" ∧ env.refresh = .ok env' ∧
          ∃ q, chainedPanel.requirement? "filled" = some q ∧ q.Met env'.store := by
  intro R
  have hunvisited : ∀ p ∈ chainedPanel.panels, p.visited = false := by decide
  have hrecord : record chainedPanel R true = .ok R := by decide +kernel
  have hfilled : ∀ p ∈ chainedPanel.panels, "A" = p.id → "filled" ∈ p.validators := by
    decide +kernel
  obtain ⟨i, p, env, env', hp, hid, -, hrefresh, hmet⟩ :=
    (certified_run hunvisited R).2.1 R hrecord _ List.mem_cons_self
  have hvalidator : "filled" ∈ p.validators := hfilled p (List.mem_of_getElem? hp) hid
  exact ⟨hunvisited, hrecord, i, p, env, env', hp, hid.symm, hrefresh,
    hmet "filled" hvalidator⟩

end Unattended

end SetupWizard
