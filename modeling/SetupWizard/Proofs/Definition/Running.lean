/-
# Sound definitions at run time

What a sound definition refers to is there when it is looked up: the validators of its panels in the
catalogue of its wizard, the conditions of its panels and derivations in its table, together with
all conditions that these consult, and its panels under their ids.  The main result,
`Definition.nothing_dangles`, says so for every session with the wizard of the definition.
-/
import SetupWizard.Proofs.Definition.Soundness
import SetupWizard.Proofs.Environment.History
import SetupWizard.Proofs.Wizard.Upkeep

namespace SetupWizard

open Attempt

namespace Definition

variable {d : Definition} {σ : Type}

/-- In an environment the conditions of the definition are asked, and its derivations refer to no
others, save those that somebody brought in at run time. -/
structure Closed (d : Definition) (brought : String → Prop) (env : Environment) : Prop where
  conditions : env.conditions = d.table.holds
  derivations : ∀ r ∈ env.derivations, ∀ id ∈ r.condition?, brought id ∨ id ∈ d.conditionIds

lemma Sound.closed_environment (h : d.Sound) (brought : String → Prop) :
    d.Closed brought d.environment :=
  ⟨rfl, fun r hr id hid => .inr (h.derivationConditions r hr id hid)⟩

/-- A refresh marks derivations, but gives them no other conditions. -/
lemma refreshKeeps_closed (d : Definition) (brought : String → Prop) :
    Environment.RefreshKeeps (d.Closed brought) := by
  intro env env' hrefresh h
  refine ⟨(Environment.conditions_of_refresh hrefresh).trans h.conditions, fun r' hr' => ?_⟩
  rw [Environment.derivations_of_refresh hrefresh] at hr'
  obtain ⟨r, hr, rfl⟩ := List.mem_map.mp hr'
  have hcondition : (r.after (env.verdict r)).condition? = r.condition? :=
    (congrArg Derivation.condition? (Derivation.declared_after r (env.verdict r)) :)
  rw [hcondition]
  exact h.derivations r hr

/-! ### Panels by their ids -/

lemma position?_eq_findIdx?_ids (panels : List Panel) (id : String) :
    Panel.position? panels id = (panels.map Panel.id).findIdx? fun id' => id' == id := by
  rw [List.findIdx?_map]
  rfl

lemma map_id_eq_of_declared {panels panels' : List Panel}
    (h : panels'.map Panel.declared = panels.map Panel.declared) :
    panels'.map Panel.id = panels.map Panel.id := by
  have hid : Panel.id ∘ Panel.declared = Panel.id := rfl
  have hids := congrArg (List.map Panel.id) h
  rwa [List.map_map, List.map_map, hid] at hids

/-- Where ids are distinct, each of them is found at its position. -/
lemma findIdx?_beq_of_nodup {ids : List String} (hnodup : ids.Nodup) {i : Nat} {id : String}
    (h : ids[i]? = some id) : (ids.findIdx? fun id' => id' == id) = some i := by
  obtain ⟨hi, rfl⟩ := List.getElem?_eq_some_iff.mp h
  refine List.findIdx?_eq_some_iff_getElem.mpr ⟨hi, beq_self_eq_true _, fun j hj => ?_⟩
  rw [beq_iff_eq]
  exact List.pairwise_iff_getElem.mp hnodup j i (Nat.lt_trans hj hi) hi hj

lemma build_eq_ok_iff {start : Wizard σ} :
    d.build = .ok start ↔ d.check = .ok () ∧ d.wizard = start := by
  rw [build]
  cases d.check with
  | ok u => simp
  | error defect => simp

end Definition

namespace Wizard

variable {σ : Type} {T : Crew σ} {w w' : Wizard σ} {i : Nat}

/-- To go to a panel by its id is to go to its position. -/
lemma goTo_of_position? {id : String} (h : w.position? id = some i) :
    goTo T id w = switchTo T i false w := by
  rw [goTo, Attempt.get_bind, h]

/-- A move to a position that succeeds makes the panel there the current one, and marks it. -/
lemma current?_of_switchTo (hw : w.InBounds) {validated : Bool} {js : List Event}
    (h : switchTo T i validated w = ⟨.ok true, w', js⟩) :
    w'.index? = some i ∧
      w'.current? = (w.panel? i).map fun p => { p with visited := true } := by
  have hmoved : Moved (accountable T) w (· = i) (switchTo T i validated w) :=
    (governs_accountable T).switchTo hw
  rw [h] at hmoved
  cases hmoved with
  | @arrived v _ new hnew _ _ hplace =>
    obtain rfl : new = i := hnew
    refine ⟨index?_arrive .., ?_⟩
    rw [current?, index?_arrive, Option.bind_some, panel?_arrive, SamePlace.panel? hplace]
    simp

end Wizard

namespace Definition

variable {d : Definition} {σ : Type} {T : Crew σ} {w : Wizard σ} {i : Nat} {p : Panel}

/-! ### The main result -/

/-- A wizard has the panels of a definition, perhaps with other marks. -/
def Has (d : Definition) (w : Wizard σ) : Prop :=
  w.panels.map Panel.declared = d.panels.map Panel.declared

lemma Has.exists_declared (h : d.Has w) (hp : w.panel? i = some p) :
    ∃ p₀ ∈ d.panels, p₀.declared = p.declared := by
  have hmem : p.declared ∈ w.panels.map Panel.declared :=
    List.mem_map_of_mem (List.mem_of_getElem? hp)
  rw [show w.panels.map Panel.declared = d.panels.map Panel.declared from h] at hmem
  exact List.mem_map.mp hmem

lemma Has.map_visited (h : d.Has w) (hp : d.panels[i]? = some p) :
    (w.panel? i).map (fun p => { p with visited := true }) = some { p with visited := true } := by
  have hget : (w.panel? i).map Panel.declared = some p.declared := by
    rw [Wizard.panel?, ← List.getElem?_map, show w.panels.map Panel.declared = _ from h,
      List.getElem?_map, hp, Option.map_some]
  obtain ⟨q, hq, hdeclared⟩ := Option.map_eq_some_iff.mp hget
  have hmarked : { q with visited := true } = { p with visited := true } :=
    congrArg (fun r : Panel => { r with visited := true }) hdeclared
  rw [hq, Option.map_some, hmarked]

lemma Has.position? (h : d.Has w) (hsound : d.Sound) (hp : d.panels[i]? = some p) :
    w.position? p.id = some i := by
  rw [Wizard.position?, position?_eq_findIdx?_ids, map_id_eq_of_declared h]
  exact findIdx?_beq_of_nodup hsound.nodup_panelIds (by rw [List.getElem?_map, hp]; rfl)

lemma Has.position?_of_not_mem (h : d.Has w) {id : String} (hid : id ∉ d.panels.map Panel.id) :
    w.position? id = none := by
  rw [Wizard.position?, position?_eq_findIdx?_ids, map_id_eq_of_declared h,
    List.findIdx?_eq_none_iff]
  exact fun id' hid' => beq_false_of_ne fun heq => hid (heq ▸ hid')

/-- **What a definition that passes its check refers to is there at run time.**  The check passes
exactly for the sound definitions.  Take the wizard of such a definition with any crew that has
its validators and lets views validate in the standard way, and any session.  No call fails for want
of a validator, unless the crew says so when it cannot make a view.  All conditions consulted to
show a panel are in the table.  So are those consulted in any refresh, if views and callers neither
put other authorities in place nor bring in derivations with other conditions; of what they bring in
(`brought`) only the names they use are left open.  And to go to a panel by its id is to go to the
panel that is declared with it. -/
theorem nothing_dangles (d : Definition) :
    (d.check = .ok () ↔ d.Sound) ∧
    ∀ {σ : Type} (T : Crew σ) (start : Wizard σ) (calls : List Call),
      T.hooks.validation? = none → T.catalog = d.catalog → d.build = .ok start →
      let after := session T calls start
      let w := after.state
      (∀ e ∈ after.journal, ∀ panel validator,
        e.result = .error (.unknownValidator panel validator) →
          ∃ p, T.create p = .error (.unknownValidator panel validator)) ∧
      (∀ i p, w.panel? i = some p → ∀ id ∈ p.condition?, ∀ id',
        d.table.Consults (ConditionTable.maxSteps + 1) id id' → id' ∈ d.table) ∧
      (∀ brought, T.Keep (d.Closed brought) → (∀ c ∈ calls, c.Keeps (d.Closed brought)) →
        w.env.conditions = d.table.holds ∧
        ∀ e ∈ after.journal, ∀ event ∈ e.journal, ∀ env ∈ event.pass?,
          env.conditions = d.table.holds ∧
          ∀ r ∈ env.derivations, ∀ id ∈ r.condition?, brought id ∨ ∀ id',
            d.table.Consults (ConditionTable.maxSteps + 1) id id' → id' ∈ d.table) ∧
      (∀ i p, d.panels[i]? = some p →
        Wizard.goTo T p.id w = Wizard.switchTo T i false w ∧
        ∀ w' js, Wizard.goTo T p.id w = ⟨.ok true, w', js⟩ →
          w'.index? = some i ∧ w'.current? = some { p with visited := true }) ∧
      ∀ id, id ∉ d.panels.map Panel.id → Wizard.goTo T id w = ⟨.ok false, w, []⟩ := by
  refine ⟨check_eq_ok_iff_sound, fun {σ} T start calls hstandard hcatalog hbuild => ?_⟩
  obtain ⟨hcheck, rfl⟩ := build_eq_ok_iff.mp hbuild
  have hsound : d.Sound := check_eq_ok_iff_sound.mp hcheck
  have hbounds : (d.wizard : Wizard σ).InBounds := Wizard.inBounds_ofPanels _ _
  have hhas : d.Has (session T calls d.wizard).state := by
    have hpanels := Wizard.declared_session T hbounds calls
    rwa [wizard, Wizard.panels_ofPanels] at hpanels
  have hsupplied : Wizard.Supplied T d.wizard := by
    intro p hp id hid
    rw [wizard, Wizard.panels_ofPanels] at hp
    exact hcatalog ▸ hsound.mem_catalog hp hid
  intro after w
  refine ⟨fun e he panel validator hfail => ?_, fun i p hp id hid id' => ?_,
    fun brought hkeep hcalls => ?_, fun i p hp => ?_, fun id hid => ?_⟩
  · exact Wizard.excused_session hstandard calls hbounds hsupplied he hfail panel validator rfl
  · obtain ⟨p₀, hp₀, hdeclared⟩ := hhas.exists_declared hp
    have hcondition : p₀.condition? = p.condition? := (congrArg Panel.condition? hdeclared :)
    exact hsound.mem_table (hsound.panelConditions p₀ hp₀ id (hcondition ▸ hid))
  · obtain ⟨hclosed, hpasses⟩ := Wizard.upheld_session hstandard (refreshKeeps_closed d brought) hkeep
      hcalls hbounds (hsound.closed_environment brought) hsupplied
    refine ⟨hclosed.conditions, fun e he event hevent env henv => ?_⟩
    have henvClosed := (hpasses e he).1 event hevent env henv
    refine ⟨henvClosed.conditions, fun r hr id hid => ?_⟩
    exact (henvClosed.derivations r hr id hid).imp_right fun hmem id' => hsound.mem_table hmem
  · have hgoTo := Wizard.goTo_of_position? (T := T) (hhas.position? hsound hp)
    refine ⟨hgoTo, fun w' js hmove => ?_⟩
    have hcurrent := Wizard.current?_of_switchTo (Wizard.inBounds_session T hbounds)
      (hgoTo.symm.trans hmove)
    exact ⟨hcurrent.1, hcurrent.2.trans (hhas.map_visited hp)⟩
  · rw [Wizard.goTo, Attempt.get_bind, hhas.position?_of_not_mem hid]
    rfl

/-- A second panel whose condition refers to two others, one of them about a derived variable. -/
theorem nothing_dangles_of_bothConditions :
    let d : Definition :=
      { conditions := [{ id := "both", all := ["chosen", "ready"] }, .equals "chosen" "X" "1",
          .defined "ready" "Y"]
        derivations := [{ name := "Y", expression := "1", condition? := some "chosen" }]
        requirements := [{ id := "filled", required := ["X"] }]
        panels := [{ id := "A", className := "Text", validators := ["filled"] },
          { id := "B", className := "Text", condition? := some "both" }] }
    let T : Crew Unit := Toolkit.plain d.catalog
    let calls : List Call := [.move (.next true),
      .adjust fun env => env.mapStore fun store => store.set "X" "1", .ask .isValid]
    let start : Wizard Unit := d.wizard
    d.build = .ok start ∧
      (∀ e ∈ (session T calls start).journal, ∀ panel validator,
        e.result ≠ .error (.unknownValidator panel validator)) ∧
      (session T calls start).state.env.conditions = d.table.holds ∧
      (Wizard.goTo T "B" (session T calls start).state).result = .ok true ∧
      (Wizard.goTo T "B" (session T calls start).state).state.index? = some 1 := by
  intro d T calls start
  have hbuild : d.build = .ok start := build_eq_ok_iff.mpr ⟨by decide +kernel, rfl⟩
  obtain ⟨hfails, -, hpasses, hgoTo, -⟩ := (nothing_dangles d).2 T start calls rfl rfl hbuild
  have hkeep : T.Keep (d.Closed fun _ => False) := Toolkit.plain_keep d.catalog _
  have hcalls : ∀ c ∈ calls, c.Keeps (d.Closed fun _ => False) := by
    intro c hc
    simp only [calls, List.mem_cons, List.not_mem_nil, or_false] at hc
    rcases hc with rfl | rfl | rfl
    · exact trivial
    · exact fun env h => ⟨h.conditions, h.derivations⟩
    · exact trivial
  have hmove : (Wizard.goTo T "B" (session T calls start).state).result = .ok true := by
    decide +kernel
  refine ⟨hbuild, fun e he panel validator hfail => ?_, (hpasses _ hkeep hcalls).1, hmove, ?_⟩
  · obtain ⟨p, hp⟩ := hfails e he panel validator hfail
    cases hp
  · have hcurrent := (hgoTo 1 _ rfl).2
    generalize Wizard.goTo T "B" (session T calls start).state = report at hmove hcurrent ⊢
    obtain ⟨result, w', js⟩ := report
    obtain rfl : result = .ok true := hmove
    exact (hcurrent w' js rfl).1

/-- In some refresh of a session a derivation has a condition that the definition does not
declare. -/
def Dangles (d : Definition) (es : List Exchange) : Prop :=
  ∃ env ∈ (es.flatMap Exchange.journal).filterMap Event.pass?,
    ∃ r ∈ env.derivations, ∃ id ∈ r.condition?, id ∉ d.table

instance (d : Definition) (es : List Exchange) : Decidable (d.Dangles es) :=
  inferInstanceAs (Decidable (∃ env ∈ (es.flatMap Exchange.journal).filterMap Event.pass?,
    ∃ r ∈ env.derivations, ∃ id ∈ r.condition?, id ∉ d.table))

/-- A definition with a single panel, which passes its check, and a derivation with a condition
that it does not declare.  A view may bring that in when its panel is entered, or somebody else may
add it before; and the crew may put it down to a validator that a view cannot be made. -/
theorem dangles_of_addition :
    let d : Definition := { panels := [{ id := "A", className := "Text" }] }
    let ghost : Derivation := { name := "N", expression := "1", condition? := some "ghost" }
    let calls : List Call := [.move (.next true), .move (.next true)]
    let bringing : Crew Unit :=
      { create := fun _ => .ok ()
        hooks := { activate := fun _ scene =>
          ⟨true, { scene with env := scene.env.addDerivation ghost }, []⟩ } }
    let refusing : Crew Unit := { create := fun p => .error (.unknownValidator p.id "none") }
    let start : Wizard Unit := d.wizard
    d.check = .ok () ∧ d.build = .ok start ∧ bringing.catalog = d.catalog ∧
      refusing.catalog = d.catalog ∧
      d.Dangles (session bringing calls start).journal ∧
      d.Dangles (session (Toolkit.plain d.catalog)
        (.adjust (·.addDerivation ghost) :: calls) start).journal ∧
      (Wizard.next refusing true start).result = .error (.unknownValidator "A" "none") := by
  intro d ghost calls bringing refusing start
  have hcheck : d.check = .ok () := by decide +kernel
  exact ⟨hcheck, build_eq_ok_iff.mpr ⟨hcheck, rfl⟩, rfl, rfl, by decide +kernel, by decide +kernel,
    by decide +kernel⟩

end Definition

end SetupWizard
