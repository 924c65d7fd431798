/-
# Wizards that correspond

Two wizards may differ in what their views are and still do the same.  This file compares wizards
with two crews, whose views may have memories of different types.  A *correspondence* says which
of their states belong together and what may stand in their journals; it is closed under
composition, so that two composed attempts match when their parts do (`Attempt.Matches.bind`).

Crews correspond when the small steps of their wizards match, that is to ask whether a panel is
shown, to let a view act on one of the occasions that the wizard knows, and to refresh.  Then every
call on the one wizard matches the same call on the other (`Corresponds.perform`).
-/
import SetupWizard.Proofs.Correspondence
import SetupWizard.Proofs.Session

namespace SetupWizard

open Attempt

namespace Wizard

variable {σ τ : Type} {T : Crew σ} {T' : Crew τ}
  {C : Correspondence Event (Wizard σ) (Wizard τ)} {w : Wizard σ} {w' : Wizard τ}

/-- The small steps of the wizards with two crews match, and wizards that belong together differ
in their views at most. -/
structure Corresponds (C : Correspondence Event (Wizard σ) (Wizard τ)) (T : Crew σ)
    (T' : Crew τ) : Prop where
  face {w : Wizard σ} {w' : Wizard τ} : C.state w w' → w'.face = w.face
  arrive {w : Wizard σ} {w' : Wizard τ} (old? : Option Nat) (new : Nat) : C.state w w' →
    C.state (arrive old? new w) (arrive old? new w')
  setEnv {w : Wizard σ} {w' : Wizard τ} (env : Environment) : C.state w w' →
    C.state { w with env } { w' with env }
  setNavigation {w : Wizard σ} {w' : Wizard τ} (navigation : Navigation) : C.state w w' →
    C.state { w with navigation } { w' with navigation }
  refresh : refresh.Matches C refresh
  canShow (i : Nat) (visibleOnly : Bool) :
    (canShow T i visibleOnly).Matches C (canShow T' i visibleOnly)
  validate (i : Nat) : (validateAt T i).Matches C (validateAt T' i)
  commit (i : Nat) : (commitAt T i).Matches C (commitAt T' i)
  save (i : Nat) : (turn T .saving i fun stage => ofStep (T.hooks.save stage)).Matches C
    (turn T' .saving i fun stage => ofStep (T'.hooks.save stage))
  leave (i : Nat) : (turn T .leaving i fun stage => ofStep (T.hooks.deactivate stage)).Matches C
    (turn T' .leaving i fun stage => ofStep (T'.hooks.deactivate stage))
  enter (i : Nat) : (turn T .entering i fun stage => ofStep (T.hooks.activate stage)).Matches C
    (turn T' .entering i fun stage => ofStep (T'.hooks.activate stage))
  record (i : Nat) : (turn T .recording i (recordOf T)).Matches C
    (turn T' .recording i (recordOf T'))

section Face

variable (h : w'.face = w.face)
include h

lemma panels_of_face : w'.panels = w.panels := congrArg Face.panels h

lemma index?_of_face : w'.index? = w.index? := congrArg Face.index? h

lemma navigation_of_face : w'.navigation = w.navigation := congrArg Face.navigation h

lemma env_of_face : w'.env = w.env := congrArg Face.env h

lemma size_of_face : w'.size = w.size := by rw [size_eq, size_eq, panels_of_face h]

lemma ahead_of_face : w'.ahead = w.ahead := by
  rw [ahead, ahead, index?_of_face h, size_of_face h]

lemma behind_of_face : w'.behind = w.behind := by rw [behind, behind, index?_of_face h]

lemma position?_of_face (id : String) : w'.position? id = w.position? id := by
  rw [position?, position?, panels_of_face h]

lemma visitedPositions_of_face : w'.visitedPositions = w.visitedPositions := by
  simp only [visitedPositions, panel?, size_of_face h, panels_of_face h]

end Face

namespace Corresponds

variable (h : Corresponds C T T')
include h

/-! ### Looking for a panel -/

lemma firstShown (visibleOnly : Bool) (is : List Nat) :
    (firstShown T visibleOnly is).Matches C (firstShown T' visibleOnly is) := by
  induction is with
  | nil => exact .pure none
  | cons i is ih =>
    refine (h.canShow i visibleOnly).bind fun shown => ?_
    cases shown with
    | true => exact .pure (some i)
    | false => exact ih

lemma findNext (visibleOnly : Bool) :
    (findNext T visibleOnly).Matches C (findNext T' visibleOnly) :=
  .get_bind fun _ _ hw => ahead_of_face (h.face hw) ▸ h.firstShown visibleOnly _

lemma findPrevious : (findPrevious T).Matches C (findPrevious T') :=
  .get_bind fun _ _ hw => behind_of_face (h.face hw) ▸ h.firstShown false _

lemma hasNext : (hasNext T).Matches C (hasNext T') := .map _ (h.findNext false)

lemma hasPrevious : (hasPrevious T).Matches C (hasPrevious T') := .map _ h.findPrevious

lemma isNextEnabled : (isNextEnabled T).Matches C (isNextEnabled T') := by
  refine .get_bind fun w w' hw => ?_
  rw [navigation_of_face (h.face hw)]
  split
  · exact h.hasNext
  · exact .pure false

lemma isPreviousEnabled : (isPreviousEnabled T).Matches C (isPreviousEnabled T') := by
  refine .get_bind fun w w' hw => ?_
  rw [navigation_of_face (h.face hw)]
  split
  · exact h.hasPrevious
  · exact .pure false

lemma isLast : (isLast T).Matches C (isLast T') := by
  refine .get_bind fun w w' hw => ?_
  rw [index?_of_face (h.face hw)]
  split
  · exact .pure false
  · exact .map _ (h.findNext true)

lemma isValid : (isValid T).Matches C (isValid T') := by
  refine .get_bind fun w w' hw => ?_
  rw [index?_of_face (h.face hw)]
  split
  · exact .pure true
  · exact h.validate _

/-! ### Moves -/

lemma gate (old? : Option Nat) (new : Nat) : (gate T old? new).Matches C (gate T' old? new) := by
  unfold Wizard.gate
  split
  · exact h.isNextEnabled
  · exact .pure true

lemma contribute (old? : Option Nat) (new : Nat) (validated : Bool) :
    (contribute T old? new validated).Matches C (contribute T' old? new validated) := by
  unfold Wizard.contribute depart
  split
  · split
    · split
      · exact h.save _
      · exact .map _ (h.commit _)
    · exact .pure ()
  · exact .pure ()

lemma exchange (old? : Option Nat) (new : Nat) :
    (exchange T old? new).Matches C (exchange T' old? new) := by
  cases old? with
  | none => exact h.enter new
  | some old =>
    refine (h.leave old).bind fun left => ?_
    cases left with
    | true => exact h.enter new
    | false => exact .pure false

lemma conclude (old? : Option Nat) (new : Nat) :
    (conclude T old? new).Matches C (conclude T' old? new) := by
  refine (h.exchange old? new).bind fun agreed => ?_
  cases agreed with
  | true => exact (Matches.modify fun _ _ hw => h.arrive old? new hw).bind fun _ => .pure true
  | false => exact .pure false

lemma switchTo (new : Nat) (validated : Bool) :
    (switchTo T new validated).Matches C (switchTo T' new validated) := by
  rw [switchTo_eq, switchTo_eq]
  refine .get_bind fun w w' hw => ?_
  rw [size_of_face (h.face hw), index?_of_face (h.face hw)]
  split
  · exact .pure false
  · refine (h.gate w.index? new).bind fun enabled => ?_
    cases enabled with
    | true =>
      exact (h.contribute w.index? new validated).bind fun _ =>
        h.refresh.bind fun _ => h.conclude w.index? new
    | false => exact .pure false

lemma next (validate : Bool) : (next T validate).Matches C (next T' validate) := by
  rw [next_eq, next_eq]
  have happrove : (approve T validate).Matches C (approve T' validate) := by
    cases validate with
    | true => exact h.isValid
    | false => exact .pure true
  refine happrove.bind fun approved => ?_
  cases approved with
  | true =>
    refine (h.findNext false).bind fun target? => ?_
    cases target? with
    | some i => exact h.switchTo i validate
    | none => exact .pure false
  | false => exact .pure false

lemma previous : (previous T).Matches C (previous T') := by
  refine h.isPreviousEnabled.bind fun enabled => ?_
  cases enabled with
  | true =>
    refine h.findPrevious.bind fun target? => ?_
    cases target? with
    | some i => exact h.switchTo i false
    | none => exact .pure false
  | false => exact .pure false

lemma goTo (id : String) : (goTo T id).Matches C (goTo T' id) := by
  refine .get_bind fun w w' hw => ?_
  rw [position?_of_face (h.face hw)]
  cases w.position? id with
  | some i => exact h.switchTo i false
  | none => exact .pure false

/-! ### Calls -/

lemma recordAt (is : List Nat) : (recordAt T is).Matches C (recordAt T' is) := by
  induction is with
  | nil => exact .pure []
  | cons i is ih => exact (h.record i).bind fun record => .map _ ih

lemma installationRecord : (installationRecord T).Matches C (installationRecord T') :=
  .get_bind fun _ _ hw => visitedPositions_of_face (h.face hw) ▸ h.recordAt _

lemma ask (q : Query) : (q.perform T).Matches C (q.perform T') := by
  cases q with
  | hasNext => exact h.hasNext
  | hasPrevious => exact h.hasPrevious
  | isLast => exact h.isLast
  | isNextEnabled => exact h.isNextEnabled
  | isPreviousEnabled => exact h.isPreviousEnabled
  | isValid => exact h.isValid

lemma move (m : Move) : (m.perform T).Matches C (m.perform T') := by
  cases m with
  | next validate => exact h.next validate
  | previous => exact h.previous
  | goTo id => exact h.goTo id
  | switchTo i validate => exact h.switchTo i validate

/-- **With corresponding crews every call comes to the same.** -/
theorem perform (c : Call) : (c.perform T).Matches C (c.perform T') := by
  cases c with
  | move m => exact .map _ (h.move m)
  | ask q => exact .map _ (h.ask q)
  | act i validate =>
    cases validate with
    | true => exact .map _ (h.validate i)
    | false => exact .map _ (h.commit i)
  | record => exact .map _ h.installationRecord
  | setNext open' =>
    refine .map _ (.modify fun w w' hw => ?_)
    rw [setNext, setNext, navigation_of_face (h.face hw)]
    exact h.setNavigation _ hw
  | setPrevious open' =>
    refine .map _ (.modify fun w w' hw => ?_)
    rw [setPrevious, setPrevious, navigation_of_face (h.face hw)]
    exact h.setNavigation _ hw
  | adjust f =>
    refine .map _ (.modify fun w w' hw => ?_)
    rw [mapEnv, mapEnv, env_of_face (h.face hw)]
    exact h.setEnv _ hw

end Corresponds

end Wizard

end SetupWizard
