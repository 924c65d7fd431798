/-
# Templates are read as they are written

A text stands for a template if it is made of texts without `${` and of placeholders, whose names
have no `}`.  Reading cuts a text at the first `${`, and what follows at the first `}`, and goes on
behind it.  A text without `${` in front of a placeholder cannot hide the `${` of the placeholder,
not even if it ends in `$`, and neither can a name without `}` hide the end; so the cuts fall where
the pieces meet, and each text is the written form of at most one template.
-/
import Mathlib.Data.List.Chain
import Mathlib.Data.List.Infix
import SetupWizard.Template

namespace SetupWizard.Template

variable {s a b chars name rest : List Char} {pieces : List Piece} {p : Piece}

/-! ### The cuts -/

/-- What opens a placeholder. -/
abbrev opening : List Char := ['$', '{']

lemma cutAtOpening_cons {c : Char} (h : ¬ opening <+: c :: s) :
    cutAtOpening (c :: s) = (cutAtOpening s).map fun cut => (c :: cut.1, cut.2) := by
  rw [cutAtOpening]
  rintro rest rfl rfl
  exact h ⟨rest, rfl⟩

lemma cutAtOpening_eq_none_iff : cutAtOpening s = none ↔ ¬ opening <:+: s := by
  fun_induction cutAtOpening s with
  | case1 => simp
  | case2 rest =>
    simp only [reduceCtorEq, false_iff, not_not]
    exact ⟨[], rest, rfl⟩
  | case3 c rest hrest ih =>
    rw [Option.map_eq_none_iff, ih, List.infix_cons_iff, not_or, iff_and_self]
    rintro - ⟨tail, htail⟩
    obtain ⟨rfl, hrest'⟩ := List.cons.inj htail
    exact hrest tail rfl hrest'.symm

/-- A text is cut at the first opening in it. -/
lemma cutAtOpening_append (h : ¬ opening <:+: a) (b : List Char) :
    cutAtOpening (a ++ '$' :: '{' :: b) = some (a, b) := by
  induction a with
  | nil => rfl
  | cons c a ih =>
    rw [List.infix_cons_iff, not_or] at h
    rw [List.cons_append, cutAtOpening_cons, ih h.2, Option.map_some]
    -- the last character of the text and the opening do not make another opening
    rintro ⟨tail, htail⟩
    cases a with
    | nil => simp at htail
    | cons d a =>
      obtain ⟨rfl, hd⟩ := List.cons.inj htail
      obtain ⟨rfl, -⟩ := List.cons.inj hd
      exact h.1 ⟨a, rfl⟩

lemma not_infix_of_cutAtOpening (h : cutAtOpening s = some (a, b)) : ¬ opening <:+: a := by
  fun_induction cutAtOpening s generalizing a with
  | case1 => simp at h
  | case2 rest =>
    obtain ⟨rfl, -⟩ := Prod.mk.inj (Option.some.inj h)
    simp
  | case3 c rest hrest ih =>
    obtain ⟨⟨a', b'⟩, hcut, heq⟩ := Option.map_eq_some_iff.mp h
    simp only [Prod.mk.injEq] at heq
    obtain ⟨rfl, rfl⟩ := heq
    rw [List.infix_cons_iff, not_or]
    refine ⟨?_, ih hcut⟩
    rintro ⟨tail, htail⟩
    obtain ⟨rfl, ha⟩ := List.cons.inj htail
    have hs : rest = '{' :: (tail ++ '$' :: '{' :: b') := by
      rw [eq_of_cutAtOpening hcut, ← ha]
      rfl
    exact hrest _ rfl hs

lemma cutAtClosing_cons {c : Char} (h : c ≠ '}') :
    cutAtClosing (c :: s) = (cutAtClosing s).map fun cut => (c :: cut.1, cut.2) := by
  rw [cutAtClosing]
  exact h

lemma cutAtClosing_eq_none_iff : cutAtClosing s = none ↔ '}' ∉ s := by
  fun_induction cutAtClosing s with
  | case1 => simp
  | case2 rest => simp
  | case3 c rest hc ih => simp [ih, Ne.symm hc]

/-- A text is cut at the first `}` in it. -/
lemma cutAtClosing_append (h : '}' ∉ a) (b : List Char) :
    cutAtClosing (a ++ '}' :: b) = some (a, b) := by
  induction a with
  | nil => rfl
  | cons c a ih =>
    obtain ⟨hc, ha⟩ := List.ne_and_not_mem_of_not_mem_cons h
    rw [List.cons_append, cutAtClosing_cons hc.symm, ih ha, Option.map_some]

lemma not_mem_of_cutAtClosing (h : cutAtClosing s = some (a, b)) : '}' ∉ a := by
  fun_induction cutAtClosing s generalizing a with
  | case1 => simp at h
  | case2 rest =>
    obtain ⟨rfl, -⟩ := Prod.mk.inj (Option.some.inj h)
    simp
  | case3 c rest hc ih =>
    obtain ⟨⟨a', b'⟩, hcut, heq⟩ := Option.map_eq_some_iff.mp h
    simp only [Prod.mk.injEq] at heq
    obtain ⟨rfl, rfl⟩ := heq
    exact List.not_mem_cons_of_ne_of_not_mem (Ne.symm hc) (ih hcut)

/-! ### One placeholder after the other -/

/-- Every text is of one of three kinds: it opens no placeholder, or it does not close the first one
that it opens, or it goes on behind the first one. -/
@[elab_as_elim]
lemma reading_induction {motive : List Char → Prop}
    (plain : ∀ s, ¬ opening <:+: s → motive s)
    (unclosed : ∀ a b, ¬ opening <:+: a → '}' ∉ b → motive (a ++ '$' :: '{' :: b))
    (closed : ∀ a name rest, ¬ opening <:+: a → '}' ∉ name → motive rest →
      motive (a ++ '$' :: '{' :: (name ++ '}' :: rest))) (s : List Char) : motive s := by
  induction hlength : s.length using Nat.strongRecOn generalizing s with
  | ind n ih =>
    cases hopen : cutAtOpening s with
    | none => exact plain s (cutAtOpening_eq_none_iff.mp hopen)
    | some cut =>
      obtain ⟨a, b⟩ := cut
      obtain rfl := eq_of_cutAtOpening hopen
      cases hclose : cutAtClosing b with
      | none =>
        exact unclosed a b (not_infix_of_cutAtOpening hopen) (cutAtClosing_eq_none_iff.mp hclose)
      | some cut =>
        obtain ⟨name, rest⟩ := cut
        obtain rfl := eq_of_cutAtClosing hclose
        refine closed a name rest (not_infix_of_cutAtOpening hopen)
          (not_mem_of_cutAtClosing hclose) (ih _ ?_ rest rfl)
        rw [← hlength]
        simp only [List.length_append, List.length_cons]
        omega

lemma read_plain (h : ¬ opening <:+: s) : read s = .ok (consText s []) := by
  rw [read]
  split
  next => rfl
  next hcut => exact absurd (hcut.symm.trans (cutAtOpening_eq_none_iff.mpr h)) (by simp)

lemma read_unclosed (ha : ¬ opening <:+: a) (hb : '}' ∉ b) :
    read (a ++ '$' :: '{' :: b) = .error (byteCount a) := by
  rw [read]
  split
  next hnone => exact absurd (hnone.symm.trans (cutAtOpening_append ha b)) (by simp)
  next hcut =>
    obtain ⟨rfl, rfl⟩ := Prod.mk.inj (Option.some.inj (hcut.symm.trans (cutAtOpening_append ha b)))
    split
    next => rfl
    next hcut' => exact absurd (hcut'.symm.trans (cutAtClosing_eq_none_iff.mpr hb)) (by simp)

lemma read_closed (ha : ¬ opening <:+: a) (hname : '}' ∉ name) (rest : List Char) :
    read (a ++ '$' :: '{' :: (name ++ '}' :: rest)) = match read rest with
      | .ok pieces => .ok (consText a (.placeholder name :: pieces))
      | .error offset =>
        .error (byteCount a + byteCount (Piece.placeholder name).write + offset) := by
  have hopen := cutAtOpening_append ha (name ++ '}' :: rest)
  have hclose := cutAtClosing_append hname rest
  rw [read]
  split
  next hnone => exact absurd (hnone.symm.trans hopen) (by simp)
  next hcut =>
    obtain ⟨rfl, rfl⟩ := Prod.mk.inj (Option.some.inj (hcut.symm.trans hopen))
    split
    next hnone => exact absurd (hnone.symm.trans hclose) (by simp)
    next hcut' =>
      obtain ⟨rfl, rfl⟩ := Prod.mk.inj (Option.some.inj (hcut'.symm.trans hclose))
      rfl

/-! ### Templates -/

/-- Whether a piece is text. -/
def Piece.isText : Piece → Bool
  | .text _ => true
  | .placeholder _ => false

/-- Texts are not empty and open no placeholder, and names of placeholders do not close them. -/
def Piece.IsSound : Piece → Prop
  | .text chars => chars ≠ [] ∧ ¬ opening <:+: chars
  | .placeholder name => '}' ∉ name

instance : DecidablePred Piece.IsSound
  | .text _ => inferInstanceAs (Decidable (_ ∧ _))
  | .placeholder _ => inferInstanceAs (Decidable (¬ _))

/-- The pieces form a template: each is sound, and no two texts stand next to each other. -/
structure WellFormed (pieces : List Piece) : Prop where
  sound : ∀ p ∈ pieces, p.IsSound
  apart : pieces.IsChain fun p q => ¬ (p.isText ∧ q.isText)

instance : DecidablePred WellFormed := fun _ =>
  decidable_of_iff (_ ∧ _)
    ⟨fun ⟨sound, apart⟩ => ⟨sound, apart⟩, fun ⟨sound, apart⟩ => ⟨sound, apart⟩⟩

lemma wellFormed_nil : WellFormed [] := ⟨by simp, .nil⟩

lemma wellFormed_cons_iff : WellFormed (p :: pieces) ↔
    p.IsSound ∧ (∀ q ∈ pieces.head?, ¬ (p.isText ∧ q.isText)) ∧ WellFormed pieces := by
  constructor
  · rintro ⟨hsound, hapart⟩
    rw [List.forall_mem_cons] at hsound
    rw [List.isChain_cons] at hapart
    exact ⟨hsound.1, hapart.1, hsound.2, hapart.2⟩
  · rintro ⟨hp, hnext, hsound, hapart⟩
    exact ⟨List.forall_mem_cons.mpr ⟨hp, hsound⟩, List.isChain_cons.mpr ⟨hnext, hapart⟩⟩

lemma consText_of_ne_nil (h : chars ≠ []) : consText chars pieces = .text chars :: pieces := by
  cases chars with
  | nil => exact absurd rfl h
  | cons c chars => rfl

/-- Text in front of a template that begins with a placeholder, or with nothing, is a piece of its
own. -/
lemma WellFormed.consText (h : WellFormed pieces) (hchars : ¬ opening <:+: chars)
    (hnext : ∀ q ∈ pieces.head?, q.isText = false) : WellFormed (consText chars pieces) := by
  cases chars with
  | nil => exact h
  | cons c chars =>
    exact wellFormed_cons_iff.mpr
      ⟨⟨List.cons_ne_nil c chars, hchars⟩, fun q hq => by simp [hnext q hq], h⟩

/-- What is read is a template, and its written form is what was read. -/
lemma wellFormed_of_read (h : read s = .ok pieces) : WellFormed pieces ∧ write pieces = s := by
  induction s using reading_induction generalizing pieces with
  | plain s hs =>
    rw [read_plain hs] at h
    obtain rfl := Except.ok.inj h
    exact ⟨wellFormed_nil.consText hs (by simp), by simp⟩
  | unclosed a b ha hb =>
    rw [read_unclosed ha hb] at h
    cases h
  | closed a name rest ha hname ih =>
    rw [read_closed ha hname] at h
    cases hrest : read rest with
    | error offset =>
      rw [hrest] at h
      cases h
    | ok ps =>
      rw [hrest] at h
      obtain rfl := Except.ok.inj h
      obtain ⟨hps, hwrite⟩ := ih hrest
      have hplaceholder : WellFormed (.placeholder name :: ps) :=
        wellFormed_cons_iff.mpr ⟨hname, by simp [Piece.isText], hps⟩
      exact ⟨hplaceholder.consText ha (by simp [Piece.isText]), by simp [Piece.write, hwrite]⟩

/-- A template is read off its written form, also behind a text that is not part of it. -/
lemma read_append_write (h : WellFormed pieces) (hchars : ¬ opening <:+: chars)
    (hnext : chars ≠ [] → ∀ q ∈ pieces.head?, q.isText = false) :
    read (chars ++ write pieces) = .ok (consText chars pieces) := by
  induction pieces generalizing chars with
  | nil =>
    rw [write_nil, List.append_nil]
    exact read_plain hchars
  | cons p pieces ih =>
    obtain ⟨hp, hapart, hpieces⟩ := wellFormed_cons_iff.mp h
    cases p with
    | text cs =>
      -- a text comes first, so there are no characters in front of it
      have hnil : chars = [] := by
        by_contra hne
        simpa [Piece.isText] using hnext hne
      subst hnil
      have hread : read (cs ++ write pieces) = .ok (consText cs pieces) :=
        ih hpieces hp.2 fun _ q hq => by simpa [Piece.isText] using hapart q hq
      rw [consText_of_ne_nil hp.1] at hread
      exact hread
    | placeholder name =>
      have hrest : read (write pieces) = .ok pieces :=
        ih hpieces (by simp : ¬ opening <:+: []) (fun hne => absurd rfl hne)
      have hwritten : chars ++ write (.placeholder name :: pieces) =
          chars ++ '$' :: '{' :: (name ++ '}' :: write pieces) := by
        simp [Piece.write]
      rw [hwritten, read_closed hchars hp, hrest]

/-! ### Main result -/

/-- How a piece stands in a text. -/
def Piece.written : Piece → String
  | .text chars => String.ofList chars
  | .placeholder name => "$\x7b" ++ String.ofList name ++ "\x7d"

/-- What stands for a piece after substitution: the value of the variable for a placeholder, if it
is set, and otherwise the piece itself. -/
def Piece.filled (store : Store) : Piece → String
  | .text chars => String.ofList chars
  | .placeholder name =>
    (store.get? (String.ofList name)).getD (Piece.placeholder name).written

lemma Piece.toList_written (p : Piece) : p.written.toList = p.write := by
  cases p <;> simp [Piece.written, Piece.write]

lemma Piece.toList_filled (store : Store) (p : Piece) :
    (p.filled store).toList = p.expand store.get? := by
  cases p with
  | text chars => simp [Piece.filled, Piece.expand]
  | placeholder name =>
    cases h : store.get? (String.ofList name) <;>
      simp [Piece.filled, Piece.expand, h, Piece.toList_written]

lemma toList_join_written (pieces : List Piece) :
    (String.join (pieces.map Piece.written)).toList = write pieces := by
  simp [String.toList_join, List.flatMap_map, Piece.toList_written, write]

lemma ofList_expand (store : Store) (pieces : List Piece) :
    String.ofList (expand store.get? pieces) = String.join (pieces.map (Piece.filled store)) := by
  apply String.toList_injective
  simp [String.toList_join, List.flatMap_map, Piece.toList_filled, expand]

/-- The written form of a template is read as that template. -/
lemma WellFormed.read_written (h : WellFormed pieces) :
    read (String.join (pieces.map Piece.written)).toList = .ok pieces := by
  rw [toList_join_written]
  exact read_append_write h (by simp : ¬ opening <:+: []) (fun hne => absurd rfl hne)

/-- **Substitution fills templates.**  The written form of a template is substituted piece by piece:
texts stay, placeholders become the values of their variables as they are, and placeholders of
variables that are not set stay.  And whatever text can be substituted, it is the written form of
exactly one template. -/
theorem substitutor_written :
    (∀ pieces, WellFormed pieces → ∀ store,
        substitutor store (String.join (pieces.map Piece.written)) =
          .ok (String.join (pieces.map (Piece.filled store)))) ∧
      ∀ store text result, substitutor store text = .ok result →
        ∃! pieces, WellFormed pieces ∧ String.join (pieces.map Piece.written) = text := by
  constructor
  · intro pieces h store
    rw [substitutor, h.read_written]
    simp [ofList_expand]
  · intro store text result h
    cases hread : read text.toList with
    | error offset => simp [substitutor, hread] at h
    | ok pieces =>
      obtain ⟨hpieces, hwrite⟩ := wellFormed_of_read hread
      refine ⟨pieces, ⟨hpieces, ?_⟩, ?_⟩
      · exact String.toList_injective ((toList_join_written pieces).trans hwrite)
      · rintro pieces' ⟨hpieces', rfl⟩
        exact Except.ok.inj (hpieces'.read_written.symm.trans hread)

/-- A template whose pieces look like one another: a text that ends in `$` in front of a
placeholder whose name has an opening in it, then a placeholder without a name. -/
def lookalikes : List Piece :=
  [.text ['a', '$'], .placeholder ['X', '$', '{', 'Y'], .placeholder [], .text ['{', '$']]

/-- A value that looks like a placeholder stays as it is. -/
theorem substitutor_written_lookalikes :
    WellFormed lookalikes ∧
      substitutor (.ofList [("X$\x7bY", "$\x7bZ\x7d"), ("Z", "z")])
          "a$$\x7bX$\x7bY\x7d$\x7b\x7d\x7b$" = .ok "a$$\x7bZ\x7d$\x7b\x7d\x7b$" ∧
      ∃! pieces, WellFormed pieces ∧
        String.join (pieces.map Piece.written) = "a$$\x7bX$\x7bY\x7d$\x7b\x7d\x7b$" := by
  have hpieces : WellFormed lookalikes := by decide
  have hfilled := substitutor_written.1 lookalikes hpieces
    (.ofList [("X$\x7bY", "$\x7bZ\x7d"), ("Z", "z")])
  have hwritten : String.join (lookalikes.map Piece.written) =
      "a$$\x7bX$\x7bY\x7d$\x7b\x7d\x7b$" := by decide +kernel
  have hresult : String.join (lookalikes.map (Piece.filled
      (.ofList [("X$\x7bY", "$\x7bZ\x7d"), ("Z", "z")]))) =
      "a$$\x7bZ\x7d$\x7b\x7d\x7b$" := by decide +kernel
  rw [hwritten, hresult] at hfilled
  exact ⟨hpieces, hfilled, substitutor_written.2 _ _ _ hfilled⟩

end SetupWizard.Template
