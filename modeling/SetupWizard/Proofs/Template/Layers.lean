/-
# Templates are filled in layers

A placeholder whose variable is not set stays as it is, so that another store can fill it later.
What was put in place of the others is then part of the text.  If these values have no `$`, and the
text has none outside of placeholders, then no placeholder begins where none began before; stray
braces do no harm, because a placeholder ends at the first `}` behind it.  So filling under one
store and then under another is filling once under both (`substitutor_over`).
-/
import Mathlib.Data.List.Infix
import SetupWizard.Proofs.Template.Dangling

namespace SetupWizard

/-- The variables of two stores, where those of the first take precedence. -/
def Store.over (s t : Store) : Store := { s with values := t.values ∪ s.values }

lemma Store.get?_over (s t : Store) (n : String) :
    (s.over t).get? n = (s.get? n).or (t.get? n) :=
  Std.ExtTreeMap.getElem?_union

namespace Template

variable {s a b before after chars name rest : List Char} {pieces : List Piece} {p : Piece}

/-- Every `$` of a text stands inside of a placeholder that is closed. -/
def Enclosed (text : List Char) : Prop :=
  ∀ before after, text = before ++ '$' :: after →
    ∃ front name back, text = front ++ (Piece.placeholder name).write ++ back ∧ '}' ∉ name ∧
      front <+: before ∧ back <:+ after

/-- Texts have no `$`, and names of placeholders do not close them. -/
def Piece.IsClear : Piece → Prop
  | .text chars => '$' ∉ chars
  | .placeholder name => '}' ∉ name

instance : DecidablePred Piece.IsClear
  | .text _ => inferInstanceAs (Decidable (¬ _))
  | .placeholder _ => inferInstanceAs (Decidable (¬ _))

/-! ### Enclosed texts are made of clear pieces -/

lemma not_infix_of_not_mem (h : '$' ∉ s) : ¬ opening <:+: s :=
  fun hopening => h (hopening.subset List.mem_cons_self)

/-- Text without a `}` ends before the first one. -/
lemma suffix_of_not_mem {u x c y : List Char} (hu : '}' ∉ u)
    (h : u ++ '}' :: x = c ++ '}' :: y) : y <:+ x := by
  rcases List.append_eq_append_iff.mp h with ⟨d, -, hd⟩ | ⟨d, rfl, hd⟩
  · cases d with
    | nil =>
      obtain ⟨-, rfl⟩ := List.cons.inj hd
      exact List.suffix_rfl
    | cons e d =>
      obtain ⟨-, rfl⟩ := List.cons.inj hd
      exact (List.suffix_cons '}' y).trans (List.suffix_append d _)
  · cases d with
    | nil =>
      obtain ⟨-, rfl⟩ := List.cons.inj hd
      exact List.suffix_rfl
    | cons e d =>
      -- the `}` of the right side would stand inside `u`
      obtain ⟨rfl, -⟩ := List.cons.inj hd
      simp at hu

/-- The closed placeholder around a `$`, character by character. -/
lemma Enclosed.exists_around (h : Enclosed s) (hs : s = before ++ '$' :: after) :
    ∃ front name back, s = front ++ '$' :: '{' :: (name ++ '}' :: back) ∧ '}' ∉ name ∧
      front <+: before ∧ back <:+ after := by
  simpa [Piece.write] using h before after hs

lemma Enclosed.not_mem_of_plain (h : Enclosed s) (hs : ¬ opening <:+: s) : '$' ∉ s := by
  intro hmem
  obtain ⟨before, after, hsplit⟩ := List.append_of_mem hmem
  obtain ⟨front, name, back, heq, -⟩ := h.exists_around hsplit
  exact hs ⟨front, name ++ '}' :: back, by simp [heq]⟩

/-- The first opening is closed. -/
lemma Enclosed.closed (h : Enclosed (a ++ '$' :: '{' :: b)) (ha : ¬ opening <:+: a) : '}' ∈ b := by
  obtain ⟨front, name, back, heq, -, hfront, -⟩ := h.exists_around rfl
  have hbegins := prefix_of_not_infix ha heq
  obtain rfl : front = a := hfront.eq_of_length_le hbegins.length_le
  obtain rfl : b = name ++ '}' :: back := by simpa using heq
  simp

lemma Enclosed.not_mem_front (h : Enclosed (a ++ '$' :: '{' :: b)) (ha : ¬ opening <:+: a) :
    '$' ∉ a := by
  intro hmem
  obtain ⟨before, after, rfl⟩ := List.append_of_mem hmem
  obtain ⟨front, name, back, heq, -, hfront, -⟩ := h.exists_around (List.append_assoc before _ _)
  -- the placeholder around the `$` would begin before the first opening
  have hbegins := prefix_of_not_infix ha heq
  have hlength := (hbegins.trans hfront).length_le
  simp only [List.length_append, List.length_cons] at hlength
  omega

/-- What follows the first placeholder is enclosed by itself. -/
lemma Enclosed.of_closed (h : Enclosed (a ++ '$' :: '{' :: (name ++ '}' :: rest))) :
    Enclosed rest := by
  rintro before after rfl
  have hsplit : a ++ '$' :: '{' :: (name ++ '}' :: (before ++ '$' :: after)) =
      (a ++ '$' :: '{' :: (name ++ '}' :: before)) ++ '$' :: after := by
    simp
  obtain ⟨front, name', back, heq, hname', hfront, hback⟩ := h.exists_around hsplit
  have heq' : (a ++ '$' :: '{' :: name) ++ '}' :: (before ++ '$' :: after) =
      front ++ (('$' :: '{' :: name') ++ '}' :: back) := by
    simpa using heq
  rcases List.append_eq_append_iff.mp heq' with ⟨c, rfl, hc⟩ | ⟨c, -, hc⟩
  · cases c with
    | nil => simp at hc
    | cons d c =>
      obtain ⟨rfl, hrest⟩ := List.cons.inj hc
      refine ⟨c, name', back, by simpa [Piece.write] using hrest, hname', ?_, hback⟩
      simpa using hfront
  · -- the placeholder around the `$` would end before the first one does
    have hclosing : '}' ∉ '$' :: '{' :: name' := by simp [hname']
    have hsuffix := ((suffix_of_not_mem hclosing hc).trans hback).length_le
    simp only [List.length_append, List.length_cons] at hsuffix
    omega

lemma exists_clear_of_enclosed (h : Enclosed s) :
    ∃ pieces : List Piece, (∀ p ∈ pieces, p.IsClear) ∧ write pieces = s := by
  induction s using reading_induction with
  | plain s hs =>
    refine ⟨[.text s], ?_, by simp [Piece.write]⟩
    rw [List.forall_mem_singleton]
    exact h.not_mem_of_plain hs
  | unclosed a b ha hb => exact absurd (h.closed ha) hb
  | closed a name rest ha hname ih =>
    obtain ⟨pieces, hpieces, rfl⟩ := ih h.of_closed
    refine ⟨.text a :: .placeholder name :: pieces, ?_, by simp [Piece.write]⟩
    rw [List.forall_mem_cons, List.forall_mem_cons]
    exact ⟨h.not_mem_front ha, hname, hpieces⟩

lemma enclosed_write (h : ∀ p ∈ pieces, p.IsClear) : Enclosed (write pieces) := by
  induction pieces with
  | nil =>
    rintro before after hsplit
    simp at hsplit
  | cons p pieces ih =>
    rw [List.forall_mem_cons] at h
    rintro before after hsplit
    rcases List.append_eq_append_iff.mp hsplit with ⟨c, rfl, hc⟩ | ⟨c, hp, hc⟩
    · obtain ⟨front, name, back, heq, hname, hfront, hback⟩ := ih h.2 c after hc
      refine ⟨p.write ++ front, name, back, ?_, hname, ?_, hback⟩
      · rw [write_cons, heq, List.append_assoc, List.append_assoc, List.append_assoc]
      · exact (List.prefix_append_right_inj _).mpr hfront
    · cases c with
      | nil =>
        obtain ⟨front, name, back, heq, hname, hfront, hback⟩ := ih h.2 [] after hc.symm
        obtain rfl := List.prefix_nil.mp hfront
        refine ⟨before, name, back, ?_, hname, List.prefix_refl before, hback⟩
        rw [write_cons, heq, hp]
        simp
      | cons d c =>
        obtain ⟨rfl, rfl⟩ := List.cons.inj hc
        cases p with
        | text chars =>
          have hchars : chars = before ++ '$' :: c := hp
          exact absurd (hchars ▸ by simp) h.1
        | placeholder name =>
          exact ⟨[], name, write pieces, rfl, h.1, List.nil_prefix, List.suffix_append c _⟩

/-! ### Filling clear pieces -/

lemma expand_consText (value? : String → Option String) (chars : List Char) (pieces : List Piece) :
    expand value? (consText chars pieces) = chars ++ expand value? pieces := by
  cases chars <;> rfl

/-- Clear pieces are filled one by one, even if their texts stand next to each other. -/
lemma exists_read_of_clear (h : ∀ p ∈ pieces, p.IsClear) (hchars : '$' ∉ chars) :
    ∃ ps, read (chars ++ write pieces) = .ok ps ∧
      ∀ value?, expand value? ps = chars ++ expand value? pieces := by
  induction pieces generalizing chars with
  | nil =>
    rw [write_nil, List.append_nil, read_plain (not_infix_of_not_mem hchars)]
    exact ⟨_, rfl, fun value? => expand_consText value? chars []⟩
  | cons p pieces ih =>
    rw [List.forall_mem_cons] at h
    cases p with
    | text cs =>
      have hboth : '$' ∉ chars ++ cs := by simp [hchars, show '$' ∉ cs from h.1]
      obtain ⟨ps, hread, hexpand⟩ := ih h.2 hboth
      refine ⟨ps, ?_, fun value? => ?_⟩
      · rw [write_cons, ← List.append_assoc]
        exact hread
      · rw [hexpand, List.append_assoc]
        rfl
    | placeholder name =>
      obtain ⟨ps, hread, hexpand⟩ := ih h.2 (List.not_mem_nil : '$' ∉ [])
      rw [List.nil_append] at hread
      have hwritten : chars ++ write (.placeholder name :: pieces) =
          chars ++ '$' :: '{' :: (name ++ '}' :: write pieces) := by
        simp [Piece.write]
      rw [hwritten, read_closed (not_infix_of_not_mem hchars) h.1, hread]
      refine ⟨_, rfl, fun value? => ?_⟩
      rw [expand_consText, expand_cons, expand_cons, hexpand, List.nil_append]

lemma substitutor_of_clear {text : String} (h : ∀ p ∈ pieces, p.IsClear)
    (hwrite : write pieces = text.toList) (store : Store) :
    substitutor store text = .ok (String.ofList (expand store.get? pieces)) := by
  obtain ⟨ps, hread, hexpand⟩ := exists_read_of_clear h (List.not_mem_nil : '$' ∉ [])
  rw [List.nil_append, hwrite] at hread
  rw [substitutor, hread]
  simp [hexpand]

/-! ### What is left over -/

/-- The piece that is left over: the value of the variable becomes text. -/
def Piece.resolve (value? : String → Option String) : Piece → Piece
  | .text chars => .text chars
  | .placeholder name =>
    match value? (String.ofList name) with
    | some value => .text value.toList
    | none => .placeholder name

section

variable {value? later? : String → Option String}

lemma Piece.write_resolve (p : Piece) : (p.resolve value?).write = p.expand value? := by
  cases p with
  | text chars => rfl
  | placeholder name => cases h : value? (String.ofList name) <;> simp [resolve, expand, h, write]

lemma Piece.IsClear.resolve (h : p.IsClear)
    (hvalues : ∀ n value, value? n = some value → '$' ∉ value.toList) :
    (p.resolve value?).IsClear := by
  cases p with
  | text chars => exact h
  | placeholder name =>
    rw [Piece.resolve]
    cases hvalue : value? (String.ofList name) with
    | none => exact h
    | some value => exact hvalues _ value hvalue

lemma Piece.expand_resolve (p : Piece) : (p.resolve value?).expand later? =
    p.expand fun n => (value? n).or (later? n) := by
  cases p with
  | text chars => rfl
  | placeholder name => cases h : value? (String.ofList name) <;> simp [resolve, expand, h]

lemma write_map_resolve (pieces : List Piece) :
    write (pieces.map (Piece.resolve value?)) = expand value? pieces := by
  simp [write, expand, List.flatMap_map, Piece.write_resolve]

lemma expand_map_resolve (pieces : List Piece) :
    expand later? (pieces.map (Piece.resolve value?)) =
      expand (fun n => (value? n).or (later? n)) pieces := by
  simp [expand, List.flatMap_map, Piece.expand_resolve]

end

/-- What is left over after one store is filled by the next as the whole would be by both. -/
lemma substitutor_left_over {store : Store} (h : ∀ p ∈ pieces, p.IsClear)
    (hvalues : ∀ n value, store.get? n = some value → '$' ∉ value.toList) (later : Store) :
    substitutor later (String.ofList (expand store.get? pieces)) =
      .ok (String.ofList (expand (fun n => (store.get? n).or (later.get? n)) pieces)) := by
  have hclear : ∀ p ∈ pieces.map (Piece.resolve store.get?), p.IsClear := by
    rw [List.forall_mem_map]
    exact fun p hp => (h p hp).resolve hvalues
  rw [substitutor_of_clear hclear (by rw [write_map_resolve, String.toList_ofList]),
    expand_map_resolve]

/-! ### Main result -/

/-- **Templates are filled in layers.**  Where every `$` of a text stands inside of a closed
placeholder and no value of the first store has a `$`, the text can be filled under the first store,
and the result under any other, which gives what filling the text once gives under both with the
values of the first store preferred.  Filling the result under the first store again changes
nothing. -/
theorem substitutor_over (s t : Store) (text : String) (htext : Enclosed text.toList)
    (hvalues : ∀ n value, s.get? n = some value → '$' ∉ value.toList) :
    ∃ filled, substitutor s text = .ok filled ∧
      (∃ result, substitutor t filled = .ok result ∧ substitutor (s.over t) text = .ok result) ∧
      substitutor s filled = .ok filled := by
  obtain ⟨pieces, hpieces, hwrite⟩ := exists_clear_of_enclosed htext
  refine ⟨_, substitutor_of_clear hpieces hwrite s,
    ⟨_, substitutor_left_over hpieces hvalues t, ?_⟩, ?_⟩
  · have hover : (s.over t).get? = fun n => (s.get? n).or (t.get? n) :=
      funext (Store.get?_over s t)
    rw [substitutor_of_clear hpieces hwrite, hover]
  · rw [substitutor_left_over hpieces hvalues]
    simp

/-- A text with a stray brace on either side of a placeholder, and a second placeholder whose name
looks like an opening. -/
def strayBraces : String := "\x7b$\x7bA\x7d\x7d$\x7bB$\x7b\x7d"

/-- A value that consists of stray braces comes to stand between them, and the first store has no
value for the second placeholder. -/
theorem substitutor_over_strayBraces :
    let first : Store := .ofList [("A", "\x7d\x7b")]
    let second : Store := .ofList [("A", "other"), ("B$\x7b", "$")]
    Enclosed strayBraces.toList ∧
      (∀ n value, first.get? n = some value → '$' ∉ value.toList) ∧
      substitutor first strayBraces = .ok "\x7b\x7d\x7b\x7d$\x7bB$\x7b\x7d" ∧
      substitutor second "\x7b\x7d\x7b\x7d$\x7bB$\x7b\x7d" = .ok "\x7b\x7d\x7b\x7d$" ∧
      substitutor (first.over second) strayBraces = .ok "\x7b\x7d\x7b\x7d$" := by
  intro first second
  have henclosed : Enclosed strayBraces.toList := by
    have hclear : ∀ p ∈ [.text ['{'], .placeholder ['A'], .text ['}'],
        .placeholder ['B', '$', '{']], Piece.IsClear p := by decide
    exact enclosed_write hclear
  have hvalues : ∀ n value, first.get? n = some value → '$' ∉ value.toList := by
    intro n value hvalue
    have hset : n = "A" ∧ "\x7d\x7b" = value := by
      simpa [first, Store.ofList, Store.extend, Store.get?_set, eq_comm] using hvalue
    rw [← hset.2]
    decide
  have hfilled : substitutor first strayBraces = .ok "\x7b\x7d\x7b\x7d$\x7bB$\x7b\x7d" := by
    decide +kernel
  have hsecond : substitutor second "\x7b\x7d\x7b\x7d$\x7bB$\x7b\x7d" =
      .ok "\x7b\x7d\x7b\x7d$" := by
    decide +kernel
  obtain ⟨filled, hfirst, ⟨result, hresult, hover⟩, -⟩ :=
    substitutor_over first second strayBraces henclosed hvalues
  obtain rfl := Except.ok.inj (hfirst.symm.trans hfilled)
  obtain rfl := Except.ok.inj (hresult.symm.trans hsecond)
  exact ⟨henclosed, hvalues, hfilled, hsecond, hover⟩

end Template

end SetupWizard
