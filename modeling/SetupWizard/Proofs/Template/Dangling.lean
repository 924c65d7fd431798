/-
# Where a template breaks off

Substitution goes through a text placeholder by placeholder.  Each one that is closed ends with a
`}`, so an opening that has no `}` behind it is never inside such a placeholder, and the first one
of these is where the reading stops.  This is said of the text alone: whether substitution fails,
and where, does not depend on the variables.
-/
import Mathlib.Order.Bounds.Image
import Mathlib.Order.Lattice.Nat
import SetupWizard.Proofs.Template.Reading

namespace SetupWizard.Template

variable {s a b before after rest : List Char} {n : Nat}

/-- The bytes at which a text has a `${` behind its last `}`: no `}` follows there. -/
def danglingOffsets (s : List Char) : Set Nat :=
  {n | ∃ before after, s = before ++ opening ++ after ∧ '}' ∉ after ∧
    (String.ofList before).utf8ByteSize = n}

lemma byteCount_eq (s : List Char) : byteCount s = (String.ofList s).utf8ByteSize := by
  induction s with
  | nil => rfl
  | cons c s ih =>
    rw [byteCount, ih, String.ofList_cons, String.utf8ByteSize_append,
      String.utf8ByteSize_singleton]

lemma byteCount_append (a b : List Char) : byteCount (a ++ b) = byteCount a + byteCount b := by
  rw [byteCount_eq, byteCount_eq, byteCount_eq, String.ofList_append, String.utf8ByteSize_append]

lemma mem_danglingOffsets : n ∈ danglingOffsets s ↔
    ∃ before after, s = before ++ '$' :: '{' :: after ∧ '}' ∉ after ∧ byteCount before = n := by
  simp [danglingOffsets, byteCount_eq]

/-! ### The three kinds of texts -/

lemma danglingOffsets_plain (h : ¬ opening <:+: s) : danglingOffsets s = ∅ := by
  rw [Set.eq_empty_iff_forall_notMem]
  rintro n ⟨before, after, rfl, -⟩
  exact h ⟨before, after, rfl⟩

/-- Text without an opening ends before the first opening. -/
lemma prefix_of_not_infix (ha : ¬ opening <:+: a)
    (h : a ++ '$' :: '{' :: b = before ++ '$' :: '{' :: after) : a <+: before := by
  rcases List.append_eq_append_iff.mp h with ⟨c, rfl, -⟩ | ⟨c, rfl, hc⟩
  · exact List.prefix_append a c
  · -- the opening of the right side would begin inside `a`
    match c with
    | [] => simp
    | [d] =>
      obtain ⟨-, htail⟩ := List.cons.inj hc
      simp at htail
    | d :: e :: c =>
      obtain ⟨rfl, htail⟩ := List.cons.inj hc
      obtain ⟨rfl, -⟩ := List.cons.inj htail
      exact absurd ⟨before, c, by simp⟩ ha

lemma isLeast_danglingOffsets_unclosed (ha : ¬ opening <:+: a) (hb : '}' ∉ b) :
    IsLeast (danglingOffsets (a ++ '$' :: '{' :: b)) (byteCount a) := by
  constructor
  · exact mem_danglingOffsets.mpr ⟨a, b, rfl, hb, rfl⟩
  · intro n hn
    obtain ⟨before, after, heq, -, rfl⟩ := mem_danglingOffsets.mp hn
    obtain ⟨c, rfl⟩ := prefix_of_not_infix ha heq
    rw [byteCount_append]
    exact Nat.le_add_right _ _

/-- Behind a `}` a text goes on as if it began there. -/
lemma danglingOffsets_append_closing (a rest : List Char) : danglingOffsets (a ++ '}' :: rest) =
    (byteCount (a ++ ['}']) + ·) '' danglingOffsets rest := by
  ext n
  rw [Set.mem_image, mem_danglingOffsets]
  constructor
  · rintro ⟨before, after, heq, hafter, rfl⟩
    rcases List.append_eq_append_iff.mp heq with ⟨c, rfl, hc⟩ | ⟨c, -, hc⟩
    · cases c with
      | nil => simp at hc
      | cons d c =>
        obtain ⟨rfl, rfl⟩ := List.cons.inj hc
        refine ⟨byteCount c, mem_danglingOffsets.mpr ⟨c, after, rfl, hafter, rfl⟩, ?_⟩
        rw [← byteCount_append, List.append_assoc, List.singleton_append]
    · -- the `}` would stand behind the opening
      have hmem : '}' ∈ '$' :: '{' :: after := by simp [hc]
      simp [hafter] at hmem
  · rintro ⟨m, hm, rfl⟩
    obtain ⟨before, after, rfl, hafter, rfl⟩ := mem_danglingOffsets.mp hm
    exact ⟨a ++ '}' :: before, after, by simp, hafter, by simp [← byteCount_append]⟩

lemma isLeast_image_add_iff {offsets : Set Nat} {k : Nat} :
    IsLeast ((k + ·) '' offsets) n ↔ ∃ m, IsLeast offsets m ∧ k + m = n := by
  constructor
  · rintro ⟨⟨m, hm, rfl⟩, hle⟩
    exact ⟨m, ⟨hm, fun m' hm' => Nat.le_of_add_le_add_left (hle ⟨m', hm', rfl⟩)⟩, rfl⟩
  · rintro ⟨m, hm, rfl⟩
    have hmono : Monotone (k + ·) := fun _ _ hle => Nat.add_le_add_left hle k
    exact hmono.map_isLeast hm

/-- Reading stops at the first opening behind the last `}`. -/
lemma read_eq_error_iff : read s = .error n ↔ IsLeast (danglingOffsets s) n := by
  induction s using reading_induction generalizing n with
  | plain s hs =>
    rw [read_plain hs, danglingOffsets_plain hs]
    simp [IsLeast]
  | unclosed a b ha hb =>
    have hleast := isLeast_danglingOffsets_unclosed ha hb
    rw [read_unclosed ha hb, Except.error.injEq]
    exact ⟨fun h => h ▸ hleast, fun h => hleast.unique h⟩
  | closed a name rest ha hname ih =>
    have hsplit : a ++ '$' :: '{' :: (name ++ '}' :: rest) =
        (a ++ '$' :: '{' :: name) ++ '}' :: rest := by simp
    have hcount : byteCount a + byteCount (Piece.placeholder name).write =
        byteCount ((a ++ '$' :: '{' :: name) ++ ['}']) := by
      simp [← byteCount_append, Piece.write]
    rw [read_closed ha hname, hcount, hsplit, danglingOffsets_append_closing,
      isLeast_image_add_iff]
    simp only [← ih]
    cases read rest <;> simp

/-! ### Main result -/

lemma substitutor_eq_error_iff {store : Store} {text : String} {e : SubstitutionError} :
    substitutor store text = .error e ↔
      ∃ n, IsLeast (danglingOffsets text.toList) n ∧ .unterminated text n = e := by
  simp only [← read_eq_error_iff, substitutor]
  cases read text.toList <;> simp

/-- **Substitution fails exactly at a dangling placeholder.**  It fails if and only if the text has
a `${` behind its last `}`, and then it names the first such one by its byte in the text.  The
variables have no part in this, and replacing leaves such a text as it is. -/
theorem substitutor_error (store : Store) (text : String) :
    ((∃ e, substitutor store text = .error e) ↔ (danglingOffsets text.toList).Nonempty) ∧
      (∀ e, substitutor store text = .error e ↔
        ∃ n, IsLeast (danglingOffsets text.toList) n ∧ .unterminated text n = e) ∧
      (∀ store' e, substitutor store text = .error e ↔ substitutor store' text = .error e) ∧
      ((danglingOffsets text.toList).Nonempty →
        Substitutor.replace substitutor store text = text) := by
  have hfails : (∃ e, substitutor store text = .error e) ↔
      (danglingOffsets text.toList).Nonempty := by
    constructor
    · rintro ⟨e, he⟩
      obtain ⟨n, hn, -⟩ := substitutor_eq_error_iff.mp he
      exact ⟨n, hn.1⟩
    · intro h
      exact ⟨_, substitutor_eq_error_iff.mpr ⟨_, isLeast_csInf h, rfl⟩⟩
  refine ⟨hfails, fun e => substitutor_eq_error_iff, fun store' e => ?_, fun h => ?_⟩
  · rw [substitutor_eq_error_iff, substitutor_eq_error_iff]
  · obtain ⟨e, he⟩ := hfails.mpr h
    rw [Substitutor.replace, he]

/-- A text with a placeholder that is closed and two that are not, behind a character of two
bytes. -/
def brokenOff : String := "é$\x7bA\x7d$\x7bb$\x7bc"

/-- It is the first of the two that is named. -/
theorem substitutor_error_of_brokenOff :
    (danglingOffsets brokenOff.toList).Nonempty ∧
      substitutor (.ofList [("A", "1")]) brokenOff = .error (.unterminated brokenOff 6) ∧
      IsLeast (danglingOffsets brokenOff.toList) 6 ∧
      Substitutor.replace substitutor (.ofList [("A", "1")]) brokenOff = brokenOff := by
  obtain ⟨hfails, herror, -, hreplace⟩ := substitutor_error (.ofList [("A", "1")]) brokenOff
  have herror6 : substitutor (.ofList [("A", "1")]) brokenOff =
      .error (.unterminated brokenOff 6) := by decide +kernel
  have hdangling : (danglingOffsets brokenOff.toList).Nonempty := hfails.mp ⟨_, herror6⟩
  obtain ⟨n, hleast, heq⟩ := (herror _).mp herror6
  obtain ⟨-, rfl⟩ := SubstitutionError.unterminated.inj heq
  exact ⟨hdangling, herror6, hleast, hreplace hdangling⟩

end SetupWizard.Template
