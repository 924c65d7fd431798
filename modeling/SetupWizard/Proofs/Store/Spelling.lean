/-
# What typed values are read from

A variable holds a truth value or a whole number if its text, without the blanks around it, spells
one.  Truth values are spelled in letters of either case (`truth?_eq_some_iff`) and whole numbers as
numerals, of which those in the range of the type count.  All other texts stand for nothing, and
then the reader has its own default (`typed_of_spelling`).
-/
import Mathlib.Data.List.Forall2
import SetupWizard.Store.Typed
import SetupWizard.Proofs.Decimal.Numeral

namespace SetupWizard

variable {cs core lead trail word : List Char} {c letter : Char} {z : Int}

/-! ### Blanks around a text -/

namespace Text

/-- To drop blanks stops where a text without blanks begins. -/
lemma dropWhile_append_of_blank (hlead : ∀ c ∈ lead, isBlank c = true)
    (hcore : ∀ c ∈ core, isBlank c = false) (hne : core ≠ []) (rest : List Char) :
    (lead ++ (core ++ rest)).dropWhile isBlank = core ++ rest := by
  rw [List.dropWhile_append_of_pos hlead]
  cases core with
  | nil => exact absurd rfl hne
  | cons c core => exact List.dropWhile_cons_of_neg (by simp [hcore c List.mem_cons_self])

/-- Trimming takes away what is blank in front of a text without blanks, and behind it. -/
lemma trim_surrounded (hlead : ∀ c ∈ lead, isBlank c = true)
    (htrail : ∀ c ∈ trail, isBlank c = true) (hcore : ∀ c ∈ core, isBlank c = false)
    (hne : core ≠ []) :
    trim (lead ++ (core ++ trail)) = core := by
  have hback : (trail.reverse ++ (core.reverse ++ [])).dropWhile isBlank = core.reverse ++ [] :=
    dropWhile_append_of_blank (by simpa using htrail) (by simpa using hcore) (by simpa using hne) []
  rw [List.append_nil] at hback
  rw [trim, dropWhile_append_of_blank hlead hcore hne, List.reverse_append, hback,
    List.reverse_reverse]

lemma isBlank_of_isDigit (h : c.isDigit = true) : isBlank c = false := by
  have hrange : 48 ≤ c.toNat ∧ c.toNat ≤ 57 := by
    simpa [Char.isDigit, UInt32.le_iff_toNat_le] using h
  simp only [isBlank, blankRanges, List.any_cons, List.any_nil, Bool.or_false, Bool.or_eq_false_iff,
    Bool.and_eq_false_iff, decide_eq_false_iff_not]
  omega

/-- There are no blanks in a numeral. -/
lemma isBlank_of_mem_numeral {zeros : Nat} (h : c ∈ Decimal.numeral zeros z) :
    isBlank c = false := by
  rw [Decimal.numeral, List.mem_append] at h
  rcases h with h | h
  · split at h
    · rw [List.mem_singleton.mp h]
      decide
    · cases h
  · exact isBlank_of_isDigit ((Decimal.areDigits_padded zeros z.natAbs).2 c h)

/-! ### Letters of either case -/

/-- Each character is the letter of the word at its place, small or capital. -/
def Spells (word cs : List Char) : Prop :=
  List.Forall₂ (fun letter c => c = letter ∨ c = letter.toUpper) word cs

lemma toNat_toLower (c : Char) :
    c.toLower.toNat = if 65 ≤ c.toNat ∧ c.toNat ≤ 90 then c.toNat + 32 else c.toNat := by
  have hcapital : (c.val ≥ 'A'.val ∧ c.val ≤ 'Z'.val) ↔ 65 ≤ c.toNat ∧ c.toNat ≤ 90 := by
    simp [UInt32.le_iff_toNat_le]
  unfold Char.toLower
  by_cases h : 65 ≤ c.toNat ∧ c.toNat ≤ 90
  · rw [dif_pos (hcapital.mpr h), if_pos h]
    show (c.val + 32).toNat = c.val.toNat + 32
    have hle : c.val.toNat ≤ 90 := h.2
    rw [UInt32.toNat_add]
    exact Nat.mod_eq_of_lt (show c.val.toNat + 32 < 2 ^ 32 by omega)
  · rw [dif_neg fun h' => h (hcapital.mp h'), if_neg h]

lemma isLower_iff_val : c.isLower = true ↔ 'a'.val ≤ c.val ∧ c.val ≤ 'z'.val := by
  show (decide ('a'.val ≤ c.val) && decide (c.val ≤ 'z'.val)) = true ↔ _
  rw [Bool.and_eq_true, decide_eq_true_iff, decide_eq_true_iff]

lemma isLower_iff : c.isLower = true ↔ 97 ≤ c.toNat ∧ c.toNat ≤ 122 := by
  rw [isLower_iff_val, UInt32.le_iff_toNat_le, UInt32.le_iff_toNat_le]
  rfl

lemma toNat_toUpper (h : letter.isLower = true) : letter.toUpper.toNat + 32 = letter.toNat := by
  have hsmall := isLower_iff_val.mp h
  have hrange : 97 ≤ letter.val.toNat ∧ letter.val.toNat ≤ 122 := isLower_iff.mp h
  unfold Char.toUpper
  rw [dif_pos hsmall]
  -- the distance of the capitals is negative, as a word of 32 bits
  have hdistance : ('A'.val - 'a'.val).toNat = 2 ^ 32 - 32 := by decide
  show (letter.val + ('A'.val - 'a'.val)).toNat + 32 = letter.val.toNat
  rw [UInt32.toNat_add, hdistance]
  omega

/-- Only a small letter and its capital become the small letter. -/
lemma toLower_eq_iff (h : letter.isLower = true) :
    c.toLower = letter ↔ c = letter ∨ c = letter.toUpper := by
  have hrange := isLower_iff.mp h
  have hcapital := toNat_toUpper h
  rw [← Char.toNat_inj, ← Char.toNat_inj, ← Char.toNat_inj, toNat_toLower]
  split <;> omega

lemma map_toLower_eq_iff (h : ∀ letter ∈ word, letter.isLower = true) :
    cs.map Char.toLower = word ↔ Spells word cs := by
  induction word generalizing cs with
  | nil => simp [Spells]
  | cons letter word ih =>
    rw [List.forall_mem_cons] at h
    cases cs with
    | nil => simp [Spells]
    | cons c cs =>
      rw [List.map_cons, List.cons.injEq, toLower_eq_iff h.1, ih h.2, Spells, Spells,
        List.forall₂_cons]

end Text

namespace Store

open Decimal Text

lemma truth?_eq_some_iff (b : Bool) (cs : List Char) :
    truth? cs = some b ↔ Spells (toString b).toList cs := by
  have hletters (b : Bool) : ∀ letter ∈ (toString b).toList, letter.isLower = true := by
    cases b <;> exact List.all_eq_true.mp (by decide)
  rw [← map_toLower_eq_iff (hletters b), truth?]
  cases b with
  | true =>
    rw [show toString true = "true" from rfl]
    split_ifs <;> simp_all
  | false =>
    rw [show toString false = "false" from rfl]
    split_ifs <;> simp_all

/-! ### What a variable says -/

/-- The variable is set to a text that is such, without the blanks around it. -/
def Says (s : Store) (name : String) (P : List Char → Prop) : Prop :=
  ∃ value, s.get? name = some value ∧ P (trim value.toList)

section

variable {α : Type} {read : List Char → Option α} {Means : α → List Char → Prop} {s : Store}
  {name : String} {a : α}

lemma read_eq_some_iff (hread : ∀ a cs, read cs = some a ↔ Means a cs) :
    ((s.get? name).bind fun value => read (trim value.toList)) = some a ↔
      s.Says name (Means a) := by
  simp [Says, Option.bind_eq_some_iff, hread]

/-- What is read is what the variable says. -/
lemma getD_of_says (hread : ∀ a cs, read cs = some a ↔ Means a cs) (h : s.Says name (Means a))
    (default : α) :
    (((s.get? name).bind fun value => read (trim value.toList)).getD default) = a := by
  rw [(read_eq_some_iff hread).mpr h, Option.getD_some]

/-- Where the variable says nothing, the default is read. -/
lemma getD_of_silent (hread : ∀ a cs, read cs = some a ↔ Means a cs)
    (h : ∀ a, ¬ s.Says name (Means a)) (default : α) :
    (((s.get? name).bind fun value => read (trim value.toList)).getD default) = default := by
  rw [Option.eq_none_iff_forall_ne_some.mpr fun a ha => h a ((read_eq_some_iff hread).mp ha),
    Option.getD_none]

end

section

variable {s : Store} {name : String} {b : Bool} {range : Decimal.Range}

lemma getBool_of_says (h : s.Says name (Spells (toString b).toList)) (default : Bool) :
    s.getBool name default = b :=
  getD_of_says truth?_eq_some_iff h default

lemma getBool_of_silent (h : ¬ ∃ b : Bool, s.Says name (Spells (toString b).toList))
    (default : Bool) : s.getBool name default = default :=
  getD_of_silent truth?_eq_some_iff (not_exists.mp h) default

lemma getWhole_of_says (hz : z ∈ range) (h : s.Says name (Numeral z)) (default : Int) :
    s.getWhole range name default = z := by
  obtain ⟨value, hvalue, hnumeral⟩ := h
  exact getD_of_says range.read?_eq_some_iff ⟨value, hvalue, hnumeral, hz⟩ default

lemma getWhole_of_silent (h : ¬ ∃ z ∈ range, s.Says name (Numeral z)) (default : Int) :
    s.getWhole range name default = default := by
  refine getD_of_silent range.read?_eq_some_iff (fun z hsays => h ?_) default
  obtain ⟨value, hvalue, hnumeral, hz⟩ := hsays
  exact ⟨z, hz, value, hvalue, hnumeral⟩

/-- A number that is set in decimal notation is what the variable says. -/
lemma says_set_numeral (s : Store) (name : String) (zeros : Nat) (z : Int)
    (hlead : ∀ c ∈ lead, isBlank c = true) (htrail : ∀ c ∈ trail, isBlank c = true) :
    (s.set name (String.ofList (lead ++ (numeral zeros z ++ trail)))).Says name (Numeral z) := by
  refine ⟨_, get?_set_self s name _, ?_⟩
  have hne : numeral zeros z ≠ [] := by simp [numeral, Nat.toDigits_ne_nil]
  rw [String.toList_ofList,
    trim_surrounded hlead htrail (fun c hc => isBlank_of_mem_numeral hc) hne]
  exact numeral_denotes zeros z

end

/-! ### Main result -/

/-- **What typed values are read from.**  A truth value is read from `true` or `false` in letters of
either case, a whole number from a numeral for a number in the range of the type, both without the
blanks around the text; from any other text, and where the variable is not set, the default is
read.  So a number that was set in decimal notation, with any blanks around it and any zeros in front
of its digits, is read again, and both types read the same number where it fits the smaller one. -/
theorem typed_of_spelling (s : Store) (name : String) :
    (∀ b default, s.Says name (Spells (toString b).toList) → s.getBool name default = b) ∧
      (∀ default, (¬ ∃ b : Bool, s.Says name (Spells (toString b).toList)) →
        s.getBool name default = default) ∧
      (∀ z, Fits 32 z → s.Says name (Numeral z) →
        ∀ default, s.getInt name default = z) ∧
      (∀ default, (¬ ∃ z, Fits 32 z ∧ s.Says name (Numeral z)) →
        s.getInt name default = default) ∧
      (∀ z, Fits 64 z → s.Says name (Numeral z) →
        ∀ default, s.getLong name default = z) ∧
      (∀ default, (¬ ∃ z, Fits 64 z ∧ s.Says name (Numeral z)) →
        s.getLong name default = default) ∧
      (∀ z lead zeros trail default, (∀ c ∈ lead, isBlank c = true) →
        (∀ c ∈ trail, isBlank c = true) →
        let text := String.ofList (lead ++ (numeral zeros z ++ trail))
        (Fits 32 z → (s.set name text).getInt name default = z) ∧
          (Fits 64 z → (s.set name text).getLong name default = z)) ∧
      (∀ z, String.ofList (numeral 0 z) = toString z) ∧
      ∀ z, Fits 32 z → s.Says name (Numeral z) →
        ∀ default default', s.getInt name default = s.getLong name default' := by
  have hint (s : Store) {z : Int} (hz : Fits 32 z)
      (h : s.Says name (Numeral z)) (default : Int) : s.getInt name default = z :=
    getWhole_of_says (Range.mem_word32_iff.mpr hz) h default
  have hlong (s : Store) {z : Int} (hz : Fits 64 z)
      (h : s.Says name (Numeral z)) (default : Int) : s.getLong name default = z :=
    getWhole_of_says (Range.mem_word64_iff.mpr hz) h default
  refine ⟨fun _ default h => getBool_of_says h default,
    fun default h => getBool_of_silent h default, fun _ hz h => hint s hz h, fun default h => ?_,
    fun _ hz h => hlong s hz h, fun default h => ?_,
    fun z lead zeros trail default hlead htrail => ?_, ofList_numeral_zero,
    fun z hz h default default' => ?_⟩
  · simp only [← Range.mem_word32_iff] at h
    exact getWhole_of_silent h default
  · simp only [← Range.mem_word64_iff] at h
    exact getWhole_of_silent h default
  · have hsays := says_set_numeral s name zeros z hlead htrail
    exact ⟨fun hz => hint _ hz hsays default, fun hz => hlong _ hz hsays default⟩
  · have hwide : Fits 64 z :=
      Range.mem_word64_iff.mp (Range.word32_le_word64 (Range.mem_word32_iff.mpr hz))
    rw [hint s hz h default, hlong s hwide h default']

/-- A truth value in mixed letters, a number that is one too great for 32 bits, and the least one
that they hold. -/
theorem typed_of_spelling_at_bounds :
    let s : Store := .ofList [("flag", " tRuE"), ("beyond", "+2147483648")]
    let text := String.ofList (['\t', '\u2003'] ++ (numeral 3 (-2147483648) ++ ['\n']))
    s.Says "flag" (Spells (toString true).toList) ∧ s.getBool "flag" false = true ∧
      s.Says "beyond" (Numeral 2147483648) ∧ s.getLong "beyond" 7 = 2147483648 ∧
      (¬ ∃ z, Fits 32 z ∧ s.Says "beyond" (Numeral z)) ∧ s.getInt "beyond" 7 = 7 ∧
      text = "\t\u2003-0002147483648\n" ∧
      (s.set "least" text).getInt "least" 7 = -2147483648 ∧
      (s.set "least" text).getLong "least" 7 = -2147483648 := by
  intro s text
  have hflag : s.Says "flag" (Spells (toString true).toList) :=
    ⟨" tRuE", by decide +kernel, (truth?_eq_some_iff true _).mp (by decide +kernel)⟩
  have hvalue : s.get? "beyond" = some "+2147483648" := by decide +kernel
  have hsigned : signed? (trim "+2147483648".toList) = some 2147483648 := by decide +kernel
  have hbeyond : s.Says "beyond" (Numeral 2147483648) :=
    ⟨_, hvalue, signed?_eq_some_iff.mp hsigned⟩
  have hsilent : ¬ ∃ z, Fits 32 z ∧ s.Says "beyond" (Numeral z) := by
    rintro ⟨z, hfits, value, hget, hnumeral⟩
    obtain rfl := Option.some.inj (hvalue.symm.trans hget)
    obtain rfl := Option.some.inj (hsigned.symm.trans (signed?_eq_some_iff.mpr hnumeral))
    exact absurd hfits (by decide)
  obtain ⟨hbool, -⟩ := typed_of_spelling s "flag"
  obtain ⟨-, -, -, hint, hlong, -⟩ := typed_of_spelling s "beyond"
  obtain ⟨-, -, -, -, -, -, hset, -⟩ := typed_of_spelling s "least"
  obtain ⟨hword, hlongword⟩ := hset (-2147483648) ['\t', '\u2003'] 3 ['\n'] 7
    (List.all_eq_true.mp (by decide)) (List.all_eq_true.mp (by decide))
  exact ⟨hflag, hbool true false hflag, hbeyond, hlong 2147483648 (by decide) hbeyond 7, hsilent,
    hint 7 hsilent, by decide +kernel, hword (by decide), hlongword (by decide)⟩

end Store

end SetupWizard
