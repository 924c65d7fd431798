/-
# Texts on a terminal

A message may quote names that somebody else has chosen, and some control characters in them
would steer the terminal that shows the message: bell, backspace, form feed, escape and delete,
and the control characters from 0x80 to 0x9F.  Each of these is shown by its number in
lower-case hexadecimal.  All other characters stay, line feeds and tabs among them.
-/
namespace SetupWizard.Text

/-- A control character that steers a terminal. -/
def steersTerminal (c : Char) : Bool :=
  ['\x07', '\x08', '\x0C', '\x1B', '\x7F'].contains c || (0x80 ≤ c.toNat && c.toNat ≤ 0x9F)

/-- A character as it is shown on a terminal. -/
def terminalChar (c : Char) : List Char :=
  if !steersTerminal c then [c]
  else if c.toNat < 0x10 then '\\' :: 'x' :: '0' :: Nat.toDigits 16 c.toNat
  else if c.toNat < 0x80 then '\\' :: 'x' :: Nat.toDigits 16 c.toNat
  else '\\' :: 'u' :: '{' :: (Nat.toDigits 16 c.toNat ++ ['}'])

/-- A text as it is shown on a terminal. -/
def onTerminal (s : String) : String := String.ofList (s.toList.flatMap terminalChar)

/-- No digit of a small number steers a terminal. -/
theorem steersTerminal_eq_false_of_mem_toDigits {n : Nat} (small : n < 0xA0) {d : Char}
    (mem : d ∈ Nat.toDigits 16 n) : steersTerminal d = false := by
  have digits : ((List.range 0xA0).all fun n =>
      (Nat.toDigits 16 n).all fun d => !steersTerminal d) = true := by
    decide +kernel
  simp only [List.all_eq_true, List.mem_range, Bool.not_eq_true'] at digits
  exact digits n small d mem

/-- The characters that steer a terminal come before 0xA0. -/
theorem toNat_lt_of_steersTerminal {c : Char} (steers : steersTerminal c = true) :
    c.toNat < 0xA0 := by
  simp only [steersTerminal, Bool.or_eq_true, List.contains_iff_mem, List.mem_cons,
    List.not_mem_nil, or_false, Bool.and_eq_true, decide_eq_true_eq] at steers
  rcases steers with (rfl | rfl | rfl | rfl | rfl) | ⟨_, greatest⟩
  iterate 5 decide
  omega

/-- Nothing that is shown of a character steers a terminal. -/
theorem steersTerminal_eq_false_of_mem_terminalChar {c d : Char} (mem : d ∈ terminalChar c) :
    steersTerminal d = false := by
  cases steers : steersTerminal c with
  | false =>
    simp only [terminalChar, steers, Bool.not_false, if_true, List.mem_singleton] at mem
    rw [mem, steers]
  | true =>
    have shown : d = '\\' ∨ d = 'x' ∨ d = '0' ∨ d = 'u' ∨ d = '{' ∨ d = '}' ∨
        d ∈ Nat.toDigits 16 c.toNat := by
      simp only [terminalChar, steers, Bool.not_true, Bool.false_eq_true, if_false] at mem
      split at mem
      · grind
      · split at mem <;> grind
    rcases shown with rfl | rfl | rfl | rfl | rfl | rfl | digit
    iterate 6 decide
    exact steersTerminal_eq_false_of_mem_toDigits (toNat_lt_of_steersTerminal steers) digit

/-- Nothing that is shown of a text steers a terminal. -/
theorem steersTerminal_eq_false_of_mem_onTerminal {s : String} {d : Char}
    (mem : d ∈ (onTerminal s).toList) : steersTerminal d = false := by
  rw [onTerminal, String.toList_ofList, List.mem_flatMap] at mem
  obtain ⟨_, _, mem⟩ := mem
  exact steersTerminal_eq_false_of_mem_terminalChar mem

end SetupWizard.Text
