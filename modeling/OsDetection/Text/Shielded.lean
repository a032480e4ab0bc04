import OsDetection.Text.Quoted

/-!
# Shielded text

A terminal takes some control characters for commands, or for the beginning of one, and a text from
outside could use them to write over what a reader is to see. In a shielded text such characters are
written out, and nothing else is changed. Shielding leaves none of them
(`not_isCommand_of_mem_shield`), and a text without them as it is (`shielded_eq_self`).
-/

namespace OsDetection.Text

/-- The ASCII characters that a terminal may obey and that are of no use in a line of text: bell,
backspace, form feed, escape and delete. -/
def asciiCommands : List Char :=
  ['\x07', '\x08', '\x0c', '\x1b', '\x7f']

/-- Whether a terminal may take a character for a command: one of the `asciiCommands` or a control
character of the second set, U+0080 to U+009F. -/
def isCommand (c : Char) : Bool :=
  asciiCommands.contains c || (0x80 ≤ c.toNat && c.toNat ≤ 0x9F)

/-- A character of a shielded text. A command is written by its code point, in the short form with
two digits if it is an ASCII character. -/
def shield (c : Char) : List Char :=
  if isCommand c then
    if c.toNat < 0x80 then ['\\', 'x'] ++ (hexDigits c.toNat).leftpad 2 '0' else codePoint c
  else [c]

theorem shield_eq_self {c : Char} (h : isCommand c = false) : shield c = [c] := by
  simp [shield, h]

/-- Every command has a code point below `0xA0`. -/
theorem toNat_lt_of_isCommand {c : Char} (h : isCommand c = true) : c.toNat < 0xA0 := by
  have ascii : asciiCommands.all (fun c => c.toNat < 0xA0) = true := rfl
  simp only [isCommand, Bool.or_eq_true, List.contains_iff_mem, Bool.and_eq_true,
    decide_eq_true_eq] at h
  rcases h with h | h
  · simpa using List.all_eq_true.1 ascii c h
  · omega

/-- No command is left when a character is shielded. -/
theorem not_isCommand_of_mem_shield {c d : Char} (h : d ∈ shield c) : isCommand d = false := by
  by_cases hc : isCommand c = true
  · have all : ((List.range 0xA0).map Char.ofNat).all
        (fun c => !isCommand c || (shield c).all fun d => !isCommand d) = true := by
      decide +kernel
    have mem : c ∈ (List.range 0xA0).map Char.ofNat :=
      List.mem_map.2 ⟨c.toNat, List.mem_range.2 (toNat_lt_of_isCommand hc), Char.ofNat_toNat c⟩
    have := List.all_eq_true.1 all c mem
    simp only [hc, Bool.not_true, Bool.false_or, List.all_eq_true, Bool.not_eq_true'] at this
    exact this d h
  · rw [shield_eq_self (by simpa using hc), List.mem_singleton] at h
    simpa [h] using hc

/-- A text in which no terminal finds a command. -/
def shielded (text : String) : String :=
  String.ofList (text.toList.flatMap shield)

/-- A text without commands is its own shielded form. -/
theorem shielded_eq_self {text : String} (h : ∀ c ∈ text.toList, isCommand c = false) :
    shielded text = text := by
  have : text.toList.flatMap shield = text.toList := by
    generalize text.toList = cs at h
    induction cs with
    | nil => rfl
    | cons c cs ih =>
      rw [List.flatMap_cons, shield_eq_self (h c (by simp)), ih fun d hd => h d (by simp [hd])]
      rfl
  rw [shielded, this, String.ofList_toList]

end OsDetection.Text
