import OsDetection.Numeral.Digits
import OsDetection.Text.Split

/-!
# Patterns for test values

A reference gives a pattern for a test: alternatives separated by `|`, of which an observed value
should match one. An alternative is empty, a literal, a range of hexadecimal numbers such as
`F0-110`, or a text that the value should come after (`>`) or before (`<`). A pattern is compiled
once, and carries the proof that its alternatives are those of its source
(`Pattern.ofText_eq_ok_iff`).
-/

namespace OsDetection

open OsDetection.Text OsDetection.Numeral

/-- Which side of a text a value should be on. -/
inductive Side where
  | before | after
  deriving DecidableEq, Repr

/-- One way for a value to match. -/
inductive Alternative where
  /-- The value is empty. -/
  | empty
  /-- The value is this text. -/
  | literal (text : String)
  /-- The value is a hexadecimal number within the bounds. -/
  | range (low high : Nat)
  /-- The value comes before or after this text in the order of code points. -/
  | beyond (side : Side) (text : String)
  deriving DecidableEq, Repr

namespace Pattern

/-- Why a text is no pattern. -/
inductive Fault where
  /-- A range with more than one dash. -/
  | bounds (alternative : String)
  /-- A bound of a range that is not a hexadecimal number. -/
  | bound (text : String)
  deriving DecidableEq, Repr

def Fault.message : Fault → String
  | bounds alternative => s!"range '{alternative}' must have exactly two bounds"
  | bound text => s!"range bound '{text}' is not a hexadecimal number"

end Pattern

namespace Alternative

/-- The number that a bound of a range stands for. -/
def bound (cs : List Char) : Except Pattern.Fault Nat :=
  match hexadecimal? cs with
  | some n => .ok n
  | none => .error (.bound (String.ofList cs))

/-- The range between the parts of a text with dashes in it. -/
def range? (cs : List Char) : Except Pattern.Fault Alternative :=
  match split '-' cs with
  | [low, high] => do
    let low ← bound low
    let high ← bound high
    return .range low high
  | _ => .error (.bounds (String.ofList cs))

/-- The alternative of a text without `|`. A dash makes a range unless the text begins with it. -/
def ofText : List Char → Except Pattern.Fault Alternative
  | [] => .ok .empty
  | '>' :: text => .ok (.beyond .after (String.ofList text))
  | '<' :: text => .ok (.beyond .before (String.ofList text))
  | c :: cs => if '-' ∈ cs then range? (c :: cs) else .ok (.literal (String.ofList (c :: cs)))

/-- Whether a value matches in this way. -/
def accepts (value : String) : Alternative → Bool
  | empty => value.isEmpty
  | literal text => value = text
  | range low high => (hexadecimal? value.toList).any fun n => low ≤ n && n ≤ high
  | beyond .after text => text < value
  | beyond .before text => value < text

/-- An alternative in writing. -/
def text : Alternative → List Char
  | empty => []
  | literal text => text.toList
  | range low high => Nat.toDigits 16 low ++ '-' :: Nat.toDigits 16 high
  | beyond .after text => '>' :: text.toList
  | beyond .before text => '<' :: text.toList

end Alternative

namespace Pattern

/-- The alternatives of a source, in order. -/
def compile (source : String) : Except Fault (List Alternative) :=
  (split '|' source.toList).mapM Alternative.ofText

end Pattern

/-- A compiled pattern. -/
structure Pattern where
  source : String
  alternatives : List Alternative
  compiled : Pattern.compile source = .ok alternatives
  deriving DecidableEq

namespace Pattern

/-- The pattern of a source, or the fault of its first bad alternative. -/
def ofText (source : String) : Except Fault Pattern :=
  match compiled : compile source with
  | .ok alternatives => .ok { source, alternatives, compiled }
  | .error fault => .error fault

/-- Whether a value matches one of the alternatives. -/
def accepts (p : Pattern) (value : String) : Bool :=
  p.alternatives.any (·.accepts value)

/-- The pattern's alternatives, each in writing, separated again. -/
def canonicalText (p : Pattern) : List Char :=
  ['|'].intercalate (p.alternatives.map (·.text))

/-- A pattern is determined by its source. -/
theorem ext_source {p q : Pattern} (h : p.source = q.source) : p = q := by
  obtain ⟨s, as, hp⟩ := p
  obtain ⟨t, bs, hq⟩ := q
  obtain rfl : s = t := h
  obtain rfl : as = bs := Except.ok.inj (hp ▸ hq)
  rfl

/-- Compiling the source of a pattern gives the pattern back. -/
@[simp] theorem ofText_source (p : Pattern) : ofText p.source = .ok p := by
  have h := p.compiled
  unfold ofText
  split <;> rename_i h'
  · rw [Except.ok.injEq]
    exact ext_source rfl
  · rw [h] at h'
    exact nomatch h'

/-- A text that compiles is the source of its pattern. -/
theorem ofText_eq_ok_iff {source : String} {p : Pattern} :
    ofText source = .ok p ↔ p.source = source := by
  constructor
  · intro h
    unfold ofText at h
    split at h
    · exact Except.ok.inj h ▸ rfl
    · exact nomatch h
  · rintro rfl
    exact ofText_source p

/-- A text fails to compile with the fault of its alternatives. -/
theorem ofText_eq_error_iff {source : String} {fault : Fault} :
    ofText source = .error fault ↔ compile source = .error fault := by
  unfold ofText
  split <;> rename_i h <;> simp [h]

end Pattern

end OsDetection
