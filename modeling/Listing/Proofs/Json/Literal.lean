import Mathlib.Data.Option.Basic
import Listing.Json.Literal
import Listing.Json.Reader

namespace Listing.Json

def IsText (literal : List Char) : Prop :=
  ∀ rest, scanText (literal ++ '"' :: rest) = some (literal, rest)

theorem shortEscapes_spec : ∀ e ∈ shortEscapes,
    e.2 ≠ 'u' ∧ isShortEscape e.2 = true ∧ unescape? e.2 = some e.1 := by decide

theorem hexDigit_spec : ∀ n < 16, isHexDigit (Nat.digitChar n) = true ∧
    hexDigit? (Nat.digitChar n) = some n := by decide

inductive Escaped (c : Char) : List Char → Prop
  | plain : c ≠ '"' → c ≠ '\\' → ¬c < ' ' → Escaped c [c]
  | short {letter : Char} : letter ≠ 'u' → isShortEscape letter = true → unescape? letter = some c →
      Escaped c ['\\', letter]
  | unit {high low : Char} : isHexDigit high = true → isHexDigit low = true →
      unit? '0' '0' high low = some c.toNat → c.toNat < 256 →
      Escaped c ['\\', 'u', '0', '0', high, low]

theorem escaped_escapeChar (c : Char) : Escaped c (escapeChar c) := by
  unfold escapeChar
  split
  case isTrue quoted =>
    obtain rfl | rfl := quoted
    · exact .short (by decide) (by decide) (by decide)
    · exact .short (by decide) (by decide) (by decide)
  case isFalse other =>
    obtain ⟨quote, backslash⟩ := not_or.1 other
    split
    case isFalse visible => exact .plain quote backslash visible
    case isTrue control =>
      split
      case h_1 letter found =>
        have listed : (c, letter) ∈ shortEscapes := by
          obtain ⟨before, behind, parts, -⟩ := List.lookup_eq_some_iff.1 found
          rw [parts]
          simp
        obtain ⟨unit, short, read⟩ := shortEscapes_spec _ listed
        exact .short unit short read
      case h_2 =>
        have small : c.toNat < 32 := control
        obtain ⟨high, high_value⟩ := hexDigit_spec (c.toNat / 16) (by omega)
        obtain ⟨low, low_value⟩ := hexDigit_spec (c.toNat % 16) (by omega)
        refine .unit high low ?_ (by omega)
        have zero : hexDigit? '0' = some 0 := rfl
        simp only [unit?, zero, high_value, low_value, Option.bind_eq_bind, Option.bind_some]
        congr 1
        omega

variable {c : Char} {written : List Char}

theorem Escaped.scanText (h : Escaped c written) (rest : List Char) : scanText (written ++ rest) =
    (scanText rest).map fun (literal, rest) => (written ++ literal, rest) := by
  cases h with
  | plain quote backslash visible =>
    have stays : ¬(c < ' ' ∨ c = '\\') := not_or.2 ⟨visible, backslash⟩
    rw [List.singleton_append, Json.scanText, if_neg stays]
    · rfl
    · exact quote
    · exact fun _ _ _ _ _ h _ => backslash h
    · exact fun _ _ h _ => backslash h
  | short unit short =>
    rw [List.cons_append, List.singleton_append, Json.scanText, if_pos short]
    · rfl
    · exact fun _ _ _ _ _ h _ => unit h
  | @unit high low highDigit lowDigit =>
    have digits : ['0', '0', high, low].all isHexDigit = true := by
      simp only [List.all_cons, highDigit, lowDigit]
      decide
    simp only [List.cons_append, List.nil_append]
    rw [Json.scanText, if_pos digits]

theorem Escaped.unescape (h : Escaped c written) (rest : List Char) :
    unescape (written ++ rest) = (unescape rest).map (c :: ·) := by
  cases h with
  | plain quote backslash visible =>
    rw [List.singleton_append, Json.unescape, guard, if_pos backslash]
    · cases Json.unescape rest <;> rfl
    · exact fun _ _ _ _ _ h _ => backslash h
    · exact fun _ _ h _ => backslash h
  | short unit short read =>
    rw [List.cons_append, List.singleton_append, Json.unescape, read]
    · cases Json.unescape rest <;> rfl
    · exact fun _ _ _ _ _ h _ => unit h
  | @unit high low _ _ read small =>
    have whole : isHighHalf c.toNat = false ∧ isLowHalf c.toNat = false := by
      unfold isHighHalf isLowHalf
      simp only [Bool.and_eq_false_iff, decide_eq_false_iff_not]
      omega
    simp only [List.cons_append, List.nil_append]
    rw [Json.unescape, read]
    simp only [Option.bind_eq_bind, Option.bind_some, whole]
    cases Json.unescape rest with
    | none => rfl
    | some cs => simp [guard]

theorem isText_escape (s : String) : IsText (escape s) := by
  intro rest
  unfold escape
  induction s.toList with
  | nil => rfl
  | cons c cs ih =>
    rw [List.flatMap_cons, List.append_assoc, (escaped_escapeChar c).scanText, ih]
    rfl

theorem decode?_escape (s : String) : decode? (escape s) = some s := by
  have read (cs : List Char) : unescape (cs.flatMap escapeChar) = some cs := by
    induction cs with
    | nil => rfl
    | cons c cs ih =>
      rw [List.flatMap_cons, (escaped_escapeChar c).unescape, ih]
      rfl
  rw [decode?, escape, read, Option.map_some, String.ofList_toList]

end Listing.Json
