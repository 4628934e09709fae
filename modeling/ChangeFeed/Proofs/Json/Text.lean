import ChangeFeed.Json.Read
import Mathlib.Tactic.SplitIfs

/-!
# JSON: Texts between quotes

A text that was put between quotes is read back, whatever characters it is made of. Every character
is escaped by itself, so one character is taken at a time.
-/

namespace ChangeFeed.Json

/-- Characters as symbols. -/
def symbolsOfChars (cs : List Char) : List Symbol := cs.map .char

@[simp] theorem symbolsOfChars_nil : symbolsOfChars [] = [] := rfl

@[simp] theorem symbolsOfChars_cons (c : Char) (cs : List Char) :
    symbolsOfChars (c :: cs) = .char c :: symbolsOfChars cs := rfl

@[simp] theorem symbolsOfChars_append (cs ds : List Char) :
    symbolsOfChars (cs ++ ds) = symbolsOfChars cs ++ symbolsOfChars ds := List.map_append

theorem symbolsOf_eq (s : String) : symbolsOf s = symbolsOfChars s.toList := rfl

/-! ## One character -/

theorem textBody_plain {c : Char} (hquote : c ≠ '"') (hescape : c ≠ '\\')
    (hcontrol : ¬ c.toNat < 32) (place : Nat) (rest : List Symbol) :
    textBody place (.char c :: rest) = withChar c (textBody (place + c.utf8Size) rest) := by
  rw [textBody, if_neg hcontrol]
  · exact hquote
  · exact fun _ => hescape
  · exact fun _ _ => hescape
  · exact fun _ _ _ => hescape

/-- Control characters are written with two hexadecimal digits. -/
theorem hexNumber?_hexByte {n : Nat} (h : n < 32) :
    hexNumber? (.char '0') (.char '0') (.char (Nat.digitChar (n / 16)))
      (.char (Nat.digitChar (n % 16))) = some n := by
  have hall : ∀ n : Fin 32, hexNumber? (.char '0') (.char '0') (.char (Nat.digitChar (n / 16)))
      (.char (Nat.digitChar (n % 16))) = some n.1 := by
    decide +kernel
  exact hall ⟨n, h⟩

theorem textBody_numeric {c : Char} (h : c.toNat < 32) (place : Nat) (rest : List Symbol) :
    textBody place (symbolsOfChars (['\\', 'u', '0', '0'] ++ hexByte c.toNat) ++ rest) =
      withChar c (textBody (place + 6) rest) := by
  -- A control character lies below all surrogates, so it is not half of a pair.
  have hsingle : escaped c.toNat (place + 6) rest = .single c := by
    have hlow : ¬ 0xdc00 ≤ c.toNat := by omega
    have hbelow : c.toNat < 0xd800 := by omega
    simp [escaped, hlow, hbelow, Char.ofNat_toNat]
  simp only [hexByte, List.cons_append, List.nil_append, symbolsOfChars_cons, symbolsOfChars_nil,
    textBody, hexNumber?_hexByte h, hsingle]

/-- An escaped character is read as the character itself. -/
theorem textBody_escapeChar (c : Char) (place : Nat) (rest : List Symbol) :
    ∃ behind, textBody place (symbolsOfChars (escapeChar c) ++ rest) =
      withChar c (textBody behind rest) := by
  unfold escapeChar
  -- Seven characters have an escape of two symbols, control characters one of six, and others stand
  -- for themselves.
  split_ifs with hquote hescape hfeed hreturn htab hback hform hcontrol
  · exact ⟨place + 2, by rw [hquote]; rfl⟩
  · exact ⟨place + 2, by rw [hescape]; rfl⟩
  · exact ⟨place + 2, by rw [hfeed]; rfl⟩
  · exact ⟨place + 2, by rw [hreturn]; rfl⟩
  · exact ⟨place + 2, by rw [htab]; rfl⟩
  · obtain rfl : c = Char.ofNat 8 := by rw [← hback, Char.ofNat_toNat]
    exact ⟨place + 2, rfl⟩
  · obtain rfl : c = Char.ofNat 12 := by rw [← hform, Char.ofNat_toNat]
    exact ⟨place + 2, rfl⟩
  · exact ⟨place + 6, textBody_numeric hcontrol place rest⟩
  · exact ⟨_, textBody_plain hquote hescape hcontrol place rest⟩

/-! ## Texts -/

theorem textBody_escaped (cs : List Char) (place : Nat) (rest : List Symbol) :
    ∃ behind, textBody place (symbolsOfChars (cs.flatMap escapeChar) ++ .char '"' :: rest) =
      .ok ⟨cs, none, false, ⟨behind, rest⟩⟩ := by
  induction cs generalizing place with
  | nil => exact ⟨place + 1, rfl⟩
  | cons c cs ih =>
    obtain ⟨next, hc⟩ := textBody_escapeChar c place
      (symbolsOfChars (cs.flatMap escapeChar) ++ .char '"' :: rest)
    obtain ⟨behind, hcs⟩ := ih next
    -- The first character is taken, and what it leaves is the text of the others.
    refine ⟨behind, ?_⟩
    rw [List.flatMap_cons, symbolsOfChars_append, List.append_assoc, hc, hcs]
    rfl

theorem symbolsOf_quote (s : String) (rest : List Symbol) :
    symbolsOf (quote s) ++ rest =
      .char '"' :: (symbolsOfChars (s.toList.flatMap escapeChar) ++ .char '"' :: rest) := by
  simp only [symbolsOf_eq, quote, String.toList_ofList, List.cons_append, symbolsOfChars_cons,
    symbolsOfChars_append, symbolsOfChars_nil, List.append_assoc, List.nil_append]

/-- The text between the quotes is the one that was put there. -/
theorem textBody_quote (s : String) (place : Nat) (rest : List Symbol) :
    ∃ behind, textBody place ((symbolsOf (quote s) ++ rest).drop 1) =
      .ok ⟨s.toList, none, false, ⟨behind, rest⟩⟩ := by
  rw [symbolsOf_quote]
  exact textBody_escaped s.toList place rest

theorem text_of_toList (s : String) (behind : Cursor) :
    TextRead.text ⟨s.toList, none, false, behind⟩ = .ok s := by
  simp only [TextRead.text, Bool.false_eq_true, if_false, String.ofList_toList]

end ChangeFeed.Json
