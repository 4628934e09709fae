import ChangeFeed.Proofs.Schema.Heads
import ChangeFeed.Proofs.Sql.Parsing

/-!
# Schema changes: The table behind a head

The table of a statement is looked for among its tokens: behind the word that ends the head, some
words are passed over, and the name in front of whatever follows is walked through period by period.

## Main results

* `tableNamed_headed`: the table behind a head is the last word of the name.
* `headed_statement_is_told`: a statement with a head and a name is passed on as one change.
-/

namespace ChangeFeed.Schema

open Sql (Token)
open Sql.Parse (startsWith_append)

/-! ## Words -/

/-- An unquoted word as a token. -/
def wordToken (text : String) : Token := .word text false

/-- A bare word that is compared letter by letter is a keyword, as ASCII letters have one capital.
-/
theorem keyword?_of_isBareWord {k : String} {t : Token} (hk : Text.isAscii k = true)
    (h : isBareWord k t = true) : t.keyword? = some k := by
  unfold isBareWord at h
  split at h
  · exact congrArg some (Text.uppercase_of_map_toUpper hk (of_decide_eq_true h))
  · cases h

/-- The other way round some letters outside ASCII have capitals in it, of which these words have
none. -/
theorem isBareWord_of_keyword? {k : String} {t : Token}
    (hk : ∀ d ∈ ['S', 'I', 'F'], d ∉ k.toList) (h : t.keyword? = some k) :
    isBareWord k t = true := by
  unfold Token.keyword? at h
  split at h
  · exact decide_eq_true (Text.map_toUpper_of_uppercase hk (Option.some.inj h))
  · cases h

/-! ## Names -/

/-- Words with periods between them, from the second one on. -/
def dotted (more : List (String × Bool)) : List Token :=
  more.flatMap fun w => [.symbol ".", .word w.1 w.2]

/-- The last word of a dotted name. -/
def lastWord (first : String) : List (String × Bool) → String
  | [] => first
  | w :: more => lastWord w.1 more

/-- A name ends where no period follows, and its last part is its last word. -/
theorem lastPart_dotted (first : String) (quoted : Bool) (more : List (String × Bool))
    {tail : List Token} (htail : tail.head? ≠ some (.symbol ".")) (found : Option String) :
    lastPart found (.word first quoted :: (dotted more ++ tail)) = some (lastWord first more) := by
  -- The induction is on the words behind periods: the walk goes on as long as a period follows a
  -- word.
  induction more generalizing first quoted found with
  | nil =>
    unfold lastPart
    split
    · next heq =>
      simp only [dotted, List.flatMap_nil, List.nil_append, List.cons.injEq] at heq
      simp [heq.2] at htail
    · next heq =>
      cases heq
      rfl
    · -- A word stands in front, so the walk does not end here.
      next hword => exact absurd rfl (hword _ _ _)
  | cons w more ih =>
    exact ih w.1 w.2 (some first)

/-- The word is passed over in front of a name. -/
def isFiller (t : Token) : Bool := fillers.any (isBareWord · t)

/-- Only unquoted words are passed over. -/
theorem isFiller_word (text : String) (quoted : Bool) :
    isFiller (.word text quoted) = (!quoted && decide (text.map Char.toUpper ∈ fillers)) := by
  cases quoted with
  | true => rfl
  | false =>
    rw [Bool.eq_iff_iff]
    simp [isFiller, isBareWord]

/-! ## The table behind a head -/

/-- A table is looked for behind the last word of the head, which does not stand in it before. -/
theorem anchor_eq {h : TableHead} (hh : h ∈ tableHeads) :
    (if h.kind = .truncate then "TRUNCATE" else "TABLE") = h.last ∧ h.last ∉ h.front := by
  revert h
  decide

/-- The word that ends a head can be spelled in ASCII letters only. -/
theorem last_plain {h : TableHead} (hh : h ∈ tableHeads) :
    Text.isAscii h.last = true ∧ ∀ d ∈ ['S', 'I', 'F'], d ∉ h.last.toList := by
  rw [List.forall_mem_cons, List.forall_mem_cons, List.forall_mem_singleton]
  revert h
  decide

section Headed

variable {h : TableHead} {head passed tail : List Token} {first : String} {quoted : Bool}
  {more : List (String × Bool)}

/-- **Behind a head**: the words that are passed over do not matter, and the table is the last word
of the name. -/
theorem tableNamed_headed (hh : h ∈ tableHeads)
    (hhead : head.map Token.keyword? = h.words.map some)
    (hpassed : ∀ t ∈ passed, isFiller t = true) (hname : isFiller (.word first quoted) = false)
    (htail : tail.head? ≠ some (.symbol ".")) :
    tableNamed h.kind (head ++ (passed ++ .word first quoted :: (dotted more ++ tail))) =
      some (lastWord first more) := by
  rw [TableHead.words, List.map_append, List.map_singleton, List.map_eq_append_iff] at hhead
  obtain ⟨before, last, rfl, hbefore, hlast⟩ := hhead
  obtain ⟨anchor, rfl, hanchor⟩ := List.map_eq_singleton_iff.1 hlast
  obtain ⟨hascii, hplain⟩ := last_plain hh
  -- The word that ends the head does not stand in front of it.
  have hskip : ∀ t ∈ before, (!isBareWord h.last t) = true := by
    intro t ht
    rw [Bool.not_eq_true', Bool.eq_false_iff]
    intro hbare
    have hmem : some h.last ∈ h.front.map some := by
      rw [← hbefore, ← keyword?_of_isBareWord hascii hbare]
      exact List.mem_map_of_mem ht
    obtain ⟨k, hk, hsame⟩ := List.mem_map.1 hmem
    exact (anchor_eq hh).2 (Option.some.inj hsame ▸ hk)
  have hfound : isBareWord h.last anchor = true := isBareWord_of_keyword? hplain hanchor
  rw [tableNamed]
  simp only [(anchor_eq hh).1, List.append_assoc, List.singleton_append]
  rw [List.dropWhile_append_of_pos hskip, List.dropWhile_cons_of_neg (by simp [hfound])]
  show lastPart none
    ((passed ++ .word first quoted :: (dotted more ++ tail)).dropWhile isFiller) = _
  rw [List.dropWhile_append_of_pos hpassed, List.dropWhile_cons_of_neg (by simp [hname]),
    lastPart_dotted first quoted more htail]

/-- A statement about a table that names it is passed on as one change. -/
theorem unparsedChange_of_tableNamed {sql : String} {ts : List Token} {table : String}
    (hlevel : (kindOf ts).isTableLevel = true) (htable : tableNamed (kindOf ts) ts = some table) :
    unparsedChange sql ts = .ok [⟨table, .raw (kindOf ts) (Text.trim sql)⟩] := by
  simp only [unparsedChange, hlevel, if_true, htable]

/-- **Told as a whole**: a statement that begins with a head in any letter case, whatever of
`TABLE`, `IF`, `NOT` and `EXISTS` stands behind it, and a dotted name in words, the first of which
is none of these unless it is quoted, is passed on as one change of the last word's table. What
follows the name does not matter, as long as it is no period. -/
theorem headed_statement_is_told (sql : String) (hh : h ∈ tableHeads)
    (hhead : head.map Token.keyword? = h.words.map some)
    (hpassed : ∀ t ∈ passed, isFiller t = true)
    (hname : quoted = true ∨ first.map Char.toUpper ∉ fillers)
    (htail : tail.head? ≠ some (.symbol ".")) :
    unparsedChange sql (head ++ (passed ++ .word first quoted :: (dotted more ++ tail))) =
      .ok [⟨lastWord first more, .raw h.kind (Text.trim sql)⟩] := by
  have hfirst : isFiller (.word first quoted) = false := by
    rw [isFiller_word]
    -- A quoted name is never passed over, and another one is none of the words that are.
    rcases hname with rfl | hname
    · rfl
    · rw [decide_eq_false hname, Bool.and_false]
  have hkind := kindOf_of_startsWith hh
    (startsWith_append hhead (passed ++ .word first quoted :: (dotted more ++ tail)))
  have htable : tableNamed h.kind
      (head ++ (passed ++ .word first quoted :: (dotted more ++ tail))) =
        some (lastWord first more) :=
    tableNamed_headed hh hhead hpassed hfirst htail
  -- The kind is that of the head, so its table is found where the head says.
  rw [← hkind] at htable ⊢
  exact unparsedChange_of_tableNamed (hkind ▸ isTableLevel_of_mem hh) htable

end Headed

def ignoringText : String :=
  " alTer Ignore TABLE if EXISTS \x60not\x60.shop.\x60a.b\x60 ADD x INT "

def ignoringTokens : List Token :=
  ["alTer", "Ignore", "TABLE"].map wordToken ++ (["if", "EXISTS"].map wordToken ++
    .word "not" true :: (dotted [("shop", false), ("a.b", true)] ++
      ["ADD", "x", "INT"].map wordToken))

/-- Quoted words are part of the name, whatever they spell and hold. -/
theorem ignoringText_is_told :
    Sql.tokens ignoringText = .ok ignoringTokens ∧
      unparsedChange ignoringText ignoringTokens =
        .ok [⟨"a.b", .raw .alter (Text.trim ignoringText)⟩] := by
  refine ⟨by decide +kernel, ?_⟩
  have hhead : ⟨["ALTER", "IGNORE"], "TABLE", .alter⟩ ∈ tableHeads := by decide
  have hpassed : ∀ t ∈ ["if", "EXISTS"].map wordToken, isFiller t = true := by decide +kernel
  exact headed_statement_is_told ignoringText hhead (by decide) hpassed (.inl rfl) (by decide)

end ChangeFeed.Schema
