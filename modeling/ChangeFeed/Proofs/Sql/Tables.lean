import ChangeFeed.Proofs.Sql.Statements

/-!
# SQL: The table of a statement

A statement about a table names it behind its first words. From there on the reader looks at the
rest of the statement, but the name stays the one that it has read.

## Main results

* `createTable_gives`, `alterTable_gives`, `dropTables_gives`, `truncate_gives`: whatever stands
  behind the name, the statement that is read is about the table of that name.
* `statement_of_keyword`: a statement about a table is told by its first word.
-/

namespace ChangeFeed.Sql

/-- The first table whose structure a statement changes. -/
def Statement.firstTable? : Statement → Option Name
  | .createTable table .. => some table
  | .alterTable table _ => some table
  | .dropTables tables => tables.head?
  | .truncateTables tables => tables.head?
  | .renameTables _ | .other _ => none

namespace Parse

variable {α β : Type} {P : α → Prop} {Q : β → Prop}

/-! ## What a reader gives -/

/-- Whatever the reader makes of tokens has the property. -/
def Gives (P : α → Prop) (p : Parse α) : Prop := ∀ ts a rest, p ts = .ok (a, rest) → P a

theorem gives_pure {a : α} (h : P a) : Gives P (pure a) := by
  rintro ts _ rest ⟨⟩
  exact h

/-- What is read in front does not matter. -/
theorem gives_bind {p : Parse α} {f : α → Parse β} (hf : ∀ a, Gives Q (f a)) :
    Gives Q (p >>= f) := by
  intro ts b rest h
  obtain ⟨a, mid, -, hmore⟩ := of_bind_ok h
  exact hf a mid b rest hmore

/-- Both ways give such a statement, so it does not matter which one is taken. -/
theorem gives_ite {c : Prop} [Decidable c] {p q : Parse α} (hp : Gives P p) (hq : Gives P q) :
    Gives P (if c then p else q) := by
  split
  · exact hp
  · exact hq

/-! ## Words in front of the table -/

variable {inner : Inner} {front body rest mid ts : List Token} {t u v : Token} {k : String}
  {ks : List String} {n : Name} {s : Statement}

/-- Words that may be left out are passed over, whether they stand there or not. -/
theorem keywords?_optional {words : List String} (hwords : words = [] ∨ words = k :: ks)
    (hfront : front.map Token.keyword? = words.map some) (hbody : headKeyword body ≠ some k) :
    ∃ found, keywords? (k :: ks) (front ++ body) = .ok (found, body) := by
  rcases hwords with rfl | rfl
  · obtain rfl := List.map_eq_nil_iff.1 hfront
    exact ⟨false, keywords?_of_ne hbody ks⟩
  · have hlength : (k :: ks).length = front.length := by
      have := congrArg List.length hfront
      simpa using this.symm
    refine ⟨true, ?_⟩
    rw [keywords?, startsWith_append hfront, if_pos rfl, hlength, List.drop_left]

/-! ## From the name on -/

/-- What a statement is about, behind its first words. -/
def About (n : Name) (s : Statement) : Prop := s.firstTable? = some n

/-- A table that is created is the one that is named. -/
theorem createTable_gives (hread : name body = .ok (n, rest))
    (hfound : ∃ found, keywords? ["IF", "NOT", "EXISTS"] (front ++ body) = .ok (found, body))
    (h : createTable inner (front ++ body) = .ok (s, mid)) : About n s := by
  obtain ⟨found, hfound⟩ := hfound
  rw [createTable, bind_of_ok hfound, bind_of_ok hread] at h
  -- The name has been read, and every way from here returns a statement about it.
  refine (?_ : Gives (About n) _) _ _ _ h
  refine gives_bind fun _ => gives_bind fun _ => ?_
  extract_lets columns copied
  have hcolumns : ∀ r, Gives (About n) (columns r) := fun r =>
    gives_bind fun _ => gives_bind fun _ => gives_bind fun _ => gives_pure rfl
  have hcopied : ∀ r, Gives (About n) (copied r) := fun r =>
    gives_bind fun _ => gives_ite (gives_bind fun _ => gives_bind hcolumns) (hcolumns ())
  exact gives_ite (gives_bind fun _ => gives_bind hcopied) (hcopied ())

/-- A table that is altered is the one that is named. -/
theorem alterTable_gives (hread : name body = .ok (n, rest))
    (honly : headKeyword body ≠ some "ONLY")
    (hfound : ∃ found, keywords? ["IF", "EXISTS"] (front ++ body) = .ok (found, body))
    (h : alterTable inner (front ++ body) = .ok (s, mid)) : About n s := by
  obtain ⟨found, hfound⟩ := hfound
  rw [alterTable, bind_of_ok hfound, bind_of_ok (keyword?_of_ne honly), bind_of_ok hread] at h
  refine (?_ : Gives (About n) _) _ _ _ h
  refine gives_bind fun _ => gives_bind fun _ => gives_bind fun _ => ?_
  extract_lets finish
  have hfinish : ∀ r, Gives (About n) (finish r) := fun r => gives_pure rfl
  exact gives_ite (gives_bind fun _ => hfinish ()) (hfinish ())

/-- The first of several names is the one that stands in front. -/
theorem names_gives (hread : name body = .ok (n, rest)) {ns : List Name}
    (h : names body = .ok (ns, mid)) : ns.head? = some n := by
  rw [names, commaSeparated, bind_of_ok hread] at h
  refine (?_ : Gives (fun ns => List.head? ns = some n) _) _ _ _ h
  exact gives_bind fun _ => gives_bind fun _ => gives_pure rfl

/-- Of the tables that are dropped, the first is the one that is named. -/
theorem dropTables_gives (hread : name body = .ok (n, rest))
    (hfound : ∃ found, keywords? ["IF", "EXISTS"] (front ++ body) = .ok (found, body))
    (h : dropTables (front ++ body) = .ok (s, mid)) : About n s := by
  obtain ⟨found, hfound⟩ := hfound
  rw [dropTables, bind_of_ok hfound] at h
  obtain ⟨all, behind, hall, hmore⟩ := of_bind_ok h
  have hfirst := names_gives hread hall
  refine (?_ : Gives (About n) _) _ _ _ hmore
  exact gives_bind fun _ => gives_pure hfirst

/-- Of the tables that are emptied, the first is the one that is named. -/
theorem truncate_gives (hread : name body = .ok (n, rest)) (honly : headKeyword body ≠ some "ONLY")
    (hfound : ∃ found, keywords? ["TABLE"] (front ++ body) = .ok (found, body))
    (h : truncate inner (front ++ body) = .ok (s, mid)) : About n s := by
  obtain ⟨found, hfound⟩ := hfound
  -- The names come first, and what follows them does not matter for what the statement is about.
  rw [truncate, keyword?, bind_of_ok hfound, bind_of_ok (keyword?_of_ne honly)] at h
  obtain ⟨all, behind, hall, hmore⟩ := of_bind_ok h
  have hfirst := names_gives hread hall
  refine (?_ : Gives (About n) _) _ _ _ hmore
  refine gives_bind fun _ => ?_
  extract_lets finish
  have hfinish : ∀ r, Gives (About n) (finish r) := fun r =>
    gives_bind fun _ => gives_pure hfirst
  exact gives_ite (gives_bind hfinish) (hfinish ())

/-! ## From the first word on

Which statement is read is told by the keywords in front. A token that spells a keyword spells no
other one, so each of these readers is followed through its alternatives. -/

/-- Only an unquoted word spells a keyword. -/
theorem eq_word_of_keyword? (ht : t.keyword? = some k) : ∃ text, t = .word text false := by
  unfold Token.keyword? at ht
  split at ht
  · exact ⟨_, rfl⟩
  · cases ht

/-- The first keyword tells how the statement goes on. -/
theorem statement_of_keyword (ht : t.keyword? = some k)
    (hk : k ∈ ["CREATE", "ALTER", "DROP", "TRUNCATE", "RENAME"]) (ts : List Token) :
    statement inner (t :: ts) = statementTail inner k ts := by
  obtain ⟨text, rfl⟩ := eq_word_of_keyword? ht
  simp only [List.mem_cons, List.not_mem_nil, or_false] at hk
  rcases hk with rfl | rfl | rfl | rfl | rfl <;>
    simp [statement, peek?, next, ht, bind, StateT.bind, Except.bind]

/-- A word that may be left out is not there. -/
theorem parameter?_of_ne (h : headKeyword ts ≠ some k) (p : Parse String) :
    parameter? k p ts = .ok ("", ts) := by
  rw [parameter?, bind_of_ok (keyword?_of_ne h), if_neg Bool.false_ne_true]
  rfl

/-- Nothing is said about a view in front of the tables. -/
theorem viewParameters_table (ht : t.keyword? = some "TABLE") (ts : List Token) :
    viewParameters (t :: ts) = .ok ("", t :: ts) := by
  have hne : ∀ k, k ≠ "TABLE" → headKeyword (t :: ts) ≠ some k := fun k hk htk =>
    hk (Option.some.inj (htk.symm.trans ht))
  rw [viewParameters, bind_of_ok (parameter?_of_ne (hne _ (by decide)) _),
    bind_of_ok (parameter?_of_ne (hne _ (by decide)) _),
    bind_of_ok (keywords?_of_ne (hne _ (by decide)) _), if_neg Bool.false_ne_true]
  rfl

/-- A table is created behind these words. -/
theorem statement_createTable (ht : t.keyword? = some "CREATE") (hu : u.keyword? = some "TABLE")
    (ts : List Token) : statement inner (t :: u :: ts) = createTable inner ts := by
  rw [statement_of_keyword ht (by decide)]
  simp [statementTail, create, viewParameters_table hu, keyword?, keywords?, oneOf?, startsWith,
    Token.isKeyword, hu, bind, StateT.bind, Except.bind]

/-- Nothing is different about a temporary one. -/
theorem statement_createTemporary (ht : t.keyword? = some "CREATE")
    (hu : u.keyword? = some "TEMPORARY") (hv : v.keyword? = some "TABLE") (ts : List Token) :
    statement inner (t :: u :: v :: ts) = createTable inner ts := by
  rw [statement_of_keyword ht (by decide)]
  simp [statementTail, create, viewParameters_table hv, keyword?, keywords?, oneOf?, startsWith,
    Token.isKeyword, hu, hv, bind, StateT.bind, Except.bind]

/-- A table is altered behind these words. -/
theorem statement_alterTable (ht : t.keyword? = some "ALTER") (hu : u.keyword? = some "TABLE")
    (ts : List Token) : statement inner (t :: u :: ts) = alterTable inner ts := by
  rw [statement_of_keyword ht (by decide)]
  simp [statementTail, alter, oneOf, oneOf?, startsWith, Token.isKeyword, hu, pure_run, bind,
    StateT.bind, Except.bind]

/-- The words that say how a table is altered are not known. -/
theorem statement_alterMode (ht : t.keyword? = some "ALTER") (hu : u.keyword? = some k)
    (hk : k ∈ ["ONLINE", "IGNORE"]) (ts : List Token) :
    statement inner (t :: u :: ts) = .error .mismatch := by
  simp only [List.mem_cons, List.not_mem_nil, or_false] at hk
  rw [statement_of_keyword ht (by decide)]
  rcases hk with rfl | rfl <;>
    simp [statementTail, alter, oneOf, oneOf?, startsWith, Token.isKeyword, hu, bind, StateT.bind,
      Except.bind, fail]

/-- Tables are dropped behind these words. -/
theorem statement_dropTable (ht : t.keyword? = some "DROP") (hu : u.keyword? = some "TABLE")
    (ts : List Token) :
    statement inner (t :: u :: ts) = dropTables ts := by
  rw [statement_of_keyword ht (by decide)]
  simp [statementTail, drop, keyword?, keywords?, startsWith, Token.isKeyword, hu, bind,
    StateT.bind, Except.bind]

/-- Nothing is different about temporary ones. -/
theorem statement_dropTemporary (ht : t.keyword? = some "DROP") (hu : u.keyword? = some "TEMPORARY")
    (hv : v.keyword? = some "TABLE") (ts : List Token) :
    statement inner (t :: u :: v :: ts) = dropTables ts := by
  rw [statement_of_keyword ht (by decide)]
  simp [statementTail, drop, keyword?, keywords?, startsWith, Token.isKeyword, hu, hv, bind,
    StateT.bind, Except.bind]

/-- Tables are emptied behind this word. -/
theorem statement_truncate (ht : t.keyword? = some "TRUNCATE") (ts : List Token) :
    statement inner (t :: ts) = truncate inner ts :=
  statement_of_keyword ht (by decide) ts

/-- New names are all that is said behind `RENAME`. -/
theorem statement_rename (ht : t.keyword? = some "RENAME") {ts : List Token}
    (h : statement inner (t :: ts) = .ok (s, rest)) : ∃ pairs, s = .renameTables pairs := by
  rw [statement_of_keyword ht (by decide)] at h
  refine (?_ : Gives (fun s => ∃ pairs, s = .renameTables pairs) _) _ _ _ h
  exact gives_bind fun _ => gives_bind fun pairs => gives_pure ⟨pairs, rfl⟩

end Parse

end ChangeFeed.Sql
