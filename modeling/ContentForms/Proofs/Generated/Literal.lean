import ContentForms.Generated.Literal

namespace ContentForms.Generated

-- What stands between the quotes of a literal, and the text that it spells. A backslash makes the
-- next character part of the text; without one, a quote cannot be.
inductive LiteralBody : List Char → List Char → Prop where
  | nil : LiteralBody [] []
  | plain {c : Char} {body text : List Char} (hq : c ≠ '\'') (hb : c ≠ '\\')
      (h : LiteralBody body text) : LiteralBody (c :: body) (c :: text)
  | escaped {c : Char} {body text : List Char} (h : LiteralBody body text) :
      LiteralBody ('\\' :: c :: body) (c :: text)

def IsLiteral (literal text : List Char) : Prop :=
  ∃ body, literal = '\'' :: body ++ ['\''] ∧ LiteralBody body text

section Reading

variable {body text input after : List Char}

private theorem readRest?_of_literalBody (h : LiteralBody body text) :
    readRest? (body ++ '\'' :: after) = some (text, after) := by
  induction h with
  | nil => rfl
  | @plain c body text hq hb h ih =>
      rw [List.cons_append, readRest?, if_neg hb, ih, Option.map_some]
      · exact hq
      · intro _ _ hc
        exact absurd hc hb
  | @escaped c body text h ih =>
      rw [List.cons_append, List.cons_append, readRest?, ih, Option.map_some]

private theorem exists_literalBody_of_readRest? (h : readRest? input = some (text, after)) :
    ∃ body, input = body ++ '\'' :: after ∧ LiteralBody body text := by
  fun_induction readRest? input generalizing text with
  | case1 => cases h
  | case2 rest =>
      cases h
      exact ⟨[], rfl, .nil⟩
  | case3 c rest ih =>
      obtain ⟨⟨inner, left⟩, hread, heq⟩ := Option.map_eq_some_iff.mp h
      obtain ⟨rfl, rfl⟩ := Prod.mk.inj heq
      obtain ⟨body, rfl, hs⟩ := ih hread
      exact ⟨'\\' :: c :: body, rfl, .escaped hs⟩
  | case4 => cases h
  | case5 c rest hq hpair hb ih =>
      obtain ⟨⟨inner, left⟩, hread, heq⟩ := Option.map_eq_some_iff.mp h
      obtain ⟨rfl, rfl⟩ := Prod.mk.inj heq
      obtain ⟨body, rfl, hs⟩ := ih hread
      exact ⟨c :: body, rfl, .plain hq hb hs⟩

-- The reader reads literals, and nothing else.
theorem readQuoted?_eq_some_iff :
    readQuoted? input = some (text, after) ↔
      ∃ literal, input = literal ++ after ∧ IsLiteral literal text := by
  constructor
  · intro h
    unfold readQuoted? at h
    split at h
    · obtain ⟨body, rfl, hs⟩ := exists_literalBody_of_readRest? h
      exact ⟨'\'' :: body ++ ['\''], by simp, body, rfl, hs⟩
    · cases h
  · rintro ⟨_, rfl, body, rfl, hs⟩
    rw [List.append_assoc, List.cons_append, readQuoted?]
    exact readRest?_of_literalBody hs

-- Where two literals begin the same text, they are one.
theorem IsLiteral.unique {literal other read left : List Char} (h : IsLiteral literal text)
    (ho : IsLiteral other read) (heq : literal ++ after = other ++ left) :
    literal = other ∧ text = read ∧ after = left := by
  have hread : readQuoted? (literal ++ after) = some (text, after) :=
    readQuoted?_eq_some_iff.mpr ⟨literal, rfl, h⟩
  have hother : readQuoted? (literal ++ after) = some (read, left) :=
    readQuoted?_eq_some_iff.mpr ⟨other, heq, ho⟩
  obtain ⟨rfl, rfl⟩ := Prod.mk.inj (Option.some.inj (hread.symm.trans hother))
  exact ⟨List.append_cancel_right heq, rfl, rfl⟩

end Reading

private theorem literalBody_escape (text : List Char) : LiteralBody (escape text) text := by
  induction text with
  | nil => exact .nil
  | cons c rest ih =>
      rw [escape_cons]
      split
      · exact .escaped ih
      · rename_i hplain
        rw [not_or] at hplain
        exact .plain hplain.2 hplain.1 ih

theorem isLiteral_quote (text : String) : IsLiteral (quote text).toList text.toList := by
  refine ⟨escape text.toList, ?_, literalBody_escape text.toList⟩
  rw [quote, String.toList_ofList, quoteChars]

theorem eq_of_quote_prefix {text other : String}
    (h : (quote text).toList <+: (quote other).toList) : text = other := by
  obtain ⟨after, heq⟩ := h
  have hend : (quote other).toList = (quote other).toList ++ [] := (List.append_nil _).symm
  have hunique := (isLiteral_quote text).unique (isLiteral_quote other) (heq.trans hend)
  exact String.toList_inj.mp hunique.2.1

-- A literal ends at the first quote that no backslash makes part of its text, so no two literals
-- begin the same text.
theorem quote_read_exactly (text rest : String) :
    readQuoted? (quote text ++ rest).toList = some (text.toList, rest.toList) ∧
      (∀ literal read after, IsLiteral literal read →
        (quote text ++ rest).toList = literal ++ after →
          literal = (quote text).toList ∧ read = text.toList ∧ after = rest.toList) ∧
      Function.Injective quote ∧
      ∀ other, (quote text).toList <+: (quote other).toList → text = other := by
  rw [String.toList_append]
  refine ⟨?_, ?_, ?_, ?_⟩
  · exact readQuoted?_eq_some_iff.mpr ⟨(quote text).toList, rfl, isLiteral_quote text⟩
  · intro literal read after hliteral heq
    exact hliteral.unique (isLiteral_quote text) heq.symm
  · intro first second heq
    have hprefix : (quote first).toList <+: (quote second).toList := heq ▸ List.prefix_refl _
    exact eq_of_quote_prefix hprefix
  · intro other hprefix
    exact eq_of_quote_prefix hprefix

-- A quote behind a backslash, a backslash at the end, and one more quote after the literal.
theorem quote_read_hostile :
    (quote "it\\'s\\").toList = "'it\\\\\\'s\\\\'".toList ∧
      readQuoted? "'it\\\\\\'s\\\\'' + x".toList =
        some ("it\\'s\\".toList, "' + x".toList) := by
  have hquote : quote "it\\'s\\" = "'it\\\\\\'s\\\\'" := by decide +kernel
  have hread := (quote_read_exactly "it\\'s\\" "' + x").1
  rw [hquote] at hread
  exact ⟨congrArg String.toList hquote, hread⟩

end ContentForms.Generated
