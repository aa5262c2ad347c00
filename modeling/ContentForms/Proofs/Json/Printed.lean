import ContentForms.Json.Printer
import ContentForms.Proofs.Json.Denoted

namespace ContentForms.Json

-- A value without numbers whose objects have every name once.
inductive Plain : Json → Prop where
  | null : Plain .null
  | bool (value : Bool) : Plain (.bool value)
  | string (text : String) : Plain (.string text)
  | array {items : List Json} (h : ∀ item ∈ items, Plain item) : Plain (.array items)
  | object {members : List (String × Json)} (hnodup : (members.map Prod.fst).Nodup)
      (h : ∀ member ∈ members, Plain member.2) : Plain (.object members)

section Characters

theorem isHexDigit_digitChar {n : Nat} (h : n < 16) : IsHexDigit n.digitChar n := ⟨h, .inl rfl⟩

-- A number of one digit more has the digits of its sixteenth in front.
theorem hexDigits_succ {width n : Nat} (hwidth : 0 < width) :
    Text.hexDigits (width + 1) n = Text.hexDigits width (n / 16) ++ [(n % 16).digitChar] := by
  unfold Text.hexDigits
  by_cases hn : n < 16
  · rw [Nat.toDigits_of_lt_base hn, Nat.div_eq_of_lt hn, Nat.toDigits_zero, Nat.mod_eq_of_lt hn]
    obtain ⟨width, rfl⟩ : ∃ k, width = k + 1 := ⟨width - 1, by omega⟩
    simp [List.replicate_succ']
  · rw [Nat.toDigits_of_base_le (by omega) (by omega)]
    simp

private theorem hexDigits_one {n : Nat} (h : n < 16) : Text.hexDigits 1 n = [n.digitChar] := by
  simp [Text.hexDigits, Nat.toDigits_of_lt_base h]

theorem isUnit_hexDigits {n : Nat} (h : n < 0x10000) : IsUnit (Text.hexDigits 4 n) n := by
  rw [hexDigits_succ (by omega), hexDigits_succ (by omega), hexDigits_succ (by omega),
    hexDigits_one (by omega)]
  have hunit := IsUnit.digits (isHexDigit_digitChar (n := n / 16 / 16 / 16) (by omega))
    (isHexDigit_digitChar (n := n / 16 / 16 % 16) (by omega))
    (isHexDigit_digitChar (n := n / 16 % 16) (by omega))
    (isHexDigit_digitChar (n := n % 16) (by omega))
  have hvalue :
      ((n / 16 / 16 / 16 * 16 + n / 16 / 16 % 16) * 16 + n / 16 % 16) * 16 + n % 16 = n := by omega
  rwa [hvalue] at hunit

theorem spells_codeEscape (c : Char) : Spells (codeEscape c.toNat) c := by
  have hvalid : c.toNat < 0xD800 ∨ 0xDFFF < c.toNat ∧ c.toNat < 0x110000 := c.valid
  unfold codeEscape
  split
  · rename_i h
    have hspells := Spells.unit (isUnit_hexDigits h) (by omega)
    rwa [Char.ofNat_toNat] at hspells
  · rename_i h
    have hspells := Spells.pair
      (isUnit_hexDigits (n := 0xD800 + (c.toNat - 0x10000) / 0x400) (by omega)) (by omega)
      (isUnit_hexDigits (n := 0xDC00 + (c.toNat - 0x10000) % 0x400) (by omega)) (by omega)
    have hcode : 0x10000 + (c.toNat - 0x10000) / 0x400 * 0x400 + (c.toNat - 0x10000) % 0x400 =
        c.toNat := by omega
    rw [hcode, Char.ofNat_toNat] at hspells
    exact hspells

theorem spells_of_shortEscape? {c : Char} {w : List Char} (h : shortEscape? c = some w) :
    Spells w c := by
  have hof : ∀ code, c.toNat = code → c = Char.ofNat code := by
    rintro code rfl
    rw [Char.ofNat_toNat]
  unfold shortEscape? at h
  split at h
  · rename_i hc
    cases h
    obtain rfl | rfl := hc <;> exact .escape (by decide)
  · split at h
    · rename_i hc
      cases h
      exact hc ▸ .escape (by decide)
    · split at h
      · rename_i hc
        cases h
        exact hc ▸ .escape (by decide)
      · split at h
        · rename_i hc
          cases h
          exact hc ▸ .escape (by decide)
        · split at h
          · rename_i hc
            cases h
            exact hof 8 hc ▸ .escape (by decide)
          · split at h
            · rename_i hc
              cases h
              exact hof 12 hc ▸ .escape (by decide)
            · cases h

theorem ne_of_shortEscape? {c : Char} (h : shortEscape? c = none) : c ≠ '"' ∧ c ≠ '\\' := by
  refine ⟨?_, ?_⟩ <;> rintro rfl <;> cases h

theorem spells_plainChar (c : Char) : Spells (plainChar c) c := by
  unfold plainChar
  cases h : shortEscape? c with
  | some w => exact spells_of_shortEscape? h
  | none =>
      obtain ⟨hquote, hslash⟩ := ne_of_shortEscape? h
      rw [Option.getD_none]
      split
      · rename_i hcontrol
        have hcode : codeEscape c.toNat = unitEscape c.toNat := if_pos (by omega)
        rw [← hcode]
        exact spells_codeEscape c
      · exact .plain (by omega) hquote hslash

theorem spells_asciiChar (c : Char) : Spells (asciiChar c) c := by
  unfold asciiChar
  cases h : shortEscape? c with
  | some w => exact spells_of_shortEscape? h
  | none =>
      obtain ⟨hquote, hslash⟩ := ne_of_shortEscape? h
      rw [Option.getD_none]
      split
      · rename_i hshown
        exact .plain hshown.1 hquote hslash
      · exact spells_codeEscape c

end Characters

section Layout

-- What the printers may choose: how to write a character, what to put behind a comma and behind a
-- colon, and what to put between the brackets and what they hold.
variable {writeChar : Char → List Char} {separator colon : String}
  {gap space front back : List Char}

theorem spellsAll_flatMap (hchar : ∀ c, Spells (writeChar c) c) (cs : List Char) :
    SpellsAll (cs.flatMap writeChar) cs := by
  induction cs with
  | nil => exact .nil
  | cons c cs ih => exact .cons (hchar c) ih

theorem toList_quotedWith (text : String) :
    (quotedWith writeChar text).toList = '"' :: text.toList.flatMap writeChar ++ ['"'] :=
  String.toList_ofList

theorem written_quotedWith (hchar : ∀ c, Spells (writeChar c) c) (text : String) :
    Written (quotedWith writeChar text).toList (.string text) := by
  rw [toList_quotedWith]
  exact .string (spellsAll_flatMap hchar text.toList)

theorem blank_nil : Blank [] := by decide

-- Texts that are joined by a comma and a gap, with more gaps before and behind them all.
theorem separated_joined {P : List Char → α → Prop} (hgap : Blank gap)
    (hseparator : separator.toList = ',' :: gap) (hback : Blank back) {write : α → String}
    {items : List α} (hne : items ≠ []) (hfront : Blank front)
    (h : ∀ item ∈ items, ∀ {before after}, Blank before → Blank after →
      P (before ++ (write item).toList ++ after) item) :
    Separated P (front ++ (Text.joined separator (items.map write)).toList ++ back) items := by
  induction items generalizing front with
  | nil => exact absurd rfl hne
  | cons item rest ih =>
      cases rest with
      | nil => exact .last (h item (by simp) hfront hback)
      | cons next rest =>
          have hrest := ih (by simp) hgap fun item hm => h item (List.mem_cons_of_mem _ hm)
          have hmore := Separated.more (h item (by simp) hfront blank_nil) hrest
          simpa [Text.joined, hseparator] using hmore

theorem written_array (hgap : Blank gap) (hseparator : separator.toList = ',' :: gap)
    (hfront : Blank front) (hback : Blank back) {write : Json → String} {items : List Json}
    (hne : items ≠ []) (h : ∀ item ∈ items, Written (write item).toList item) :
    Written ('[' :: (front ++ (Text.joined separator (items.map write)).toList ++ back) ++ [']'])
      (.array items) :=
  .array (separated_joined hgap hseparator hback hne hfront
    fun item hm => fun hbefore hafter => .padded hbefore (h item hm) hafter)

def memberText (writeChar : Char → List Char) (colon : String) (write : Json → String)
    (member : String × Json) : String :=
  quotedWith writeChar member.1 ++ colon ++ write member.2

private theorem denotesMember_memberText (hchar : ∀ c, Spells (writeChar c) c)
    (hcolon : colon.toList = ':' :: space) (hspace : Blank space) {write : Json → String}
    {member : String × Json} (h : Written (write member.2).toList member.2)
    {before after : List Char} (hbefore : Blank before) (hafter : Blank after) :
    DenotesMember (before ++ (memberText writeChar colon write member).toList ++ after) member := by
  have hmember := DenotesMember.member hbefore (spellsAll_flatMap hchar member.1.toList) blank_nil
    (Denotes.padded hspace h hafter)
  simpa [memberText, toList_quotedWith, hcolon] using hmember

theorem written_object (hchar : ∀ c, Spells (writeChar c) c) (hcolon : colon.toList = ':' :: space)
    (hspace : Blank space) (hgap : Blank gap) (hseparator : separator.toList = ',' :: gap)
    (hfront : Blank front) (hback : Blank back) {write : Json → String}
    {members : List (String × Json)} (hne : members ≠ []) (hnodup : (members.map Prod.fst).Nodup)
    (h : ∀ member ∈ members, Written (write member.2).toList member.2) :
    Written ('{' :: (front ++ (Text.joined separator
      (members.map (memberText writeChar colon write))).toList ++ back) ++ ['}'])
      (.object members) := by
  have hwritten := Written.object (separated_joined hgap hseparator hback hne hfront
    fun member hm => denotesMember_memberText hchar hcolon hspace (h member hm))
  rwa [OrderedMap.entries_ofList hnodup] at hwritten

end Layout

section Compact

private theorem compactItems_eq (items : List Json) : compactItems items = items.map compact := by
  induction items with
  | nil => rw [compactItems, List.map_nil]
  | cons item rest ih => rw [compactItems, ih, List.map_cons]

private theorem compactMembers_eq (members : List (String × Json)) :
    compactMembers members = members.map (memberText plainChar ":" compact) := by
  induction members with
  | nil => rw [compactMembers, List.map_nil]
  | cons member rest ih =>
      rw [compactMembers, ih, List.map_cons]
      rfl

theorem written_compact {value : Json} (h : Plain value) :
    Written (compact value).toList value := by
  induction h with
  | null => exact .null
  | bool value => cases value <;> constructor
  | string text => exact written_quotedWith spells_plainChar text
  | @array items _ ih =>
      rw [compact, compactItems_eq]
      by_cases hne : items = []
      · subst hne
        exact .emptyArray blank_nil
      · have hwritten := written_array blank_nil (show ",".toList = [','] from rfl) blank_nil
          blank_nil hne ih
        simpa using hwritten
  | @object members hnodup _ ih =>
      rw [compact, compactMembers_eq]
      by_cases hne : members = []
      · subst hne
        exact .emptyObject blank_nil
      · have hwritten := written_object spells_plainChar (show ":".toList = [':'] from rfl)
          blank_nil blank_nil (show ",".toList = [','] from rfl) blank_nil blank_nil hne hnodup ih
        simpa using hwritten

theorem denotes_compact {value : Json} (h : Plain value) :
    Denotes (compact value).toList value := by
  simpa using Denotes.padded blank_nil (written_compact h) blank_nil

end Compact

section Indented

private theorem indentedItems_eq (depth : Nat) (items : List Json) :
    indentedItems depth items = items.map (indentedAt depth) := by
  induction items with
  | nil => rw [indentedItems, List.map_nil]
  | cons item rest ih => rw [indentedItems, ih, List.map_cons]

private theorem indentedMembers_eq (depth : Nat) (members : List (String × Json)) :
    indentedMembers depth members =
      members.map (memberText asciiChar ": " (indentedAt depth)) := by
  induction members with
  | nil => rw [indentedMembers, List.map_nil]
  | cons member rest ih =>
      rw [indentedMembers, ih, List.map_cons]
      rfl

theorem blank_newline (depth : Nat) : Blank (newline depth).toList := by
  intro c hc
  rw [newline, String.toList_ofList, List.mem_cons] at hc
  obtain rfl | hc := hc
  · decide
  · rw [List.eq_of_mem_replicate hc]
    decide

theorem toList_comma_newline (depth : Nat) :
    ("," ++ newline depth).toList = ',' :: (newline depth).toList := by
  rw [String.toList_append]
  rfl

-- The line breaks are blanks around the items, so the text stands for the same value at any depth.
theorem written_indentedAt {value : Json} (h : Plain value) (depth : Nat) :
    Written (indentedAt depth value).toList value := by
  induction h generalizing depth with
  | null =>
      rw [indentedAt]
      · exact .null
      all_goals simp
  | bool value =>
      rw [indentedAt]
      · cases value <;> constructor
      all_goals simp
  | string text =>
      rw [indentedAt]
      exact written_quotedWith spells_asciiChar text
  | @array items _ ih =>
      cases items with
      | nil =>
          rw [indentedAt]
          exact .emptyArray blank_nil
      | cons item rest =>
          have hwritten := written_array (blank_newline (depth + 1))
            (toList_comma_newline (depth + 1)) (blank_newline (depth + 1)) (blank_newline depth)
            (List.cons_ne_nil item rest) fun item hm => ih item hm (depth + 1)
          rw [indentedAt, indentedItems_eq]
          simpa using hwritten
  | @object members hnodup _ ih =>
      cases members with
      | nil =>
          rw [indentedAt]
          exact .emptyObject blank_nil
      | cons member rest =>
          have hwritten := written_object spells_asciiChar (show ": ".toList = [':', ' '] from rfl)
            (by decide) (blank_newline (depth + 1)) (toList_comma_newline (depth + 1))
            (blank_newline (depth + 1)) (blank_newline depth) (List.cons_ne_nil member rest) hnodup
            fun member hm => ih member hm (depth + 1)
          rw [indentedAt, indentedMembers_eq]
          simpa using hwritten

-- A printed text ends with a line break.
theorem denotes_indented {value : Json} (h : Plain value) :
    Denotes (indented value ++ "\n").toList value := by
  have hend : Blank ['\n'] := by decide
  have hdenotes := Denotes.padded blank_nil (written_indentedAt h 0) hend
  simpa [indented] using hdenotes

end Indented

end ContentForms.Json
