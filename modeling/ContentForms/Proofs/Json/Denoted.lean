import ContentForms.Json.Reader
import ContentForms.Proofs.OrderedMap
import Mathlib.Data.List.Basic

namespace ContentForms.Json

def Blank (cs : List Char) : Prop := ∀ c ∈ cs, c ∈ [' ', '\t', '\n', '\r']

instance (cs : List Char) : Decidable (Blank cs) := List.decidableBAll _ cs

def IsHexDigit (c : Char) (n : Nat) : Prop :=
  n < 16 ∧ (c = n.digitChar ∨ c = n.digitChar.toUpper)

inductive IsUnit : List Char → Nat → Prop where
  | digits {a b c d : Char} {i j k l : Nat} (ha : IsHexDigit a i) (hb : IsHexDigit b j)
      (hc : IsHexDigit c k) (hd : IsHexDigit d l) :
      IsUnit [a, b, c, d] (((i * 16 + j) * 16 + k) * 16 + l)

def escapes : List (Char × Char) :=
  [('"', '"'), ('\\', '\\'), ('/', '/'), ('b', Char.ofNat 8), ('f', Char.ofNat 12), ('n', '\n'),
    ('r', '\r'), ('t', '\t')]

-- The ways to write a character of a string.
inductive Spells : List Char → Char → Prop where
  | plain {c : Char} (h : 0x20 ≤ c.toNat) (hquote : c ≠ '"') (hslash : c ≠ '\\') : Spells [c] c
  | escape {letter c : Char} (h : (letter, c) ∈ escapes) : Spells ['\\', letter] c
  | unit {digits : List Char} {code : Nat} (h : IsUnit digits code)
      (hcode : code < 0xD800 ∨ 0xE000 ≤ code) :
      Spells ('\\' :: 'u' :: digits) (Char.ofNat code)
  | pair {high low : List Char} {i j : Nat} (hhigh : IsUnit high (0xD800 + i)) (hi : i < 0x400)
      (hlow : IsUnit low (0xDC00 + j)) (hj : j < 0x400) :
      Spells ('\\' :: 'u' :: high ++ '\\' :: 'u' :: low) (Char.ofNat (0x10000 + i * 0x400 + j))

inductive SpellsAll : List Char → List Char → Prop where
  | nil : SpellsAll [] []
  | cons {w ws : List Char} {c : Char} {cs : List Char} (h : Spells w c) (hs : SpellsAll ws cs) :
      SpellsAll (w ++ ws) (c :: cs)

theorem Spells.length_pos {w : List Char} {c : Char} (h : Spells w c) : 0 < w.length := by
  cases h <;> simp

inductive Separated (P : List Char → α → Prop) : List Char → List α → Prop where
  | last {w : List Char} {a : α} (h : P w a) : Separated P w [a]
  | more {w ws : List Char} {a : α} {as : List α} (h : P w a) (hs : Separated P ws as) :
      Separated P (w ++ ',' :: ws) (a :: as)

mutual

inductive Written : List Char → Json → Prop where
  | null : Written ['n', 'u', 'l', 'l'] .null
  | true : Written ['t', 'r', 'u', 'e'] (.bool true)
  | false : Written ['f', 'a', 'l', 's', 'e'] (.bool false)
  | string {ws : List Char} {text : String} (h : SpellsAll ws text.toList) :
      Written ('"' :: ws ++ ['"']) (.string text)
  | emptyArray {gap : List Char} (h : Blank gap) : Written ('[' :: gap ++ [']']) (.array [])
  | array {ws : List Char} {items : List Json} (h : Separated Denotes ws items) :
      Written ('[' :: ws ++ [']']) (.array items)
  | emptyObject {gap : List Char} (h : Blank gap) : Written ('{' :: gap ++ ['}']) (.object [])
  -- Of members with one name the last counts, in the place of the first.
  | object {ws : List Char} {members : List (String × Json)}
      (h : Separated DenotesMember ws members) :
      Written ('{' :: ws ++ ['}']) (.object (OrderedMap.ofList members).entries)

-- A value with blanks around it.
inductive Denotes : List Char → Json → Prop where
  | padded {front w back : List Char} {value : Json} (hfront : Blank front) (h : Written w value)
      (hback : Blank back) : Denotes (front ++ w ++ back) value

inductive DenotesMember : List Char → String × Json → Prop where
  | member {front name back w : List Char} {text : String} {value : Json} (hfront : Blank front)
      (hname : SpellsAll name text.toList) (hback : Blank back) (h : Denotes w value) :
      DenotesMember (front ++ '"' :: name ++ '"' :: back ++ ':' :: w) (text, value)

end

namespace Reader

section Blanks

theorem skipBlanks_append {gap : List Char} (h : Blank gap) (rest : List Char) :
    skipBlanks (gap ++ rest) = skipBlanks rest := by
  induction gap with
  | nil => rfl
  | cons c gap ih =>
      obtain ⟨hc, hgap⟩ := List.forall_mem_cons.mp h
      have hblanks : [' ', '\t', '\n', '\r'].all isBlank = true := by decide
      have hblank : isBlank c = true := List.all_eq_true.mp hblanks c hc
      rw [List.cons_append, skipBlanks, List.dropWhile_cons_of_pos hblank]
      exact ih hgap

theorem skipBlanks_cons {c : Char} (h : isBlank c = false) (rest : List Char) :
    skipBlanks (c :: rest) = c :: rest := by
  rw [skipBlanks, List.dropWhile_cons_of_neg (by simp [h])]

theorem skipBlanks_gap {gap : List Char} (h : Blank gap) {c : Char} (hc : isBlank c = false)
    (rest : List Char) : skipBlanks (gap ++ c :: rest) = c :: rest := by
  rw [skipBlanks_append h, skipBlanks_cons hc]

end Blanks

section Strings

theorem hexValue?_of_isHexDigit {c : Char} {n : Nat} (h : IsHexDigit c n) :
    hexValue? c = some n := by
  have hdigits : ∀ n < 16, hexValue? n.digitChar = some n ∧
      hexValue? n.digitChar.toUpper = some n := by decide
  obtain ⟨hn, rfl | rfl⟩ := h
  · exact (hdigits n hn).1
  · exact (hdigits n hn).2

theorem unit?_of_isUnit {digits : List Char} {code : Nat} (h : IsUnit digits code)
    (rest : List Char) : unit? (digits ++ rest) = some (code, rest) := by
  cases h with
  | digits ha hb hc hd =>
      simp [unit?, hexValue?_of_isHexDigit ha, hexValue?_of_isHexDigit hb,
        hexValue?_of_isHexDigit hc, hexValue?_of_isHexDigit hd]

private theorem unicodeEscape?_of_unit {digits : List Char} {code : Nat} (h : IsUnit digits code)
    (hcode : code < 0xD800 ∨ 0xE000 ≤ code) (rest : List Char) :
    unicodeEscape? (digits ++ rest) = some (Char.ofNat code, rest) := by
  have hhigh : isHighUnit code = false := by
    simp only [isHighUnit, Bool.and_eq_false_iff, decide_eq_false_iff_not]
    omega
  have hlow : isLowUnit code = false := by
    simp only [isLowUnit, Bool.and_eq_false_iff, decide_eq_false_iff_not]
    omega
  have hchar : charOfUnit code = Char.ofNat code := by simp [charOfUnit, hhigh, hlow]
  simp only [unicodeEscape?, unit?_of_isUnit h, hhigh, hchar]

private theorem unicodeEscape?_of_pair {high low : List Char} {i j : Nat}
    (hhigh : IsUnit high (0xD800 + i)) (hi : i < 0x400) (hlow : IsUnit low (0xDC00 + j))
    (hj : j < 0x400) (rest : List Char) :
    unicodeEscape? (high ++ '\\' :: 'u' :: low ++ rest) =
      some (Char.ofNat (0x10000 + i * 0x400 + j), rest) := by
  have hisHigh : isHighUnit (0xD800 + i) = true := by
    simp only [isHighUnit, Bool.and_eq_true, decide_eq_true_eq]
    omega
  have hisLow : isLowUnit (0xDC00 + j) = true := by
    simp only [isLowUnit, Bool.and_eq_true, decide_eq_true_eq]
    omega
  rw [List.append_assoc, unicodeEscape?, unit?_of_isUnit hhigh]
  simp only [hisHigh, List.cons_append, unit?_of_isUnit hlow, hisLow, if_true,
    Nat.add_sub_cancel_left]

theorem slash_ne_quote : ¬ '\\' = '"' := by decide

-- One character of a string takes one step.
private theorem stringRest_of_spells {w : List Char} {c : Char} (h : Spells w c) (start fuel : Nat)
    (done rest : List Char) :
    stringRest start (fuel + 1) done (w ++ rest) = stringRest start fuel (c :: done) rest := by
  cases h with
  | plain h hquote hslash =>
      have hcontrol : ¬ c.toNat < 0x20 := by omega
      simp only [List.singleton_append, stringRest, if_neg hquote, if_neg hslash, if_neg hcontrol]
  | escape h =>
      have hletters : escapes.all fun pair =>
          simpleEscape? pair.1 = some pair.2 && pair.1 ≠ 'u' := by decide
      have hpair := List.all_eq_true.mp hletters _ h
      simp only [Bool.and_eq_true, decide_eq_true_eq] at hpair
      obtain ⟨hsimple, hletter⟩ := hpair
      simp only [List.cons_append, List.nil_append, stringRest, if_neg slash_ne_quote, if_true,
        hsimple]
  | unit h hcode =>
      simp only [List.cons_append, stringRest, if_neg slash_ne_quote, if_true,
        unicodeEscape?_of_unit h hcode]
  | pair hhigh hi hlow hj =>
      have hread := unicodeEscape?_of_pair hhigh hi hlow hj rest
      simp only [List.append_assoc, List.cons_append] at hread
      simp only [List.append_assoc, List.cons_append, stringRest, if_neg slash_ne_quote, if_true,
        hread]

-- Every character takes at least one of the text, so as many steps as there is text suffice.
theorem stringRest_of_spellsAll {ws cs : List Char} (h : SpellsAll ws cs) {start fuel : Nat}
    (hfuel : ws.length < fuel) (done rest : List Char) :
    stringRest start fuel done (ws ++ '"' :: rest) =
      .ok (String.ofList (done.reverse ++ cs), rest) := by
  induction h generalizing fuel done with
  | nil =>
      obtain ⟨fuel, rfl⟩ : ∃ n, fuel = n + 1 := ⟨fuel - 1, by omega⟩
      simp only [List.nil_append, stringRest, if_true, List.append_nil]
  | @cons w ws c cs h hs ih =>
      have hpos := h.length_pos
      rw [List.length_append] at hfuel
      obtain ⟨fuel, rfl⟩ : ∃ n, fuel = n + 1 := ⟨fuel - 1, by omega⟩
      rw [List.append_assoc, stringRest_of_spells h, ih (by omega), List.reverse_cons,
        List.append_assoc, List.singleton_append]

theorem string_of_spellsAll {ws : List Char} {text : String} (h : SpellsAll ws text.toList)
    (rest : List Char) : string (ws ++ '"' :: rest) = .ok (text, rest) := by
  have hlength : ws.length < (ws ++ '"' :: rest).length + 1 := by
    rw [List.length_append]
    omega
  rw [string, stringRest_of_spellsAll h hlength, List.reverse_nil, List.nil_append,
    String.ofList_toList]

end Strings

section Values

def firsts : List Char := ['n', 't', 'f', '"', '[', '{']

theorem exists_cons_of_written {w : List Char} {value : Json} (h : Written w value) :
    ∃ c w', w = c :: w' ∧ c ∈ firsts := by
  cases h <;> exact ⟨_, _, rfl, by decide⟩

theorem not_blank_of_first {c : Char} (h : c ∈ firsts) : isBlank c = false ∧ c ≠ ']' := by
  have hfirsts : firsts.all fun c => !isBlank c && c ≠ ']' := by decide
  simpa using List.all_eq_true.mp hfirsts c h

-- A text that stands for a value begins, after blanks, with a character that ends nothing.
theorem exists_cons_of_denotes {w : List Char} {value : Json} (h : Denotes w value)
    (rest : List Char) : ∃ c w', skipBlanks (w ++ rest) = c :: w' ∧ c ≠ ']' := by
  cases h with
  | padded hfront h hback =>
      obtain ⟨c, w', rfl, hc⟩ := exists_cons_of_written h
      obtain ⟨hblank, hne⟩ := not_blank_of_first hc
      simp only [List.append_assoc, List.cons_append]
      exact ⟨c, _, skipBlanks_gap hfront hblank _, hne⟩

private theorem skipBlanks_of_written {w : List Char} {value : Json} (h : Written w value)
    (rest : List Char) : skipBlanks (w ++ rest) = w ++ rest := by
  obtain ⟨c, w', rfl, hc⟩ := exists_cons_of_written h
  exact skipBlanks_cons (not_blank_of_first hc).1 _

private theorem value_array {fuel : Nat} {rest : List Char} {c : Char} {w : List Char}
    (h : skipBlanks rest = c :: w) (hc : c ≠ ']') :
    value (fuel + 1) ('[' :: rest) = items fuel [] (skipBlanks rest) := by
  simp only [value, h]
  split
  · rename_i heq
    cases heq
    exact absurd rfl hc
  · rfl

private theorem value_object {fuel : Nat} {rest : List Char} {w : List Char}
    (h : skipBlanks rest = '"' :: w) :
    value (fuel + 1) ('{' :: rest) = members fuel [] (skipBlanks rest) := by
  simp only [value, h]
  split
  · rename_i heq
    cases heq
  · rfl

def putAll (done members : List (String × Json)) : List (String × Json) :=
  members.foldl (fun entries member => putEntry member.1 member.2 entries) done

private theorem putAll_nil (members : List (String × Json)) :
    putAll [] members = (OrderedMap.ofList members).entries := by
  induction members using List.reverseRecOn with
  | nil => rfl
  | append_singleton members member ih =>
      rw [OrderedMap.ofList_append_singleton, OrderedMap.entries_insert, ← ih, putAll, putAll,
        List.foldl_append]
      rfl

-- What so many steps suffice for.
structure ReadsWithin (fuel : Nat) : Prop where
  value : ∀ {w : List Char} {found : Json}, Written w found → w.length ≤ fuel → ∀ rest,
    Reader.value fuel (w ++ rest) = .ok (found, rest)
  items : ∀ {ws : List Char} {found : List Json}, Separated Denotes ws found →
    ws.length < fuel → ∀ done rest, Reader.items fuel done (skipBlanks (ws ++ ']' :: rest)) =
      .ok (.array (done.reverse ++ found), rest)
  members : ∀ {ws : List Char} {found : List (String × Json)}, Separated DenotesMember ws found →
    ws.length < fuel → ∀ done rest, Reader.members fuel done (skipBlanks (ws ++ '}' :: rest)) =
      .ok (.object (putAll done found), rest)

-- Blanks behind a value are left for what comes next.
theorem ReadsWithin.denoted {fuel : Nat} (h : ReadsWithin fuel) {w : List Char} {found : Json}
    (hw : Denotes w found) (hfuel : w.length ≤ fuel) (rest : List Char) :
    ∃ back, Blank back ∧
      Reader.value fuel (skipBlanks (w ++ rest)) = .ok (found, back ++ rest) := by
  cases hw with
  | @padded front w back _ hfront hw hback =>
      rw [List.length_append, List.length_append] at hfuel
      refine ⟨back, hback, ?_⟩
      rw [List.append_assoc, List.append_assoc, skipBlanks_append hfront, skipBlanks_of_written hw,
        h.value hw (by omega)]

theorem ReadsWithin.items_succ {fuel : Nat} (h : ReadsWithin fuel) {ws : List Char}
    {found : List Json} (hws : Separated Denotes ws found) (hfuel : ws.length < fuel + 1)
    (done : List Json) (rest : List Char) :
    Reader.items (fuel + 1) done (skipBlanks (ws ++ ']' :: rest)) =
      .ok (.array (done.reverse ++ found), rest) := by
  cases hws with
  | last hw =>
      obtain ⟨back, hback, hvalue⟩ := h.denoted hw (by omega) (']' :: rest)
      simp only [Reader.items, hvalue, skipBlanks_gap hback (show isBlank ']' = false by decide),
        List.reverse_cons]
  | @more w ws item found hw hws =>
      rw [List.length_append, List.length_cons] at hfuel
      obtain ⟨back, hback, hvalue⟩ := h.denoted hw (by omega) (',' :: (ws ++ ']' :: rest))
      rw [List.append_assoc]
      simp only [Reader.items, hvalue, List.cons_append,
        skipBlanks_gap hback (show isBlank ',' = false by decide)]
      rw [h.items hws (by omega), List.reverse_cons, List.append_assoc, List.singleton_append]

-- One member, up to the brace or the comma behind it.
theorem ReadsWithin.member {fuel : Nat} (h : ReadsWithin fuel) {w : List Char}
    {found : String × Json} (hw : DenotesMember w found) (hfuel : w.length ≤ fuel)
    (done : List (String × Json)) (rest : List Char) :
    Reader.members (fuel + 1) done (skipBlanks (w ++ '}' :: rest)) =
        .ok (.object (putEntry found.1 found.2 done), rest) ∧
      Reader.members (fuel + 1) done (skipBlanks (w ++ ',' :: rest)) =
        Reader.members fuel (putEntry found.1 found.2 done) (skipBlanks rest) := by
  cases hw with
  | @member front name back w text value hfront hname hback hw =>
      simp only [List.length_append, List.length_cons] at hfuel
      have hquote := skipBlanks_gap hfront (show isBlank '"' = false by decide)
      have hcolon := skipBlanks_gap hback (show isBlank ':' = false by decide)
      constructor
      · obtain ⟨gap, hgap, hvalue⟩ := h.denoted hw (by omega) ('}' :: rest)
        have hbrace := skipBlanks_gap hgap (show isBlank '}' = false by decide)
        simp only [List.append_assoc, List.cons_append, hquote, Reader.members,
          string_of_spellsAll hname, hcolon, hvalue, hbrace]
      · obtain ⟨gap, hgap, hvalue⟩ := h.denoted hw (by omega) (',' :: rest)
        have hcomma := skipBlanks_gap hgap (show isBlank ',' = false by decide)
        simp only [List.append_assoc, List.cons_append, hquote, Reader.members,
          string_of_spellsAll hname, hcolon, hvalue, hcomma]

theorem ReadsWithin.members_succ {fuel : Nat} (h : ReadsWithin fuel) {ws : List Char}
    {found : List (String × Json)} (hws : Separated DenotesMember ws found)
    (hfuel : ws.length < fuel + 1) (done : List (String × Json)) (rest : List Char) :
    Reader.members (fuel + 1) done (skipBlanks (ws ++ '}' :: rest)) =
      .ok (.object (putAll done found), rest) := by
  cases hws with
  | last hw =>
      exact (h.member hw (by omega) done rest).1
  | @more w ws member found hw hws =>
      rw [List.length_append, List.length_cons] at hfuel
      rw [List.append_assoc, List.cons_append, (h.member hw (by omega) done _).2]
      exact h.members hws (by omega) _ rest

private theorem exists_cons_of_items {ws : List Char} {found : List Json}
    (h : Separated Denotes ws found)
    (rest : List Char) : ∃ c w, skipBlanks (ws ++ rest) = c :: w ∧ c ≠ ']' := by
  cases h with
  | last hw => exact exists_cons_of_denotes hw rest
  | more hw _ =>
      rw [List.append_assoc]
      exact exists_cons_of_denotes hw _

theorem exists_cons_of_member {w : List Char} {found : String × Json} (h : DenotesMember w found)
    (rest : List Char) : ∃ w', skipBlanks (w ++ rest) = '"' :: w' := by
  cases h with
  | member hfront hname hback h =>
      simp only [List.append_assoc, List.cons_append]
      exact ⟨_, skipBlanks_gap hfront (by decide) _⟩

private theorem exists_cons_of_members {ws : List Char} {found : List (String × Json)}
    (h : Separated DenotesMember ws found) (rest : List Char) :
    ∃ w, skipBlanks (ws ++ rest) = '"' :: w := by
  cases h with
  | last hw => exact exists_cons_of_member hw rest
  | more hw _ =>
      rw [List.append_assoc]
      exact exists_cons_of_member hw _

-- One case for each way a value can be written; arrays and objects go on with less fuel.
theorem ReadsWithin.value_succ {fuel : Nat} (h : ReadsWithin fuel) {w : List Char} {found : Json}
    (hw : Written w found) (hfuel : w.length ≤ fuel + 1) (rest : List Char) :
    Reader.value (fuel + 1) (w ++ rest) = .ok (found, rest) := by
  cases hw with
  | null => rfl
  | true => rfl
  | false => rfl
  | string hws =>
      simp only [List.append_assoc, List.cons_append, List.nil_append, Reader.value,
        string_of_spellsAll hws]
      rfl
  | emptyArray hgap =>
      simp only [List.append_assoc, List.cons_append, List.nil_append, Reader.value,
        skipBlanks_gap hgap (show isBlank ']' = false by decide)]
  | emptyObject hgap =>
      simp only [List.append_assoc, List.cons_append, List.nil_append, Reader.value,
        skipBlanks_gap hgap (show isBlank '}' = false by decide)]
  | @array ws items hws =>
      obtain ⟨c, w, hfirst, hc⟩ := exists_cons_of_items hws (']' :: rest)
      simp only [List.length_append, List.length_cons, List.length_nil] at hfuel
      simp only [List.append_assoc, List.cons_append, List.nil_append]
      rw [value_array hfirst hc, h.items hws (by omega)]
      rfl
  | @object ws members hws =>
      obtain ⟨w, hfirst⟩ := exists_cons_of_members hws ('}' :: rest)
      simp only [List.length_append, List.length_cons, List.length_nil] at hfuel
      simp only [List.append_assoc, List.cons_append, List.nil_append]
      rw [value_object hfirst, h.members hws (by omega), putAll_nil]

theorem readsWithin (fuel : Nat) : ReadsWithin fuel := by
  induction fuel with
  | zero =>
      refine ⟨fun hw hfuel => ?_, fun _ hfuel => by omega, fun _ hfuel => by omega⟩
      obtain ⟨c, w', rfl, -⟩ := exists_cons_of_written hw
      cases hfuel
  | succ fuel ih => exact ⟨ih.value_succ, ih.items_succ, ih.members_succ⟩

end Values

end Reader

theorem read_of_denotes {text : List Char} {value : Json} (h : Denotes text value) :
    read text = .ok value := by
  obtain ⟨back, hback, hvalue⟩ :=
    (Reader.readsWithin (text.length + 1)).denoted h (by omega) []
  rw [List.append_nil] at hvalue
  have hend := Reader.skipBlanks_append hback []
  simp only [read, hvalue, hend]
  rfl

-- The text stands for the value, and for no other.
def Means (text : String) (value : Json) : Prop :=
  ∀ other, Denotes text.toList other ↔ other = value

theorem Denotes.means {text : String} {value : Json} (h : Denotes text.toList value) :
    Means text value := by
  intro other
  constructor
  · intro hother
    exact Except.ok.inj ((read_of_denotes hother).symm.trans (read_of_denotes h))
  · rintro rfl
    exact h

end ContentForms.Json
