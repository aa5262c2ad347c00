import ContentForms.Proofs.Generated.Edited
import ContentForms.Proofs.Generated.Names

namespace ContentForms.Generated

def brackets : List (Char × Char) := [('(', ')'), ('[', ']'), ('{', '}')]

def IsBracket (c : Char) : Prop := c ∈ brackets.map Prod.fst ∨ c ∈ brackets.map Prod.snd

instance (c : Char) : Decidable (IsBracket c) := inferInstanceAs (Decidable (_ ∨ _))

-- Texts in which every bracket has its partner, with pairs beside or inside each other.
inductive Balanced : List Char → Prop where
  | nil : Balanced []
  | plain {c : Char} {rest : List Char} (hc : ¬ IsBracket c) (h : Balanced rest) :
      Balanced (c :: rest)
  | nested {opening closing : Char} {inner rest : List Char} (hb : (opening, closing) ∈ brackets)
      (hi : Balanced inner) (hr : Balanced rest) :
      Balanced (opening :: (inner ++ closing :: rest))

-- Where a scan stands: in code, in a literal, or behind a backslash in a literal.
inductive Place where
  | code | literal | escaped
  deriving DecidableEq

structure Scan where
  -- The open brackets, the last one on top.
  stack : List Char
  place : Place
  deriving DecidableEq

namespace Scan

def start : Scan := ⟨[], .code⟩

-- A bracket in code. One that closes has to match the one on top.
def bracket? (stack : List Char) (c : Char) : Option (List Char) :=
  if c ∈ brackets.map Prod.fst then some (c :: stack)
  else if c ∈ brackets.map Prod.snd then
    match stack with
    | [] => none
    | top :: rest => if (top, c) ∈ brackets then some rest else none
  else some stack

-- One character. A literal may not go on past the end of its line.
def step? (scan : Scan) (c : Char) : Option Scan :=
  match scan.place with
  | .code =>
      if c = '\'' then some ⟨scan.stack, .literal⟩
      else (bracket? scan.stack c).map fun stack => ⟨stack, .code⟩
  | .literal =>
      if c = '\n' then none
      else if c = '\'' then some ⟨scan.stack, .code⟩
      else if c = '\\' then some ⟨scan.stack, .escaped⟩
      else some scan
  | .escaped => if c = '\n' then none else some ⟨scan.stack, .literal⟩

def run? (scan : Scan) (text : List Char) : Option Scan := text.foldlM step? scan

theorem run?_cons (scan : Scan) (c : Char) (text : List Char) :
    scan.run? (c :: text) = (scan.step? c).bind fun next => next.run? text := rfl

theorem run?_append (scan : Scan) (text more : List Char) :
    scan.run? (text ++ more) = (scan.run? text).bind fun next => next.run? more :=
  List.foldlM_append

end Scan

-- The text takes a scan in code from the given open brackets to others, above any that were open
-- before.
def Moves (text opened left : List Char) : Prop :=
  ∀ below, (Scan.mk (opened ++ below) .code).run? text = some ⟨left ++ below, .code⟩

section Moves

variable {text more opened middle left : List Char}

theorem Moves.run?_eq (h : Moves text opened left) :
    (Scan.mk opened .code).run? text = some ⟨left, .code⟩ := by
  simpa using h []

theorem Moves.append (h : Moves text opened middle) (hm : Moves more middle left) :
    Moves (text ++ more) opened left := by
  intro below
  rw [Scan.run?_append, h below, Option.bind_some, hm below]

-- More brackets may be open below.
theorem Moves.under (h : Moves text opened left) (below : List Char) :
    Moves text (opened ++ below) (left ++ below) := by
  intro lower
  rw [List.append_assoc, List.append_assoc, h (below ++ lower)]

theorem moves_nil : Moves [] opened opened := fun _ => rfl

theorem moves_flatMap {piece : α → List Char} {items : List α}
    (h : ∀ item ∈ items, Moves (piece item) opened opened) :
    Moves (items.flatMap piece) opened opened := by
  induction items with
  | nil => exact moves_nil
  | cons item items ih =>
      rw [List.forall_mem_cons] at h
      exact h.1.append (ih h.2)

end Moves

section Pieces

-- Outside literals only brackets count, and those of a balanced text cancel out.
theorem moves_of_balanced {text : List Char} (h : Balanced text) (hq : '\'' ∉ text) :
    Moves text [] [] := by
  have hpairs : brackets.all fun pair => pair.1 ≠ '\'' && pair.2 ≠ '\'' &&
      pair.2 ∉ brackets.map Prod.fst := by decide
  induction h with
  | nil => exact moves_nil
  | @plain c rest hc h ih =>
      rw [List.mem_cons, not_or] at hq
      intro below
      have hbracket : Scan.bracket? below c = some below := by
        rw [IsBracket, not_or] at hc
        unfold Scan.bracket?
        rw [if_neg hc.1, if_neg hc.2]
      have hstep : (Scan.mk below .code).step? c = some ⟨below, .code⟩ := by
        simp only [Scan.step?, if_neg (Ne.symm hq.1), hbracket, Option.map_some]
      rw [Scan.run?_cons, List.nil_append, hstep, Option.bind_some]
      exact ih hq.2 below
  | @nested opening closing inner rest hb hi hr ihi ihr =>
      simp only [List.mem_cons, List.mem_append, not_or] at hq
      obtain ⟨-, hinner, -, hrest⟩ := hq
      have hpair := List.all_eq_true.mp hpairs _ hb
      simp only [Bool.and_eq_true, decide_eq_true_eq] at hpair
      obtain ⟨⟨hopening, hclosing⟩, hother⟩ := hpair
      intro below
      have hopen : (Scan.mk below .code).step? opening = some ⟨opening :: below, .code⟩ := by
        have hmem : opening ∈ brackets.map Prod.fst := List.mem_map.mpr ⟨_, hb, rfl⟩
        simp only [Scan.step?, if_neg hopening, Scan.bracket?, if_pos hmem, Option.map_some]
      have hclose : (Scan.mk (opening :: below) .code).step? closing = some ⟨below, .code⟩ := by
        have hmem : closing ∈ brackets.map Prod.snd := List.mem_map.mpr ⟨_, hb, rfl⟩
        simp only [Scan.step?, if_neg hclosing, Scan.bracket?, if_neg hother, if_pos hmem,
          if_pos hb, Option.map_some]
      have hinside := ihi hinner (opening :: below)
      rw [List.nil_append] at hinside
      rw [Scan.run?_cons, List.nil_append, hopen, Option.bind_some, Scan.run?_append, hinside,
        Option.bind_some, Scan.run?_cons, hclose, Option.bind_some]
      exact ihr hrest below

-- Inside a literal an escaped text is passed over, quotes and backslashes included.
private theorem run?_escape {cs : List Char} (h : '\n' ∉ cs) (stack : List Char) :
    (Scan.mk stack .literal).run? (escape cs) = some ⟨stack, .literal⟩ := by
  induction cs with
  | nil => rfl
  | cons c cs ih =>
      rw [List.mem_cons, not_or] at h
      have hbreak : ¬ c = '\n' := Ne.symm h.1
      rw [escape_cons]
      split
      · have hslash : (Scan.mk stack .literal).step? '\\' = some ⟨stack, .escaped⟩ := rfl
        have hnext : (Scan.mk stack .escaped).step? c = some ⟨stack, .literal⟩ := if_neg hbreak
        rw [Scan.run?_cons, hslash, Option.bind_some, Scan.run?_cons, hnext, Option.bind_some,
          ih h.2]
      · rename_i hplain
        rw [not_or] at hplain
        have hnext : (Scan.mk stack .literal).step? c = some ⟨stack, .literal⟩ := by
          simp only [Scan.step?, if_neg hbreak, if_neg hplain.1, if_neg hplain.2]
        rw [Scan.run?_cons, hnext, Option.bind_some, ih h.2]

theorem moves_label {name : String} (h : '\n' ∉ name.toList) :
    Moves (label name).toList [] [] := by
  have hcapital : '\n' ∉ Text.capitalize name.toList := fun hm =>
    h (Text.mem_capitalize (by decide) hm)
  intro below
  rw [toList_label, List.cons_append, Scan.run?_cons]
  change ((Scan.mk below .literal).run? (labelBody name ++ ['\''])) = _
  rw [Scan.run?_append, labelBody, run?_escape hcapital]
  rfl

-- Names that can stand in code: no literal begins in them, and their own brackets are balanced.
structure Harmless (name : String) : Prop where
  unquoted : '\'' ∉ name.toList
  unbroken : '\n' ∉ name.toList
  balanced : Balanced name.toList

theorem Harmless.moves {name : String} (h : Harmless name) : Moves name.toList [] [] :=
  moves_of_balanced h.balanced h.unquoted

private theorem moves_fieldOptions {name : String} (h : Harmless name) (field : Field) :
    Moves (fieldOptions name field).toList [] [] := by
  have hopen : Moves "\x7b label: ".toList [] ['{'] := fun _ => rfl
  have hmark : Moves (if field.optional then ", optional: true" else "").toList ['{'] ['{'] := by
    cases field.optional <;> exact fun _ => rfl
  have hclose : Moves " \x7d".toList ['{'] [] := fun _ => rfl
  simp only [fieldOptions, String.toList_append]
  exact ((hopen.append ((moves_label h.unbroken).under ['{'])).append hmark).append hclose

private theorem moves_opening (type : FieldType) : Moves (opening type).toList [] ['('] := by
  cases type <;> exact fun _ => rfl

theorem moves_renderEntry {entry : String × Field} (h : Harmless entry.1) :
    Moves (renderEntry entry).toList [] [] := by
  have hcolon : Moves ": ".toList [] [] := fun _ => rfl
  have hclose : Moves ")".toList ['('] [] := fun _ => rfl
  simp only [renderEntry, renderField_eq, String.toList_append]
  exact (h.moves.append hcolon).append
    ((moves_opening _).append (((moves_fieldOptions h _).under ['(']).append hclose))

private theorem moves_renderSchema {fields : List (String × Field)}
    (h : ∀ field ∈ fields, Harmless field.1) : Moves (renderSchema fields).toList [] [] := by
  cases fields with
  | nil => exact fun _ => rfl
  | cons field fields =>
      rw [List.forall_mem_cons] at h
      have hopen : Moves "\x7b ".toList [] ['{'] := fun _ => rfl
      have hcomma : Moves ", ".toList [] [] := fun _ => rfl
      have hclose : Moves " \x7d".toList ['{'] [] := fun _ => rfl
      have hnext : Moves (fields.flatMap fun next => ", ".toList ++ (renderEntry next).toList)
          [] [] := moves_flatMap fun next hm => hcomma.append (moves_renderEntry (h.2 next hm))
      rw [toList_renderSchema_cons]
      exact hopen.append (((moves_renderEntry h.1).under ['{']).append
        ((hnext.under ['{']).append hclose))

-- Each piece takes the brackets that are open from where the piece before has left them.
theorem moves_collectionLine {entry : String × Collection} (h : Harmless entry.1)
    (hf : ∀ field ∈ entry.2.fields.entries, Harmless field.1) :
    Moves (collectionLine entry).toList [] [] := by
  have hindent : Moves "  ".toList [] [] := fun _ => rfl
  have hcolon : Moves ": ".toList [] [] := fun _ => rfl
  have hcall : Moves "collection(".toList [] ['('] := fun _ => rfl
  have hopen : Moves ", \x7b schema: ".toList ['('] ['{', '('] := fun _ => rfl
  have hclose : Moves " \x7d)".toList ['{', '('] [] := fun _ => rfl
  have hcomma : Moves ",".toList [] [] := fun _ => rfl
  have hvalue : Moves (renderCollection entry.1 entry.2).toList [] [] := by
    simp only [renderCollection, String.toList_append]
    exact (((hcall.append ((moves_label h.unbroken).under ['('])).append hopen).append
      ((moves_renderSchema hf).under ['{', '('])).append hclose
  simp only [collectionLine, String.toList_append]
  exact (((hindent.append h.moves).append hcolon).append hvalue).append hcomma

end Pieces

section Module

-- The module through the end of the line of a collection, which comes after those of others.
def textThrough (before : List (String × Collection)) (entry : String × Collection) : List Char :=
  (headLines ++ exportLine :: before.map collectionLine).flatMap ended ++
    (collectionLine entry).toList

private theorem textThrough_of_split {config : Config} {before after : List (String × Collection)}
    {entry : String × Collection} (h : config.collections.entries = before ++ entry :: after) :
    textThrough before entry ++ ['\n'] <+: (render config).toList := by
  refine ⟨after.flatMap (fun next => ended (collectionLine next)) ++ "\x7d;\n".toList, ?_⟩
  rw [toList_render, h]
  simp [bodyLines, textThrough, ended, List.flatMap_map]

variable {config : Config}

theorem moves_ended (h : config.EveryName Harmless) :
    ∀ entry ∈ config.collections.entries, Moves (ended (collectionLine entry)) ['{'] ['{'] := by
  intro entry he
  have hbreak : Moves ['\n'] ['{'] ['{'] := fun _ => rfl
  exact ((moves_collectionLine (h entry he).1 (h entry he).2).under ['{']).append hbreak

-- The head of a module ends with the bracket of the exported object open.
theorem run?_head : Scan.start.run? ((headLines ++ [exportLine]).flatMap ended) =
    some ⟨['{'], .code⟩ := by
  decide +kernel

private theorem run?_textThrough (h : config.EveryName Harmless)
    {before after : List (String × Collection)} {entry : String × Collection}
    (he : config.collections.entries = before ++ entry :: after) :
    Scan.start.run? (textThrough before entry) = some ⟨['{'], .code⟩ := by
  have hmoves := moves_ended h
  rw [he] at hmoves
  have hbefore : Moves (before.flatMap fun next => ended (collectionLine next)) ['{'] ['{'] :=
    moves_flatMap fun next hm => hmoves next (List.mem_append_left _ hm)
  have hentry : Moves (collectionLine entry).toList ['{'] ['{'] := by
    have hm : entry ∈ config.collections.entries := he ▸ by simp
    exact (moves_collectionLine (h entry hm).1 (h entry hm).2).under ['{']
  have htext : textThrough before entry = (headLines ++ [exportLine]).flatMap ended ++
      ((before.flatMap fun next => ended (collectionLine next)) ++
        (collectionLine entry).toList) := by
    simp [textThrough, List.flatMap_map]
  rw [htext, Scan.run?_append, run?_head, Option.bind_some]
  exact (hbefore.append hentry).run?_eq

-- A config without collections has a line of its own; any other opens the object that the last line
-- closes.
theorem run?_render (h : config.EveryName Harmless) :
    Scan.start.run? (render config).toList = some Scan.start := by
  have hmoves := moves_ended h
  rw [toList_render]
  cases hentries : config.collections.entries with
  | nil => decide +kernel
  | cons entry entries =>
      rw [hentries] at hmoves
      have hclose : Moves ("\x7d;\n".toList ++ []) ['{'] [] := fun _ => rfl
      have htext : headLines.flatMap ended ++ (bodyLines (entry :: entries)).flatMap ended =
          (headLines ++ [exportLine]).flatMap ended ++
            ((entry :: entries).flatMap (fun next => ended (collectionLine next)) ++
              ("\x7d;\n".toList ++ [])) := by
        rw [bodyLines_cons]
        simp
      rw [htext, Scan.run?_append, run?_head, Option.bind_some]
      exact ((moves_flatMap hmoves).append hclose).run?_eq

end Module

-- After the line of a collection the one bracket that is still open is that of the exported object.
theorem render_lexically_closed {config : Config} (h : config.EveryName Harmless) :
    Scan.start.run? (render config).toList = some Scan.start ∧
      ∀ before entry after, config.collections.entries = before ++ entry :: after →
        textThrough before entry ++ ['\n'] <+: (render config).toList ∧
        Scan.start.run? (textThrough before entry) = some ⟨['{'], .code⟩ :=
  ⟨run?_render h, fun _ _ _ he => ⟨textThrough_of_split he, run?_textThrough h he⟩⟩

section Sample

-- A name with brackets of its own, and one that ends with a backslash.
def escapedEntry : String × Collection :=
  ("\\u\x7b61\x7d",
    ⟨.content, ⟨[("b\\", ⟨.array, true⟩), ("c", ⟨.text, false⟩)], by decide⟩, by decide⟩)

def escapedConfig : Config := ⟨⟨[escapedEntry, ("d", Collection.empty .data)], by decide⟩⟩

theorem harmless_escapedConfig : escapedConfig.EveryName Harmless := by
  have hcode : Balanced "\\u\x7b61\x7d".toList :=
    .plain (by decide) (.plain (by decide) (@Balanced.nested '{' '}' ['6', '1'] [] (by decide)
      (.plain (by decide) (.plain (by decide) .nil)) .nil))
  have hslash : Balanced "b\\".toList := .plain (by decide) (.plain (by decide) .nil)
  have hletter : Balanced "c".toList ∧ Balanced "d".toList :=
    ⟨.plain (by decide) .nil, .plain (by decide) .nil⟩
  intro entry he
  simp only [escapedConfig, List.mem_cons, List.not_mem_nil, or_false] at he
  obtain rfl | rfl := he
  · refine ⟨⟨by decide, by decide, hcode⟩, fun field hf => ?_⟩
    simp only [escapedEntry, List.mem_cons, List.not_mem_nil, or_false] at hf
    obtain rfl | rfl := hf
    · exact ⟨by decide, by decide, hslash⟩
    · exact ⟨by decide, by decide, hletter.1⟩
  · exact ⟨⟨by decide, by decide, hletter.2⟩, by simp [Collection.empty]⟩

theorem render_closed_escapedConfig :
    escapedConfig.EveryName Harmless ∧
      Scan.start.run? (render escapedConfig).toList = some Scan.start ∧
      Scan.start.run? (textThrough [] escapedEntry) = some ⟨['{'], .code⟩ := by
  obtain ⟨hrender, hlines⟩ := render_lexically_closed harmless_escapedConfig
  exact ⟨harmless_escapedConfig, hrender, (hlines [] escapedEntry _ rfl).2⟩

end Sample

end ContentForms.Generated
