import ContentForms.Generated.Module
import ContentForms.Proofs.Text.Pattern

namespace ContentForms

open Text (joined)

-- A field of unknown type is edited as a text.
def FieldType.edited : FieldType → FieldType
  | .unknown => .text
  | type => type

def Field.edited (field : Field) : Field := { field with type := field.type.edited }

def editedField (entry : String × Field) : String × Field := (entry.1, entry.2.edited)

def editedCollection (entry : String × Collection) : String × List (String × Field) :=
  (entry.1, entry.2.fields.entries.map editedField)

def Config.edited (config : Config) : List (String × List (String × Field)) :=
  config.collections.entries.map editedCollection

def ColonFree (name : String) : Prop := ':' ∉ name.toList

instance (name : String) : Decidable (ColonFree name) := inferInstanceAs (Decidable (¬ _))

def ColonFreeEntry (entry : String × Collection) : Prop :=
  ColonFree entry.1 ∧ ∀ field ∈ entry.2.fields.entries, ColonFree field.1

instance (entry : String × Collection) : Decidable (ColonFreeEntry entry) :=
  inferInstanceAs (Decidable (_ ∧ _))

def Config.ColonFree (config : Config) : Prop :=
  ∀ entry ∈ config.collections.entries, ColonFreeEntry entry

instance (config : Config) : Decidable config.ColonFree :=
  inferInstanceAs (Decidable (∀ entry ∈ config.collections.entries, _))

namespace Generated

section Prefixes

-- A name ends at the first colon.
theorem named_append_inj {name other : String} {rest more : List Char} (hn : ColonFree name)
    (ho : ColonFree other)
    (h : name.toList ++ (": ".toList ++ rest) = other.toList ++ (": ".toList ++ more)) :
    name = other ∧ rest = more := by
  obtain ⟨hnames, hr⟩ := Text.cut_inj hn ho h
  exact ⟨String.toList_inj.mp hnames, (List.cons.inj hr).2⟩

-- Pieces that can each be told from what follows, up to a stop that begins none of them, can be told
-- one by one.
theorem pieces_append_inj {piece : α → List Char} {view : α → β} {good : α → Prop}
    {stop : List Char}
    (hpiece : ∀ a b rest more, good a → good b → piece a ++ rest = piece b ++ more →
      view a = view b ∧ rest = more)
    (hstop : ∀ a rest more, piece a ++ rest ≠ stop ++ more) {xs ys : List α}
    (hx : ∀ a ∈ xs, good a) (hy : ∀ b ∈ ys, good b) {rest more : List Char}
    (h : xs.flatMap piece ++ (stop ++ rest) = ys.flatMap piece ++ (stop ++ more)) :
    xs.map view = ys.map view ∧ rest = more := by
  induction xs generalizing ys with
  | nil =>
      cases ys with
      | nil => exact ⟨rfl, List.append_cancel_left h⟩
      | cons b ys =>
          rw [List.flatMap_nil, List.nil_append, List.flatMap_cons, List.append_assoc] at h
          exact absurd h.symm (hstop b _ _)
  | cons a xs ih =>
      rw [List.forall_mem_cons] at hx
      cases ys with
      | nil =>
          rw [List.flatMap_nil, List.nil_append, List.flatMap_cons, List.append_assoc] at h
          exact absurd h (hstop a _ _)
      | cons b ys =>
          rw [List.forall_mem_cons] at hy
          rw [List.flatMap_cons, List.flatMap_cons, List.append_assoc, List.append_assoc] at h
          obtain ⟨hv, h⟩ := hpiece a b _ _ hx.1 hy.1 h
          obtain ⟨hvs, h⟩ := ih hx.2 hy.2 h
          exact ⟨by rw [List.map_cons, List.map_cons, hv, hvs], h⟩

private theorem toList_joined_cons (separator text : String) (texts : List String) :
    (joined separator (text :: texts)).toList =
      text.toList ++ texts.flatMap fun next => separator.toList ++ next.toList := by
  induction texts generalizing text with
  | nil => simp [joined]
  | cons next texts ih => simp [joined, ih]

-- With one more separator at the end, every text is followed by one.
private theorem toList_joined_append (separator text : String) (texts : List String) :
    (joined separator (text :: texts) ++ separator).toList =
      (text :: texts).flatMap fun next => next.toList ++ separator.toList := by
  induction texts generalizing text with
  | nil => simp [joined]
  | cons next texts ih =>
      have hj : joined separator (text :: next :: texts) ++ separator =
          text ++ separator ++ (joined separator (next :: texts) ++ separator) := by
        simp [joined, String.append_assoc]
      rw [hj, String.toList_append, ih]
      simp

end Prefixes

def opening : FieldType → String
  | .text | .unknown => "fields.text("
  | .number => "fields.number("
  | .boolean => "fields.checkbox("
  | .date => "fields.date("
  | .array => "fields.array(fields.text(\x7b label: 'Item' \x7d), "

theorem renderField_eq (name : String) (field : Field) :
    renderField name field = opening field.type ++ (fieldOptions name field ++ ")") := by
  cases h : field.type <;> simp [renderField, opening, h, String.append_assoc]

private theorem opening_append_inj {type other : FieldType} {rest more : List Char}
    (h : (opening type).toList ++ rest = (opening other).toList ++ more) :
    type.edited = other.edited ∧ rest = more := by
  cases type <;> cases other <;> simp [opening, FieldType.edited] at h ⊢ <;> exact h

-- After the label comes a comma or a blank.
private theorem fieldOptions_append_inj {name : String} {field other : Field}
    {rest more : List Char}
    (h : (fieldOptions name field).toList ++ rest = (fieldOptions name other).toList ++ more) :
    field.optional = other.optional ∧ rest = more := by
  cases hf : field.optional <;> cases ho : other.optional <;>
    simp [fieldOptions, hf, ho] at h ⊢ <;> exact h

theorem renderField_append_inj {name : String} {field other : Field} {rest more : List Char}
    (h : (renderField name field).toList ++ rest = (renderField name other).toList ++ more) :
    field.edited = other.edited ∧ rest = more := by
  simp only [renderField_eq, String.toList_append, List.append_assoc] at h
  obtain ⟨ht, h⟩ := opening_append_inj h
  obtain ⟨ho, h⟩ := fieldOptions_append_inj h
  refine ⟨?_, by simpa using h⟩
  simp only [Field.edited, ht, ho]

theorem renderEntry_append_inj {entry other : String × Field} {rest more : List Char}
    (hn : ColonFree entry.1) (ho : ColonFree other.1)
    (h : (renderEntry entry).toList ++ rest = (renderEntry other).toList ++ more) :
    editedField entry = editedField other ∧ rest = more := by
  obtain ⟨name, field⟩ := entry
  obtain ⟨name', field'⟩ := other
  simp only [renderEntry, String.toList_append, List.append_assoc] at h
  obtain ⟨rfl, h⟩ := named_append_inj hn ho h
  obtain ⟨he, h⟩ := renderField_append_inj h
  exact ⟨by simp only [editedField, he], h⟩

theorem toList_renderSchema_cons (entry : String × Field) (fields : List (String × Field)) :
    (renderSchema (entry :: fields)).toList =
      "\x7b ".toList ++ ((renderEntry entry).toList ++
        (fields.flatMap (fun next => ", ".toList ++ (renderEntry next).toList) ++
          " \x7d".toList)) := by
  simp [renderSchema, toList_joined_cons, List.flatMap_map]

-- The entries of a schema stop where a blank stands in the place of a comma.
theorem renderSchema_append_inj {fields others : List (String × Field)} {rest more : List Char}
    (hf : ∀ entry ∈ fields, ColonFree entry.1) (ho : ∀ entry ∈ others, ColonFree entry.1)
    (h : (renderSchema fields).toList ++ rest = (renderSchema others).toList ++ more) :
    fields.map editedField = others.map editedField ∧ rest = more := by
  cases fields with
  | nil =>
      cases others with
      | nil => exact ⟨rfl, List.append_cancel_left h⟩
      | cons other others =>
          rw [toList_renderSchema_cons] at h
          simp [renderSchema] at h
  | cons entry fields =>
      rw [List.forall_mem_cons] at hf
      cases others with
      | nil =>
          rw [toList_renderSchema_cons] at h
          simp [renderSchema] at h
      | cons other others =>
          rw [List.forall_mem_cons] at ho
          simp only [toList_renderSchema_cons, List.append_assoc] at h
          obtain ⟨he, h⟩ := renderEntry_append_inj hf.1 ho.1 (List.append_cancel_left h)
          have hpiece : ∀ a b rest more, ColonFree a.1 → ColonFree b.1 →
              (", ".toList ++ (renderEntry a).toList) ++ rest =
                (", ".toList ++ (renderEntry b).toList) ++ more →
              editedField a = editedField b ∧ rest = more := by
            intro a b rest more ha hb h
            rw [List.append_assoc, List.append_assoc] at h
            exact renderEntry_append_inj ha hb (List.append_cancel_left h)
          obtain ⟨hs, h⟩ := pieces_append_inj hpiece (by simp) hf.2 ho.2 h
          exact ⟨by rw [List.map_cons, List.map_cons, he, hs], h⟩

-- The name comes before its label, so once the names agree the labels do.
theorem collectionLine_append_inj {entry other : String × Collection} {rest more : List Char}
    (hn : ColonFreeEntry entry) (ho : ColonFreeEntry other)
    (h : (collectionLine entry).toList ++ rest = (collectionLine other).toList ++ more) :
    editedCollection entry = editedCollection other ∧ rest = more := by
  obtain ⟨name, collection⟩ := entry
  obtain ⟨name', collection'⟩ := other
  simp only [collectionLine, renderCollection, String.toList_append, List.append_assoc] at h
  obtain ⟨rfl, h⟩ := named_append_inj hn.1 ho.1 (List.append_cancel_left h)
  have hschema := List.append_cancel_left (List.append_cancel_left (List.append_cancel_left h))
  obtain ⟨he, h⟩ := renderSchema_append_inj hn.2 ho.2 hschema
  exact ⟨by simp only [editedCollection, he], List.append_cancel_left (List.append_cancel_left h)⟩

def ended (line : String) : List Char := line.toList ++ ['\n']

-- Every line of a module ends with a line feed.
theorem toList_render (config : Config) :
    (render config).toList =
      headLines.flatMap ended ++ (bodyLines config.collections.entries).flatMap ended := by
  rw [← List.flatMap_append]
  exact toList_joined_append "\n" _ _

theorem bodyLines_cons (entry : String × Collection) (collections : List (String × Collection)) :
    (bodyLines (entry :: collections)).flatMap ended =
      ended exportLine ++ ((entry :: collections).flatMap (fun next => ended (collectionLine next)) ++
        ("\x7d;\n".toList ++ [])) := by
  simp [bodyLines, List.flatMap_append, List.flatMap_map, ended]

-- The line of a collection begins with a blank, the last line with a brace.
theorem bodyLines_inj {collections others : List (String × Collection)}
    (hc : ∀ entry ∈ collections, ColonFreeEntry entry)
    (ho : ∀ entry ∈ others, ColonFreeEntry entry)
    (h : (bodyLines collections).flatMap ended = (bodyLines others).flatMap ended) :
    collections.map editedCollection = others.map editedCollection := by
  cases collections with
  | nil =>
      cases others with
      | nil => rfl
      | cons other others =>
          rw [bodyLines_cons] at h
          simp [bodyLines, ended] at h
  | cons entry collections =>
      cases others with
      | nil =>
          rw [bodyLines_cons] at h
          simp [bodyLines, ended] at h
      | cons other others =>
          rw [bodyLines_cons, bodyLines_cons] at h
          have hpiece : ∀ a b rest more, ColonFreeEntry a → ColonFreeEntry b →
              ended (collectionLine a) ++ rest = ended (collectionLine b) ++ more →
              editedCollection a = editedCollection b ∧ rest = more := by
            intro a b rest more ha hb h
            simp only [ended, List.append_assoc] at h
            obtain ⟨he, h⟩ := collectionLine_append_inj ha hb h
            exact ⟨he, List.append_cancel_left h⟩
          exact (pieces_append_inj hpiece (by simp [ended, collectionLine]) hc ho
            (List.append_cancel_left h)).1

private theorem renderEntry_editedField (entry : String × Field) :
    renderEntry (editedField entry) = renderEntry entry := by
  obtain ⟨name, type, optional⟩ := entry
  cases type <;> rfl

def editedLine (entry : String × List (String × Field)) : String :=
  "  " ++ entry.1 ++ ": " ++ ("collection(" ++ label entry.1 ++ ", \x7b schema: " ++
    renderSchema entry.2 ++ " \x7d)") ++ ","

theorem collectionLine_eq (entry : String × Collection) :
    collectionLine entry = editedLine (editedCollection entry) := by
  have hs : renderSchema (entry.2.fields.entries.map editedField) =
      renderSchema entry.2.fields.entries := by
    simp [renderSchema, List.map_map, Function.comp_def, renderEntry_editedField]
  simp only [editedLine, editedCollection, hs]
  rfl

private theorem bodyLines_congr {collections others : List (String × Collection)}
    (h : collections.map editedCollection = others.map editedCollection) :
    bodyLines collections = bodyLines others := by
  have hl : collections.map collectionLine = others.map collectionLine := by
    have hm := congrArg (List.map editedLine) h
    simpa only [List.map_map, Function.comp_def, ← collectionLine_eq] using hm
  have he : collections.isEmpty = others.isEmpty := by
    rw [← List.isEmpty_map (f := editedCollection), h, List.isEmpty_map]
  rw [bodyLines, bodyLines, he, hl]

-- The generated module is the same exactly when what is edited is the same.
theorem render_eq_iff_edited_eq {config other : Config} (hc : config.ColonFree)
    (ho : other.ColonFree) : render config = render other ↔ config.edited = other.edited := by
  constructor
  · intro h
    have hl := congrArg String.toList h
    rw [toList_render, toList_render] at hl
    exact bodyLines_inj hc ho (List.append_cancel_left hl)
  · intro h
    rw [render, render, lines, lines, bodyLines_congr h]

-- Names that look like the text around them.
def hostileConfig (kind : CollectionKind) (type : FieldType) : Config :=
  ⟨⟨[("it's \\ a \"test\", \x7b \x7d),\n\x7d;",
      ⟨kind, ⟨[("'), \x7b schema", ⟨type, true⟩), ("\\'", ⟨.array, false⟩)], by simp⟩,
        by simp [OrderedMap.keys]⟩),
    ("", Collection.empty kind)], by simp⟩⟩

theorem render_eq_of_hostile_names :
    (hostileConfig .content .unknown).ColonFree ∧ (hostileConfig .data .text).ColonFree ∧
      (hostileConfig .data .date).ColonFree ∧
      render (hostileConfig .content .unknown) = render (hostileConfig .data .text) ∧
      render (hostileConfig .content .unknown) ≠ render (hostileConfig .data .date) := by
  have hu : (hostileConfig .content .unknown).ColonFree := by decide
  have ht : (hostileConfig .data .text).ColonFree := by decide
  have hd : (hostileConfig .data .date).ColonFree := by decide
  refine ⟨hu, ht, hd, (render_eq_iff_edited_eq hu ht).mpr rfl, fun h => ?_⟩
  exact absurd ((render_eq_iff_edited_eq hu hd).mp h) (by decide)

end Generated

end ContentForms
