import ContentForms.Proofs.Generated.Edited
import ContentForms.Proofs.Generated.Names
import ContentForms.Proofs.Text.Pattern

namespace ContentForms.Generated

open Text (Pattern occurrences)

section Breaks

def OneLine (text : String) : Prop := '\n' ∉ text.toList

instance (text : String) : Decidable (OneLine text) := inferInstanceAs (Decidable (¬ _))

-- Lines that are each ended by a line feed come apart again, with nothing behind the last one.
private theorem splitOn_ended {texts : List String} (h : ∀ text ∈ texts, OneLine text) :
    (texts.flatMap ended).splitOn '\n' = (texts ++ [""]).map String.toList := by
  induction texts with
  | nil => rfl
  | cons text texts ih =>
      rw [List.forall_mem_cons] at h
      rw [List.flatMap_cons, ended, List.append_assoc, List.singleton_append,
        List.splitOn_append_cons_self, List.splitOn_eq_singleton h.1, ih h.2]
      rfl

theorem oneLine_append {text more : String} :
    OneLine (text ++ more) ↔ OneLine text ∧ OneLine more := by
  simp [OneLine, not_or]

private theorem oneLine_joined {separator : String} (hs : OneLine separator) {texts : List String}
    (h : ∀ text ∈ texts, OneLine text) : OneLine (Text.joined separator texts) := by
  fun_induction Text.joined separator texts with
  | case1 => decide
  | case2 text => exact h text List.mem_cons_self
  | case3 text rest _ ih =>
      rw [List.forall_mem_cons] at h
      rw [oneLine_append, oneLine_append]
      exact ⟨⟨h.1, hs⟩, ih h.2⟩

theorem oneLine_label {name : String} (h : OneLine name) : OneLine (label name) := by
  have hbody : '\n' ∉ labelBody name := fun hm => h (mem_labelBody (by decide) hm)
  simp [OneLine, toList_label, hbody]

private theorem oneLine_renderEntry {entry : String × Field} (h : OneLine entry.1) :
    OneLine (renderEntry entry) := by
  have hopening : OneLine (opening entry.2.type) := by cases entry.2.type <;> decide
  have hmark : OneLine (if entry.2.optional then ", optional: true" else "") := by
    cases entry.2.optional <;> decide
  rw [renderEntry, renderField_eq, fieldOptions]
  simp +decide only [oneLine_append, h, oneLine_label h, hopening, hmark]

private theorem oneLine_renderSchema {fields : List (String × Field)}
    (h : ∀ field ∈ fields, OneLine field.1) : OneLine (renderSchema fields) := by
  have hentries : OneLine (Text.joined ", " (fields.map renderEntry)) := by
    refine oneLine_joined (by decide) fun text ht => ?_
    obtain ⟨field, hf, rfl⟩ := List.mem_map.mp ht
    exact oneLine_renderEntry (h field hf)
  unfold renderSchema
  split
  · decide
  · simp +decide only [oneLine_append, hentries]

theorem oneLine_collectionLine {entry : String × Collection} (h : OneLine entry.1)
    (hf : ∀ field ∈ entry.2.fields.entries, OneLine field.1) : OneLine (collectionLine entry) := by
  rw [collectionLine, renderCollection]
  simp +decide only [oneLine_append, h, oneLine_label h, oneLine_renderSchema hf]

theorem oneLine_lines {config : Config} (h : config.EveryName OneLine) :
    ∀ line ∈ lines config, OneLine line := by
  intro line hl
  rcases List.mem_append.mp hl with hl | hl
  · have hhead : ∀ line ∈ headLines, OneLine line := by decide +kernel
    exact hhead line hl
  · unfold bodyLines at hl
    split at hl
    · rw [List.mem_singleton.mp hl]
      decide
    · simp only [List.cons_append, List.mem_cons, List.mem_append, List.mem_map,
        List.not_mem_nil, or_false] at hl
      rcases hl with rfl | ⟨entry, he, rfl⟩ | rfl
      · decide
      · exact oneLine_collectionLine (h entry he).1 (h entry he).2
      · decide

end Breaks

def fieldPattern : Pattern ':' := ⟨[], " fields.".toList, by decide, by decide⟩

def optionalPattern : Pattern ':' :=
  ⟨", optional".toList, " true \x7d".toList, by decide, by decide⟩

-- What a pattern finds in the text of one field: so much at its builder, and so much at the end of
-- its options. At no other colon of a line does it find anything.
structure Tallied (p : Pattern ':') (built : Nat) (closed : Bool → Nat) : Prop where
  call : p.Misses " collection(".toList
  brace : p.Misses " \x7b".toList
  literal : p.Misses " '".toList
  builder : ∀ type, p.Counts (": ".toList ++ (opening type).toList) built
  options : ∀ optional : Bool,
    p.Counts ((if optional then ", optional: true" else "").toList ++ " \x7d".toList)
      (closed optional)

-- Only an array has a second colon before its options, and that one belongs to a label.
theorem tallied_fieldPattern : Tallied fieldPattern 1 fun _ => 0 := by
  refine ⟨by decide, by decide, by decide, fun type => ?_, fun optional => ?_⟩
  · have hplain : ∀ text : String,
        ": ".toList ++ (opening type).toList = fieldPattern.text ++ text.toList →
        ':' ∉ text.toList → fieldPattern.Counts (": ".toList ++ (opening type).toList) 1 := by
      intro text hpieces h
      rw [hpieces]
      exact Pattern.counts_text.append (Pattern.counts_of_notMem h)
    cases type with
    | text => exact hplain "text(" (by decide +kernel) (by decide)
    | number => exact hplain "number(" (by decide +kernel) (by decide)
    | boolean => exact hplain "checkbox(" (by decide +kernel) (by decide)
    | date => exact hplain "date(" (by decide +kernel) (by decide)
    | unknown => exact hplain "text(" (by decide +kernel) (by decide)
    | array =>
        have hpieces : ": ".toList ++ (opening .array).toList =
            fieldPattern.text ++ ("array(fields.text(\x7b label".toList ++
              ':' :: " 'Item' \x7d), ".toList) := by decide +kernel
        have hbuilder : fieldPattern.Counts "array(fields.text(\x7b label".toList 0 :=
          Pattern.counts_of_notMem (by decide)
        have hitem : fieldPattern.Misses " 'Item' \x7d), ".toList := by decide
        rw [hpieces]
        exact Pattern.counts_text.append (hbuilder.append hitem.counts)
  · cases optional with
    | false => exact Pattern.counts_of_notMem (by decide)
    | true =>
        have hfront : fieldPattern.Counts ", optional".toList 0 :=
          Pattern.counts_of_notMem (by decide)
        have htrue : fieldPattern.Misses " true \x7d".toList := by decide
        have hpieces : ", optional: true".toList ++ " \x7d".toList =
            ", optional".toList ++ ':' :: " true \x7d".toList := by decide +kernel
        rw [if_pos rfl, hpieces]
        exact hfront.append htrue.counts

theorem tallied_optionalPattern : Tallied optionalPattern 0 fun optional => optional.toNat := by
  refine ⟨by decide, by decide, by decide, fun type => ?_, fun optional => ?_⟩
  · have hplain : ∀ text : String,
        ": ".toList ++ (opening type).toList = ':' :: text.toList →
        optionalPattern.Misses text.toList →
        optionalPattern.Counts (": ".toList ++ (opening type).toList) 0 := by
      intro text hpieces h
      rw [hpieces]
      exact h.counts
    cases type with
    | text => exact hplain " fields.text(" (by decide +kernel) (by decide)
    | number => exact hplain " fields.number(" (by decide +kernel) (by decide)
    | boolean => exact hplain " fields.checkbox(" (by decide +kernel) (by decide)
    | date => exact hplain " fields.date(" (by decide +kernel) (by decide)
    | unknown => exact hplain " fields.text(" (by decide +kernel) (by decide)
    | array =>
        have hpieces : ": ".toList ++ (opening .array).toList =
            ':' :: " fields.array(fields.text(\x7b label".toList ++
              ':' :: " 'Item' \x7d), ".toList := by decide +kernel
        have hbuilder : optionalPattern.Misses " fields.array(fields.text(\x7b label".toList := by
          decide
        have hitem : optionalPattern.Misses " 'Item' \x7d), ".toList := by decide
        rw [hpieces]
        exact hbuilder.counts.append hitem.counts
  · cases optional with
    | false => exact Pattern.counts_of_notMem (by decide)
    | true => exact Pattern.counts_text

section Tallies

variable {p : Pattern ':'} {built : Nat} {closed : Bool → Nat}

def tally (built : Nat) (closed : Bool → Nat) (fields : List (String × Field)) : Nat :=
  fields.foldr (fun field total => built + closed field.2.optional + total) 0

theorem colon_notMem_labelBody {name : String} (h : ColonFree name) : ':' ∉ labelBody name :=
  fun hm => h (mem_labelBody (by decide) hm)

theorem Tallied.fieldOptions (h : Tallied p built closed) {name : String} (hn : ColonFree name)
    (field : Field) : p.Counts (fieldOptions name field).toList (closed field.optional) := by
  have hpieces : (Generated.fieldOptions name field).toList =
      "\x7b label".toList ++ (':' :: " '".toList ++ ((labelBody name ++ ['\'']) ++
        ((if field.optional then ", optional: true" else "").toList ++ " \x7d".toList))) := by
    simp [Generated.fieldOptions, toList_label]
  have hopen : p.Counts "\x7b label".toList 0 := Pattern.counts_of_notMem (by decide)
  have hlabel : p.Counts (labelBody name ++ ['\'']) 0 :=
    Pattern.counts_of_notMem (by simp [colon_notMem_labelBody hn])
  have hcounts := hopen.append (h.literal.counts.append (hlabel.append (h.options field.optional)))
  rwa [← hpieces, Nat.zero_add, Nat.zero_add, Nat.zero_add] at hcounts

theorem Tallied.renderEntry (h : Tallied p built closed) {entry : String × Field}
    (hn : ColonFree entry.1) :
    p.Counts (renderEntry entry).toList (built + closed entry.2.optional) := by
  have hpieces : (Generated.renderEntry entry).toList =
      entry.1.toList ++ ((": ".toList ++ (opening entry.2.type).toList) ++
        ((Generated.fieldOptions entry.1 entry.2).toList ++ [')'])) := by
    simp [Generated.renderEntry, renderField_eq]
  have hname : p.Counts entry.1.toList 0 := Pattern.counts_of_notMem hn
  have hend : p.Counts [')'] 0 := Pattern.counts_of_notMem (by decide)
  have hcounts := hname.append
    ((h.builder entry.2.type).append ((h.fieldOptions hn entry.2).append hend))
  rwa [← hpieces, Nat.zero_add, Nat.add_zero] at hcounts

-- The colon before a schema belongs to it, since what follows the colon is in the schema.
theorem Tallied.renderSchema (h : Tallied p built closed) {fields : List (String × Field)}
    (hn : ∀ field ∈ fields, ColonFree field.1) :
    p.Counts (": ".toList ++ (renderSchema fields).toList) (tally built closed fields) := by
  cases fields with
  | nil =>
      have hend : p.Counts ['}'] 0 := Pattern.counts_of_notMem (by decide)
      exact h.brace.counts.append hend
  | cons field fields =>
      rw [List.forall_mem_cons] at hn
      have hpieces : ": ".toList ++ (Generated.renderSchema (field :: fields)).toList =
          ':' :: " \x7b".toList ++ ([' '] ++ ((Generated.renderEntry field).toList ++
            (fields.flatMap (fun next => ", ".toList ++ (Generated.renderEntry next).toList) ++
              " \x7d".toList))) := by
        rw [toList_renderSchema_cons]
        rfl
      have hblank : p.Counts [' '] 0 := Pattern.counts_of_notMem (by decide)
      have hend : p.Counts " \x7d".toList 0 := Pattern.counts_of_notMem (by decide)
      have hnext : ∀ next ∈ fields, p.Counts (", ".toList ++ (Generated.renderEntry next).toList)
          (built + closed next.2.optional) := by
        intro next hm
        have hcomma : p.Counts ", ".toList 0 := Pattern.counts_of_notMem (by decide)
        have hcounts := hcomma.append (h.renderEntry (hn.2 next hm))
        rwa [Nat.zero_add] at hcounts
      have hcounts := h.brace.counts.append (hblank.append
        ((h.renderEntry hn.1).append ((Pattern.counts_flatMap hnext).append hend)))
      rwa [← hpieces, Nat.zero_add, Nat.zero_add, Nat.add_zero] at hcounts

theorem Tallied.collectionLine (h : Tallied p built closed) {entry : String × Collection}
    (hn : ColonFreeEntry entry) :
    p.Counts (collectionLine entry).toList (tally built closed entry.2.fields.entries) := by
  have hpieces : (Generated.collectionLine entry).toList =
      ("  ".toList ++ entry.1.toList) ++ (':' :: " collection(".toList ++
        (('\'' :: labelBody entry.1 ++ "', \x7b schema".toList) ++
          ((": ".toList ++ (Generated.renderSchema entry.2.fields.entries).toList) ++
            " \x7d),".toList))) := by
    simp [Generated.collectionLine, renderCollection, toList_label]
  have hname : p.Counts ("  ".toList ++ entry.1.toList) 0 :=
    Pattern.counts_of_notMem (by simpa using show ':' ∉ entry.1.toList from hn.1)
  have hlabel : p.Counts ('\'' :: labelBody entry.1 ++ "', \x7b schema".toList) 0 :=
    Pattern.counts_of_notMem (by simp [colon_notMem_labelBody hn.1])
  have hend : p.Counts " \x7d),".toList 0 := Pattern.counts_of_notMem (by decide)
  have hcounts := hname.append (h.call.counts.append (hlabel.append
    ((h.renderSchema hn.2).append hend)))
  rwa [← hpieces, Nat.zero_add, Nat.zero_add, Nat.zero_add, Nat.add_zero] at hcounts

-- Outside the lines of collections there is no colon.
theorem Tallied.render (h : Tallied p built closed) {config : Config} (hn : config.ColonFree) :
    p.Counts (render config).toList (config.collections.entries.foldr
      (fun entry total => tally built closed entry.2.fields.entries + total) 0) := by
  have hhead : p.Counts (headLines.flatMap ended) 0 :=
    Pattern.counts_of_notMem (by decide +kernel)
  rw [toList_render]
  cases hentries : config.collections.entries with
  | nil =>
      have hbody : p.Counts ((bodyLines []).flatMap ended) 0 :=
        Pattern.counts_of_notMem (by decide +kernel)
      exact hhead.append hbody
  | cons entry entries =>
      have hexport : p.Counts (ended exportLine) 0 := Pattern.counts_of_notMem (by decide)
      have hend : p.Counts ("\x7d;\n".toList ++ []) 0 := Pattern.counts_of_notMem (by decide)
      have hlines : ∀ next ∈ entry :: entries, p.Counts (ended (Generated.collectionLine next))
          (tally built closed next.2.fields.entries) := by
        intro next hm
        have hbreak : p.Counts ['\n'] 0 := Pattern.counts_of_notMem (by decide)
        exact (h.collectionLine (hn next (hentries ▸ hm))).append hbreak
      have hcounts := hhead.append (hexport.append ((Pattern.counts_flatMap hlines).append hend))
      rwa [← bodyLines_cons, Nat.zero_add, Nat.zero_add, Nat.add_zero] at hcounts

end Tallies

theorem tally_cons (built : Nat) (closed : Bool → Nat) (field : String × Field)
    (fields : List (String × Field)) :
    tally built closed (field :: fields) =
      built + closed field.2.optional + tally built closed fields := rfl

theorem tally_fields (fields : List (String × Field)) :
    tally 1 (fun _ => 0) fields = fields.length := by
  induction fields with
  | nil => rfl
  | cons field fields ih =>
      rw [tally_cons, ih, List.length_cons]
      omega

private theorem tally_optional (fields : List (String × Field)) :
    tally 0 (fun optional => optional.toNat) fields =
      fields.countP fun field => field.2.optional := by
  induction fields with
  | nil => rfl
  | cons field fields ih =>
      rw [tally_cons, ih, List.countP_cons]
      cases field.2.optional <;> simp [Nat.add_comm]

theorem fieldCount_eq_tally (config : Config) :
    config.fieldCount = config.collections.entries.foldr
      (fun entry total => tally 1 (fun _ => 0) entry.2.fields.entries + total) 0 := by
  simp only [Config.fieldCount, OrderedMap.values, List.foldr_map, tally_fields]
  rfl

def Plain (name : String) : Prop := ColonFree name ∧ OneLine name

instance (name : String) : Decidable (Plain name) := inferInstanceAs (Decidable (_ ∧ _))

-- Every colon of a line is one that the renderer writes, as long as names have none. So the text of
-- a field is found once for each field, whatever else the names hold.
theorem render_lines_counted {config : Config} (h : config.EveryName Plain) :
    (render config).toList.splitOn '\n' =
        (headLines ++
          (if config.collections.entries = [] then [exportLine ++ "\x7d;"]
            else exportLine :: config.collections.entries.map collectionLine ++ ["\x7d;"]) ++
          [""]).map String.toList ∧
      headLines.length = 5 ∧
      (∀ entry ∈ config.collections.entries,
        ("  " ++ entry.1 ++ ": collection(").toList <+: (collectionLine entry).toList ∧
        occurrences ": fields.".toList (collectionLine entry).toList = entry.2.size ∧
        occurrences ", optional: true \x7d".toList (collectionLine entry).toList =
          entry.2.fields.values.countP Field.optional) ∧
      occurrences ": fields.".toList (render config).toList = config.fieldCount := by
  have hcolons : config.ColonFree := fun entry he =>
    ⟨(h entry he).1.1, fun field hf => ((h entry he).2 field hf).1⟩
  have hbreaks : config.EveryName OneLine := fun entry he =>
    ⟨(h entry he).1.2, fun field hf => ((h entry he).2 field hf).2⟩
  refine ⟨?_, rfl, fun entry he => ⟨?_, ?_, ?_⟩, ?_⟩
  · rw [toList_render, ← List.flatMap_append]
    refine (splitOn_ended (oneLine_lines hbreaks)).trans ?_
    simp only [lines, bodyLines, List.isEmpty_iff]
  · simp [collectionLine, renderCollection]
  · rw [Collection.size, OrderedMap.size, ← tally_fields]
    exact (tallied_fieldPattern.collectionLine (hcolons entry he)).occurrences_eq
  · have hvalues : entry.2.fields.values.countP Field.optional =
        entry.2.fields.entries.countP fun field => field.2.optional := List.countP_map
    rw [hvalues, ← tally_optional]
    exact (tallied_optionalPattern.collectionLine (hcolons entry he)).occurrences_eq
  · rw [fieldCount_eq_tally]
    exact (tallied_fieldPattern.render hcolons).occurrences_eq

-- Names that hold all of the text around the colons.
def crowdedCollection : Collection :=
  ⟨.content,
    ⟨[(", optional", ⟨.array, true⟩), (" true \x7d", ⟨.text, false⟩), ("' fields.", ⟨.unknown, true⟩)],
      by decide⟩, by decide⟩

def crowdedConfig : Config :=
  ⟨⟨[("a, optional", crowdedCollection), ("", Collection.empty .data)], by decide⟩⟩

theorem render_lines_crowded :
    crowdedConfig.EveryName Plain ∧
      ((render crowdedConfig).toList.splitOn '\n').length = 10 ∧
      occurrences ", optional: true \x7d".toList
        (collectionLine ("a, optional", crowdedCollection)).toList = 2 ∧
      occurrences ": fields.".toList (render crowdedConfig).toList = 3 := by
  have h : crowdedConfig.EveryName Plain := by decide
  obtain ⟨hlines, -, hentries, hcount⟩ := render_lines_counted h
  refine ⟨h, ?_, (hentries _ List.mem_cons_self).2.2, hcount⟩
  rw [hlines]
  rfl

end ContentForms.Generated
