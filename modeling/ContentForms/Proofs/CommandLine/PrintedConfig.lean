import ContentForms.Proofs.Schema
import ContentForms.Proofs.Service.Answer
import ContentForms.Proofs.Session

namespace ContentForms

namespace Json

def members? : Json → Option (List (String × Json))
  | object members => some members
  | _ => none

def text? : Json → Option String
  | string text => some text
  | _ => none

def truth? : Json → Option Bool
  | bool value => some value
  | _ => none

end Json

section Readers

def FieldSpec.ofMember? (member : String × Json) : Option FieldSpec := do
  let name ← (member.2.member? "name").bind Json.text?
  let type ← (member.2.member? "type").bind Json.text?
  let optional ← (member.2.member? "optional").bind Json.truth?
  return ⟨member.1, name, type, optional⟩

def Collection.ofJson? (value : Json) : Option Collection := do
  let kind ← (value.member? "kind").bind Json.text?
  let fields ← (value.member? "fields").bind Json.members?
  let specs ← fields.mapM FieldSpec.ofMember?
  (Collection.ofSpecs kind specs).toOption

def Collection.ofMember? (member : String × Json) : Option (String × Collection) :=
  (Collection.ofJson? member.2).map fun collection => (member.1, collection)

def Config.ofJson? (value : Json) : Option Config := do
  let collections ← (value.member? "collections").bind Json.members?
  let entries ← collections.mapM Collection.ofMember?
  return ⟨OrderedMap.ofList entries⟩

def Config.ofText? (text : String) : Option Config :=
  (Json.read text.toList).toOption.bind Config.ofJson?

end Readers

section Recovery

-- Reading back member by member.
theorem mapM_map_eq_some {read : β → Option γ} {write : α → β} {found : α → γ}
    (h : ∀ a, read (write a) = some (found a)) (items : List α) :
    (items.map write).mapM read = some (items.map found) := by
  have hread : read ∘ write = fun a => pure (found a) := funext h
  rw [List.mapM_map, hread, List.mapM_pure]
  rfl

theorem FieldSpec.ofMember?_toJson (name : String) (field : Field) :
    ofMember? (name, field.toJson name) = some ⟨name, name, field.type.name, field.optional⟩ := by
  simp [ofMember?, Field.toJson, Json.member?, Json.text?, Json.truth?, List.lookup_cons]

-- The fields are handed in as from outside, so they pass the check of their places once more.
theorem Collection.ofJson?_toJson (collection : Collection) :
    ofJson? collection.toJson = some collection := by
  have hkind : (collection.toJson.member? "kind").bind Json.text? = some collection.kind.name := by
    simp [Collection.toJson, Json.member?, Json.text?]
  have hfields : (collection.toJson.member? "fields").bind Json.members? =
      some (collection.fields.entries.map fun entry => (entry.1, entry.2.toJson entry.1)) := by
    simp [Collection.toJson, Json.member?, Json.members?, List.lookup_cons]
  have hspecs : (collection.fields.entries.map fun entry =>
      (entry.1, entry.2.toJson entry.1)).mapM FieldSpec.ofMember? = some collection.specs :=
    mapM_map_eq_some (fun entry : String × Field => FieldSpec.ofMember?_toJson entry.1 entry.2) _
  simp only [ofJson?, hkind, hfields, hspecs, Option.bind_eq_bind, Option.bind_some,
    ofSpecs_specs]
  rfl

theorem Config.ofJson?_toJson (config : Config) : ofJson? config.toJson = some config := by
  have hcollections : (config.toJson.member? "collections").bind Json.members? =
      some (config.collections.entries.map fun entry => (entry.1, entry.2.toJson)) := by
    simp [Config.toJson, Json.member?, Json.members?]
  have hmember : ∀ entry : String × Collection,
      Collection.ofMember? (entry.1, entry.2.toJson) = some entry := by
    intro entry
    rw [Collection.ofMember?, Collection.ofJson?_toJson, Option.map_some]
  have hentries := mapM_map_eq_some hmember config.collections.entries
  rw [List.map_id'] at hentries
  simp only [ofJson?, hcollections, hentries, Option.bind_eq_bind, Option.bind_some,
    OrderedMap.ofList_entries]
  rfl

end Recovery

def Config.printed (config : Config) : String := config.toJson.indented ++ "\n"

section Printed

theorem Config.denotes_printed (config : Config) :
    Json.Denotes config.printed.toList config.toJson :=
  Json.denotes_indented config.plain_toJson

theorem Config.ofText?_printed (config : Config) : ofText? config.printed = some config := by
  rw [ofText?, Json.read_of_denotes config.denotes_printed]
  exact config.ofJson?_toJson

theorem Config.printed_injective : Function.Injective Config.printed := by
  intro config other h
  have hread := congrArg ofText? h
  rw [ofText?_printed, ofText?_printed] at hread
  exact Option.some.inj hread

theorem CommandLine.result_of_parse {arguments : List String} {level : Option String}
    {path : String} {workspace : Workspace} {config : Config}
    (hread : Invocation.read arguments = .ok ⟨level, .parse path⟩)
    (hconfig : (Generation.readConfig workspace.store.files (.ofString path)).result =
      .ok config) :
    (CommandLine.run arguments workspace).1.result =
      .ok { status := 0, output := config.printed } := by
  rw [CommandLine.run_parse hread, hconfig]
  rfl

end Printed

-- Whoever reads the text as JSON, with the members of objects in their order, makes of it the
-- config that was printed. So no two configs are printed alike.
theorem printed_config_recovered (config : Config) :
    (∃ members, Json.Means config.printed (.object [("collections", .object members)]) ∧
        Json.read config.printed.toList = .ok (.object [("collections", .object members)]) ∧
        members.map Prod.fst = config.collections.keys) ∧
      Config.ofText? config.printed = some config ∧
      (∀ other : Config, other.printed = config.printed → other = config) ∧
      ∀ arguments level path (workspace : Workspace),
        CommandLine.Invocation.read arguments = .ok ⟨level, .parse path⟩ →
        (Generation.readConfig workspace.store.files (.ofString path)).result = .ok config →
        (CommandLine.run arguments workspace).1.result =
          .ok { status := 0, output := config.printed } := by
  refine ⟨⟨_, config.denotes_printed.means, Json.read_of_denotes config.denotes_printed, ?_⟩,
    config.ofText?_printed, fun other h => Config.printed_injective h,
    fun _ _ _ _ hread hconfig => CommandLine.result_of_parse hread hconfig⟩
  rw [List.map_map]
  rfl

section Sample

open Workspace (sample sampleConfig)

-- Names with quotes, backslashes, control characters, and characters beyond one unit.
def strangeConfig : Config :=
  ⟨⟨[("\"\\\n\x01", ⟨.data, ⟨[("é\t/", ⟨.array, true⟩), ("😀", ⟨.unknown, false⟩)], by decide⟩,
      by decide⟩),
    ("", Collection.empty .content)], by decide⟩⟩

theorem printed_config_recovered_sample :
    Config.ofText? strangeConfig.printed = some strangeConfig ∧
      CommandLine.Invocation.read ["parse", "src/content/config.ts"] =
        .ok ⟨none, .parse "src/content/config.ts"⟩ ∧
      (Generation.readConfig sample.store.files (.ofString "src/content/config.ts")).result =
        .ok sampleConfig ∧
      (CommandLine.run ["parse", "src/content/config.ts"] sample).1.result =
        .ok { status := 0, output := sampleConfig.printed } := by
  have hread : CommandLine.Invocation.read ["parse", "src/content/config.ts"] =
      .ok ⟨none, .parse "src/content/config.ts"⟩ := by decide +kernel
  have hpath : Path.ofString "src/content/config.ts" = ({} : Settings).contentPath := by
    decide +kernel
  have hconfig := Workspace.sample_config
  rw [← hpath] at hconfig
  obtain ⟨-, hrecovered, -, -⟩ := printed_config_recovered strangeConfig
  obtain ⟨-, -, -, hparse⟩ := printed_config_recovered sampleConfig
  exact ⟨hrecovered, hread, hconfig, hparse _ _ _ _ hread hconfig⟩

end Sample

end ContentForms
