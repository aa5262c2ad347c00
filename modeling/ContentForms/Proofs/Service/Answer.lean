import ContentForms.Proofs.Json.Printed
import ContentForms.Proofs.Service.Limit
import ContentForms.Proofs.Text.Utf8

namespace ContentForms

section Values

open Json (Plain)

theorem Field.plain_toJson (name : String) (field : Field) : Plain (field.toJson name) := by
  refine .object (by simp) fun member hm => ?_
  simp only [List.mem_cons, List.not_mem_nil, or_false] at hm
  obtain rfl | rfl | rfl := hm <;> constructor

-- The entries of a map under their keys.
theorem Json.plain_entries (map : OrderedMap String α) (toJson : String × α → Json)
    (h : ∀ entry ∈ map.entries, Plain (toJson entry)) :
    Plain (.object (map.entries.map fun entry => (entry.1, toJson entry))) := by
  refine .object ?_ fun member hm => ?_
  · rw [List.map_map]
    exact map.nodup
  · obtain ⟨entry, he, rfl⟩ := List.mem_map.mp hm
    exact h entry he

theorem Collection.plain_toJson (collection : Collection) : Plain collection.toJson := by
  refine .object (by simp) fun member hm => ?_
  simp only [List.mem_cons, List.not_mem_nil, or_false] at hm
  obtain rfl | rfl := hm
  · exact .string _
  · exact Json.plain_entries collection.fields (fun entry => entry.2.toJson entry.1)
      fun entry _ => entry.2.plain_toJson entry.1

theorem Config.plain_toJson (config : Config) : Plain config.toJson := by
  refine .object (by simp) fun member hm => ?_
  rw [List.mem_singleton] at hm
  subst hm
  exact Json.plain_entries config.collections (fun entry => entry.2.toJson)
    fun entry _ => entry.2.plain_toJson

theorem Conversion.plain_toJson (conversion : Conversion) : Plain conversion.toJson := by
  refine .object (by simp) fun member hm => ?_
  simp only [List.mem_cons, List.not_mem_nil, or_false] at hm
  obtain rfl | rfl := hm
  · exact conversion.config.plain_toJson
  · exact .string _

end Values

namespace Service

open Json (Denotes)

-- A text that stands for a value does not begin with a mark of the byte order.
private theorem withoutMark_of_denotes {cs : List Char} {value : Json} (h : Denotes cs value) :
    withoutMark cs = cs := by
  have hmark : ∀ {c rest}, c ∈ [' ', '\t', '\n', '\r'] ++ Json.Reader.firsts →
      withoutMark (c :: rest) = c :: rest := by
    intro c rest hc
    have hother : ([' ', '\t', '\n', '\r'] ++ Json.Reader.firsts).all
        fun c => c.toNat ≠ 0xFEFF := by decide
    rw [withoutMark, if_neg (by simpa using List.all_eq_true.mp hother c hc)]
  cases h with
  | @padded front w back _ hfront hw hback =>
      cases front with
      | nil =>
          obtain ⟨c, w', rfl, hc⟩ := Json.Reader.exists_cons_of_written hw
          exact hmark (List.mem_append_right _ hc)
      | cons c front => exact hmark (List.mem_append_left _ (hfront c List.mem_cons_self))

structure Brings (request : Request) (text : String) : Prop where
  type_eq : isJsonType ((request.header? "content-type").getD "") = true
  body_eq : ∃ body members, request.body = Text.Utf8.encode body ∧
    Denotes body.toList (.object members) ∧ members.lookup "source" = some (.string text)

theorem Brings.source_eq {request : Request} {text : String} (h : Brings request text) :
    source request = .ok text := by
  obtain ⟨htype, body, members, hbody, hdenotes, hsource⟩ := h
  have hne : request.body.isEmpty = false := by
    rw [List.isEmpty_eq_false_iff, hbody]
    intro hempty
    have htext : Text.Utf8.encode "" = [] := Text.Utf8.encode_eq ""
    obtain rfl : body = "" := Text.Utf8.eq_of_encode_eq (hempty.trans htext.symm)
    cases Json.read_of_denotes hdenotes
  have hvalue : bodyValue request = .ok (.object members) := by
    simp only [bodyValue, hbody, Text.Utf8.decodeLossy_encode, htype, if_true,
      withoutMark_of_denotes hdenotes, Json.read_of_denotes hdenotes]
  unfold source
  simp only [hne, Bool.false_eq_true, if_false, hvalue, Json.member?, hsource, bind, Except.bind]

-- Less is told than is allowed, or nothing that can be read.
def WithinLimit (settings : Settings) (request : Request) : Prop :=
  ∀ size, told? request = some size → size ≤ settings.maxRequestSize

theorem respond_of_brings {settings : Settings} {request : Request} {text : String}
    {conversion : Conversion} (hasks : AsksToConvert request)
    (hlimit : WithinLimit settings request) (hbrings : Brings request text)
    (hc : (Conversion.ofSource text).result = .ok conversion) (workspace : Workspace) :
    (respond settings request workspace).response = json 200 conversion.toJson := by
  have hnone : excess? settings request = none := by
    rw [Option.eq_none_iff_forall_ne_some]
    intro size hsize
    obtain ⟨htold, hover⟩ := (excess?_eq_some hasks).mp hsize
    exact absurd hover (Int.not_lt.mpr (hlimit size htold))
  rw [respond_of_asksToConvert hasks, hnone]
  simp only [answerConvert, hbrings.source_eq, hc]

theorem withinLimit_sent {settings : Settings} {request : Request} (h : AsksToConvert request)
    (hnone : request.toldLength? = none) (hlen : request.body.length < 10 ^ Text.maxDigits)
    (hlimit : (request.body.length : Int) ≤ settings.maxRequestSize) :
    WithinLimit settings request.sent := by
  have hbody : request.sent.body = request.body := by
    unfold Request.sent
    split <;> rfl
  intro size hsize
  rw [told?_sent h hnone hlen, hbody] at hsize
  exact Option.some.inj hsize ▸ hlimit

def conversionRequest (text : String) : Request :=
  ⟨"POST", "/convert", [("content-type", "application/json")],
    Text.Utf8.encode (Json.object [("source", .string text)]).compact⟩

private theorem settledPath_congr {request other : Request} (h : request.target = other.target) :
    settledPath request = settledPath other := by
  rw [settledPath, settledPath, Request.path, Request.path, h]

theorem asksToConvert_conversionRequest (text : String) :
    AsksToConvert (conversionRequest text) :=
  ⟨rfl, (settledPath_congr rfl).trans (asksToConvert_sampleRequest none).path_eq⟩

theorem brings_conversionRequest (text : String) : Brings (conversionRequest text) text := by
  have hheader : (conversionRequest text).header? "content-type" = some "application/json" := by
    simp only [Request.header?, conversionRequest]
    decide +kernel
  have hplain : Json.Plain (.object [("source", .string text)]) := by
    refine .object (by simp) fun member hm => ?_
    rw [List.mem_singleton.mp hm]
    exact .string text
  refine ⟨?_, _, _, rfl, Json.denotes_compact hplain, by simp⟩
  rw [hheader]
  decide +kernel

structure TellsConversion (conversion : Conversion) (response : Response) : Prop where
  status_eq : response.status = 200
  body_eq : ∃ members, Json.Means response.body (.object members) ∧
    members.lookup "output" = some (.string conversion.output) ∧
    members.lookup "config" = some conversion.config.toJson

theorem tellsConversion_json (conversion : Conversion) :
    TellsConversion conversion (json 200 conversion.toJson) :=
  ⟨rfl, _, (Json.denotes_compact conversion.plain_toJson).means, by simp [List.lookup_cons],
    by simp⟩

end Service

end ContentForms
