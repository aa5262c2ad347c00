import ContentForms.Proofs.CommandLine.Prediction
import ContentForms.Proofs.Extraction.Refusal
import ContentForms.Proofs.Generation.Input
import ContentForms.Proofs.Service.Answer

namespace ContentForms

open Text.Utf8 (encode decode decodeLossy)
open Generation (IllFormed ReadsFile told)
open CommandLine (Invocation)

namespace Service

theorem Brings.sent {request : Request} {text : String} (h : Brings request text) :
    Brings request.sent text := by
  obtain ⟨htype, hbody⟩ := h
  unfold Request.sent
  split
  · exact ⟨htype, hbody⟩
  · refine ⟨?_, hbody⟩
    have hheader : ∀ (headers : List (String × String)) (length : String),
        Request.header? { request with headers := headers ++ [("content-length", length)] }
          "content-type" = Request.header? { request with headers := headers } "content-type" := by
      intro headers length
      rw [Request.header?, List.find?_append]
      simp [Request.header?]
    rw [hheader]
    exact htype

end Service

namespace Workspace

variable {workspace : Workspace} {text : String} {conversion : Conversion} {settings : Settings}

def Holds (workspace : Workspace) (path : Path) (bytes : List UInt8) : Prop :=
  workspace.store.files.read path = .ok bytes

-- A writing operation leaves the module in the generated file, unless that is kept from it.
def Writes (workspace : Workspace) (settings : Settings) (conversion : Conversion)
    (operation : Operation) : Prop :=
  (∃ made bytes, (workspace.perform operation).1.result = .ok (operation.tell made) ∧
      made.config = conversion.config ∧ made.output = conversion.output ∧
      (workspace.perform operation).2.store.files.read settings.generatedPath = .ok bytes ∧
      decode bytes = .ok conversion.output) ∨
    Generation.Blocked workspace.store.files settings.generatedPath conversion.output ∧
      refused (workspace.perform operation).1.result = true

-- What is made of a text, wherever it is found, is its conversion.
structure Agrees (workspace : Workspace) (text : String) (conversion : Conversion) : Prop where
  runs : ∀ {direct level settings}, workspace.settings direct = .ok settings →
    workspace.Holds settings.contentPath (encode text) →
      ∃ made, (workspace.perform (.run direct false level)).1.result = .ok (.generation made) ∧
        made.config = conversion.config ∧ made.output = conversion.output
  writes : ∀ {operation settings}, workspace.writing? operation = some settings →
    workspace.Holds settings.contentPath (encode text) →
      workspace.Writes settings conversion operation
  prints : ∀ {arguments check settings},
    workspace.generating? true check arguments = some settings →
    workspace.Holds settings.contentPath (encode text) →
      (workspace.perform (.command arguments)).1.result =
        .ok (.reply { status := 0, output := conversion.output })
  converts : ∀ {request settings}, workspace.service = some settings →
    Service.AsksToConvert request → Service.WithinLimit settings request.sent →
    Service.Brings request text →
      ∃ response, (workspace.perform (.request request)).1.result = .ok (.response response) ∧
        Service.TellsConversion conversion response
  parses : ∀ {arguments level path}, Invocation.read arguments = .ok ⟨level, .parse path⟩ →
    workspace.Holds (.ofString path) (encode text) →
      ∃ output, (workspace.perform (.command arguments)).1.result =
          .ok (.reply { status := 0, output }) ∧
        Json.Means output conversion.config.toJson

-- Bytes that are no text are no content config, but still a source.
structure Refuses (workspace : Workspace) (bytes : List UInt8) : Prop where
  runs : ∀ {direct write level settings}, workspace.settings direct = .ok settings →
    workspace.Holds settings.contentPath bytes →
      (workspace.perform (.run direct write level)).1.result =
        .error (.configNotFound settings.contentPath)
  generates : ∀ {arguments toOutput check settings},
    workspace.generating? toOutput check arguments = some settings →
    workspace.Holds settings.contentPath bytes →
      (workspace.perform (.command arguments)).1.result =
        .ok (.reply (CommandLine.notFound settings.contentPath))
  requests : ∀ {request settings}, workspace.service = some settings →
    asksToGenerate request = true → workspace.Holds settings.contentPath bytes →
      (workspace.perform (.request request)).1.result =
        .ok (.response (Service.detail 404 (Failure.configNotFound settings.contentPath).message))
  parses : ∀ {arguments level path}, Invocation.read arguments = .ok ⟨level, .parse path⟩ →
    workspace.Holds (.ofString path) bytes →
      (workspace.perform (.command arguments)).1.result =
        .ok (.reply (CommandLine.notFound (.ofString path)))
  source : ∃ text, '�' ∈ text.toList ∧ Conversion.readBytes bytes = Conversion.read text ∧
    (Conversion.readBytes bytes).FailsOnlyBy .emptyName

theorem perform_parse {arguments : List String} {level : Option String} {path : String}
    (hread : Invocation.read arguments = .ok ⟨level, .parse path⟩) :
    let reading := Generation.readConfig workspace.store.files (.ofString path)
    (workspace.perform (.command arguments)).1.result =
      (CommandLine.tolerant (reading.result.map fun config =>
        { status := 0, output := config.toJson.indented ++ "\n" })).map .reply := by
  simp only [perform, answerWith, CommandLine.run_parse hread]

section Agreeing

variable (hc : (Conversion.ofSource text).result = .ok conversion)

include hc

theorem writes_of_holds {operation : Operation} (hw : workspace.writing? operation = some settings)
    (hholds : workspace.Holds settings.contentPath (encode text)) :
    workspace.Writes settings conversion operation := by
  have hread := Generation.result_of_conversion hholds hc
  have houtput := (Conversion.ofSource_eq_ok.mp hc).2
  obtain ⟨hstore, hok, herror⟩ := perform_of_writing hw
  unfold Writes
  rw [houtput, hstore]
  rcases Generation.update_cases workspace.store.files settings.generatedPath
    (Generated.render conversion.config) with
    ⟨failure, left, hu, -⟩ | ⟨hu, hcurrent⟩ | ⟨ready, done, hu, -, hwrite⟩
  · exact .inr ⟨Generation.update_error_iff.mp ⟨failure, by rw [hu]⟩,
      herror _ (Generation.run_of_update_error hread hu).1⟩
  · obtain ⟨hres, hfiles⟩ := Generation.run_of_update hread hu
    refine .inl ⟨_, _, hok _ hres, rfl, rfl, ?_, Text.Utf8.decode_encode _⟩
    rw [hfiles, hcurrent]
  · obtain ⟨hres, hfiles⟩ := Generation.run_of_update hread hu
    refine .inl ⟨_, _, hok _ hres, rfl, rfl, ?_, Text.Utf8.decode_encode _⟩
    rw [hfiles, Files.read_of_write hwrite]

theorem agrees : workspace.Agrees text conversion := by
  have houtput := (Conversion.ofSource_eq_ok.mp hc).2
  -- Whoever reads the text from a file without writing tells of the same config and module.
  have hdry : ∀ {settings : Settings}, workspace.Holds settings.contentPath (encode text) →
      (Generation.run settings false workspace.store).1.result =
        .ok (told settings conversion.config .dryRun) := by
    intro settings hholds
    exact (Generation.run_dry (Generation.result_of_conversion hholds hc)).1
  refine ⟨fun {direct level settings} hload hholds => ?_, writes_of_holds hc,
    fun hgenerates hholds => ?_, fun hservice hasks hlimit hbrings => ?_,
    fun hread hholds => ?_⟩
  · refine ⟨told settings conversion.config .dryRun, ?_, rfl, houtput.symm⟩
    rw [(perform_run hload false level).2, hdry hholds]
    rfl
  · rw [(perform_generate hgenerates).2, Bool.true_or, Bool.not_true, hdry hholds, houtput]
    rfl
  · refine ⟨_, by rw [perform_request hservice], ?_⟩
    rw [Service.respond_of_brings hasks.sent hlimit hbrings.sent hc]
    exact Service.tellsConversion_json conversion
  · refine ⟨_, ?_, (Json.denotes_indented conversion.config.plain_toJson).means⟩
    rw [perform_parse hread, Generation.result_of_conversion hholds hc]
    rfl

end Agreeing

theorem refuses {bytes : List UInt8} (hbytes : IllFormed bytes) : workspace.Refuses bytes := by
  have hread : ∀ {path}, workspace.Holds path bytes →
      (Generation.readConfig workspace.store.files path).result =
        .error (.configNotFound path) := by
    intro path hholds
    rw [Generation.readConfig_of_illFormed hholds hbytes]
    rfl
  refine ⟨fun hload hholds => ?_, fun h hholds => ?_, fun hservice hasks hholds => ?_,
    fun hparse hholds => ?_, ?_⟩
  · rw [(perform_run hload _ _).2, (Generation.run_of_unread (hread hholds) _).1]
    rfl
  · rw [(perform_generate h).2, (Generation.run_of_unread (hread hholds) _).1]
    rfl
  · rw [perform_asksToGenerate hservice hasks, Service.answerGenerate, Workspace.run]
    simp only [(Generation.run_of_unread (hread hholds) true).1]
  · rw [perform_parse hparse, hread hholds]
    rfl
  · obtain ⟨fault, hfault⟩ := Generation.exists_decode_error hbytes
    exact ⟨decodeLossy bytes, Text.Utf8.replacement_mem_decodeLossy hfault, rfl,
      Extraction.config_failsOnlyBy _⟩

-- A source can be given to the service, or stand in the content config for a run, a command or a
-- request; what comes out is what converting the source gives.
theorem surfaces_agree (workspace : Workspace) :
    (∀ path : Path, path.hasNull = false → ReadsFile workspace.store.files path) ∧
      (∀ text conversion, (Conversion.ofSource text).result = .ok conversion →
        workspace.Agrees text conversion) ∧
      ∀ bytes, IllFormed bytes → workspace.Refuses bytes :=
  ⟨fun _ hnull => Generation.readsFile workspace.store.files hnull, fun _ _ hc => agrees hc,
    fun _ hbytes => refuses hbytes⟩

section Sample

def served (bytes : List UInt8) : Workspace :=
  let files := sample.store.files.put ["home", "src", "content", "config.ts"] (.file bytes)
  { sample with store := ⟨files.put ["home", "c"] (.file bytes), {}⟩, service := some {} }

def generationRequest : Service.Request := ⟨"POST", "/generate", [], []⟩

private theorem illFormed_sample : IllFormed [0xFF] := by
  intro text htext
  have hfault : (decode [0xFF]).toOption = none := by decide +kernel
  rw [Text.Utf8.decode_eq_ok_iff.mpr htext] at hfault
  cases hfault

private theorem conversion_sample :
    (Conversion.ofSource sampleText).result = .ok (.ofConfig sampleConfig) := by
  refine Conversion.ofSource_eq_ok.mpr ⟨?_, rfl⟩
  decide +kernel

private theorem not_blocked_sample :
    ¬ Generation.Blocked (served (encode sampleText)).store.files ({} : Settings).generatedPath
      (Generated.render sampleConfig) := by
  rw [← Generation.update_error_iff]
  have hwritten : (Generation.update (served (encode sampleText)).store.files
      ({} : Settings).generatedPath (Generated.render sampleConfig)).1 = .ok .written := by
    decide +kernel
  simp [hwritten]

theorem surfaces_agree_sample :
    (∃ made, ((served (encode sampleText)).perform (.run [] false "info")).1.result =
          .ok (.generation made) ∧ made.output = Generated.render sampleConfig) ∧
      (∃ made bytes, ((served (encode sampleText)).perform (.command ["generate"])).1.result =
          .ok (Operation.tell (.command ["generate"]) made) ∧
        ((served (encode sampleText)).perform (.command ["generate"])).2.store.files.read
          ({} : Settings).generatedPath = .ok bytes ∧
        decode bytes = .ok (Generated.render sampleConfig)) ∧
      ((served (encode sampleText)).perform (.command ["generate", "--stdout"])).1.result =
        .ok (.reply { status := 0, output := Generated.render sampleConfig }) ∧
      (∃ response, ((served (encode sampleText)).perform
          (.request (Service.conversionRequest sampleText))).1.result = .ok (.response response) ∧
        Service.TellsConversion (.ofConfig sampleConfig) response) ∧
      (∃ output, ((served (encode sampleText)).perform (.command ["parse", "c"])).1.result =
          .ok (.reply { status := 0, output }) ∧
        Json.Means output sampleConfig.toJson) ∧
      ((served [0xFF]).perform (.run [] true "info")).1.result =
        .error (.configNotFound ({} : Settings).contentPath) ∧
      ((served [0xFF]).perform (.command ["generate"])).1.result =
        .ok (.reply (CommandLine.notFound ({} : Settings).contentPath)) ∧
      ((served [0xFF]).perform (.request generationRequest)).1.result =
        .ok (.response (Service.detail 404
          (Failure.configNotFound ({} : Settings).contentPath).message)) ∧
      ((served [0xFF]).perform (.command ["parse", "c"])).1.result =
        .ok (.reply (CommandLine.notFound (.ofString "c"))) := by
  have hpath : Path.ofString "c" = ⟨0, ["c"]⟩ := by decide +kernel
  have hholds : ∀ bytes ∈ [encode sampleText, [0xFF]],
      (served bytes).Holds ({} : Settings).contentPath bytes ∧
        (served bytes).Holds ⟨0, ["c"]⟩ bytes := by
    unfold Holds
    decide +kernel
  obtain ⟨hconfig, htext⟩ := hholds (encode sampleText) (by simp)
  obtain ⟨hspoiled, hbytes⟩ := hholds [0xFF] (by simp)
  rw [← hpath] at htext hbytes
  have hloads : ∀ bytes ∈ [encode sampleText, [0xFF]], (served bytes).settings [] = .ok {} := by
    decide +kernel
  have hwrites : ∀ bytes ∈ [encode sampleText, [0xFF]],
      (served bytes).generating? false false ["generate"] = some {} := by decide +kernel
  have hprints : (served (encode sampleText)).generating? true false
      ["generate", "--stdout"] = some {} := by decide +kernel
  have hparses : Invocation.read ["parse", "c"] = .ok ⟨none, .parse "c"⟩ := by decide +kernel
  have hasks := Service.asksToConvert_conversionRequest sampleText
  have hlimit : Service.WithinLimit {} (Service.conversionRequest sampleText).sent :=
    Service.withinLimit_sent hasks (by decide +kernel) (by decide +kernel) (by decide +kernel)
  obtain ⟨-, hagrees, -⟩ := surfaces_agree (served (encode sampleText))
  obtain ⟨-, -, hrefuses⟩ := surfaces_agree (served [0xFF])
  have hsame := hagrees sampleText (.ofConfig sampleConfig) conversion_sample
  have hnone := hrefuses [0xFF] illFormed_sample
  have hwritten : (served (encode sampleText)).Writes {} (.ofConfig sampleConfig)
      (.command ["generate"]) := hsame.writes (hwrites (encode sampleText) (by simp)) hconfig
  refine ⟨?_, ?_, hsame.prints hprints hconfig,
    hsame.converts rfl hasks hlimit (Service.brings_conversionRequest sampleText),
    hsame.parses hparses htext, hnone.runs (hloads [0xFF] (by simp)) hspoiled,
    hnone.generates (hwrites [0xFF] (by simp)) hspoiled,
    hnone.requests rfl (by decide +kernel) hspoiled, hnone.parses hparses hbytes⟩
  · obtain ⟨made, hran, -, houtput⟩ := hsame.runs (hloads (encode sampleText) (by simp)) hconfig
    exact ⟨made, hran, houtput⟩
  · obtain ⟨made, bytes, hran, -, -, hread, hdecode⟩ | ⟨hblocked, -⟩ := hwritten
    · exact ⟨made, bytes, hran, hread, hdecode⟩
    · exact absurd hblocked not_blocked_sample

end Sample

end Workspace

end ContentForms
