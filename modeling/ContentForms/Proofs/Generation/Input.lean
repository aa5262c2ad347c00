import ContentForms.Generation
import ContentForms.Proofs.Files
import ContentForms.Proofs.Text.Utf8

namespace ContentForms

open Text.Utf8 (encode decode decodeLossy)

namespace Files

theorem read_ne_nullByte (files : Files) {path : Path} (h : path.hasNull = false) :
    files.read path ≠ .error .nullByte := by
  intro hread
  rcases read_error hread with ⟨hnull, -⟩ | ⟨-, hfault⟩
  · exact absurd (h.symm.trans hnull) Bool.false_ne_true
  · rcases hfault with hf | hf | hf <;> cases hf

end Files

namespace Conversion

theorem readBytes_encode (text : String) : readBytes (encode text) = read text := by
  rw [readBytes, Text.Utf8.decodeLossy_encode]

theorem ofSource_eq_ok {text : String} {conversion : Conversion} :
    (ofSource text).result = .ok conversion ↔
      (read text).result = .ok conversion.config ∧
        conversion.output = Generated.render conversion.config := by
  change (Traced.bind (read text) fun config => Traced.pure (ofConfig config)).result = _ ↔ _
  cases h : (read text).result with
  | error e => simp [Traced.bind, h]
  | ok config =>
      simp only [Traced.bind, h, Traced.pure, Except.ok.injEq]
      constructor
      · rintro rfl
        exact ⟨rfl, rfl⟩
      · rintro ⟨rfl, houtput⟩
        cases conversion
        exact congrArg (Conversion.mk _) houtput.symm

end Conversion

namespace Generation

variable {files : Files} {path : Path}

-- No text is written with these bytes.
def IllFormed (bytes : List UInt8) : Prop := ∀ text, encode text ≠ bytes

theorem exists_decode_error {bytes : List UInt8} (h : IllFormed bytes) :
    ∃ fault, decode bytes = .error fault := by
  cases hd : decode bytes with
  | error fault => exact ⟨fault, rfl⟩
  | ok text => exact absurd (Text.Utf8.decode_eq_ok_iff.mp hd) (h text)

def readingFrom (path : Path) (bytes : List UInt8) : Traced Failure Config := do
  Traced.report (.reading path.toString bytes.length)
  (Conversion.readBytes bytes).mapError .schema

theorem readConfig_of_text {text : String} (h : files.read path = .ok (encode text)) :
    readConfig files path = readingFrom path (encode text) := by
  simp only [readConfig, h, Text.Utf8.decode_encode, readingFrom]

theorem readConfig_of_illFormed {bytes : List UInt8} (h : files.read path = .ok bytes)
    (hbytes : IllFormed bytes) : readConfig files path = Traced.fail (.configNotFound path) := by
  obtain ⟨fault, hfault⟩ := exists_decode_error hbytes
  simp only [readConfig, h, hfault]

theorem readConfig_of_unreadable {fault : Files.Fault} (hnull : path.hasNull = false)
    (h : files.read path = .error fault) :
    readConfig files path = Traced.fail (.configNotFound path) := by
  have hne := Files.read_ne_nullByte files hnull
  cases fault with
  | nullByte => exact absurd h hne
  | _ => simp only [readConfig, h]

theorem result_of_text {text : String} (h : files.read path = .ok (encode text)) :
    (readConfig files path).result = ((Conversion.read text).mapError Failure.schema).result := by
  rw [readConfig_of_text h, readingFrom, Conversion.readBytes_encode]
  rfl

theorem result_of_conversion {text : String} {conversion : Conversion}
    (h : files.read path = .ok (encode text))
    (hc : (Conversion.ofSource text).result = .ok conversion) :
    (readConfig files path).result = .ok conversion.config := by
  rw [result_of_text h, Traced.mapError, (Conversion.ofSource_eq_ok.mp hc).1]

structure ReadsFile (files : Files) (path : Path) : Prop where
  notFound_iff : (readConfig files path).result = .error (.configNotFound path) ↔
    ¬ ∃ place text, files.place path = .ok place ∧ files.fileAt place = some (encode text)
  path_eq : ∀ other, (readConfig files path).result = .error (.configNotFound other) →
    other = path
  otherwise : ∀ place text, files.place path = .ok place →
    files.fileAt place = some (encode text) →
      readConfig files path = readingFrom path (encode text) ∧
        Conversion.readBytes (encode text) = Conversion.read text

theorem result_ne_configNotFound {text : String} (h : files.read path = .ok (encode text))
    (other : Path) : (readConfig files path).result ≠ .error (.configNotFound other) := by
  rw [result_of_text h, Traced.mapError]
  cases (Conversion.read text).result <;> simp

theorem readsFile (files : Files) {path : Path} (hnull : path.hasNull = false) :
    ReadsFile files path := by
  -- Either there is a text to read, or the config is not found.
  have hcases : (∃ text, files.read path = .ok (encode text)) ∨
      (readConfig files path = Traced.fail (.configNotFound path) ∧
        ¬ ∃ text, files.read path = .ok (encode text)) := by
    by_cases htext : ∃ text, files.read path = .ok (encode text)
    · exact .inl htext
    · refine .inr ⟨?_, htext⟩
      cases hread : files.read path with
      | error fault => exact readConfig_of_unreadable hnull hread
      | ok bytes =>
          refine readConfig_of_illFormed hread fun text hb => htext ⟨text, ?_⟩
          rw [hread, hb]
  have hnames : (∃ place text, files.place path = .ok place ∧
      files.fileAt place = some (encode text)) ↔ ∃ text, files.read path = .ok (encode text) := by
    simp only [Files.read_eq_ok]
    exact exists_comm
  refine ⟨?_, fun other hother => ?_, fun place text hplace hfile => ?_⟩
  · rw [hnames]
    obtain ⟨text, htext⟩ | ⟨hfail, hnone⟩ := hcases
    · exact iff_of_false (result_ne_configNotFound htext path) fun hn => hn ⟨text, htext⟩
    · exact iff_of_true (by rw [hfail]; rfl) hnone
  · obtain ⟨text, htext⟩ | ⟨hfail, -⟩ := hcases
    · exact absurd hother (result_ne_configNotFound htext other)
    · rw [hfail] at hother
      cases hother
      rfl
  · exact ⟨readConfig_of_text (Files.read_eq_ok.mpr ⟨place, hplace, hfile⟩),
      Conversion.readBytes_encode text⟩

end Generation

end ContentForms
