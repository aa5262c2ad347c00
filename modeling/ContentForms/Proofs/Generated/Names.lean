import ContentForms.Generated.Module

namespace ContentForms

def Config.EveryName (config : Config) (P : String → Prop) : Prop :=
  ∀ entry ∈ config.collections.entries, P entry.1 ∧ ∀ field ∈ entry.2.fields.entries, P field.1

instance (config : Config) (P : String → Prop) [DecidablePred P] :
    Decidable (config.EveryName P) :=
  inferInstanceAs (Decidable (∀ entry ∈ config.collections.entries, _))

namespace Text

def BeforeLetters (c : Char) : Prop := 0 < c.toNat ∧ c.toNat < 'A'.toNat

instance (c : Char) : Decidable (BeforeLetters c) := inferInstanceAs (Decidable (_ ∧ _))

theorem not_beforeLetters_ofNat {code : Nat} (h : 'A'.toNat ≤ code) :
    ¬ BeforeLetters (Char.ofNat code) := by
  rintro ⟨hpos, hlow⟩
  by_cases hvalid : code.isValidChar
  · have hcode : (Char.ofNat code).toNat = code := by
      rw [Char.ofNat, dif_pos hvalid]
      rfl
    omega
  -- A number that is no character stands for the lowest one.
  · have hcode : (Char.ofNat code).toNat = 0 := by
      rw [Char.ofNat, dif_neg hvalid]
      rfl
    omega

-- The tables bring nothing from before the letters, so such a character stands for itself.
private theorem mem_capital {mark c : Char} (hm : BeforeLetters mark) (h : mark ∈ capital c) :
    mark = c := by
  have hsequences : capitalSequences.all fun entry =>
      entry.2.all fun code => 'A'.toNat ≤ code := by decide +kernel
  have hruns : capitalRuns.all fun run => ('A'.toNat : Int) ≤ run.first + run.shift := by
    decide +kernel
  unfold capital at h
  split at h
  · rename_i entry hfound
    obtain ⟨code, hcode, rfl⟩ := List.mem_map.mp h
    have hall := List.all_eq_true.mp hsequences entry (List.mem_of_find?_eq_some hfound)
    exact absurd hm (not_beforeLetters_ofNat (by simpa using List.all_eq_true.mp hall code hcode))
  · split at h
    · rename_i run hfound
      have hcovers := List.find?_some hfound
      have hshift := List.all_eq_true.mp hruns run (List.mem_of_find?_eq_some hfound)
      simp only [CaseRun.covers, Bool.and_eq_true, decide_eq_true_eq] at hcovers hshift
      rw [List.mem_singleton.mp h] at hm
      exact absurd hm (not_beforeLetters_ofNat (by omega))
    · exact List.mem_singleton.mp h

theorem mem_capitalize {mark : Char} (hm : BeforeLetters mark) {cs : List Char}
    (h : mark ∈ capitalize cs) : mark ∈ cs := by
  cases cs with
  | nil => exact h
  | cons c rest =>
      rcases List.mem_append.mp h with h | h
      · exact mem_capital hm h ▸ List.mem_cons_self
      · exact List.mem_cons_of_mem c h

end Text

namespace Generated

private theorem mem_escape {c : Char} {cs : List Char} (h : c ∈ escape cs) : c = '\\' ∨ c ∈ cs := by
  induction cs with
  | nil => exact .inr h
  | cons d rest ih =>
      rw [escape_cons] at h
      split at h <;> simp only [List.mem_cons] at h ⊢ <;> grind

def labelBody (name : String) : List Char := escape (Text.capitalize name.toList)

theorem toList_label (name : String) : (label name).toList = '\'' :: labelBody name ++ ['\''] := by
  simp [label, quote, quoteChars, labelBody, Text.capitalizeFirst]

theorem mem_labelBody {mark : Char} (hm : Text.BeforeLetters mark) {name : String}
    (h : mark ∈ labelBody name) : mark ∈ name.toList := by
  rcases mem_escape h with rfl | h
  · exact absurd hm (by decide)
  · exact Text.mem_capitalize hm h

end Generated

end ContentForms
