import ContentForms.Text.Utf8
import Mathlib.Data.List.Basic

namespace ContentForms.Text.Utf8

open String (utf8EncodeChar)

section Bytes

-- What the loop has still to collect is what is left of the bytes.
private theorem toList_loop (bytes : ByteArray) (i : Nat) (done : List UInt8) :
    ByteArray.toList.loop bytes i done = done.reverse ++ bytes.data.toList.drop i := by
  induction hleft : bytes.size - i generalizing i done with
  | zero =>
      have hend : ¬ i < bytes.size := by omega
      have hdrop : bytes.data.toList.drop i = [] := by simpa using hend
      rw [ByteArray.toList.loop, if_neg hend, hdrop, List.append_nil]
  | succ left ih =>
      have hin : i < bytes.size := by omega
      have hdrop : bytes.data.toList.drop i = bytes.get! i :: bytes.data.toList.drop (i + 1) := by
        rw [List.drop_eq_getElem_cons hin]
        simp [ByteArray.get!, hin]
      rw [ByteArray.toList.loop, if_pos hin, ih (i + 1) _ (by omega), hdrop, List.reverse_cons,
        List.append_assoc]
      rfl

theorem encode_ofList (cs : List Char) : encode (String.ofList cs) = cs.flatMap utf8EncodeChar := by
  have hbytes : (String.ofList cs).toUTF8 = (cs.flatMap utf8EncodeChar).toByteArray :=
    String.toByteArray_ofList
  rw [encode, hbytes, ByteArray.toList, toList_loop, List.toList_data_toByteArray]
  rfl

theorem encode_eq (text : String) : encode text = text.toList.flatMap utf8EncodeChar := by
  rw [← encode_ofList, String.ofList_toList]

end Bytes

section Continuations

-- The first bytes of two, three and four, and what they allow for the second byte.
theorem continuations?_two {first : Nat} (hlow : 0xC2 ≤ first) (hhigh : first ≤ 0xDF) :
    continuations? first = some (1, 0x80, 0xBF) := by
  rw [continuations?, if_neg (by omega), if_pos hhigh]

theorem continuations?_three {first : Nat} (hlow : 0xE0 ≤ first) (hhigh : first ≤ 0xEF) :
    continuations? first =
      some (2, if first = 0xE0 then 0xA0 else 0x80, if first = 0xED then 0x9F else 0xBF) := by
  rw [continuations?, if_neg (by omega), if_neg (by omega)]
  by_cases h₀ : first = 0xE0
  · simp [h₀]
  · by_cases h₁ : first = 0xED
    · simp [h₁]
    · simp [h₀, h₁, hhigh]

theorem continuations?_four {first : Nat} (hlow : 0xF0 ≤ first) (hhigh : first ≤ 0xF4) :
    continuations? first =
      some (3, if first = 0xF0 then 0x90 else 0x80, if first = 0xF4 then 0x8F else 0xBF) := by
  rw [continuations?, if_neg (by omega), if_neg (by omega), if_neg (by omega), if_neg (by omega),
    if_neg (by omega)]
  by_cases h₀ : first = 0xF0
  · simp [h₀]
  · by_cases h₁ : first = 0xF4
    · simp [h₁]
    · have h₂ : first ≤ 0xF3 := by omega
      simp [h₀, h₁, h₂]

-- There are no others.
private theorem first_of_continuations? {first count low high : Nat}
    (h : continuations? first = some (count, low, high)) :
    (0xC2 ≤ first ∧ first ≤ 0xDF) ∨ (0xE0 ≤ first ∧ first ≤ 0xEF) ∨
      (0xF0 ≤ first ∧ first ≤ 0xF4) := by
  by_contra hn
  have hnone : continuations? first = none := by
    by_cases hlow : first < 0xC2
    · rw [continuations?, if_pos hlow]
    · rw [continuations?, if_neg hlow, if_neg (by omega), if_neg (by omega), if_neg (by omega),
        if_neg (by omega), if_neg (by omega), if_neg (by omega), if_neg (by omega)]
  rw [hnone] at h
  cases h

theorem continued_cons {count low high : Nat} {b : UInt8} (hlow : low ≤ b.toNat)
    (hhigh : b.toNat ≤ high) (rest : List UInt8) :
    continued (count + 1) low high (b :: rest) = b.toNat :: continued count 0x80 0xBF rest := by
  rw [continued, if_pos ⟨hlow, hhigh⟩]

theorem exists_of_continued {count low high : Nat} {bytes : List UInt8}
    (h : (continued (count + 1) low high bytes).length = count + 1) :
    ∃ b rest, bytes = b :: rest ∧ low ≤ b.toNat ∧ b.toNat ≤ high ∧
      (continued count 0x80 0xBF rest).length = count := by
  cases bytes with
  | nil => simp [continued] at h
  | cons b rest =>
      rw [continued] at h
      split at h
      · rename_i hb
        exact ⟨b, rest, rfl, hb.1, hb.2, by simpa using h⟩
      · simp at h

end Continuations

def TwoBytes (b b₁ : UInt8) : Prop :=
  0xC2 ≤ b.toNat ∧ b.toNat ≤ 0xDF ∧ 0x80 ≤ b₁.toNat ∧ b₁.toNat ≤ 0xBF

def ThreeBytes (b b₁ b₂ : UInt8) : Prop :=
  0xE0 ≤ b.toNat ∧ b.toNat ≤ 0xEF ∧ (if b.toNat = 0xE0 then 0xA0 else 0x80) ≤ b₁.toNat ∧
    b₁.toNat ≤ (if b.toNat = 0xED then 0x9F else 0xBF) ∧ 0x80 ≤ b₂.toNat ∧ b₂.toNat ≤ 0xBF

def FourBytes (b b₁ b₂ b₃ : UInt8) : Prop :=
  0xF0 ≤ b.toNat ∧ b.toNat ≤ 0xF4 ∧ (if b.toNat = 0xF0 then 0x90 else 0x80) ≤ b₁.toNat ∧
    b₁.toNat ≤ (if b.toNat = 0xF4 then 0x8F else 0xBF) ∧ 0x80 ≤ b₂.toNat ∧ b₂.toNat ≤ 0xBF ∧
    0x80 ≤ b₃.toNat ∧ b₃.toNat ≤ 0xBF

def codeOfTwo (b b₁ : UInt8) : Nat := b.toNat % 32 * 64 + b₁.toNat % 64

def codeOfThree (b b₁ b₂ : UInt8) : Nat :=
  (b.toNat % 16 * 64 + b₁.toNat % 64) * 64 + b₂.toNat % 64

def codeOfFour (b b₁ b₂ b₃ : UInt8) : Nat :=
  ((b.toNat % 8 * 64 + b₁.toNat % 64) * 64 + b₂.toNat % 64) * 64 + b₃.toNat % 64

-- The bytes of one character, by their number.
inductive Spells : List UInt8 → Char → Prop where
  | one {b} (h : b.toNat < 0x80) : Spells [b] (Char.ofNat b.toNat)
  | two {b b₁} (h : TwoBytes b b₁) : Spells [b, b₁] (Char.ofNat (codeOfTwo b b₁))
  | three {b b₁ b₂} (h : ThreeBytes b b₁ b₂) :
      Spells [b, b₁, b₂] (Char.ofNat (codeOfThree b b₁ b₂))
  | four {b b₁ b₂ b₃} (h : FourBytes b b₁ b₂ b₃) :
      Spells [b, b₁, b₂, b₃] (Char.ofNat (codeOfFour b b₁ b₂ b₃))

section Written

theorem val_ofNat {code : Nat} (h : code.isValidChar) : (Char.ofNat code).val.toNat = code := by
  rw [Char.ofNat, dif_pos h]
  rfl

theorem ofNat_eq {b : UInt8} {n : Nat} (h : n = b.toNat) : UInt8.ofNat n = b := by
  rw [h, UInt8.ofNat_toNat]

variable {b b₁ b₂ b₃ : UInt8}

private theorem utf8EncodeChar_one (h : b.toNat < 0x80) :
    utf8EncodeChar (Char.ofNat b.toNat) = [b] := by
  have hvalid : b.toNat.isValidChar := .inl (by omega)
  simp only [utf8EncodeChar, val_ofNat hvalid]
  rw [if_pos (by omega), UInt8.ofNat_toNat]

private theorem utf8EncodeChar_two (h : TwoBytes b b₁) :
    utf8EncodeChar (Char.ofNat (codeOfTwo b b₁)) = [b, b₁] := by
  obtain ⟨hlow, hhigh, h₁, h₁'⟩ := h
  have hcode : codeOfTwo b b₁ = (b.toNat - 192) * 64 + (b₁.toNat - 128) := by
    unfold codeOfTwo
    omega
  have hvalid : (codeOfTwo b b₁).isValidChar := .inl (by omega)
  simp only [utf8EncodeChar, val_ofNat hvalid]
  rw [if_neg (by omega), if_pos (by omega), ofNat_eq (b := b) (by omega),
    ofNat_eq (b := b₁) (by omega)]

private theorem utf8EncodeChar_three (h : ThreeBytes b b₁ b₂) :
    utf8EncodeChar (Char.ofNat (codeOfThree b b₁ b₂)) = [b, b₁, b₂] := by
  obtain ⟨hlow, hhigh, h₁, h₁', h₂, h₂'⟩ := h
  have hbounds : 0x80 ≤ b₁.toNat ∧ b₁.toNat ≤ 0xBF := by
    split at h₁ <;> split at h₁' <;> omega
  have hcode : codeOfThree b b₁ b₂ =
      (b.toNat - 224) * 4096 + (b₁.toNat - 128) * 64 + (b₂.toNat - 128) := by
    unfold codeOfThree
    omega
  have hvalid : (codeOfThree b b₁ b₂).isValidChar := by
    unfold Nat.isValidChar
    split at h₁ <;> split at h₁' <;> omega
  have hrange : 0x800 ≤ codeOfThree b b₁ b₂ ∧ codeOfThree b b₁ b₂ ≤ 0xFFFF := by
    split at h₁ <;> split at h₁' <;> omega
  simp only [utf8EncodeChar, val_ofNat hvalid]
  rw [if_neg (by omega), if_neg (by omega), if_pos (by omega), ofNat_eq (b := b) (by omega),
    ofNat_eq (b := b₁) (by omega), ofNat_eq (b := b₂) (by omega)]

private theorem utf8EncodeChar_four (h : FourBytes b b₁ b₂ b₃) :
    utf8EncodeChar (Char.ofNat (codeOfFour b b₁ b₂ b₃)) = [b, b₁, b₂, b₃] := by
  obtain ⟨hlow, hhigh, h₁, h₁', h₂, h₂', h₃, h₃'⟩ := h
  have hbounds : 0x80 ≤ b₁.toNat ∧ b₁.toNat ≤ 0xBF := by
    split at h₁ <;> split at h₁' <;> omega
  have hcode : codeOfFour b b₁ b₂ b₃ = (b.toNat - 240) * 262144 + (b₁.toNat - 128) * 4096 +
      (b₂.toNat - 128) * 64 + (b₃.toNat - 128) := by
    unfold codeOfFour
    omega
  have hrange : 0x10000 ≤ codeOfFour b b₁ b₂ b₃ ∧ codeOfFour b b₁ b₂ b₃ < 0x110000 := by
    split at h₁ <;> split at h₁' <;> omega
  have hvalid : (codeOfFour b b₁ b₂ b₃).isValidChar := .inr (by omega)
  simp only [utf8EncodeChar, val_ofNat hvalid]
  rw [if_neg (by omega), if_neg (by omega), if_neg (by omega), ofNat_eq (b := b) (by omega),
    ofNat_eq (b := b₁) (by omega), ofNat_eq (b := b₂) (by omega), ofNat_eq (b := b₃) (by omega)]

end Written

theorem Spells.encode_eq {bytes : List UInt8} {c : Char} (h : Spells bytes c) :
    utf8EncodeChar c = bytes := by
  cases h with
  | one h => exact utf8EncodeChar_one h
  | two h => exact utf8EncodeChar_two h
  | three h => exact utf8EncodeChar_three h
  | four h => exact utf8EncodeChar_four h

section Spelling

theorem exists_byte {n : Nat} (h : n < 256) : ∃ b : UInt8, b.toNat = n :=
  ⟨UInt8.ofNat n, UInt8.toNat_ofNat_of_lt' h⟩

variable {code : Nat}

private theorem exists_two (hlow : 0x80 ≤ code) (hhigh : code ≤ 0x7FF) :
    ∃ b b₁, TwoBytes b b₁ ∧ codeOfTwo b b₁ = code := by
  obtain ⟨b, h⟩ := exists_byte (n := 192 + code / 64) (by omega)
  obtain ⟨b₁, h₁⟩ := exists_byte (n := 128 + code % 64) (by omega)
  refine ⟨b, b₁, ?_, ?_⟩
  · rw [TwoBytes, h, h₁]
    omega
  · rw [codeOfTwo, h, h₁]
    omega

private theorem exists_three (hlow : 0x800 ≤ code) (hhigh : code ≤ 0xFFFF)
    (hvalid : code.isValidChar) :
    ∃ b b₁ b₂, ThreeBytes b b₁ b₂ ∧ codeOfThree b b₁ b₂ = code := by
  obtain ⟨b, h⟩ := exists_byte (n := 224 + code / 4096) (by omega)
  obtain ⟨b₁, h₁⟩ := exists_byte (n := 128 + code / 64 % 64) (by omega)
  obtain ⟨b₂, h₂⟩ := exists_byte (n := 128 + code % 64) (by omega)
  unfold Nat.isValidChar at hvalid
  refine ⟨b, b₁, b₂, ?_, ?_⟩
  · rw [ThreeBytes, h, h₁, h₂]
    refine ⟨by omega, by omega, ?_, ?_, by omega, by omega⟩
    · split <;> omega
    · split <;> omega
  · rw [codeOfThree, h, h₁, h₂]
    omega

private theorem exists_four (hlow : 0x10000 ≤ code) (hhigh : code < 0x110000) :
    ∃ b b₁ b₂ b₃, FourBytes b b₁ b₂ b₃ ∧ codeOfFour b b₁ b₂ b₃ = code := by
  obtain ⟨b, h⟩ := exists_byte (n := 240 + code / 262144) (by omega)
  obtain ⟨b₁, h₁⟩ := exists_byte (n := 128 + code / 4096 % 64) (by omega)
  obtain ⟨b₂, h₂⟩ := exists_byte (n := 128 + code / 64 % 64) (by omega)
  obtain ⟨b₃, h₃⟩ := exists_byte (n := 128 + code % 64) (by omega)
  refine ⟨b, b₁, b₂, b₃, ?_, ?_⟩
  · rw [FourBytes, h, h₁, h₂, h₃]
    refine ⟨by omega, by omega, ?_, ?_, by omega, by omega, by omega, by omega⟩
    · split <;> omega
    · split <;> omega
  · rw [codeOfFour, h, h₁, h₂, h₃]
    omega

-- The four lengths share out all codes; the gap of the surrogates lies among those of three bytes.
theorem exists_spells (c : Char) : ∃ bytes, Spells bytes c := by
  obtain ⟨code, hvalid, rfl⟩ : ∃ code, Nat.isValidChar code ∧ Char.ofNat code = c :=
    ⟨c.toNat, c.valid, Char.ofNat_toNat c⟩
  have hbound : code < 0x110000 := by
    unfold Nat.isValidChar at hvalid
    omega
  by_cases hone : code < 0x80
  · obtain ⟨b, rfl⟩ := exists_byte (n := code) (by omega)
    exact ⟨_, .one hone⟩
  · by_cases htwo : code ≤ 0x7FF
    · obtain ⟨b, b₁, h, rfl⟩ := exists_two (by omega) htwo
      exact ⟨_, .two h⟩
    · by_cases hthree : code ≤ 0xFFFF
      · obtain ⟨b, b₁, b₂, h, rfl⟩ := exists_three (by omega) hthree hvalid
        exact ⟨_, .three h⟩
      · obtain ⟨b, b₁, b₂, b₃, h, rfl⟩ := exists_four (by omega) hbound
        exact ⟨_, .four h⟩

theorem spells_utf8EncodeChar (c : Char) : Spells (utf8EncodeChar c) c := by
  obtain ⟨bytes, h⟩ := exists_spells c
  rwa [h.encode_eq]

end Spelling

section Reading

-- Reading stops where the character ends, whatever follows it.
theorem firstPiece_of_spells {b : UInt8} {more : List UInt8} {c : Char} (h : Spells (b :: more) c)
    (rest : List UInt8) : firstPiece b (more ++ rest) = .scalar c (more.length + 1) := by
  cases h with
  | one h =>
      rw [firstPiece, if_pos h]
      rfl
  | two h =>
      obtain ⟨hlow, hhigh, h₁⟩ := h
      rw [firstPiece, if_neg (by omega), continuations?_two hlow hhigh]
      simp only [List.cons_append, continued_cons h₁.1 h₁.2]
      simp [continued, leadingBits, codeOfTwo]
  | three h =>
      obtain ⟨hlow, hhigh, h₁, h₁', h₂⟩ := h
      rw [firstPiece, if_neg (by omega), continuations?_three hlow hhigh]
      simp only [List.cons_append, continued_cons h₁ h₁', continued_cons h₂.1 h₂.2]
      simp [continued, leadingBits, codeOfThree]
  | four h =>
      obtain ⟨hlow, hhigh, h₁, h₁', h₂, h₂', h₃⟩ := h
      rw [firstPiece, if_neg (by omega), continuations?_four hlow hhigh]
      simp only [List.cons_append, continued_cons h₁ h₁', continued_cons h₂ h₂',
        continued_cons h₃.1 h₃.2]
      simp [continued, leadingBits, codeOfFour]

-- The continuation bytes that are found are as many as the first byte asks for.
theorem continued_of_firstPiece {b : UInt8} {rest : List UInt8} {c : Char} {length : Nat}
    (h : firstPiece b rest = .scalar c length) :
    b.toNat < 0x80 ∨ ∃ count low high, continuations? b.toNat = some (count, low, high) ∧
      (continued count low high rest).length = count := by
  by_cases hone : b.toNat < 0x80
  · exact .inl hone
  · rw [firstPiece, if_neg hone] at h
    cases hfirst : continuations? b.toNat with
    | none =>
        rw [hfirst] at h
        cases h
    | some asked =>
        obtain ⟨count, low, high⟩ := asked
        rw [hfirst] at h
        refine .inr ⟨count, low, high, rfl, ?_⟩
        by_contra hn
        simp only [if_neg hn] at h
        split at h <;> cases h

-- A first byte with as many continuation bytes begins a character.
theorem exists_spells_of_continued {b : UInt8} {rest : List UInt8} {count low high : Nat}
    (hfirst : continuations? b.toNat = some (count, low, high))
    (hfound : (continued count low high rest).length = count) :
    ∃ c more rest', rest = more ++ rest' ∧ Spells (b :: more) c := by
  obtain ⟨hlow, hhigh⟩ | ⟨hlow, hhigh⟩ | ⟨hlow, hhigh⟩ := first_of_continuations? hfirst
  · obtain ⟨rfl, rfl, rfl⟩ : 1 = count ∧ 0x80 = low ∧ 0xBF = high := by
      simpa [continuations?_two hlow hhigh] using hfirst
    obtain ⟨b₁, rest₁, rfl, h₁, h₁', -⟩ := exists_of_continued hfound
    exact ⟨_, [b₁], rest₁, rfl, .two ⟨hlow, hhigh, h₁, h₁'⟩⟩
  · obtain ⟨rfl, rfl, rfl⟩ : 2 = count ∧ _ = low ∧ _ = high := by
      simpa [continuations?_three hlow hhigh] using hfirst
    obtain ⟨b₁, rest₁, rfl, h₁, h₁', hfound₁⟩ := exists_of_continued hfound
    obtain ⟨b₂, rest₂, rfl, h₂, h₂', -⟩ := exists_of_continued hfound₁
    exact ⟨_, [b₁, b₂], rest₂, rfl, .three ⟨hlow, hhigh, h₁, h₁', h₂, h₂'⟩⟩
  · obtain ⟨rfl, rfl, rfl⟩ : 3 = count ∧ _ = low ∧ _ = high := by
      simpa [continuations?_four hlow hhigh] using hfirst
    obtain ⟨b₁, rest₁, rfl, h₁, h₁', hfound₁⟩ := exists_of_continued hfound
    obtain ⟨b₂, rest₂, rfl, h₂, h₂', hfound₂⟩ := exists_of_continued hfound₁
    obtain ⟨b₃, rest₃, rfl, h₃, h₃', -⟩ := exists_of_continued hfound₂
    exact ⟨_, [b₁, b₂, b₃], rest₃, rfl, .four ⟨hlow, hhigh, h₁, h₁', h₂, h₂', h₃, h₃'⟩⟩

-- A character is found only where its bytes stand.
theorem spells_of_firstPiece {b : UInt8} {rest : List UInt8} {c : Char} {length : Nat}
    (h : firstPiece b rest = .scalar c length) :
    ∃ more rest', rest = more ++ rest' ∧ length = more.length + 1 ∧ Spells (b :: more) c := by
  obtain ⟨c', more, rest', hrest, hspells⟩ :
      ∃ c' more rest', rest = more ++ rest' ∧ Spells (b :: more) c' := by
    obtain hone | ⟨count, low, high, hfirst, hfound⟩ := continued_of_firstPiece h
    · exact ⟨_, [], rest, rfl, .one hone⟩
    · exact exists_spells_of_continued hfirst hfound
  rw [hrest, firstPiece_of_spells hspells] at h
  cases h
  exact ⟨more, rest', hrest, rfl, hspells⟩

theorem pieces_of_spells {b : UInt8} {more : List UInt8} {c : Char} (h : Spells (b :: more) c)
    (rest : List UInt8) :
    pieces (b :: more ++ rest) = .scalar c (more.length + 1) :: pieces rest := by
  rw [List.cons_append, pieces, firstPiece_of_spells h]
  simp [Piece.length]

-- The bytes of a text are cut where its characters end.
theorem pieces_encoded (cs : List Char) :
    pieces (cs.flatMap utf8EncodeChar) = cs.map fun c => .scalar c (utf8EncodeChar c).length := by
  induction cs with
  | nil => rw [List.flatMap_nil, pieces, List.map_nil]
  | cons c cs ih =>
      have hspells := spells_utf8EncodeChar c
      cases hbytes : utf8EncodeChar c with
      | nil =>
          rw [hbytes] at hspells
          cases hspells
      | cons b more =>
          rw [hbytes] at hspells
          rw [List.flatMap_cons, hbytes, pieces_of_spells hspells, ih, List.map_cons, hbytes,
            List.length_cons]

end Reading

section Decoding

private theorem charsFrom_scalars (bytes : List UInt8) (position : Nat) (cs : List Char)
    (length : Char → Nat) :
    charsFrom bytes position (cs.map fun c => .scalar c (length c)) = .ok cs := by
  induction cs generalizing position with
  | nil => rfl
  | cons c cs ih =>
      rw [List.map_cons, charsFrom, ih]
      rfl

theorem decode_encode (text : String) : decode (encode text) = .ok text := by
  rw [decode, encode_eq, pieces_encoded, charsFrom_scalars]
  exact congrArg Except.ok (String.ofList_toList)

theorem eq_of_encode_eq {text other : String} (h : encode text = encode other) : text = other := by
  have hdecode := decode_encode text
  rw [h, decode_encode] at hdecode
  exact (Except.ok.inj hdecode).symm

theorem decodeLossy_encode (text : String) : decodeLossy (encode text) = text := by
  rw [decodeLossy, encode_eq, pieces_encoded, List.map_map]
  exact (congrArg String.ofList (List.map_id _)).trans String.ofList_toList

-- The characters that are read are those that the bytes spell one after the other.
private theorem eq_encoded_of_charsFrom {all bytes : List UInt8} {position : Nat} {cs : List Char}
    (h : charsFrom all position (pieces bytes) = .ok cs) : bytes = cs.flatMap utf8EncodeChar := by
  induction hsize : bytes.length using Nat.strongRecOn generalizing bytes position cs with
  | ind size ih =>
  cases bytes with
  | nil =>
      rw [pieces] at h
      cases h
      rfl
  | cons b rest =>
      rw [pieces] at h
      cases hpiece : firstPiece b rest with
      | fault length cause =>
          simp only [hpiece] at h
          cases h
      | scalar c length =>
          obtain ⟨more, rest', rfl, rfl, hspells⟩ := spells_of_firstPiece hpiece
          simp only [hpiece, charsFrom, Piece.length, Nat.add_sub_cancel, List.drop_left] at h
          cases hrest : charsFrom all (position + (more.length + 1)) (pieces rest') with
          | error fault =>
              rw [hrest] at h
              cases h
          | ok cs' =>
              rw [hrest] at h
              cases h
              have hlength : rest'.length < size := by
                simp only [List.length_cons, List.length_append] at hsize
                omega
              rw [List.flatMap_cons, hspells.encode_eq, ← ih _ hlength hrest rfl]
              rfl

theorem decode_eq_ok_iff {bytes : List UInt8} {text : String} :
    decode bytes = .ok text ↔ encode text = bytes := by
  constructor
  · intro h
    cases hcs : charsFrom bytes 0 (pieces bytes) with
    | error fault =>
        rw [decode, hcs] at h
        cases h
    | ok cs =>
        rw [decode, hcs] at h
        cases h
        rw [encode_ofList, ← eq_encoded_of_charsFrom hcs]
  · rintro rfl
    exact decode_encode text

private theorem exists_fault_of_charsFrom {bytes : List UInt8} {position : Nat} {found : List Piece}
    {fault : Fault} (h : charsFrom bytes position found = .error fault) :
    ∃ length cause, Piece.fault length cause ∈ found := by
  induction found generalizing position fault with
  | nil => cases h
  | cons piece rest ih =>
      cases piece with
      | fault length cause => exact ⟨length, cause, List.mem_cons_self⟩
      | scalar c length =>
          rw [charsFrom] at h
          cases hrest : charsFrom bytes (position + length) rest with
          | error later =>
              obtain ⟨length, cause, hm⟩ := ih hrest
              exact ⟨length, cause, List.mem_cons_of_mem _ hm⟩
          | ok cs =>
              rw [hrest] at h
              cases h

-- Bytes that are no text leave a trace in what is made of them.
theorem replacement_mem_decodeLossy {bytes : List UInt8} {fault : Fault}
    (h : decode bytes = .error fault) : '�' ∈ (decodeLossy bytes).toList := by
  cases hcs : charsFrom bytes 0 (pieces bytes) with
  | ok cs =>
      rw [decode, hcs] at h
      cases h
  | error later =>
      obtain ⟨length, cause, hm⟩ := exists_fault_of_charsFrom hcs
      rw [decodeLossy, String.toList_ofList]
      exact List.mem_map.mpr ⟨_, hm, rfl⟩

end Decoding

end ContentForms.Text.Utf8
