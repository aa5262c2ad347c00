import Mathlib.Data.List.Infix

namespace ContentForms.Text

section Marks

variable {mark : Char} {front other rest more : List Char}

-- A text is cut in one way only at its first mark.
theorem cut_inj (hf : mark ∉ front) (ho : mark ∉ other)
    (h : front ++ mark :: rest = other ++ mark :: more) : front = other ∧ rest = more := by
  induction front generalizing other with
  | nil =>
      cases other with
      | nil => exact ⟨rfl, by simpa using h⟩
      | cons c other =>
          simp only [List.nil_append, List.cons_append, List.cons.injEq] at h
          exact absurd (h.1 ▸ List.mem_cons_self) ho
  | cons c front ih =>
      cases other with
      | nil =>
          simp only [List.nil_append, List.cons_append, List.cons.injEq] at h
          exact absurd (h.1 ▸ List.mem_cons_self) hf
      | cons d other =>
          simp only [List.cons_append, List.cons.injEq] at h
          obtain ⟨rfl, h⟩ := h
          obtain ⟨rfl, hr⟩ := ih (List.not_mem_of_not_mem_cons hf)
            (List.not_mem_of_not_mem_cons ho) h
          exact ⟨rfl, hr⟩

theorem cut_prefix_iff (hf : mark ∉ front) (ho : mark ∉ other) :
    front ++ mark :: rest <+: other ++ mark :: more ↔ front = other ∧ rest <+: more := by
  constructor
  · rintro ⟨tail, ht⟩
    rw [List.append_assoc, List.cons_append] at ht
    obtain ⟨rfl, rfl⟩ := cut_inj hf ho ht
    exact ⟨rfl, List.prefix_append rest tail⟩
  · rintro ⟨rfl, tail, rfl⟩
    exact ⟨tail, by simp⟩

end Marks

def occurrences (pattern text : List Char) : Nat :=
  text.tails.countP fun rest => pattern.isPrefixOf rest

theorem occurrences_cons (pattern : List Char) (c : Char) (text : List Char) :
    occurrences pattern (c :: text) =
      (if pattern <+: c :: text then 1 else 0) + occurrences pattern text := by
  rw [occurrences, List.tails_cons, List.countP_cons, Nat.add_comm]
  simp only [List.isPrefixOf_iff_prefix]
  rfl

private theorem occurrences_of_notMem {pattern text : List Char} {mark : Char} (hp : mark ∈ pattern)
    (ht : mark ∉ text) : occurrences pattern text = 0 := by
  refine List.countP_eq_zero.mpr fun rest hr hprefix => ht ?_
  have hsuffix : rest <:+ text := (List.mem_tails _ _).mp hr
  exact hsuffix.subset ((List.isPrefixOf_iff_prefix.mp hprefix).subset hp)

-- A pattern that holds the mark once, between two parts without it.
structure Pattern (mark : Char) where
  before : List Char
  after : List Char
  before_free : mark ∉ before
  after_free : mark ∉ after

namespace Pattern

variable {mark : Char} (p : Pattern mark)

def text : List Char := p.before ++ mark :: p.after

variable {p}

-- Up to the first mark there is room for one occurrence, and it lies around that mark.
theorem occurrences_cut {front : List Char} (hf : mark ∉ front) (rest : List Char) :
    occurrences p.text (front ++ mark :: rest) =
      (if p.before <:+ front ∧ p.after <+: rest then 1 else 0) + occurrences p.text rest := by
  induction front with
  | nil =>
      have hhead : p.text <+: mark :: rest ↔ p.before = [] ∧ p.after <+: rest :=
        cut_prefix_iff p.before_free hf
      rw [List.nil_append, occurrences_cons]
      simp only [hhead, List.suffix_nil]
  | cons c front ih =>
      have hhead : p.text <+: c :: (front ++ mark :: rest) ↔
          p.before = c :: front ∧ p.after <+: rest := cut_prefix_iff p.before_free hf
      have hlonger : ¬ (c :: front) <:+ front := by
        intro h
        have hlength := h.length_le
        rw [List.length_cons] at hlength
        omega
      rw [List.cons_append, occurrences_cons, ih (List.not_mem_of_not_mem_cons hf)]
      by_cases hb : p.before = c :: front
      · simp only [hhead, List.suffix_cons_iff, hb, true_or, true_and, hlonger, false_and,
          if_false, Nat.zero_add]
      · simp only [hhead, List.suffix_cons_iff, hb, false_or, false_and, if_false, Nat.zero_add]

-- The piece brings so many occurrences behind any text without a mark. What can still take part in
-- a later occurrence is again without a mark, so that pieces can follow each other.
def Counts (p : Pattern mark) (piece : List Char) (n : Nat) : Prop :=
  ∀ front, mark ∉ front → ∃ back, mark ∉ back ∧
    ∀ rest, occurrences p.text (front ++ piece ++ rest) = n + occurrences p.text (back ++ rest)

theorem Counts.occurrences_eq {piece : List Char} {n : Nat} (h : p.Counts piece n) :
    occurrences p.text piece = n := by
  obtain ⟨back, hb, hc⟩ := h [] List.not_mem_nil
  have hmark : mark ∈ p.text := by simp [text]
  have htotal := hc []
  simpa [occurrences_of_notMem hmark hb] using htotal

theorem counts_of_notMem {piece : List Char} (h : mark ∉ piece) : p.Counts piece 0 := by
  intro front hf
  exact ⟨front ++ piece, by simp [hf, h], fun rest => by simp⟩

theorem Counts.append {piece next : List Char} {n m : Nat} (h : p.Counts piece n)
    (hn : p.Counts next m) : p.Counts (piece ++ next) (n + m) := by
  intro front hf
  obtain ⟨middle, hm, hpiece⟩ := h front hf
  obtain ⟨back, hb, hnext⟩ := hn middle hm
  refine ⟨back, hb, fun rest => ?_⟩
  calc occurrences p.text (front ++ (piece ++ next) ++ rest)
      = occurrences p.text (front ++ piece ++ (next ++ rest)) := by simp
    _ = n + occurrences p.text (middle ++ next ++ rest) := by rw [hpiece]; simp
    _ = n + m + occurrences p.text (back ++ rest) := by rw [hnext, Nat.add_assoc]

theorem counts_flatMap {piece : α → List Char} {n : α → Nat} {items : List α}
    (h : ∀ item ∈ items, p.Counts (piece item) (n item)) :
    p.Counts (items.flatMap piece) (items.foldr (fun item total => n item + total) 0) := by
  induction items with
  | nil => exact counts_of_notMem List.not_mem_nil
  | cons item items ih =>
      rw [List.forall_mem_cons] at h
      exact h.1.append (ih h.2)

theorem counts_text : p.Counts p.text 1 := by
  intro front hf
  refine ⟨p.after, p.after_free, fun rest => ?_⟩
  have hcut : front ++ p.text ++ rest = (front ++ p.before) ++ mark :: (p.after ++ rest) := by
    simp [text]
  rw [hcut, occurrences_cut (by simp [hf, p.before_free])]
  simp

-- What follows a mark is not what follows it in the pattern, whatever comes next.
def Misses (p : Pattern mark) (piece : List Char) : Prop :=
  mark ∉ piece ∧ ¬ p.after <+: piece ∧ ¬ piece <+: p.after

instance (p : Pattern mark) (piece : List Char) : Decidable (p.Misses piece) :=
  inferInstanceAs (Decidable (_ ∧ _))

theorem Misses.counts {piece : List Char} (h : p.Misses piece) : p.Counts (mark :: piece) 0 := by
  obtain ⟨hfree, hshort, hlong⟩ := h
  intro front hf
  refine ⟨piece, hfree, fun rest => ?_⟩
  have hmiss : ¬ p.after <+: piece ++ rest := by
    intro h
    rcases Nat.le_total p.after.length piece.length with hl | hl
    · exact hshort (List.prefix_of_prefix_length_le h (List.prefix_append piece rest) hl)
    · exact hlong (List.prefix_of_prefix_length_le (List.prefix_append piece rest) h hl)
  rw [List.append_assoc, List.cons_append, occurrences_cut hf]
  simp [hmiss]

end Pattern

end ContentForms.Text
