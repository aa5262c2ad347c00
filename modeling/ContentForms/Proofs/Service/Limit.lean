import ContentForms.Service.Basic
import Mathlib.Algebra.Group.Nat.Defs
import Mathlib.Data.List.Basic

namespace ContentForms

namespace Text

theorem toNat_of_isDigit {c : Char} (h : c.isDigit = true) : 48 ≤ c.toNat ∧ c.toNat < 58 := by
  simp only [Char.isDigit, ge_iff_le, Bool.and_eq_true, decide_eq_true_eq,
    UInt32.le_iff_toNat_le] at h
  change 48 ≤ c.toNat ∧ c.toNat ≤ 57 at h
  omega

theorem digitValue?_of_isDigit {c : Char} (h : c.isDigit = true) :
    digitValue? c = some (c.toNat - '0'.toNat) := by
  obtain ⟨hlow, hhigh⟩ := toNat_of_isDigit h
  simp [digitValue?, digitZeros, hlow, hhigh]

private theorem isBlank_of_isDigit {c : Char} (h : c.isDigit = true) : isBlank c = false := by
  obtain ⟨hlow, hhigh⟩ := toNat_of_isDigit h
  simp only [isBlank, Bool.or_eq_false_iff, Bool.and_eq_false_iff, decide_eq_false_iff_not,
    beq_eq_false_iff_ne]
  omega

private theorem trim_of_isDigit {cs : List Char} (h : ∀ c ∈ cs, c.isDigit = true) :
    trim cs = cs := by
  have hkept : ∀ ds : List Char, (∀ c ∈ ds, c.isDigit = true) → ds.dropWhile isBlank = ds := by
    intro ds hd
    cases ds with
    | nil => rfl
    | cons c rest => simp [isBlank_of_isDigit (hd c (by simp))]
  rw [trim, trimWith, dropRightWhile, hkept cs h, hkept cs.reverse (by simpa using h),
    List.reverse_reverse]

private theorem magnitude?_of_isDigit {cs : List Char} (h : ∀ c ∈ cs, c.isDigit = true)
    (value : Nat) :
    magnitude? cs value true = some (Nat.ofDigitChars 10 cs value) := by
  induction cs generalizing value with
  | nil => rfl
  | cons c rest ih =>
      rw [List.forall_mem_cons] at h
      rw [magnitude?, digitValue?_of_isDigit h.1]
      dsimp only
      rw [ih h.2, Nat.ofDigitChars_cons, Nat.mul_comm]

private theorem digits?_of_isDigit {cs : List Char} (h : ∀ c ∈ cs, c.isDigit = true) (hne : cs ≠ [])
    (hlen : cs.length ≤ maxDigits) : digits? cs = some (Nat.ofDigitChars 10 cs 0) := by
  have hfilter : cs.filter (· != '_') = cs := by
    rw [List.filter_eq_self]
    intro c hc
    have hdigit := h c hc
    rw [bne_iff_ne]
    rintro rfl
    simp at hdigit
  rw [digits?, hfilter, if_pos hlen]
  cases cs with
  | nil => exact absurd rfl hne
  | cons c rest =>
      -- The first digit has to be read before a number can end.
      rw [List.forall_mem_cons] at h
      rw [magnitude?, digitValue?_of_isDigit h.1]
      dsimp only
      rw [magnitude?_of_isDigit h.2, Nat.ofDigitChars_cons, Nat.mul_comm]

-- A number is read back from the way it is written, unless it is too long to be read.
theorem integer?_toString {n : Nat} (h : n < 10 ^ maxDigits) :
    integer? (toString n) = some (n : Int) := by
  have hdigit : ∀ c ∈ Nat.toDigits 10 n, c.isDigit = true := by
    intro c hc
    exact Nat.isDigit_of_mem_toDigits (by decide) (by decide) hc
  have hlen : (Nat.toDigits 10 n).length ≤ maxDigits :=
    (Nat.length_toDigits_le_iff (by decide) (by decide)).mpr h
  have hdigits := digits?_of_isDigit hdigit Nat.toDigits_ne_nil hlen
  rw [Nat.ofDigitChars_ten_toDigits] at hdigits
  have hlist : (toString n).toList = Nat.toDigits 10 n := Nat.toList_repr
  have hsign : ∀ sign rest, Nat.toDigits 10 n = sign :: rest → sign.isDigit = true := by
    intro sign rest he
    exact hdigit sign (by simp [he])
  rw [integer?, hlist, trim_of_isDigit hdigit]
  split
  · rename_i rest he
    exact absurd (hsign '-' rest he) (by decide)
  · rename_i rest he
    exact absurd (hsign '+' rest he) (by decide)
  · rw [hdigits]
    rfl

end Text

namespace Service

def told? (request : Request) : Option Int := request.toldLength?.bind Text.integer?

-- The answer to a request that is turned away. Nothing of its body has been looked at.
def turnedAway (settings : Settings) (size : Int) (workspace : Workspace) : Handled :=
  { events := [.requestRejected Route.convert.path size settings.maxRequestSize]
    response := Response.text 413 "request too large"
    workspace }

structure AsksToConvert (request : Request) : Prop where
  method_eq : request.method = Route.convert.method
  path_eq : settledPath request = Route.convert.path

section Limit

variable {settings : Settings} {request : Request}

theorem excess?_eq_some (h : AsksToConvert request) {size : Int} :
    excess? settings request = some size ↔
      told? request = some size ∧ settings.maxRequestSize < size := by
  rw [excess?, if_pos h.path_eq, ← told?]
  cases told? request with
  | none => simp
  | some told =>
      by_cases hlimit : told > settings.maxRequestSize
      · simp only [if_pos hlimit, Option.some.injEq]
        constructor
        · rintro rfl
          exact ⟨rfl, hlimit⟩
        · exact And.left
      · simp only [if_neg hlimit, reduceCtorEq, Option.some.injEq, false_iff, not_and]
        rintro rfl
        exact hlimit

private theorem dispatch_of_asksToConvert (h : AsksToConvert request) (workspace : Workspace) :
    dispatch settings request workspace = answerConvert request workspace := by
  have hroute : Route.ofPath? (settledPath request) = some .convert := by
    rw [h.path_eq]
    decide
  unfold dispatch
  rw [hroute]
  simp only [if_pos h.method_eq, answer]

theorem respond_of_asksToConvert (h : AsksToConvert request) (workspace : Workspace) :
    respond settings request workspace =
      match excess? settings request with
      | some size => turnedAway settings size workspace
      | none => answerConvert request workspace := by
  have hne : request.method ≠ "HEAD" := by simp [h.method_eq, Route.method]
  unfold respond withoutBody
  rw [if_neg hne]
  cases excess? settings request with
  | none => exact dispatch_of_asksToConvert h workspace
  | some size => rfl

private theorem answerConvert_status_ne (request : Request) (workspace : Workspace) :
    (answerConvert request workspace).response.status ≠ 413 := by
  unfold answerConvert
  split
  · simp [json]
  · dsimp only
    split <;> simp [json, internalError, Response.text]

theorem status_eq_iff_told (h : AsksToConvert request) (workspace : Workspace) :
    (respond settings request workspace).response.status = 413 ↔
      ∃ size, told? request = some size ∧ settings.maxRequestSize < size := by
  simp only [← excess?_eq_some h]
  rw [respond_of_asksToConvert h]
  cases excess? settings request with
  | none => simp [answerConvert_status_ne]
  | some size => simp [turnedAway, Response.text]

theorem status_eq_iff_of_truthful (h : AsksToConvert request) (workspace : Workspace)
    (ht : told? request = some (request.body.length : Int)) :
    (respond settings request workspace).response.status = 413 ↔
      settings.maxRequestSize < request.body.length := by
  rw [status_eq_iff_told h, ht]
  simp

end Limit

theorem AsksToConvert.sent {request : Request} (h : AsksToConvert request) :
    AsksToConvert request.sent := by
  obtain ⟨hmethod, hpath⟩ := h
  unfold Request.sent
  split <;> exact ⟨hmethod, hpath⟩

-- Clients that are not given a length tell the length that the body has.
theorem told?_sent {request : Request} (h : AsksToConvert request)
    (hnone : request.toldLength? = none) (hlen : request.body.length < 10 ^ Text.maxDigits) :
    told? request.sent = some (request.sent.body.length : Int) := by
  have htells : Request.tellsLength request.method = true := by
    rw [h.method_eq]
    decide
  have hsent : request.sent =
      { request with
        headers := request.headers ++ [("content-length", toString request.body.length)] } := by
    simp [Request.sent, hnone, htells]
  have hfind : request.sent.toldLength? = some (toString request.body.length) := by
    rw [Request.toldLength?, Request.header?, Option.map_eq_none_iff] at hnone
    rw [hsent, Request.toldLength?, Request.header?, List.find?_append, hnone]
    simp
  rw [told?, hfind, hsent]
  exact Text.integer?_toString hlen

-- It is the length that a request tells that decides, not the length that its body has. The two
-- come to the same where a request tells the truth.
theorem turned_away_iff_told_too_large (settings : Settings) {request : Request}
    (h : AsksToConvert request) (workspace : Workspace) :
    ((respond settings request workspace).response.status = 413 ↔
        ∃ size, told? request = some size ∧ settings.maxRequestSize < size) ∧
      (∀ size, told? request = some size → settings.maxRequestSize < size →
        respond settings request workspace = turnedAway settings size workspace) ∧
      (told? request = some (request.body.length : Int) →
        ((respond settings request workspace).response.status = 413 ↔
          settings.maxRequestSize < request.body.length)) ∧
      (request.toldLength? = none → request.body.length < 10 ^ Text.maxDigits →
        ((respond settings request.sent workspace).response.status = 413 ↔
          settings.maxRequestSize < request.body.length)) := by
  refine ⟨status_eq_iff_told h workspace, fun size ht hlimit => ?_,
    status_eq_iff_of_truthful h workspace, fun hnone hlen => ?_⟩
  · rw [respond_of_asksToConvert h, (excess?_eq_some h).mpr ⟨ht, hlimit⟩]
  · have hbody : request.sent.body = request.body := by
      unfold Request.sent
      split <;> rfl
    rw [status_eq_iff_of_truthful h.sent workspace (told?_sent h hnone hlen), hbody]

section Sample

-- A request of fourteen bytes that tells the given length, or none.
def sampleRequest (length : Option String) : Request :=
  ⟨"POST", "/convert",
    (length.map ("content-length", ·)).toList ++ [("content-type", "application/json")],
    Text.Utf8.encode "\x7b\"source\":\"q\"\x7d"⟩

theorem asksToConvert_sampleRequest (length : Option String) :
    AsksToConvert (sampleRequest length) := by
  have hpath : settledPath (sampleRequest length) = settledPath (sampleRequest none) := rfl
  refine ⟨rfl, ?_⟩
  rw [hpath]
  decide +kernel

theorem truthful_request_turned_away :
    told? (sampleRequest (some "14")) = some ((sampleRequest (some "14")).body.length : Int) ∧
      (respond { maxRequestSize := 5 } (sampleRequest (some "14")) (.new [])).response.status =
        413 := by
  have ht : told? (sampleRequest (some "14")) =
      some ((sampleRequest (some "14")).body.length : Int) := by decide +kernel
  have hasks := asksToConvert_sampleRequest (some "14")
  refine ⟨ht, ?_⟩
  rw [(turned_away_iff_told_too_large { maxRequestSize := 5 } hasks (.new [])).2.2.1 ht]
  decide +kernel

-- A body over the limit goes through if less is told, or something that is no length, or nothing.
-- One within the limit does not if more is told.
theorem untrue_length_decides :
    5 < (sampleRequest (some "1")).body.length ∧
      (∀ length ∈ [some "1", some "?", none],
        (respond { maxRequestSize := 5 } (sampleRequest length) (.new [])).response.status = 200) ∧
      (sampleRequest (some "21")).body.length < 20 ∧
      (respond { maxRequestSize := 20 } (sampleRequest (some "21")) (.new [])).response.status =
        413 := by
  decide +kernel

end Sample

end Service

end ContentForms
