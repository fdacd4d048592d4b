import Minghe.Sip.Framing

/-!
# The length that header lines announce

`frame_sip_message` takes a text whole exactly if its header lines announce the length of its body:
every `Content-Length` among them is that length, and there is one unless the body is empty
(`frame_text_iff`). A text that is put together from lines, an empty line and a body has these lines
and that body, as long as none of the lines is empty (`frame_joined_iff`).
-/

namespace Minghe.Sip

open Minghe.Lib

/-- The names of the header that holds the length of the body. -/
def lengthNames : List Str := ["content-length".toList, "l".toList]

/-- The lengths that header lines give, in order; `none` where one is no number. -/
def lengthsOf (ls : List Str) : List (Option Nat) := (ls.filterMap lengthField).map (parseUnsigned 64)

/-- The header lines announce a body of `n` bytes. -/
def Announces (ls : List Str) (n : Nat) : Prop :=
  (∀ x ∈ lengthsOf ls, x = some n) ∧ (lengthsOf ls = [] → n = 0)

/-- The length field of a line, by its name. -/
theorem lengthField_eq (line : Str) : lengthField line = (splitOnce ':' (trim line)).bind fun p =>
    if toAsciiLowercase p.1 ∈ lengthNames then some (trim p.2) else none := by
  rw [lengthField, show contentLengthNames = fieldNames lengthNames from rfl,
    headField_fieldNames (by decide)]
  cases splitOnce ':' (trim line) with
  | none => rfl
  | some p =>
    simp only [Option.bind_some]
    split <;> rfl

theorem lengthField_isSome {line : Str} :
    (lengthField line).isSome ↔ ∃ q ∈ lengthNames, fieldName (trim line) = some q := by
  rw [lengthField_eq, fieldName]
  cases splitOnce ':' (trim line) with
  | none => simp
  | some p =>
    simp only [Option.bind_some, Option.map_some]
    split <;> simp_all

/-- A line with another name gives no length. -/
theorem lengthField_of_name {line q : Str} (h : fieldName (trim line) = some q)
    (hq : q ∉ lengthNames) : lengthField line = none := by
  rw [← Option.not_isSome_iff_eq_none, lengthField_isSome]
  rintro ⟨q', hq', h'⟩
  rw [h] at h'
  cases h'
  exact hq hq'

theorem lengthsOf_nil : lengthsOf [] = [] := rfl

theorem lengthsOf_append (ls ls' : List Str) : lengthsOf (ls ++ ls') = lengthsOf ls ++ lengthsOf ls' := by
  simp [lengthsOf, List.filterMap_append]

theorem mem_lengthsOf {ls : List Str} {x : Option Nat} :
    x ∈ lengthsOf ls ↔ ∃ l ∈ ls, ∃ v, lengthField l = some v ∧ parseUnsigned 64 v = x := by
  simp only [lengthsOf, List.mem_map, List.mem_filterMap]
  constructor
  · rintro ⟨v, ⟨l, hl, hv⟩, hx⟩
    exact ⟨l, hl, v, hv, hx⟩
  · rintro ⟨l, hl, v, hv, hx⟩
    exact ⟨v, ⟨l, hl, hv⟩, hx⟩

theorem lengthsOf_eq_nil {ls : List Str} :
    lengthsOf ls = [] ↔ ∀ l ∈ ls, lengthField l = none := by
  simp [lengthsOf, List.filterMap_eq_nil_iff]

/-- A line end behind the header part changes no length. -/
theorem lengthsOf_append_crlf (h : Str) : lengthsOf (lines (h ++ crlf)) = lengthsOf (lines h) := by
  rcases lines_append_crlf h with he | he
  · rw [he]
  · rw [he, lengthsOf_append]
    simp [lengthsOf, lengthField, show headField contentLengthNames (trim []) = none from by decide]

/-! ## What the framer makes of them -/

theorem lengthsOf_cons (line : Str) (ls : List Str) : lengthsOf (line :: ls) =
    (lengthField line).elim [] (fun v => [parseUnsigned 64 v]) ++ lengthsOf ls := by
  unfold lengthsOf
  cases h : lengthField line with
  | none => simp [h]
  | some v => simp [h]

theorem contentLengthOf_some : ∀ {ls : List Str} {n : Nat} {c : Option Nat},
    contentLengthOf ls (some n) = some c ↔ c = some n ∧ ∀ x ∈ lengthsOf ls, x = some n
  | [], n, c => by simp [contentLengthOf, lengthsOf_nil, eq_comm]
  | line :: ls, n, c => by
    rw [contentLengthOf, lengthsOf_cons]
    cases lengthField line with
    | none => simpa using contentLengthOf_some
    | some v =>
      simp only [Option.elim_some]
      cases parseUnsigned 64 v with
      | none => simp
      | some n' =>
        by_cases hn : n' = n
        · subst hn
          simpa using contentLengthOf_some
        · simp [hn, Ne.symm hn]

/-- **What the header lines announce** is what the framer takes for the length of the body. -/
theorem contentLengthOf_iff : ∀ {ls : List Str} {n : Nat},
    (∃ c, contentLengthOf ls none = some c ∧ c.getD 0 = n) ↔ Announces ls n
  | [], n => by simp [contentLengthOf, Announces, lengthsOf_nil, eq_comm]
  | line :: ls, n => by
    rw [contentLengthOf, Announces, lengthsOf_cons]
    cases lengthField line with
    | none => simpa [Announces] using contentLengthOf_iff
    | some v =>
      simp only [Option.elim_some]
      cases parseUnsigned 64 v with
      | none => simp
      | some n' =>
        simp only [Option.any_none, Bool.false_eq_true, if_false, contentLengthOf_some]
        constructor
        · rintro ⟨c, ⟨rfl, h⟩, rfl⟩
          exact ⟨by simpa using h, by simp⟩
        · rintro ⟨h, -⟩
          have hn : n' = n := by simpa using h (some n') (by simp)
          subst hn
          exact ⟨some n', ⟨rfl, fun x hx => h x (by simp [hx])⟩, rfl⟩

/-- **A text is taken whole iff its header part announces its body.** -/
theorem frame_text_iff {text head body : Str}
    (h : splitAtFirst headerEnd text = some (head, headerEnd ++ body)) (hlen : byteLen text < 2 ^ 64) :
    frameSipMessage (utf8 text) = .ok (.complete (byteLen text)) ↔
      Announces (lines head) (byteLen body) := by
  obtain ⟨htext, -⟩ := splitAtFirst_eq_some h
  have hsplit := splitAtFirst_utf8 (p := headerEnd) (by decide) (by decide) text
  rw [h] at hsplit
  have hsum : byteLen text = byteLen head + 4 + byteLen body := by
    rw [htext, byteLen_append, byteLen_append, show byteLen headerEnd = 4 by decide]
    omega
  rw [frameSipMessage_eq, Except.ok.injEq, ← contentLengthOf_iff, frame, headerEndMarker, hsplit]
  simp only [Option.map_some, announced, fromUtf8_utf8]
  cases contentLengthOf (lines head) none with
  | none => simp
  | some c =>
    simp only [Option.some.injEq, exists_eq_left']
    rw [show (utf8 head).length = byteLen head from rfl, show (utf8 text).length = byteLen text from rfl]
    by_cases hlt : byteLen head + 4 + c.getD 0 < 2 ^ 64
    · rw [if_pos hlt]
      simp only
      split
      · simp only [Frame.complete.injEq]
        omega
      · refine iff_of_false (by simp) ?_
        omega
    · rw [if_neg hlt]
      refine iff_of_false (by simp) ?_
      omega

/-! ## Texts put together from lines -/

/-- Header lines, the empty line and a body. -/
def joined (ls : List Str) (body : Str) : Str := crlf.intercalate ls ++ headerEnd ++ body

theorem joined_eq {ls : List Str} (body : Str) (h : ls ≠ []) :
    joined ls body = ls.flatMap (· ++ crlf) ++ crlf ++ body := by
  rw [joined, ← intercalate_crlf h, show headerEnd = crlf ++ crlf from rfl]
  simp only [List.append_assoc]

theorem lines_joined {ls : List Str} (body : Str) (h : ls ≠ []) (hlf : ∀ l ∈ ls, '\n' ∉ l) :
    lines (joined ls body) = ls ++ [] :: lines body := by
  rw [joined_eq body h, List.append_assoc, lines_flatMap_crlf _ hlf]
  exact congrArg _ (lines_crlf (l := []) body List.not_mem_nil)

theorem splitAtFirst_joined {ls : List Str} (body : Str) (h : ls ≠ []) (hlf : ∀ l ∈ ls, '\n' ∉ l)
    (hne : ∀ l ∈ ls, l ≠ []) :
    splitAtFirst headerEnd (joined ls body) = some (crlf.intercalate ls, headerEnd ++ body) := by
  rw [joined_eq body h]
  exact splitAtFirst_blank body h hlf hne

theorem bodyOf_joined {ls : List Str} (body : Str) (h : ls ≠ []) (hlf : ∀ l ∈ ls, '\n' ∉ l)
    (hne : ∀ l ∈ ls, l ≠ []) : bodyOf (joined ls body) = body := by
  rw [bodyOf, splitAtFirst_joined body h hlf hne]
  rfl

/-- **A text put together from lines is one message** iff the lines announce the body. -/
theorem frame_joined_iff {ls : List Str} {body : Str} (h : ls ≠ []) (hlf : ∀ l ∈ ls, '\n' ∉ l)
    (hne : ∀ l ∈ ls, l ≠ []) (hlen : byteLen (joined ls body) < 2 ^ 64) :
    frameSipMessage (utf8 (joined ls body)) = .ok (.complete (byteLen (joined ls body))) ↔
      Announces ls (byteLen body) := by
  have hls : lengthsOf (lines (crlf.intercalate ls)) = lengthsOf ls := by
    have hl := lines_flatMap_crlf [] hlf
    rw [List.append_nil] at hl
    rw [← lengthsOf_append_crlf, intercalate_crlf h, hl, lines_nil, List.append_nil]
  rw [frame_text_iff (splitAtFirst_joined body h hlf hne) hlen, Announces, Announces, hls]

end Minghe.Sip
