import Minghe.Sip.Length
import Minghe.Sip.Outbound

/-!
# The lines of a forwarded request

What `build_outbound_request_with_from` makes of the lines of a request, as the framer of the next hop reads
them: which lengths they announce, and where they end.

* `strip_lengthField`, `rewriteLine_lengthField`: rewriting a line gives no length that it did not give, and
  takes none away.
* `lengthsOf_outboundLines`: so the lines that are sent on announce what those in front of the first line
  of white space did.
* `outboundLines_lf`, `outboundLines_ne_nil`: none of them is empty or holds a line feed, so that the next
  hop reads just these lines.
-/

namespace Minghe.Sip

open Minghe.Lib

/-! ## The lengths that rewritten lines give -/

/-- What `strip_unsupported_negotiation_header` drops or changes gives no length. -/
theorem strip_lengthField (line : Str) :
    (stripUnsupportedNegotiationHeader (trim line)).toList.filterMap lengthField =
      (lengthField line).toList := by
  rcases strip_cases (trim line) with h | ⟨a, b, hs, hmem, h⟩
  · rw [h, Option.toList_some]
    have ht : lengthField (trim line) = lengthField line := by rw [lengthField, trim_trim, lengthField]
    cases hl : lengthField line <;> simp [ht, hl]
  · have hdisj : ∀ q ∈ sessionTimerNames ++ optionTagNames, q ∉ lengthNames := by decide
    have hold : lengthField line = none := by
      refine lengthField_of_name (q := toAsciiLowercase a) (by rw [fieldName, hs]; rfl) fun hl => ?_
      -- a name that gives a length has no white space to trim
      have hws : ∀ q ∈ lengthNames, ∀ c ∈ q, isWhitespace c = false := by decide
      rw [trim_of_forall_not (isWhitespace_of_lower (hws _ hl))] at hmem
      exact hdisj _ hmem hl
    rcases h with h | ⟨tags, -, h⟩
    · rw [h, hold]
      rfl
    · have hnew := lengthField_of_name
        (fieldName_stripped (' ' :: List.intercalate ", ".toList tags) (splitOnce_eq_some.mp hs).2 hmem)
        (hdisj _ hmem)
      rw [h, hold, Option.toList_some, List.filterMap_cons, hnew]
      rfl

/-- **A header line is rewritten to lines that give the same lengths.** -/
theorem rewriteLine_lengthField (contactUri authenticatedFrom line : Str) :
    (rewriteLine contactUri authenticatedFrom line).filterMap lengthField =
      (lengthField line).toList := by
  have hreplaced : ∀ q ∈ replacedFields, q ∉ lengthNames := by decide
  have hfrom : ∀ q ∈ fromFields, q ∉ lengthNames := by decide
  rcases rewriteLine_cases contactUri authenticatedFrom line with
    ⟨q, hq, hname, h⟩ | ⟨q, hq, hname, h⟩ | ⟨-, h⟩
  · rw [lengthField_of_name hname (hreplaced q hq)]
    have hcontact := lengthField_of_name (fieldName_contactLine contactUri) (by decide)
    rcases h with h | h
    · rw [h]
      rfl
    · rw [h, List.filterMap_cons, hcontact]
      rfl
  · have hold := lengthField_of_name hname (hfrom q hq)
    have hnew := lengthField_of_name (fieldName_rewrittenFrom authenticatedFrom (trim line)) (by decide)
    rw [h, hold]
    split
    · rw [List.filterMap_cons, hold]
      rfl
    · rw [List.filterMap_cons, hnew]
      rfl
  · rw [h]
    exact strip_lengthField line

theorem lengthsOf_flatMap {f : Str → List Str}
    (h : ∀ l, (f l).filterMap lengthField = (lengthField l).toList) :
    ∀ ls : List Str, lengthsOf (ls.flatMap f) = lengthsOf ls
  | [] => rfl
  | l :: ls => by
    have ih := lengthsOf_flatMap h ls
    unfold lengthsOf at ih ⊢
    rw [List.flatMap_cons, List.filterMap_append, List.map_append, ih, h, List.filterMap_cons]
    cases lengthField l <;> rfl

/-! ## The start line -/

/-- Whether a line gives a length depends on its first word. -/
theorem lengthField_word {w a s : Str} (hw : ∀ c ∈ w, isWhitespace c) (hne : a ≠ [])
    (ha : ∀ c ∈ a, isWhitespace c = false) (hs : ∀ c ∈ s.head?, isWhitespace c) :
    lengthField (w ++ (a ++ s)) = (splitOnce ':' a).bind fun p =>
      if toAsciiLowercase p.1 ∈ lengthNames then some (trim (p.2 ++ s)) else none := by
  rw [lengthField_eq, trim_append_left _ hw]
  cases h : splitOnce ':' a with
  | some p =>
    obtain ⟨n, b⟩ := p
    obtain ⟨rfl, hn⟩ := splitOnce_eq_some.mp h
    have hcut : splitOnce ':' (trim (n ++ ':' :: (b ++ s))) = some (n, trimEnd (b ++ s)) := by
      cases n with
      | nil => exact splitOnce_eq_some.mpr ⟨trim_of_not _ (by decide), hn⟩
      | cons c n =>
        exact splitOnce_trim _ (List.cons_ne_nil _ _) (fun d hd => ha d (by cases hd; simp)) hn
    rw [List.append_assoc, List.cons_append, hcut, Option.bind_some, Option.bind_some, trim_trimEnd]
  | none =>
    rw [splitOnce_eq_none] at h
    obtain ⟨c, a', rfl⟩ := List.exists_cons_of_ne_nil hne
    rw [List.cons_append, trim_of_not _ (ha c List.mem_cons_self)]
    cases hcut : splitOnce ':' (c :: trimEnd (a' ++ s)) with
    | none => rfl
    | some p =>
      obtain ⟨n, v⟩ := p
      refine if_neg fun hn => ?_
      -- the name goes on behind the word, so it has white space
      obtain ⟨x, hx⟩ : c :: trimEnd (a' ++ s) <+: c :: (a' ++ s) :=
        List.cons_prefix_cons.mpr ⟨rfl, List.rdropWhile_prefix _ _⟩
      rw [(splitOnce_eq_some.mp hcut).1, List.append_assoc, ← List.cons_append] at hx
      obtain ⟨d, hd, hdn⟩ : ∃ d, isWhitespace d = true ∧ d ∈ n := by
        rcases List.append_eq_append_iff.mp hx with ⟨y, hy, he⟩ | ⟨y, hy, he⟩
        · cases y with
          | nil =>
            rw [List.nil_append] at he
            exact absurd (hs ':' (by rw [← he]; rfl)) (by decide)
          | cons d y =>
            rw [List.cons_append, List.cons_append, List.cons.injEq] at he
            exact absurd (by rw [hy, ← he.1]; simp) h
        · cases y with
          | nil =>
            rw [List.nil_append] at he
            exact absurd (hs ':' (by rw [he]; rfl)) (by decide)
          | cons d y =>
            exact ⟨d, hs d (by rw [he]; rfl), by rw [hy]; simp⟩
      have hws : ∀ q ∈ lengthNames, ∀ c ∈ q, isWhitespace c = false := by decide
      rw [isWhitespace_of_lower (hws _ hn) d hdn] at hd
      cases hd

/-- A start line of three parts that gives a length gives none that is a number. -/
theorem parseUnsigned_start {first method uri version v : Str}
    (h : splitWhitespace first = [method, uri, version]) (hv : lengthField first = some v) :
    parseUnsigned 64 v = none := by
  obtain ⟨w, r1, rfl, hw, hne, hm, hr1, h1⟩ := splitWhitespace_eq_cons h
  rw [List.append_assoc, lengthField_word hw hne hm hr1] at hv
  obtain ⟨⟨n, a⟩, hs, hv⟩ := Option.bind_eq_some_iff.mp hv
  split at hv
  · cases hv
    by_contra hk
    obtain ⟨k, hk⟩ := Option.ne_none_iff_exists'.mp hk
    -- a number is one word, and here are two or more
    have hone := length_splitWhitespace_le (isWhitespace_of_parseUnsigned hk)
    rw [splitWhitespace_trim] at hone
    cases a with
    | nil => simp [h1] at hone
    | cons d a =>
      have hda : ∀ e ∈ d :: a, isWhitespace e = false := fun e he =>
        hm e (by rw [(splitOnce_eq_some.mp hs).1]; simp [he])
      rw [splitWhitespace_word (List.cons_ne_nil _ _) hda hr1, h1] at hone
      simp at hone
  · cases hv

/-- The start line that is sent on gives a length only if the request's does. -/
theorem lengthField_start {first method uri version : Str} (targetUri : Str)
    (h : splitWhitespace first = [method, uri, version]) (hno : lengthField first = none) :
    lengthField (method ++ [' '] ++ targetUri ++ [' '] ++ version) = none := by
  obtain ⟨w, r1, rfl, hw, hne, hm, hr1, -⟩ := splitWhitespace_eq_cons h
  rw [List.append_assoc, lengthField_word hw hne hm hr1] at hno
  have hword := lengthField_word (w := []) (s := [' '] ++ targetUri ++ [' '] ++ version) (by simp) hne hm
    (by rintro c ⟨rfl⟩; decide)
  rw [List.nil_append] at hword
  simp only [List.append_assoc] at hword ⊢
  rw [hword]
  cases hs : splitOnce ':' method with
  | none => rfl
  | some p =>
    rw [hs, Option.bind_some] at hno
    rw [Option.bind_some]
    split at hno
    · cases hno
    · rename_i hmem
      exact if_neg hmem

/-! ## The lines that are sent on -/

/-- No line end in a line that comes of a line. -/
theorem rewriteLine_lf {contactUri authenticatedFrom line x : Str} (hc : '\n' ∉ contactUri)
    (hf : '\n' ∉ authenticatedFrom) (hl : '\n' ∉ line)
    (hx : x ∈ rewriteLine contactUri authenticatedFrom line) : '\n' ∉ x := by
  have ht : '\n' ∉ trim line := fun h => hl (mem_of_mem_trim h)
  rcases rewriteLine_cases contactUri authenticatedFrom line with
    ⟨q, hq, hname, h | h⟩ | ⟨q, hq, hname, h⟩ | ⟨-, h⟩
  · rw [h] at hx
    cases hx
  · rw [h, List.mem_singleton] at hx
    subst hx
    rw [contactLine_eq]
    simp [hc]
  · rw [h] at hx
    split at hx
    · rw [List.mem_singleton] at hx
      rwa [hx]
    · rw [List.mem_singleton] at hx
      obtain ⟨tag, htag, he⟩ := rewrittenFrom_eq authenticatedFrom (trim line)
      have htag' : '\n' ∉ tag := fun hm => (htag _ hm).elim (by decide) ht
      rw [hx, he]
      simp [hf, htag']
  · rw [h, Option.mem_toList] at hx
    rcases strip_cases (trim line) with h | ⟨a, b, hs, -, h | ⟨tags, htags, h⟩⟩
    · rw [h] at hx
      cases hx
      exact ht
    · rw [h] at hx
      cases hx
    · rw [h] at hx
      cases hx
      obtain ⟨hab, -⟩ := splitOnce_eq_some.mp hs
      rw [hab] at ht
      have ha : '\n' ∉ trim a := fun hm => ht (by simp [mem_of_mem_trim hm])
      have htags' : '\n' ∉ List.intercalate ", ".toList tags := fun hm => by
        rcases mem_intercalate hm with hm | ⟨tag, htag, hm⟩
        · revert hm
          decide
        · exact ht (by simp [htags tag htag _ hm])
      simp only [List.mem_append, List.mem_cons, not_or]
      exact ⟨ha, by decide, by decide, htags'⟩

/-- A line that is not only white space becomes no empty one. -/
theorem rewriteLine_ne_nil {contactUri authenticatedFrom line x : Str} (hl : trim line ≠ [])
    (hx : x ∈ rewriteLine contactUri authenticatedFrom line) : x ≠ [] := by
  rcases rewriteLine_cases contactUri authenticatedFrom line with
    ⟨q, hq, hname, h | h⟩ | ⟨q, hq, hname, h⟩ | ⟨-, h⟩
  · rw [h] at hx
    cases hx
  · rw [h, List.mem_singleton] at hx
    rw [hx, contactLine_eq]
    simp
  · rw [h] at hx
    split at hx
    · rw [List.mem_singleton] at hx
      subst hx
      rintro rfl
      exact hl rfl
    · rw [List.mem_singleton] at hx
      obtain ⟨tag, -, he⟩ := rewrittenFrom_eq authenticatedFrom (trim line)
      rw [hx, he]
      simp
  · rw [h, Option.mem_toList] at hx
    rcases strip_cases (trim line) with h | ⟨a, b, hs, -, h | ⟨tags, htags, h⟩⟩
    · rw [h] at hx
      cases hx
      exact hl
    · rw [h] at hx
      cases hx
    · rw [h] at hx
      cases hx
      simp

/-- The parts of a start line are on one line. -/
theorem lf_not_mem_startLine {request method version : Str} (h : startLine request = some (method, version)) :
    '\n' ∉ method ∧ '\n' ∉ version := by
  have hfirst : '\n' ∉ (lines request).headD [] := by
    cases hl : lines request with
    | nil => exact List.not_mem_nil
    | cons first rest => exact not_mem_of_mem_lines (by rw [hl]; exact List.mem_cons_self)
  have hword : ∀ w ∈ splitWhitespace ((lines request).headD []), '\n' ∉ w := fun w hw hn =>
    hfirst (mem_of_mem_splitWhitespace hw hn)
  unfold startLine at h
  split at h
  · rename_i hwords
    rw [hwords] at hword
    split at h
    · cases h
    · cases h
      exact ⟨hword _ (by simp), hword _ (by simp)⟩
  · cases h

section Outbound

variable {method version targetUri domain contactUri authenticatedFrom : Str} {rest : List Str}
  (transport : Transport) (branch : Vector UInt8 8)

theorem mem_headerLines {ls : List Str} {l : Str} (h : l ∈ headerLines ls) : l ∈ ls ∧ trim l ≠ [] :=
  ⟨List.takeWhile_subset _ h, by simpa using List.mem_takeWhile_imp h⟩

theorem outboundLines_lf (hmethod : '\n' ∉ method) (hversion : '\n' ∉ version)
    (hrest : ∀ l ∈ rest, '\n' ∉ l) (ht : '\n' ∉ targetUri) (hd : '\n' ∉ domain)
    (hc : '\n' ∉ contactUri) (hf : '\n' ∉ authenticatedFrom) :
    ∀ l ∈ outboundLines method version rest targetUri domain contactUri authenticatedFrom transport
      branch, '\n' ∉ l := by
  intro l hl
  unfold outboundLines at hl
  rw [List.mem_append, List.mem_append] at hl
  rcases hl with (hl | hl) | hl
  · rw [List.mem_cons, List.mem_singleton] at hl
    rcases hl with rfl | rfl
    · simp [hmethod, ht, hversion]
    · have htoken : '\n' ∉ transport.viaToken := by cases transport <;> decide
      have hbranch := lf_not_mem_generateBranch branch
      rw [viaLine_eq]
      simp [htoken, hd, hbranch]
  · obtain ⟨l', hl', hx⟩ := List.mem_flatMap.mp hl
    exact rewriteLine_lf hc hf (hrest l' (mem_headerLines hl').1) hx
  · split at hl
    · cases hl
    · rw [List.mem_singleton] at hl
      rw [hl, contactLine_eq]
      simp [hc]

theorem outboundLines_ne_nil : ∀ l ∈ outboundLines method version rest targetUri domain contactUri
    authenticatedFrom transport branch, l ≠ [] := by
  intro l hl
  unfold outboundLines at hl
  rw [List.mem_append, List.mem_append] at hl
  rcases hl with (hl | hl) | hl
  · rw [List.mem_cons, List.mem_singleton] at hl
    rcases hl with rfl | rfl
    · simp
    · rw [viaLine_eq]
      simp
  · obtain ⟨l', hl', hx⟩ := List.mem_flatMap.mp hl
    exact rewriteLine_ne_nil (mem_headerLines hl').2 hx
  · split at hl
    · cases hl
    · rw [List.mem_singleton] at hl
      rw [hl, contactLine_eq]
      simp

theorem outboundLines_ne : outboundLines method version rest targetUri domain contactUri
    authenticatedFrom transport branch ≠ [] := List.cons_ne_nil _ _

/-- **The lines that are sent on announce** what the header lines in front of the first line of white
space did. -/
theorem lengthsOf_outboundLines (hstart :
    lengthField (method ++ [' '] ++ targetUri ++ [' '] ++ version) = none) :
    lengthsOf (outboundLines method version rest targetUri domain contactUri authenticatedFrom transport
      branch) = lengthsOf (headerLines rest) := by
  have hvia := lengthField_of_name (fieldName_viaLine transport domain branch) (by decide)
  have hcontact := lengthField_of_name (fieldName_contactLine contactUri) (by decide)
  have hend : ∀ b : Bool, lengthsOf (if b = true then [] else [contactLine contactUri]) = [] := by
    intro b
    cases b
    · rw [if_neg Bool.false_ne_true, lengthsOf_cons, hcontact]
      rfl
    · rfl
  rw [outboundLines, lengthsOf_append, lengthsOf_append, hend, List.append_nil, lengthsOf_cons,
    lengthsOf_cons, hstart, hvia, lengthsOf_flatMap (rewriteLine_lengthField _ _)]
  rfl

end Outbound

end Minghe.Sip
