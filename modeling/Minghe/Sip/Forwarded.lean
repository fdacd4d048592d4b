import Minghe.Sip.OneMessage

/-!
# Forwarded requests stay one message

A request that the framer takes whole (`Request`), sent on by `build_outbound_request_with_from` with
its own body, or by `rebuild_request_with_sdp` and `build_outbound_request` with another one, as the
framer of the next hop takes it.

The framer reads the header lines up to the first empty line, `build_outbound_request_with_from` up to
the first line that is only white space; and `rebuild_request_with_sdp` overwrites a `Content-Length`
only where no white space stands in front of it. So a line of white space, or white space in front of
a `Content-Length`, can make the next hop take a part of the body for another request.

Results:
* `forwarded_body_iff`, `forwarded_sdp_iff`: what the lines that are sent on announce.
* `forwarded_iff`: **when a forwarded request is one message with the right body**.
-/

namespace Minghe.Sip

open Minghe.Lib

/-! ## The request -/

/-- What it means that the framer takes a request whole. -/
theorem accepted {m : Str} (h : frameSipMessage (utf8 m) = .ok (.complete (byteLen m))) :
    splitAtFirst headerEnd m = some (headOf m, headerEnd ++ bodyOf m) ∧
      Announces (lines (headOf m)) (byteLen (bodyOf m)) := by
  have hsplit := splitAtFirst_utf8 (p := headerEnd) (by decide) (by decide) m
  have hframe := h
  rw [frameSipMessage_eq, Except.ok.injEq, frame, headerEndMarker, hsplit] at hframe
  cases hm : splitAtFirst headerEnd m with
  | none => rw [hm] at hframe; cases hframe
  | some p =>
    obtain ⟨head, rest⟩ := p
    obtain ⟨-, body, hrest⟩ := splitAtFirst_eq_some hm
    have hhead : headOf m = head := by rw [headOf, hm]; rfl
    have hbody : bodyOf m = body := by rw [bodyOf, hm, ← hrest]; rfl
    rw [hhead, hbody, ← hrest]
    refine ⟨rfl, ?_⟩
    rw [← hrest] at hm
    -- the length is below `2 ^ 64`, as the framer adds it up
    have hlen : byteLen m < 2 ^ 64 := by
      rw [hm] at hframe
      simp only [Option.map_some, announced, fromUtf8_utf8] at hframe
      split at hframe
      · cases hframe
      · rename_i n hn
        split at hn
        · cases hn
        · split at hn
          · split at hframe
            · rename_i hlt _
              cases hn
              have := Frame.complete.inj hframe
              omega
            · cases hframe
          · cases hn
    exact (frame_text_iff hm hlen).mp h

theorem headerLines_append (ls ls' : List Str) : headerLines (ls ++ [] :: ls') = headerLines ls := by
  induction ls with
  | nil => rfl
  | cons l ls ih =>
    unfold headerLines at ih ⊢
    rw [List.cons_append, List.takeWhile_cons, List.takeWhile_cons, ih]

/-- The lines of a request, and those of its header part. -/
theorem lines_of_split {m head body : Str} (h : splitAtFirst headerEnd m = some (head, headerEnd ++ body)) :
    ∃ more, lines m = lines head ++ [] :: more := by
  obtain ⟨rfl, -⟩ := splitAtFirst_eq_some h
  have hlines : lines (head ++ (headerEnd ++ body)) = lines (head ++ crlf) ++ [] :: lines body := by
    have h1 := lines_append (head ++ ['\r']) ('\r' :: '\n' :: body)
    rw [show lines ('\r' :: '\n' :: body) = [] :: lines body from lines_crlf (l := []) body (by simp)] at h1
    rw [show head ++ (headerEnd ++ body) = (head ++ ['\r']) ++ '\n' :: '\r' :: '\n' :: body by
      simp [headerEnd], h1, show (head ++ ['\r']) ++ ['\n'] = head ++ crlf by simp [crlf_eq]]
  rcases lines_append_crlf head with he | he
  · exact ⟨lines body, by rw [hlines, he]⟩
  · exact ⟨[] :: lines body, by rw [hlines, he]; simp⟩

/-- A request that the framer takes whole and whose start line has three parts: its lines, and what
they announce. -/
structure Request (m first : Str) (rest headers : List Str) : Prop where
  lines_eq : lines m = first :: rest
  head_eq : lines (headOf m) = first :: headers
  header : headerLines rest = headerLines headers
  nonblank : trim first ≠ []
  length_none : lengthField first = none
  announces : ∀ l ∈ headers, ∀ v, lengthField l = some v →
    parseUnsigned 64 v = some (byteLen (bodyOf m))
  empty : (∀ l ∈ headers, lengthField l = none) → bodyOf m = []

theorem request_of_accepted {m method version : Str}
    (h : frameSipMessage (utf8 m) = .ok (.complete (byteLen m)))
    (hs : startLine m = some (method, version)) :
    ∃ first uri rest headers, Request m first rest headers ∧
      splitWhitespace first = [method, uri, version] := by
  obtain ⟨hsplit, hall, hempty⟩ := accepted h
  obtain ⟨more, hmore⟩ := lines_of_split hsplit
  obtain ⟨uri, hwords⟩ : ∃ uri, splitWhitespace ((lines m).headD []) = [method, uri, version] := by
    unfold startLine at hs
    split at hs
    · rename_i a uri c hw
      split at hs
      · cases hs
      · cases hs
        exact ⟨uri, hw⟩
    · cases hs
  have hblank : trim ((lines m).headD []) ≠ [] := by
    intro hb
    rw [splitWhitespace_eq_nil.mpr (trim_eq_nil.mp hb)] at hwords
    cases hwords
  cases hl : lines (headOf m) with
  | nil =>
    rw [hmore, hl] at hblank
    exact absurd rfl hblank
  | cons first headers =>
    have hlm : lines m = first :: (headers ++ [] :: more) := by rw [hmore, hl]; rfl
    rw [hlm, List.headD_cons] at hwords hblank
    have hfield : ∀ l ∈ first :: headers, ∀ v, lengthField l = some v →
        parseUnsigned 64 v = some (byteLen (bodyOf m)) := fun l hmem v hv =>
      hall _ (mem_lengthsOf.mpr ⟨l, by rw [hl]; exact hmem, v, hv, rfl⟩)
    have hfirst : lengthField first = none := by
      cases hv : lengthField first with
      | none => rfl
      | some v =>
        have h1 := hfield first List.mem_cons_self v hv
        rw [parseUnsigned_start hwords hv] at h1
        cases h1
    refine ⟨first, uri, _, headers, ⟨hlm, hl, headerLines_append _ _, hblank, hfirst,
      fun l hmem => hfield l (List.mem_cons_of_mem _ hmem), fun hn => ?_⟩, hwords⟩
    refine byteLen_eq_zero.mp (hempty (lengthsOf_eq_nil.mpr fun l hmem => ?_))
    rw [hl] at hmem
    rcases List.mem_cons.mp hmem with rfl | hmem
    · exact hfirst
    · exact hn l hmem

/-- The text is one message for the framer, and its body is `body`. -/
def OneMessage (text body : Str) : Prop :=
  frameSipMessage (utf8 text) = .ok (.complete (byteLen text)) ∧
    (extractBody text).map (·.getD []) = .ok body

instance (text body : Str) : Decidable (OneMessage text body) := by
  unfold OneMessage
  infer_instance

theorem extractBody_getD (msg : Str) : (extractBody msg).map (·.getD []) = .ok (bodyOf msg) := by
  rw [extractBody_eq]
  cases bodyOf msg <;> rfl

theorem oneMessage_joined {ls : List Str} {body body' : Str} (h : ls ≠ []) (hlf : ∀ l ∈ ls, '\n' ∉ l)
    (hne : ∀ l ∈ ls, l ≠ []) (hlen : byteLen (joined ls body) < 2 ^ 64) :
    OneMessage (joined ls body) body' ↔ Announces ls (byteLen body) ∧ body = body' := by
  rw [OneMessage, frame_joined_iff h hlf hne hlen, extractBody_getD, bodyOf_joined body h hlf hne,
    Except.ok.injEq]

/-! ## Requests that keep their body -/

/-- A `Content-Length` stands in front of the first line of white space. -/
def LengthInFront (m : Str) : Prop := ∃ l ∈ headerLines (lines m).tail, (lengthField l).isSome

instance (m : Str) : Decidable (LengthInFront m) := by
  unfold LengthInFront
  infer_instance

section

variable {method version targetUri domain contactUri authenticatedFrom : Str}
  (transport : Transport) (branch : Vector UInt8 8)

/-- The text that is sent on, for a request with these lines in front of its body. -/
theorem outbound_oneMessage {rest : List Str} {body body' : Str}
    (hm : '\n' ∉ method) (hv : '\n' ∉ version) (hrest : ∀ l ∈ rest, '\n' ∉ l) (ht : '\n' ∉ targetUri)
    (hd : '\n' ∉ domain) (hc : '\n' ∉ contactUri) (hf : '\n' ∉ authenticatedFrom)
    (hstart : lengthField (method ++ [' '] ++ targetUri ++ [' '] ++ version) = none)
    (hlen : byteLen (joined (outboundLines method version rest targetUri domain contactUri
      authenticatedFrom transport branch) body) < 2 ^ 64) :
    OneMessage (joined (outboundLines method version rest targetUri domain contactUri
        authenticatedFrom transport branch) body) body' ↔
      Announces (headerLines rest) (byteLen body) ∧ body = body' := by
  rw [oneMessage_joined (outboundLines_ne transport branch)
    (outboundLines_lf transport branch hm hv hrest ht hd hc hf)
    (outboundLines_ne_nil transport branch) hlen, Announces, Announces,
    lengthsOf_outboundLines transport branch hstart]

end

/-- **When a forwarded request with its own body is one message**: it has no body, or a
`Content-Length` in front of the first line of white space. -/
theorem forwarded_body_iff {m first : Str} {rest headers : List Str} (h : Request m first rest headers) :
    Announces (headerLines rest) (byteLen (bodyOf m)) ↔ bodyOf m = [] ∨ LengthInFront m := by
  have hsub : ∀ l ∈ headerLines rest, l ∈ headers := fun l hl => by
    rw [h.header] at hl
    exact (mem_headerLines hl).1
  rw [LengthInFront, h.lines_eq, List.tail_cons]
  constructor
  · rintro ⟨-, hnil⟩
    by_cases hex : ∃ l ∈ headerLines rest, (lengthField l).isSome
    · exact .inr hex
    · refine .inl (byteLen_eq_zero.mp (hnil (lengthsOf_eq_nil.mpr fun l hl => ?_)))
      rw [← Option.not_isSome_iff_eq_none]
      exact fun hs => hex ⟨l, hl, hs⟩
  · intro hb
    refine ⟨fun x hx => ?_, fun hnil => ?_⟩
    · obtain ⟨l, hl, v, hv, rfl⟩ := mem_lengthsOf.mp hx
      exact h.announces l (hsub l hl) v hv
    · rw [byteLen_eq_zero]
      rcases hb with hb | ⟨l, hl, hs⟩
      · exact hb
      · rw [lengthsOf_eq_nil.mp hnil l hl] at hs
        cases hs

/-! ## Requests that get a new body -/

/-- A line that `rebuild_request_with_sdp` takes for a `Content-Length` is one for the framer. -/
theorem lengthField_of_hasName_raw {line : Str} (h : hasName contentLengthNames line = true) :
    (lengthField line).isSome := by
  obtain ⟨q, hq, hname⟩ := (hasName_iff lengthNames rfl (by decide) (by decide) line).mp h
  rw [lengthField_isSome]
  refine ⟨q, hq, ?_⟩
  obtain ⟨⟨a, b⟩, hs, rfl⟩ := Option.map_eq_some_iff.mp hname
  obtain ⟨rfl, ha⟩ := splitOnce_eq_some.mp hs
  have hws : ∀ q ∈ lengthNames, ∀ c ∈ q, isWhitespace c = false := by decide
  have hne : a ≠ [] := by
    rintro rfl
    exact absurd (show toAsciiLowercase [] ∈ lengthNames from hq) (by decide)
  rw [fieldName, splitOnce_trim b hne
    (fun c hc => isWhitespace_of_lower (hws _ hq) c (List.mem_of_mem_head? hc)) ha]
  rfl

theorem contentLengthLine_eq (n : Nat) :
    contentLengthLine n = "Content-Length".toList ++ ':' :: ' ' :: showNat n := by
  have hstart : "Content-Length: ".toList = "Content-Length".toList ++ [':', ' '] := by decide
  show "Content-Length: ".toList ++ showNat n = _
  rw [hstart, List.append_assoc]
  rfl

theorem showNat_digit {n : Nat} : ∀ c ∈ showNat n, c.isDigit = true := fun _ hc =>
  Nat.isDigit_of_mem_toDigits (by decide) (by decide) hc

theorem lengthField_contentLengthLine {n : Nat} (h : n < 2 ^ 64) :
    lengthField (contentLengthLine n) = some (showNat n) := by
  have hws := isWhitespace_of_parseUnsigned (parseUnsigned_showNat h)
  have htrim : trim (trimEnd (' ' :: showNat n)) = showNat n := by
    rw [trim_trimEnd, ← List.singleton_append, trim_append_left _ (by decide), trim_of_forall_not hws]
  rw [lengthField_eq, contentLengthLine_eq, splitOnce_trim (n := "Content-Length".toList) _ (by decide)
    (by decide) (by decide), Option.bind_some, htrim]
  exact if_pos (show toAsciiLowercase "Content-Length".toList ∈ lengthNames by decide)

theorem contentLengthLine_lf (n : Nat) : '\n' ∉ contentLengthLine n := by
  have h : '\n' ∉ showNat n := fun hc => absurd (showNat_digit _ hc) (by decide)
  rw [contentLengthLine_eq]
  simp [h]

theorem trim_contentLengthLine_ne (n : Nat) : trim (contentLengthLine n) ≠ [] := by
  rw [contentLengthLine_eq, Ne, trim_eq_nil]
  intro h
  exact absurd (h ':' (by simp)) (by decide)

/-- The length that a line gives after `rebuild_request_with_sdp`. -/
theorem lengthField_rebuiltLine {n : Nat} (h : n < 2 ^ 64) (line : Str) :
    lengthField (rebuiltLine n line) =
      if hasName contentLengthNames line then some (showNat n) else lengthField line := by
  unfold rebuiltLine
  split
  · exact lengthField_contentLengthLine h
  · rfl

theorem trim_rebuiltLine_eq_nil {n : Nat} {line : Str} : trim (rebuiltLine n line) = [] ↔ trim line = [] := by
  unfold rebuiltLine
  split
  · rename_i hname
    refine iff_of_false (trim_contentLengthLine_ne n) fun hnil => ?_
    have h := lengthField_of_hasName_raw hname
    rw [lengthField_eq, hnil] at h
    cases h
  · rfl

/-- The long name is one of the two. -/
theorem hasName_of_long {line : Str} (h : hasName ["content-length:".toList] line = true) :
    hasName contentLengthNames line = true := by
  have hlong : ∀ q ∈ ["content-length".toList], q ∈ lengthNames := by decide
  obtain ⟨q, hq, hname⟩ :=
    (hasName_iff ["content-length".toList] rfl (by decide) (by decide) line).mp h
  exact (hasName_iff lengthNames rfl (by decide) (by decide) line).mpr ⟨q, hlong q hq, hname⟩

/-- A line that `rebuild_request_with_sdp` may add: it is written as its own check expects it. -/
def Added (n : Nat) (x : Str) : Prop :=
  '\n' ∉ x ∧ trim x ≠ [] ∧ ∀ v, lengthField x = some v → v = showNat n

theorem added_contentTypeLine (n : Nat) : Added n contentTypeLine := by
  have hlength : lengthField contentTypeLine = none := by decide
  refine ⟨by decide, by decide, fun v hv => ?_⟩
  rw [hlength] at hv
  cases hv

theorem added_contentLengthLine {n : Nat} (hn : n < 2 ^ 64) : Added n (contentLengthLine n) := by
  refine ⟨contentLengthLine_lf n, trim_contentLengthLine_ne n, fun v hv => ?_⟩
  rw [lengthField_contentLengthLine hn] at hv
  exact (Option.some.inj hv).symm

/-- A start line that gives no length is written back. -/
theorem rebuiltLine_first {n : Nat} {first : Str} (h : lengthField first = none) :
    rebuiltLine n first = first := by
  refine if_neg fun hname => ?_
  have hsome := lengthField_of_hasName_raw hname
  rw [h] at hsome
  cases hsome

/-- The lines that `rebuild_request_with_sdp` writes: the header lines, and perhaps a `Content-Type`
and a `Content-Length` behind them, the latter if no header line was overwritten by one. -/
theorem rebuiltLines_eq {first : Str} (headers : List Str) {n : Nat} (hn : n < 2 ^ 64)
    (hfirst : lengthField first = none) : ∃ extra : List Str,
    rebuiltLines (first :: headers) n = first :: (headers.map (rebuiltLine n) ++ extra) ∧
      (∀ x ∈ extra, Added n x) ∧
      ((∃ x ∈ extra, (lengthField x).isSome) ∨ ∃ l ∈ headers, hasName contentLengthNames l = true) := by
  obtain ⟨types, htypes, heq⟩ : ∃ types : List Str, (∀ x ∈ types, x = contentTypeLine) ∧
      rebuiltLines (first :: headers) n =
        if (first :: (headers.map (rebuiltLine n) ++ types)).any (hasName ["content-length:".toList])
        then first :: (headers.map (rebuiltLine n) ++ types)
        else first :: (headers.map (rebuiltLine n) ++ types) ++ [contentLengthLine n] := by
    unfold rebuiltLines
    rw [List.map_cons, rebuiltLine_first hfirst]
    dsimp only
    by_cases htype : (first :: headers.map (rebuiltLine n)).any (hasName ["content-type:".toList]) = true
    · refine ⟨[], nofun, ?_⟩
      rw [if_pos htype, List.append_nil]
    · refine ⟨[contentTypeLine], fun x hx => List.mem_singleton.mp hx, ?_⟩
      rw [if_neg htype]
      rfl
  have hadded : ∀ x ∈ types, Added n x := fun x hx => by
    rw [htypes x hx]
    exact added_contentTypeLine n
  rw [heq]
  split
  · rename_i hany
    refine ⟨types, rfl, hadded, .inr ?_⟩
    obtain ⟨x, hx, hname⟩ := List.any_eq_true.mp hany
    have hsome := lengthField_of_hasName_raw (hasName_of_long hname)
    rw [List.mem_cons, List.mem_append] at hx
    rcases hx with rfl | hx | hx
    · rw [hfirst] at hsome
      cases hsome
    · obtain ⟨l, hl, rfl⟩ := List.mem_map.mp hx
      refine ⟨l, hl, ?_⟩
      by_contra hno
      rw [show rebuiltLine n l = l from if_neg hno] at hname
      exact hno (hasName_of_long hname)
    · rw [htypes x hx, show lengthField contentTypeLine = none by decide] at hsome
      cases hsome
  · refine ⟨types ++ [contentLengthLine n], by simp, fun x hx => ?_,
      .inl ⟨contentLengthLine n, by simp, ?_⟩⟩
    · rw [List.mem_append, List.mem_singleton] at hx
      rcases hx with hx | rfl
      · exact hadded x hx
      · exact added_contentLengthLine hn
    · rw [lengthField_contentLengthLine hn]
      rfl

theorem headerLines_map (n : Nat) (ls : List Str) :
    headerLines (ls.map (rebuiltLine n)) = (headerLines ls).map (rebuiltLine n) := by
  have hblank : (fun l => !(trim l).isEmpty) ∘ rebuiltLine n = fun l => !(trim l).isEmpty := by
    funext l
    rw [Function.comp, Bool.eq_iff_iff]
    simpa using not_congr trim_rebuiltLine_eq_nil
  rw [headerLines, List.takeWhile_map, hblank]
  rfl

section

variable {m first : Str} {rest headers extra ls : List Str} {n : Nat}

/-- The lengths that overwritten header lines give. -/
theorem rebuilt_lengths (h : Request m first rest headers) (hn : n < 2 ^ 64)
    (hls : ∀ l ∈ ls, l ∈ headers) :
    (∀ x ∈ lengthsOf (ls.map (rebuiltLine n)), x = some n) ↔
      ∀ l ∈ ls, (lengthField l).isSome → hasName contentLengthNames l = true ∨
        byteLen (bodyOf m) = n := by
  constructor
  · intro hall l hl hs
    by_cases hname : hasName contentLengthNames l = true
    · exact .inl hname
    · obtain ⟨v, hv⟩ := Option.isSome_iff_exists.mp hs
      have hx := hall _ (mem_lengthsOf.mpr ⟨_, List.mem_map_of_mem hl, v, by
        rw [lengthField_rebuiltLine hn, if_neg hname, hv], rfl⟩)
      rw [h.announces l (hls l hl) v hv] at hx
      exact .inr (Option.some.inj hx)
  · intro hall x hx
    obtain ⟨y, hy, v, hv, rfl⟩ := mem_lengthsOf.mp hx
    obtain ⟨l, hl, rfl⟩ := List.mem_map.mp hy
    rw [lengthField_rebuiltLine hn] at hv
    split at hv
    · cases hv
      exact parseUnsigned_showNat hn
    · rename_i hname
      rcases hall l hl (by rw [hv]; rfl) with hname' | he
      · exact absurd hname' hname
      · rw [h.announces l (hls l hl) v hv, he]

theorem rebuilt_lengths_nil (hn : n < 2 ^ 64) :
    lengthsOf (ls.map (rebuiltLine n)) = [] ↔ ∀ l ∈ ls, lengthField l = none := by
  simp only [lengthsOf_eq_nil, List.mem_map, forall_exists_index, and_imp,
    forall_apply_eq_imp_iff₂, lengthField_rebuiltLine hn]
  refine forall_congr' fun l => imp_congr_right fun _ => ?_
  split
  · rename_i hname
    refine iff_of_false (by simp) fun hnone => ?_
    have h := lengthField_of_hasName_raw hname
    rw [hnone] at h
    cases h
  · rfl

/-- **When the lines of a request with a new body announce it**: every `Content-Length` in front of the
first line of white space was overwritten or fits by chance, and there is one, unless the new body is
empty; without a line of white space one is added where it is missing. -/
theorem forwarded_sdp_iff (h : Request m first rest headers) (hn : n < 2 ^ 64)
    (hextra : ∀ x ∈ extra, Added n x) (hone : (∃ x ∈ extra, (lengthField x).isSome) ∨
      ∃ l ∈ headers, hasName contentLengthNames l = true) :
    Announces (headerLines (headers.map (rebuiltLine n) ++ extra)) n ↔
      (∀ l ∈ headerLines headers, (lengthField l).isSome →
        hasName contentLengthNames l = true ∨ byteLen (bodyOf m) = n) ∧
      (headerLines headers = headers ∨ (∃ l ∈ headerLines headers, (lengthField l).isSome) ∨ n = 0) := by
  have hsub : ∀ l ∈ headerLines headers, l ∈ headers := fun l hl => (mem_headerLines hl).1
  have hex : ∀ {ls : List Str}, (¬ ∀ l ∈ ls, lengthField l = none) ↔ ∃ l ∈ ls, (lengthField l).isSome := by
    intro ls
    simp only [← Option.not_isSome_iff_eq_none, not_forall, not_not, exists_prop]
  have hspan : headerLines (headers.map (rebuiltLine n) ++ extra) =
      if headerLines headers = headers then headers.map (rebuiltLine n) ++ extra
      else (headerLines headers).map (rebuiltLine n) := by
    have hext : headerLines extra = extra := List.takeWhile_eq_self_iff.mpr fun x hx => by
      simpa using (hextra x hx).2.1
    have hlen : (headerLines (headers.map (rebuiltLine n))).length = (headers.map (rebuiltLine n)).length ↔
        headerLines headers = headers := by
      rw [headerLines_map, List.length_map, List.length_map]
      exact ⟨fun he => (List.takeWhile_prefix _).eq_of_length he, fun he => by rw [he]⟩
    rw [headerLines, List.takeWhile_append, ← headerLines, ← headerLines, hext, headerLines_map]
    rw [headerLines_map] at hlen
    by_cases he : headerLines headers = headers
    · rw [if_pos (hlen.mpr he), if_pos he]
    · rw [if_neg (mt hlen.mp he), if_neg he]
  rw [hspan, Announces]
  by_cases he : headerLines headers = headers
  · have hadd : ∀ x ∈ lengthsOf extra, x = some n := by
      intro x hx
      obtain ⟨y, hy, v, hv, rfl⟩ := mem_lengthsOf.mp hx
      rw [(hextra y hy).2.2 v hv]
      exact parseUnsigned_showNat hn
    have hsome : lengthsOf (headers.map (rebuiltLine n)) ++ lengthsOf extra ≠ [] := by
      rw [Ne, List.append_eq_nil_iff, not_and_or, rebuilt_lengths_nil hn, lengthsOf_eq_nil, hex, hex]
      rcases hone with hone | ⟨l, hl, hname⟩
      · exact .inr hone
      · exact .inl ⟨l, hl, lengthField_of_hasName_raw hname⟩
    rw [if_pos he, lengthsOf_append, he, ← rebuilt_lengths h hn fun l hl => hl]
    constructor
    · rintro ⟨hall, -⟩
      exact ⟨fun x hx => hall x (List.mem_append_left _ hx), .inl rfl⟩
    · rintro ⟨hall, -⟩
      refine ⟨fun x hx => ?_, fun hnil => absurd hnil hsome⟩
      rcases List.mem_append.mp hx with hx | hx
      · exact hall x hx
      · exact hadd x hx
  · rw [if_neg he, rebuilt_lengths h hn hsub, rebuilt_lengths_nil hn]
    refine and_congr_right fun _ => ?_
    rw [or_iff_right he, ← hex]
    exact imp_iff_not_or

theorem rebuiltLine_lf {l : Str} (hl : '\n' ∉ l) : '\n' ∉ rebuiltLine n l := by
  unfold rebuiltLine
  split
  · exact contentLengthLine_lf n
  · exact hl

theorem rebuiltLine_ne_nil {l : Str} (hl : l ≠ []) : rebuiltLine n l ≠ [] := by
  unfold rebuiltLine
  split
  · intro h
    exact trim_contentLengthLine_ne n (by rw [h]; rfl)
  · exact hl

/-- **The body of a request with a new body** is that body iff no header line is empty: behind an
empty one the rest of the header lines counts as body. -/
theorem bodyOf_rebuilt {sdp : Str} (hfirst : first ≠ []) (hlf : ∀ l ∈ first :: headers, '\n' ∉ l)
    (hextra : ∀ x ∈ extra, Added n x) :
    bodyOf (joined (first :: (headers.map (rebuiltLine n) ++ extra)) sdp) = sdp ↔ [] ∉ headers := by
  have hmap : ∀ {ls : List Str}, (∀ l ∈ ls, '\n' ∉ l) → ∀ x ∈ ls.map (rebuiltLine n), '\n' ∉ x := by
    intro ls hls x hx
    obtain ⟨l, hl, rfl⟩ := List.mem_map.mp hx
    exact rebuiltLine_lf (hls l hl)
  have hne : ∀ {ls : List Str}, [] ∉ ls → ∀ x ∈ ls.map (rebuiltLine n), x ≠ [] := by
    intro ls hls x hx
    obtain ⟨l, hl, rfl⟩ := List.mem_map.mp hx
    exact rebuiltLine_ne_nil fun he => hls (he ▸ hl)
  have hlf' : ∀ l ∈ headers, '\n' ∉ l := fun l hl => hlf l (List.mem_cons_of_mem _ hl)
  constructor
  · intro hb hmem
    -- the lines behind the first empty one are in front of the new body
    obtain ⟨before, behind, rfl, hbefore⟩ := List.eq_append_cons_of_mem hmem
    have hempty : rebuiltLine n [] = [] := by
      unfold rebuiltLine
      exact if_neg (by decide)
    have hcut : joined (first :: ((before ++ [] :: behind).map (rebuiltLine n) ++ extra)) sdp =
        joined (first :: before.map (rebuiltLine n))
          ((behind.map (rebuiltLine n) ++ extra).flatMap (· ++ crlf) ++ crlf ++ sdp) := by
      rw [joined_eq _ (List.cons_ne_nil _ _), joined_eq _ (List.cons_ne_nil _ _)]
      simp only [List.map_append, List.map_cons, hempty, List.flatMap_cons, List.flatMap_append,
        List.cons_append, List.append_assoc, List.nil_append]
    rw [hcut, bodyOf_joined _ (List.cons_ne_nil _ _)] at hb
    · have hlen := congrArg List.length hb
      rw [List.length_append, List.length_append, crlf_eq, List.length_cons, List.length_singleton] at hlen
      omega
    · intro x hx
      rcases List.mem_cons.mp hx with rfl | hx
      · exact hlf _ List.mem_cons_self
      · exact hmap (fun l hl => hlf' l (List.mem_append_left _ hl)) x hx
    · intro x hx
      rcases List.mem_cons.mp hx with rfl | hx
      · exact hfirst
      · exact hne hbefore x hx
  · intro hmem
    refine bodyOf_joined _ (List.cons_ne_nil _ _) ?_ ?_
    · intro x hx
      rw [List.mem_cons, List.mem_append] at hx
      rcases hx with rfl | hx | hx
      · exact hlf _ List.mem_cons_self
      · exact hmap hlf' x hx
      · exact (hextra x hx).1
    · intro x hx
      rw [List.mem_cons, List.mem_append] at hx
      rcases hx with rfl | hx | hx
      · exact hfirst
      · exact hne hmem x hx
      · rintro rfl
        exact (hextra _ hx).2.1 rfl

end

/-! ## The whole way -/

/-- What the header lines of a request must be like for a new body: none of them is empty, those that
give a length in front of the first line of white space are overwritten or fit by chance, and there is
one in front of it if there is such a line at all, unless the new body is empty. -/
def KeepsSdp (m sdp : Str) : Prop :=
  [] ∉ (lines (headOf m)).tail ∧
    (∀ l ∈ headerLines (lines m).tail, (lengthField l).isSome →
      hasName contentLengthNames l = true ∨ byteLen (bodyOf m) = byteLen sdp) ∧
    (headerLines (lines m).tail = (lines (headOf m)).tail ∨ LengthInFront m ∨ sdp = [])

instance (m sdp : Str) : Decidable (KeepsSdp m sdp) := by
  unfold KeepsSdp
  infer_instance

theorem startLine_of_isRequest {m : Str} (hreq : isRequest m = true)
    (hthree : (splitWhitespace ((lines m).headD [])).length = 3) :
    ∃ method version, startLine m = some (method, version) := by
  obtain ⟨method, uri, version, hw⟩ := List.length_eq_three.mp hthree
  refine ⟨method, version, ?_⟩
  rw [startLine, hw]
  refine if_neg fun hp => ?_
  obtain ⟨w, rest, hl, hws, hne, hmethod, -, -⟩ := splitWhitespace_eq_cons hw
  -- the version would start the first line
  have htrim : sipVersion <+: trim ((lines m).headD []) := by
    obtain ⟨c, t, rfl⟩ := List.exists_cons_of_ne_nil hne
    obtain ⟨x, hx⟩ := hp
    have hlast : ∀ y : Str, sipVersion <+: trimEnd (sipVersion ++ y) := by
      intro y
      have hsv : sipVersion = "SIP/2.".toList ++ ['0'] := by decide
      rw [hsv, List.append_assoc, List.singleton_append, trimEnd_append_of_not _ _ (by decide)]
      exact ⟨trimEnd y, by simp⟩
    rw [hl, List.append_assoc, trim_append_left _ hws, trim, List.cons_append,
      trimStart_of_not _ (hmethod c List.mem_cons_self), ← List.cons_append, ← hx, List.append_assoc]
    exact hlast _
  cases hlm : lines m with
  | nil => rw [hlm] at hw; cases hw
  | cons first rest =>
    rw [hlm, List.headD_cons] at htrim
    simp [isRequest, firstLine, hlm, htrim] at hreq

/-- **When a forwarded request stays one message.** For a request that the framer takes whole and whose
start line has three parts, and for a target, a domain, a contact and a caller without line ends:
`f`, which is sent on with the request's own body, is one message with that body iff there is no body
or a `Content-Length` in front of the first line of white space; and `g`, which is sent on with `sdp`,
is one message with `sdp` iff the header lines are as `KeepsSdp` says. -/
theorem forwarded_iff {m targetUri domain contactUri authenticatedFrom sdp f r g : Str}
    {transport : Transport} {branch : Vector UInt8 8}
    (hm : frameSipMessage (utf8 m) = .ok (.complete (byteLen m))) (hreq : isRequest m = true)
    (hthree : (splitWhitespace ((lines m).headD [])).length = 3)
    (ht : '\n' ∉ targetUri) (hd : '\n' ∉ domain) (hc : '\n' ∉ contactUri)
    (ha : '\n' ∉ authenticatedFrom)
    (hf : buildOutboundRequestWithFrom m targetUri domain contactUri authenticatedFrom transport branch
      = .ok f)
    (hr : rebuildRequestWithSdp m sdp = .ok r)
    (hg : buildOutboundRequest r targetUri domain contactUri transport branch = .ok g)
    (hlen : byteLen f < 2 ^ 64 ∧ byteLen sdp < 2 ^ 64 ∧ byteLen g < 2 ^ 64) :
    (OneMessage f (bodyOf m) ↔ bodyOf m = [] ∨ LengthInFront m) ∧
      (OneMessage g sdp ↔ KeepsSdp m sdp) := by
  obtain ⟨hflen, hsdp, hglen⟩ := hlen
  obtain ⟨method, version, hs⟩ := startLine_of_isRequest hreq hthree
  obtain ⟨first, uri, rest, headers, hq, hwords⟩ := request_of_accepted hm hs
  have hfirstlf : ∀ l ∈ first :: rest, '\n' ∉ l := fun l hl =>
    not_mem_of_mem_lines (by rw [hq.lines_eq]; exact hl)
  have hheadlf : ∀ l ∈ first :: headers, '\n' ∉ l := fun l hl =>
    not_mem_of_mem_lines (by rw [hq.head_eq]; exact hl)
  obtain ⟨hmethod, hversion⟩ := lf_not_mem_startLine hs
  have hstart := lengthField_start targetUri hwords hq.length_none
  constructor
  · rw [buildOutboundRequestWithFrom_eq, hs] at hf
    cases hf
    rw [hq.lines_eq, List.tail_cons] at hflen ⊢
    change OneMessage (joined _ _) _ ↔ _
    rw [outbound_oneMessage transport branch hmethod hversion
      (fun l hl => hfirstlf l (List.mem_cons_of_mem _ hl)) ht hd hc ha hstart hflen,
      forwarded_body_iff hq]
    exact and_iff_left rfl
  · obtain ⟨extra, heq, hextra, hone⟩ := rebuiltLines_eq headers hsdp hq.length_none
    have hr' : r = joined (first :: (headers.map (rebuiltLine (byteLen sdp)) ++ extra)) sdp := by
      rw [rebuildRequestWithSdp_eq, hq.head_eq, heq] at hr
      exact (Except.ok.inj hr).symm
    have hlf : ∀ l ∈ headers.map (rebuiltLine (byteLen sdp)) ++ extra, '\n' ∉ l := by
      intro l hl
      rcases List.mem_append.mp hl with hl | hl
      · obtain ⟨l', hl', rfl⟩ := List.mem_map.mp hl
        exact rebuiltLine_lf (hheadlf l' (List.mem_cons_of_mem _ hl'))
      · exact (hextra l hl).1
    have hlines : lines r = first :: (headers.map (rebuiltLine (byteLen sdp)) ++ extra ++ [] :: lines sdp) := by
      rw [hr', lines_joined sdp (List.cons_ne_nil _ _), List.cons_append]
      intro l hl
      rcases List.mem_cons.mp hl with rfl | hl
      · exact hfirstlf _ List.mem_cons_self
      · exact hlf l hl
    have hsr : startLine r = startLine m := by
      rw [startLine, startLine, hlines, hq.lines_eq, List.headD_cons, List.headD_cons]
    have hfirst : first ≠ [] := by
      rintro rfl
      exact hq.nonblank rfl
    have hbody : bodyOf r = sdp ↔ [] ∉ headers := by
      rw [hr']
      exact bodyOf_rebuilt hfirst hheadlf hextra
    have hrestlf : ∀ l ∈ (lines r).tail, '\n' ∉ l := fun l hl =>
      not_mem_of_mem_lines (List.mem_of_mem_tail hl)
    have hheader : headerLines (lines r).tail =
        headerLines (headers.map (rebuiltLine (byteLen sdp)) ++ extra) := by
      rw [hlines, List.tail_cons, headerLines_append]
    rw [buildOutboundRequest, buildOutboundRequestWithFrom_eq, hsr, hs] at hg
    cases hg
    change OneMessage (joined _ _) _ ↔ _
    rw [outbound_oneMessage transport branch hmethod hversion hrestlf ht hd hc (by simp) hstart hglen,
      hheader, KeepsSdp, hq.head_eq, LengthInFront, hq.lines_eq, List.tail_cons, List.tail_cons,
      hq.header, ← hbody, and_comm]
    refine and_congr_right fun hb => ?_
    rw [hb, forwarded_sdp_iff hq hsdp hextra hone, byteLen_eq_zero]

/-- A request with its length where it should be, sent on with its body and with another one. -/
theorem forwarded_concrete :
    OneMessage "INVITE sip:b@x SIP/2.0\r\nVia: SIP/2.0/TLS x;branch=z9hG4bK0000000000000000\r\nl: 2\r\n\r\nhi".toList
      "hi".toList ∧
    OneMessage ("INVITE sip:b@x SIP/2.0\r\nVia: SIP/2.0/TLS x;branch=z9hG4bK0000000000000000\r\n".toList ++
      "Content-Length: 3\r\nContent-Type: application/sdp\r\n\r\nv=0".toList) "v=0".toList := by
  have h := @forwarded_iff "INVITE sip:b SIP/2.0\r\nl: 2\r\n\r\nhi".toList "sip:b@x".toList "x".toList [] []
    "v=0".toList
    "INVITE sip:b@x SIP/2.0\r\nVia: SIP/2.0/TLS x;branch=z9hG4bK0000000000000000\r\nl: 2\r\n\r\nhi".toList
    "INVITE sip:b SIP/2.0\r\nContent-Length: 3\r\nContent-Type: application/sdp\r\n\r\nv=0".toList
    ("INVITE sip:b@x SIP/2.0\r\nVia: SIP/2.0/TLS x;branch=z9hG4bK0000000000000000\r\n".toList ++
      "Content-Length: 3\r\nContent-Type: application/sdp\r\n\r\nv=0".toList)
    .tls (Vector.replicate 8 0) (by decide +kernel) (by decide +kernel) (by decide +kernel)
    (by decide +kernel) (by decide +kernel) (by decide +kernel) (by decide +kernel) (by decide +kernel)
    (by decide +kernel) (by decide +kernel) (by decide +kernel)
  exact ⟨h.1.mpr (by decide +kernel), h.2.mpr (by decide +kernel)⟩

/-- **A body escapes its request**: behind a line of white space the `Content-Length` is lost, and the
next hop takes the body for the beginning of another message. -/
theorem forwarded_body_escapes :
    let m := "BYE sip:b SIP/2.0\r\n \r\nl: 2\r\n\r\nhi".toList
    let f := "BYE sip:b@x SIP/2.0\r\nVia: SIP/2.0/TLS x;branch=z9hG4bK0000000000000000\r\n\r\nhi".toList
    frameSipMessage (utf8 m) = .ok (.complete (byteLen m)) ∧ isRequest m = true ∧
      (splitWhitespace ((lines m).headD [])).length = 3 ∧
      buildOutboundRequestWithFrom m "sip:b@x".toList "x".toList [] [] .tls (Vector.replicate 8 0)
        = .ok f ∧
      ¬ OneMessage f (bodyOf m) ∧ frameSipMessage (utf8 f) = .ok (.complete (byteLen f - 2)) := by
  decide +kernel

end Minghe.Sip
