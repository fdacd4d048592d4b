import Minghe.Sip.Forwarded

/-!
# Responses as messages

`build_response` and its two siblings copy headers of the request into fixed places and write a line for each
place, also for one that stayed empty. An empty line ends the header section: the peer takes the response for a
message that ends there, and what is behind it for another one.

* `RespondsTo`: a text reads as a response with a status to a request.
* `respondsTo_buildResponseWithBody`: what the builders write does.
* `Answerable`: the request has every header that is copied.
* `SameLength`: an extra header that gives a length gives the one of the body.
* `responses_framed_iff`: a response is one message, of its status and with the headers that it copies, iff
  the request has these and no extra header gives another length.
-/

namespace Minghe.Sip

open Minghe.Lib

/-- The header section has a line with one of these names. -/
def HasHeader (names : List Str) (request : Str) : Prop :=
  ∃ l ∈ headerSection (lines request), hasName names l = true

instance (names : List Str) (request : Str) : Decidable (HasHeader names request) :=
  inferInstanceAs (Decidable (∃ l ∈ _, _))

/-- No place of a response with this status code stays empty. -/
structure Answerable (request : Str) (statusCode : Nat) : Prop where
  fromHeader : HasHeader fromNames request
  /-- A final response has its tag in the place of `To`. -/
  toHeader : 100 < statusCode ∨ HasHeader toNames request
  callId : HasHeader callIdNames request
  cseq : HasHeader cseqNames request

/-- The line of an extra header. -/
def headerLine (h : Str × Str) : Str := h.1 ++ ": ".toList ++ h.2

/-- The extra headers give no other length than `n`. -/
def SameLength (extraHeaders : List (Str × Str)) (n : Nat) : Prop :=
  ∀ h ∈ extraHeaders, ∀ v, lengthField (headerLine h) = some v → parseUnsigned 64 v = some n

/-! ## The copied headers -/

/-- The names of the headers that are copied. -/
def copiedNames : List (List Str) := [viaNames, fromNames, toNames, callIdNames, cseqNames]

/-- A line has one name. -/
theorem hasName_unique {names names' : List Str} (h : names ∈ copiedNames) (h' : names' ∈ copiedNames)
    (hne : names ≠ names') {l : Str} (hl : hasName names l = true) : hasName names' l = false := by
  have hpairs : ∀ names ∈ copiedNames, ∀ names' ∈ copiedNames, names ≠ names' →
      ∀ p ∈ names, ∀ p' ∈ names', ¬ p <+: p' ∧ ¬ p' <+: p := by decide
  obtain ⟨p, hp, hpre⟩ := List.any_eq_true.mp hl
  refine List.any_eq_false.mpr fun p' hp' hpre' => ?_
  obtain ⟨hnot, hnot'⟩ := hpairs names h names' h' hne p hp p' hp'
  exact (List.prefix_or_prefix_of_prefix (of_decide_eq_true hpre) (of_decide_eq_true hpre')).elim hnot hnot'

/-- The last line with a name, or nothing. -/
def lastNamed (names : List Str) (ls : List Str) : Str := ((ls.filter (hasName names)).getLast?).getD []

/-- What is copied from these lines: all `Via` lines, and the last one of each other name. -/
structure Copied (ls : List Str) (h : CopiedHeaders) : Prop where
  via : h.via = ls.filter (hasName viaNames)
  fromHeader : h.fromHeader = lastNamed fromNames ls
  toHeader : h.toHeader = lastNamed toNames ls
  callId : h.callId = lastNamed callIdNames ls
  cseq : h.cseq = lastNamed cseqNames ls

section

variable {names ls : List Str} {place l : Str}

theorem lastNamed_other (hl : hasName names l = false) : lastNamed names (ls ++ [l]) = lastNamed names ls := by
  simp [lastNamed, List.filter_append, hl]

theorem lastNamed_here (hl : hasName names l = true) : lastNamed names (ls ++ [l]) = l := by
  simp [lastNamed, List.filter_append, hl]

theorem lastNamed_cases (names ls : List Str) :
    (lastNamed names ls = [] ∧ ∀ l ∈ ls, hasName names l = false) ∨
      (lastNamed names ls ∈ ls ∧ hasName names (lastNamed names ls) = true) := by
  unfold lastNamed
  cases hlast : (ls.filter (hasName names)).getLast? with
  | none =>
    have hnil := List.getLast?_eq_none_iff.mp hlast
    exact .inl ⟨rfl, fun l hl => Bool.eq_false_iff.mpr fun hname =>
      List.not_mem_nil (hnil ▸ List.mem_filter.mpr ⟨hl, hname⟩)⟩
  | some l => exact .inr (List.mem_filter.mp (List.mem_of_getLast? hlast))

/-- A place is filled iff there is a line for it. -/
theorem lastNamed_ne_nil_iff (hls : ∀ l ∈ ls, l ≠ []) :
    lastNamed names ls ≠ [] ↔ ∃ l ∈ ls, hasName names l = true := by
  rcases lastNamed_cases names ls with ⟨hnil, h⟩ | ⟨hmem, hname⟩
  · refine iff_of_false (fun hne => hne hnil) ?_
    rintro ⟨l, hl, hname⟩
    rw [h l hl] at hname
    cases hname
  · exact iff_of_true (hls _ hmem) ⟨_, hmem, hname⟩

end

/-- One more line. -/
theorem Copied.add {ls : List Str} {h : CopiedHeaders} (hc : Copied ls h) (l : Str) :
    Copied (ls ++ [l]) (h.add l) := by
  have hvia : hasName viaNames l = false → h.via = (ls ++ [l]).filter (hasName viaNames) := fun hl => by
    rw [List.filter_append, List.filter_cons_of_neg (by simp [hl]), List.filter_nil, List.append_nil, hc.via]
  have hother : ∀ {names place}, place = lastNamed names ls → hasName names l = false →
      place = lastNamed names (ls ++ [l]) := fun hplace hl => hplace.trans (lastNamed_other hl).symm
  have hhere : ∀ {names}, hasName names l = true → l = lastNamed names (ls ++ [l]) := fun hl =>
    (lastNamed_here hl).symm
  have hunique := fun names h names' h' hne => @hasName_unique names names' h h' hne l
  unfold CopiedHeaders.add
  split
  · rename_i hl
    have hnot := fun names' h' hne => hunique viaNames (by decide) names' h' hne hl
    refine ⟨?_, hother hc.fromHeader (hnot _ (by decide) (by decide)),
      hother hc.toHeader (hnot _ (by decide) (by decide)), hother hc.callId (hnot _ (by decide) (by decide)),
      hother hc.cseq (hnot _ (by decide) (by decide))⟩
    rw [List.filter_append, List.filter_cons_of_pos hl, List.filter_nil, hc.via]
  rename_i hnovia
  have hvia := hvia (by simpa using hnovia)
  split
  · rename_i hl
    have hnot := fun names' h' hne => hunique fromNames (by decide) names' h' hne hl
    exact ⟨hvia, hhere hl, hother hc.toHeader (hnot _ (by decide) (by decide)),
      hother hc.callId (hnot _ (by decide) (by decide)), hother hc.cseq (hnot _ (by decide) (by decide))⟩
  rename_i hnofrom
  have hfrom := hother hc.fromHeader (by simpa using hnofrom)
  split
  · rename_i hl
    have hnot := fun names' h' hne => hunique toNames (by decide) names' h' hne hl
    exact ⟨hvia, hfrom, hhere hl, hother hc.callId (hnot _ (by decide) (by decide)),
      hother hc.cseq (hnot _ (by decide) (by decide))⟩
  rename_i hnoto
  have hto := hother hc.toHeader (by simpa using hnoto)
  split
  · rename_i hl
    have hnot := fun names' h' hne => hunique callIdNames (by decide) names' h' hne hl
    exact ⟨hvia, hfrom, hto, hhere hl, hother hc.cseq (hnot _ (by decide) (by decide))⟩
  rename_i hnocall
  have hcall := hother hc.callId (by simpa using hnocall)
  split
  · rename_i hl
    exact ⟨hvia, hfrom, hto, hcall, hhere hl⟩
  · rename_i hnocseq
    exact ⟨hvia, hfrom, hto, hcall, hother hc.cseq (by simpa using hnocseq)⟩

/-- **The loop of the builders.** -/
theorem copied_foldl (ls : List Str) : Copied ls (ls.foldl CopiedHeaders.add {}) := by
  induction ls using List.reverseRecOn with
  | nil => exact ⟨rfl, rfl, rfl, rfl, rfl⟩
  | append_singleton ls l ih =>
    rw [List.foldl_append]
    exact ih.add l

/-! ## Lines that give no length -/

/-- A text that begins with another letter is no length. -/
theorem lengthField_of_head {c : Char} (hc : isWhitespace c = false) (h : c.toLower ≠ 'c' ∧ c.toLower ≠ 'l')
    (rest : Str) : lengthField (c :: rest) = none := by
  have hnames : ∀ q ∈ lengthNames, q.head? = some 'c' ∨ q.head? = some 'l' := by decide
  rw [lengthField_eq, trim_of_not rest hc]
  cases hs : splitOnce ':' (c :: trimEnd rest) with
  | none => rfl
  | some p =>
    obtain ⟨name, value⟩ := p
    refine if_neg fun hname => ?_
    obtain ⟨he, -⟩ := splitOnce_eq_some.mp hs
    cases name with
    | nil => exact absurd (show toAsciiLowercase [] ∈ lengthNames from hname) (by decide)
    | cons d name =>
      rw [List.cons_append, List.cons.injEq] at he
      rcases hnames _ hname with hd | hd
      · exact h.1 (he.1 ▸ Option.some.inj hd)
      · exact h.2 (he.1 ▸ Option.some.inj hd)

/-- The names of the headers that are copied, without their colons. -/
theorem exists_fields {names : List Str} (h : names ∈ copiedNames) : ∃ qs, names = fieldNames qs ∧
    (∀ p ∈ names, Plain p) ∧ (∀ q ∈ qs, ':' ∉ q) ∧
    ∀ q ∈ qs, q ∉ lengthNames ++ ["content-type".toList, "contact".toList] := by
  simp only [copiedNames, List.mem_cons, List.not_mem_nil, or_false] at h
  rcases h with rfl | rfl | rfl | rfl | rfl
  · exact ⟨["via".toList, "v".toList], rfl, by decide⟩
  · exact ⟨["from".toList, "f".toList], rfl, by decide⟩
  · exact ⟨["to".toList, "t".toList], rfl, by decide⟩
  · exact ⟨["call-id".toList, "i".toList], rfl, by decide⟩
  · exact ⟨["cseq".toList], rfl, by decide⟩

/-- A copied header is none. -/
theorem lengthField_copied {names : List Str} (h : names ∈ copiedNames) {l : Str} (htrim : trim l = l)
    (hl : hasName names l = true) : lengthField l = none := by
  obtain ⟨qs, hn, hp, hq, hother⟩ := exists_fields h
  obtain ⟨q, hmem, hname⟩ := (hasName_iff qs hn hp hq l).mp hl
  exact lengthField_of_name (htrim.symm ▸ hname) fun hlength => hother q hmem (List.mem_append_left _ hlength)

/-- Nor is a `To` header with a tag behind it, or the tag alone. -/
theorem lengthField_tagged {place : Str} (h : place = [] ∨ hasName toNames place = true) (tag : Str) :
    lengthField (place ++ ";tag=".toList ++ tag) = none := by
  rcases h with rfl | hname
  · exact lengthField_of_head (c := ';') (by decide) (by decide) _
  · obtain ⟨q, hq, hfield⟩ := (hasName_iff ["to".toList, "t".toList] rfl (by decide) (by decide) place).mp hname
    obtain ⟨⟨name, value⟩, hs, rfl⟩ := Option.map_eq_some_iff.mp hfield
    obtain ⟨rfl, -⟩ := splitOnce_eq_some.mp hs
    have hnames : ∀ q ∈ ["to".toList, "t".toList], q.head? = some 't' ∧ ∀ c ∈ q, isWhitespace c = false := by decide
    obtain ⟨hhead, hwhite⟩ := hnames _ hq
    cases name with
    | nil => cases hhead
    | cons c name =>
      have hc : c.toLower = 't' := Option.some.inj hhead
      have hblank : isWhitespace c = false := isWhitespace_of_lower hwhite c List.mem_cons_self
      rw [List.cons_append, List.cons_append, List.cons_append]
      exact lengthField_of_head hblank (by rw [hc]; decide) _

/-! ## The lines of a response -/

/-- The start line of a response. -/
def statusLine (statusCode : Nat) (reason : Str) : Str :=
  sipVersion ++ [' '] ++ showNat statusCode ++ [' '] ++ reason

theorem statusLine_spec (statusCode : Nat) {reason : Str} (hreason : '\n' ∉ reason) :
    '\n' ∉ statusLine statusCode reason ∧ lengthField (statusLine statusCode reason) = none ∧
      trim (statusLine statusCode reason) ≠ [] := by
  have hnat : '\n' ∉ showNat statusCode := fun hc => absurd (showNat_digit _ hc) (by decide)
  refine ⟨?_, lengthField_of_head (c := 'S') (by decide) (by decide) _, fun hnil => ?_⟩
  · unfold statusLine
    simp only [List.mem_append, not_or]
    exact ⟨⟨⟨⟨by decide, by decide⟩, hnat⟩, by decide⟩, hreason⟩
  · exact absurd (trim_eq_nil.mp hnil 'S' List.mem_cons_self) (by decide)

/-- The lines up to `CSeq`. -/
def headLines (request : Str) (statusCode : Nat) (reason tag : Str) : List Str :=
  let h := copiedHeaders request statusCode tag
  statusLine statusCode reason :: (h.via ++ [h.fromHeader, h.toHeader, h.callId, h.cseq])

/-- The lines behind it: extra headers, the type of the body, and its length. -/
def tailLines (extraHeaders : List (Str × Str)) (body : Str) : List Str :=
  extraHeaders.map headerLine ++ ((if body.isEmpty then [] else [contentTypeLine]) ++ [contentLengthLine (byteLen body)])

theorem buildResponseWithBody_eq (request : Str) (statusCode : Nat) (reason : Str)
    (extraHeaders : List (Str × Str)) (body tag : Str) :
    buildResponseWithBody request statusCode reason extraHeaders body tag =
      joined (headLines request statusCode reason tag ++ tailLines extraHeaders body) body := by
  have hextra : headerText extraHeaders = (extraHeaders.map headerLine).flatMap (· ++ crlf) := by
    rw [headerText, List.flatMap_map]
    rfl
  have htype : (if body.isEmpty then [] else "Content-Type: application/sdp\r\n".toList) =
      (if body.isEmpty then [] else [contentTypeLine]).flatMap (· ++ crlf) := by
    cases body.isEmpty <;> rfl
  have hne : headLines request statusCode reason tag ++ tailLines extraHeaders body ≠ [] := List.cons_ne_nil _ _
  rw [joined_eq body hne, List.flatMap_append, tailLines, List.flatMap_append, List.flatMap_append, ← hextra, ← htype]
  unfold buildResponseWithBody responseHead headLines statusLine contentLengthLine
  rw [show headerEnd = crlf ++ crlf from rfl, List.flatMap_cons]
  simp only [List.flatMap_singleton, List.append_assoc]

theorem buildResponseWithHeaders_eq (request : Str) (statusCode : Nat) (reason : Str)
    (extraHeaders : List (Str × Str)) (tag : Str) :
    buildResponseWithHeaders request statusCode reason extraHeaders tag =
      buildResponseWithBody request statusCode reason extraHeaders [] tag := by
  unfold buildResponseWithHeaders buildResponseWithBody
  simp only [List.append_assoc]
  rfl

theorem buildResponse_eq (request : Str) (statusCode : Nat) (reason tag : Str) :
    buildResponse request statusCode reason tag =
      buildResponseWithBody request statusCode reason [] [] tag := by
  rw [← buildResponseWithHeaders_eq]
  unfold buildResponse buildResponseWithHeaders
  rw [headerText, List.flatMap_nil, List.append_nil]

/-! ## What a response says -/

/-- The place of `To`: a final response has a tag in it. -/
def toPlace (statusCode : Nat) (toHeader tag : Str) : Str :=
  if 100 < statusCode ∧ ¬ contains "tag=".toList (toLowercase toHeader) = true then
    toHeader ++ ";tag=".toList ++ tag
  else toHeader

/-- A text reads as a response with a status to a request: the status is the one of its start line, and behind
that stand the `Via` lines of the request, in their order, and the last line of each other name that is copied. -/
structure RespondsTo (request : Str) (statusCode : Nat) (response : Str) : Prop where
  status : extractStatusCode response = some statusCode
  copied : ∃ first tag behind, lines response = first ::
    ((headerSection (lines request)).filter (hasName viaNames) ++
      [lastNamed fromNames (headerSection (lines request)),
        toPlace statusCode (lastNamed toNames (headerSection (lines request))) tag,
        lastNamed callIdNames (headerSection (lines request)),
        lastNamed cseqNames (headerSection (lines request))]) ++ behind

/-- The lines up to `CSeq` are the copied ones. -/
theorem headLines_eq (request : Str) (statusCode : Nat) (reason tag : Str) :
    headLines request statusCode reason tag = statusLine statusCode reason ::
      ((headerSection (lines request)).filter (hasName viaNames) ++
        [lastNamed fromNames (headerSection (lines request)),
          toPlace statusCode (lastNamed toNames (headerSection (lines request))) tag,
          lastNamed callIdNames (headerSection (lines request)),
          lastNamed cseqNames (headerSection (lines request))]) := by
  have hcopied := copied_foldl (headerSection (lines request))
  unfold headLines copiedHeaders toPlace
  dsimp only
  rw [← hcopied.via, ← hcopied.fromHeader, ← hcopied.toHeader, ← hcopied.callId, ← hcopied.cseq]
  split <;> rfl

/-! ## One message -/

/-- An empty line ends a message, so there is more behind it. -/
theorem not_framed_of_empty {front behind : List Str} {body : Str} (hfront : front ≠ [])
    (hlf : ∀ l ∈ front, '\n' ∉ l) (hne : ∀ l ∈ front, l ≠ []) (hlength : ∀ l ∈ front, lengthField l = none)
    (hsize : byteLen (joined (front ++ [] :: behind) body) < 2 ^ 64) :
    frameSipMessage (utf8 (joined (front ++ [] :: behind) body)) ≠
      .ok (.complete (byteLen (joined (front ++ [] :: behind) body))) := by
  have hcut : joined (front ++ [] :: behind) body =
      joined front (behind.flatMap (· ++ crlf) ++ crlf ++ body) := by
    rw [joined_eq _ (List.append_ne_nil_of_left_ne_nil hfront _), joined_eq _ hfront, List.flatMap_append,
      List.flatMap_cons]
    simp only [List.append_assoc, List.nil_append]
  rw [hcut] at hsize ⊢
  intro hframe
  have hnil := ((frame_joined_iff hfront hlf hne hsize).mp hframe).2 (lengthsOf_eq_nil.mpr hlength)
  rw [byteLen_eq_zero, List.append_eq_nil_iff, List.append_eq_nil_iff] at hnil
  exact absurd hnil.1.2 (by decide)

section

variable {request reason body : Str} {statusCode : Nat} {random : Vector UInt8 8}
  {extraHeaders : List (Str × Str)}

/-- Header lines of a request are trimmed, and are one line each. -/
theorem of_mem_headerSection {ls : List Str} {l : Str} (hls : ∀ l ∈ ls, '\n' ∉ l) (h : l ∈ headerSection ls) :
    l ≠ [] ∧ trim l = l ∧ '\n' ∉ l := by
  have hne : l ≠ [] := by simpa using List.mem_takeWhile_imp h
  obtain ⟨line, hline, rfl⟩ := List.mem_map.mp (List.takeWhile_subset _ h)
  exact ⟨hne, trim_trim line, fun hc => hls line hline (mem_of_mem_trim hc)⟩

/-- **The lines up to `CSeq`**: none gives a length, and all are there iff no header is missing. -/
theorem headLines_spec (request : Str) (statusCode : Nat) (hreason : '\n' ∉ reason) (random : Vector UInt8 8) :
    (∀ l ∈ headLines request statusCode reason (generateTag random), '\n' ∉ l ∧ lengthField l = none) ∧
      ((∀ l ∈ headLines request statusCode reason (generateTag random), l ≠ []) ↔ Answerable request statusCode) := by
  have hcopied := copied_foldl (headerSection (lines request))
  have hline : ∀ {l : Str}, l ∈ headerSection (lines request) → l ≠ [] ∧ trim l = l ∧ '\n' ∉ l :=
    of_mem_headerSection fun l hl => not_mem_of_mem_lines hl
  have hnonempty : ∀ l ∈ headerSection (lines request), l ≠ [] := fun l hl => (hline hl).1
  have hslot : ∀ {names : List Str} {place : Str}, names ∈ copiedNames →
      place = lastNamed names (headerSection (lines request)) → '\n' ∉ place ∧ lengthField place = none := by
    rintro names place hnames rfl
    rcases lastNamed_cases names (headerSection (lines request)) with ⟨hnil, -⟩ | ⟨hmem, hname⟩
    · rw [hnil]
      exact ⟨List.not_mem_nil, by decide⟩
    · exact ⟨(hline hmem).2.2, lengthField_copied hnames (hline hmem).2.1 hname⟩
  have hfilled : ∀ {names : List Str} {place : Str}, place = lastNamed names (headerSection (lines request)) →
      (place ≠ [] ↔ HasHeader names request) := by
    rintro names place rfl
    exact lastNamed_ne_nil_iff hnonempty
  have hvia : ∀ {h : CopiedHeaders}, Copied (headerSection (lines request)) h → ∀ l ∈ h.via,
      l ∈ headerSection (lines request) ∧ hasName viaNames l = true := fun h l hl =>
    List.mem_filter.mp (h.via ▸ hl)
  have hstatus := statusLine_spec statusCode hreason
  unfold headLines copiedHeaders
  generalize (headerSection (lines request)).foldl CopiedHeaders.add {} = h at hcopied
  -- what stands in the place of `To`
  obtain ⟨place, hplace, hlf, hlength, hto⟩ : ∃ place,
      (if 100 < statusCode ∧ ¬ contains "tag=".toList (toLowercase h.toHeader) = true then
        { h with toHeader := h.toHeader ++ ";tag=".toList ++ generateTag random } else h) =
          { h with toHeader := place } ∧ '\n' ∉ place ∧ lengthField place = none ∧
      (place ≠ [] ↔ 100 < statusCode ∨ HasHeader toNames request) := by
    split
    · rename_i htag
      refine ⟨_, rfl, ?_, ?_, iff_of_true (by simp) (.inl htag.1)⟩
      · simp only [List.mem_append, not_or]
        exact ⟨⟨(hslot (by decide) hcopied.toHeader).1, by decide⟩, lf_not_mem_hexEncode _⟩
      · rw [hcopied.toHeader]
        exact lengthField_tagged ((lastNamed_cases _ _).imp And.left And.right) _
    · rename_i htag
      refine ⟨h.toHeader, rfl, (hslot (by decide) hcopied.toHeader).1, (hslot (by decide) hcopied.toHeader).2, ?_⟩
      refine ⟨fun hne => .inr ((hfilled hcopied.toHeader).mp hne), fun hto => ?_⟩
      rcases hto with hcode | hto
      · -- there is a tag in it
        rintro hnil
        rw [hnil] at htag
        exact htag ⟨hcode, by decide⟩
      · exact (hfilled hcopied.toHeader).mpr hto
  rw [hplace]
  dsimp only
  constructor
  · intro l hl
    simp only [List.mem_cons, List.mem_append, List.not_mem_nil, or_false] at hl
    rcases hl with rfl | hl | rfl | rfl | rfl | rfl
    · exact ⟨hstatus.1, hstatus.2.1⟩
    · obtain ⟨hmem, hname⟩ := hvia hcopied l hl
      exact ⟨(hline hmem).2.2, lengthField_copied (by decide) (hline hmem).2.1 hname⟩
    · exact hslot (by decide) hcopied.fromHeader
    · exact ⟨hlf, hlength⟩
    · exact hslot (by decide) hcopied.callId
    · exact hslot (by decide) hcopied.cseq
  · constructor
    · intro hall
      exact ⟨(hfilled hcopied.fromHeader).mp (hall _ (by simp)), hto.mp (hall _ (by simp)),
        (hfilled hcopied.callId).mp (hall _ (by simp)), (hfilled hcopied.cseq).mp (hall _ (by simp))⟩
    · intro hanswer l hl
      simp only [List.mem_cons, List.mem_append, List.not_mem_nil, or_false] at hl
      rcases hl with rfl | hl | rfl | rfl | rfl | rfl
      · exact List.cons_ne_nil _ _
      · exact (hline (hvia hcopied l hl).1).1
      · exact (hfilled hcopied.fromHeader).mpr hanswer.fromHeader
      · exact hto.mpr hanswer.toHeader
      · exact (hfilled hcopied.callId).mpr hanswer.callId
      · exact (hfilled hcopied.cseq).mpr hanswer.cseq

/-- **What the builders write** is read back. -/
theorem respondsTo_buildResponseWithBody (hreason : '\n' ∉ reason) (hstatus : statusCode < 2 ^ 16) :
    RespondsTo request statusCode
      (buildResponseWithBody request statusCode reason extraHeaders body (generateTag random)) where
  status := by
    unfold buildResponseWithBody
    simp only [List.append_assoc]
    exact extractStatusCode_responseHead hreason hstatus
  copied := by
    have hlf := fun l hl => ((headLines_spec request statusCode hreason random).1 l hl).1
    have hne : headLines request statusCode reason (generateTag random) ++ tailLines extraHeaders body ≠ [] :=
      List.cons_ne_nil _ _
    have hlines : lines (buildResponseWithBody request statusCode reason extraHeaders body (generateTag random)) =
        headLines request statusCode reason (generateTag random) ++
          lines ((tailLines extraHeaders body).flatMap (· ++ crlf) ++ crlf ++ body) := by
      rw [buildResponseWithBody_eq, joined_eq _ hne, List.flatMap_append, List.append_assoc, List.append_assoc,
        lines_flatMap_crlf _ hlf, ← List.append_assoc]
    rw [headLines_eq] at hlines
    exact ⟨_, _, _, hlines⟩

/-- The lines behind it are one line each, and give the length of the body, and others the extra headers give. -/
theorem tailLines_spec (hextra : ∀ h ∈ extraHeaders, '\n' ∉ h.1 ∧ '\n' ∉ h.2) (hbody : byteLen body < 2 ^ 64) :
    (∀ l ∈ tailLines extraHeaders body, '\n' ∉ l ∧ l ≠ []) ∧
      (Announces (tailLines extraHeaders body) (byteLen body) ↔ SameLength extraHeaders (byteLen body)) := by
  have htype : ∀ l ∈ (if body.isEmpty then [] else [contentTypeLine]), l = contentTypeLine := by
    intro l hl
    split at hl
    · cases hl
    · exact List.mem_singleton.mp hl
  have hlengths : lengthsOf (tailLines extraHeaders body) =
      lengthsOf (extraHeaders.map headerLine) ++ [some (byteLen body)] := by
    have hnone : lengthsOf (if body.isEmpty then [] else [contentTypeLine]) = [] :=
      lengthsOf_eq_nil.mpr fun l hl => htype l hl ▸ by decide
    rw [tailLines, lengthsOf_append, lengthsOf_append, hnone, lengthsOf_cons, lengthField_contentLengthLine hbody]
    simp [lengthsOf_nil, parseUnsigned_showNat hbody]
  constructor
  · intro l hl
    simp only [tailLines, List.mem_append, List.mem_map, List.mem_singleton] at hl
    rcases hl with ⟨h, hh, rfl⟩ | hl | rfl
    · unfold headerLine
      refine ⟨?_, by simp⟩
      simp only [List.mem_append, not_or]
      exact ⟨⟨(hextra h hh).1, by decide⟩, (hextra h hh).2⟩
    · rw [htype l hl]
      decide
    · exact ⟨contentLengthLine_lf _, fun hnil => trim_contentLengthLine_ne _ (by rw [hnil]; rfl)⟩
  · rw [Announces, hlengths]
    constructor
    · rintro ⟨hall, -⟩ h hh v hv
      exact hall _ (List.mem_append_left _ (mem_lengthsOf.mpr ⟨_, List.mem_map_of_mem hh, v, hv, rfl⟩))
    · intro hsame
      refine ⟨fun x hx => ?_, fun hnil => absurd hnil (by simp)⟩
      rcases List.mem_append.mp hx with hx | hx
      · obtain ⟨l, hl, v, hv, rfl⟩ := mem_lengthsOf.mp hx
        obtain ⟨h, hh, rfl⟩ := List.mem_map.mp hl
        exact hsame h hh v hv
      · exact List.mem_singleton.mp hx

/-- A text whose first lines are filled and give no length. -/
theorem frame_filled_iff {front : List Str} (hne : front ≠ [])
    (hfront : ∀ l ∈ front, '\n' ∉ l ∧ l ≠ [] ∧ lengthField l = none)
    (hextra : ∀ h ∈ extraHeaders, '\n' ∉ h.1 ∧ '\n' ∉ h.2)
    (hsize : byteLen (joined (front ++ tailLines extraHeaders body) body) < 2 ^ 64) :
    bodyOf (joined (front ++ tailLines extraHeaders body) body) = body ∧
    (frameSipMessage (utf8 (joined (front ++ tailLines extraHeaders body) body)) =
        .ok (.complete (byteLen (joined (front ++ tailLines extraHeaders body) body))) ↔
      SameLength extraHeaders (byteLen body)) := by
  have hbody : byteLen body < 2 ^ 64 := by
    rw [joined, byteLen_append] at hsize
    omega
  obtain ⟨htail, hsame⟩ := tailLines_spec hextra hbody
  have hline : ∀ l ∈ front ++ tailLines extraHeaders body, '\n' ∉ l ∧ l ≠ [] := fun l hl =>
    (List.mem_append.mp hl).elim (fun h => ⟨(hfront l h).1, (hfront l h).2.1⟩) (htail l)
  have hjoined : front ++ tailLines extraHeaders body ≠ [] := List.append_ne_nil_of_left_ne_nil hne _
  refine ⟨bodyOf_joined body hjoined (fun l hl => (hline l hl).1) fun l hl => (hline l hl).2, ?_⟩
  rw [frame_joined_iff hjoined (fun l hl => (hline l hl).1) (fun l hl => (hline l hl).2) hsize, ← hsame, Announces,
    Announces, lengthsOf_append, lengthsOf_eq_nil.mpr fun l hl => (hfront l hl).2.2, List.nil_append]

/-- **A response is one message** iff no place stays empty and no extra header gives another length. -/
theorem response_framed_iff (hreason : '\n' ∉ reason) (hextra : ∀ h ∈ extraHeaders, '\n' ∉ h.1 ∧ '\n' ∉ h.2)
    (hsize : byteLen (buildResponseWithBody request statusCode reason extraHeaders body (generateTag random)) < 2 ^ 64) :
    frameSipMessage (utf8 (buildResponseWithBody request statusCode reason extraHeaders body (generateTag random))) =
        .ok (.complete (byteLen
          (buildResponseWithBody request statusCode reason extraHeaders body (generateTag random)))) ↔
      Answerable request statusCode ∧ SameLength extraHeaders (byteLen body) := by
  rw [buildResponseWithBody_eq] at hsize ⊢
  have hjoined : headLines request statusCode reason (generateTag random) ≠ [] := List.cons_ne_nil _ _
  obtain ⟨hhead, hanswer⟩ := headLines_spec request statusCode hreason random
  rw [← hanswer]
  by_cases hfull : ∀ l ∈ headLines request statusCode reason (generateTag random), l ≠ []
  · rw [(frame_filled_iff hjoined (fun l hl => ⟨(hhead l hl).1, hfull l hl, (hhead l hl).2⟩) hextra
      hsize).2]
    exact (and_iff_right hfull).symm
  · refine iff_of_false ?_ fun h => hfull h.1
    have hempty : [] ∈ headLines request statusCode reason (generateTag random) := by
      by_contra hnot
      exact hfull fun l hl hnil => hnot (hnil ▸ hl)
    obtain ⟨front, behind, hcut, hfront⟩ := List.eq_append_cons_of_mem hempty
    have hne : front ≠ [] := by
      rintro rfl
      have hstatus : statusLine statusCode reason = [] := (List.cons.inj hcut).1
      cases hstatus
    have hmem : ∀ l ∈ front, l ∈ headLines request statusCode reason (generateTag random) := fun l hl =>
      hcut ▸ List.mem_append_left _ hl
    rw [hcut, List.append_assoc, List.cons_append] at hsize ⊢
    exact not_framed_of_empty hne (fun l hl => (hhead l (hmem l hl)).1) (fun l hl hnil => hfront (hnil ▸ hl))
      (fun l hl => (hhead l (hmem l hl)).2) hsize

end

/-- **Responses are one message** iff the request has the headers that are copied, and no extra header gives
another length. -/
theorem responses_framed_iff (request : Str) (statusCode : Nat) (reason : Str) (extraHeaders : List (Str × Str))
    (body : Str) (random : Vector UInt8 8) (hreason : '\n' ∉ reason)
    (hextra : ∀ h ∈ extraHeaders, '\n' ∉ h.1 ∧ '\n' ∉ h.2)
    (hsize : ∀ text ∈ [buildResponse request statusCode reason (generateTag random),
        buildResponseWithHeaders request statusCode reason extraHeaders (generateTag random),
        buildResponseWithBody request statusCode reason extraHeaders body (generateTag random)],
      byteLen text < 2 ^ 64) :
    (frameSipMessage (utf8 (buildResponse request statusCode reason (generateTag random))) =
        .ok (.complete (byteLen (buildResponse request statusCode reason (generateTag random)))) ↔
      Answerable request statusCode) ∧
    (frameSipMessage (utf8 (buildResponseWithHeaders request statusCode reason extraHeaders (generateTag random))) =
        .ok (.complete (byteLen
          (buildResponseWithHeaders request statusCode reason extraHeaders (generateTag random)))) ↔
      Answerable request statusCode ∧ SameLength extraHeaders 0) ∧
    (frameSipMessage (utf8
        (buildResponseWithBody request statusCode reason extraHeaders body (generateTag random))) =
        .ok (.complete (byteLen
          (buildResponseWithBody request statusCode reason extraHeaders body (generateTag random)))) ↔
      Answerable request statusCode ∧ SameLength extraHeaders (byteLen body)) := by
  simp only [List.mem_cons, List.not_mem_nil, or_false, forall_eq_or_imp, forall_eq] at hsize
  obtain ⟨hplain, hheaders, hbody⟩ := hsize
  rw [buildResponse_eq] at hplain ⊢
  rw [buildResponseWithHeaders_eq] at hheaders ⊢
  refine ⟨?_, response_framed_iff hreason hextra hheaders, response_framed_iff hreason hextra hbody⟩
  have hnone : ∀ h ∈ ([] : List (Str × Str)), '\n' ∉ h.1 ∧ '\n' ∉ h.2 := by decide
  rw [response_framed_iff hreason hnone hplain]
  exact and_iff_left fun h hh => absurd hh List.not_mem_nil

/-- A request that has them all, in full and compact form. -/
theorem responses_framed_concrete :
    let request := "OPTIONS sip:a SIP/2.0\r\nv: X\r\nFrom: a\r\nt: b\r\ni: c\r\nCSeq: 1 OPTIONS\r\n\r\n".toList
    let tag := generateTag (Vector.replicate 8 7)
    let text := buildResponseWithBody request 200 "OK".toList [("Allow".toList, "BYE".toList)] "v=0".toList tag
    frameSipMessage (utf8 text) = .ok (.complete (byteLen text)) :=
  (responses_framed_iff _ 200 _ _ _ (Vector.replicate 8 7) (by decide) (by decide) (by decide +kernel)).2.2.mpr
    ⟨⟨by decide +kernel, .inl (by decide), by decide +kernel, by decide +kernel⟩, by
      intro h hh v hv
      have hnone : lengthField (headerLine ("Allow".toList, "BYE".toList)) = none := by decide +kernel
      rw [List.mem_singleton.mp hh, hnone] at hv
      cases hv⟩

/-- A request without a `From` header: the answer ends in front of its `To`. -/
theorem response_cut :
    let request := "INFO sip:a SIP/2.0\r\nVia: X\r\nTo: b\r\nCall-ID: c\r\nCSeq: 1 INFO\r\n\r\n".toList
    let text := buildResponse request 405 "Method Not Allowed".toList (generateTag (Vector.replicate 8 7))
    extractMethod request = some "INFO".toList ∧ byteLen text = 117 ∧
      frameSipMessage (utf8 text) = .ok (.complete 42) := by
  decide +kernel

end Minghe.Sip
