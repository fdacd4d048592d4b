import Minghe.Lib.NoCase
import Minghe.Sip.Answer
import Minghe.Sip.Responses

/-!
# Forwarded responses as messages

`build_forwarded_invite_response` puts header lines of two texts, and a reason phrase of one of them, into a new
response. A header that is missing gets no line, so there is no empty one in front of the end of the header
section; and no line that is copied gives a length.

* `ForwardedLaw`: what is expected of the response.
* `forwarded_response_law`: a response that is passed on is one message, with the body it should have and
  with the headers that name the dialog as they were.
-/

namespace Minghe.Sip

open Minghe.Lib

/-- What stands in the place of `To`: the callee's header, or the caller's, or the contact. -/
def answeredTo (originalInvite calleeResponse contactUri : Str) : Str :=
  ((firstHeaderLine toNames calleeResponse).or (firstHeaderLine toNames originalInvite)).getD
    ("To: <".toList ++ contactUri ++ ['>'])

/-- What is expected of a response `text` that is forwarded to the caller. -/
structure ForwardedLaw (originalInvite calleeResponse contactUri body text : Str) : Prop where
  framed : frameSipMessage (utf8 text) = .ok (.complete (byteLen text))
  body : extractBody text = .ok (if body.isEmpty then none else some body)
  via : namedHeaderLines viaNames text = namedHeaderLines viaNames originalInvite
  fromHeader : namedHeaderLines fromNames text = (firstHeaderLine fromNames originalInvite).toList
  toHeader : namedHeaderLines toNames text = [answeredTo originalInvite calleeResponse contactUri]
  callId : namedHeaderLines callIdNames text = (firstHeaderLine callIdNames originalInvite).toList
  cseq : namedHeaderLines cseqNames text = (firstHeaderLine cseqNames originalInvite).toList

/-! ## Lines by their names -/

/-- A line with another name is no copied header. -/
theorem hasName_of_other {names : List Str} (h : names ∈ copiedNames) {l q : Str} (hname : fieldName l = some q)
    (hq : q ∈ lengthNames ++ ["content-type".toList, "contact".toList]) :
    hasName names l = false := by
  obtain ⟨qs, hn, hp, hcolon, hother⟩ := exists_fields h
  rw [Bool.eq_false_iff, ne_eq, hasName_iff qs hn hp hcolon]
  rintro ⟨q', hq', hname'⟩
  rw [hname] at hname'
  exact hother q' hq' (Option.some.inj hname' ▸ hq)

/-- The start line of a response is none. -/
theorem hasName_statusLine {names : List Str} (h : names ∈ copiedNames) (statusCode : Nat) (reason : Str) :
    hasName names (trim (statusLine statusCode reason)) = false := by
  have hplain : ∀ names ∈ copiedNames, ∀ p ∈ names, Plain p ∧ ¬ p <+: toAsciiLowercase sipVersion ∧
      ¬ toAsciiLowercase sipVersion <+: p := by decide
  refine List.any_eq_false.mpr fun p hp hpre => ?_
  obtain ⟨hplain, hnot⟩ := hplain names h p hp
  unfold statusLine at hpre
  rw [List.append_assoc, List.append_assoc, List.append_assoc, decide_eq_true_eq, startsWith_toLowercase _ hplain,
    ← startsWith_toAsciiLowercase] at hpre
  exact not_prefix_lower_trim (by decide) (by decide) hnot _ hpre

/-- Lines with one of the names, asked for one of the names. -/
theorem filter_named {names : List Str} (h : names ∈ copiedNames) (names' : List Str) (h' : names' ∈ copiedNames)
    {ls : List Str} (hls : ∀ l ∈ ls, hasName names' l = true) :
    ls.filter (hasName names) = if names = names' then ls else [] := by
  split
  · rename_i he
    subst he
    exact List.filter_eq_self.mpr hls
  · rename_i hne
    refine List.filter_eq_nil_iff.mpr fun l hl => ?_
    rw [hasName_unique h' h (Ne.symm hne) (hls l hl)]
    exact Bool.false_ne_true

/-- A header line of a message. -/
theorem of_mem_named {names : List Str} {msg l : Str} (h : l ∈ namedHeaderLines names msg) :
    l ≠ [] ∧ trim l = l ∧ '\n' ∉ l ∧ hasName names l = true := by
  obtain ⟨hmem, hname⟩ := List.mem_filter.mp h
  obtain ⟨hne, htrim, hlf⟩ := of_mem_headerSection (fun l hl => not_mem_of_mem_lines hl) hmem
  exact ⟨hne, htrim, hlf, hname⟩

theorem of_mem_first {names : List Str} {msg l : Str} (h : l ∈ (firstHeaderLine names msg).toList) :
    l ∈ namedHeaderLines names msg := List.mem_of_mem_head? (Option.mem_toList.mp h)

/-! ## The parts of the response -/

/-- A reason phrase is in one line. -/
theorem lf_not_mem_reasonPhrase (response : Str) : '\n' ∉ reasonPhrase response := by
  unfold reasonPhrase
  dsimp only
  cases hline : (lines response).head? with
  | none => decide
  | some line =>
    have hlf : '\n' ∉ line := not_mem_of_mem_lines (List.mem_of_mem_head? hline)
    rw [Option.bind_some]
    cases hfirst : splitOnce ' ' line with
    | none => decide
    | some p =>
      obtain ⟨rfl, -⟩ := splitOnce_eq_some.mp hfirst
      rw [Option.bind_some]
      cases hsecond : splitOnce ' ' p.2 with
      | none => decide
      | some q =>
        have hrest := (splitOnce_eq_some.mp hsecond).1
        rw [Option.map_some]
        have hreason : '\n' ∉ trim q.2 := fun hc => hlf (by
          rw [List.mem_append, List.mem_cons, hrest, List.mem_append, List.mem_cons]
          exact .inr (.inr (.inr (.inr (mem_of_mem_trim hc)))))
        have hunknown : '\n' ∉ "Unknown".toList := by decide
        cases hempty : (trim q.2).isEmpty with
        | true =>
          rw [Option.filter_some, hempty]
          exact hunknown
        | false =>
          rw [Option.filter_some, hempty]
          exact hreason

section

variable {contactUri body : Str}

/-- The `To` header is one. -/
theorem answeredTo_spec (originalInvite calleeResponse : Str) (hcontact : '\n' ∉ contactUri) :
    answeredTo originalInvite calleeResponse contactUri ≠ [] ∧
      trim (answeredTo originalInvite calleeResponse contactUri) =
        answeredTo originalInvite calleeResponse contactUri ∧
      '\n' ∉ answeredTo originalInvite calleeResponse contactUri ∧
      hasName toNames (answeredTo originalInvite calleeResponse contactUri) = true := by
  unfold answeredTo
  cases hcallee : firstHeaderLine toNames calleeResponse with
  | some l => exact of_mem_named (List.mem_of_mem_head? hcallee)
  | none =>
    rw [Option.none_or]
    cases hcaller : firstHeaderLine toNames originalInvite with
    | some l => exact of_mem_named (List.mem_of_mem_head? hcaller)
    | none =>
      have hname : startsNoCase "to:".toList ("To: <".toList ++ contactUri ++ ['>']) := by
        rw [List.append_assoc]
        exact startsNoCase_append (by decide) _
      have htrim : trim ("To: <".toList ++ contactUri ++ ['>']) = "To: <".toList ++ contactUri ++ ['>'] :=
        trim_append_of_not ("o: <".toList ++ contactUri) [] (by decide) (by decide)
      refine ⟨by simp, htrim, ?_, ?_⟩
      · simp only [Option.getD_none, List.mem_append, not_or]
        exact ⟨⟨by decide, hcontact⟩, by decide⟩
      · refine List.any_eq_true.mpr ⟨"to:".toList, by decide, decide_eq_true ?_⟩
        exact (startsWith_toLowercase _ (by decide)).mpr hname

/-- The copied lines. -/
def relayedHeaders (originalInvite calleeResponse contactUri : Str) : List Str :=
  namedHeaderLines viaNames originalInvite ++ ((firstHeaderLine fromNames originalInvite).toList ++
    ([answeredTo originalInvite calleeResponse contactUri] ++ ((firstHeaderLine callIdNames originalInvite).toList ++
      (firstHeaderLine cseqNames originalInvite).toList)))

/-- The `Contact` of a response that accepts the call. -/
def contactLines (statusCode : Nat) (contactUri : Str) : List Str :=
  if 200 ≤ statusCode ∧ statusCode < 300 then ["Contact: <".toList ++ contactUri ++ ['>']] else []

theorem buildForwardedInviteResponse_eq (originalInvite calleeResponse : Str) (statusCode : Nat)
    (reason contactUri body : Str) :
    buildForwardedInviteResponse originalInvite calleeResponse statusCode reason contactUri body =
      joined (statusLine statusCode reason :: (relayedHeaders originalInvite calleeResponse contactUri ++
        (contactLines statusCode contactUri ++ tailLines [] body))) body := by
  have htype : (if body.isEmpty then [] else "Content-Type: application/sdp\r\n".toList) =
      (if body.isEmpty then [] else [contentTypeLine]).flatMap (· ++ crlf) := by
    cases body.isEmpty <;> rfl
  rw [joined_eq body (List.cons_ne_nil _ _), List.flatMap_cons, List.flatMap_append, List.flatMap_append, tailLines,
    List.map_nil, List.nil_append, List.flatMap_append, ← htype]
  unfold buildForwardedInviteResponse relayedHeaders contactLines statusLine contentLengthLine answeredTo
  rw [show headerEnd = crlf ++ crlf from rfl]
  simp only [List.flatMap_append, List.flatMap_singleton, List.append_assoc]

/-- **The copied lines** are lines of a header section, and no lengths. -/
theorem relayedHeaders_spec (originalInvite calleeResponse : Str) (hcontact : '\n' ∉ contactUri) {l : Str}
    (h : l ∈ relayedHeaders originalInvite calleeResponse contactUri) :
    l ≠ [] ∧ trim l = l ∧ '\n' ∉ l ∧ lengthField l = none := by
  obtain ⟨names, hnames, hne, htrim, hlf, hname⟩ : ∃ names ∈ copiedNames, l ≠ [] ∧ trim l = l ∧ '\n' ∉ l ∧
      hasName names l = true := by
    simp only [relayedHeaders, List.mem_append, List.mem_singleton] at h
    rcases h with h | h | rfl | h | h
    · exact ⟨viaNames, by decide, of_mem_named h⟩
    · exact ⟨fromNames, by decide, of_mem_named (of_mem_first h)⟩
    · exact ⟨toNames, by decide, answeredTo_spec originalInvite calleeResponse hcontact⟩
    · exact ⟨callIdNames, by decide, of_mem_named (of_mem_first h)⟩
    · exact ⟨cseqNames, by decide, of_mem_named (of_mem_first h)⟩
  exact ⟨hne, htrim, hlf, lengthField_copied hnames htrim hname⟩

/-- A line `Contact: …` and one about the body are lines, and no copied headers. -/
theorem contactLines_spec (statusCode : Nat) (hcontact : '\n' ∉ contactUri) {l : Str}
    (h : l ∈ contactLines statusCode contactUri) :
    trim l ≠ [] ∧ '\n' ∉ l ∧ fieldName (trim l) = some "contact".toList := by
  unfold contactLines at h
  split at h
  · rw [List.mem_singleton] at h
    subst h
    have htrim : trim ("Contact: <".toList ++ contactUri ++ ['>']) = "Contact".toList ++ ':' ::
        (" <".toList ++ contactUri ++ ['>']) :=
      trim_append_of_not ("ontact: <".toList ++ contactUri) [] (by decide) (by decide)
    refine ⟨by rw [htrim]; simp, ?_, ?_⟩
    · simp only [List.mem_append, not_or]
      exact ⟨⟨by decide, hcontact⟩, by decide⟩
    · rw [htrim, fieldName, splitOnce_eq_some.mpr ⟨rfl, by decide⟩]
      rfl
  · cases h

/-- So are the lines about the body. -/
theorem bodyLines_spec {l : Str} (h : l ∈ tailLines [] body) :
    trim l ≠ [] ∧ ∃ q ∈ lengthNames ++ ["content-type".toList, "contact".toList], fieldName (trim l) = some q := by
  rw [tailLines, List.map_nil, List.nil_append, List.mem_append, List.mem_singleton] at h
  rcases h with h | rfl
  · have hl : l = contentTypeLine := by
      split at h
      · cases h
      · exact List.mem_singleton.mp h
    rw [hl]
    exact ⟨by decide, "content-type".toList, by decide, by decide⟩
  · refine ⟨trim_contentLengthLine_ne _, "content-length".toList, by decide, ?_⟩
    rw [contentLengthLine_eq, fieldName, splitOnce_trim _ (by decide) (by decide) (by decide)]
    rfl

/-- The header section of a text that is put together from lines. -/
theorem headerSection_joined {ls : List Str} (body : Str) (hne : ls ≠ []) (hlf : ∀ l ∈ ls, '\n' ∉ l)
    (hblank : ∀ l ∈ ls, trim l ≠ []) : headerSection (lines (joined ls body)) = ls.map trim := by
  have hstays : ∀ l ∈ ls.map trim, (!l.isEmpty) = true := by
    intro l hl
    obtain ⟨line, hline, rfl⟩ := List.mem_map.mp hl
    simpa using hblank line hline
  rw [lines_joined body hne hlf, headerSection, List.map_append, List.takeWhile_append_of_pos hstays]
  exact List.append_nil _

/-- **The copied headers of the response** are those that were copied. -/
theorem named_forwarded {names : List Str} (h : names ∈ copiedNames) (originalInvite calleeResponse : Str)
    (statusCode : Nat) {reason : Str} (hreason : '\n' ∉ reason) (hcontact : '\n' ∉ contactUri)
    (hbody : byteLen body < 2 ^ 64) : namedHeaderLines names
        (buildForwardedInviteResponse originalInvite calleeResponse statusCode reason contactUri body) =
      (relayedHeaders originalInvite calleeResponse contactUri).filter (hasName names) := by
  have hrelayed := fun {l} => relayedHeaders_spec (l := l) originalInvite calleeResponse hcontact
  have hstatus := statusLine_spec statusCode hreason
  have hlines : ∀ l ∈ statusLine statusCode reason :: (relayedHeaders originalInvite calleeResponse contactUri ++
      (contactLines statusCode contactUri ++ tailLines [] body)), '\n' ∉ l ∧ trim l ≠ [] := by
    intro l hl
    simp only [List.mem_cons, List.mem_append] at hl
    rcases hl with rfl | hl | hl | hl
    · exact ⟨hstatus.1, hstatus.2.2⟩
    · obtain ⟨hne, htrim, hlf, -⟩ := hrelayed hl
      exact ⟨hlf, htrim.symm ▸ hne⟩
    · obtain ⟨hblank, hlf, -⟩ := contactLines_spec statusCode hcontact hl
      exact ⟨hlf, hblank⟩
    · exact ⟨((tailLines_spec (fun h hh => absurd hh List.not_mem_nil) hbody).1 l hl).1, (bodyLines_spec hl).1⟩
  have hother : ∀ l ∈ (contactLines statusCode contactUri ++ tailLines [] body).map trim,
      ¬ hasName names l = true := by
    intro l hl
    obtain ⟨line, hline, rfl⟩ := List.mem_map.mp hl
    rw [Bool.not_eq_true]
    rcases List.mem_append.mp hline with hline | hline
    · exact hasName_of_other h (contactLines_spec statusCode hcontact hline).2.2 (by decide)
    · obtain ⟨q, hq, hname⟩ := (bodyLines_spec hline).2
      exact hasName_of_other h hname hq
  have htrimmed : (relayedHeaders originalInvite calleeResponse contactUri).map trim =
      relayedHeaders originalInvite calleeResponse contactUri :=
    (List.map_congr_left fun l hl => (hrelayed hl).2.1).trans (List.map_id _)
  rw [buildForwardedInviteResponse_eq, namedHeaderLines, headerSection_joined body (List.cons_ne_nil _ _)
    (fun l hl => (hlines l hl).1) (fun l hl => (hlines l hl).2), List.map_cons, List.map_append, htrimmed,
    List.filter_cons, if_neg (by rw [hasName_statusLine h]; exact Bool.false_ne_true), List.filter_append,
    List.filter_eq_nil_iff.mpr hother, List.append_nil]

/-- The copied headers, by the names. -/
theorem filter_relayedHeaders {names : List Str} (h : names ∈ copiedNames) (originalInvite calleeResponse : Str)
    (hcontact : '\n' ∉ contactUri) :
    (relayedHeaders originalInvite calleeResponse contactUri).filter (hasName names) =
      (if names = viaNames then namedHeaderLines viaNames originalInvite else []) ++
      ((if names = fromNames then (firstHeaderLine fromNames originalInvite).toList else []) ++
      ((if names = toNames then [answeredTo originalInvite calleeResponse contactUri] else []) ++
      ((if names = callIdNames then (firstHeaderLine callIdNames originalInvite).toList else []) ++
      if names = cseqNames then (firstHeaderLine cseqNames originalInvite).toList else []))) := by
  have hfirst : ∀ names' : List Str, ∀ l ∈ (firstHeaderLine names' originalInvite).toList, hasName names' l = true :=
    fun _ _ hl => (of_mem_named (of_mem_first hl)).2.2.2
  have hto : ∀ l ∈ [answeredTo originalInvite calleeResponse contactUri], hasName toNames l = true := fun l hl =>
    List.mem_singleton.mp hl ▸ (answeredTo_spec originalInvite calleeResponse hcontact).2.2.2
  rw [relayedHeaders, List.filter_append, List.filter_append, List.filter_append, List.filter_append,
    filter_named h viaNames (by decide) fun _ hl => (of_mem_named hl).2.2.2,
    filter_named h fromNames (by decide) (hfirst _), filter_named h toNames (by decide) hto,
    filter_named h callIdNames (by decide) (hfirst _),
    filter_named h cseqNames (by decide) (hfirst _)]

/-- **Forwarded responses** are one message, with the right body and headers. -/
theorem forwarded_response_law (originalInvite calleeResponse : Str) (statusCode : Nat) (contactUri body : Str)
    (hcontact : '\n' ∉ contactUri)
    (hsize : byteLen (buildForwardedInviteResponse originalInvite calleeResponse statusCode
      (reasonPhrase calleeResponse) contactUri body) < 2 ^ 64) :
    ForwardedLaw originalInvite calleeResponse contactUri body
      (buildForwardedInviteResponse originalInvite calleeResponse statusCode (reasonPhrase calleeResponse)
        contactUri body) := by
  have hreason := lf_not_mem_reasonPhrase calleeResponse
  have hbody : byteLen body < 2 ^ 64 := by
    rw [buildForwardedInviteResponse_eq, joined, byteLen_append] at hsize
    omega
  have hstatus := statusLine_spec statusCode hreason
  have hrelayed := fun {l} => relayedHeaders_spec (l := l) originalInvite calleeResponse hcontact
  -- what is in front of the lines about the body gives no length
  have hfront : ∀ l ∈ statusLine statusCode (reasonPhrase calleeResponse) ::
      (relayedHeaders originalInvite calleeResponse contactUri ++ contactLines statusCode contactUri),
      '\n' ∉ l ∧ l ≠ [] ∧ lengthField l = none := by
    intro l hl
    simp only [List.mem_cons, List.mem_append] at hl
    rcases hl with rfl | hl | hl
    · exact ⟨hstatus.1, List.cons_ne_nil _ _, hstatus.2.1⟩
    · obtain ⟨hne, -, hlf, hlength⟩ := hrelayed hl
      exact ⟨hlf, hne, hlength⟩
    · obtain ⟨hblank, hlf, hname⟩ := contactLines_spec statusCode hcontact hl
      exact ⟨hlf, fun hnil => hblank (by rw [hnil]; rfl), lengthField_of_name hname (by decide)⟩
  have hnamed := fun {names} (h : names ∈ copiedNames) =>
    (named_forwarded h originalInvite calleeResponse statusCode hreason hcontact hbody).trans
      (filter_relayedHeaders h originalInvite calleeResponse hcontact)
  have htext : buildForwardedInviteResponse originalInvite calleeResponse statusCode (reasonPhrase calleeResponse)
      contactUri body = joined ((statusLine statusCode (reasonPhrase calleeResponse) ::
        (relayedHeaders originalInvite calleeResponse contactUri ++ contactLines statusCode contactUri)) ++
          tailLines [] body) body := by
    rw [buildForwardedInviteResponse_eq, List.cons_append, List.append_assoc]
  have hnone : ∀ h ∈ ([] : List (Str × Str)), '\n' ∉ h.1 ∧ '\n' ∉ h.2 := fun h hh => absurd hh List.not_mem_nil
  have hframe := frame_filled_iff (List.cons_ne_nil _ _) hfront hnone (htext ▸ hsize)
  refine ⟨?_, ?_, (hnamed (by decide)).trans ?_, (hnamed (by decide)).trans ?_, (hnamed (by decide)).trans ?_,
    (hnamed (by decide)).trans ?_, (hnamed (by decide)).trans ?_⟩
  · rw [htext]
    exact hframe.2.mpr fun h hh => absurd hh List.not_mem_nil
  · rw [htext, extractBody_eq, hframe.1]
  -- each of the names is another one
  · rw [if_pos rfl, if_neg (by decide), if_neg (by decide), if_neg (by decide), if_neg (by decide)]
    exact List.append_nil _
  · rw [if_neg (by decide), if_pos rfl, if_neg (by decide), if_neg (by decide), if_neg (by decide)]
    exact List.append_nil _
  · rw [if_neg (by decide), if_neg (by decide), if_pos rfl, if_neg (by decide), if_neg (by decide)]
    rfl
  · rw [if_neg (by decide), if_neg (by decide), if_neg (by decide), if_pos rfl, if_neg (by decide)]
    exact List.append_nil _
  · rw [if_neg (by decide), if_neg (by decide), if_neg (by decide), if_neg (by decide), if_pos rfl]
    rfl

end

/-- A caller with compact names, and a callee that has no `From` and a long reason. -/
theorem forwarded_response_concrete :
    ForwardedLaw "INVITE sip:b@x SIP/2.0\r\nv: X\r\nv: Y\r\nf: a\r\nt: b\r\ni: c\r\nCSeq: 1 INVITE\r\n\r\n".toList
      "SIP/2.0 200 All is well\r\nTo: b;tag=1\r\n\r\nTo: z".toList "sip:b@x".toList "v=0\r\n\r\nl: 3\r\n".toList
      (buildForwardedInviteResponse
        "INVITE sip:b@x SIP/2.0\r\nv: X\r\nv: Y\r\nf: a\r\nt: b\r\ni: c\r\nCSeq: 1 INVITE\r\n\r\n".toList
        "SIP/2.0 200 All is well\r\nTo: b;tag=1\r\n\r\nTo: z".toList 200
        (reasonPhrase "SIP/2.0 200 All is well\r\nTo: b;tag=1\r\n\r\nTo: z".toList) "sip:b@x".toList
        "v=0\r\n\r\nl: 3\r\n".toList) :=
  forwarded_response_law _ _ 200 _ _ (by decide) (by decide +kernel)

end Minghe.Sip
