import Minghe.Sip.Registrar

/-!
# Requests on their way out

Model of the functions of `router.rs` that rewrite the text of a request before it is sent on:
`build_outbound_request_with_from`, which gives the request a new target, a new `Via`, `Contact` and
perhaps `From`, and `rebuild_request_with_sdp`, which gives it another body.

`build_outbound_request_with_from` reads headers up to the first line of white space, and takes the
body from behind the first empty line; a request whose start line has not exactly three parts it
returns as it is. `outboundLines` are the lines it writes in front of the body.

Results:
* `rewriteLine_cases`: what becomes of a header line, by its name.
* `buildOutboundRequestWithFrom_eq`, `rebuildRequestWithSdp_eq`: neither ever panics, and what they
  return.
-/

namespace Minghe.Sip

open Minghe.Lib

/-! ## The source -/

/-- The headers that `strip_unsupported_negotiation_header` drops. -/
def sessionTimerNames : List Str := ["session-expires".toList, "x".toList, "min-se".toList]

/-- The headers from which it takes option tags. -/
def optionTagNames : List Str :=
  ["supported".toList, "k".toList, "require".toList, "proxy-require".toList]

/-- `strip_unsupported_negotiation_header`. -/
def stripUnsupportedNegotiationHeader (line : Str) : Option Str :=
  match splitOnce ':' line with
  | none => some line
  | some (name, value) =>
    let name := trim name
    let nameLower := toAsciiLowercase name
    if nameLower ∈ sessionTimerNames then none
    else if nameLower ∈ optionTagNames then
      let optionTags := ((value.splitOn ',').map trim).filter fun tag =>
        !tag.isEmpty && !eqIgnoreAsciiCase tag "timer".toList &&
          !eqIgnoreAsciiCase tag "100rel".toList
      if optionTags.isEmpty then none
      else some (name ++ ": ".toList ++ List.intercalate ", ".toList optionTags)
    else some line

/-- The `From` header that names the authenticated caller, with the tag of the one it replaces. -/
def rewrittenFrom (authenticatedFrom trimmed : Str) : Str :=
  let tag := (((trimmed.splitOn ';').drop 1).map trim).find? fun p => decide ("tag=".toList <+: p)
  "From: <".toList ++ authenticatedFrom ++ ['>'] ++ tag.elim [] ([';'] ++ ·)

/-- `Contact: <uri>`. -/
def contactLine (uri : Str) : Str := "Contact: <".toList ++ uri ++ ['>']

/-- The `Via` header of the server. -/
def viaLine (transport : Transport) (domain : Str) (branch : Vector UInt8 8) : Str :=
  "Via: SIP/2.0/".toList ++ transport.viaToken ++ [' '] ++ domain ++ ";branch=".toList ++
    generateBranch branch

/-- What `build_outbound_request_with_from` makes of a header line. -/
def rewriteLine (contactUri authenticatedFrom line : Str) : List Str :=
  let trimmed := trim line
  if hasName viaNames trimmed then []
  else if hasName ["route:".toList] trimmed then []
  else if hasName ["record-route:".toList] trimmed then []
  else if hasName contactNames trimmed then
    if contactUri.isEmpty then [] else [contactLine contactUri]
  else if hasName fromNames trimmed then
    if authenticatedFrom.isEmpty then [line] else [rewrittenFrom authenticatedFrom trimmed]
  else (stripUnsupportedNegotiationHeader trimmed).toList

/-- The header lines in front of the first line of white space. -/
def headerLines (ls : List Str) : List Str := ls.takeWhile fun l => !(trim l).isEmpty

/-- The lines that `build_outbound_request_with_from` writes in front of the body, from the parts of
the start line and the lines behind it. -/
def outboundLines (method version : Str) (rest : List Str)
    (targetUri domain contactUri authenticatedFrom : Str) (transport : Transport)
    (branch : Vector UInt8 8) : List Str :=
  [method ++ [' '] ++ targetUri ++ [' '] ++ version, viaLine transport domain branch] ++
  (headerLines rest).flatMap (rewriteLine contactUri authenticatedFrom) ++
  if contactUri.isEmpty || (headerLines rest).any fun l => hasName contactNames (trim l) then []
  else [contactLine contactUri]

/-- `build_outbound_request_with_from`. -/
def buildOutboundRequestWithFrom (request targetUri domain contactUri authenticatedFrom : Str)
    (transport : Transport) (branch : Vector UInt8 8) : Checked Str :=
  match lines request with
  | [] => .ok request
  | first :: rest =>
    match splitWhitespace first with
    | [method, _, version] =>
      if sipVersion <+: method then .ok request
      else do
        let body := (← extractBody request).getD []
        .ok (crlf.intercalate (outboundLines method version rest targetUri domain contactUri
          authenticatedFrom transport branch) ++ headerEnd ++ body)
    | _ => .ok request

/-- `build_outbound_request`. -/
def buildOutboundRequest (request targetUri domain contactUri : Str) (transport : Transport)
    (branch : Vector UInt8 8) : Checked Str :=
  buildOutboundRequestWithFrom request targetUri domain contactUri [] transport branch

/-- `Content-Length: n`. -/
def contentLengthLine (n : Nat) : Str := "Content-Length: ".toList ++ showNat n

/-- The `Content-Type` that an INVITE without one gets. -/
def contentTypeLine : Str := "Content-Type: application/sdp".toList

/-- What `rebuild_request_with_sdp` makes of a header line. It compares the name with the line as it
stands, white space in front of it included. -/
def rebuiltLine (sdpLength : Nat) (line : Str) : Str :=
  if hasName contentLengthNames line then contentLengthLine sdpLength else line

/-- The header lines that `rebuild_request_with_sdp` writes, from those of the request. -/
def rebuiltLines (headers : List Str) (sdpLength : Nat) : List Str :=
  let newHeaders := headers.map (rebuiltLine sdpLength)
  let newHeaders :=
    if newHeaders.any (hasName ["content-type:".toList]) then newHeaders
    else newHeaders ++ [contentTypeLine]
  if newHeaders.any (hasName ["content-length:".toList]) then newHeaders
  else newHeaders ++ [contentLengthLine sdpLength]

/-- `rebuild_request_with_sdp`, before `into_bytes`. -/
def rebuildRequestWithSdp (request newSdp : Str) : Checked Str := do
  let headers ← Res.strTo request ((find headerEnd request).getD (byteLen request))
  .ok (crlf.intercalate (rebuiltLines (lines headers) (byteLen newSdp)) ++ headerEnd ++ newSdp)

/-- `server_contact_uri`. -/
def serverContactUri (extension domain : Str) (transport : Transport) : Str :=
  "sip:".toList ++ extension ++ ['@'] ++ domain ++ ";transport=".toList ++ transport.uriParam

/-- `registered_contact_uri`. -/
def registeredContactUri (extension domain : Str) (now : Nat) (registrar : RegistrarService) : Str :=
  match registrar.lookup now extension with
  | some reg => reg.contact
  | none => serverContactUri extension domain .tls

/-- `extract_called_extension`. -/
def extractCalledExtension (request : Str) : Checked (Option Str) := do
  let fromUri ← match extractRequestUri request with
    | some uri => extractExtension uri
    | none => .ok none
  match fromUri with
  | some ext => return some ext
  | none =>
    match ← extractUriFromHeader request "To".toList with
    | some uri => extractExtension uri
    | none => return none

/-! ## What is returned -/

/-- The start line's method and version, if it has exactly three parts and is not a status line. -/
def startLine (request : Str) : Option (Str × Str) :=
  match splitWhitespace ((lines request).headD []) with
  | [method, _, version] => if sipVersion <+: method then none else some (method, version)
  | _ => none

/-- **What is sent on**: the request itself, or its new header lines and its body. -/
theorem buildOutboundRequestWithFrom_eq (request targetUri domain contactUri authenticatedFrom : Str)
    (transport : Transport) (branch : Vector UInt8 8) :
    buildOutboundRequestWithFrom request targetUri domain contactUri authenticatedFrom transport branch
      = .ok (match startLine request with
        | none => request
        | some (method, version) =>
          crlf.intercalate (outboundLines method version (lines request).tail targetUri domain
            contactUri authenticatedFrom transport branch) ++ headerEnd ++ bodyOf request) := by
  have hbody : (if (bodyOf request).isEmpty then none else some (bodyOf request)).getD []
      = bodyOf request := by
    cases bodyOf request <;> rfl
  unfold buildOutboundRequestWithFrom startLine
  cases hl : lines request with
  | nil => rfl
  | cons first rest =>
    simp only [List.headD_cons, List.tail_cons]
    split
    · split
      · rfl
      · rw [extractBody_eq]
        simp only [bind, Except.bind, hbody]
    · rfl

/-- The header part of a request: what stands in front of the first empty line, or all of it. -/
def headOf (request : Str) : Str := ((splitAtFirst headerEnd request).map Prod.fst).getD request

theorem rebuildRequestWithSdp_eq (request newSdp : Str) :
    rebuildRequestWithSdp request newSdp = .ok (crlf.intercalate
      (rebuiltLines (lines (headOf request)) (byteLen newSdp)) ++ headerEnd ++ newSdp) := by
  have hcut : (Res.strTo request ((find headerEnd request).getD (byteLen request)) : Checked Str)
      = .ok (headOf request) := by
    unfold find headOf
    cases h : splitAtFirst headerEnd request with
    | none =>
      have := Res.strTo_append (E := Empty) request []
      rwa [List.append_nil] at this
    | some p =>
      obtain ⟨head, rest⟩ := p
      obtain ⟨hp, -⟩ := splitAtFirst_eq_some h
      conv_lhs => rw [hp]
      exact Res.strTo_append head rest
  rw [rebuildRequestWithSdp, hcut]
  rfl

/-! ## What becomes of a header line -/

/-- The names of the headers that are dropped or replaced, `From` apart. -/
def replacedFields : List Str :=
  ["via", "v", "route", "record-route", "contact", "m"].map String.toList

/-- The names of the `From` header. -/
def fromFields : List Str := ["from".toList, "f".toList]

theorem hasName_from (trimmed : Str) :
    hasName fromNames trimmed = true ↔ ∃ q ∈ fromFields, fieldName trimmed = some q :=
  hasName_iff fromFields rfl (by decide) (by decide) trimmed

/-- **What becomes of a header line**: it is dropped or replaced by `Contact`, or it is `From`, or it
goes through `strip_unsupported_negotiation_header`. -/
theorem rewriteLine_cases (contactUri authenticatedFrom line : Str) :
    (∃ q ∈ replacedFields, fieldName (trim line) = some q ∧
      (rewriteLine contactUri authenticatedFrom line = [] ∨
        rewriteLine contactUri authenticatedFrom line = [contactLine contactUri])) ∨
    (∃ q ∈ fromFields, fieldName (trim line) = some q ∧
      rewriteLine contactUri authenticatedFrom line =
        if authenticatedFrom.isEmpty then [line] else [rewrittenFrom authenticatedFrom (trim line)]) ∨
    (hasName fromNames (trim line) = false ∧ rewriteLine contactUri authenticatedFrom line =
      (stripUnsupportedNegotiationHeader (trim line)).toList) := by
  have hreplaced : ∀ {names : List Str} (qs : List Str), names = fieldNames qs → (∀ p ∈ names, Plain p) →
      (∀ q ∈ qs, ':' ∉ q ∧ q ∈ replacedFields) → hasName names (trim line) = true →
      ∃ q ∈ replacedFields, fieldName (trim line) = some q := by
    intro names qs hn hp hq h
    obtain ⟨q, hmem, hname⟩ := (hasName_iff qs hn hp (fun q h => (hq q h).1) _).mp h
    exact ⟨q, (hq q hmem).2, hname⟩
  unfold rewriteLine
  simp only
  by_cases hvia : hasName viaNames (trim line) = true
  · obtain ⟨q, hq, hname⟩ := hreplaced ["via".toList, "v".toList] rfl (by decide) (by decide) hvia
    exact .inl ⟨q, hq, hname, .inl (if_pos hvia)⟩
  rw [if_neg hvia]
  by_cases hroute : hasName ["route:".toList] (trim line) = true
  · obtain ⟨q, hq, hname⟩ := hreplaced ["route".toList] rfl (by decide) (by decide) hroute
    exact .inl ⟨q, hq, hname, .inl (if_pos hroute)⟩
  rw [if_neg hroute]
  by_cases hrecord : hasName ["record-route:".toList] (trim line) = true
  · obtain ⟨q, hq, hname⟩ := hreplaced ["record-route".toList] rfl (by decide) (by decide) hrecord
    exact .inl ⟨q, hq, hname, .inl (if_pos hrecord)⟩
  rw [if_neg hrecord]
  by_cases hcontact : hasName contactNames (trim line) = true
  · obtain ⟨q, hq, hname⟩ := hreplaced ["contact".toList, "m".toList] rfl (by decide) (by decide)
      hcontact
    rw [if_pos hcontact]
    refine .inl ⟨q, hq, hname, ?_⟩
    split
    · exact .inl rfl
    · exact .inr rfl
  rw [if_neg hcontact]
  by_cases hfrom : hasName fromNames (trim line) = true
  · obtain ⟨q, hq, hname⟩ := (hasName_from _).mp hfrom
    exact .inr (.inl ⟨q, hq, hname, if_pos hfrom⟩)
  · rw [if_neg hfrom]
    exact .inr (.inr ⟨Bool.eq_false_iff.mpr hfrom, rfl⟩)

/-- What `strip_unsupported_negotiation_header` does: it keeps a line, or the line has one of its
names and is dropped or written anew. -/
theorem strip_cases (t : Str) : stripUnsupportedNegotiationHeader t = some t ∨
    ∃ a b, splitOnce ':' t = some (a, b) ∧
      toAsciiLowercase (trim a) ∈ sessionTimerNames ++ optionTagNames ∧
      (stripUnsupportedNegotiationHeader t = none ∨
        ∃ tags : List Str, (∀ tag ∈ tags, ∀ c ∈ tag, c ∈ b) ∧ stripUnsupportedNegotiationHeader t =
          some (trim a ++ ':' :: ' ' :: List.intercalate ", ".toList tags)) := by
  unfold stripUnsupportedNegotiationHeader
  cases h : splitOnce ':' t with
  | none => exact .inl rfl
  | some p =>
    obtain ⟨a, b⟩ := p
    simp only
    split
    · rename_i hmem
      exact .inr ⟨a, b, rfl, List.mem_append_left _ hmem, .inl rfl⟩
    · split
      · rename_i hmem
        refine .inr ⟨a, b, rfl, List.mem_append_right _ hmem, ?_⟩
        split
        · exact .inl rfl
        · refine .inr ⟨_, fun tag htag c hc => ?_, by rw [List.append_assoc]; rfl⟩
          obtain ⟨l, hl, rfl⟩ := List.mem_map.mp (List.mem_of_mem_filter htag)
          rw [List.splitOn_eq_splitOnP] at hl
          exact mem_of_mem_splitOnP hl (mem_of_mem_trim hc)
      · exact .inl rfl

/-- The name of a line that it wrote anew. -/
theorem fieldName_stripped {a : Str} (v : Str) (ha : ':' ∉ a)
    (hmem : toAsciiLowercase (trim a) ∈ sessionTimerNames ++ optionTagNames) :
    fieldName (trim (trim a ++ ':' :: v)) = some (toAsciiLowercase (trim a)) := by
  have hne : trim a ≠ [] := by
    intro h
    rw [h] at hmem
    exact absurd hmem (by decide)
  have hhead : ∀ c ∈ (trim a).head?, isWhitespace c = false := by
    rcases trim_cases a with h | ⟨c, n, h, hc, -⟩
    · exact absurd h hne
    · rw [h]
      rintro d ⟨rfl⟩
      exact hc
  rw [fieldName, splitOnce_trim v hne hhead fun hx => ha (mem_of_mem_trim hx)]
  rfl

theorem contactLine_eq (uri : Str) :
    contactLine uri = "Contact".toList ++ ':' :: (" <".toList ++ uri ++ ['>']) := by
  have hstart : "Contact: <".toList = "Contact".toList ++ ':' :: " <".toList := by decide
  show "Contact: <".toList ++ uri ++ ['>'] = _
  rw [hstart]
  simp only [List.append_assoc, List.cons_append]

theorem viaLine_eq (transport : Transport) (domain : Str) (branch : Vector UInt8 8) :
    viaLine transport domain branch = "Via".toList ++ ':' :: (" SIP/2.0/".toList ++
      transport.viaToken ++ [' '] ++ domain ++ ";branch=".toList ++ generateBranch branch) := by
  have hstart : "Via: SIP/2.0/".toList = "Via".toList ++ ':' :: " SIP/2.0/".toList := by decide
  show "Via: SIP/2.0/".toList ++ transport.viaToken ++ [' '] ++ domain ++ ";branch=".toList ++
    generateBranch branch = _
  rw [hstart]
  simp only [List.append_assoc, List.cons_append]

/-- The header for the authenticated caller: its URI in brackets, and perhaps a tag from the header
that it replaces. -/
theorem rewrittenFrom_eq (uri trimmed : Str) : ∃ tag : Str, (∀ c ∈ tag, c = ';' ∨ c ∈ trimmed) ∧
    rewrittenFrom uri trimmed = "From".toList ++ ':' :: (" <".toList ++ uri ++ '>' :: tag) := by
  have hstart : "From: <".toList = "From".toList ++ ':' :: " <".toList := by decide
  cases ht : (((trimmed.splitOn ';').drop 1).map trim).find? fun p => decide ("tag=".toList <+: p) with
  | none =>
    refine ⟨[], by simp, ?_⟩
    show "From: <".toList ++ uri ++ ['>'] ++ Option.elim (List.find? _ _) [] ([';'] ++ ·) = _
    rw [ht, hstart]
    simp only [Option.elim_none, List.append_assoc, List.cons_append, List.append_nil]
  | some tag =>
    refine ⟨';' :: tag, fun c hc => ?_, ?_⟩
    · rcases List.mem_cons.mp hc with rfl | hc
      · exact .inl rfl
      · obtain ⟨l, hl, rfl⟩ := List.mem_map.mp (List.mem_of_find?_eq_some ht)
        have hl' := List.mem_of_mem_drop hl
        rw [List.splitOn_eq_splitOnP] at hl'
        exact .inr (mem_of_mem_splitOnP hl' (mem_of_mem_trim hc))
    · show "From: <".toList ++ uri ++ ['>'] ++ Option.elim (List.find? _ _) [] ([';'] ++ ·) = _
      rw [ht, hstart]
      simp only [Option.elim_some, List.append_assoc, List.cons_append, List.nil_append]

theorem fieldName_contactLine (uri : Str) :
    fieldName (trim (contactLine uri)) = some "contact".toList := by
  have hlower : toAsciiLowercase "Contact".toList = "contact".toList := by decide
  rw [contactLine_eq, fieldName, splitOnce_trim (n := "Contact".toList) _ (by decide) (by decide)
    (by decide), Option.map_some, hlower]

theorem fieldName_viaLine (transport : Transport) (domain : Str) (branch : Vector UInt8 8) :
    fieldName (trim (viaLine transport domain branch)) = some "via".toList := by
  have hlower : toAsciiLowercase "Via".toList = "via".toList := by decide
  rw [viaLine_eq, fieldName, splitOnce_trim (n := "Via".toList) _ (by decide) (by decide) (by decide),
    Option.map_some, hlower]

theorem fieldName_rewrittenFrom (uri trimmed : Str) :
    fieldName (trim (rewrittenFrom uri trimmed)) = some "from".toList := by
  have hlower : toAsciiLowercase "From".toList = "from".toList := by decide
  obtain ⟨tag, -, h⟩ := rewrittenFrom_eq uri trimmed
  rw [h, fieldName, splitOnce_trim (n := "From".toList) _ (by decide) (by decide) (by decide),
    Option.map_some, hlower]

end Minghe.Sip
