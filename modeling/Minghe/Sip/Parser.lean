import Minghe.Lib.Fields
import Minghe.Lib.Lines

/-!
# Reading and answering SIP messages

Model of `parser.rs`: what the server reads off the text of a message, and the responses it builds.

The source looks a header up by scanning all lines of a message, the ones behind the header section
included, and lowers a line before it compares its start with a name. Where it finds a position in the
lowered or in the whole value and then slices by it, the model slices by bytes too and may panic.
`generate_tag` and `generate_branch` take the eight random bytes as an argument.

Results:
* `hasName_iff`: the test for a header name is a test of the line's `fieldName`.
* `extractBody_eq`: the body is what follows the first empty line.
-/

namespace Minghe.Sip

open Minghe.Lib

/-- `CRLF CRLF`. -/
def headerEnd : Str := "\r\n\r\n".toList

/-- `"SIP/2.0"`. -/
def sipVersion : Str := "SIP/2.0".toList

/-- `lower.starts_with(name)` for one of the names, `lower` being the line in lower case. -/
def hasName (names : List Str) (trimmed : Str) : Bool :=
  names.any fun name => decide (name <+: toLowercase trimmed)

/-! ## Header names, with their compact forms -/

def viaNames : List Str := ["via:".toList, "v:".toList]
def fromNames : List Str := ["from:".toList, "f:".toList]
def toNames : List Str := ["to:".toList, "t:".toList]
def callIdNames : List Str := ["call-id:".toList, "i:".toList]
def contactNames : List Str := ["contact:".toList, "m:".toList]
def cseqNames : List Str := ["cseq:".toList]
def contentLengthNames : List Str := ["content-length:".toList, "l:".toList]

/-- The compact form of a header name, as `extract_uri_from_header` maps it. -/
def compactName (headerName : Str) : Option Str :=
  ([("from", "f:"), ("to", "t:"), ("contact", "m:"), ("via", "v:"), ("call-id", "i:")].find?
    fun p => decide (p.1.toList = toLowercase headerName)).map fun p => p.2.toList

/-! ## The first line -/

/-- `msg.lines().next()`, trimmed. -/
def firstLine (msg : Str) : Option Str := (lines msg).head?.map trim

/-- `is_request`. -/
def isRequest (msg : Str) : Bool :=
  match firstLine msg with
  | some l => !decide (sipVersion <+: l)
  | none => false

/-- `is_response`. -/
def isResponse (msg : Str) : Bool :=
  match firstLine msg with
  | some l => decide (sipVersion <+: l)
  | none => false

/-- `extract_method`. -/
def extractMethod (msg : Str) : Option Str := do
  let trimmed ← firstLine msg
  if sipVersion <+: trimmed then none
  else (splitWhitespace trimmed).head?.map toUppercase

/-- `extract_request_uri`. -/
def extractRequestUri (msg : Str) : Option Str := do
  let trimmed ← firstLine msg
  if sipVersion <+: trimmed then none else (splitWhitespace trimmed)[1]?

/-- `extract_status_code`. -/
def extractStatusCode (msg : Str) : Option Nat := do
  let trimmed ← firstLine msg
  if sipVersion <+: trimmed then (splitWhitespace trimmed)[1]?.bind (parseUnsigned 16) else none

/-! ## URIs -/

/-- `&value[start + 1..end]`, for the first `'<'` and the first `'>'`, if there are both. -/
def betweenBrackets (value : Str) : Checked (Option Str) :=
  match find ['<'] value, find ['>'] value with
  | some start, some stop => do return some (← Res.strRange value (start + 1) stop)
  | _, _ => .ok none

/-- The schemes that `extract_extension` takes off. -/
def uriSchemes : List Str := ["sip:".toList, "sips:".toList, "tel:".toList]

/-- `extract_extension`: the user part of a URI. -/
def extractExtension (uriStr : Str) : Checked (Option Str) := do
  let uriPart := (← betweenBrackets uriStr).getD uriStr
  let withoutScheme := (← Res.afterName uriSchemes uriPart).getD uriPart
  match find ['@'] withoutScheme with
  | some atPos =>
    let user := upTo (· == ';') (← Res.strTo withoutScheme atPos)
    return if user.isEmpty then none else some user
  | none =>
    let user := upTo (· == ';') withoutScheme
    return if !user.isEmpty && user.all Char.isDigit then some user else none

/-- The loop of `extract_uri_from_header`. -/
def uriFromLines (names : List Str) : List Str → Checked (Option Str)
  | [] => .ok none
  | line :: ls => do
    match ← Res.afterName names (trim line) with
    | none => uriFromLines names ls
    | some value =>
      match ← betweenBrackets value with
      | some uri => .ok (some uri)
      | none =>
        let uri := trim (upTo (· == ';') (trim value))
        if uri.isEmpty then uriFromLines names ls else .ok (some uri)

/-- `extract_uri_from_header`. -/
def extractUriFromHeader (msg headerName : Str) : Checked (Option Str) :=
  uriFromLines ((toLowercase headerName ++ [':']) :: (compactName headerName).toList) (lines msg)

/-- What `extract_contact_uri` reads from the value of a `Contact` header. -/
def contactValue (value : Str) : Checked Str := do
  match ← betweenBrackets value with
  | some uri => return uri
  | none =>
    let firstContact := trim (upTo (· == ',') value)
    let lowerContact := toAsciiLowercase firstContact
    let stop := [";expires=".toList, ";q=".toList].foldl
      (fun stop marker => (find marker lowerContact).elim stop (min stop)) (byteLen firstContact)
    return trim (← Res.strTo firstContact stop)

/-- The loop of `extract_contact_uri`. -/
def contactFromLines : List Str → Checked (Option Str)
  | [] => .ok none
  | line :: ls => do
    match ← Res.afterName contactNames (trim line) with
    | none => contactFromLines ls
    | some value => return some (← contactValue (trim value))

/-- `extract_contact_uri`. -/
def extractContactUri (request : Str) : Checked (Option Str) := contactFromLines (lines request)

/-! ## Header values -/

/-- The trimmed value of the first line that has one of the names. -/
def valueFromLines (names : List Str) : List Str → Checked (Option Str)
  | [] => .ok none
  | line :: ls => do
    match ← Res.afterName names (trim line) with
    | none => valueFromLines names ls
    | some value => return some (trim value)

/-- `extract_call_id`. -/
def extractCallId (msg : Str) : Checked (Option Str) := valueFromLines callIdNames (lines msg)

/-- `extract_header_value`, for a name in ASCII. -/
def extractHeaderValue (msg name : Str) : Checked (Option Str) :=
  valueFromLines [toLowercase name ++ [':']] (lines msg)

/-- The value of the parameter `key` in the first header with one of the names that has one. The
position is found in the lowered line. -/
def paramFromLines (names : List Str) (key : Str) : List Str → Checked (Option Str)
  | [] => .ok none
  | line :: ls =>
    let trimmed := trim line
    if hasName names trimmed then
      match find key (toLowercase trimmed) with
      | none => paramFromLines names key ls
      | some pos => do
        let value := upTo (fun c => c == ';' || c == ',' || isWhitespace c)
          (← Res.strFrom trimmed (pos + byteLen key))
        if value.isEmpty then paramFromLines names key ls else .ok (some value)
    else paramFromLines names key ls

/-- `extract_via_branch`. -/
def extractViaBranch (msg : Str) : Checked (Option Str) :=
  paramFromLines viaNames "branch=".toList (lines msg)

/-- `extract_from_tag`. -/
def extractFromTag (msg : Str) : Checked (Option Str) :=
  paramFromLines fromNames "tag=".toList (lines msg)

/-- `extract_to_tag`. -/
def extractToTag (msg : Str) : Checked (Option Str) :=
  paramFromLines toNames "tag=".toList (lines msg)

/-- The loop of `extract_cseq_method`. -/
def cseqMethodFromLines : List Str → Checked (Option Str)
  | [] => .ok none
  | line :: ls => do
    match ← Res.afterName cseqNames (trim line) with
    | none => cseqMethodFromLines ls
    | some value =>
      match (splitWhitespace (trim value))[1]? with
      | some method => return some (toUppercase method)
      | none => cseqMethodFromLines ls

/-- `extract_cseq_method`. -/
def extractCseqMethod (msg : Str) : Checked (Option Str) := cseqMethodFromLines (lines msg)

/-- The second loop of `extract_expires`, over the `Contact` headers. -/
def contactExpires : List Str → Checked (Option Nat)
  | [] => .ok none
  | line :: ls =>
    let trimmed := trim line
    if hasName contactNames trimmed then
      match find "expires=".toList (toLowercase trimmed) with
      | none => contactExpires ls
      | some pos => do
        let value := upTo (fun c => c == ';' || c == ',' || isWhitespace c || c == '>')
          (← Res.strFrom trimmed (pos + 8))
        return parseUnsigned 64 value
    else contactExpires ls

/-- `extract_expires`. -/
def extractExpires (msg : Str) : Checked (Option Nat) := do
  match ← valueFromLines ["expires:".toList] (lines msg) with
  | some value => return parseUnsigned 64 value
  | none => contactExpires (lines msg)

/-- `extract_body`. -/
def extractBody (msg : Str) : Checked (Option Str) :=
  match find headerEnd msg with
  | none => .ok none
  | some pos => do
    let body ← Res.strFrom msg (pos + 4)
    return if body.isEmpty then none else some body

/-! ## Generated names -/

/-- `generate_tag`, from its random bytes. -/
def generateTag (random : Vector UInt8 8) : Str := hexEncode random.toList

/-- `generate_branch`, from its random bytes. -/
def generateBranch (random : Vector UInt8 8) : Str := "z9hG4bK".toList ++ hexEncode random.toList

/-! ## Responses -/

/-- The headers that a response copies from the request. -/
structure CopiedHeaders where
  via : List Str := []
  fromHeader : Str := []
  toHeader : Str := []
  callId : Str := []
  cseq : Str := []
  deriving DecidableEq, Repr

/-- One line of the header section, trimmed. -/
def CopiedHeaders.add (h : CopiedHeaders) (trimmed : Str) : CopiedHeaders :=
  if hasName viaNames trimmed then { h with via := h.via ++ [trimmed] }
  else if hasName fromNames trimmed then { h with fromHeader := trimmed }
  else if hasName toNames trimmed then { h with toHeader := trimmed }
  else if hasName callIdNames trimmed then { h with callId := trimmed }
  else if hasName cseqNames trimmed then { h with cseq := trimmed }
  else h

/-- The trimmed lines in front of the first one that is only white space. -/
def headerSection (ls : List Str) : List Str := (ls.map trim).takeWhile fun l => !l.isEmpty

/-- The headers to copy, with a tag on `To`. -/
def copiedHeaders (request : Str) (statusCode : Nat) (tag : Str) : CopiedHeaders :=
  let h := (headerSection (lines request)).foldl CopiedHeaders.add {}
  if 100 < statusCode ∧ ¬ contains "tag=".toList (toLowercase h.toHeader) then
    { h with toHeader := h.toHeader ++ ";tag=".toList ++ tag }
  else h

/-- The lines of a response up to `CSeq`. -/
def responseHead (request : Str) (statusCode : Nat) (reason tag : Str) : Str :=
  let h := copiedHeaders request statusCode tag
  sipVersion ++ [' '] ++ showNat statusCode ++ [' '] ++ reason ++ crlf ++
    (h.via ++ [h.fromHeader, h.toHeader, h.callId, h.cseq]).flatMap (· ++ crlf)

/-- Extra headers, a line each. -/
def headerText (extraHeaders : List (Str × Str)) : Str :=
  extraHeaders.flatMap fun h => h.1 ++ ": ".toList ++ h.2 ++ crlf

/-- `build_response_with_headers`. -/
def buildResponseWithHeaders (request : Str) (statusCode : Nat) (reason : Str)
    (extraHeaders : List (Str × Str)) (tag : Str) : Str :=
  responseHead request statusCode reason tag ++ headerText extraHeaders ++
    "Content-Length: 0\r\n\r\n".toList

/-- `build_response`. -/
def buildResponse (request : Str) (statusCode : Nat) (reason tag : Str) : Str :=
  responseHead request statusCode reason tag ++ "Content-Length: 0\r\n\r\n".toList

/-- `build_response_with_body`. -/
def buildResponseWithBody (request : Str) (statusCode : Nat) (reason : Str)
    (extraHeaders : List (Str × Str)) (body tag : Str) : Str :=
  responseHead request statusCode reason tag ++ headerText extraHeaders ++
    (if body.isEmpty then [] else "Content-Type: application/sdp\r\n".toList) ++
    "Content-Length: ".toList ++ showNat (byteLen body) ++ headerEnd ++ body

/-! ## Facts -/

/-- The body of a message: what follows the first empty line. -/
def bodyOf (msg : Str) : Str := ((splitAtFirst headerEnd msg).map fun p => p.2.drop 4).getD []

/-- **`extract_body` never panics.** -/
theorem extractBody_eq (msg : Str) :
    extractBody msg = .ok (if (bodyOf msg).isEmpty then none else some (bodyOf msg)) := by
  unfold extractBody bodyOf find
  cases h : splitAtFirst headerEnd msg with
  | none => rfl
  | some p =>
    obtain ⟨head, rest⟩ := p
    obtain ⟨rfl, body, rfl⟩ := splitAtFirst_eq_some h
    have hcut : (Res.strFrom (head ++ (headerEnd ++ body)) (byteLen head + 4) : Checked Str)
        = .ok body := by
      have := Res.strFrom_append (E := Empty) (head ++ headerEnd) body
      rwa [byteLen_append, show byteLen headerEnd = 4 from by decide, List.append_assoc] at this
    simp only [Option.map_some, Option.getD_some, hcut]
    rfl

/-- What stands between the brackets has no closing one. -/
theorem mem_of_betweenBrackets {value uri : Str} (h : betweenBrackets value = .ok (some uri)) :
    (∀ c ∈ uri, c ∈ value) ∧ '>' ∉ uri := by
  unfold betweenBrackets at h
  split at h
  · rename_i start stop hstart hstop
    obtain ⟨u, hu, he⟩ := Res.bind_eq_ok.mp h
    cases he
    unfold Res.strRange at hu
    split at hu
    · obtain ⟨front, hfront, hcut⟩ := Res.bind_eq_ok.mp hu
      rw [find_char] at hstop
      obtain ⟨⟨a, b⟩, hs, rfl⟩ := Option.map_eq_some_iff.mp hstop
      obtain ⟨rfl, hnot⟩ := splitOnce_eq_some.mp hs
      rw [Res.strTo_append] at hfront
      cases hfront
      have hmem := mem_of_strFrom hcut
      exact ⟨fun c hc => List.mem_append_left _ (hmem c hc), fun hc => hnot (hmem _ hc)⟩
    · cases hu
  · cases h

/-- The value of a `Contact` header is part of it. -/
theorem mem_of_contactValue {value uri : Str} (h : contactValue value = .ok uri) :
    ∀ c ∈ uri, c ∈ value := by
  unfold contactValue at h
  obtain ⟨found, hfound, h⟩ := Res.bind_eq_ok.mp h
  cases found with
  | some u =>
    cases h
    exact (mem_of_betweenBrackets hfound).1
  | none =>
    obtain ⟨front, hfront, h⟩ := Res.bind_eq_ok.mp h
    cases h
    exact fun c hc => (mem_of_upTo (mem_of_mem_trim (mem_of_strTo hfront c (mem_of_mem_trim hc)))).1

/-- A contact stands in one line of the request. -/
theorem mem_of_contactFromLines : ∀ {ls : List Str} {uri : Str}, contactFromLines ls = .ok (some uri) →
    ∃ l ∈ ls, ∀ c ∈ uri, c ∈ l
  | [], uri, h => by cases h
  | line :: ls, uri, h => by
    unfold contactFromLines at h
    obtain ⟨value, hvalue, h⟩ := Res.bind_eq_ok.mp h
    cases value with
    | none =>
      obtain ⟨l, hl, hmem⟩ := mem_of_contactFromLines h
      exact ⟨l, List.mem_cons_of_mem _ hl, hmem⟩
    | some value =>
      obtain ⟨u, hu, h⟩ := Res.bind_eq_ok.mp h
      cases h
      exact ⟨line, List.mem_cons_self, fun c hc =>
        mem_of_mem_trim (mem_of_afterName hvalue c (mem_of_mem_trim (mem_of_contactValue hu c hc)))⟩

/-- **The status of a response** is read back. -/
theorem extractStatusCode_responseHead {request reason tag s : Str} {statusCode : Nat} (hreason : '\n' ∉ reason)
    (hstatus : statusCode < 2 ^ 16) :
    extractStatusCode (responseHead request statusCode reason tag ++ s) = some statusCode := by
  have hdigits : ∀ c ∈ showNat statusCode, isWhitespace c = false :=
    isWhitespace_of_parseUnsigned (parseUnsigned_showNat hstatus)
  have hne : showNat statusCode ≠ [] := fun hnil => by
    have hread := parseUnsigned_showNat hstatus
    rw [hnil] at hread
    cases hread
  have hversion : sipVersion ≠ [] ∧ ∀ c ∈ sipVersion, isWhitespace c = false := by decide
  have hl : '\n' ∉ sipVersion ++ [' '] ++ showNat statusCode ++ [' '] ++ reason := by
    simp only [List.mem_append, not_or]
    exact ⟨⟨⟨⟨by decide, by decide⟩, fun hc => absurd (hdigits _ hc) (by decide)⟩, by decide⟩, hreason⟩
  have hfirst : firstLine (responseHead request statusCode reason tag ++ s) =
      some (trim (sipVersion ++ [' '] ++ showNat statusCode ++ [' '] ++ reason)) := by
    unfold responseHead
    rw [firstLine, crlf_eq, List.append_assoc, List.append_assoc]
    exact congrArg (fun ls : List Str => ls.head?.map trim) (lines_crlf _ hl)
  have hwords : splitWhitespace (trim (sipVersion ++ [' '] ++ showNat statusCode ++ [' '] ++ reason)) =
      sipVersion :: showNat statusCode :: splitWhitespace reason := by
    have hblank : ∀ c ∈ [' '], isWhitespace c = true := by decide
    rw [splitWhitespace_trim]
    simp only [List.append_assoc]
    rw [splitWhitespace_word hversion.1 hversion.2 (by simp; decide), splitWhitespace_skip _ hblank,
      splitWhitespace_word hne hdigits (by simp; decide), splitWhitespace_skip _ hblank]
  have hprefix : sipVersion <+: trim (sipVersion ++ [' '] ++ showNat statusCode ++ [' '] ++ reason) := by
    simp only [List.append_assoc]
    rw [trim_word_append hversion.1 hversion.2]
    exact List.prefix_append _ _
  unfold extractStatusCode
  rw [hfirst]
  show (if sipVersion <+: _ then _ else none) = _
  rw [if_pos hprefix, hwords]
  exact parseUnsigned_showNat hstatus

theorem lf_not_mem_generateBranch (random : Vector UInt8 8) : '\n' ∉ generateBranch random := by
  show '\n' ∉ "z9hG4bK".toList ++ hexEncode random.toList
  rw [List.mem_append, not_or]
  exact ⟨by decide, lf_not_mem_hexEncode random.toList⟩

/-- **The test for a header name** is a test of the line's name. -/
theorem hasName_iff {names : List Str} (qs : List Str) (hn : names = fieldNames qs) (hp : ∀ p ∈ names, Plain p)
    (hq : ∀ q ∈ qs, ':' ∉ q) (trimmed : Str) :
    hasName names trimmed = true ↔ ∃ q ∈ qs, fieldName trimmed = some q := by
  subst hn
  simp only [hasName, fieldNames, List.any_map, List.any_eq_true, Function.comp, decide_eq_true_eq]
  refine exists_congr fun q => and_congr_right fun hmem => ?_
  rw [startsWith_toLowercase trimmed (hp _ (List.mem_map_of_mem hmem)), startsNoCase_colon (hq q hmem)]

end Minghe.Sip
