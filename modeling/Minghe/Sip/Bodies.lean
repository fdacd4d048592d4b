import Minghe.Sip.Parameters

/-!
# Bodies that act as headers

The functions of `parser.rs` that read a header go through all lines of a message, the empty line and the
body included, until one gives them a value. Those that build a response stop at the empty line.

* `IgnoresBody`: what is read of a message does not depend on its body.
* `readValue`, `readContact`, `readParam`, `readMethod`, `readUri`: what the loops read of one line.
* `GivesParam`, `GivesMethod`, `GivesUri`: a line from which a value is taken.

`extract_header_value` and `extract_uri_from_header` are taken for any name here: the line is cut behind as
many bytes as the name itself has, which for a name in ASCII are as many as it has in lower case
(`extractHeaderValue_eq`, `extractUriFromHeader_eq`).

Results:
* `ignoresBody_iff`: a loop over the lines ignores the body iff a line of the header section gives a value.
* `bodies_ignored_iff`: **when the body is ignored**.
-/

namespace Minghe.Sip

open Minghe.Lib

/-! ## One line -/

/-- A value, up to white space. -/
def readValue (names : List Str) (line : Str) : Checked (Option Str) := do
  let value ← Res.afterName names (trim line)
  return value.map trim

def readContact (line : Str) : Checked (Option Str) := do
  match ← Res.afterName contactNames (trim line) with
  | none => .ok none
  | some value => return some (← contactValue (trim value))

def readParam (names : List Str) (key line : Str) : Checked (Option Str) :=
  if hasName names (trim line) then
    match find key (toLowercase (trim line)) with
    | none => .ok none
    | some pos => do
      let value := upTo paramStop (← Res.strFrom (trim line) (pos + byteLen key))
      if value.isEmpty then .ok none else .ok (some value)
  else .ok none

def readMethod (line : Str) : Checked (Option Str) := do
  match ← Res.afterName cseqNames (trim line) with
  | none => .ok none
  | some value => return ((splitWhitespace (trim value))[1]?).map toUppercase

/-- Whether a line begins with a name, both in lower case, and a colon. -/
def beginsWith (name line : Str) : Bool := decide (toLowercase name ++ [':'] <+: toLowercase (trim line))

/-- The loop of `extract_header_value`, for any name. -/
def readHeaderValue (name line : Str) : Checked (Option Str) :=
  if beginsWith name line then do return some (trim (← Res.strFrom (trim line) (byteLen name + 1)))
  else .ok none

/-- The beginnings of a line that `extract_uri_from_header` looks for, and where it cuts the line. -/
def uriPrefixes (headerName : Str) : List (Str × Nat) :=
  (toLowercase headerName ++ [':'], byteLen headerName + 1) ::
    (compactName headerName).toList.map fun c => (c, byteLen c)

/-- The beginning that a line has. -/
def uriPrefix (headerName line : Str) : Option (Str × Nat) :=
  (uriPrefixes headerName).find? fun p => decide (p.1 <+: toLowercase (trim line))

/-- The loop of `extract_uri_from_header`, for any name. -/
def readUri (headerName line : Str) : Checked (Option Str) :=
  match uriPrefix headerName line with
  | none => .ok none
  | some p => do
    let value ← Res.strFrom (trim line) p.2
    match ← betweenBrackets value with
    | some uri => .ok (some uri)
    | none =>
      let uri := trim (upTo (· == ';') (trim value))
      if uri.isEmpty then .ok none else .ok (some uri)

/-- `extract_header_value`. -/
def headerValueIn (name msg : Str) : Checked (Option Str) := Res.firstSome (readHeaderValue name) (lines msg)

/-- `extract_uri_from_header`. -/
def headerUriIn (headerName msg : Str) : Checked (Option Str) := Res.firstSome (readUri headerName) (lines msg)

/-! ## The loops -/

theorem valueFromLines_firstSome (names : List Str) : ∀ ls : List Str,
    valueFromLines names ls = Res.firstSome (readValue names) ls
  | [] => rfl
  | line :: ls => by
    rw [valueFromLines, Res.firstSome, readValue, valueFromLines_firstSome names ls]
    cases (Res.afterName names (trim line) : Checked (Option Str)) with
    | error e => rfl
    | ok value => cases value <;> rfl

theorem contactFromLines_firstSome : ∀ ls : List Str, contactFromLines ls = Res.firstSome readContact ls
  | [] => rfl
  | line :: ls => by
    rw [contactFromLines, Res.firstSome, readContact, contactFromLines_firstSome ls]
    cases (Res.afterName contactNames (trim line) : Checked (Option Str)) with
    | error e => rfl
    | ok value =>
      cases value with
      | none => rfl
      | some value =>
        simp only [bind, Except.bind]
        cases contactValue (trim value) <;> rfl

theorem paramFromLines_firstSome (names : List Str) (key : Str) : ∀ ls : List Str,
    paramFromLines names key ls = Res.firstSome (readParam names key) ls
  | [] => rfl
  | line :: ls => by
    have ih := paramFromLines_firstSome names key ls
    rw [paramFromLines, Res.firstSome, readParam, ih]
    dsimp only
    split
    · cases find key (toLowercase (trim line)) with
      | none => rfl
      | some pos =>
        simp only [bind, Except.bind]
        cases (Res.strFrom (trim line) (pos + byteLen key) : Checked Str) with
        | error e => rfl
        | ok after =>
          dsimp only
          change (if (upTo paramStop after).isEmpty then _ else _) = _
          split <;> rfl
    · rfl

theorem cseqMethodFromLines_firstSome : ∀ ls : List Str, cseqMethodFromLines ls = Res.firstSome readMethod ls
  | [] => rfl
  | line :: ls => by
    rw [cseqMethodFromLines, Res.firstSome, readMethod, cseqMethodFromLines_firstSome ls]
    cases (Res.afterName cseqNames (trim line) : Checked (Option Str)) with
    | error e => rfl
    | ok value =>
      cases value with
      | none => rfl
      | some value =>
        simp only [bind, Except.bind]
        cases (splitWhitespace (trim value))[1]? <;> rfl

/-- A name in ASCII takes as many bytes in lower case. -/
theorem byteLen_lower : ∀ {name : Str}, IsAscii name → byteLen (toLowercase name) = byteLen name
  | [], _ => rfl
  | c :: name, h => by
    have ih := byteLen_lower fun d hd => h d (List.mem_cons_of_mem _ hd)
    have hlower : toLowercase (c :: name) = lowerChar c ++ toLowercase name := rfl
    have hc : lowerChar c = [c.toLower] := if_pos (h c List.mem_cons_self)
    rw [hlower, hc, List.singleton_append, byteLen_cons, byteLen_cons, ih, utf8Size_toLower]

theorem extractHeaderValue_eq {name : Str} (h : IsAscii name) (msg : Str) :
    extractHeaderValue msg name = headerValueIn name msg := by
  unfold extractHeaderValue headerValueIn
  rw [valueFromLines_firstSome]
  congr 1
  funext line
  have hlen : byteLen (toLowercase name ++ [':']) = byteLen name + 1 := by
    rw [byteLen_append, byteLen_lower h]
    rfl
  unfold readValue readHeaderValue beginsWith Res.afterName
  rw [List.find?_singleton]
  by_cases hpre : toLowercase name ++ [':'] <+: toLowercase (trim line)
  · rw [if_pos (decide_eq_true hpre), if_pos (decide_eq_true hpre)]
    dsimp only
    rw [hlen]
    cases (Res.strFrom (trim line) (byteLen name + 1) : Checked Str) <;> rfl
  · rw [if_neg (by rw [decide_eq_false hpre]; exact Bool.false_ne_true),
      if_neg (by rw [decide_eq_false hpre]; exact Bool.false_ne_true)]
    rfl

theorem uriFromLines_firstSome {headerName : Str} (h : IsAscii headerName) : ∀ ls : List Str,
    uriFromLines ((toLowercase headerName ++ [':']) :: (compactName headerName).toList) ls =
      Res.firstSome (readUri headerName) ls
  | [] => rfl
  | line :: ls => by
    have hlen : byteLen (toLowercase headerName ++ [':']) = byteLen headerName + 1 := by
      rw [byteLen_append, byteLen_lower h]
      rfl
    have hprefixes : uriPrefixes headerName =
        ((toLowercase headerName ++ [':']) :: (compactName headerName).toList).map fun c => (c, byteLen c) := by
      rw [List.map_cons, hlen, uriPrefixes]
    have hname : (Res.afterName ((toLowercase headerName ++ [':']) :: (compactName headerName).toList) (trim line) :
        Checked (Option Str)) = match uriPrefix headerName line with
          | none => .ok none
          | some p => do return some (← Res.strFrom (trim line) p.2) := by
      have hfind : uriPrefix headerName line =
          (((toLowercase headerName ++ [':']) :: (compactName headerName).toList).find?
            fun name => decide (name <+: toLowercase (trim line))).map fun c => (c, byteLen c) := by
        rw [uriPrefix, hprefixes, List.find?_map]
        rfl
      rw [hfind, Res.afterName]
      cases ((toLowercase headerName ++ [':']) :: (compactName headerName).toList).find? _ <;> rfl
    rw [uriFromLines, Res.firstSome, readUri, uriFromLines_firstSome h ls, hname]
    cases uriPrefix headerName line with
    | none => rfl
    | some p =>
      simp only [bind, Except.bind]
      cases (Res.strFrom (trim line) p.2 : Checked Str) with
      | error e => rfl
      | ok value =>
        dsimp only [pure, Except.pure]
        cases betweenBrackets value with
        | error e => rfl
        | ok found =>
          cases found with
          | some uri => rfl
          | none =>
            dsimp only
            split <;> rfl

theorem extractUriFromHeader_eq {headerName : Str} (h : IsAscii headerName) (msg : Str) :
    extractUriFromHeader msg headerName = headerUriIn headerName msg := uriFromLines_firstSome h (lines msg)

/-! ## Two bodies -/

/-- What is read of a message does not depend on its body. -/
def IgnoresBody {A : Type} (read : Str → Checked A) (headers : Str) : Prop :=
  ∀ body body', read (headers ++ headerEnd ++ body) = read (headers ++ headerEnd ++ body')

/-- The lines of a message: those of its header section, one or two empty ones, and those of the body. -/
theorem lines_message (headers : Str) : ∃ empty : List Str, (∀ l ∈ empty, l = []) ∧
    ∀ body, lines (headers ++ headerEnd ++ body) = lines headers ++ (empty ++ lines body) := by
  have hcut : ∀ body, lines (headers ++ headerEnd ++ body) = lines (headers ++ crlf) ++ ([] :: lines body) := by
    intro body
    have htext : headers ++ headerEnd ++ body = (headers ++ ['\r']) ++ '\n' :: (crlf ++ body) := by
      simp [headerEnd, crlf_eq]
    have hline : headers ++ ['\r'] ++ ['\n'] = headers ++ crlf := by simp [crlf_eq]
    have hempty : lines (crlf ++ body) = [] :: lines body := lines_crlf (l := []) body List.not_mem_nil
    rw [htext, lines_append, hline, hempty]
  rcases lines_append_crlf headers with h | h
  · exact ⟨[[]], fun l hl => List.mem_singleton.mp hl, fun body => by rw [hcut, h]; rfl⟩
  · refine ⟨[[], []], fun l hl => by simpa using hl, fun body => ?_⟩
    rw [hcut, h, List.append_assoc]
    rfl

section

variable {T : Type} {read : Str → Checked (Option T)}

/-- A loop over a message with no value in its header section goes on in the body. -/
theorem firstSome_body (hempty : read [] = .ok none) {headers : Str}
    (h : ∀ l ∈ lines headers, read l = .ok none) (body : Str) :
    Res.firstSome read (lines (headers ++ headerEnd ++ body)) = Res.firstSome read (lines body) := by
  obtain ⟨empty, hnil, hlines⟩ := lines_message headers
  rw [hlines, Res.firstSome_append_of_none _ h,
    Res.firstSome_append_of_none _ fun l hl => by rw [hnil l hl]; exact hempty]

/-- A loop over a message with a value in its header section stops there. -/
theorem firstSome_headers {headers : Str} (h : ∃ l ∈ lines headers, read l ≠ .ok none) (body : Str) :
    Res.firstSome read (lines (headers ++ headerEnd ++ body)) = Res.firstSome read (lines headers) ∧
      Res.firstSome read (lines headers) ≠ .ok none := by
  obtain ⟨empty, -, hlines⟩ := lines_message headers
  rw [hlines]
  exact Res.firstSome_append_of_exists _ h

/-- One line as a body. -/
theorem firstSome_line {l : Str} (hl : '\n' ∉ l) (h : read l ≠ .ok none) :
    Res.firstSome read (lines (l ++ crlf)) = read l := by
  have hone : lines (l ++ crlf) = [l] := lines_crlf [] hl
  rw [hone, Res.firstSome_cons_of_ne h]

/-- **A loop over the lines ignores the body** iff a line of the header section gives it a value, or none can. -/
theorem ignoresBody_iff (hempty : read [] = .ok none) (headers : Str) :
    IgnoresBody (fun msg => Res.firstSome read (lines msg)) headers ↔
      (∃ l ∈ lines headers, read l ≠ .ok none) ∨ ¬ ∃ l, '\n' ∉ l ∧ read l ≠ .ok none := by
  constructor
  · intro hsame
    by_contra hnot
    rw [not_or, not_not] at hnot
    obtain ⟨hheaders, l, hl, hne⟩ := hnot
    have hnone : ∀ l ∈ lines headers, read l = .ok none := fun l hl => by
      by_contra hn
      exact hheaders ⟨l, hl, hn⟩
    have hbody := hsame (l ++ crlf) []
    dsimp only at hbody
    rw [firstSome_body hempty hnone, firstSome_body hempty hnone, firstSome_line hl hne] at hbody
    exact hne hbody
  · rintro (hexists | hnever) body body'
    · dsimp only
      rw [(firstSome_headers hexists body).1, (firstSome_headers hexists body').1]
    · have hnone : ∀ l, '\n' ∉ l → read l = .ok none := fun l hl => by
        by_contra hn
        exact hnever ⟨l, hl, hn⟩
      have hall : ∀ text, Res.firstSome read (lines text) = .ok none := by
        intro text
        have h : Res.firstSome read (lines text ++ []) = .ok none :=
          Res.firstSome_append_of_none [] fun l hl => hnone l (not_mem_of_mem_lines hl)
        rwa [List.append_nil] at h
      dsimp only
      rw [hall, hall]

end

/-! ## Lines that give a value -/

/-- A header with one of the names and the key, and a value behind the key, or a cut that panics. -/
def GivesParam (names : List Str) (key line : Str) : Prop :=
  hasName names (trim line) = true ∧ ∃ pos, find key (toLowercase (trim line)) = some pos ∧
    ∀ after, (Res.strFrom (trim line) (pos + byteLen key) : Checked Str) = .ok after → upTo paramStop after ≠ []

/-- A `CSeq` header of two words or more. -/
def GivesMethod (line : Str) : Prop :=
  ∃ value, headField cseqNames (trim line) = some value ∧ 2 ≤ (splitWhitespace value).length

/-- A header with the name, or its compact form, and something in brackets or in front of the parameters, or
brackets that make the function panic. -/
def GivesUri (headerName line : Str) : Prop :=
  ∃ p, uriPrefix headerName line = some p ∧
    ∀ value, (Res.strFrom (trim line) p.2 : Checked Str) = .ok value →
      betweenBrackets value ≠ .ok none ∨ trim (upTo (· == ';') (trim value)) ≠ []

theorem afterName_ne_none {names : List Str} {line : Str} :
    (Res.afterName names (trim line) : Checked (Option Str)) ≠ .ok none ↔ hasName names (trim line) = true := by
  unfold Res.afterName hasName
  rw [List.any_eq_true, ← List.find?_isSome]
  cases names.find? fun name => decide (name <+: toLowercase (trim line)) with
  | none => simp
  | some name =>
    refine iff_of_true ?_ rfl
    dsimp only
    cases (Res.strFrom (trim line) (byteLen name) : Checked Str) <;> exact nofun

theorem readValue_ne_none {names : List Str} {line : Str} :
    readValue names line ≠ .ok none ↔ hasName names (trim line) = true := by
  rw [← afterName_ne_none, readValue]
  cases (Res.afterName names (trim line) : Checked (Option Str)) with
  | error e => exact iff_of_true nofun nofun
  | ok value =>
    cases value with
    | none => exact iff_of_false (fun h => h rfl) fun h => h rfl
    | some value => exact iff_of_true nofun nofun

theorem readContact_ne_none {line : Str} : readContact line ≠ .ok none ↔ hasName contactNames (trim line) = true := by
  rw [← afterName_ne_none, readContact]
  cases (Res.afterName contactNames (trim line) : Checked (Option Str)) with
  | error e => exact iff_of_true nofun nofun
  | ok value =>
    cases value with
    | none => exact iff_of_false (fun h => h rfl) fun h => h rfl
    | some value =>
      refine iff_of_true ?_ nofun
      simp only [bind, Except.bind]
      cases contactValue (trim value) <;> exact nofun

theorem readParam_ne_none {names : List Str} {key line : Str} :
    readParam names key line ≠ .ok none ↔ GivesParam names key line := by
  unfold readParam GivesParam
  by_cases hname : hasName names (trim line) = true
  · rw [if_pos hname, and_iff_right hname]
    cases find key (toLowercase (trim line)) with
    | none => simp
    | some pos =>
      simp only [Option.some.injEq, exists_eq_left', bind, Except.bind]
      cases (Res.strFrom (trim line) (pos + byteLen key) : Checked Str) with
      | error e => exact iff_of_true nofun nofun
      | ok after =>
        simp only [Except.ok.injEq, forall_eq']
        cases upTo paramStop after <;> simp
  · rw [if_neg hname]
    exact iff_of_false (fun h => h rfl) fun h => hname h.1

theorem readMethod_ne_none {line : Str} : readMethod line ≠ .ok none ↔ GivesMethod line := by
  unfold readMethod GivesMethod
  rw [afterName_eq (by decide)]
  simp only [bind, Except.bind]
  cases headField cseqNames (trim line) with
  | none => simp
  | some value =>
    simp only [Option.some.injEq, exists_eq_left', splitWhitespace_trim]
    match splitWhitespace value with
    | [] => exact iff_of_false (fun h => h rfl) (by decide)
    | [_] => exact iff_of_false (fun h => h rfl) (by simp)
    | _ :: _ :: _ => exact iff_of_true nofun (by simp)

theorem readUri_ne_none {headerName line : Str} : readUri headerName line ≠ .ok none ↔ GivesUri headerName line := by
  unfold readUri GivesUri
  cases uriPrefix headerName line with
  | none => simp
  | some p =>
    simp only [Option.some.injEq, exists_eq_left', bind, Except.bind]
    cases (Res.strFrom (trim line) p.2 : Checked Str) with
    | error e => exact iff_of_true nofun nofun
    | ok value =>
      simp only [Except.ok.injEq, forall_eq']
      cases betweenBrackets value with
      | error e => exact iff_of_true nofun (.inl nofun)
      | ok found =>
        cases found with
        | some uri => exact iff_of_true nofun (.inl nofun)
        | none =>
          dsimp only
          cases trim (upTo (· == ';') (trim value)) <;> simp

/-- A line that begins with a name gives a value. -/
theorem readHeaderValue_ne_none {name line : Str} :
    readHeaderValue name line ≠ .ok none ↔ beginsWith name line = true := by
  unfold readHeaderValue
  split
  · rename_i h
    refine iff_of_true ?_ h
    cases (Res.strFrom (trim line) (byteLen name + 1) : Checked Str) <;> exact nofun
  · rename_i h
    exact iff_of_false (fun hn => hn rfl) h

theorem betweenBrackets_ne_none {value : Str} (hopen : '<' ∈ value) (hclose : '>' ∈ value) :
    betweenBrackets value ≠ .ok none := by
  have hfind : ∀ c, c ∈ value → ∃ n, find [c] value = some n := by
    intro c hc
    rw [find_char]
    cases hs : splitOnce c value with
    | none => exact absurd hc (splitOnce_eq_none.mp hs)
    | some p => exact ⟨byteLen p.1, rfl⟩
  obtain ⟨start, hstart⟩ := hfind '<' hopen
  obtain ⟨stop, hstop⟩ := hfind '>' hclose
  unfold betweenBrackets
  rw [hstart, hstop]
  dsimp only
  cases (Res.strRange value (start + 1) stop : Checked Str) <;> exact nofun

/-- A name that some line can begin with. -/
def Nameable (name : Str) : Prop := ∃ l, '\n' ∉ l ∧ beginsWith name l = true

theorem trim_append_word {s word : Str} (hs : trim s ≠ []) (hne : word ≠ [])
    (hword : ∀ c ∈ word, isWhitespace c = false) : trim (trim s ++ word) = trim s ++ word := by
  obtain ⟨c, t, hc, hblank, -⟩ := (trim_cases s).resolve_left hs
  rw [trim, hc, List.cons_append, trimStart_of_not _ hblank, ← List.cons_append,
    trimEnd_append_of_forall_not _ hword hne]

/-- A name that a line can begin with, and a URI behind it. -/
theorem exists_givesUri {headerName : Str} (h : Nameable headerName) : ∃ l, '\n' ∉ l ∧ GivesUri headerName l := by
  obtain ⟨l, hl, hname⟩ := h
  have hpre := of_decide_eq_true hname
  have hfilled : trim l ≠ [] := by
    intro hnil
    rw [hnil] at hpre
    exact absurd (List.prefix_nil.mp hpre) (by simp)
  -- the brackets are behind all that may be cut off
  let pad := List.replicate (byteLen headerName + 1) 'a'
  have hbrackets : ∀ c ∈ "<>".toList, isWhitespace c = false ∧ c ≠ '\n' := by decide
  have hpad : ∀ c ∈ pad ++ "<>".toList, isWhitespace c = false ∧ c ≠ '\n' := by
    intro c hc
    rcases List.mem_append.mp hc with hc | hc
    · rw [(List.mem_replicate.mp hc).2]
      decide
    · exact hbrackets c hc
  have htrim : trim (trim l ++ (pad ++ "<>".toList)) = trim l ++ (pad ++ "<>".toList) :=
    trim_append_word hfilled (by simp) fun c hc => (hpad c hc).1
  have hlower : toLowercase headerName ++ [':'] <+: toLowercase (trim l ++ (pad ++ "<>".toList)) := by
    have happend : toLowercase (trim l ++ (pad ++ "<>".toList)) =
        toLowercase (trim l) ++ toLowercase (pad ++ "<>".toList) := List.flatMap_append
    rw [happend]
    exact hpre.trans (List.prefix_append _ _)
  refine ⟨trim l ++ (pad ++ "<>".toList), fun hmem => ?_, (toLowercase headerName ++ [':'], byteLen headerName + 1),
    ?_, fun value hvalue => .inl ?_⟩
  · rcases List.mem_append.mp hmem with hmem | hmem
    · exact hl (mem_of_mem_trim hmem)
    · exact (hpad _ hmem).2 rfl
  · rw [uriPrefix, uriPrefixes, htrim]
    exact List.find?_cons_of_pos (decide_eq_true hlower)
  · rw [htrim] at hvalue
    unfold Res.strFrom at hvalue
    split at hvalue
    · rename_i front rest hcut
      cases hvalue
      have hlen := byteLen_of_splitAtByte hcut
      have htext := splitAtByte_eq_some hcut
      rw [← List.append_assoc] at htext
      rcases List.append_eq_append_iff.mp htext with ⟨mid, hfront, -⟩ | ⟨mid, -, hvalue⟩
      · -- the cut would be behind the pad
        have hpadlen : byteLen pad = byteLen headerName + 1 := by
          have hascii : IsAscii pad := fun c hc => by
            rw [(List.mem_replicate.mp hc).2]
            decide
          rw [byteLen_ascii hascii, List.length_replicate]
        rw [hfront, byteLen_append, byteLen_append, hpadlen] at hlen
        exact absurd (byteLen_eq_zero.mp (by omega)) hfilled
      · exact betweenBrackets_ne_none (by simp [hvalue]) (by simp [hvalue])
    · cases hvalue

/-- The headers with a compact form are among those that a line can begin with. -/
theorem nameable_of_compact {headerName c : Str} (h : compactName headerName = some c) :
    Nameable headerName ∧ c ≠ [] := by
  obtain ⟨p, hp, rfl⟩ := Option.map_eq_some_iff.mp h
  have hname : p.1.toList = toLowercase headerName := by simpa using List.find?_some hp
  have hlines : ∀ p ∈ [("from", "f:"), ("to", "t:"), ("contact", "m:"), ("via", "v:"), ("call-id", "i:")],
      '\n' ∉ p.1.toList ++ [':'] ∧ p.1.toList ++ [':'] <+: toLowercase (trim (p.1.toList ++ [':'])) ∧
        p.2.toList ≠ [] := by decide +kernel
  obtain ⟨hlf, hpre, hne⟩ := hlines p (List.mem_of_find?_eq_some hp)
  refine ⟨⟨p.1.toList ++ [':'], hlf, decide_eq_true ?_⟩, hne⟩
  rw [← hname]
  exact hpre

/-- A name that no line can begin with is one that gives no URI. -/
theorem nameable_iff (headerName : Str) : Nameable headerName ↔ ∃ l, '\n' ∉ l ∧ GivesUri headerName l := by
  refine ⟨exists_givesUri, ?_⟩
  rintro ⟨l, hl, p, hp, -⟩
  have hpre : p.1 <+: toLowercase (trim l) := by simpa using List.find?_some hp
  rcases List.mem_cons.mp (List.mem_of_find?_eq_some hp) with rfl | hmem
  · exact ⟨l, hl, decide_eq_true hpre⟩
  · obtain ⟨c, hc, -⟩ := List.mem_map.mp hmem
    exact (nameable_of_compact (Option.mem_toList.mp hc)).1

/-! ## When the body is ignored -/

theorem readHeaderValue_nil (name : Str) : readHeaderValue name [] = .ok none := by
  have hnot : beginsWith name [] = false := decide_eq_false fun hpre => by
    exact absurd (List.prefix_nil.mp hpre) (by simp)
  rw [readHeaderValue, hnot]
  rfl

theorem readUri_nil (headerName : Str) : readUri headerName [] = .ok none := by
  have hnone : uriPrefix headerName [] = none := by
    refine List.find?_eq_none.mpr fun p hp hpre => ?_
    have hnil := List.prefix_nil.mp (of_decide_eq_true hpre)
    rcases List.mem_cons.mp hp with rfl | hp
    · exact absurd hnil (by simp)
    · obtain ⟨c, hc, rfl⟩ := List.mem_map.mp hp
      exact (nameable_of_compact (Option.mem_toList.mp hc)).2 hnil
  rw [readUri, hnone]

/-- A loop that a line of the header section ends, where any line can. -/
theorem ignoresBody_of_line {T : Type} {f : Str → Checked (Option T)} {read : Str → Checked (Option T)}
    {Gives : Str → Prop} (hf : ∀ msg, f msg = Res.firstSome read (lines msg)) (hempty : read [] = .ok none)
    (hgives : ∀ l, read l ≠ .ok none ↔ Gives l) (line : Str) (hline : '\n' ∉ line ∧ Gives line) (headers : Str) :
    IgnoresBody f headers ↔ ∃ l ∈ lines headers, Gives l := by
  have hsame : f = fun msg => Res.firstSome read (lines msg) := funext hf
  rw [hsame, ignoresBody_iff hempty]
  simp only [hgives]
  exact or_iff_left (not_not_intro ⟨line, hline⟩)

/-- **`Expires`.** A contact with `expires=` in the header section does not keep it from being read of the body. -/
theorem ignoresBody_expires (headers : Str) :
    IgnoresBody extractExpires headers ↔ ∃ l ∈ lines headers, hasName ["expires:".toList] (trim l) = true := by
  have hread : ∀ msg, valueFromLines ["expires:".toList] (lines msg) =
      Res.firstSome (readValue ["expires:".toList]) (lines msg) := fun msg => valueFromLines_firstSome _ _
  constructor
  · intro hsame
    by_contra hnot
    have hnone : ∀ l ∈ lines headers, readValue ["expires:".toList] l = .ok none := fun l hl => by
      by_contra hn
      exact hnot ⟨l, hl, readValue_ne_none.mp hn⟩
    have hbody : ∀ body, valueFromLines ["expires:".toList] (lines (headers ++ headerEnd ++ body)) =
        valueFromLines ["expires:".toList] (lines body) := fun body => by
      rw [hread, hread, firstSome_body (by decide) hnone]
    have hone : valueFromLines ["expires:".toList] (lines "Expires: 1".toList) = .ok (some "1".toList) := by
      decide +kernel
    have htwo : valueFromLines ["expires:".toList] (lines "Expires: 2".toList) = .ok (some "2".toList) := by
      decide +kernel
    have heq := hsame "Expires: 1".toList "Expires: 2".toList
    unfold extractExpires at heq
    rw [hbody, hbody, hone, htwo] at heq
    have hdiffer : (Except.ok (parseUnsigned 64 "1".toList) : Checked (Option Nat)) ≠
        .ok (parseUnsigned 64 "2".toList) := by decide
    exact hdiffer heq
  · rintro ⟨l, hl, hname⟩ body body'
    have hexists : ∃ l ∈ lines headers, readValue ["expires:".toList] l ≠ .ok none :=
      ⟨l, hl, readValue_ne_none.mpr hname⟩
    obtain ⟨h, hne⟩ := firstSome_headers hexists body
    obtain ⟨h', -⟩ := firstSome_headers hexists body'
    unfold extractExpires
    rw [hread, hread, h, h']
    cases hfound : Res.firstSome (readValue ["expires:".toList]) (lines headers) with
    | error e => rfl
    | ok value =>
      cases value with
      | none => exact absurd hfound hne
      | some value => rfl

/-- **When the body is ignored.** What is read of a message does not depend on its body iff a line of the header
section gives the function its value: for the call id and the contact any header with the name, for a parameter a
header that has it, for the method a `CSeq` of two words, for the expiry an `Expires` header. For a name that is
given the header must have it, and a URI if that is what is read; or no line at all can begin with the name. -/
theorem bodies_ignored_iff (headers : Str) :
    (IgnoresBody extractCallId headers ↔ ∃ l ∈ lines headers, hasName callIdNames (trim l) = true) ∧
    (IgnoresBody extractContactUri headers ↔ ∃ l ∈ lines headers, hasName contactNames (trim l) = true) ∧
    (∀ reader ∈ paramReaders,
      (IgnoresBody reader.1 headers ↔ ∃ l ∈ lines headers, GivesParam reader.2.1 reader.2.2 l)) ∧
    (IgnoresBody extractCseqMethod headers ↔ ∃ l ∈ lines headers, GivesMethod l) ∧
    (IgnoresBody extractExpires headers ↔ ∃ l ∈ lines headers, hasName ["expires:".toList] (trim l) = true) ∧
    (∀ name, (IgnoresBody (headerValueIn name) headers ↔
      (∃ l ∈ lines headers, beginsWith name l = true) ∨ ¬ Nameable name)) ∧
    (∀ name, (IgnoresBody (headerUriIn name) headers ↔
      (∃ l ∈ lines headers, GivesUri name l) ∨ ¬ Nameable name)) := by
  have hparam : ∀ {f : Str → Checked (Option Str)} {names : List Str} {key : Str} (line : Str),
      (∀ msg, f msg = paramFromLines names key (lines msg)) → readParam names key [] = .ok none →
      '\n' ∉ line ∧ readParam names key line ≠ .ok none →
      (IgnoresBody f headers ↔ ∃ l ∈ lines headers, GivesParam names key l) :=
    fun line hf hempty hline => ignoresBody_of_line (fun msg => (hf msg).trans (paramFromLines_firstSome _ _ _)) hempty
      (fun _ => readParam_ne_none) line ⟨hline.1, readParam_ne_none.mp hline.2⟩ headers
  refine ⟨?_, ?_, fun reader hreader => ?_, ?_, ignoresBody_expires headers, fun name => ?_, fun name => ?_⟩
  · exact ignoresBody_of_line (fun msg => valueFromLines_firstSome _ _) (by decide) (fun _ => readValue_ne_none)
      "i:".toList (by decide) headers
  · exact ignoresBody_of_line (fun msg => contactFromLines_firstSome _) (by decide) (fun _ => readContact_ne_none)
      "m:".toList (by decide) headers
  · simp only [paramReaders, List.mem_cons, List.not_mem_nil, or_false] at hreader
    rcases hreader with rfl | rfl | rfl
    · exact hparam "v:branch=a".toList (fun _ => rfl) (by decide) (by decide +kernel)
    · exact hparam "f:tag=a".toList (fun _ => rfl) (by decide) (by decide +kernel)
    · exact hparam "t:tag=a".toList (fun _ => rfl) (by decide) (by decide +kernel)
  · have hline : readMethod "cseq:1 a".toList ≠ .ok none := by decide +kernel
    exact ignoresBody_of_line (fun msg => cseqMethodFromLines_firstSome _) (by decide) (fun _ => readMethod_ne_none)
      "cseq:1 a".toList ⟨by decide, readMethod_ne_none.mp hline⟩ headers
  · have hiff := ignoresBody_iff (readHeaderValue_nil name) headers
    simp only [readHeaderValue_ne_none] at hiff
    exact hiff
  · have hiff := ignoresBody_iff (readUri_nil name) headers
    simp only [readUri_ne_none] at hiff
    rw [nameable_iff]
    exact hiff

/-- **Bodies that act as headers**: the call id of a BYE without one, and the expiry of a REGISTER whose contact
has one, are read of the body. -/
theorem body_read :
    let bye := "BYE sip:a SIP/2.0\r\nCSeq: 1 BYE".toList
    let register := "REGISTER sip:a SIP/2.0\r\nContact: <sip:b>;expires=3600".toList
    (∀ l ∈ lines bye ++ lines register, trim l ≠ []) ∧
      extractCallId (bye ++ headerEnd ++ []) = .ok none ∧
      extractCallId (bye ++ headerEnd ++ "i: x".toList) = .ok (some "x".toList) ∧
      extractExpires (register ++ headerEnd ++ []) = .ok (some 3600) ∧
      extractExpires (register ++ headerEnd ++ "Expires: 0".toList) = .ok (some 0) := by
  decide +kernel

end Minghe.Sip
