import Minghe.Sip.OneMessage

/-!
# Who a request says it is from

`extract_uri_from_header` for `From`, on the text that `build_outbound_request_with_from` makes of a
request for an authenticated sender.

* `extracted_chars`: what is read off a message has no line end, and no `'>'` unless it has no `';'`.
* `uriFromLines_rewritten`: the rewritten header lines name the sender iff there is a `From` among them.
* `namesSender_iff`: **when the text that is sent on names the sender**. It does not where the request
  is sent on as it is, and it need not where no `From` is among the header lines, so that one may follow
  in the body, or where the start line itself reads as a `From`.
-/

namespace Minghe.Sip

open Minghe.Lib

/-! ## Reading a URI -/

/-- **What is read off a message** stands in one of its lines, and has no `'>'` or no `';'`. -/
theorem extracted_chars {names : List Str} : ∀ {ls : List Str} {uri : Str},
    uriFromLines names ls = .ok (some uri) →
      (∃ l ∈ ls, ∀ c ∈ uri, c ∈ l) ∧ ('>' ∉ uri ∨ ';' ∉ uri)
  | [], uri, h => by cases h
  | line :: ls, uri, h => by
    have hrest : uriFromLines names ls = .ok (some uri) →
        (∃ l ∈ line :: ls, ∀ c ∈ uri, c ∈ l) ∧ ('>' ∉ uri ∨ ';' ∉ uri) := by
      intro h
      obtain ⟨⟨l, hl, hc⟩, hor⟩ := extracted_chars h
      exact ⟨⟨l, List.mem_cons_of_mem _ hl, hc⟩, hor⟩
    unfold uriFromLines at h
    obtain ⟨value, hvalue, h⟩ := Res.bind_eq_ok.mp h
    cases value with
    | none => exact hrest h
    | some value =>
      have hline : ∀ c ∈ value, c ∈ line := fun c hc => mem_of_mem_trim (mem_of_afterName hvalue c hc)
      obtain ⟨found, hfound, h⟩ := Res.bind_eq_ok.mp h
      cases found with
      | some u =>
        cases h
        obtain ⟨hmem, hnot⟩ := mem_of_betweenBrackets hfound
        exact ⟨⟨line, List.mem_cons_self, fun c hc => hline c (hmem c hc)⟩, .inl hnot⟩
      | none =>
        dsimp only at h
        split at h
        · exact hrest h
        · cases h
          refine ⟨⟨line, List.mem_cons_self, fun c hc => ?_⟩, .inr fun hc => ?_⟩
          · exact hline c (mem_of_mem_trim (mem_of_upTo (mem_of_mem_trim hc)).1)
          · simpa using (mem_of_upTo (mem_of_mem_trim hc)).2

/-- The lines in front come first. -/
theorem uriFromLines_append (names : List Str) (ls' : List Str) : ∀ ls : List Str,
    uriFromLines names (ls ++ ls') = uriFromLines names ls >>= fun found =>
      match found with
      | some uri => .ok (some uri)
      | none => uriFromLines names ls'
  | [] => rfl
  | line :: ls => by
    have ih := uriFromLines_append names ls' ls
    rw [List.cons_append, uriFromLines, uriFromLines]
    cases (Res.afterName names (trim line) : Checked (Option Str)) with
    | error e => rfl
    | ok value =>
      cases value with
      | none => exact ih
      | some value =>
        simp only [bind, Except.bind]
        cases betweenBrackets value with
        | error e => rfl
        | ok found =>
          cases found with
          | some uri => rfl
          | none =>
            dsimp only
            split
            · exact ih
            · rfl

/-- A line without the name is passed over. -/
theorem uriFromLines_skip {names : List Str} {line : Str} (ls : List Str)
    (h : hasName names (trim line) = false) : uriFromLines names (line :: ls) = uriFromLines names ls := by
  have hnone : names.find? (fun name => decide (name <+: toLowercase (trim line))) = none := by
    rw [List.find?_eq_none]
    intro name hname hstart
    exact Bool.false_ne_true (h.symm.trans (List.any_eq_true.mpr ⟨name, hname, hstart⟩))
  rw [uriFromLines, Res.afterName, hnone]
  rfl

theorem uriFromLines_from (msg : Str) :
    extractUriFromHeader msg "From".toList = uriFromLines fromNames (lines msg) := by
  have hnames : (toLowercase "From".toList ++ [':']) :: (compactName "From".toList).toList = fromNames := by
    decide
  rw [extractUriFromHeader, hnames]

/-! ## The rewritten lines -/

/-- A line with another name is no `From`. -/
theorem hasName_from_of_name {trimmed q : Str} (h : fieldName trimmed = some q) (hq : q ∉ fromFields) :
    hasName fromNames trimmed = false := by
  rw [Bool.eq_false_iff]
  intro hname
  obtain ⟨q', hq', h'⟩ := (hasName_from trimmed).mp hname
  rw [h] at h'
  cases h'
  exact hq hq'

/-- **The header for the sender** names the sender. -/
theorem uriFromLines_rewrittenFrom {uri : Str} (trimmed : Str) (h : '>' ∉ uri) :
    uriFromLines fromNames [rewrittenFrom uri trimmed] = .ok (some uri) := by
  obtain ⟨tag, -, hline⟩ := rewrittenFrom_eq uri trimmed
  have hfield : (Res.afterName fromNames (trim (rewrittenFrom uri trimmed)) : Checked (Option Str)) =
      .ok (some ([' ', '<'] ++ uri ++ '>' :: trimEnd tag)) := by
    have hlower : toAsciiLowercase "From".toList ∈ fromFields := by decide
    rw [afterName_eq (by decide), show fromNames = fieldNames fromFields from rfl,
      headField_fieldNames (by decide), hline, splitOnce_trim (n := "From".toList) _ (by decide) (by decide)
      (by decide), Option.bind_some, if_pos hlower, trimEnd_append_of_not _ _ (by decide)]
    rfl
  have hstart : find ['<'] ([' ', '<'] ++ uri ++ '>' :: trimEnd tag) = some 1 := by
    rw [find_char, splitOnce_eq_some (a := [' ']) (b := uri ++ '>' :: trimEnd tag) |>.mpr
      ⟨by simp, by decide⟩]
    rfl
  have hstop : find ['>'] ([' ', '<'] ++ uri ++ '>' :: trimEnd tag) = some (2 + byteLen uri) := by
    rw [find_char, splitOnce_eq_some (a := [' ', '<'] ++ uri) (b := trimEnd tag) |>.mpr
      ⟨rfl, by simpa using h⟩, Option.map_some, byteLen_append]
    rfl
  have hbetween : betweenBrackets ([' ', '<'] ++ uri ++ '>' :: trimEnd tag) = .ok (some uri) := by
    have hrange := Res.strRange_append (E := Empty) [' ', '<'] uri ('>' :: trimEnd tag)
    rw [show byteLen [' ', '<'] = 2 from rfl] at hrange
    unfold betweenBrackets
    simp only [hstart, hstop, hrange]
    rfl
  rw [uriFromLines, hfield]
  simp only [bind, Except.bind, hbetween]

/-- A line that `strip_unsupported_negotiation_header` leaves is no `From` if it was none. -/
theorem hasName_from_strip {t t' : Str} (ht : trim t = t) (h : hasName fromNames t = false)
    (hs : stripUnsupportedNegotiationHeader t = some t') : hasName fromNames (trim t') = false := by
  rcases strip_cases t with hkeep | ⟨a, b, hsplit, hmem, hnone | ⟨tags, -, hnew⟩⟩
  · rw [hs] at hkeep
    cases hkeep
    rwa [ht]
  · rw [hs] at hnone
    cases hnone
  · rw [hs] at hnew
    cases hnew
    have hdisjoint : ∀ q ∈ sessionTimerNames ++ optionTagNames, q ∉ fromFields := by decide
    exact hasName_from_of_name (fieldName_stripped _ (splitOnce_eq_some.mp hsplit).2 hmem)
      (hdisjoint _ hmem)

/-- What a header line becomes, as far as `From` goes. -/
theorem uriFromLines_rewriteLine {uri : Str} (contactUri line : Str) (hne : uri ≠ []) (h : '>' ∉ uri) :
    uriFromLines fromNames (rewriteLine contactUri uri line) =
      .ok (if hasName fromNames (trim line) then some uri else none) := by
  have hreplaced : ∀ q ∈ replacedFields, q ∉ fromFields := by decide
  rcases rewriteLine_cases contactUri uri line with
    ⟨q, hq, hname, hr⟩ | ⟨q, hq, hname, hr⟩ | ⟨hname, hr⟩
  · rw [hasName_from_of_name hname (hreplaced q hq)]
    rcases hr with hr | hr
    · rw [hr]
      rfl
    · rw [hr, uriFromLines_skip _ (hasName_from_of_name (fieldName_contactLine contactUri) (by decide))]
      rfl
  · rw [hr, (hasName_from _).mpr ⟨q, hq, hname⟩, if_neg (by simpa using hne)]
    exact uriFromLines_rewrittenFrom _ h
  · rw [hr, hname]
    cases hs : stripUnsupportedNegotiationHeader (trim line) with
    | none => rfl
    | some t =>
      rw [Option.toList_some, uriFromLines_skip _ (hasName_from_strip (trim_trim line) hname hs)]
      rfl

/-- **The rewritten header lines** name the sender iff there was a `From`. -/
theorem uriFromLines_rewritten {uri : Str} (contactUri : Str) (hne : uri ≠ []) (h : '>' ∉ uri) :
    ∀ ls : List Str, uriFromLines fromNames (ls.flatMap (rewriteLine contactUri uri)) =
      .ok (if ls.any fun l => hasName fromNames (trim l) then some uri else none)
  | [] => rfl
  | l :: ls => by
    rw [List.flatMap_cons, uriFromLines_append, uriFromLines_rewriteLine contactUri l hne h, List.any_cons]
    cases hasName fromNames (trim l) with
    | true => rfl
    | false =>
      rw [Bool.false_or]
      exact uriFromLines_rewritten contactUri hne h ls

/-! ## The text that is sent on -/

/-- What makes the text that is sent on name the sender `uri`: no character of the URI ends a line or the
brackets; a request that is sent on as it is names the sender itself; and a request that is rewritten has a
`From` among its header lines, or else its body reads as if it had one for the sender. Where the new start
line reads as a `From`, it is the one that counts. -/
def NamesSender (request targetUri uri : Str) : Prop :=
  '>' ∉ uri ∧ '\n' ∉ uri ∧
  match startLine request with
  | none => extractUriFromHeader request "From".toList = .ok (some uri)
  | some (method, version) =>
    match uriFromLines fromNames [method ++ [' '] ++ targetUri ++ [' '] ++ version] with
    | .ok none => (∃ l ∈ headerLines (lines request).tail, hasName fromNames (trim l) = true) ∨
        uriFromLines fromNames (lines (bodyOf request)) = .ok (some uri)
    | found => found = .ok (some uri)

/-- What the new header lines, the empty line and the body read as. -/
theorem uriFromLines_outbound {method version targetUri domain uri : Str} (rest body : List Str)
    (transport : Transport) (branch : Vector UInt8 8) (hne : uri ≠ []) (h : '>' ∉ uri) :
    uriFromLines fromNames (outboundLines method version rest targetUri domain uri uri transport branch ++
        [] :: body) =
      uriFromLines fromNames [method ++ [' '] ++ targetUri ++ [' '] ++ version] >>= fun found =>
        match found with
        | some u => .ok (some u)
        | none =>
          if (headerLines rest).any fun l => hasName fromNames (trim l) then .ok (some uri)
          else uriFromLines fromNames body := by
  have hvia := hasName_from_of_name (fieldName_viaLine transport domain branch) (by decide)
  have hcontact := hasName_from_of_name (fieldName_contactLine uri) (by decide)
  have hblank : hasName fromNames (trim []) = false := by decide
  have hend : ∀ b : Bool, uriFromLines fromNames ((if b then [] else [contactLine uri]) ++ [] :: body) =
      uriFromLines fromNames body := by
    intro b
    cases b with
    | true =>
      rw [if_pos rfl, List.nil_append]
      exact uriFromLines_skip _ hblank
    | false =>
      rw [if_neg Bool.false_ne_true, List.singleton_append, uriFromLines_skip _ hcontact]
      exact uriFromLines_skip _ hblank
  have hsplit : outboundLines method version rest targetUri domain uri uri transport branch ++ [] :: body =
      [method ++ [' '] ++ targetUri ++ [' '] ++ version] ++ (viaLine transport domain branch ::
        ((headerLines rest).flatMap (rewriteLine uri uri) ++ ((if uri.isEmpty || (headerLines rest).any
          fun l => hasName contactNames (trim l) then [] else [contactLine uri]) ++ [] :: body))) := by
    simp only [outboundLines, List.append_assoc, List.cons_append, List.nil_append]
  rw [hsplit, uriFromLines_append, uriFromLines_skip _ hvia, uriFromLines_append,
    uriFromLines_rewritten uri hne h, hend]
  congr 1
  funext found
  cases found with
  | some u => rfl
  | none =>
    cases (headerLines rest).any fun l => hasName fromNames (trim l) with
    | true => rfl
    | false => rfl

/-- **When the text that is sent on names the sender**, for a URI with a parameter. -/
theorem namesSender_iff {request targetUri domain uri text : Str} {transport : Transport}
    {branch : Vector UInt8 8} (hsemi : ';' ∈ uri) (htarget : '\n' ∉ uri → '\n' ∉ targetUri)
    (hdomain : '\n' ∉ uri → '\n' ∉ domain)
    (h : buildOutboundRequestWithFrom request targetUri domain uri uri transport branch = .ok text) :
    extractUriFromHeader text "From".toList = .ok (some uri) ↔ NamesSender request targetUri uri := by
  rw [uriFromLines_from]
  by_cases hchars : '>' ∉ uri ∧ '\n' ∉ uri
  · obtain ⟨hangle, hlf⟩ := hchars
    have hne : uri ≠ [] := List.ne_nil_of_mem hsemi
    rw [buildOutboundRequestWithFrom_eq] at h
    unfold NamesSender
    rw [and_iff_right hangle, and_iff_right hlf]
    cases hs : startLine request with
    | none =>
      rw [hs] at h
      cases h
      rw [uriFromLines_from]
    | some p =>
      obtain ⟨method, version⟩ := p
      rw [hs] at h
      cases h
      obtain ⟨hmethod, hversion⟩ := lf_not_mem_startLine hs
      have hrest : ∀ l ∈ (lines request).tail, '\n' ∉ l := fun l hl =>
        not_mem_of_mem_lines (List.mem_of_mem_tail hl)
      have hlines : lines (joined (outboundLines method version (lines request).tail targetUri domain uri
          uri transport branch) (bodyOf request)) = _ :=
        lines_joined (bodyOf request) (outboundLines_ne transport branch)
          (outboundLines_lf transport branch hmethod hversion hrest (htarget hlf) (hdomain hlf) hlf hlf)
      change uriFromLines fromNames (lines (joined _ _)) = _ ↔ _
      rw [hlines, uriFromLines_outbound _ _ transport branch hne hangle]
      dsimp only
      cases uriFromLines fromNames [method ++ [' '] ++ targetUri ++ [' '] ++ version] with
      | error e => exact Iff.rfl
      | ok found =>
        cases found with
        | some u => exact Iff.rfl
        | none =>
          simp only [bind, Except.bind]
          by_cases hfrom : ∃ l ∈ headerLines (lines request).tail, hasName fromNames (trim l) = true
          · rw [if_pos (List.any_eq_true.mpr hfrom)]
            exact iff_of_true rfl (.inl hfrom)
          · rw [if_neg (fun hany => hfrom (List.any_eq_true.mp hany)), or_iff_right hfrom]
  · -- such a URI is never read off a message
    refine iff_of_false (fun hread => hchars ?_) (fun hnames => hchars ⟨hnames.1, hnames.2.1⟩)
    obtain ⟨⟨l, hl, hmem⟩, hor⟩ := extracted_chars hread
    exact ⟨hor.resolve_right (not_not_intro hsemi), fun hn => not_mem_of_mem_lines hl (hmem _ hn)⟩

end Minghe.Sip
