import Minghe.Sip.Forwarded

/-!
# Requests on their way out, header by header

`build_outbound_request` goes through the header lines one by one. What a reader takes from a header is
its name and its text, or, where options are negotiated, its option tags.

* `sent`: what is read of a header, if headers of its name are sent on at all.
* `OutboundLaw`: what is expected of a request that is sent on.

Results:
* `rewriteLine_spec`: what becomes of a header line, and that it is kept when it is rewritten again.
* `outbound_law`: **requests are sent on with their headers and their body**.
-/

namespace Minghe.Sip

open Minghe.Lib

/-! ## Headers as they are read -/

/-- A header line is one line, is not blank, and has no white space between its name and the colon. -/
structure HeaderLine (l : Str) : Prop where
  whole : '\n' ∉ l
  filled : trim l ≠ []
  name : ∀ p ∈ splitOnce ':' (trim l), ∀ c ∈ p.1, isWhitespace c = false

instance (l : Str) : Decidable (HeaderLine l) :=
  decidable_of_iff ('\n' ∉ l ∧ trim l ≠ [] ∧ ∀ p ∈ splitOnce ':' (trim l), ∀ c ∈ p.1, isWhitespace c = false)
    ⟨fun ⟨h1, h2, h3⟩ => ⟨h1, h2, h3⟩, fun h => ⟨h.whole, h.filled, h.name⟩⟩

/-- The name of a header, in lower case. -/
def headerName (line : Str) : Option Str := (splitOnce ':' (trim line)).map fun p => toAsciiLowercase (trim p.1)

/-- Whether a header has one of the names. -/
def named (names : List Str) (line : Str) : Bool := (headerName line).any fun q => decide (q ∈ names)

def viaFields : List Str := ["via".toList, "v".toList]
def routeFields : List Str := ["route".toList, "record-route".toList]
def contactFields : List Str := ["contact".toList, "m".toList]

/-- The names of the headers that are replaced or dropped. -/
def goneFields : List Str := viaFields ++ routeFields ++ contactFields ++ sessionTimerNames

/-- What is read of a header: its name and its option tags, or its text. -/
inductive Sent where
  | options (name : Str) (tags : List Str)
  | other (text : Str)
  deriving DecidableEq

/-- What is read of a header, unless it is replaced or dropped. -/
def sent (line : Str) : Option Sent :=
  if named goneFields line then none
  else match splitOnce ':' (trim line) with
    | some (name, value) =>
      if toAsciiLowercase (trim name) ∈ optionTagNames then some (.options (trim name) (items ',' value))
      else some (.other (trim line))
    | none => some (.other (trim line))

/-- Any option but those that the server does not support. -/
def otherTag (tag : Str) : Bool :=
  !eqIgnoreAsciiCase tag "timer".toList && !eqIgnoreAsciiCase tag "100rel".toList

/-- What is left of it. -/
def Sent.stripped : Sent → Option Sent
  | .options name tags => if (tags.filter otherTag).isEmpty then none else some (.options name (tags.filter otherTag))
  | .other text => some (.other text)

/-- What is expected of the `text` that is sent on for a request with the `headers` and the `body`; `sentOn` are
its headers. -/
structure OutboundLaw (method version : Str) (headers : List Str) (body targetUri domain contactUri : Str)
    (transport : Transport) (branch : Vector UInt8 8) (sentOn : List Str) (text : Str) : Prop where
  written : lines text = (method ++ [' '] ++ targetUri ++ [' '] ++ version) :: (sentOn ++ [] :: lines body)
  header : ∀ l ∈ sentOn, HeaderLine l
  body : bodyOf text = body
  via : sentOn.filter (named viaFields) = [viaLine transport domain branch]
  route : ∀ l ∈ sentOn, named routeFields l = false
  contact : ∀ l ∈ sentOn, named contactFields l = true → l = contactLine contactUri
  hasContact : (∃ l ∈ sentOn, named contactFields l = true) ↔ contactUri ≠ []
  timers : ∀ l ∈ sentOn, named sessionTimerNames l = false
  others : sentOn.filterMap sent = (headers.filterMap sent).filterMap Sent.stripped
  again : buildOutboundRequest text targetUri domain contactUri transport branch = .ok text

/-! ## Names -/

section

variable {l : Str}

theorem headerName_eq (h : HeaderLine l) : headerName l = fieldName (trim l) := by
  unfold headerName fieldName
  cases hs : splitOnce ':' (trim l) with
  | none => rfl
  | some p => rw [Option.map_some, Option.map_some, trim_of_forall_not (h.name p hs)]

theorem named_iff {names : List Str} : named names l = true ↔ ∃ q ∈ names, headerName l = some q := by
  unfold named
  cases headerName l with
  | none => simp
  | some q => simp [eq_comm]

theorem named_of_name {q : Str} (hq : headerName l = some q) (names : List Str) :
    named names l = decide (q ∈ names) := by
  rw [named, hq, Option.any_some]

/-- The test for a header is one for its name. -/
theorem hasName_trim (h : HeaderLine l) (names qs : List Str) (hn : names = fieldNames qs)
    (hp : ∀ p ∈ names, Plain p) (hq : ∀ q ∈ qs, ':' ∉ q) : hasName names (trim l) = named qs l := by
  rw [Bool.eq_iff_iff, hasName_iff qs hn hp hq, named_iff, headerName_eq h]

/-- A header has one name. -/
theorem named_disjoint {names names' : List Str} (h : named names l = true) (hdisj : ∀ q ∈ names, q ∉ names') :
    named names' l = false := by
  obtain ⟨q, hmem, hq⟩ := named_iff.mp h
  rw [named_of_name hq]
  exact decide_eq_false (hdisj q hmem)

theorem named_of_subset {names names' : List Str} (h : named names l = true) (hsub : ∀ q ∈ names, q ∈ names') :
    named names' l = true := by
  obtain ⟨q, hmem, hq⟩ := named_iff.mp h
  exact named_iff.mpr ⟨q, hsub q hmem, hq⟩

theorem sent_of_gone (h : named goneFields l = true) : sent l = none := if_pos h

/-- A header that is sent on is none of those that are replaced or dropped. -/
theorem named_of_sent {s : Sent} (h : sent l = some s) {names : List Str} (hsub : ∀ q ∈ names, q ∈ goneFields) :
    named names l = false := by
  rw [Bool.eq_false_iff]
  intro hname
  rw [sent_of_gone (named_of_subset hname hsub)] at h
  cases h

/-- The test of `build_outbound_request` on a header line. -/
theorem rewriteLine_eq (h : HeaderLine l) (contactUri : Str) : rewriteLine contactUri [] l =
    if named viaFields l then []
    else if named ["route".toList] l then []
    else if named ["record-route".toList] l then []
    else if named contactFields l then if contactUri.isEmpty then [] else [contactLine contactUri]
    else if named fromFields l then [l]
    else (stripUnsupportedNegotiationHeader (trim l)).toList := by
  unfold rewriteLine
  dsimp only
  rw [hasName_trim h viaNames viaFields rfl (by decide) (by decide),
    hasName_trim h ["route:".toList] ["route".toList] rfl (by decide) (by decide),
    hasName_trim h ["record-route:".toList] ["record-route".toList] rfl (by decide) (by decide),
    hasName_trim h contactNames contactFields rfl (by decide) (by decide),
    hasName_trim h fromNames fromFields rfl (by decide) (by decide)]
  rfl

end

/-! ## Option tags -/

/-- A header with option tags, as it is written. -/
def optionLine (name : Str) (tags : List Str) : Str := name ++ ": ".toList ++ List.intercalate ", ".toList tags

/-- `strip_unsupported_negotiation_header`, by the name of the header. -/
theorem strip_eq {t name value : Str} (h : splitOnce ':' t = some (name, value)) :
    stripUnsupportedNegotiationHeader t =
      if toAsciiLowercase (trim name) ∈ sessionTimerNames then none
      else if toAsciiLowercase (trim name) ∈ optionTagNames then
        if ((items ',' value).filter otherTag).isEmpty then none
        else some (optionLine (trim name) ((items ',' value).filter otherTag))
      else some t := by
  have htags : ((value.splitOn ',').map trim).filter (fun tag => !tag.isEmpty &&
      !eqIgnoreAsciiCase tag "timer".toList && !eqIgnoreAsciiCase tag "100rel".toList) =
        (items ',' value).filter otherTag := by
    rw [items, List.filter_filter]
    refine List.filter_congr fun tag _ => ?_
    unfold otherTag
    cases tag.isEmpty <;> simp
  unfold stripUnsupportedNegotiationHeader
  rw [h]
  dsimp only
  rw [htags]
  rfl

section

variable {name : Str} {tags : List Str}

theorem splitOnce_optionLine (tags : List Str) (hname : ':' ∉ name) :
    splitOnce ':' (optionLine name tags) = some (name, ' ' :: List.intercalate ", ".toList tags) := by
  refine splitOnce_eq_some.mpr ⟨?_, hname⟩
  unfold optionLine
  rw [List.append_assoc]
  rfl

/-- It is trimmed. -/
theorem trim_optionLine (hne : name ≠ []) (hname : ∀ c ∈ name, isWhitespace c = false) (htags : tags ≠ [])
    (htrim : ∀ tag ∈ tags, tag ≠ [] ∧ trim tag = tag) : trim (optionLine name tags) = optionLine name tags := by
  obtain ⟨front, last, hlast, he⟩ := exists_intercalate_eq ", ".toList htags
  obtain ⟨hfilled, htrimmed⟩ := htrim last hlast
  unfold optionLine
  rw [he, List.append_assoc, trim_word_append hne hname, ← List.append_assoc ": ".toList,
    trimEnd_append_of_trimmed _ hfilled htrimmed]

/-- It is a header line with these tags, and is written anew as it is. -/
theorem optionLine_spec (contactUri : Str) (hline : '\n' ∉ optionLine name tags)
    (hname : toAsciiLowercase name ∈ optionTagNames) (htags : tags ≠ [])
    (hitems : ∀ tag ∈ tags, (tag ≠ [] ∧ trim tag = tag ∧ ',' ∉ tag) ∧ otherTag tag = true) :
    HeaderLine (optionLine name tags) ∧ sent (optionLine name tags) = some (.options name tags) ∧
      rewriteLine contactUri [] (optionLine name tags) = [optionLine name tags] := by
  have hnames : ∀ q ∈ optionTagNames, ':' ∉ q ∧ q ≠ [] ∧ ∀ c ∈ q, isWhitespace c = false := by decide
  obtain ⟨hcolon, hlower, hblank⟩ := hnames _ hname
  rw [colon_mem_lower] at hcolon
  have hne : name ≠ [] := fun he => hlower (by rw [he]; rfl)
  have hword := isWhitespace_of_lower hblank
  have htrim : trim name = name := trim_of_forall_not hword
  have hself : trim (optionLine name tags) = optionLine name tags :=
    trim_optionLine hne hword htags fun tag ht => ⟨(hitems tag ht).1.1, (hitems tag ht).1.2.1⟩
  have hcut := splitOnce_optionLine tags hcolon
  have hread : items ',' (' ' :: List.intercalate ", ".toList tags) = tags :=
    items_intercalate (fun tag ht => (hitems tag ht).1) (by decide)
  have hkeep : tags.filter otherTag = tags := List.filter_eq_self.mpr fun tag ht => (hitems tag ht).2
  have hfield : headerName (optionLine name tags) = some (toAsciiLowercase name) := by
    rw [headerName, hself, hcut, Option.map_some, htrim]
  have hother : ∀ names : List Str, (∀ q ∈ optionTagNames, q ∉ names) → named names (optionLine name tags) = false :=
    fun names hdisj => (named_of_name hfield names).trans (decide_eq_false (hdisj _ hname))
  have hheader : HeaderLine (optionLine name tags) := by
    refine ⟨hline, ?_, fun p hp => ?_⟩
    · rw [hself]
      exact List.append_ne_nil_of_left_ne_nil (List.append_ne_nil_of_left_ne_nil hne _) _
    · rw [hself, hcut] at hp
      cases hp
      exact hword
  refine ⟨hheader, ?_, ?_⟩
  · unfold sent
    rw [hother goneFields (by decide), if_neg Bool.false_ne_true, hself, hcut]
    dsimp only
    rw [htrim, if_pos hname, hread]
  · have htimer : toAsciiLowercase (trim name) ∉ sessionTimerNames := by
      rw [htrim]
      have hdisj : ∀ q ∈ optionTagNames, q ∉ sessionTimerNames := by decide
      exact hdisj _ hname
    rw [rewriteLine_eq hheader, hother viaFields (by decide), hother ["route".toList] (by decide),
      hother ["record-route".toList] (by decide), hother contactFields (by decide), hother fromFields (by decide),
      hself, strip_eq hcut, if_neg htimer, htrim, if_pos hname, hread, hkeep, List.isEmpty_eq_false_iff.mpr htags]
    rfl

end

/-! ## Header by header -/

section

variable {l contactUri : Str}

theorem trim_headerLine (h : HeaderLine l) : HeaderLine (trim l) :=
  ⟨fun hc => h.whole (mem_of_mem_trim hc), by rw [trim_trim]; exact h.filled, by rw [trim_trim]; exact h.name⟩

theorem headerName_trim (l : Str) : headerName (trim l) = headerName l := by
  rw [headerName, trim_trim, headerName]

theorem named_trim (names : List Str) (l : Str) : named names (trim l) = named names l := by
  rw [named, headerName_trim, named]

theorem sent_trim (l : Str) : sent (trim l) = sent l := by
  unfold sent
  rw [named_trim, trim_trim]

/-- A header line that is dropped or replaced. -/
theorem rewriteLine_gone (h : HeaderLine l) (hgone : named goneFields l = true) : rewriteLine contactUri [] l =
    if named contactFields l = true ∧ contactUri ≠ [] then [contactLine contactUri] else [] := by
  have hnot : ∀ {names : List Str}, named names l = true → (∀ q ∈ names, q ∉ contactFields) →
      (if named contactFields l = true ∧ contactUri ≠ [] then [contactLine contactUri] else []) = [] := by
    intro names hname hdisj
    rw [named_disjoint hname hdisj]
    exact if_neg fun hand => Bool.false_ne_true hand.1
  rw [rewriteLine_eq h]
  by_cases hvia : named viaFields l = true
  · rw [if_pos hvia, hnot hvia (by decide)]
  rw [if_neg hvia]
  by_cases hroute : named ["route".toList] l = true
  · rw [if_pos hroute, hnot hroute (by decide)]
  rw [if_neg hroute]
  by_cases hrecord : named ["record-route".toList] l = true
  · rw [if_pos hrecord, hnot hrecord (by decide)]
  rw [if_neg hrecord]
  by_cases hcontact : named contactFields l = true
  · rw [if_pos hcontact]
    cases contactUri <;> simp [hcontact]
  rw [if_neg hcontact]
  -- only the session timers are left
  obtain ⟨q, hq, hname⟩ := named_iff.mp hgone
  have htimer : q ∈ sessionTimerNames := by
    have hother : ∀ {names : List Str}, ¬ named names l = true → q ∉ names := fun hn hmem =>
      hn (named_iff.mpr ⟨q, hmem, hname⟩)
    simp only [goneFields, List.mem_append] at hq
    rcases hq with ((hq | hq) | hq) | hq
    · exact absurd hq (hother hvia)
    · rcases List.mem_cons.mp hq with rfl | hq
      · exact absurd List.mem_cons_self (hother hroute)
      · exact absurd hq (hother hrecord)
    · exact absurd hq (hother hcontact)
    · exact hq
  have hdisj : ∀ q ∈ sessionTimerNames, q ∉ contactFields ∧ q ∉ fromFields := by decide
  have hfrom : named fromFields l = false :=
    (named_of_name hname fromFields).trans (decide_eq_false (hdisj q htimer).2)
  obtain ⟨p, hcut, rfl⟩ := Option.map_eq_some_iff.mp hname
  rw [hfrom, if_neg Bool.false_ne_true, strip_eq hcut, if_pos htimer,
    hnot (named_iff.mpr ⟨_, htimer, hname⟩) fun q hq => (hdisj q hq).1]
  rfl

/-- A header line that is read as `s` becomes one that is read as what is left of it, and is kept when it is
rewritten again; or nothing, if nothing is left. -/
def Becomes (contactUri l : Str) (s : Sent) : Prop :=
  s.stripped = none ∧ rewriteLine contactUri [] l = [] ∨
    ∃ x, (s.stripped).isSome ∧ sent x = s.stripped ∧ HeaderLine x ∧ rewriteLine contactUri [] l = [x] ∧
      rewriteLine contactUri [] x = [x]

/-- A header line that is sent on: it stays as it is, up to white space, or has its option tags left. -/
theorem rewriteLine_sent (h : HeaderLine l) (hcontact : '\n' ∉ contactUri) (hgone : named goneFields l = false) :
    ∃ s, sent l = some s ∧ Becomes contactUri l s := by
  have hother : ∀ names : List Str, (∀ q ∈ names, q ∈ goneFields) → named names l = false := by
    intro names hsub
    rw [Bool.eq_false_iff] at hgone ⊢
    exact fun hname => hgone (named_of_subset hname hsub)
  have hline : rewriteLine contactUri [] l =
      if named fromFields l then [l] else (stripUnsupportedNegotiationHeader (trim l)).toList := by
    rw [rewriteLine_eq h, hother viaFields (by decide), hother ["route".toList] (by decide),
      hother ["record-route".toList] (by decide), hother contactFields (by decide)]
    rfl
  have htrimmed : rewriteLine contactUri [] (trim l) =
      if named fromFields l then [trim l] else (stripUnsupportedNegotiationHeader (trim l)).toList := by
    rw [rewriteLine_eq (trim_headerLine h), trim_trim]
    simp only [named_trim]
    rw [hother viaFields (by decide), hother ["route".toList] (by decide),
      hother ["record-route".toList] (by decide), hother contactFields (by decide)]
    rfl
  -- a header that is not read for its tags, and is kept
  have hkept : sent l = some (.other (trim l)) →
      (named fromFields l = true ∨ stripUnsupportedNegotiationHeader (trim l) = some (trim l)) →
      ∃ s, sent l = some s ∧ Becomes contactUri l s := by
    intro hsent hstrip
    refine ⟨_, hsent, .inr ?_⟩
    by_cases hfrom : named fromFields l = true
    · rw [if_pos hfrom] at hline
      exact ⟨l, rfl, hsent, h, hline, hline⟩
    · rw [if_neg hfrom, hstrip.resolve_left hfrom] at hline htrimmed
      exact ⟨trim l, rfl, (sent_trim l).trans hsent, trim_headerLine h, hline, htrimmed⟩
  have hread : sent l = match splitOnce ':' (trim l) with
      | some (name, value) =>
        if toAsciiLowercase (trim name) ∈ optionTagNames then some (.options (trim name) (items ',' value))
        else some (.other (trim l))
      | none => some (.other (trim l)) := if_neg (by rw [hgone]; exact Bool.false_ne_true)
  cases hcut : splitOnce ':' (trim l) with
  | none =>
    rw [hcut] at hread
    refine hkept hread (.inr ?_)
    unfold stripUnsupportedNegotiationHeader
    rw [hcut]
  | some p =>
    obtain ⟨name, value⟩ := p
    have hword : trim name = name := trim_of_forall_not (h.name _ hcut)
    have hname : headerName l = some (toAsciiLowercase name) := by
      rw [headerName, hcut, Option.map_some, hword]
    have hstrip := strip_eq hcut
    have htimer : toAsciiLowercase name ∉ sessionTimerNames := by
      intro hmem
      have := hother sessionTimerNames (by decide)
      rw [named_of_name hname] at this
      exact of_decide_eq_false this hmem
    rw [hword, if_neg htimer] at hstrip
    rw [hcut] at hread
    dsimp only at hread
    rw [hword] at hread
    by_cases hoption : toAsciiLowercase name ∈ optionTagNames
    · have hfrom : named fromFields l = false := by
        have hdisj : ∀ q ∈ optionTagNames, q ∉ fromFields := by decide
        exact (named_of_name hname fromFields).trans (decide_eq_false (hdisj _ hoption))
      rw [if_pos hoption] at hread hstrip
      rw [hfrom, if_neg Bool.false_ne_true] at hline
      refine ⟨_, hread, ?_⟩
      unfold Becomes Sent.stripped
      dsimp only
      by_cases hempty : ((items ',' value).filter otherTag).isEmpty = true
      · rw [if_pos hempty] at hstrip ⊢
        rw [hstrip] at hline
        exact .inl ⟨rfl, hline⟩
      · rw [if_neg hempty] at hstrip ⊢
        rw [hstrip] at hline
        have hwhole : '\n' ∉ optionLine name ((items ',' value).filter otherTag) :=
          rewriteLine_lf hcontact List.not_mem_nil h.whole (by rw [hline]; exact List.mem_singleton_self _)
        obtain ⟨hheader, hsent, hagain⟩ := optionLine_spec contactUri hwhole hoption (by simpa using hempty)
          fun tag ht => ⟨of_mem_items (List.mem_filter.mp ht).1, (List.mem_filter.mp ht).2⟩
        exact .inr ⟨_, rfl, hsent, hheader, hline, hagain⟩
    · rw [if_neg hoption] at hread hstrip
      exact hkept hread (.inr hstrip)

/-- **What becomes of a header line.** -/
theorem rewriteLine_spec (h : HeaderLine l) (hcontact : '\n' ∉ contactUri) :
    (sent l = none ∧ rewriteLine contactUri [] l =
      if named contactFields l = true ∧ contactUri ≠ [] then [contactLine contactUri] else []) ∨
    (named contactFields l = false ∧ ∃ s, sent l = some s ∧ Becomes contactUri l s) := by
  by_cases hgone : named goneFields l = true
  · exact .inl ⟨sent_of_gone hgone, rewriteLine_gone h hgone⟩
  · have hnot : named contactFields l = false := by
      rw [Bool.eq_false_iff]
      exact fun hname => hgone (named_of_subset hname (by decide))
    exact .inr ⟨hnot, rewriteLine_sent h hcontact (Bool.eq_false_iff.mpr hgone)⟩

theorem contactLine_spec (hcontact : '\n' ∉ contactUri) :
    HeaderLine (contactLine contactUri) ∧ named contactFields (contactLine contactUri) = true := by
  have htrim : trim (contactLine contactUri) = contactLine contactUri :=
    trim_append_of_not ("ontact: <".toList ++ contactUri) [] (by decide) (by decide)
  have hcut : splitOnce ':' (contactLine contactUri) = some ("Contact".toList, " <".toList ++ contactUri ++ ['>']) :=
    splitOnce_eq_some.mpr ⟨contactLine_eq contactUri, by decide⟩
  have hword : ∀ c ∈ "Contact".toList, isWhitespace c = false := by decide
  refine ⟨⟨?_, ?_, fun p hp => ?_⟩, named_iff.mpr ⟨"contact".toList, by decide, ?_⟩⟩
  · unfold contactLine
    simp only [List.mem_append, not_or]
    exact ⟨⟨by decide, hcontact⟩, by decide⟩
  · rw [htrim]
    exact List.cons_ne_nil _ _
  · rw [htrim, hcut] at hp
    cases hp
    exact hword
  · rw [headerName, htrim, hcut]
    rfl

/-- What a header line becomes: the server's contact, or a header that is sent on. -/
theorem of_mem_rewriteLine (h : HeaderLine l) (hcontact : '\n' ∉ contactUri) {x : Str}
    (hx : x ∈ rewriteLine contactUri [] l) : HeaderLine x ∧ rewriteLine contactUri [] x = [x] ∧
      (x = contactLine contactUri ∧ contactUri ≠ [] ∧ sent x = none ∨ named goneFields x = false) := by
  rcases rewriteLine_spec h hcontact with ⟨-, hline⟩ | ⟨-, s, -, ⟨-, hline⟩ | ⟨y, hsome, hsent, hheader, hline, hagain⟩⟩
  · rw [hline] at hx
    split at hx
    · rename_i hand
      rw [List.mem_singleton] at hx
      obtain ⟨hheader, hname⟩ := contactLine_spec hcontact
      have hgone : named goneFields (contactLine contactUri) = true := named_of_subset hname (by decide)
      rw [hx, rewriteLine_gone hheader hgone]
      exact ⟨hheader, if_pos ⟨hname, hand.2⟩, .inl ⟨rfl, hand.2, sent_of_gone hgone⟩⟩
    · cases hx
  · rw [hline] at hx
    cases hx
  · rw [hline, List.mem_singleton] at hx
    rw [hx]
    refine ⟨hheader, hagain, .inr ?_⟩
    obtain ⟨s', hs'⟩ := Option.isSome_iff_exists.mp hsome
    exact named_of_sent (hsent.trans hs') fun q hq => hq

end

/-! ## The headers that are sent on -/

section

variable {headers : List Str} {domain contactUri : Str} (transport : Transport) (branch : Vector UInt8 8)

/-- The header lines that are written for those of a request. -/
def outboundHeaders (headers : List Str) (domain contactUri : Str) (transport : Transport) (branch : Vector UInt8 8) :
    List Str :=
  viaLine transport domain branch :: (headers.flatMap (rewriteLine contactUri []) ++
    if contactUri.isEmpty || headers.any (named contactFields) then [] else [contactLine contactUri])

theorem viaLine_spec (hdomain : ∀ c ∈ domain, isWhitespace c = false) :
    HeaderLine (viaLine transport domain branch) ∧ named viaFields (viaLine transport domain branch) = true := by
  have hname := fieldName_viaLine transport domain branch
  have hlf : '\n' ∉ viaLine transport domain branch := by
    have htoken : '\n' ∉ transport.viaToken := by cases transport <;> decide
    have hbranch := lf_not_mem_generateBranch branch
    have hdomain : '\n' ∉ domain := fun hc => absurd (hdomain _ hc) (by decide)
    rw [viaLine_eq]
    simp [htoken, hdomain, hbranch]
  have hword : ∀ c ∈ "via".toList, isWhitespace c = false := by decide
  have hheader : HeaderLine (viaLine transport domain branch) := by
    refine ⟨hlf, fun hnil => ?_, fun p hp => isWhitespace_of_lower ?_⟩
    · rw [hnil] at hname
      cases hname
    · rw [fieldName, hp, Option.map_some] at hname
      rw [Option.some.inj hname]
      exact hword
  exact ⟨hheader, named_iff.mpr ⟨_, List.mem_cons_self, (headerName_eq hheader).trans hname⟩⟩

/-- The headers behind the `Via`: each is the server's contact, or none of those that are replaced or dropped. -/
theorem of_mem_tail (hheaders : ∀ l ∈ headers, HeaderLine l) (hcontact : '\n' ∉ contactUri) {x : Str}
    (hx : x ∈ (outboundHeaders headers domain contactUri transport branch).tail) :
    HeaderLine x ∧ rewriteLine contactUri [] x = [x] ∧
      (x = contactLine contactUri ∧ contactUri ≠ [] ∧ sent x = none ∨ named goneFields x = false) := by
  rw [outboundHeaders, List.tail_cons, List.mem_append] at hx
  rcases hx with hx | hx
  · obtain ⟨l, hl, hx⟩ := List.mem_flatMap.mp hx
    exact of_mem_rewriteLine (hheaders l hl) hcontact hx
  · split at hx
    · cases hx
    · rename_i hnot
      rw [List.mem_singleton] at hx
      have hne : contactUri ≠ [] := by
        rintro rfl
        exact hnot rfl
      obtain ⟨hheader, hname⟩ := contactLine_spec hcontact
      have hgone : named goneFields (contactLine contactUri) = true := named_of_subset hname (by decide)
      rw [hx, rewriteLine_gone hheader hgone]
      exact ⟨hheader, if_pos ⟨hname, hne⟩, .inl ⟨rfl, hne, sent_of_gone hgone⟩⟩

/-- So none has another of the names that are replaced or dropped. -/
theorem named_tail (hheaders : ∀ l ∈ headers, HeaderLine l) (hcontact : '\n' ∉ contactUri) {names : List Str}
    (hnames : ∀ q ∈ names, q ∈ goneFields ∧ q ∉ contactFields) :
    ∀ l ∈ (outboundHeaders headers domain contactUri transport branch).tail, named names l = false := by
  intro l hl
  obtain ⟨-, -, ⟨rfl, -, -⟩ | hgone⟩ := of_mem_tail transport branch hheaders hcontact hl
  · exact named_disjoint (contactLine_spec hcontact).2 fun q hq hmem => (hnames q hmem).2 hq
  · rw [Bool.eq_false_iff] at hgone ⊢
    exact fun hname => hgone (named_of_subset hname fun q hq => (hnames q hq).1)

theorem outboundHeaders_eq : outboundHeaders headers domain contactUri transport branch =
    viaLine transport domain branch :: (outboundHeaders headers domain contactUri transport branch).tail := rfl

theorem outboundHeaders_header (hheaders : ∀ l ∈ headers, HeaderLine l) (hcontact : '\n' ∉ contactUri)
    (hdomain : ∀ c ∈ domain, isWhitespace c = false) :
    ∀ l ∈ outboundHeaders headers domain contactUri transport branch, HeaderLine l := by
  intro l hl
  rw [outboundHeaders_eq] at hl
  rcases List.mem_cons.mp hl with rfl | hl
  · exact (viaLine_spec transport branch hdomain).1
  · exact (of_mem_tail transport branch hheaders hcontact hl).1

/-- Headers that are dropped. -/
theorem outboundHeaders_never (hheaders : ∀ l ∈ headers, HeaderLine l) (hcontact : '\n' ∉ contactUri)
    (hdomain : ∀ c ∈ domain, isWhitespace c = false) {names : List Str}
    (hnames : ∀ q ∈ names, q ∈ goneFields ∧ q ∉ contactFields) (hvia : ∀ q ∈ viaFields, q ∉ names) :
    ∀ l ∈ outboundHeaders headers domain contactUri transport branch, named names l = false := by
  intro l hl
  rw [outboundHeaders_eq] at hl
  rcases List.mem_cons.mp hl with rfl | hl
  · exact named_disjoint (viaLine_spec transport branch hdomain).2 hvia
  · exact named_tail transport branch hheaders hcontact hnames l hl

/-- The only `Via`. -/
theorem outboundHeaders_via (hheaders : ∀ l ∈ headers, HeaderLine l) (hcontact : '\n' ∉ contactUri)
    (hdomain : ∀ c ∈ domain, isWhitespace c = false) :
    (outboundHeaders headers domain contactUri transport branch).filter (named viaFields) =
      [viaLine transport domain branch] := by
  have hnone : ∀ l ∈ (outboundHeaders headers domain contactUri transport branch).tail, named viaFields l = false :=
    named_tail transport branch hheaders hcontact (by decide)
  rw [outboundHeaders_eq, List.filter_cons_of_pos (viaLine_spec transport branch hdomain).2,
    List.filter_eq_nil_iff.mpr fun l hl => by rw [hnone l hl]; exact Bool.false_ne_true]

/-- The only contact. -/
theorem eq_contactLine (hheaders : ∀ l ∈ headers, HeaderLine l) (hcontact : '\n' ∉ contactUri)
    (hdomain : ∀ c ∈ domain, isWhitespace c = false) :
    ∀ l ∈ outboundHeaders headers domain contactUri transport branch, named contactFields l = true →
      l = contactLine contactUri ∧ contactUri ≠ [] := by
  intro l hl hname
  rw [outboundHeaders_eq] at hl
  rcases List.mem_cons.mp hl with rfl | hl
  · rw [named_disjoint (viaLine_spec transport branch hdomain).2 (by decide)] at hname
    cases hname
  · obtain ⟨-, -, ⟨he, hne, -⟩ | hgone⟩ := of_mem_tail transport branch hheaders hcontact hl
    · exact ⟨he, hne⟩
    · rw [named_of_subset hname (by decide)] at hgone
      cases hgone

/-- There is a contact iff the server has one. -/
theorem exists_contact_iff (hheaders : ∀ l ∈ headers, HeaderLine l) (hcontact : '\n' ∉ contactUri)
    (hdomain : ∀ c ∈ domain, isWhitespace c = false) :
    (∃ l ∈ outboundHeaders headers domain contactUri transport branch, named contactFields l = true) ↔
      contactUri ≠ [] := by
  constructor
  · rintro ⟨x, hx, hname⟩
    exact (eq_contactLine transport branch hheaders hcontact hdomain x hx hname).2
  · intro hne
    refine ⟨contactLine contactUri, List.mem_cons_of_mem _ ?_, (contactLine_spec hcontact).2⟩
    rw [List.mem_append]
    by_cases hany : headers.any (named contactFields) = true
    · obtain ⟨l, hl, hname⟩ := List.any_eq_true.mp hany
      refine .inl (List.mem_flatMap.mpr ⟨l, hl, ?_⟩)
      rw [rewriteLine_gone (hheaders l hl) (named_of_subset hname (by decide)), if_pos ⟨hname, hne⟩]
      exact List.mem_singleton_self _
    · rw [Bool.not_eq_true] at hany
      rw [hany, List.isEmpty_eq_false_iff.mpr hne]
      exact .inr (List.mem_singleton_self _)

/-- **What is read of the headers**: their option tags without those that the server does not support, and the
other headers, in order. -/
theorem filterMap_sent (hheaders : ∀ l ∈ headers, HeaderLine l) (hcontact : '\n' ∉ contactUri)
    (hdomain : ∀ c ∈ domain, isWhitespace c = false) :
    (outboundHeaders headers domain contactUri transport branch).filterMap sent =
      (headers.filterMap sent).filterMap Sent.stripped := by
  have hvia : sent (viaLine transport domain branch) = none :=
    sent_of_gone (named_of_subset (viaLine_spec transport branch hdomain).2 (by decide))
  have hserver : sent (contactLine contactUri) = none :=
    sent_of_gone (named_of_subset (contactLine_spec hcontact).2 (by decide))
  have hstep : ∀ l ∈ headers, (rewriteLine contactUri [] l).filterMap sent =
      ((sent l).bind Sent.stripped).toList := by
    intro l hl
    rcases rewriteLine_spec (hheaders l hl) hcontact with ⟨hnone, hline⟩ | ⟨-, s, hsome, hbecomes⟩
    · rw [hline, hnone]
      split
      · rw [List.filterMap_cons_none hserver]
        rfl
      · rfl
    · rw [hsome, Option.bind_some]
      rcases hbecomes with ⟨hnone, hline⟩ | ⟨x, hkept, hsent, -, hline, -⟩
      · rw [hline, hnone]
        rfl
      · obtain ⟨s', hs'⟩ := Option.isSome_iff_exists.mp hkept
        rw [hline, List.filterMap_cons_some (hsent.trans hs'), hs']
        rfl
  have hend : (if contactUri.isEmpty || headers.any (named contactFields) then []
      else [contactLine contactUri]).filterMap sent = [] := by
    split
    · rfl
    · exact List.filterMap_cons_none hserver
  rw [outboundHeaders, List.filterMap_cons_none hvia, List.filterMap_append, hend, List.append_nil,
    List.filterMap_filterMap, List.filterMap_flatMap, List.filterMap_eq_flatMap_toList]
  exact List.flatMap_congr hstep

/-- **The headers that are sent on are kept** when they are rewritten again. -/
theorem outboundHeaders_again (hheaders : ∀ l ∈ headers, HeaderLine l) (hcontact : '\n' ∉ contactUri)
    (hdomain : ∀ c ∈ domain, isWhitespace c = false) :
    outboundHeaders (outboundHeaders headers domain contactUri transport branch) domain contactUri transport branch =
      outboundHeaders headers domain contactUri transport branch := by
  obtain ⟨hheader, hname⟩ := viaLine_spec transport branch hdomain
  have hvia : rewriteLine contactUri [] (viaLine transport domain branch) = [] := by
    rw [rewriteLine_gone hheader (named_of_subset hname (by decide)), named_disjoint hname (by decide)]
    exact if_neg fun hand => Bool.false_ne_true hand.1
  have htail : (outboundHeaders headers domain contactUri transport branch).tail.flatMap (rewriteLine contactUri []) =
      (outboundHeaders headers domain contactUri transport branch).tail := by
    refine (List.flatMap_congr fun x hx => ?_).trans (List.flatMap_singleton' _)
    exact (of_mem_tail transport branch hheaders hcontact hx).2.1
  have hend : (contactUri.isEmpty ||
      (outboundHeaders headers domain contactUri transport branch).any (named contactFields)) = true := by
    rw [Bool.or_eq_true, List.any_eq_true, exists_contact_iff transport branch hheaders hcontact hdomain,
      List.isEmpty_iff]
    exact em _
  have hsplit : outboundHeaders headers domain contactUri transport branch =
      viaLine transport domain branch :: (outboundHeaders headers domain contactUri transport branch).tail := rfl
  conv_lhs => rw [outboundHeaders, if_pos hend, List.append_nil, hsplit, List.flatMap_cons, hvia, List.nil_append,
    htail]
  rfl

/-- **What is written for a request.** -/
theorem buildOutboundRequest_joined {first method uri version : Str} (body targetUri : Str)
    (hfirst : '\n' ∉ first) (hwords : splitWhitespace first = [method, uri, version])
    (hreq : ¬ sipVersion <+: method) (hheaders : ∀ l ∈ headers, HeaderLine l) :
    buildOutboundRequest (joined (first :: headers) body) targetUri domain contactUri transport branch =
      .ok (joined ((method ++ [' '] ++ targetUri ++ [' '] ++ version) ::
        outboundHeaders headers domain contactUri transport branch) body) := by
  have hfilled : first ≠ [] := by
    rintro rfl
    cases hwords
  have hline : ∀ l ∈ first :: headers, '\n' ∉ l ∧ l ≠ [] := by
    intro l hl
    rcases List.mem_cons.mp hl with rfl | hl
    · exact ⟨hfirst, hfilled⟩
    · refine ⟨(hheaders l hl).whole, ?_⟩
      rintro rfl
      exact (hheaders [] hl).filled rfl
  have hlines := lines_joined body (List.cons_ne_nil first headers) fun l hl => (hline l hl).1
  have hbody := bodyOf_joined body (List.cons_ne_nil first headers) (fun l hl => (hline l hl).1) fun l hl =>
    (hline l hl).2
  have hstart : startLine (joined (first :: headers) body) = some (method, version) := by
    rw [startLine, hlines, List.cons_append, List.headD_cons, hwords]
    exact if_neg hreq
  have hall : headerLines headers = headers := List.takeWhile_eq_self_iff.mpr fun l hl => by
    simpa using (hheaders l hl).filled
  have hcontact : (headers.any fun l => hasName contactNames (trim l)) = headers.any (named contactFields) := by
    rw [Bool.eq_iff_iff, List.any_eq_true, List.any_eq_true]
    refine exists_congr fun l => and_congr_right fun hl => ?_
    rw [hasName_trim (hheaders l hl) contactNames contactFields rfl (by decide) (by decide)]
  have hwritten : outboundLines method version (headers ++ [] :: lines body) targetUri domain contactUri [] transport
      branch = (method ++ [' '] ++ targetUri ++ [' '] ++ version) ::
        outboundHeaders headers domain contactUri transport branch := by
    unfold outboundLines
    rw [headerLines_append, hall, hcontact]
    rfl
  rw [buildOutboundRequest, buildOutboundRequestWithFrom_eq, hstart, hlines, hbody, List.cons_append, List.tail_cons]
  dsimp only
  rw [hwritten]
  rfl

/-- A target is the second word of the start line that is written, unless it is empty. -/
theorem splitWhitespace_startLine {first method uri version targetUri : Str}
    (hwords : splitWhitespace first = [method, uri, version]) (htarget : ∀ c ∈ targetUri, isWhitespace c = false) :
    splitWhitespace (method ++ [' '] ++ targetUri ++ [' '] ++ version) =
      if targetUri = [] then [method, version] else [method, targetUri, version] := by
  have hword : ∀ word ∈ [method, uri, version], word ≠ [] ∧ ∀ c ∈ word, isWhitespace c = false := fun word hw =>
    word_of_mem_splitWhitespace (hwords.symm ▸ hw)
  have hmethod := hword method (by simp)
  have hversion := hword version (by simp)
  split
  · rename_i hnil
    have htwo : splitWhitespace ([' '].intercalate [method, version]) = [method, version] :=
      splitWhitespace_intercalate (by simpa using ⟨hmethod, hversion⟩)
    have hskip : splitWhitespace ([' '] ++ version) = splitWhitespace version :=
      splitWhitespace_skip version (by decide)
    rw [hnil, List.append_nil, List.append_assoc, List.append_assoc,
      splitWhitespace_word hmethod.1 hmethod.2 (by rintro c ⟨rfl⟩; decide),
      splitWhitespace_skip (w := [' ']) _ (by decide), hskip]
    rw [List.intercalate_cons_cons, List.intercalate_singleton, List.append_assoc,
      splitWhitespace_word hmethod.1 hmethod.2 (by rintro c ⟨rfl⟩; decide), hskip] at htwo
    exact htwo
  · rename_i hne
    have hthree : splitWhitespace ([' '].intercalate [method, targetUri, version]) = [method, targetUri, version] :=
      splitWhitespace_intercalate (by simpa using ⟨hmethod, ⟨hne, htarget⟩, hversion⟩)
    rw [List.intercalate_cons_cons, List.intercalate_cons_cons, List.intercalate_singleton] at hthree
    simpa only [List.append_assoc] using hthree

end

/-- **Requests are sent on with their headers and their body.** -/
theorem outbound_law (first method uri version : Str) (headers : List Str) (body targetUri domain contactUri : Str)
    (transport : Transport) (branch : Vector UInt8 8) (hfirst : '\n' ∉ first)
    (hwords : splitWhitespace first = [method, uri, version]) (hreq : ¬ sipVersion <+: method)
    (hheaders : ∀ l ∈ headers, HeaderLine l) (htarget : ∀ c ∈ targetUri, isWhitespace c = false)
    (hdomain : ∀ c ∈ domain, isWhitespace c = false) (hcontact : ∀ c ∈ contactUri, isWhitespace c = false) :
    ∃ sentOn text, buildOutboundRequest (joined (first :: headers) body) targetUri domain contactUri transport branch
        = .ok text ∧
      OutboundLaw method version headers body targetUri domain contactUri transport branch sentOn text := by
  have hlf : ∀ {s : Str}, (∀ c ∈ s, isWhitespace c = false) → '\n' ∉ s := fun hs hc =>
    absurd (hs _ hc) (by decide)
  have hword : ∀ word ∈ [method, uri, version], ∀ c ∈ word, isWhitespace c = false := fun word hw =>
    (word_of_mem_splitWhitespace (hwords.symm ▸ hw)).2
  have hstart : '\n' ∉ method ++ [' '] ++ targetUri ++ [' '] ++ version := by
    have hmethod := hlf (hword method (by simp))
    have hversion := hlf (hword version (by simp))
    simp [hmethod, hlf htarget, hversion]
  have hsenton := outboundHeaders_header transport branch hheaders (hlf hcontact) hdomain
  have hlines : ∀ l ∈ (method ++ [' '] ++ targetUri ++ [' '] ++ version) ::
      outboundHeaders headers domain contactUri transport branch, '\n' ∉ l ∧ l ≠ [] := by
    intro l hl
    rcases List.mem_cons.mp hl with rfl | hl
    · exact ⟨hstart, by simp⟩
    · refine ⟨(hsenton l hl).whole, ?_⟩
      rintro rfl
      exact (hsenton [] hl).filled rfl
  refine ⟨outboundHeaders headers domain contactUri transport branch, _,
    buildOutboundRequest_joined transport branch body targetUri hfirst hwords hreq hheaders, ?_⟩
  constructor
  case written => exact lines_joined body (List.cons_ne_nil _ _) fun l hl => (hlines l hl).1
  case header => exact hsenton
  case body =>
    exact bodyOf_joined body (List.cons_ne_nil _ _) (fun l hl => (hlines l hl).1) fun l hl => (hlines l hl).2
  case via => exact outboundHeaders_via transport branch hheaders (hlf hcontact) hdomain
  case route => exact outboundHeaders_never transport branch hheaders (hlf hcontact) hdomain (by decide) (by decide)
  case contact => exact fun l hl hname => (eq_contactLine transport branch hheaders (hlf hcontact) hdomain l hl hname).1
  case hasContact => exact exists_contact_iff transport branch hheaders (hlf hcontact) hdomain
  case timers => exact outboundHeaders_never transport branch hheaders (hlf hcontact) hdomain (by decide) (by decide)
  case others => exact filterMap_sent transport branch hheaders (hlf hcontact) hdomain
  case again =>
    have hread := splitWhitespace_startLine hwords htarget
    by_cases hnil : targetUri = []
    · -- the start line has lost its target, and the request is returned as it is
      rw [if_pos hnil] at hread
      have hnone : startLine (joined ((method ++ [' '] ++ targetUri ++ [' '] ++ version) ::
          outboundHeaders headers domain contactUri transport branch) body) = none := by
        rw [startLine, lines_joined body (List.cons_ne_nil _ _) fun l hl => (hlines l hl).1, List.cons_append,
          List.headD_cons, hread]
      rw [buildOutboundRequest, buildOutboundRequestWithFrom_eq, hnone]
    · rw [if_neg hnil] at hread
      rw [buildOutboundRequest_joined transport branch body targetUri hstart hread hreq hsenton,
        outboundHeaders_again transport branch hheaders (hlf hcontact) hdomain]

/-- A request with options, a route and a contact. -/
theorem outbound_concrete :
    let headers := ["v: X".toList, "Route: <sip:p>".toList, "m: <sip:a>".toList, "Supported: 100rel, gruu".toList,
      "k: timer".toList, "f: a ".toList]
    ∃ sentOn text, buildOutboundRequest (joined ("INVITE sip:b SIP/2.0".toList :: headers) "v=0".toList)
        "sip:b@x".toList "x".toList "sip:s@x".toList .tls (Vector.replicate 8 0) = .ok text ∧
      OutboundLaw "INVITE".toList "SIP/2.0".toList headers "v=0".toList "sip:b@x".toList "x".toList "sip:s@x".toList
        .tls (Vector.replicate 8 0) sentOn text :=
  outbound_law _ "INVITE".toList "sip:b".toList "SIP/2.0".toList _ _ _ _ _ .tls _ (by decide +kernel)
    (by decide +kernel) (by decide +kernel) (by decide +kernel) (by decide +kernel) (by decide +kernel)
    (by decide +kernel)

end Minghe.Sip
