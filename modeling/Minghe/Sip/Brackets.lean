import Minghe.Lib.NoCase
import Minghe.Sip.Parser

/-!
# The text between brackets

`extract_uri_from_header`, `extract_contact_uri` and `extract_extension` (`parser.rs`) look for the first
`<` and for the first `>` of a value, each from its start, and take the text in between. A value whose
first `>` stands in front of its first `<` makes the slice run backwards, and the task panics.

* `Inverted`: such a value.
* `Bracketed`: what stands between the first `<` and the next `>` behind it.
* `ReadsBrackets`: what is expected of the functions.
* `brackets_read_iff`: for every text each of the three functions reads what is in the brackets, and does
  not panic, iff no value that it examines is `Inverted`.
* `brackets_panic`: a `>` in a display name, in front of the URI, makes each of them panic.
-/

namespace Minghe.Sip

open Minghe.Lib

/-- The first `'>'` of the value stands in front of its first `'<'`. -/
def Inverted (value : Str) : Prop :=
  ∃ front back, value = front ++ '>' :: back ∧ '>' ∉ front ∧ '<' ∉ front ∧ '<' ∈ back

/-- The text between the first `'<'` of the value and the next `'>'` behind it. -/
def Bracketed (value inside : Str) : Prop :=
  ∃ front back, value = front ++ '<' :: (inside ++ '>' :: back) ∧ '<' ∉ front ∧ '>' ∉ inside

/-- The values of the header, in the lines of a message. -/
def headerValues (names : List Str) (text : Str) : List Str :=
  (lines text).filterMap fun line => headField names (trim line)

/-- A value that `extract_uri_from_header` passes over: it has no brackets, and nothing else. -/
def PassedOver (value : Str) : Prop :=
  ¬ Inverted value ∧ (¬ ∃ inside, Bracketed value inside) ∧ trim (upTo (· == ';') (trim value)) = []

/-- The values that `extract_uri_from_header` examines: those before it are passed over. -/
def ExaminedUri (values : List Str) (value : Str) : Prop :=
  ∃ before after, values = before ++ value :: after ∧ ∀ v ∈ before, PassedOver v

/-- The value that `extract_contact_uri` examines: the first one. -/
def ExaminedContact (text value : Str) : Prop :=
  (headerValues contactNames text).head?.map trim = some value

/-- **What is expected of a function that reads a URI**: it does not panic, and takes what stands between
the brackets of the value that it examines. -/
structure ReadsBrackets (read : Checked (Option Str)) (Examined : Str → Prop) : Prop where
  checked : ∃ uri, read = .ok uri
  inside : ∀ value inside, Examined value → Bracketed value inside → read = .ok (some inside)

/-- So it is for `extract_extension`, which goes on to read the user of the URI. -/
structure ReadsUser (uriStr : Str) : Prop where
  checked : ∃ user, extractExtension uriStr = .ok user
  inside : ∀ inside, Bracketed uriStr inside → extractExtension uriStr = extractExtension inside ∧
    ∀ user, extractExtension uriStr = .ok (some user) → user <:+: inside

/-- The headers whose names `extract_uri_from_header` knows. -/
def uriHeaders : List Str := ["From".toList, "To".toList, "Contact".toList, "Via".toList, "Call-ID".toList]

/-- The names of a header, in the order of the source. -/
def uriNames (headerName : Str) : List Str :=
  (toLowercase headerName ++ [':']) :: (compactName headerName).toList

/-! ## Brackets -/

theorem betweenBrackets_inverted {value : Str} (h : Inverted value) :
    betweenBrackets value = .error .panic := by
  obtain ⟨front, back, rfl, hclose, hopen, hback⟩ := h
  obtain ⟨front', back', hback⟩ : ∃ front' back', splitOnce '<' back = some (front', back') := by
    cases hs : splitOnce '<' back with
    | none => exact absurd hback (splitOnce_eq_none.mp hs)
    | some p => exact ⟨p.1, p.2, rfl⟩
  obtain ⟨rfl, hopen'⟩ := splitOnce_eq_some.mp hback
  have hstart : splitOnce '<' (front ++ '>' :: (front' ++ '<' :: back')) =
      some (front ++ '>' :: front', back') := by
    refine splitOnce_eq_some.mpr ⟨by simp, ?_⟩
    simp [hopen, hopen']
  have hstop : splitOnce '>' (front ++ '>' :: (front' ++ '<' :: back')) =
      some (front, front' ++ '<' :: back') := splitOnce_eq_some.mpr ⟨rfl, hclose⟩
  unfold betweenBrackets
  rw [find_char, find_char, hstart, hstop]
  simp only [Option.map_some]
  unfold Res.strRange
  rw [if_neg (by simp only [byteLen_append]; omega)]
  rfl

/-- **What stands between the brackets**, if they are not the wrong way round. -/
theorem betweenBrackets_straight {value : Str} (h : ¬ Inverted value) :
    (∃ inside, Bracketed value inside ∧ betweenBrackets value = .ok (some inside)) ∨
      (¬ ∃ inside, Bracketed value inside) ∧ betweenBrackets value = .ok none := by
  cases hstart : splitOnce '<' value with
  | none =>
    refine .inr ⟨?_, ?_⟩
    · rintro ⟨inside, front, back, rfl, -⟩
      exact splitOnce_eq_none.mp hstart (by simp)
    · unfold betweenBrackets
      rw [find_char, hstart]
      rfl
  | some p =>
  cases hstop : splitOnce '>' value with
  | none =>
    refine .inr ⟨?_, ?_⟩
    · rintro ⟨inside, front, back, rfl, -⟩
      exact splitOnce_eq_none.mp hstop (by simp)
    · unfold betweenBrackets
      rw [find_char, find_char, hstart, hstop]
      rfl
  | some q =>
    obtain ⟨front, rest⟩ := p
    obtain ⟨front', back⟩ := q
    obtain ⟨hvalue, hopen⟩ := splitOnce_eq_some.mp hstart
    obtain ⟨hvalue', hclose⟩ := splitOnce_eq_some.mp hstop
    rcases List.append_eq_append_iff.mp (hvalue.symm.trans hvalue') with ⟨mid, rfl, hrest⟩ | ⟨mid, rfl, hback⟩
    · cases mid with
      | nil =>
        rw [List.nil_append] at hrest
        cases hrest
      | cons c inside =>
        obtain ⟨rfl, rfl⟩ := List.cons.inj hrest
        refine .inl ⟨inside, ⟨front, back, hvalue, hopen, fun hin => hclose (by simp [hin])⟩, ?_⟩
        unfold betweenBrackets
        rw [find_char, find_char, hstart, hstop]
        have hcut := Res.strRange_append (E := Empty) (front ++ ['<']) inside ('>' :: back)
        rw [byteLen_append] at hcut
        have hwhole : value = front ++ ['<'] ++ inside ++ '>' :: back := by rw [hvalue]; simp
        have hlen : byteLen (front ++ '<' :: inside) = byteLen front + byteLen ['<'] + byteLen inside := by
          rw [byteLen_append, byteLen_cons, byteLen_cons, byteLen_nil, Nat.add_zero, Nat.add_assoc]
        simp only [Option.map_some, hlen]
        rw [hwhole]
        exact congrArg (· >>= fun u => Except.ok (some u)) hcut
    · cases mid with
      | nil =>
        rw [List.nil_append] at hback
        cases hback
      | cons c mid =>
        obtain ⟨rfl, rfl⟩ := List.cons.inj hback
        exact absurd ⟨front', _, hvalue', hclose, fun hin => hopen (by simp [hin]), by simp⟩ h

/-- What stands between the brackets is one text. -/
theorem Bracketed.unique {value inside inside' : Str} (h : Bracketed value inside)
    (h' : Bracketed value inside') : inside = inside' := by
  obtain ⟨front, back, rfl, hopen, hclose⟩ := h
  obtain ⟨front', back', hvalue, hopen', hclose'⟩ := h'
  have hcut : splitOnce '<' (front ++ '<' :: (inside ++ '>' :: back)) = some (front, inside ++ '>' :: back) :=
    splitOnce_eq_some.mpr ⟨rfl, hopen⟩
  rw [splitOnce_eq_some.mpr ⟨hvalue, hopen'⟩] at hcut
  obtain ⟨rfl, hrest⟩ := Prod.mk.inj (Option.some.inj hcut)
  have hcut' : splitOnce '>' (inside ++ '>' :: back) = some (inside, back) :=
    splitOnce_eq_some.mpr ⟨rfl, hclose⟩
  rw [← hrest, splitOnce_eq_some.mpr ⟨rfl, hclose'⟩] at hcut'
  exact (Prod.mk.inj (Option.some.inj hcut')).1.symm

/-! ## The user of a URI -/

/-- `extract_extension` behind the brackets. -/
def userOf (uriPart : Str) : Checked (Option Str) := do
  let withoutScheme := (← Res.afterName uriSchemes uriPart).getD uriPart
  match find ['@'] withoutScheme with
  | some atPos =>
    let user := upTo (· == ';') (← Res.strTo withoutScheme atPos)
    return if user.isEmpty then none else some user
  | none =>
    let user := upTo (· == ';') withoutScheme
    return if !user.isEmpty && user.all Char.isDigit then some user else none

theorem extractExtension_eq {uriStr : Str} {uri : Option Str} (h : betweenBrackets uriStr = .ok uri) :
    extractExtension uriStr = userOf (uri.getD uriStr) := by
  unfold extractExtension
  rw [h]
  rfl

theorem uriSchemes_plain : ∀ p ∈ uriSchemes, Plain p := by decide

theorem upTo_isInfix (p : Char → Bool) (s : Str) : upTo p s <:+: s := (List.takeWhile_prefix _).isInfix

theorem headField_suffix {names : List Str} {trimmed value : Str}
    (h : headField names trimmed = some value) : value <:+ trimmed := by
  obtain ⟨name, -, rfl⟩ := Option.map_eq_some_iff.mp h
  exact List.drop_suffix _ _

/-- The user is part of the URI, and is read without a panic. -/
theorem userOf_ok (uriPart : Str) :
    ∃ r, userOf uriPart = .ok r ∧ ∀ user, r = some user → user <:+: uriPart := by
  unfold userOf
  rw [afterName_eq uriSchemes_plain]
  obtain ⟨withoutScheme, hscheme, hpart⟩ : ∃ w, (headField uriSchemes uriPart).getD uriPart = w ∧
      w <:+: uriPart := by
    cases h : headField uriSchemes uriPart with
    | none => exact ⟨_, rfl, List.infix_refl _⟩
    | some value => exact ⟨_, rfl, (headField_suffix h).isInfix⟩
  simp only [bind, Except.bind, hscheme]
  cases hat : splitOnce '@' withoutScheme with
  | none =>
    rw [find_char, hat]
    refine ⟨_, rfl, fun user huser => ?_⟩
    split at huser
    · cases huser
      exact (upTo_isInfix _ _).trans hpart
    · cases huser
  | some p =>
    obtain ⟨front, host⟩ := p
    obtain ⟨hwhole, -⟩ := splitOnce_eq_some.mp hat
    rw [find_char, hat]
    have hcut := Res.strTo_append (E := Empty) front ('@' :: host)
    rw [← hwhole] at hcut
    simp only [Option.map_some, hcut]
    refine ⟨_, rfl, fun user huser => ?_⟩
    split at huser
    · cases huser
    · cases huser
      refine (upTo_isInfix _ _).trans (List.IsInfix.trans ?_ hpart)
      rw [hwhole]
      exact (List.prefix_append _ _).isInfix

/-- **`extract_extension`.** -/
theorem readsUser_iff (uriStr : Str) : ReadsUser uriStr ↔ ¬ Inverted uriStr := by
  constructor
  · rintro ⟨⟨user, huser⟩, -⟩ h
    unfold extractExtension at huser
    rw [betweenBrackets_inverted h] at huser
    cases huser
  · intro h
    rcases betweenBrackets_straight h with ⟨inside, hinside, he⟩ | ⟨hnone, he⟩
    · have heq := extractExtension_eq he
      obtain ⟨r, hr, hpart⟩ := userOf_ok inside
      refine ⟨⟨r, heq.trans hr⟩, fun inside' hinside' => ?_⟩
      obtain rfl := hinside.unique hinside'
      -- there is no bracket within the brackets
      have hclose : '>' ∉ inside := by
        obtain ⟨_, _, -, -, hclose⟩ := hinside
        exact hclose
      have hplain : betweenBrackets inside = .ok none := by
        have hstraight : ¬ Inverted inside := by
          rintro ⟨_, _, rfl, -⟩
          exact hclose (by simp)
        rcases betweenBrackets_straight hstraight with ⟨_, ⟨_, _, rfl, -⟩, -⟩ | ⟨-, h⟩
        · exact absurd (by simp) hclose
        · exact h
      refine ⟨heq.trans (extractExtension_eq hplain).symm, fun user huser => ?_⟩
      cases (heq.trans hr).symm.trans huser
      exact hpart user rfl
    · obtain ⟨r, hr, -⟩ := userOf_ok uriStr
      exact ⟨⟨r, (extractExtension_eq he).trans hr⟩, fun inside hinside => absurd ⟨inside, hinside⟩ hnone⟩

/-! ## The contact -/

theorem contactNames_plain : ∀ p ∈ contactNames, Plain p := by decide

/-- The parameters of a contact are cut off at the boundary of a character. -/
theorem contactValue_ok {value : Str} (h : ¬ Inverted value) :
    ∃ uri, contactValue value = .ok uri ∧ ∀ inside, Bracketed value inside → uri = inside := by
  unfold contactValue
  rcases betweenBrackets_straight h with ⟨inside, hinside, he⟩ | ⟨hnone, he⟩
  · rw [he]
    exact ⟨inside, rfl, fun inside' hinside' => hinside.unique hinside'⟩
  · rw [he]
    have hbound : ∀ (s : Str) (markers : List Str) (stop : Nat), (∃ a b, s = a ++ b ∧ byteLen a = stop) →
        ∃ a b, s = a ++ b ∧ byteLen a = markers.foldl
          (fun stop marker => (find marker (toAsciiLowercase s)).elim stop (min stop)) stop := by
      intro s markers
      induction markers with
      | nil => exact fun _ h => h
      | cons marker markers ih =>
        intro stop hstop
        refine ih _ ?_
        dsimp only
        rw [find_toAsciiLowercase]
        cases hcut : splitNoCase marker s with
        | none => exact hstop
        | some q =>
          -- the smaller of two boundaries
          change ∃ a b, s = a ++ b ∧ byteLen a = min stop (byteLen q.1)
          rcases Nat.le_total stop (byteLen q.1) with hle | hle
          · rw [Nat.min_eq_left hle]
            exact hstop
          · rw [Nat.min_eq_right hle]
            exact ⟨q.1, q.2, (splitNoCase_eq_some hcut).1, rfl⟩
    obtain ⟨a, b, hs, hlen⟩ := hbound (trim (upTo (· == ',') value)) [";expires=".toList, ";q=".toList]
      (byteLen (trim (upTo (· == ',') value))) ⟨_, [], (List.append_nil _).symm, rfl⟩
    simp only [bind, Except.bind]
    rw [← hlen]
    have hcut := Res.strTo_append (E := Empty) a b
    rw [← hs] at hcut
    rw [hcut]
    exact ⟨_, rfl, fun inside hinside => absurd ⟨inside, hinside⟩ hnone⟩

theorem contactValue_inverted {value : Str} (h : Inverted value) : contactValue value = .error .panic := by
  unfold contactValue
  rw [betweenBrackets_inverted h]
  rfl

/-- Only the first contact is read. -/
theorem contactFromLines_eq : ∀ ls : List Str, contactFromLines ls =
    match (ls.filterMap fun line => headField contactNames (trim line)).head? with
    | none => .ok none
    | some value => (contactValue (trim value)).map some
  | [] => rfl
  | line :: ls => by
    unfold contactFromLines
    rw [afterName_eq contactNames_plain, List.filterMap_cons]
    cases headField contactNames (trim line) with
    | none => exact contactFromLines_eq ls
    | some value => rfl

/-- **`extract_contact_uri`.** -/
theorem readsContact_iff (text : Str) : ReadsBrackets (extractContactUri text) (ExaminedContact text) ↔
    ¬ ∃ value, ExaminedContact text value ∧ Inverted value := by
  have heq := contactFromLines_eq (lines text)
  unfold extractContactUri
  rw [heq]
  unfold ExaminedContact
  change ReadsBrackets (match (headerValues contactNames text).head? with
    | none => .ok none
    | some value => (contactValue (trim value)).map some) _ ↔ _
  cases (headerValues contactNames text).head? with
  | none =>
    refine iff_of_true ⟨⟨none, rfl⟩, ?_⟩ ?_
    · rintro _ _ ⟨⟩
    · rintro ⟨_, ⟨⟩, -⟩
  | some value =>
    constructor
    · rintro ⟨⟨uri, huri⟩, -⟩ ⟨_, ⟨⟩, hinverted⟩
      dsimp only at huri
      rw [contactValue_inverted hinverted] at huri
      cases huri
    · intro h
      obtain ⟨uri, huri, hinside⟩ := contactValue_ok fun hinverted => h ⟨_, rfl, hinverted⟩
      dsimp only
      rw [huri]
      refine ⟨⟨_, rfl⟩, ?_⟩
      rintro _ inside ⟨⟩ hbracketed
      rw [hinside inside hbracketed]
      rfl

/-! ## The headers -/

theorem uriNames_plain : ∀ headerName ∈ uriHeaders, ∀ p ∈ uriNames headerName, Plain p := by decide +kernel

/-- What `extract_uri_from_header` does with one value. -/
theorem uriFromLines_cons {names : List Str} (h : ∀ p ∈ names, Plain p) (line : Str) (ls : List Str) :
    uriFromLines names (line :: ls) =
      match headField names (trim line) with
      | none => uriFromLines names ls
      | some value =>
        match betweenBrackets value with
        | .error e => .error e
        | .ok (some uri) => .ok (some uri)
        | .ok none =>
          if (trim (upTo (· == ';') (trim value))).isEmpty then uriFromLines names ls
          else .ok (some (trim (upTo (· == ';') (trim value)))) := by
  rw [uriFromLines, afterName_eq h]
  cases headField names (trim line) with
  | none => rfl
  | some value =>
    simp only [bind, Except.bind]
    cases betweenBrackets value with
    | error e => rfl
    | ok uri => cases uri <;> rfl

theorem examinedUri_cons {v : Str} {values : List Str} {value : Str} :
    ExaminedUri (v :: values) value ↔ value = v ∨ PassedOver v ∧ ExaminedUri values value :=
  first_cons_iff

/-- **The loop of `extract_uri_from_header`**: a value is read, or passed over, or it panics. -/
theorem readsUri_lines {names : List Str} (hplain : ∀ p ∈ names, Plain p) : ∀ ls : List Str,
    ReadsBrackets (uriFromLines names ls)
        (ExaminedUri (ls.filterMap fun line => headField names (trim line))) ↔
      ¬ ∃ value, ExaminedUri (ls.filterMap fun line => headField names (trim line)) value ∧ Inverted value
  | [] => by
    have hnone : ∀ value, ¬ ExaminedUri [] value := by
      rintro value ⟨before, after, h, -⟩
      simp at h
    refine iff_of_true ⟨⟨none, rfl⟩, fun value inside h => absurd h (hnone value)⟩ ?_
    rintro ⟨value, h, -⟩
    exact hnone value h
  | line :: ls => by
    have ih := readsUri_lines hplain ls
    rw [uriFromLines_cons hplain, List.filterMap_cons]
    cases headField names (trim line) with
    | none => exact ih
    | some v =>
    dsimp only
    by_cases hinverted : Inverted v
    · refine iff_of_false ?_ fun h => h ⟨v, examinedUri_cons.mpr (.inl rfl), hinverted⟩
      rw [betweenBrackets_inverted hinverted]
      rintro ⟨⟨uri, huri⟩, -⟩
      cases huri
    rcases betweenBrackets_straight hinverted with ⟨inside, hinside, he⟩ | ⟨hnone, he⟩
    · -- the text between the brackets is returned, and no further value is examined
      have hlast : ∀ value, ExaminedUri (v :: ls.filterMap fun line => headField names (trim line)) value →
          value = v := by
        intro value h
        rcases examinedUri_cons.mp h with h | ⟨⟨-, hno, -⟩, -⟩
        · exact h
        · exact absurd ⟨inside, hinside⟩ hno
      rw [he]
      refine iff_of_true ⟨⟨_, rfl⟩, fun value inside' hvalue hinside' => ?_⟩ ?_
      · rw [hlast value hvalue] at hinside'
        rw [hinside.unique hinside']
      · rintro ⟨value, hvalue, h⟩
        rw [hlast value hvalue] at h
        exact hinverted h
    rw [he]
    dsimp only
    by_cases hempty : trim (upTo (· == ';') (trim v)) = []
    · -- the value is passed over
      have hpassed : ∀ value, ExaminedUri (v :: ls.filterMap fun line => headField names (trim line)) value ↔
          value = v ∨ ExaminedUri (ls.filterMap fun line => headField names (trim line)) value := by
        intro value
        rw [examinedUri_cons]
        exact or_congr_right (and_iff_right ⟨hinverted, hnone, hempty⟩)
      rw [if_pos (by rw [hempty]; rfl)]
      constructor
      · rintro ⟨hchecked, hread⟩
        have hrest := ih.mp ⟨hchecked, fun value inside hvalue hinside =>
          hread value inside ((hpassed value).mpr (.inr hvalue)) hinside⟩
        rintro ⟨value, hvalue, h⟩
        rcases (hpassed value).mp hvalue with rfl | hvalue
        · exact hinverted h
        · exact hrest ⟨value, hvalue, h⟩
      · intro h
        obtain ⟨hchecked, hread⟩ := ih.mpr fun ⟨value, hvalue, hinv⟩ =>
          h ⟨value, (hpassed value).mpr (.inr hvalue), hinv⟩
        refine ⟨hchecked, fun value inside hvalue hinside => ?_⟩
        rcases (hpassed value).mp hvalue with rfl | hvalue
        · exact absurd ⟨inside, hinside⟩ hnone
        · exact hread value inside hvalue hinside
    · -- the value has no brackets, and is returned
      have hlast : ∀ value, ExaminedUri (v :: ls.filterMap fun line => headField names (trim line)) value →
          value = v := by
        intro value h
        rcases examinedUri_cons.mp h with h | ⟨⟨-, -, h⟩, -⟩
        · exact h
        · exact absurd h hempty
      rw [if_neg (by simpa using hempty)]
      refine iff_of_true ⟨⟨_, rfl⟩, fun value inside hvalue hinside => ?_⟩ ?_
      · rw [hlast value hvalue] at hinside
        exact absurd ⟨inside, hinside⟩ hnone
      · rintro ⟨value, hvalue, h⟩
        rw [hlast value hvalue] at h
        exact hinverted h

/-- **When the brackets are read.** For every text each of the three functions does what is expected of it
iff no value that it examines is `Inverted`. -/
theorem brackets_read_iff (text : Str) :
    (∀ headerName ∈ uriHeaders,
      (ReadsBrackets (extractUriFromHeader text headerName)
          (ExaminedUri (headerValues (uriNames headerName) text)) ↔
        ¬ ∃ value, ExaminedUri (headerValues (uriNames headerName) text) value ∧ Inverted value)) ∧
    (ReadsBrackets (extractContactUri text) (ExaminedContact text) ↔
      ¬ ∃ value, ExaminedContact text value ∧ Inverted value) ∧
    (ReadsUser text ↔ ¬ Inverted text) :=
  ⟨fun headerName h => readsUri_lines (uriNames_plain headerName h) (lines text), readsContact_iff text,
    readsUser_iff text⟩

/-- **A `>` in a display name, in front of the URI**: each of the functions panics. -/
theorem brackets_panic :
    ¬ ReadsUser "\"a>b\" <sip:1001@example.com>".toList ∧
    ¬ ReadsBrackets (extractContactUri "Contact: \"a>b\" <sip:1001@10.10.10.1>".toList)
      (ExaminedContact "Contact: \"a>b\" <sip:1001@10.10.10.1>".toList) ∧
    ¬ ReadsBrackets (extractUriFromHeader "From: \"a>b\" <sip:1001@example.com>;tag=a".toList "From".toList)
      (ExaminedUri (headerValues (uriNames "From".toList)
        "From: \"a>b\" <sip:1001@example.com>;tag=a".toList)) := by
  have hpanic : extractExtension "\"a>b\" <sip:1001@example.com>".toList = .error .panic ∧
      extractContactUri "Contact: \"a>b\" <sip:1001@10.10.10.1>".toList = .error .panic ∧
      extractUriFromHeader "From: \"a>b\" <sip:1001@example.com>;tag=a".toList "From".toList =
        .error .panic := by decide +kernel
  obtain ⟨huser, hcontact, hheader⟩ := hpanic
  refine ⟨?_, ?_, ?_⟩
  · rintro ⟨⟨_, h⟩, -⟩
    cases huser.symm.trans h
  · rintro ⟨⟨_, h⟩, -⟩
    cases hcontact.symm.trans h
  · rintro ⟨⟨_, h⟩, -⟩
    cases hheader.symm.trans h

end Minghe.Sip
