import Minghe.Sip.Digest

/-!
# The Authorization header

A client writes its credentials as parameters with commas between them, each a name and a value that is in
quotation marks or a token. `parse_authorization` splits at the commas outside the marks, then at the first
equals sign, and trims three times.

* `HeaderParam`: a parameter, as it is written.
* `Lists`: the parameters list the credentials, each once.
* `parseAuthorization_authorizationOf`: credentials that are written in any order, spelling and spacing are
  read back.
-/

namespace Minghe.Sip

open Minghe.Lib

/-! ## What is written -/

/-- A parameter of the header, with the white space around it. -/
structure HeaderParam where
  before : Str
  name : Str
  value : Str
  quoted : Bool
  after : Str
  before_blank : ∀ c ∈ before, isWhitespace c = true
  name_chars : ∀ c ∈ name, isWhitespace c = false ∧ c ≠ '=' ∧ c ≠ ',' ∧ c ≠ '"'
  value_chars : ∀ c ∈ value, c ≠ '"' ∧ (quoted = false → isWhitespace c = false ∧ c ≠ ',')
  after_blank : ∀ c ∈ after, isWhitespace c = true

namespace HeaderParam

/-- The value as it is written: in quotation marks, or as it is. -/
def valueText (x : HeaderParam) : Str := if x.quoted then '"' :: (x.value ++ ['"']) else x.value

/-- A parameter without the white space. -/
def text (x : HeaderParam) : Str := x.name ++ '=' :: x.valueText

def written (x : HeaderParam) : Str := x.before ++ (x.text ++ x.after)

/-- The name that a parameter is known by. -/
def key (x : HeaderParam) : String := String.ofList (toLowercase x.name)

end HeaderParam

/-- The value of the header. -/
def authorizationOf (lead : Str) (params : List HeaderParam) : Str :=
  lead ++ ("Digest".toList ++ [','].intercalate (params.map HeaderParam.written))

/-- The values that are listed under a name. -/
def valuesOf (key : String) (params : List HeaderParam) : List Str :=
  (params.filter fun x => x.key = key).map HeaderParam.value

/-- The parameters list the credentials, each once, and perhaps others. -/
structure Lists (params : List HeaderParam) (p : DigestParams) : Prop where
  username : valuesOf "username" params = [p.username]
  realm : valuesOf "realm" params = [p.realm]
  nonce : valuesOf "nonce" params = [p.nonce]
  uri : valuesOf "uri" params = [p.uri]
  response : valuesOf "response" params = [p.response]
  qop : valuesOf "qop" params = p.qop.toList
  nc : valuesOf "nc" params = p.nc.toList
  cnonce : valuesOf "cnonce" params = p.cnonce.toList

/-! ## The commas -/

/-- Characters that are no comma outside the marks, and no marks, go to the parameter. -/
theorem splitDigestParamsFrom_plain {s : Str} {inQuotes : Bool}
    (h : ∀ c ∈ s, c ≠ '"' ∧ (inQuotes = false → c ≠ ',')) (current rest : Str) :
    splitDigestParamsFrom current inQuotes (s ++ rest) =
      splitDigestParamsFrom (current ++ s) inQuotes rest := by
  induction s generalizing current with
  | nil => rw [List.nil_append, List.append_nil]
  | cons c s ih =>
    obtain ⟨hmark, hcomma⟩ := h c List.mem_cons_self
    rw [List.cons_append, splitDigestParamsFrom, if_neg hmark, if_neg (fun hc => hcomma hc.2 hc.1),
      ih fun d hd => h d (List.mem_cons_of_mem _ hd), List.append_assoc, List.singleton_append]

theorem plain_of_blank {w : Str} (h : ∀ c ∈ w, isWhitespace c = true) (inQuotes : Bool) :
    ∀ c ∈ w, c ≠ '"' ∧ (inQuotes = false → c ≠ ',') := by
  intro c hc
  have hne : ∀ d, isWhitespace d = false → c ≠ d := by
    rintro d hd rfl
    rw [h c hc] at hd
    cases hd
  exact ⟨hne _ (by decide), fun _ => hne _ (by decide)⟩

/-- A parameter is read to its end. -/
theorem splitDigestParamsFrom_written (x : HeaderParam) (current rest : Str) :
    splitDigestParamsFrom current false (x.written ++ rest) =
      splitDigestParamsFrom (current ++ x.written) false rest := by
  have hname : ∀ c ∈ x.name ++ ['='], c ≠ '"' ∧ (false = false → c ≠ ',') := by
    intro c hc
    rcases List.mem_append.mp hc with hc | hc
    · exact ⟨(x.name_chars c hc).2.2.2, fun _ => (x.name_chars c hc).2.2.1⟩
    · rw [List.mem_singleton.mp hc]
      decide
  have hvalue : ∀ current rest, splitDigestParamsFrom current false (x.valueText ++ rest) =
      splitDigestParamsFrom (current ++ x.valueText) false rest := by
    intro current rest
    unfold HeaderParam.valueText
    cases hq : x.quoted with
    | false =>
      exact splitDigestParamsFrom_plain
        (fun c hc => ⟨(x.value_chars c hc).1, fun _ => ((x.value_chars c hc).2 hq).2⟩) current rest
    | true =>
      -- the marks open and close, and what is between them is plain
      have hinner : ∀ c ∈ x.value, c ≠ '"' ∧ (true = false → c ≠ ',') :=
        fun c hc => ⟨(x.value_chars c hc).1, nofun⟩
      simp only [if_true, List.cons_append, List.append_assoc, List.nil_append]
      rw [splitDigestParamsFrom, if_pos rfl, Bool.not_false, splitDigestParamsFrom_plain hinner,
        splitDigestParamsFrom, if_pos rfl]
      simp
  have htext : x.written = x.before ++ ((x.name ++ ['=']) ++ (x.valueText ++ x.after)) := by
    simp [HeaderParam.written, HeaderParam.text]
  rw [htext]
  simp only [List.append_assoc x.before, List.append_assoc (x.name ++ ['=']), List.append_assoc x.valueText]
  rw [splitDigestParamsFrom_plain (plain_of_blank x.before_blank _), splitDigestParamsFrom_plain hname, hvalue,
    splitDigestParamsFrom_plain (plain_of_blank x.after_blank _)]
  simp only [List.append_assoc]

/-- A parameter is not blank. -/
theorem trim_written_ne (x : HeaderParam) : trim x.written ≠ [] := by
  intro h
  have heq := trim_eq_nil.mp h '=' (by simp [HeaderParam.written, HeaderParam.text])
  exact absurd heq (by decide)

/-- **The parameters are found.** -/
theorem splitDigestParams_intercalate : ∀ params : List HeaderParam,
    splitDigestParams ([','].intercalate (params.map HeaderParam.written)) = params.map HeaderParam.written
  | [] => rfl
  | [x] => by
    have hone : [','].intercalate ([x].map HeaderParam.written) = x.written ++ [] := by simp
    rw [hone, splitDigestParams, splitDigestParamsFrom_written, List.nil_append, splitDigestParamsFrom,
      if_neg (by simpa using trim_written_ne x)]
    rfl
  | x :: y :: params => by
    have hmore : [','].intercalate ((x :: y :: params).map HeaderParam.written) =
        x.written ++ ',' :: [','].intercalate ((y :: params).map HeaderParam.written) := by
      simp [List.intercalate_cons_cons]
    rw [hmore, splitDigestParams, splitDigestParamsFrom_written, List.nil_append, splitDigestParamsFrom,
      if_neg (by decide), if_pos ⟨rfl, rfl⟩, if_neg (by simpa using trim_written_ne x)]
    exact congrArg _ (splitDigestParams_intercalate (y :: params))

/-! ## White space at the ends -/

theorem splitDigestParamsFrom_blank_left {w : Str} (h : ∀ c ∈ w, isWhitespace c = true) (current : Str)
    (inQuotes : Bool) (s : Str) :
    (splitDigestParamsFrom (w ++ current) inQuotes s).map trim =
      (splitDigestParamsFrom current inQuotes s).map trim := by
  have hend : ∀ current : Str, (if (trim (w ++ current)).isEmpty then [] else [w ++ current]).map trim =
      (if (trim current).isEmpty then [] else [current]).map trim := by
    intro current
    rw [trim_append_left _ h]
    split
    · rfl
    · simp [trim_append_left _ h]
  induction s generalizing current inQuotes with
  | nil => exact hend current
  | cons c s ih =>
    unfold splitDigestParamsFrom
    simp only [List.append_assoc]
    split
    · exact ih _ _
    split
    · rw [List.map_append, List.map_append, hend]
    · exact ih _ _

theorem splitDigestParamsFrom_blank_right {w : Str} (h : ∀ c ∈ w, isWhitespace c = true) (current : Str)
    (inQuotes : Bool) (s : Str) :
    (splitDigestParamsFrom current inQuotes (s ++ w)).map trim =
      (splitDigestParamsFrom current inQuotes s).map trim := by
  induction s generalizing current inQuotes with
  | nil =>
    have hw := splitDigestParamsFrom_plain (plain_of_blank h inQuotes) current []
    rw [List.append_nil] at hw
    rw [List.nil_append, hw, splitDigestParamsFrom, splitDigestParamsFrom, trim_append _ h]
    split
    · rfl
    · simp [trim_append _ h]
  | cons c s ih =>
    rw [List.cons_append]
    unfold splitDigestParamsFrom
    split
    · exact ih _ _
    split
    · rw [List.map_append, List.map_append, ih]
    · exact ih _ _

/-- The white space around all of them is that of the first and of the last. -/
theorem splitDigestParams_trim (s : Str) :
    (splitDigestParams (trim s)).map trim = (splitDigestParams s).map trim := by
  obtain ⟨w, w', hs, hw, hw'⟩ := trim_spec s
  conv_rhs => rw [hs, List.append_assoc]
  unfold splitDigestParams
  rw [splitDigestParamsFrom_plain (plain_of_blank hw _), List.nil_append, ← List.append_nil w,
    splitDigestParamsFrom_blank_left hw, splitDigestParamsFrom_blank_right hw']

/-! ## One parameter -/

theorem trim_valueText (x : HeaderParam) : trim x.valueText = x.valueText := by
  unfold HeaderParam.valueText
  split
  · rw [trim_of_not _ (by decide), trimEnd_append_of_forall_not _ (by simp; decide) (by simp)]
  · rename_i hq
    exact trim_of_forall_not fun c hc => ((x.value_chars c hc).2 (by simpa using hq)).1

theorem trim_written (x : HeaderParam) : trim x.written = x.text := by
  have hname : ∀ c ∈ x.name ++ ['='], isWhitespace c = false := by
    intro c hc
    rcases List.mem_append.mp hc with hc | hc
    · exact (x.name_chars c hc).1
    · rw [List.mem_singleton.mp hc]
      decide
  have htext : x.text = (x.name ++ ['=']) ++ x.valueText := by simp [HeaderParam.text]
  rw [HeaderParam.written, trim_append_left _ x.before_blank, trim_append _ x.after_blank, htext,
    trim_word_append (by simp) hname]
  congr 1
  by_cases hnil : x.valueText = []
  · rw [hnil]
    rfl
  · exact trimEnd_append_of_trimmed [] hnil (trim_valueText x)

theorem trimMatches_valueText (x : HeaderParam) : trimMatches '"' x.valueText = x.value := by
  have hmark : ∀ c ∈ x.value, ¬ (c == '"') = true := fun c hc => by simpa using (x.value_chars c hc).1
  have hend : x.value.rdropWhile (· == '"') = x.value :=
    List.rdropWhile_eq_self_iff.mpr fun hne => hmark _ (List.getLast_mem hne)
  have hstart : ∀ t : Str, t.dropWhile (· == '"') = [] → (x.value ++ t).dropWhile (· == '"') =
      if x.value = [] then [] else x.value ++ t := by
    intro t ht
    cases hv : x.value with
    | nil => exact ht
    | cons c v =>
      have hc : ¬ (c == '"') = true := hmark c (by rw [hv]; exact List.mem_cons_self)
      rw [List.cons_append, List.dropWhile_cons_of_neg (p := (· == '"')) hc]
      exact (if_neg (List.cons_ne_nil c v)).symm
  unfold trimMatches HeaderParam.valueText
  split
  · rw [List.dropWhile_cons_of_pos (by decide), hstart _ rfl]
    split
    · rename_i hnil
      rw [hnil]
      rfl
    · rw [List.rdropWhile_concat_pos _ _ _ (by decide), hend]
  · have hvalue := hstart [] rfl
    rw [List.append_nil] at hvalue
    rw [hvalue]
    split
    · rename_i hnil
      rw [hnil]
      rfl
    · exact hend

/-- **What a parameter sets**: the field of its name. -/
theorem set_written (p : DigestParams) (x : HeaderParam) : p.set x.written = {
    username := if x.key = "username" then x.value else p.username
    realm := if x.key = "realm" then x.value else p.realm
    nonce := if x.key = "nonce" then x.value else p.nonce
    uri := if x.key = "uri" then x.value else p.uri
    response := if x.key = "response" then x.value else p.response
    qop := if x.key = "qop" then some x.value else p.qop
    nc := if x.key = "nc" then some x.value else p.nc
    cnonce := if x.key = "cnonce" then some x.value else p.cnonce } := by
  have hcut : splitOnce '=' (trim x.written) = some (x.name, x.valueText) := by
    rw [trim_written, splitOnce_eq_some]
    exact ⟨rfl, fun h => (x.name_chars _ h).2.1 rfl⟩
  have hname : trim x.name = x.name := trim_of_forall_not fun c hc => (x.name_chars c hc).1
  unfold DigestParams.set
  simp only [hcut, hname, trim_valueText, trimMatches_valueText]
  unfold HeaderParam.key
  split <;> simp_all

/-! ## All of them -/

/-- A field after all the parameters has the last value that is listed under its name. -/
theorem foldl_set {α : Type} (field : DigestParams → α) (f : Str → α) (key : String)
    (h : ∀ p (x : HeaderParam), field (p.set x.written) = if x.key = key then f x.value else field p)
    (params : List HeaderParam) (p : DigestParams) :
    field ((params.map HeaderParam.written).foldl DigestParams.set p) =
      ((valuesOf key params).getLast?.map f).getD (field p) := by
  induction params using List.reverseRecOn with
  | nil => rfl
  | append_singleton params x ih =>
    have hvalues : valuesOf key (params ++ [x]) =
        valuesOf key params ++ if x.key = key then [x.value] else [] := by
      unfold valuesOf
      rw [List.filter_append, List.map_append]
      by_cases hkey : x.key = key <;> simp [hkey]
    rw [List.map_append, List.foldl_append, hvalues, List.map_singleton, List.foldl_cons, List.foldl_nil, h, ih]
    split
    · rw [List.getLast?_concat]
      rfl
    · rw [List.append_nil]

/-- The fields are set by the trimmed parameters. -/
theorem foldl_set_trim (l : List Str) (p : DigestParams) :
    (l.map trim).foldl DigestParams.set p = l.foldl DigestParams.set p := by
  have hset : ∀ (p : DigestParams) (param : Str), p.set (trim param) = p.set param := by
    intro p param
    unfold DigestParams.set
    rw [trim_trim]
  rw [List.foldl_map]
  exact congrArg (fun f => l.foldl f p) (funext fun p => funext fun param => hset p param)

/-- The fields after all the parameters are those listed. -/
theorem foldl_set_of_lists {params : List HeaderParam} {p : DigestParams} (h : Lists params p) :
    (params.map HeaderParam.written).foldl DigestParams.set ⟨[], [], [], [], [], none, none, none⟩ = p := by
  have hext : ∀ q : DigestParams, q.username = p.username → q.realm = p.realm → q.nonce = p.nonce →
      q.uri = p.uri → q.response = p.response → q.qop = p.qop → q.nc = p.nc → q.cnonce = p.cnonce →
      q = p := by
    rintro ⟨⟩ rfl rfl rfl rfl rfl rfl rfl rfl
    rfl
  have hlast : ∀ o : Option Str, (o.toList.getLast?.map some).getD none = o := by
    rintro (_ | _) <;> rfl
  apply hext
  · rw [foldl_set DigestParams.username id "username" (fun p x => by rw [set_written]; rfl), h.username]
    rfl
  · rw [foldl_set DigestParams.realm id "realm" (fun p x => by rw [set_written]; rfl), h.realm]
    rfl
  · rw [foldl_set DigestParams.nonce id "nonce" (fun p x => by rw [set_written]; rfl), h.nonce]
    rfl
  · rw [foldl_set DigestParams.uri id "uri" (fun p x => by rw [set_written]; rfl), h.uri]
    rfl
  · rw [foldl_set DigestParams.response id "response" (fun p x => by rw [set_written]; rfl), h.response]
    rfl
  · rw [foldl_set DigestParams.qop some "qop" (fun p x => by rw [set_written]), h.qop]
    exact hlast p.qop
  · rw [foldl_set DigestParams.nc some "nc" (fun p x => by rw [set_written]), h.nc]
    exact hlast p.nc
  · rw [foldl_set DigestParams.cnonce some "cnonce" (fun p x => by rw [set_written]), h.cnonce]
    exact hlast p.cnonce

/-- **What is written is read back**: credentials whose username, nonce and response are not empty, listed
in any order and any letter case, in quotation marks or as tokens, with others and with white space. -/
theorem parseAuthorization_authorizationOf (lead : Str) (hlead : ∀ c ∈ lead, isWhitespace c = true)
    {params : List HeaderParam} {p : DigestParams} (h : Lists params p) (husername : p.username ≠ [])
    (hnonce : p.nonce ≠ []) (hresponse : p.response ≠ []) :
    parseAuthorization (authorizationOf lead params) = some p := by
  have hscheme : trim (authorizationOf lead params) =
      "Digest".toList ++ trimEnd ([','].intercalate (params.map HeaderParam.written)) := by
    rw [authorizationOf, trim_append_left _ hlead, trim_word_append (by decide) (by decide)]
  have hfields : (splitDigestParams (trim ([','].intercalate (params.map HeaderParam.written)))).foldl
      DigestParams.set ⟨[], [], [], [], [], none, none, none⟩ = p := by
    rw [← foldl_set_trim, splitDigestParams_trim, foldl_set_trim, splitDigestParams_intercalate]
    exact foldl_set_of_lists h
  have hvalue : (if "Digest".toList <+: trim (authorizationOf lead params) then
      trim ((trim (authorizationOf lead params)).drop 6) else trim (authorizationOf lead params)) =
        trim ([','].intercalate (params.map HeaderParam.written)) := by
    rw [hscheme, if_pos (List.prefix_append _ _), List.drop_append_of_le_length (by decide)]
    exact trim_trimEnd _
  unfold parseAuthorization
  dsimp only
  rw [hvalue, hfields]
  exact if_neg (by simp [husername, hnonce, hresponse])

/-- A parameter in quotation marks, behind a blank. -/
def quotedParam (name value : Str)
    (hname : ∀ c ∈ name, isWhitespace c = false ∧ c ≠ '=' ∧ c ≠ ',' ∧ c ≠ '"')
    (hvalue : ∀ c ∈ value, c ≠ '"') : HeaderParam where
  before := [' ']
  name := name
  value := value
  quoted := true
  after := []
  before_blank := by decide
  name_chars := hname
  value_chars c hc := ⟨hvalue c hc, nofun⟩
  after_blank := nofun

/-- A token, between blanks. -/
def tokenParam (name value : Str)
    (hname : ∀ c ∈ name, isWhitespace c = false ∧ c ≠ '=' ∧ c ≠ ',' ∧ c ≠ '"')
    (hvalue : ∀ c ∈ value, c ≠ '"' ∧ isWhitespace c = false ∧ c ≠ ',') : HeaderParam where
  before := [' ']
  name := name
  value := value
  quoted := false
  after := [' ', ' ']
  before_blank := by decide
  name_chars := hname
  value_chars c hc := ⟨(hvalue c hc).1, fun _ => (hvalue c hc).2⟩
  after_blank := by decide

/-- A header with commas and an equals sign in its values. -/
theorem parseAuthorization_concrete : parseAuthorization
    (" Digest QOP=auth  , Realm=\"a, b=c\", algorithm=MD5  , nonce=\"n\", uri=\"sip:é\", response=\"d\", "
      ++ "userName=\" 1001\"").toList =
    some ⟨" 1001".toList, "a, b=c".toList, ['n'], "sip:é".toList, ['d'], some "auth".toList, none,
      none⟩ := by
  let params : List HeaderParam := [
    tokenParam "QOP".toList "auth".toList (by decide) (by decide),
    quotedParam "Realm".toList "a, b=c".toList (by decide) (by decide),
    tokenParam "algorithm".toList "MD5".toList (by decide) (by decide),
    quotedParam "nonce".toList ['n'] (by decide) (by decide),
    quotedParam "uri".toList "sip:é".toList (by decide) (by decide),
    quotedParam "response".toList ['d'] (by decide) (by decide),
    quotedParam "userName".toList " 1001".toList (by decide) (by decide)]
  have hlists : Lists params ⟨" 1001".toList, "a, b=c".toList, ['n'], "sip:é".toList, ['d'],
      some "auth".toList, none, none⟩ := by
    constructor <;> decide +kernel
  refine (congrArg parseAuthorization ?_).trans
    (parseAuthorization_authorizationOf [' '] (by decide) hlists (by decide) (by decide) (by decide))
  decide +kernel

end Minghe.Sip
