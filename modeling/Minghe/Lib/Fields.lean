import Minghe.Lib.Text

/-!
# Words and header fields

What `trim` and `split_whitespace` leave, and header lines `name: value`.

`fieldName t` is the name of a header line in lower case. A line starts with a name and a colon, in
letters of either case, exactly if that is its `fieldName` (`startsNoCase_colon`); so a line that was
found to be one header is no other one.
-/

namespace Minghe.Lib

/-! ## White space at the ends -/

theorem trimStart_of_not {c : Char} (s : Str) (h : isWhitespace c = false) :
    trimStart (c :: s) = c :: s := List.dropWhile_cons_of_neg (by simp [h])

theorem trimStart_append {w : Str} (s : Str) (h : ∀ c ∈ w, isWhitespace c) :
    trimStart (w ++ s) = trimStart s := List.dropWhile_append_of_pos h

/-- What is taken away from the end of a text stops at a character that stays. -/
theorem rdropWhile_append_cons {p : Char → Bool} {c : Char} (s t : Str) (h : p c = false) :
    (s ++ c :: t).rdropWhile p = s ++ c :: t.rdropWhile p := by
  induction t using List.reverseRecOn with
  | nil => exact List.rdropWhile_concat_neg p s c (by simp [h])
  | append_singleton t d ih =>
    rw [show s ++ c :: (t ++ [d]) = (s ++ c :: t) ++ [d] by simp]
    by_cases hd : p d = true
    · rw [List.rdropWhile_concat_pos p (s ++ c :: t) d hd, List.rdropWhile_concat_pos p t d hd, ih]
    · rw [List.rdropWhile_concat_neg p (s ++ c :: t) d hd, List.rdropWhile_concat_neg p t d hd]
      simp

theorem trimEnd_append_of_not {c : Char} (s t : Str) (h : isWhitespace c = false) :
    trimEnd (s ++ c :: t) = s ++ c :: trimEnd t := rdropWhile_append_cons s t h

theorem trimEnd_append {w : Str} (s : Str) (h : ∀ c ∈ w, isWhitespace c) :
    trimEnd (s ++ w) = trimEnd s := by
  induction w using List.reverseRecOn with
  | nil => rw [List.append_nil]
  | append_singleton w c ih =>
    rw [← List.append_assoc, trimEnd,
      List.rdropWhile_concat_pos isWhitespace (s ++ w) c (h c (by simp))]
    exact ih fun d hd => h d (List.mem_append_left _ hd)

/-- A text that goes on without white space keeps its end. -/
theorem trimEnd_append_of_forall_not (s : Str) {t : Str} (h : ∀ c ∈ t, isWhitespace c = false)
    (hne : t ≠ []) : trimEnd (s ++ t) = s ++ t := by
  refine List.rdropWhile_eq_self_iff.mpr fun hl => ?_
  rw [List.getLast_append_of_ne_nil hl hne, h _ (List.getLast_mem hne)]
  exact nofun

/-- A text that starts with no white space keeps everything up to its last other character. -/
theorem trim_append_of_not {c d : Char} (s t : Str) (hc : isWhitespace c = false)
    (hd : isWhitespace d = false) : trim (c :: s ++ d :: t) = c :: s ++ d :: trimEnd t := by
  rw [trim, List.cons_append, trimStart_of_not _ hc, ← List.cons_append, trimEnd_append_of_not _ _ hd]

/-- A text that starts with no white space is trimmed at its end only. -/
theorem trim_of_not {c : Char} (s : Str) (hc : isWhitespace c = false) :
    trim (c :: s) = c :: trimEnd s := by
  rw [trim, trimStart_of_not _ hc]
  exact trimEnd_append_of_not [] s hc

/-- A text that starts with a word keeps it. -/
theorem trim_word_append {word : Str} (hne : word ≠ []) (h : ∀ c ∈ word, isWhitespace c = false) (s : Str) :
    trim (word ++ s) = word ++ trimEnd s := by
  have hlast := h _ (List.getLast_mem hne)
  have hstart : trimStart (word ++ s) = word ++ s := by
    cases word with
    | nil => exact absurd rfl hne
    | cons c word => exact trimStart_of_not _ (h c List.mem_cons_self)
  conv_lhs => rw [trim, hstart, ← List.dropLast_concat_getLast hne]
  rw [List.append_assoc, List.singleton_append, trimEnd_append_of_not _ _ hlast]
  conv_rhs => rw [← List.dropLast_concat_getLast hne]
  simp

theorem trim_eq_nil {s : Str} : trim s = [] ↔ ∀ c ∈ s, isWhitespace c := by
  constructor
  · intro h c hc
    have hs : ∀ c ∈ trimStart s, isWhitespace c := List.rdropWhile_eq_nil_iff.mp h
    rw [← List.takeWhile_append_dropWhile (p := isWhitespace) (l := s), List.mem_append] at hc
    rcases hc with hc | hc
    · exact List.mem_takeWhile_imp hc
    · exact hs c hc
  · intro h
    have hs : trimStart s = [] := List.dropWhile_eq_nil_iff.mpr h
    rw [trim, hs]
    rfl

/-- What `trim` leaves starts with no white space, and `trim` does nothing to it. -/
theorem trim_cases (s : Str) : trim s = [] ∨
    ∃ c t, trim s = c :: t ∧ isWhitespace c = false ∧ trimEnd t = t := by
  cases h : trimStart s with
  | nil => exact .inl (by rw [trim, h]; rfl)
  | cons c t =>
    have hc : isWhitespace c = false := by
      have := List.head?_dropWhile_not isWhitespace s
      rw [show s.dropWhile isWhitespace = c :: t from h] at this
      simpa using this
    refine .inr ⟨c, trimEnd t, ?_, hc, List.rdropWhile_idempotent _ _⟩
    rw [trim, h]
    exact trimEnd_append_of_not [] t hc

@[simp] theorem trim_trim (s : Str) : trim (trim s) = trim s := by
  rcases trim_cases s with h | ⟨c, t, h, hc, ht⟩
  · rw [h]; rfl
  · rw [h, trim_of_not t hc, ht]

/-- What `trim` takes off. -/
theorem trim_spec (s : Str) : ∃ w w', s = w ++ trim s ++ w' ∧ (∀ c ∈ w, isWhitespace c) ∧
    ∀ c ∈ w', isWhitespace c := by
  refine ⟨s.takeWhile isWhitespace, (trimStart s).rtakeWhile isWhitespace, ?_,
    fun c hc => List.mem_takeWhile_imp hc, fun c hc => List.mem_rtakeWhile_imp hc⟩
  rw [List.append_assoc, trim, trimEnd, List.rdropWhile_append_rtakeWhile]
  exact List.takeWhile_append_dropWhile.symm

theorem mem_of_mem_trim {c : Char} {s : Str} (h : c ∈ trim s) : c ∈ s := by
  obtain ⟨w, w', hs, -, -⟩ := trim_spec s
  rw [hs]
  simp [h]

/-- A text without white space is trimmed. -/
theorem trim_of_forall_not {s : Str} (h : ∀ c ∈ s, isWhitespace c = false) : trim s = s := by
  obtain ⟨w, w', hs, hw, hw'⟩ := trim_spec s
  have hnil : ∀ v : Str, (∀ c ∈ v, isWhitespace c) → (∀ c ∈ v, c ∈ s) → v = [] := by
    intro v hv hvs
    cases v with
    | nil => rfl
    | cons c v =>
      have h1 := hv c List.mem_cons_self
      rw [h c (hvs c List.mem_cons_self)] at h1
      cases h1
  have h1 := hnil w hw fun c hc => by rw [hs]; simp [hc]
  have h2 := hnil w' hw' fun c hc => by rw [hs]; simp [hc]
  rw [h1, h2] at hs
  simpa using hs.symm

theorem trim_trimEnd (s : Str) : trim (trimEnd s) = trim s := by
  rcases trim_cases s with h | ⟨c, t, h, hc, ht⟩
  · have hws := trim_eq_nil.mp h
    rw [h, trim_eq_nil]
    exact fun c hc => hws c ((List.rdropWhile_prefix _ _).subset hc)
  · have hs : s = s.takeWhile isWhitespace ++ trimStart s := List.takeWhile_append_dropWhile.symm
    have hw : ∀ c ∈ s.takeWhile isWhitespace, isWhitespace c := fun c hc => List.mem_takeWhile_imp hc
    cases hts : trimStart s with
    | nil => rw [trim, hts] at h; cases h
    | cons d u =>
      have hd : isWhitespace d = false := by
        have := List.head?_dropWhile_not isWhitespace s
        rw [show s.dropWhile isWhitespace = d :: u from hts] at this
        simpa using this
      rw [hs, hts, trimEnd_append_of_not _ _ hd, trim, trim, trimStart_append _ hw,
        trimStart_append _ hw, trimStart_of_not _ hd, trimStart_of_not _ hd]
      have h1 := trimEnd_append_of_not [] u hd
      have h2 := trimEnd_append_of_not [] (trimEnd u) hd
      rw [List.nil_append] at h1 h2
      rw [h1, h2, trimEnd, trimEnd, List.rdropWhile_idempotent]

theorem trim_append_left {w : Str} (s : Str) (h : ∀ c ∈ w, isWhitespace c) : trim (w ++ s) = trim s := by
  rw [trim, trimStart_append s h, trim]

/-! ## Words -/

/-- A text that is not only white space has a first word. -/
theorem exists_word {s : Str} (h : ¬ ∀ c ∈ s, isWhitespace c) :
    ∃ w a rest, s = w ++ a ++ rest ∧ (∀ c ∈ w, isWhitespace c) ∧ a ≠ [] ∧
      (∀ c ∈ a, isWhitespace c = false) ∧ ∀ c ∈ rest.head?, isWhitespace c := by
  have hs : s = s.takeWhile isWhitespace ++ s.dropWhile isWhitespace :=
    List.takeWhile_append_dropWhile.symm
  have hw : ∀ c ∈ s.takeWhile isWhitespace, isWhitespace c := fun c hc => List.mem_takeWhile_imp hc
  have ht := List.head?_dropWhile_not isWhitespace s
  cases htl : s.dropWhile isWhitespace with
  | nil => exact absurd (List.dropWhile_eq_nil_iff.mp htl) h
  | cons c t =>
    rw [htl] at ht
    have hr := List.head?_dropWhile_not (!isWhitespace ·) t
    refine ⟨s.takeWhile isWhitespace, c :: t.takeWhile (!isWhitespace ·),
      t.dropWhile (!isWhitespace ·), ?_, hw, List.cons_ne_nil _ _, ?_, ?_⟩
    · rw [List.append_assoc, List.cons_append, List.takeWhile_append_dropWhile, ← htl]
      exact hs
    · intro d hd
      rcases List.mem_cons.mp hd with rfl | hd
      · simpa using ht
      · simpa using List.mem_takeWhile_imp hd
    · intro d hd
      rw [Option.mem_def.mp hd] at hr
      simpa using hr

theorem splitWhitespace_skip {w : Str} (s : Str) (h : ∀ c ∈ w, isWhitespace c) :
    splitWhitespace (w ++ s) = splitWhitespace s := by
  induction w with
  | nil => rfl
  | cons c w ih =>
    have hc := h c List.mem_cons_self
    rw [← ih fun d hd => h d (List.mem_cons_of_mem _ hd)]
    simp [splitWhitespace, List.splitOnP_cons_eq_if_modifyHead, hc]

theorem splitWhitespace_word {a rest : Str} (ha : a ≠ []) (hw : ∀ c ∈ a, isWhitespace c = false)
    (hr : ∀ c ∈ rest.head?, isWhitespace c) :
    splitWhitespace (a ++ rest) = a :: splitWhitespace rest := by
  cases rest with
  | nil =>
    rw [List.append_nil, splitWhitespace, List.splitOnP_eq_singleton hw]
    simpa [splitWhitespace] using ha
  | cons c rest =>
    have hc : isWhitespace c = true := hr c rfl
    have hskip := splitWhitespace_skip (w := [c]) rest (by simpa using hc)
    rw [List.singleton_append] at hskip
    rw [hskip, splitWhitespace, List.splitOnP_append_cons_of_forall_mem hw c hc]
    exact List.filter_cons_of_pos (by simpa using ha)

theorem splitWhitespace_eq_nil {s : Str} : splitWhitespace s = [] ↔ ∀ c ∈ s, isWhitespace c := by
  constructor
  · intro h
    by_contra hne
    obtain ⟨w, a, rest, rfl, hw, ha, hwa, hr⟩ := exists_word hne
    rw [List.append_assoc, splitWhitespace_skip _ hw, splitWhitespace_word ha hwa hr] at h
    cases h
  · intro h
    have := splitWhitespace_skip [] h
    rwa [List.append_nil] at this

/-- **The first word of a text**, and what stands around it. -/
theorem splitWhitespace_eq_cons {s a : Str} {as : List Str} (h : splitWhitespace s = a :: as) :
    ∃ w rest, s = w ++ a ++ rest ∧ (∀ c ∈ w, isWhitespace c) ∧ a ≠ [] ∧
      (∀ c ∈ a, isWhitespace c = false) ∧ (∀ c ∈ rest.head?, isWhitespace c) ∧
      splitWhitespace rest = as := by
  have hne : ¬ ∀ c ∈ s, isWhitespace c := fun hall => by
    rw [splitWhitespace_eq_nil.mpr hall] at h
    cases h
  obtain ⟨w, a', rest, rfl, hw, ha, hwa, hr⟩ := exists_word hne
  rw [List.append_assoc, splitWhitespace_skip _ hw, splitWhitespace_word ha hwa hr,
    List.cons.injEq] at h
  obtain ⟨rfl, rfl⟩ := h
  exact ⟨w, rest, rfl, hw, ha, hwa, hr, rfl⟩

theorem splitWhitespace_append {w : Str} (s : Str) (h : ∀ c ∈ w, isWhitespace c) :
    splitWhitespace (s ++ w) = splitWhitespace s := by
  induction w using List.reverseRecOn with
  | nil => rw [List.append_nil]
  | append_singleton w c ih =>
    have hc := h c (by simp)
    rw [← ih fun d hd => h d (List.mem_append_left _ hd), ← List.append_assoc, splitWhitespace,
      List.splitOnP_append_cons (s ++ w) [] hc]
    simp [splitWhitespace]

theorem splitWhitespace_trim (s : Str) : splitWhitespace (trim s) = splitWhitespace s := by
  obtain ⟨w, w', hs, hw, hw'⟩ := trim_spec s
  conv_rhs => rw [hs]
  rw [splitWhitespace_append _ hw', splitWhitespace_skip _ hw]

/-- White space behind a text is trimmed. -/
theorem trim_append {w : Str} (s : Str) (h : ∀ c ∈ w, isWhitespace c) : trim (s ++ w) = trim s := by
  rw [← trim_trimEnd, trimEnd_append s h, trim_trimEnd]

/-- Words are no white space, and not empty. -/
theorem word_of_mem_splitWhitespace {s word : Str} (h : word ∈ splitWhitespace s) :
    word ≠ [] ∧ ∀ c ∈ word, isWhitespace c = false := by
  induction hs : splitWhitespace s generalizing s with
  | nil =>
    rw [hs] at h
    cases h
  | cons first words ih =>
    obtain ⟨_, rest, -, -, hne, hword, -, hrest⟩ := splitWhitespace_eq_cons hs
    rw [hs] at h
    rcases List.mem_cons.mp h with rfl | h
    · exact ⟨hne, hword⟩
    · exact ih (by rwa [hrest]) hrest

/-- **Words with a blank between them** are read back. -/
theorem splitWhitespace_intercalate : ∀ {words : List Str},
    (∀ word ∈ words, word ≠ [] ∧ ∀ c ∈ word, isWhitespace c = false) →
    splitWhitespace ([' '].intercalate words) = words
  | [], _ => rfl
  | [word], h => by
    obtain ⟨hne, hword⟩ := h word List.mem_cons_self
    have hread : splitWhitespace (word ++ []) = word :: splitWhitespace [] := splitWhitespace_word hne hword nofun
    rw [List.append_nil] at hread
    simpa using hread.trans (congrArg _ (splitWhitespace_eq_nil.mpr nofun))
  | word :: next :: words, h => by
    have ih := splitWhitespace_intercalate fun w hw => h w (List.mem_cons_of_mem word hw)
    obtain ⟨hne, hword⟩ := h word List.mem_cons_self
    have hblank : ∀ c ∈ [' '], isWhitespace c := by decide
    rw [List.intercalate_cons_cons, List.append_assoc, splitWhitespace_word hne hword (by simpa using hblank),
      splitWhitespace_skip _ hblank, ih]

/-- A text without white space is one word, or none. -/
theorem length_splitWhitespace_le {s : Str} (h : ∀ c ∈ s, isWhitespace c = false) :
    (splitWhitespace s).length ≤ 1 := by
  rw [splitWhitespace, List.splitOnP_eq_singleton h]
  exact List.length_filter_le _ _

/-- Letters and digits are no white space. -/
theorem isWhitespace_of_isAlphanum {c : Char} (h : c.isAlphanum = true) : isWhitespace c = false := by
  have hrange : (48 ≤ c.toNat ∧ c.toNat ≤ 57) ∨ (65 ≤ c.toNat ∧ c.toNat ≤ 90) ∨
      (97 ≤ c.toNat ∧ c.toNat ≤ 122) := by
    change ((decide (65 ≤ c.val ∧ c.val ≤ 90) || (decide (97 ≤ c.val) && decide (c.val ≤ 122))) ||
      (decide (48 ≤ c.val) && decide (c.val ≤ 57))) = true at h
    simp only [Bool.or_eq_true, Bool.and_eq_true, decide_eq_true_eq, UInt32.le_iff_toNat_le] at h
    change ((65 ≤ c.toNat ∧ c.toNat ≤ 90) ∨ (97 ≤ c.toNat ∧ c.toNat ≤ 122)) ∨
      (48 ≤ c.toNat ∧ c.toNat ≤ 57) at h
    omega
  by_contra hws
  rw [Bool.not_eq_false] at hws
  simp only [isWhitespace, Bool.or_eq_true, decide_eq_true_eq, beq_iff_eq] at hws
  omega

/-- A number has no white space. -/
theorem isWhitespace_of_parseUnsigned {w n : Nat} {s : Str} (h : parseUnsigned w s = some n) :
    ∀ c ∈ s, isWhitespace c = false := by
  have hdigit : ∀ c : Char, c.isDigit = true → isWhitespace c = false := fun c hc =>
    isWhitespace_of_isAlphanum (by rw [Char.isAlphanum, hc, Bool.or_true])
  unfold parseUnsigned at h
  simp only at h
  split at h
  · rename_i hd
    obtain ⟨-, hd, -⟩ := hd
    rw [List.all_eq_true] at hd
    unfold stripPlus at hd
    intro c hc
    split at hd
    · rcases List.mem_cons.mp hc with rfl | hc
      · decide
      · exact hdigit c (hd c hc)
    · exact hdigit c (hd c hc)
  · cases h

/-! ## Pieces of a text -/

theorem mem_of_mem_splitOnP {p : Char → Bool} {c : Char} : ∀ {s l : Str}, l ∈ s.splitOnP p →
    c ∈ l → c ∈ s
  | [], l, hl, hc => by
    rw [List.splitOnP_nil, List.mem_singleton] at hl
    rw [hl] at hc
    exact hc
  | d :: s, l, hl, hc => by
    rw [List.splitOnP_cons_eq_if_modifyHead] at hl
    split at hl
    · rcases List.mem_cons.mp hl with rfl | hl
      · cases hc
      · exact List.mem_cons_of_mem _ (mem_of_mem_splitOnP hl hc)
    · cases hs : s.splitOnP p with
      | nil => exact absurd hs (List.splitOnP_ne_nil p s)
      | cons l' ls =>
        rw [hs, List.modifyHead_cons] at hl
        rcases List.mem_cons.mp hl with rfl | hl
        · rcases List.mem_cons.mp hc with rfl | hc
          · exact List.mem_cons_self
          · exact List.mem_cons_of_mem _ (mem_of_mem_splitOnP (by rw [hs]; exact List.mem_cons_self) hc)
        · exact List.mem_cons_of_mem _
            (mem_of_mem_splitOnP (by rw [hs]; exact List.mem_cons_of_mem _ hl) hc)

theorem mem_of_mem_splitWhitespace {s word : Str} {c : Char} (hword : word ∈ splitWhitespace s)
    (hc : c ∈ word) : c ∈ s :=
  mem_of_mem_splitOnP (List.mem_of_mem_filter hword) hc

theorem mem_intercalate {sep : Str} {c : Char} : ∀ {ls : List Str}, c ∈ sep.intercalate ls →
    c ∈ sep ∨ ∃ l ∈ ls, c ∈ l
  | [], h => by cases h
  | [l], h => .inr ⟨l, by simp, by simpa using h⟩
  | l :: l' :: ls, h => by
    rw [List.intercalate_cons_cons, List.mem_append, List.mem_append] at h
    rcases h with (h | h) | h
    · exact .inr ⟨l, by simp, h⟩
    · exact .inl h
    · rcases mem_intercalate h with h | ⟨x, hx, h⟩
      · exact .inl h
      · exact .inr ⟨x, List.mem_cons_of_mem _ hx, h⟩

/-- A hexadecimal text has no line end. -/
theorem lf_not_mem_hexEncode (b : List UInt8) : '\n' ∉ hexEncode b := by
  have hdigit : ∀ n < 16, '\n' ≠ Nat.digitChar n := by decide
  simp only [hexEncode, List.mem_flatMap, not_exists, not_and]
  intro x _ hc
  simp only [List.mem_cons, List.not_mem_nil, or_false] at hc
  have hx := x.toNat_lt
  rcases hc with hc | hc
  · exact hdigit _ (by omega) hc
  · exact hdigit _ (by omega) hc

/-! ## Header fields -/

/-- The two parts of a text around the first `c`. -/
theorem splitOnce_eq_some {c : Char} {s a b : Str} :
    splitOnce c s = some (a, b) ↔ s = a ++ c :: b ∧ c ∉ a := by
  have hcut : ∀ {s a rest : Str}, splitAtFirst [c] s = some (a, rest) →
      ∃ b, rest = c :: b ∧ s = a ++ c :: b := by
    intro s a rest h
    obtain ⟨rfl, b, rfl⟩ := splitAtFirst_eq_some h
    exact ⟨b, rfl, rfl⟩
  have hfind : ∀ a : Str, ∀ b, c ∉ a → splitAtFirst [c] (a ++ c :: b) = some (a, c :: b) := by
    intro a
    induction a with
    | nil => exact fun b _ => splitAtFirst_of_head (by simp)
    | cons d a ih =>
      intro b h
      rw [List.mem_cons, not_or] at h
      rw [List.cons_append, splitAtFirst, if_neg (by simpa using h.1), ih b h.2]
      rfl
  have hno : ∀ s a rest, splitAtFirst [c] s = some (a, rest) → c ∉ a := by
    intro s
    induction s with
    | nil => intro a rest h; simp [splitAtFirst] at h
    | cons d s ih =>
      intro a rest h
      rw [splitAtFirst] at h
      split at h
      · cases h
        exact List.not_mem_nil
      · rename_i hd
        obtain ⟨p, hp, he⟩ := Option.map_eq_some_iff.mp h
        cases he
        rw [List.mem_cons, not_or]
        exact ⟨by simpa using hd, ih p.1 p.2 hp⟩
  constructor
  · intro h
    obtain ⟨p, hp, he⟩ := Option.map_eq_some_iff.mp h
    obtain ⟨b', hb, hs⟩ : ∃ b', p.2 = c :: b' ∧ s = p.1 ++ c :: b' := hcut hp
    cases he
    exact ⟨by rw [hb]; exact hs, hno s p.1 p.2 hp⟩
  · rintro ⟨rfl, ha⟩
    rw [splitOnce, hfind a b ha]
    rfl

theorem splitOnce_eq_none {c : Char} {s : Str} : splitOnce c s = none ↔ c ∉ s := by
  constructor
  · intro h hc
    obtain ⟨a, b, rfl⟩ := List.append_of_mem hc
    -- cut in front of the first one
    have hspan : a ++ c :: b = (a ++ c :: b).takeWhile (· != c) ++
        (a ++ c :: b).dropWhile (· != c) := List.takeWhile_append_dropWhile.symm
    cases hd : (a ++ c :: b).dropWhile (· != c) with
    | nil =>
      have := List.dropWhile_eq_nil_iff.mp hd c (by simp)
      simp at this
    | cons d t =>
      have hdc := List.head?_dropWhile_not (· != c) (a ++ c :: b)
      rw [hd] at hdc
      have hdc' : d = c := by simpa using hdc
      rw [hd, hdc'] at hspan
      have hnot : c ∉ (a ++ c :: b).takeWhile (· != c) := fun hm => by
        simpa using List.mem_takeWhile_imp hm
      rw [splitOnce_eq_some.mpr ⟨hspan, hnot⟩] at h
      cases h
  · intro h
    cases hs : splitOnce c s with
    | none => rfl
    | some p =>
      rw [(splitOnce_eq_some (a := p.1) (b := p.2)).mp hs |>.1] at h
      simp at h

/-- The name of a header line, in lower case: what stands in front of its first colon. -/
def fieldName (t : Str) : Option Str := (splitOnce ':' t).map fun p => toAsciiLowercase p.1

/-- Header names as they are compared with the start of a line. -/
def fieldNames (names : List Str) : List Str := names.map (· ++ [':'])

theorem toLower_eq_colon {c : Char} : c.toLower = ':' ↔ c = ':' := by
  constructor
  · intro h
    by_cases hc : c.val ≥ 'A'.val ∧ c.val ≤ 'Z'.val
    · have hv := congrArg Char.toNat ((dif_pos hc).symm.trans h)
      have h1 : 65 ≤ c.toNat := UInt32.le_iff_toNat_le.mp hc.1
      have h2 : c.toNat ≤ 90 := UInt32.le_iff_toNat_le.mp hc.2
      simp only [Char.toNat, UInt32.toNat_add] at hv h1 h2
      have h3 : ('a'.val - 'A'.val).toNat = 32 := rfl
      have h4 : ':'.val.toNat = 58 := rfl
      omega
    · exact (dif_neg hc).symm.trans h
  · rintro rfl
    rfl

theorem colon_mem_lower {a : Str} : ':' ∈ toAsciiLowercase a ↔ ':' ∈ a := by
  simp [toAsciiLowercase, toLower_eq_colon]

/-- **A line starts with a name and a colon iff that is the name of the line.** -/
theorem startsNoCase_colon {q t : Str} (hq : ':' ∉ q) :
    startsNoCase (q ++ [':']) t ↔ fieldName t = some q := by
  unfold startsNoCase fieldName
  constructor
  · intro h
    obtain ⟨a, b', ht, ha, hb⟩ := List.map_eq_append_iff.mp h
    obtain ⟨c, rfl, hc⟩ : ∃ c, b' = [c] ∧ c.toLower = ':' := by
      cases b' with
      | nil => cases hb
      | cons c b' =>
        rw [List.map_cons, List.cons.injEq, List.map_eq_nil_iff] at hb
        exact ⟨c, by rw [hb.2], hb.1⟩
    rw [toLower_eq_colon] at hc
    have hs : t = a ++ ':' :: t.drop (q ++ [':']).length := by
      conv_lhs => rw [← List.take_append_drop (q ++ [':']).length t, ht, hc]
      simp
    have hna : ':' ∉ a := by
      rw [← colon_mem_lower, toAsciiLowercase, ha]
      exact hq
    rw [splitOnce_eq_some.mpr ⟨hs, hna⟩]
    exact congrArg some ha
  · intro h
    obtain ⟨⟨a, b⟩, hs, rfl⟩ := Option.map_eq_some_iff.mp h
    obtain ⟨rfl, -⟩ := splitOnce_eq_some.mp hs
    have hlen : (toAsciiLowercase a ++ [':']).length = (a ++ [':']).length := by
      simp [toAsciiLowercase]
    rw [hlen, show a ++ ':' :: b = (a ++ [':']) ++ b by simp, List.take_left]
    simp [toAsciiLowercase]

/-- **What stands behind the name of a header line.** -/
theorem headField_fieldNames {names : List Str} (h : ∀ q ∈ names, ':' ∉ q) (t : Str) :
    headField (fieldNames names) t = (splitOnce ':' t).bind fun p =>
      if toAsciiLowercase p.1 ∈ names then some p.2 else none := by
  unfold headField fieldNames
  cases hs : splitOnce ':' t with
  | none =>
    have hnone : (names.map (· ++ [':'])).find? (fun name => decide (startsNoCase name t)) = none := by
      simp only [List.find?_eq_none, List.mem_map, decide_eq_true_eq, forall_exists_index, and_imp,
        forall_apply_eq_imp_iff₂]
      intro q hq hstart
      rw [startsNoCase_colon (h q hq), fieldName, hs] at hstart
      cases hstart
    rw [hnone]
    rfl
  | some p =>
    obtain ⟨a, b⟩ := p
    have hname : ∀ q ∈ names, startsNoCase (q ++ [':']) t ↔ q = toAsciiLowercase a := by
      intro q hq
      rw [startsNoCase_colon (h q hq), fieldName, hs]
      simp [eq_comm]
    simp only [Option.bind_some]
    split
    · rename_i hmem
      obtain ⟨q, hq⟩ : ∃ q, (names.map (· ++ [':'])).find? (fun name => decide (startsNoCase name t))
          = some q := by
        rw [← Option.isSome_iff_exists, List.find?_isSome]
        exact ⟨_, List.mem_map_of_mem hmem, by simpa using (hname _ hmem).mpr rfl⟩
      rw [hq]
      obtain ⟨q', hq', rfl⟩ := List.mem_map.mp (List.mem_of_find?_eq_some hq)
      have heq := (hname q' hq').mp (by simpa using List.find?_some hq)
      subst heq
      obtain ⟨rfl, -⟩ := splitOnce_eq_some.mp hs
      simp [toAsciiLowercase]
    · rename_i hmem
      have hnone : (names.map (· ++ [':'])).find? (fun name => decide (startsNoCase name t)) = none := by
        simp only [List.find?_eq_none, List.mem_map, decide_eq_true_eq, forall_exists_index, and_imp,
          forall_apply_eq_imp_iff₂]
        intro q hq hstart
        rw [hname q hq] at hstart
        exact hmem (hstart ▸ hq)
      rw [hnone]
      rfl

/-- A name that has no white space in lower case has none. -/
theorem isWhitespace_of_lower {a : Str} (h : ∀ c ∈ toAsciiLowercase a, isWhitespace c = false) :
    ∀ c ∈ a, isWhitespace c = false := by
  intro c hc
  by_contra hws
  rw [Bool.not_eq_false] at hws
  have hlow : c.toLower = c := by
    rcases Nat.lt_or_ge c.toNat 128 with hlt | hge
    · refine dif_neg ?_
      rintro ⟨h1, h2⟩
      have h1' : 65 ≤ c.toNat := UInt32.le_iff_toNat_le.mp h1
      have h2' : c.toNat ≤ 90 := UInt32.le_iff_toNat_le.mp h2
      simp only [isWhitespace, Bool.or_eq_true, decide_eq_true_eq, beq_iff_eq] at hws
      omega
    · exact toLower_of_ge hge
  have := h c.toLower (List.mem_map_of_mem hc)
  rw [hlow, hws] at this
  cases this

/-- The name of a line that is written as a name, a colon and a value. -/
theorem splitOnce_trim {n : Str} (v : Str) (hne : n ≠ []) (hc : ∀ c ∈ n.head?, isWhitespace c = false)
    (hn : ':' ∉ n) : splitOnce ':' (trim (n ++ ':' :: v)) = some (n, trimEnd v) := by
  rw [splitOnce_eq_some]
  cases n with
  | nil => exact absurd rfl hne
  | cons c n => exact ⟨trim_append_of_not n v (hc c rfl) (by decide), hn⟩

/-! ## Lists of values -/

/-- The values of a list, with `c` between them. -/
def items (c : Char) (s : Str) : List Str := ((s.splitOn c).map trim).filter fun item => !item.isEmpty

theorem not_mem_of_mem_splitOn {c : Char} {s l : Str} (h : l ∈ s.splitOn c) : c ∉ l := by
  rw [List.splitOn_eq_splitOnP] at h
  intro hc
  induction s generalizing l with
  | nil =>
    rw [List.splitOnP_nil, List.mem_singleton] at h
    rw [h] at hc
    cases hc
  | cons d s ih =>
    rw [List.splitOnP_cons_eq_if_modifyHead] at h
    split at h
    · rcases List.mem_cons.mp h with rfl | h
      · cases hc
      · exact ih h hc
    · rename_i hd
      obtain ⟨first, others, hfirst⟩ := List.exists_cons_of_ne_nil (List.splitOnP_ne_nil (· == c) s)
      rw [hfirst, List.modifyHead_cons] at h
      rw [hfirst] at ih
      rcases List.mem_cons.mp h with rfl | h
      · rcases List.mem_cons.mp hc with rfl | hc
        · exact hd (beq_self_eq_true c)
        · exact ih List.mem_cons_self hc
      · exact ih (List.mem_cons_of_mem _ h) hc

theorem of_mem_items {c : Char} {s item : Str} (h : item ∈ items c s) :
    item ≠ [] ∧ trim item = item ∧ c ∉ item := by
  obtain ⟨hmem, hne⟩ := List.mem_filter.mp h
  obtain ⟨piece, hpiece, rfl⟩ := List.mem_map.mp hmem
  exact ⟨by simpa using hne, trim_trim piece, fun hc => not_mem_of_mem_splitOn hpiece (mem_of_mem_trim hc)⟩

/-- **A list that is written out is read back.** -/
theorem items_intercalate {c : Char} {ts : List Str} (h : ∀ t ∈ ts, t ≠ [] ∧ trim t = t ∧ c ∉ t)
    (hblank : c ≠ ' ') : items c (' ' :: List.intercalate [c, ' '] ts) = ts := by
  have hwrite : ∀ {ts : List Str}, ts ≠ [] →
      ' ' :: List.intercalate [c, ' '] ts = [c].intercalate (ts.map (' ' :: ·)) := by
    intro ts hne
    induction ts with
    | nil => exact absurd rfl hne
    | cons t ts ih =>
      cases ts with
      | nil => simp
      | cons t' ts =>
        have ih := ih (List.cons_ne_nil _ _)
        rw [List.intercalate_cons_cons, List.map_cons, List.map_cons, List.intercalate_cons_cons, ← List.map_cons,
          ← ih]
        simp
  unfold items
  cases hts : ts with
  | nil =>
    have hsingle : [' '].splitOn c = [[' ']] := by
      rw [List.splitOn_eq_splitOnP]
      exact List.splitOnP_eq_singleton (by simpa using Ne.symm hblank)
    rw [List.intercalate_nil, hsingle]
    rfl
  | cons t' ts' =>
    rw [← hts]
    have hne : ts ≠ [] := hts ▸ List.cons_ne_nil _ _
    have hpieces : ∀ l ∈ ts.map (' ' :: ·), c ∉ l := by
      intro l hl
      obtain ⟨t, ht, rfl⟩ := List.mem_map.mp hl
      rw [List.mem_cons, not_or]
      exact ⟨hblank, (h t ht).2.2⟩
    have htrim : ts.map (trim ∘ (' ' :: ·)) = ts := by
      refine (List.map_congr_left fun t ht => ?_).trans (List.map_id ts)
      exact (trim_append_left (w := [' ']) t (by decide)).trans (h t ht).2.1
    rw [hwrite hne, List.splitOn_intercalate c hpieces (by simpa using hne), List.map_map, htrim]
    exact List.filter_eq_self.mpr fun t ht => by simpa using (h t ht).1

/-- A text that ends in a trimmed one keeps its end. -/
theorem trimEnd_append_of_trimmed (s : Str) {t : Str} (hne : t ≠ []) (h : trim t = t) :
    trimEnd (s ++ t) = s ++ t := by
  have hend : trimEnd t = t := by
    rw [← h]
    exact List.rdropWhile_idempotent _ _
  refine List.rdropWhile_eq_self_iff.mpr fun hl => ?_
  rw [List.getLast_append_of_ne_nil hl hne]
  exact List.rdropWhile_eq_self_iff.mp hend hne

/-- What is written out ends in its last value. -/
theorem exists_intercalate_eq (sep : Str) : ∀ {ts : List Str}, ts ≠ [] →
    ∃ s, ∃ t ∈ ts, sep.intercalate ts = s ++ t
  | [t], _ => ⟨[], t, List.mem_singleton_self t, by simp⟩
  | t :: t' :: ts, _ => by
    obtain ⟨s, last, hlast, he⟩ := exists_intercalate_eq sep (List.cons_ne_nil t' ts)
    refine ⟨t ++ sep ++ s, last, List.mem_cons_of_mem _ hlast, ?_⟩
    rw [List.intercalate_cons_cons, he]
    simp

/-! ## Parts of a text -/

/-- The position of a character. -/
theorem find_char (c : Char) (s : Str) : find [c] s = (splitOnce c s).map fun p => byteLen p.1 := by
  rw [find, splitOnce, Option.map_map]
  rfl

theorem splitAtByte_eq_some : ∀ {s : Str} {n : Nat} {a b : Str}, splitAtByte s n = some (a, b) → s = a ++ b
  | s, 0, a, b, h => by
    unfold splitAtByte at h
    cases h
    rfl
  | [], _ + 1, a, b, h => by cases h
  | c :: s, n + 1, a, b, h => by
    unfold splitAtByte at h
    split at h
    · obtain ⟨p, hp, he⟩ := Option.map_eq_some_iff.mp h
      cases he
      rw [splitAtByte_eq_some (a := p.1) (b := p.2) hp]
      rfl
    · cases h

/-- A part of a text has its characters. -/
theorem mem_of_strTo {s a : Str} {n : Nat} (h : (Res.strTo s n : Checked Str) = .ok a) :
    ∀ c ∈ a, c ∈ s := by
  unfold Res.strTo at h
  split at h
  · rename_i b hs
    cases h
    rw [splitAtByte_eq_some hs]
    exact fun c hc => List.mem_append_left _ hc
  · cases h

theorem mem_of_strFrom {s b : Str} {n : Nat} (h : (Res.strFrom s n : Checked Str) = .ok b) :
    ∀ c ∈ b, c ∈ s := by
  unfold Res.strFrom at h
  split at h
  · rename_i a hs
    cases h
    rw [splitAtByte_eq_some hs]
    exact fun c hc => List.mem_append_right _ hc
  · cases h

theorem mem_of_upTo {p : Char → Bool} {s : Str} {c : Char} (h : c ∈ upTo p s) : c ∈ s ∧ p c = false := by
  have hp := List.mem_takeWhile_imp h
  exact ⟨List.takeWhile_subset _ h, by simpa using hp⟩

/-- The value behind a header name is part of the line. -/
theorem mem_of_afterName {names : List Str} {trimmed value : Str}
    (h : (Res.afterName names trimmed : Checked (Option Str)) = .ok (some value)) :
    ∀ c ∈ value, c ∈ trimmed := by
  unfold Res.afterName at h
  split at h
  · obtain ⟨v, hv, he⟩ := Res.bind_eq_ok.mp h
    cases he
    exact mem_of_strFrom hv
  · cases h

end Minghe.Lib
