import Minghe.Lib.NoCase
import Minghe.Sip.Parser

/-!
# Parameters of headers

`extract_via_branch`, `extract_from_tag`, `extract_to_tag` and, for `Contact`, `extract_expires`
(`parser.rs`) search the lowered line for a key, and cut the line itself behind the position they find. That
is the right place if the text in front of the key takes as many bytes when it is lowered, as all ASCII
does. `İ` grows by one byte, and the Kelvin sign shrinks by two.

* `paramAt`: what follows the key in the line itself.
* `Aligned`: a line whose text in front of the key keeps its length.
* `params_read_of_aligned`: each function reads what follows the first key in the line itself, without a
  panic, when its lines are aligned; in a line that is not it fails for some value.
* `param_misread`: two names in capitals that lower to other lengths: one tag loses its first character,
  one is looked for behind the end of the line.
-/

namespace Minghe.Sip

open Minghe.Lib

/-- What ends a parameter. -/
def paramStop (c : Char) : Bool := c == ';' || c == ',' || isWhitespace c
def expiresStop (c : Char) : Bool := c == ';' || c == ',' || isWhitespace c || c == '>'

/-- What follows the first occurrence of the key, in letters of either case, in the line itself. -/
def paramAt (stop : Char → Bool) (key trimmed : Str) : Option Str :=
  (splitNoCase key trimmed).map fun q => upTo stop (q.2.drop key.length)

/-- A parameter that is not empty. -/
def someParam (key trimmed : Str) : Option Str := (paramAt paramStop key trimmed).filter fun v => !v.isEmpty

/-- The lines of a header, trimmed. -/
def paramLines (names : List Str) (text : Str) : List Str := ((lines text).map trim).filter (hasName names)

/-- The parameter in the first line of the header that has one. -/
def paramOf (names : List Str) (key text : Str) : Option Str :=
  (paramLines names text).findSome? (someParam key)

/-- The number behind `expires=` in the first contact that has it. -/
def contactExpiresOf (text : Str) : Option Nat :=
  ((paramLines contactNames text).findSome? (paramAt expiresStop "expires=".toList)).bind (parseUnsigned 64)

/-- The text in front of the key takes as many bytes when it is lowered. -/
def Aligned (key trimmed : Str) : Prop :=
  ∀ front rest, splitNoCase key trimmed = some (front, rest) → byteLen (toLowercase front) = byteLen front

/-- The line is read, since nothing was found in the lines before it. -/
def Reached {A : Type} (read : Str → Option A) (ls : List Str) (l : Str) : Prop :=
  ∃ before after, ls = before ++ l :: after ∧ ∀ b ∈ before, read b = none

/-- The functions that read a parameter, with the header and the key. -/
def paramReaders : List ((Str → Checked (Option Str)) × List Str × Str) :=
  [(extractViaBranch, viaNames, "branch=".toList), (extractFromTag, fromNames, "tag=".toList),
    (extractToTag, toNames, "tag=".toList)]

theorem reached_cons {A : Type} {read : Str → Option A} {l : Str} {ls : List Str} {l' : Str} :
    Reached read (l :: ls) l' ↔ l' = l ∨ read l = none ∧ Reached read ls l' :=
  first_cons_iff

/-! ## One line -/

/-- **The cut behind the key**, in a line that is aligned. -/
theorem strFrom_aligned {key trimmed front rest : Str} (hascii : IsAscii key)
    (hcut : splitNoCase key trimmed = some (front, rest))
    (halign : byteLen (toLowercase front) = byteLen front) :
    (Res.strFrom trimmed (byteLen (toLowercase front) + byteLen key) : Checked Str) =
      .ok (rest.drop key.length) := by
  obtain ⟨rfl, hstart⟩ := splitNoCase_eq_some hcut
  have hlen := byteLen_of_startsNoCase hascii hstart
  have h := Res.strFrom_append (E := Empty) (front ++ rest.take key.length) (rest.drop key.length)
  rw [List.append_assoc, List.take_append_drop, byteLen_append, hlen] at h
  rw [halign]
  exact h

theorem paramFromLines_of_aligned (names : List Str) {key : Str} (hplain : Plain key) (hne : key ≠ []) :
    ∀ ls : List Str, (∀ l, Reached (someParam key) ((ls.map trim).filter (hasName names)) l → Aligned key l) →
      paramFromLines names key ls = .ok (((ls.map trim).filter (hasName names)).findSome? (someParam key))
  | [], _ => rfl
  | line :: ls, h => by
    unfold paramFromLines
    rw [List.map_cons, List.filter_cons] at h ⊢
    dsimp only
    by_cases hname : hasName names (trim line) = true
    · rw [if_pos hname] at h ⊢
      rw [if_pos hname, List.findSome?_cons, find_toLowercase hplain hne]
      have ih := paramFromLines_of_aligned names hplain hne ls
      cases hcut : splitNoCase key (trim line) with
      | none =>
        have hnone : someParam key (trim line) = none := by unfold someParam paramAt; rw [hcut]; rfl
        rw [hnone]
        exact ih fun l hl => h l (reached_cons.mpr (.inr ⟨hnone, hl⟩))
      | some q =>
        obtain ⟨front, rest⟩ := q
        have halign := h _ (reached_cons.mpr (.inl rfl)) front rest hcut
        have hparam : someParam key (trim line) =
            if (upTo paramStop (rest.drop key.length)).isEmpty then none
            else some (upTo paramStop (rest.drop key.length)) := by
          unfold someParam paramAt
          rw [hcut, Option.map_some, Option.filter_some]
          cases (upTo paramStop (rest.drop key.length)).isEmpty <;> rfl
        simp only [Option.map_some, strFrom_aligned hplain.isAscii hcut halign, bind, Except.bind]
        change (if (upTo paramStop (rest.drop key.length)).isEmpty then _ else _) = _
        rw [hparam]
        by_cases hempty : (upTo paramStop (rest.drop key.length)).isEmpty = true
        · rw [if_pos hempty] at hparam
          rw [if_pos hempty, if_pos hempty]
          exact ih fun l hl => h l (reached_cons.mpr (.inr ⟨hparam, hl⟩))
        · rw [if_neg hempty, if_neg hempty]
          rfl
    · rw [if_neg hname] at h ⊢
      rw [if_neg hname]
      exact paramFromLines_of_aligned names hplain hne ls h

theorem contactExpires_of_aligned : ∀ ls : List Str,
    (∀ l, Reached (paramAt expiresStop "expires=".toList) ((ls.map trim).filter (hasName contactNames)) l →
      Aligned "expires=".toList l) →
    contactExpires ls = .ok ((((ls.map trim).filter (hasName contactNames)).findSome?
      (paramAt expiresStop "expires=".toList)).bind (parseUnsigned 64))
  | [], _ => rfl
  | line :: ls, h => by
    have hplain : Plain "expires=".toList := by decide
    unfold contactExpires
    rw [List.map_cons, List.filter_cons] at h ⊢
    dsimp only
    by_cases hname : hasName contactNames (trim line) = true
    · rw [if_pos hname] at h ⊢
      rw [if_pos hname, List.findSome?_cons, find_toLowercase hplain (by decide)]
      cases hcut : splitNoCase "expires=".toList (trim line) with
      | none =>
        have hnone : paramAt expiresStop "expires=".toList (trim line) = none := by
          unfold paramAt; rw [hcut]; rfl
        rw [hnone]
        exact contactExpires_of_aligned ls fun l hl => h l (reached_cons.mpr (.inr ⟨hnone, hl⟩))
      | some q =>
        obtain ⟨front, rest⟩ := q
        have halign := h _ (reached_cons.mpr (.inl rfl)) front rest hcut
        have hparam : paramAt expiresStop "expires=".toList (trim line) =
            some (upTo expiresStop (rest.drop 8)) := by
          unfold paramAt; rw [hcut]; rfl
        have hfrom := strFrom_aligned hplain.isAscii hcut halign
        rw [show byteLen "expires=".toList = 8 from by decide] at hfrom
        simp only [Option.map_some, hfrom, bind, Except.bind, hparam]
        rfl
    · rw [if_neg hname] at h ⊢
      rw [if_neg hname]
      exact contactExpires_of_aligned ls h

/-! ## One line that is not aligned -/

/-- A line up to the value of its parameter: the name of the header, and the first key. -/
structure Leads (names : List Str) (key front occ : Str) : Prop where
  line : '\n' ∉ front
  head : ∃ c t, front = c :: t ∧ isWhitespace c = false
  name : hasName names front = true
  first : splitNoCase key (front ++ occ) = some (front, occ)
  length : occ.length = key.length

/-- A line that is a message of its own. -/
theorem lines_of_leads {names : List Str} {key front occ value : Str} (hne : key ≠ [])
    (hkey : ∀ c ∈ key, isWhitespace c = false) (h : Leads names key front occ)
    (hvalue : ∀ c ∈ value, isWhitespace c = false) :
    lines (front ++ occ ++ value) = [front ++ occ ++ value] ∧
      trim (front ++ occ ++ value) = front ++ occ ++ value ∧ hasName names (front ++ occ ++ value) = true := by
  have hocc : ∀ c ∈ occ, isWhitespace c = false := by
    refine isWhitespace_of_lower ?_
    have hstart := (splitNoCase_eq_some h.first).2
    unfold startsNoCase at hstart
    rw [← h.length, List.take_length] at hstart
    unfold toAsciiLowercase
    rw [hstart]
    exact hkey
  have htail : ∀ c ∈ occ ++ value, isWhitespace c = false := fun c hc =>
    (List.mem_append.mp hc).elim (hocc c) (hvalue c)
  have hlf : '\n' ∉ occ ++ value := fun hin => absurd (htail _ hin) (by decide)
  have hne' : occ ++ value ≠ [] := by
    have hpos := List.length_pos_of_ne_nil hne
    rw [← h.length] at hpos
    exact List.append_ne_nil_of_left_ne_nil (List.ne_nil_of_length_pos hpos) _
  obtain ⟨c, t, hfront, hc⟩ := h.head
  rw [List.append_assoc]
  refine ⟨lines_of_not_mem ?_ (by simp [hfront]), ?_, ?_⟩
  · rw [List.mem_append, not_or]
    exact ⟨h.line, hlf⟩
  · rw [hfront, List.cons_append, trim_of_not _ hc, trimEnd_append_of_forall_not _ htail hne']
  · obtain ⟨name, hmem, hname⟩ := List.any_eq_true.mp h.name
    refine List.any_eq_true.mpr ⟨name, hmem, ?_⟩
    rw [decide_eq_true_eq] at hname ⊢
    unfold toLowercase at hname ⊢
    rw [List.flatMap_append]
    exact hname.trans (List.prefix_append _ _)

/-- The parameter of such a line. -/
theorem paramOf_of_leads {names : List Str} {key front occ value : Str} (hne : key ≠ [])
    (hkey : ∀ c ∈ key, isWhitespace c = false) (h : Leads names key front occ)
    (hvalue : ∀ c ∈ value, paramStop c = false) :
    paramLines names (front ++ occ ++ value) = [front ++ occ ++ value] ∧
      splitNoCase key (front ++ occ ++ value) = some (front, occ ++ value) ∧
      paramOf names key (front ++ occ ++ value) = if value.isEmpty then none else some value := by
  have hspace : ∀ c ∈ value, isWhitespace c = false := fun c hc => by
    have hstop := hvalue c hc
    unfold paramStop at hstop
    exact (Bool.or_eq_false_iff.mp hstop).2
  obtain ⟨hlines, htrim, hname⟩ := lines_of_leads hne hkey h hspace
  have hheader : paramLines names (front ++ occ ++ value) = [front ++ occ ++ value] := by
    unfold paramLines
    rw [hlines, List.map_singleton, htrim, List.filter_cons, if_pos hname]
    rfl
  have hcut := splitNoCase_append value h.first
  refine ⟨hheader, hcut, ?_⟩
  have hparam : someParam key (front ++ occ ++ value) = if value.isEmpty then none else some value := by
    unfold someParam paramAt
    rw [hcut, Option.map_some, List.drop_append_of_le_length (Nat.le_of_eq h.length.symm), ← h.length,
      List.drop_length, List.nil_append, upTo_of_forall hvalue, Option.filter_some]
    cases value.isEmpty <;> rfl
  unfold paramOf
  rw [hheader, List.findSome?_cons, hparam]
  cases value.isEmpty <;> rfl

/-- **The value of a parameter is read from the right place**, whatever it is, iff the text in front of the
key takes as many bytes when it is lowered. -/
theorem paramFromLines_iff {names : List Str} {key front occ : Str} (hplain : Plain key) (hne : key ≠ [])
    (hkey : ∀ c ∈ key, isWhitespace c = false) (h : Leads names key front occ) :
    (∀ value, (∀ c ∈ value, paramStop c = false) →
      paramFromLines names key (lines (front ++ occ ++ value)) =
        .ok (paramOf names key (front ++ occ ++ value))) ↔
      byteLen (toLowercase front) = byteLen front := by
  constructor
  · intro hread
    by_contra hshift
    -- a value that is longer than all in front of it
    have hvalue : ∀ c ∈ List.replicate ((front ++ occ).length + 1) 'x', paramStop c = false := fun c hc => by
      rw [List.eq_of_mem_replicate hc]
      decide
    have hlong : (front ++ occ).length < (List.replicate ((front ++ occ).length + 1) 'x').length := by simp
    have hsome : (List.replicate ((front ++ occ).length + 1) 'x').isEmpty = false := by
      rw [List.replicate_succ]
      rfl
    generalize List.replicate ((front ++ occ).length + 1) 'x' = value at hvalue hlong hsome
    obtain ⟨-, hcut, hparam⟩ := paramOf_of_leads hne hkey h hvalue
    have hread := hread value hvalue
    rw [hparam, hsome] at hread
    have hspace : ∀ c ∈ value, isWhitespace c = false := fun c hc =>
      (Bool.or_eq_false_iff.mp (hvalue c hc)).2
    obtain ⟨hlines, htrim, hname⟩ := lines_of_leads hne hkey h hspace
    rw [hlines] at hread
    unfold paramFromLines at hread
    dsimp only at hread
    rw [htrim, if_pos hname, find_toLowercase hplain hne, hcut] at hread
    obtain ⟨rest, hrest, hread⟩ := Res.bind_eq_ok.mp hread
    unfold Res.strFrom at hrest
    split at hrest
    · rename_i a b hsplit
      cases hrest
      have hne' : a ≠ front ++ occ := by
        rintro rfl
        have hlen := byteLen_of_splitAtByte hsplit
        have hocc : byteLen occ = byteLen key := by
          have hlen := byteLen_of_startsNoCase hplain.isAscii (splitNoCase_eq_some h.first).2
          rwa [← h.length, List.take_length] at hlen
        rw [byteLen_append, hocc] at hlen
        dsimp only at hlen
        omega
      have hother := upTo_ne_of_shifted hlong hvalue (splitAtByte_eq_some hsplit) hne'
      split at hread
      · cases hread
      · exact hother (Option.some.inj (Except.ok.inj hread))
    · cases hrest
  · intro halign value hvalue
    obtain ⟨hheader, hcut, -⟩ := paramOf_of_leads hne hkey h hvalue
    refine paramFromLines_of_aligned names hplain hne _ fun l hl => ?_
    change Reached (someParam key) (paramLines names (front ++ occ ++ value)) l at hl
    rw [hheader, reached_cons] at hl
    rcases hl with rfl | ⟨-, before, after, hnil, -⟩
    · intro front' rest' hcut'
      cases hcut.symm.trans hcut'
      exact halign
    · simp at hnil

/-- **When parameters are read from the right place.** Each function reads what follows the first key in
the line itself, and does not panic, when the lines that it reads are aligned. In a line that is not
aligned, it does not do so for every value. -/
theorem params_read_of_aligned (text : Str) :
    (∀ reader ∈ paramReaders,
      ((∀ l, Reached (someParam reader.2.2) (paramLines reader.2.1 text) l → Aligned reader.2.2 l) →
        reader.1 text = .ok (paramOf reader.2.1 reader.2.2 text)) ∧
      ∀ front occ, Leads reader.2.1 reader.2.2 front occ →
        ((∀ value, (∀ c ∈ value, paramStop c = false) → reader.1 (front ++ occ ++ value) =
            .ok (paramOf reader.2.1 reader.2.2 (front ++ occ ++ value))) ↔
          byteLen (toLowercase front) = byteLen front)) ∧
    (paramLines ["expires:".toList] text = [] →
      (∀ l, Reached (paramAt expiresStop "expires=".toList) (paramLines contactNames text) l →
        Aligned "expires=".toList l) →
      extractExpires text = .ok (contactExpiresOf text)) := by
  refine ⟨fun reader hreader => ?_, fun hnone halign => ?_⟩
  · have hall : ∀ (names : List Str) (key : Str), Plain key → key ≠ [] →
        (∀ c ∈ key, isWhitespace c = false) →
        ((∀ l, Reached (someParam key) (paramLines names text) l → Aligned key l) →
          paramFromLines names key (lines text) = .ok (paramOf names key text)) ∧
        ∀ front occ, Leads names key front occ →
          ((∀ value, (∀ c ∈ value, paramStop c = false) →
            paramFromLines names key (lines (front ++ occ ++ value)) =
              .ok (paramOf names key (front ++ occ ++ value))) ↔
            byteLen (toLowercase front) = byteLen front) :=
      fun names key hplain hne hkey => ⟨paramFromLines_of_aligned names hplain hne (lines text),
        fun front occ h => paramFromLines_iff hplain hne hkey h⟩
    simp only [paramReaders, List.mem_cons, List.not_mem_nil, or_false] at hreader
    rcases hreader with rfl | rfl | rfl
    · exact hall viaNames "branch=".toList (by decide) (by decide) (by decide)
    · exact hall fromNames "tag=".toList (by decide) (by decide) (by decide)
    · exact hall toNames "tag=".toList (by decide) (by decide) (by decide)
  · have hplain : ∀ p ∈ ["expires:".toList], Plain p := by decide
    have hvalue : valueFromLines ["expires:".toList] (lines text) = .ok none := by
      unfold paramLines at hnone
      revert hnone
      generalize lines text = ls
      intro hnone
      induction ls with
      | nil => rfl
      | cons line ls ih =>
        rw [List.map_cons, List.filter_cons] at hnone
        split at hnone
        · cases hnone
        · rename_i hname
          unfold valueFromLines
          rw [afterName_eq hplain]
          have hfield : headField ["expires:".toList] (trim line) = none := by
            refine Option.map_eq_none_iff.mpr (List.find?_eq_none.mpr fun p hp hstart => hname ?_)
            rw [decide_eq_true_eq, ← startsWith_toLowercase (trim line) (hplain p hp)] at hstart
            exact List.any_eq_true.mpr ⟨p, hp, decide_eq_true hstart⟩
          rw [hfield]
          exact ih hnone
    unfold extractExpires
    rw [hvalue]
    exact contactExpires_of_aligned (lines text) halign

/-- A name in capitals that keeps its length. -/
theorem params_read_concrete :
    extractFromTag "From: \"É\" <sip:1001@example.com>;tag=abc".toList =
      .ok (paramOf fromNames "tag=".toList "From: \"É\" <sip:1001@example.com>;tag=abc".toList) := by
  have hread : paramLines fromNames "From: \"É\" <sip:1001@example.com>;tag=abc".toList =
        ["From: \"É\" <sip:1001@example.com>;tag=abc".toList] ∧
      splitNoCase "tag=".toList "From: \"É\" <sip:1001@example.com>;tag=abc".toList =
        some ("From: \"É\" <sip:1001@example.com>;".toList, "tag=abc".toList) ∧
      byteLen (toLowercase "From: \"É\" <sip:1001@example.com>;".toList) =
        byteLen "From: \"É\" <sip:1001@example.com>;".toList := by decide +kernel
  obtain ⟨hheader, hcut, halign⟩ := hread
  have hreader := (params_read_of_aligned "From: \"É\" <sip:1001@example.com>;tag=abc".toList).1
    (extractFromTag, fromNames, "tag=".toList) (List.mem_cons_of_mem _ List.mem_cons_self)
  refine hreader.1 fun l hl => ?_
  dsimp only at hl
  rw [hheader, reached_cons] at hl
  rcases hl with rfl | ⟨-, before, after, hnil, -⟩
  · intro front rest hcut'
    cases hcut.symm.trans hcut'
    exact halign
  · simp at hnil

/-- **Two names in capitals that lower to other lengths**: the tag of the caller loses its first character,
and the one of the callee is looked for behind the end of the line. -/
theorem param_misread :
    extractFromTag "From: \"İ\" <sip:1001@example.com>;tag=abc".toList = .ok (some "bc".toList) ∧
      paramOf fromNames "tag=".toList "From: \"İ\" <sip:1001@example.com>;tag=abc".toList =
        some "abc".toList ∧
      extractToTag "To: \"İ\" <sip:1002@example.com>;tag=".toList = .error .panic := by
  decide +kernel

end Minghe.Sip
