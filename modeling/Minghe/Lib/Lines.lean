import Mathlib.Data.List.Flatten
import Minghe.Lib.Text

/-!
# Texts made of lines

A text is the lines it ends with `"\n"` and what is left (`rawLines_eq`). What `lines` reads from a
text that is put together from lines, and where the first empty line of such a text is.

Results:
* `lines_append`: behind a line end the lines start over.
* `lines_flatMap_crlf`, `lines_intercalate_crlf`: the lines that a text was written with are read back.
* `splitAtFirst_blank`: the first empty line of a text is behind its first non-empty lines.
-/

namespace Minghe.Lib

/-- `"\r\n"`. -/
def crlf : Str := "\r\n".toList

theorem crlf_eq : crlf = ['\r', '\n'] := rfl

/-! ## Cutting a text into lines -/

theorem rawLines_eq : ∀ s : Str, s = (rawLines s).1.flatMap (· ++ ['\n']) ++ (rawLines s).2
  | [] => rfl
  | c :: s => by
    have ih := rawLines_eq s
    rw [rawLines]
    split
    · rename_i hc
      rw [hc, List.flatMap_cons]
      simpa using ih
    · split
      · rename_i hs
        rw [hs] at ih
        simpa using ih
      · rename_i hs
        rw [hs] at ih
        simpa using ih

theorem rawLines_not_mem : ∀ s : Str,
    (∀ l ∈ (rawLines s).1, '\n' ∉ l) ∧ '\n' ∉ (rawLines s).2
  | [] => by simp [rawLines]
  | c :: s => by
    have ih := rawLines_not_mem s
    rw [rawLines]
    split
    · simpa using ih
    · rename_i hc
      split
      · rename_i hs
        rw [hs] at ih
        simpa [Ne.symm hc] using ih
      · rename_i hs
        rw [hs] at ih
        simpa [Ne.symm hc] using ih

theorem rawLines_flatMap : ∀ {ls : List Str} (s : Str), (∀ l ∈ ls, '\n' ∉ l) →
    rawLines (ls.flatMap (· ++ ['\n']) ++ s) = (ls ++ (rawLines s).1, (rawLines s).2)
  | [], _, _ => rfl
  | l :: ls, s, h => by
    have ih := rawLines_flatMap s fun l' hl => h l' (List.mem_cons_of_mem _ hl)
    rw [List.flatMap_cons, List.append_assoc, List.append_assoc, List.singleton_append,
      rawLines_append _ (h l List.mem_cons_self), ih]
    rfl

theorem rawLines_append_lf (h s : Str) :
    rawLines (h ++ '\n' :: s) = ((rawLines h).1 ++ (rawLines h).2 :: (rawLines s).1, (rawLines s).2) := by
  obtain ⟨h1, h2⟩ := rawLines_not_mem h
  conv_lhs => rw [rawLines_eq h, List.append_assoc]
  rw [rawLines_flatMap _ h1, rawLines_append _ h2]

/-- **Behind a line end the lines start over.** -/
theorem lines_append (h s : Str) : lines (h ++ '\n' :: s) = lines (h ++ ['\n']) ++ lines s := by
  rw [lines, lines, lines, rawLines_append_lf, rawLines_append_lf]
  simp [rawLines]

theorem mem_stripCr {c : Char} {l : Str} (h : c ∈ stripCr l) : c ∈ l := by
  unfold stripCr at h
  split at h
  · exact List.mem_of_mem_dropLast h
  · exact h

theorem not_mem_of_mem_lines {s l : Str} (h : l ∈ lines s) : '\n' ∉ l := by
  obtain ⟨h1, h2⟩ := rawLines_not_mem s
  rw [lines, List.mem_append] at h
  rcases h with h | h
  · obtain ⟨l', hl, rfl⟩ := List.mem_map.mp h
    exact fun hc => h1 l' hl (mem_stripCr hc)
  · split at h
    · cases h
    · rw [List.mem_singleton] at h
      rwa [h]

/-- A line is a part of the text. -/
theorem mem_of_mem_lines {s l : Str} {c : Char} (h : l ∈ lines s) (hc : c ∈ l) : c ∈ s := by
  rw [rawLines_eq s, List.mem_append]
  rw [lines, List.mem_append] at h
  rcases h with h | h
  · obtain ⟨l', hl, rfl⟩ := List.mem_map.mp h
    exact .inl (List.mem_flatMap.mpr ⟨l', hl, List.mem_append_left _ (mem_stripCr hc)⟩)
  · split at h
    · cases h
    · exact .inr (List.mem_singleton.mp h ▸ hc)

/-- A line end behind a text adds no line, or an empty one. -/
theorem lines_append_crlf (h : Str) :
    lines (h ++ crlf) = lines h ∨ lines (h ++ crlf) = lines h ++ [[]] := by
  obtain ⟨h1, h2⟩ := rawLines_not_mem h
  have hcut : lines (h ++ crlf) = (rawLines h).1.map stripCr ++ [(rawLines h).2] := by
    have hr : '\n' ∉ (rawLines h).2 ++ ['\r'] := by simp [h2]
    conv_lhs => rw [rawLines_eq h, crlf_eq, List.append_assoc, lines, rawLines_flatMap _ h1]
    rw [show (rawLines h).2 ++ ['\r', '\n'] = ((rawLines h).2 ++ ['\r']) ++ '\n' :: [] by simp,
      rawLines_append _ hr]
    simp [rawLines, stripCr_append]
  rw [hcut, lines]
  split
  · rename_i hnil
    rw [hnil]
    exact .inr (by simp)
  · exact .inl rfl

/-! ## Texts written line by line -/

/-- **The lines that a text was written with are read back.** -/
theorem lines_flatMap_crlf : ∀ {ls : List Str} (s : Str), (∀ l ∈ ls, '\n' ∉ l) →
    lines (ls.flatMap (· ++ crlf) ++ s) = ls ++ lines s
  | [], _, _ => rfl
  | l :: ls, s, h => by
    have ih := lines_flatMap_crlf s fun l' hl => h l' (List.mem_cons_of_mem _ hl)
    rw [List.flatMap_cons, List.append_assoc, List.append_assoc, crlf_eq]
    exact (lines_crlf _ (h l List.mem_cons_self)).trans (congrArg _ ih)

/-- Lines that are joined, with a line end behind the last of them. -/
theorem intercalate_crlf : ∀ {ls : List Str}, ls ≠ [] →
    crlf.intercalate ls ++ crlf = ls.flatMap (· ++ crlf)
  | [l], _ => by simp
  | l :: l' :: ls, _ => by
    have ih := intercalate_crlf (List.cons_ne_nil l' ls)
    rw [List.intercalate_cons_cons, List.append_assoc, ih]
    rfl

/-- Joined lines with a line end behind the last of them are read back. -/
theorem lines_intercalate_crlf {ls : List Str} (hne : ls ≠ []) (h : ∀ l ∈ ls, '\n' ∉ l) :
    lines (crlf.intercalate ls ++ crlf) = ls := by
  have hread := lines_flatMap_crlf [] h
  rwa [List.append_nil, lines_nil, List.append_nil, ← intercalate_crlf hne] at hread

/-- A line that is joined behind others. -/
theorem intercalate_concat (init : List Str) (last : Str) :
    crlf.intercalate (init ++ [last]) = init.flatMap (· ++ crlf) ++ last := by
  induction init with
  | nil => simp
  | cons l init ih =>
    cases init with
    | nil => simp
    | cons l' init =>
      rw [List.cons_append, List.cons_append, List.intercalate_cons_cons, ← List.cons_append, ih]
      simp

/-- Further lines behind joined ones. -/
theorem intercalate_append {ls : List Str} (hne : ls ≠ []) (more : List Str) :
    crlf.intercalate (ls ++ more) = crlf.intercalate ls ++ more.flatMap (crlf ++ ·) := by
  induction more using List.reverseRecOn with
  | nil => simp
  | append_singleton more l ih =>
    have hjoined : ls ++ more ≠ [] := by simp [hne]
    rw [← List.append_assoc, intercalate_concat, ← intercalate_crlf hjoined, ih]
    simp

/-! ## Sections -/

section

variable {A : Type} {p : A → Bool}

/-- A list in sections: each element that satisfies `p`, with those up to the next one. What is in front
of the first is in none. -/
def sections (p : A → Bool) : List A → List (A × List A)
  | [] => []
  | a :: as => if p a then (a, as.takeWhile fun b => !p b) :: sections p as else sections p as

theorem sections_cons_of_pos {a : A} (h : p a = true) (as : List A) :
    sections p (a :: as) = (a, as.takeWhile fun b => !p b) :: sections p as := if_pos h

/-- What is in front of the first section. -/
theorem sections_append : ∀ {as : List A} (bs : List A), (∀ a ∈ as, p a = false) →
    sections p (as ++ bs) = sections p bs
  | [], _, _ => rfl
  | a :: as, bs, h => by
    have ih := sections_append bs fun b hb => h b (List.mem_cons_of_mem _ hb)
    exact (if_neg (by simp [h a List.mem_cons_self])).trans ih

/-- A section is a part of the list. -/
theorem sublist_of_mem_sections {part : A × List A} : ∀ {as : List A}, part ∈ sections p as →
    List.Sublist part.2 as
  | a :: as, h => by
    rw [sections] at h
    split at h
    · rcases List.mem_cons.mp h with rfl | h
      · exact (List.takeWhile_sublist _).cons _
      · exact (sublist_of_mem_sections h).cons _
    · exact (sublist_of_mem_sections h).cons _

theorem mem_of_mem_sections {part : A × List A} : ∀ {as : List A}, part ∈ sections p as → part.1 ∈ as
  | a :: as, h => by
    rw [sections] at h
    split at h
    · rcases List.mem_cons.mp h with rfl | h
      · exact List.mem_cons_self
      · exact List.mem_cons_of_mem _ (mem_of_mem_sections h)
    · exact List.mem_cons_of_mem _ (mem_of_mem_sections h)

/-- There is a section for each element that satisfies `p`. -/
theorem exists_section {a : A} (ha : p a = true) : ∀ {as : List A}, a ∈ as → ∃ part ∈ sections p as, part.1 = a
  | b :: as, h => by
    rcases List.mem_cons.mp h with rfl | h
    · exact ⟨_, sections_cons_of_pos ha as ▸ List.mem_cons_self, rfl⟩
    · obtain ⟨part, hpart, he⟩ := exists_section ha h
      refine ⟨part, ?_, he⟩
      rw [sections]
      split
      · exact List.mem_cons_of_mem _ hpart
      · exact hpart

theorem takeWhile_section {as : List A} (bs : List A) (h : ∀ a ∈ as, p a = false) :
    (as ++ bs).takeWhile (fun b => !p b) = as ++ bs.takeWhile fun b => !p b :=
  List.takeWhile_append_of_pos fun a ha => by rw [h a ha]; rfl

/-- What is in front of the first section, and what is in a section. -/
theorem eq_false_of_mem_takeWhile {as : List A} {a : A} (h : a ∈ as.takeWhile fun b => !p b) : p a = false := by
  simpa using List.mem_takeWhile_imp h

theorem of_mem_sections {part : A × List A} : ∀ {as : List A}, part ∈ sections p as →
    p part.1 = true ∧ ∀ a ∈ part.2, p a = false
  | a :: as, h => by
    rw [sections] at h
    split at h
    · rename_i ha
      rcases List.mem_cons.mp h with rfl | h
      · exact ⟨ha, fun b hb => eq_false_of_mem_takeWhile hb⟩
      · exact of_mem_sections h
    · exact of_mem_sections h

/-- Sections put into one list again. -/
def joinSections (parts : List (A × List A)) : List A := parts.flatMap fun part => part.1 :: part.2

theorem joinSections_cons (part : A × List A) (parts : List (A × List A)) :
    joinSections (part :: parts) = part.1 :: (part.2 ++ joinSections parts) := List.flatMap_cons

/-- **A list is what is in front of its sections, and its sections.** -/
theorem takeWhile_append_joinSections : ∀ as : List A,
    (as.takeWhile fun a => !p a) ++ joinSections (sections p as) = as
  | [] => rfl
  | a :: as => by
    have ih := takeWhile_append_joinSections as
    rw [sections]
    by_cases ha : p a = true
    · rw [if_pos ha, List.takeWhile_cons_of_neg (by simp [ha]), joinSections_cons, ih]
      rfl
    · rw [if_neg ha, List.takeWhile_cons_of_pos (by simp [ha]), List.cons_append, ih]

theorem takeWhile_joinSections {parts : List (A × List A)} (h : ∀ part ∈ parts, p part.1 = true) :
    (joinSections parts).takeWhile (fun a => !p a) = [] := by
  cases parts with
  | nil => rfl
  | cons part parts =>
    rw [joinSections_cons]
    exact List.takeWhile_cons_of_neg (by simp [h part List.mem_cons_self])

/-- **The sections of a list that is put together from sections.** -/
theorem sections_joinSections : ∀ {parts : List (A × List A)},
    (∀ part ∈ parts, p part.1 = true ∧ ∀ a ∈ part.2, p a = false) → sections p (joinSections parts) = parts
  | [], _ => rfl
  | part :: parts, h => by
    have ih := sections_joinSections fun q hq => h q (List.mem_cons_of_mem _ hq)
    obtain ⟨hhead, hbody⟩ := h part List.mem_cons_self
    rw [joinSections_cons, sections_cons_of_pos hhead, takeWhile_section _ hbody,
      takeWhile_joinSections fun q hq => (h q (List.mem_cons_of_mem _ hq)).1, List.append_nil,
      sections_append _ hbody, ih]

/-- Sections of a list of images. -/
theorem sections_map {B : Type} (f : B → A) : ∀ bs : List B, sections p (bs.map f) =
    (sections (fun b => p (f b)) bs).map fun part => (f part.1, part.2.map f)
  | [] => rfl
  | b :: bs => by
    have ih := sections_map f bs
    have hbody : (bs.map f).takeWhile (fun a => !p a) = (bs.takeWhile fun b => !p (f b)).map f := List.takeWhile_map ..
    rw [List.map_cons, sections, sections, ih, hbody]
    split <;> rfl

/-- What is put behind a list is in its last section. -/
theorem sections_concat {as bs : List A} {before : List (A × List A)} {part : A × List A}
    (h : sections p as = before ++ [part]) (hbs : ∀ b ∈ bs, p b = false) :
    sections p (as ++ bs) = before ++ [(part.1, part.2 ++ bs)] := by
  have hmem : ∀ q ∈ before ++ [part], p q.1 = true ∧ ∀ a ∈ q.2, p a = false := fun q hq =>
    of_mem_sections (h.symm ▸ hq)
  have hvalid : ∀ q ∈ before ++ [(part.1, part.2 ++ bs)], p q.1 = true ∧ ∀ a ∈ q.2, p a = false := by
    intro q hq
    rcases List.mem_append.mp hq with hq | hq
    · exact hmem q (List.mem_append_left _ hq)
    · obtain ⟨hhead, hbody⟩ := hmem part (by simp)
      rw [List.mem_singleton.mp hq]
      exact ⟨hhead, fun a ha => (List.mem_append.mp ha).elim (hbody a) (hbs a)⟩
  have hlist := takeWhile_append_joinSections (p := p) as
  rw [h] at hlist
  rw [← hlist, List.append_assoc, sections_append _ fun a ha => eq_false_of_mem_takeWhile ha]
  refine Eq.trans (congrArg _ ?_) (sections_joinSections hvalid)
  simp [joinSections]

/-- Lists put together from parts of other lists: they are the same only if no part is smaller. -/
theorem flatMap_inj_of_sublist {B : Type} {f g : A → List B} : ∀ {as : List A},
    (∀ a ∈ as, (f a).Sublist (g a)) → as.flatMap f = as.flatMap g → ∀ a ∈ as, f a = g a
  | [], _, _ => nofun
  | a :: as, h, he => by
    have hhead := h a List.mem_cons_self
    have htail : (as.flatMap f).Sublist (as.flatMap g) :=
      List.Sublist.flatMap_right as fun b hb => h b (List.mem_cons_of_mem _ hb)
    rw [List.flatMap_cons, List.flatMap_cons] at he
    have hlen := congrArg List.length he
    rw [List.length_append, List.length_append] at hlen
    have hfirst := hhead.length_le
    have hrest := htail.length_le
    have hsame := hhead.eq_of_length (by omega)
    have hothers := htail.eq_of_length (by omega)
    have ih := flatMap_inj_of_sublist (fun b hb => h b (List.mem_cons_of_mem _ hb)) hothers
    intro b hb
    rcases List.mem_cons.mp hb with rfl | hb
    · exact hsame
    · exact ih b hb

end

/-! ## The first empty line -/

/-- The search for an empty line goes past a line unless the next one is empty. -/
theorem splitAtFirst_line : ∀ {l : Str} (s : Str), '\n' ∉ l →
    splitAtFirst (crlf ++ crlf) (l ++ crlf ++ s) =
      if crlf <+: s then some (l, crlf ++ s)
      else (splitAtFirst (crlf ++ crlf) s).map fun p => (l ++ crlf ++ p.1, p.2)
  | [], s, _ => by
    have hfirst : crlf ++ crlf <+: crlf ++ s ↔ crlf <+: s := List.prefix_append_right_inj crlf
    have hsecond : ¬ crlf ++ crlf <+: '\n' :: s := by simp [crlf_eq]
    split
    · rename_i h
      rw [List.nil_append, splitAtFirst_of_head (hfirst.mpr h)]
    · rename_i h
      rw [List.nil_append]
      conv_lhs => rw [show crlf ++ s = '\r' :: '\n' :: s from rfl, splitAtFirst]
      rw [if_neg (c := crlf ++ crlf <+: '\r' :: '\n' :: s) (fun hc => h (hfirst.mp hc)),
        splitAtFirst, if_neg hsecond, Option.map_map]
      rfl
  | c :: l, s, h => by
    rw [List.mem_cons, not_or] at h
    have ih := splitAtFirst_line s h.2
    -- the character behind `c` is no line feed
    have hnot : ¬ crlf ++ crlf <+: c :: (l ++ crlf ++ s) := by
      cases l with
      | nil => simp [crlf_eq]
      | cons d l =>
        rintro ⟨x, hc⟩
        have hd : '\n' = d := by
          simp only [crlf_eq, List.cons_append, List.cons.injEq] at hc
          exact hc.2.1
        exact h.2 (by rw [hd]; exact List.mem_cons_self)
    rw [List.cons_append, List.cons_append, splitAtFirst, if_neg hnot, ih]
    split
    · rfl
    · rw [Option.map_map]
      rfl

/-- **The first empty line of a text is behind its first non-empty lines.** -/
theorem splitAtFirst_blank : ∀ {ls : List Str} (s : Str), ls ≠ [] → (∀ l ∈ ls, '\n' ∉ l) →
    (∀ l ∈ ls, l ≠ []) →
    splitAtFirst (crlf ++ crlf) (ls.flatMap (· ++ crlf) ++ crlf ++ s) =
      some (crlf.intercalate ls, crlf ++ crlf ++ s)
  | [l], s, _, h, _ => by
    have := splitAtFirst_line (crlf ++ s) (h l List.mem_cons_self)
    rw [if_pos (List.prefix_append crlf s)] at this
    simpa using this
  | l :: l' :: ls, s, _, h, hne => by
    have ih := splitAtFirst_blank s (List.cons_ne_nil l' ls)
      (fun x hx => h x (List.mem_cons_of_mem _ hx)) (fun x hx => hne x (List.mem_cons_of_mem _ hx))
    have hnot : ¬ crlf <+: (l' :: ls).flatMap (· ++ crlf) ++ crlf ++ s := by
      have hl' := h l' (by simp)
      cases l' with
      | nil => exact absurd rfl (hne [] (by simp))
      | cons c l' =>
        -- the next line starts with a character, and goes on with one or with its line end
        cases l' with
        | nil => simp [crlf_eq]
        | cons d l' =>
          rintro ⟨x, hc⟩
          have hd : '\n' = d := by
            simp only [crlf_eq, List.flatMap_cons, List.cons_append, List.cons.injEq] at hc
            exact hc.2.1
          exact hl' (by rw [hd]; simp)
    have hline := splitAtFirst_line ((l' :: ls).flatMap (· ++ crlf) ++ crlf ++ s)
      (h l List.mem_cons_self)
    rw [if_neg hnot, ih] at hline
    rw [List.flatMap_cons, List.intercalate_cons_cons]
    simpa [List.append_assoc] using hline

end Minghe.Lib
