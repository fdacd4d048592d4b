import Minghe.Lib.Lines
import Minghe.Lib.NoCase
import Minghe.Sip.Sdp

/-!
# Where the media of a description is sent

`extract_audio_media_addr_from_sdp` has one slot for the `c=` lines of the audio section, and one for all
others. So a `c=` line of another media section takes the place of the one of the session, and the address is
the wrong one unless the audio section has a `c=` line of its own.

Lines are read as the function reads them, without the white space around them. Of several `c=` lines in one
place the last one counts.

* `audio_addr_iff`: in a description with one audio section, the address is the one expected iff
  `Unshadowed` holds of it.
-/

namespace Minghe.Sip

open Minghe.Lib

/-- The host that a `c=` line names. -/
def hostOf (line : Str) : Option Str :=
  if "c=".toList <+: trim line then
    match splitWhitespace ((trim line).drop 2) with
    | net :: _ :: host :: _ => if eqIgnoreAsciiCase net "IN".toList then some host else none
    | _ => none
  else none

/-- The address that is written there, with a prefix length or a time to live behind it. -/
def hostIp (host : Str) : Option IpAddr := IpAddr.parse (upTo (· == '/') host)

/-- The last `c=` line. -/
def lastHost (ls : List Str) : Option Str := (ls.filterMap hostOf).getLast?

/-- The port of a `m=` line. -/
def mediaPort (line : Str) : Option Nat :=
  ((splitWhitespace (trim line))[1]?.bind (parseUnsigned 16)).filter fun port => port ≠ 0

/-- The sections of a text. -/
def mediaSections (sdp : Str) : List (Str × List Str) := sections (fun line => isMedia (trim line)) (lines sdp)

/-- What is in front of them. -/
def sessionPart (sdp : Str) : List Str := (lines sdp).takeWhile fun line => !isMedia (trim line)

/-- What is expected where `audio` is the audio section: the address of its own `c=` line, or that of the session. -/
def expectedAddr (sdp : Str) (audio : Str × List Str) : Option SocketAddr :=
  (((lastHost audio.2).or (lastHost (sessionPart sdp))).bind hostIp).bind fun ip =>
    (mediaPort audio.1).map fun port => SocketAddr.new ip (UInt16.ofNat port)

/-! ## The loop -/

theorem lastHost_append (ls ls' : List Str) : lastHost (ls ++ ls') = (lastHost ls').or (lastHost ls) := by
  unfold lastHost
  rw [List.filterMap_append, List.getLast?_append]

theorem AudioAddr.add_other {line : Str} (h : isMedia (trim line) = false) (a : AudioAddr) :
    a.add line = if a.inAudio then { a with audioAddr := (hostOf line).or a.audioAddr }
      else { a with sessionAddr := (hostOf line).or a.sessionAddr } := by
  have hnot : ¬ isMedia (trim line) = true := by simp [h]
  obtain ⟨sessionAddr, audioAddr, audioPort, inAudio⟩ := a
  unfold AudioAddr.add hostOf
  dsimp only
  by_cases hconnection : "c=".toList <+: trim line
  · rw [if_pos hconnection, if_pos hconnection]
    rcases splitWhitespace ((trim line).drop 2) with _ | ⟨net, _ | ⟨kind, _ | ⟨host, words⟩⟩⟩
    · cases inAudio <;> rfl
    · cases inAudio <;> rfl
    · cases inAudio <;> rfl
    · dsimp only
      cases eqIgnoreAsciiCase net "IN".toList <;> cases inAudio <;> rfl
  · rw [if_neg hconnection, if_neg hconnection, if_neg hnot]
    cases inAudio <;> rfl

theorem AudioAddr.add_media {line : Str} (h : isMedia (trim line) = true) (a : AudioAddr) :
    a.add line = if isAudio (trim line) then { a with inAudio := true, audioPort := mediaPort line }
      else { a with inAudio := false } := by
  have hconnection : ¬ "c=".toList <+: trim line := by
    obtain ⟨rest, hline⟩ := of_decide_eq_true h
    rw [← hline]
    exact not_prefix_append (by decide) rest
  unfold AudioAddr.add
  dsimp only
  rw [if_neg hconnection, if_pos h]
  rfl

/-- Lines of one section. -/
theorem AudioAddr.foldl_body : ∀ {body : List Str} (a : AudioAddr), (∀ line ∈ body, isMedia (trim line) = false) →
    body.foldl AudioAddr.add a = if a.inAudio then { a with audioAddr := (lastHost body).or a.audioAddr }
      else { a with sessionAddr := (lastHost body).or a.sessionAddr }
  | [], ⟨_, _, _, inAudio⟩, _ => by cases inAudio <;> rfl
  | line :: body, a, h => by
    have ih := fun a => AudioAddr.foldl_body a fun l hl => h l (List.mem_cons_of_mem _ hl)
    have hlast : lastHost (line :: body) = (lastHost body).or (hostOf line) := by
      rw [show line :: body = [line] ++ body from rfl, lastHost_append]
      cases hhost : hostOf line <;> simp [lastHost, hhost]
    rw [List.foldl_cons, ih, AudioAddr.add_other (h line List.mem_cons_self), hlast]
    obtain ⟨sessionAddr, audioAddr, audioPort, inAudio⟩ := a
    cases inAudio <;> simp [Option.or_assoc]

/-- Sections of other media. -/
theorem AudioAddr.foldl_others : ∀ {parts : List (Str × List Str)} (a : AudioAddr),
    (∀ part ∈ parts, isMedia (trim part.1) = true ∧ ∀ line ∈ part.2, isMedia (trim line) = false) →
    (∀ part ∈ parts, isAudio (trim part.1) = false) →
    ∃ inAudio, (joinSections parts).foldl AudioAddr.add a = { a with
      inAudio := inAudio
      sessionAddr := (lastHost (parts.flatMap Prod.snd)).or a.sessionAddr }
  | [], a, _, _ => ⟨a.inAudio, rfl⟩
  | part :: parts, a, h, hother => by
    obtain ⟨hline, hbody⟩ := h part List.mem_cons_self
    have hvideo : ¬ isAudio (trim part.1) = true := by simp [hother part List.mem_cons_self]
    rw [joinSections_cons, List.foldl_cons, List.foldl_append, AudioAddr.add_media hline, if_neg hvideo,
      AudioAddr.foldl_body _ hbody, if_neg Bool.false_ne_true]
    obtain ⟨inAudio, ih⟩ := AudioAddr.foldl_others { a with
      inAudio := false
      sessionAddr := (lastHost part.2).or a.sessionAddr } (fun q hq => h q (List.mem_cons_of_mem _ hq))
      fun q hq => hother q (List.mem_cons_of_mem _ hq)
    refine ⟨inAudio, ih.trans ?_⟩
    rw [List.flatMap_cons, lastHost_append, Option.or_assoc]

/-! ## The result -/

section

variable {sdp : Str} {before after : List (Str × List Str)} {audio : Str × List Str}

/-- **What the function returns**: other sections count like the session. -/
theorem extract_eq (hsections : mediaSections sdp = before ++ audio :: after) (haudio : isAudio (trim audio.1) = true)
    (hother : ∀ part ∈ before ++ after, isAudio (trim part.1) = false) :
    extractAudioMediaAddrFromSdp sdp =
      (((lastHost audio.2).or ((lastHost ((before ++ after).flatMap Prod.snd)).or
        (lastHost (sessionPart sdp)))).bind fun host =>
          (mediaPort audio.1).bind fun port => (hostIp host).map fun ip => SocketAddr.new ip (UInt16.ofNat port)) := by
  have hvalid : ∀ part ∈ before ++ audio :: after,
      isMedia (trim part.1) = true ∧ ∀ line ∈ part.2, isMedia (trim line) = false := fun part hpart =>
    of_mem_sections (p := fun line => isMedia (trim line)) (hsections.symm ▸ hpart)
  obtain ⟨hline, hbody⟩ := hvalid audio (by simp)
  have hlines : lines sdp = sessionPart sdp ++ joinSections before ++ (audio.1 :: (audio.2 ++ joinSections after)) := by
    have h := takeWhile_append_joinSections (p := fun line => isMedia (trim line)) (lines sdp)
    rw [show sections (fun line => isMedia (trim line)) (lines sdp) = before ++ audio :: after from hsections] at h
    rw [← h]
    simp [joinSections, sessionPart]
  obtain ⟨inAudio, hbefore⟩ := AudioAddr.foldl_others { sessionAddr := lastHost (sessionPart sdp) }
    (fun part hpart => hvalid part (List.mem_append_left _ hpart))
    fun part hpart => hother part (List.mem_append_left _ hpart)
  have hbehind : ∀ part ∈ after, isMedia (trim part.1) = true ∧ ∀ line ∈ part.2, isMedia (trim line) = false :=
    fun part hpart => hvalid part (by simp [hpart])
  obtain ⟨inAudio', hafter⟩ := AudioAddr.foldl_others
    ⟨(lastHost (before.flatMap Prod.snd)).or (lastHost (sessionPart sdp)), lastHost audio.2, mediaPort audio.1, true⟩
    hbehind fun part hpart => hother part (List.mem_append_right _ hpart)
  have hloop : (lines sdp).foldl AudioAddr.add {} =
      ⟨(lastHost (after.flatMap Prod.snd)).or ((lastHost (before.flatMap Prod.snd)).or (lastHost (sessionPart sdp))),
        lastHost audio.2, mediaPort audio.1, inAudio'⟩ := by
    have hfront : (sessionPart sdp).foldl AudioAddr.add {} = { sessionAddr := lastHost (sessionPart sdp) } := by
      have hplain : ∀ line ∈ sessionPart sdp, isMedia (trim line) = false := fun line hline =>
        eq_false_of_mem_takeWhile (p := fun line => isMedia (trim line)) hline
      rw [AudioAddr.foldl_body {} hplain, if_neg Bool.false_ne_true, Option.or_none]
    conv_lhs => rw [hlines, List.foldl_append, List.foldl_append, hfront, hbefore, List.foldl_cons, List.foldl_append]
    rw [AudioAddr.add_media hline, if_pos haudio, AudioAddr.foldl_body _ hbody, if_pos rfl, Option.or_none]
    exact hafter
  unfold extractAudioMediaAddrFromSdp
  dsimp only
  rw [hloop, List.flatMap_append, lastHost_append, Option.or_assoc]
  rfl

/-- Where every `c=` line carries an address, the last one does. -/
theorem exists_ip (hconnection : ∀ line ∈ lines sdp, "c=".toList <+: trim line →
      ((hostOf line).bind hostIp).isSome = true) {ls : List Str} (hls : ls ⊆ lines sdp) {host : Str}
    (h : lastHost ls = some host) : ∃ ip, hostIp host = some ip := by
  obtain ⟨line, hline, hhost⟩ := List.mem_filterMap.mp (List.mem_of_getLast? h)
  have hstart : "c=".toList <+: trim line := by
    by_contra hnot
    rw [hostOf, if_neg hnot] at hhost
    cases hhost
  have hip := hconnection line (hls hline) hstart
  rw [hhost] at hip
  exact Option.isSome_iff_exists.mp hip

/-- The audio section has a `c=` line, or no other section has one, or the last of theirs names the address of
the session. -/
def Unshadowed (sdp : Str) (audio : Str × List Str) (others : List (Str × List Str)) : Prop :=
  (lastHost audio.2).isSome = true ∨ lastHost (others.flatMap Prod.snd) = none ∨
    (lastHost (others.flatMap Prod.snd)).bind hostIp = (lastHost (sessionPart sdp)).bind hostIp

/-- **The address is the right one** exactly in these cases. -/
theorem audio_addr_iff (sdp : Str) (before after : List (Str × List Str)) (audio : Str × List Str)
    (hsections : mediaSections sdp = before ++ audio :: after) (haudio : isAudio (trim audio.1) = true)
    (hother : ∀ part ∈ before ++ after, isAudio (trim part.1) = false)
    (hport : (mediaPort audio.1).isSome = true)
    (hconnection : ∀ line ∈ lines sdp, "c=".toList <+: trim line → ((hostOf line).bind hostIp).isSome = true) :
    extractAudioMediaAddrFromSdp sdp = expectedAddr sdp audio ↔ Unshadowed sdp audio (before ++ after) := by
  obtain ⟨port, hport⟩ := Option.isSome_iff_exists.mp hport
  have hothers : (before ++ after).flatMap Prod.snd ⊆ lines sdp := by
    intro line hline
    obtain ⟨part, hpart, hline⟩ := List.mem_flatMap.mp hline
    have hmem : part ∈ mediaSections sdp := by
      rw [hsections]
      exact (List.mem_append.mp hpart).elim (List.mem_append_left _) fun h =>
        List.mem_append_right _ (List.mem_cons_of_mem _ h)
    exact (sublist_of_mem_sections hmem).subset hline
  have hsession : sessionPart sdp ⊆ lines sdp := List.takeWhile_subset _
  rw [extract_eq hsections haudio hother, expectedAddr, Unshadowed, hport]
  cases hown : lastHost audio.2 with
  | some host =>
    refine iff_of_true ?_ (.inl rfl)
    simp only [Option.some_or, Option.bind_some, Option.map_some]
    cases hostIp host <;> rfl
  | none =>
    rw [Option.none_or, Option.none_or]
    cases hshadow : lastHost ((before ++ after).flatMap Prod.snd) with
    | none =>
      refine iff_of_true ?_ (.inr (.inl rfl))
      rw [Option.none_or]
      cases lastHost (sessionPart sdp) with
      | none => rfl
      | some host =>
        simp only [Option.bind_some, Option.map_some]
        cases hostIp host <;> rfl
    | some host =>
      obtain ⟨ip, hip⟩ := exists_ip hconnection hothers hshadow
      rw [Option.some_or]
      simp only [Option.bind_some, Option.map_some, hip, Option.isSome_none, Bool.false_eq_true, false_or,
        reduceCtorEq]
      cases hown' : (lastHost (sessionPart sdp)).bind hostIp with
      | none => simp
      | some ip' => simpa using SocketAddr.new_inj

end

/-- The audio section has its own address, between those of the session and of two other sections. -/
theorem audio_addr_concrete :
    extractAudioMediaAddrFromSdp ("c=IN IP4 10.0.0.1\r\nm=video 5000 RTP/AVP 99\r\nc=IN IP4 10.0.0.2\r\n" ++
        "m=audio 4000 RTP/AVP 0\r\nc=IN IP4 10.0.0.3\r\nm=text 6000 RTP/AVP 98\r\nc=IN IP6 fe80::1\r\n").toList =
      expectedAddr ("c=IN IP4 10.0.0.1\r\nm=video 5000 RTP/AVP 99\r\nc=IN IP4 10.0.0.2\r\n" ++
        "m=audio 4000 RTP/AVP 0\r\nc=IN IP4 10.0.0.3\r\nm=text 6000 RTP/AVP 98\r\nc=IN IP6 fe80::1\r\n").toList
        ("m=audio 4000 RTP/AVP 0".toList, ["c=IN IP4 10.0.0.3".toList]) :=
  (audio_addr_iff _ [("m=video 5000 RTP/AVP 99".toList, ["c=IN IP4 10.0.0.2".toList])]
    [("m=text 6000 RTP/AVP 98".toList, ["c=IN IP6 fe80::1".toList])] _
    (by decide +kernel) (by decide +kernel) (by decide +kernel) (by decide +kernel) (by decide +kernel)).mpr
    (.inl (by decide +kernel))

/-- The media goes to the host of the video section. -/
theorem video_addr_taken :
    extractAudioMediaAddrFromSdp
      "c=IN IP4 10.0.0.1\r\nm=audio 4000 RTP/AVP 0\r\nm=video 5000 RTP/AVP 99\r\nc=IN IP4 10.0.0.2\r\n".toList =
        some (.v4 #v[10, 0, 0, 2] 4000) ∧
    expectedAddr
      "c=IN IP4 10.0.0.1\r\nm=audio 4000 RTP/AVP 0\r\nm=video 5000 RTP/AVP 99\r\nc=IN IP4 10.0.0.2\r\n".toList
      ("m=audio 4000 RTP/AVP 0".toList, []) = some (.v4 #v[10, 0, 0, 1] 4000) := by
  decide +kernel

end Minghe.Sip
